/-!
# UTF-8 text

`next b rest` looks at the byte sequence that starts with `b` and says which character it
encodes, if any, and how many bytes of `rest` belong to it.  An ill-formed sequence takes its
maximal subpart: the longest piece that begins some well-formed sequence, at least one byte.

    decode?      the characters, if every sequence is well formed
    decodeLossy  the same, with U+FFFD for each ill-formed sequence
    encode       the bytes of a list of characters
-/

namespace PluginHost.Utf8

/-! ## Algorithm -/

/-- The bytes allowed after `lead`, and how many bytes follow it in all. -/
def continuation (lead : UInt8) : Option (Nat × UInt8 × UInt8) :=
  if lead < 0xC2 then none
  else if lead < 0xE0 then some (1, 0x80, 0xBF)
  else if lead = 0xE0 then some (2, 0xA0, 0xBF)
  else if lead = 0xED then some (2, 0x80, 0x9F)
  else if lead < 0xF0 then some (2, 0x80, 0xBF)
  else if lead = 0xF0 then some (3, 0x90, 0xBF)
  else if lead < 0xF4 then some (3, 0x80, 0xBF)
  else if lead = 0xF4 then some (3, 0x80, 0x8F)
  else none

/-- Reads `n` bytes between `lo` and `hi` (from the second byte on between 0x80 and 0xBF),
adding six bits each to `code`; gives the code if all were there, and the number read. -/
def tail : Nat → UInt8 → UInt8 → Nat → List UInt8 → Option Nat × Nat
  | 0, _, _, code, _ => (some code, 0)
  | _ + 1, _, _, _, [] => (none, 0)
  | n + 1, lo, hi, code, b :: rest =>
    if lo ≤ b ∧ b ≤ hi then
      let (r, k) := tail n 0x80 0xBF (code * 64 + (b &&& 0x3F).toNat) rest
      (r, k + 1)
    else (none, 0)

/-- The bits of the code point that the first byte of a sequence of `n + 1` bytes carries. -/
def leadBits (n : Nat) (lead : UInt8) : Nat :=
  match n with
  | 1 => (lead &&& 0x1F).toNat
  | 2 => (lead &&& 0x0F).toNat
  | _ => (lead &&& 0x07).toNat

/-- The character that starts with `b`, if any, and the number of bytes of `rest` it takes. -/
def next (b : UInt8) (rest : List UInt8) : Option Char × Nat :=
  if b < 0x80 then (some (Char.ofNat b.toNat), 0)
  else
    match continuation b with
    | none => (none, 0)
    | some (n, lo, hi) =>
      let (code, k) := tail n lo hi (leadBits n b) rest
      (code.map Char.ofNat, k)

/-- The characters of a byte list, if it is well formed throughout. -/
def decode? : List UInt8 → Option (List Char)
  | [] => some []
  | b :: rest =>
    match next b rest with
    | (none, _) => none
    | (some c, k) => (decode? (rest.drop k)).map (c :: ·)
termination_by bs => bs.length
decreasing_by simp only [List.length_drop, List.length_cons]; omega

/-- The characters of a byte list, U+FFFD standing for each ill-formed sequence. -/
def decodeLossy : List UInt8 → List Char
  | [] => []
  | b :: rest => (next b rest).1.getD (Char.ofNat 0xFFFD) :: decodeLossy (rest.drop (next b rest).2)
termination_by bs => bs.length
decreasing_by simp only [List.length_drop, List.length_cons]; omega

/-- The bytes of a list of characters. -/
def encode (cs : List Char) : List UInt8 :=
  cs.flatMap String.utf8EncodeChar

def ofString (s : String) : List UInt8 :=
  encode s.toList

def string? (bs : List UInt8) : Option String :=
  (decode? bs).map String.ofList

/-- The text of a byte list, with U+FFFD for what is ill formed. -/
def stringLossy (bs : List UInt8) : String :=
  String.ofList (decodeLossy bs)

end PluginHost.Utf8
