import PluginHost.Text.Utf8

/-!
# Argument vectors

Texts cross the boundary to a library as a counted vector of pointers to bytes ended by a zero.
A text is cut at its first zero character; one that has a zero inside even so would be handed over
as the empty text.  On the other side the first `count` pointers are read, null ones skipped, and
the bytes before the first zero taken for UTF-8, with U+FFFD for what is not.
-/

namespace PluginHost

/-- A counted vector of pointers to bytes; a null pointer is `none`. -/
structure ArgVector where
  count : Int32
  pointers : Option (List (Option (List UInt8)))
deriving Repr

namespace ArgVector

/-- A text up to its first zero character. -/
def cut (a : String) : String := .ofList (a.toList.takeWhile (· ≠ '\x00'))

/-- Bytes ended by a zero, unless one of them is zero. -/
def terminated? (bytes : List UInt8) : Option (List UInt8) :=
  if 0 ∈ bytes then none else some (bytes ++ [0])

/-- The bytes that stand for a text. -/
def pointee (a : String) : List UInt8 := (terminated? (Utf8.ofString (cut a))).getD [0]

def ofList (args : List String) : ArgVector :=
  ⟨Int32.ofNat args.length,
    if args.isEmpty then none else some (args.map fun a => some (pointee a))⟩

/-- The bytes before the first zero. -/
def upToZero (bytes : List UInt8) : List UInt8 := bytes.takeWhile (· ≠ 0)

def toList (v : ArgVector) : List String :=
  match v.pointers with
  | none => []
  | some ps =>
    if v.count ≤ 0 then []
    else
      (ps.take v.count.toNatClampNeg).filterMap fun p =>
        p.map fun bytes => Utf8.stringLossy (upToZero bytes)

end ArgVector

end PluginHost
