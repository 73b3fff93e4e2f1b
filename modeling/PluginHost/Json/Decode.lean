import PluginHost.Json.Print
import PluginHost.Json.Tree

/-!
# Decoding JSON

A decoder takes a written value, and the number of levels it may still nest, to a value of a type
or to the first problem met from left to right.  Records are read from objects, member by member,
or from arrays, field by field; unknown members are skipped, but must be well formed.

    value     any JSON value
    Record    the fields of a record with what each one does to the record read so far
    decode    a whole text
-/

namespace PluginHost.Json

/-! ## Problems -/

/-- What stands where something else was expected. -/
inductive Found where
  | null
  | bool (b : Bool)
  | number (n : Number)
  | string (s : String)
  | sequence
  | map
deriving DecidableEq, Repr, Inhabited

def Found.text : Found → String
  | .null => "null"
  | .bool b => "boolean `" ++ (if b then "true" else "false") ++ "`"
  | .number (.int n) => "integer `" ++ String.ofList (intText n) ++ "`"
  | .number (.float x) => "floating point `" ++ Shortest.text x ++ "`"
  | .string s => "string " ++ Quoted.quote s
  | .sequence => "sequence"
  | .map => "map"

/-- Well-formed JSON that does not say what is expected. -/
inductive Mismatch where
  | invalidType (found : Found) (expected : String)
  | invalidLength (length : Nat) (expected : String)
  | missingField (name : String)
  | duplicateField (name : String)
  | unknownVariant (name : String) (variants : List String)
deriving DecidableEq, Repr, Inhabited

def Mismatch.message : Mismatch → String
  | .invalidType found expected => "invalid type: " ++ found.text ++ ", expected " ++ expected
  | .invalidLength n expected => "invalid length " ++ Nat.repr n ++ ", expected " ++ expected
  | .missingField name => "missing field `" ++ name ++ "`"
  | .duplicateField name => "duplicate field `" ++ name ++ "`"
  | .unknownVariant name variants =>
    "unknown variant `" ++ name ++ "`, expected one of "
      ++ ", ".intercalate (variants.map fun v => "`" ++ v ++ "`")

/-- Why a text cannot be decoded. -/
inductive Problem where
  | malformed
  | truncated
  | mismatch (m : Mismatch)
deriving DecidableEq, Repr, Inhabited

def Fault.problem : Fault → Problem
  | .malformed => .malformed
  | .truncated => .truncated

def Problem.message : Problem → String
  | .malformed => "malformed text"
  | .truncated => "unexpected end of text"
  | .mismatch m => m.message

/-- A decoder of values nested at most as deep as the number says. -/
abbrev Decoder (α : Type) := Nat → Tree → Except Problem α

/-! ## Scalars -/

def pairChar (high low : Nat) : Char :=
  Char.ofNat (0x10000 + (high - 0xD800) * 0x400 + (low - 0xDC00))

/-- The characters of the pieces of a string.  A code unit of a surrogate pair counts only in
front of, or behind, its other half. -/
def Text.chars (ending : Ending) : List Piece → Except Problem (List Char)
  | [] =>
    match ending with
    | .closed => .ok []
    | .broken f => .error f.problem
  | .char c :: rest => (chars ending rest).map (c :: ·)
  | .unit n :: rest =>
    if 0xDC00 ≤ n ∧ n < 0xE000 then .error .malformed
    else if 0xD800 ≤ n ∧ n < 0xDC00 then
      match rest with
      | [] =>
        match ending with
        | .closed => .error .malformed
        | .broken f => .error f.problem
      | .char _ :: _ => .error .malformed
      | .unit m :: rest =>
        if 0xDC00 ≤ m ∧ m < 0xE000 then (chars ending rest).map (pairChar n m :: ·)
        else .error .malformed
    else (chars ending rest).map (Char.ofNat n :: ·)

/-- The string that a written string stands for. -/
def Text.value (t : Text) : Except Problem String :=
  (Text.chars t.ending t.pieces).map String.ofList

/-- A decimal as digits that fit into 64 bits and an exponent: digits beyond are dropped. -/
structure Significand where
  digits : Nat
  exponent : Int
  full : Bool
deriving Repr

/-- Adds a digit; once one does not fit, no later one is added.  `place` is what a digit that is
added, or dropped, does to the exponent. -/
def Significand.push (added dropped : Int) (s : Significand) (d : Nat) : Significand :=
  if s.full then ⟨s.digits, s.exponent + dropped, true⟩
  else if Nat.pow 2 64 ≤ s.digits * 10 + d then ⟨s.digits, s.exponent + dropped, true⟩
  else ⟨s.digits * 10 + d, s.exponent + added, false⟩

/-- Divides by powers of ten that are doubles until the exponent is spent. -/
def scaleDown : Nat → Binary64 → Nat → Binary64
  | 0, f, _ => f
  | fuel + 1, f, k =>
    if k ≤ 308 then f.div (Binary64.ofNat (Nat.pow 10 k))
    else if f.isZero then f
    else scaleDown fuel (f.div (Binary64.ofNat (Nat.pow 10 308))) (k - 308)

/-- The double `digits * 10 ^ exponent`, rounded at each step; nothing beyond the largest. -/
def scaled? (digits : Nat) (exponent : Int) : Option Binary64 :=
  let f := Binary64.ofNat digits
  match exponent with
  | .ofNat k =>
    if k ≤ 308 then
      let x := f.mul (Binary64.ofNat (Nat.pow 10 k))
      if x.isInfinite then none else some x
    else if f.isZero then some f
    else none
  | .negSucc k => some (scaleDown (k / 308 + 2) f (k + 1))

/-- The number that digits write. -/
def digitsValue (ds : List Nat) : Nat := ds.foldl (fun n d => n * 10 + d) 0

/-- The largest exponent read as it stands. -/
def exponentLimit : Nat := Nat.pow 2 31

/-- A sum held within 32 bits. -/
def clampExponent (e : Int) : Int := max (-2147483648) (min 2147483647 e)

/-- The double that a written number stands for, without its sign.  The digits behind the point go
on behind the last one kept, even where digits before the point were dropped. -/
def Numeral.double? (n : Numeral) : Option Binary64 :=
  let whole := n.whole.foldl (Significand.push 0 1) ⟨0, 0, false⟩
  let s := n.fraction.foldl (Significand.push (-1) 0) { whole with full := false }
  match n.exponent with
  | none => scaled? s.digits s.exponent
  | some (positive, ds) =>
    let e := digitsValue ds
    if exponentLimit ≤ e then
      if positive && s.digits != 0 then none else some ⟨0⟩
    else scaled? s.digits (clampExponent (if positive then s.exponent + e else s.exponent - e))

/-- The number that a written number stands for: an integer when it is written as one and fits
into 64 bits, and otherwise a double. -/
def Numeral.value (n : Numeral) : Except Problem Number :=
  match n.ending with
  | .cut => .error .truncated
  | .wrong => .error .malformed
  | .complete =>
    let m := digitsValue n.whole
    if n.fraction.isEmpty ∧ n.exponent = none ∧ ¬ n.negative ∧ m < Nat.pow 2 64 then .ok (.int m)
    else if n.fraction.isEmpty ∧ n.exponent = none ∧ n.negative ∧ 0 < m ∧ m ≤ Nat.pow 2 63 then
      .ok (.int (-m))
    else
      match n.double? with
      | none => .error .malformed
      | some x => .ok (.float (if n.negative then x.neg else x))

/-! ## Mismatches -/

/-- The problem of finding `t` where something else is expected. -/
def mismatch (expected : String) : Tree → Problem
  | .null => .mismatch (.invalidType .null expected)
  | .bool b => .mismatch (.invalidType (.bool b) expected)
  | .number n =>
    match n.value with
    | .error p => p
    | .ok x => .mismatch (.invalidType (.number x) expected)
  | .string t =>
    match t.value with
    | .error p => p
    | .ok s => .mismatch (.invalidType (.string s) expected)
  | .array _ _ => .mismatch (.invalidType .sequence expected)
  | .object _ _ _ => .mismatch (.invalidType .map expected)
  | .misspelt f => f.problem
  | .broken f => f.problem

/-- What is wrong at the end of an array or object, if anything. -/
def Ending.check : Ending → Except Problem Unit
  | .closed => .ok ()
  | .broken f => .error f.problem

/-! ## Skipped values -/

mutual

/-- Passes over a value, which must be well formed. -/
def skip : Tree → Except Problem Unit
  | .number n => if n.ending = .complete then .ok () else .error .malformed
  | .string t => t.ending.check
  | .array items ending => do
    skipItems items
    ending.check
  | .object members stray ending => do
    if stray.isSome then .error .malformed
    skipMembers members
    ending.check
  | .misspelt f => .error f.problem
  | .broken f => .error f.problem
  | .null => .ok ()
  | .bool _ => .ok ()

def skipItems : List Tree → Except Problem Unit
  | [] => .ok ()
  | t :: ts => do
    skip t
    skipItems ts

def skipMembers : List (Text × Tree) → Except Problem Unit
  | [] => .ok ()
  | (k, t) :: ms => do
    k.ending.check
    skip t
    skipMembers ms

end

/-! ## Any value -/

mutual

def value (depth : Nat) : Tree → Except Problem Value
  | .null => .ok .null
  | .bool b => .ok (.bool b)
  | .number n => n.value.map .number
  | .string t => t.value.map .string
  | .array items ending =>
    match depth with
    | 0 => .error .malformed
    | depth + 1 => do
      let vs ← valueItems depth items
      ending.check
      return .array vs
  | .object members stray ending =>
    match depth with
    | 0 => .error .malformed
    | depth + 1 => do
      if stray.isSome then .error .malformed
      let ms ← valueMembers depth [] members
      ending.check
      return .object ms
  | .misspelt f => .error f.problem
  | .broken f => .error f.problem

def valueItems (depth : Nat) : List Tree → Except Problem (List Value)
  | [] => .ok []
  | t :: ts => do
    let v ← value depth t
    let vs ← valueItems depth ts
    return v :: vs

/-- The members of an object, added to those read before. -/
def valueMembers (depth : Nat) (done : List (String × Value)) :
    List (Text × Tree) → Except Problem (List (String × Value))
  | [] => .ok done
  | (k, t) :: ms => do
    let name ← k.value
    let v ← value depth t
    valueMembers depth (insert name v done) ms

end

/-! ## Typed values -/

/-- A string, called `expected` in problems. -/
def string (expected : String) : Decoder String := fun _ t =>
  match t with
  | .string s => s.value
  | t => .error (mismatch expected t)

def boolean : Decoder Bool := fun _ t =>
  match t with
  | .bool b => .ok b
  | t => .error (mismatch "a boolean" t)

/-- Null, or what the decoder reads. -/
def optional {α : Type} (d : Decoder α) : Decoder (Option α) := fun depth t =>
  match t with
  | .null => .ok none
  | t => (d depth t).map some

def listItems {α : Type} (d : Decoder α) (depth : Nat) : List Tree → Except Problem (List α)
  | [] => .ok []
  | t :: ts => do
    let a ← d depth t
    let as ← listItems d depth ts
    return a :: as

def list {α : Type} (d : Decoder α) : Decoder (List α) := fun depth t =>
  match t, depth with
  | .array _ _, 0 => .error .malformed
  | .array items ending, depth + 1 => do
    let as ← listItems d depth items
    ending.check
    return as
  | t, _ => .error (mismatch "a sequence" t)

/-- An object of arbitrary values, sorted by name. -/
def valueMap : Decoder (List (String × Value)) := fun depth t =>
  match t, depth with
  | .object _ _ _, 0 => .error .malformed
  | .object members stray ending, depth + 1 => do
    if stray.isSome then .error .malformed
    let ms ← valueMembers depth [] members
    ending.check
    return ms
  | t, _ => .error (mismatch "a map" t)

/-- One of several words: a string, or an object with that word as its only name and null. -/
def variant {α : Type} (choices : List (String × α)) : Decoder α := fun depth t =>
  let choose (s : String) : Except Problem α :=
    match choices.find? fun c => c.1 = s with
    | some c => .ok c.2
    | none => .error (.mismatch (.unknownVariant s (choices.map (·.1))))
  match t, depth with
  | .string s, _ => s.value.bind choose
  | .object _ _ _, 0 => .error .malformed
  | .object _ (some t) _, _ + 1 => .error (mismatch "variant identifier" t)
  | .object [] none (.broken f), _ + 1 => .error f.problem
  | .object [] none .closed, _ + 1 => .error .malformed
  | .object ((k, t) :: more) none ending, _ + 1 => do
    let a ← k.value.bind choose
    match t with
    | .null =>
      if more.isEmpty then
        ending.check
        return a
      else .error .malformed
    | t => .error (mismatch "unit" t)
  | .broken f, _ => .error f.problem
  | _, _ => .error .malformed

/-! ## Records -/

/-- A field of a record read into `ρ`: its name, and what its value does to the record. -/
structure Field (ρ : Type) where
  name : String
  read : Nat → Tree → ρ → Except Problem ρ
  required : Bool

/-- A field whose value is decoded by `d` and stored by `set`. -/
def Field.of {ρ α : Type} (name : String) (required : Bool) (d : Decoder α) (set : α → ρ → ρ) :
    Field ρ :=
  ⟨name, fun depth t r => (d depth t).map fun a => set a r, required⟩

/-- A record: how problems call it, and its fields in order. -/
structure Record (ρ : Type) where
  title : String
  fields : List (Field ρ)

/-- Reads the members of an object into a record; `seen` are the names of fields read. -/
def Record.members {ρ : Type} (rec : Record ρ) (depth : Nat) :
    List String → ρ → List (Text × Tree) → Except Problem (List String × ρ)
  | seen, r, [] => .ok (seen, r)
  | seen, r, (k, t) :: ms => do
    let name ← k.value
    match rec.fields.find? fun f => f.name = name with
    | none =>
      skip t
      rec.members depth seen r ms
    | some f =>
      if name ∈ seen then .error (.mismatch (.duplicateField name))
      let r ← f.read depth t r
      rec.members depth (name :: seen) r ms

/-- Reads the items of an array into the fields, in order. -/
def Record.items {ρ : Type} (rec : Record ρ) (depth : Nat) (ending : Ending) :
    Nat → ρ → List (Field ρ) → List Tree → Except Problem ρ
  | _, r, [], [] => do
    ending.check
    return r
  | _, _, [], _ :: _ => .error .malformed
  | n, r, f :: fs, [] => do
    ending.check
    if f.required then
      .error (.mismatch (.invalidLength n
        ("struct " ++ rec.title ++ " with " ++ Nat.repr rec.fields.length ++ " elements")))
    else rec.items depth ending (n + 1) r fs []
  | n, r, f :: fs, t :: ts => do
    let r ← f.read depth t r
    rec.items depth ending (n + 1) r fs ts

/-- Decodes a record, starting from `start`. -/
def Record.decoder {ρ : Type} (rec : Record ρ) (start : ρ) : Decoder ρ := fun depth t =>
  match t, depth with
  | .array _ _, 0 => .error .malformed
  | .array items ending, depth + 1 => rec.items depth ending 0 start rec.fields items
  | .object _ _ _, 0 => .error .malformed
  | .object members stray ending, depth + 1 => do
    if stray.isSome then .error .malformed
    let (seen, r) ← rec.members depth [] start members
    ending.check
    match rec.fields.find? fun f => f.required && !(seen.contains f.name) with
    | some f => .error (.mismatch (.missingField f.name))
    | none => return r
  | t, _ => .error (mismatch ("struct " ++ rec.title) t)

/-! ## Whole texts -/

/-- How deep values may nest. -/
def maxDepth : Nat := 127

/-- Decodes a text that holds one value. -/
def decode {α : Type} (d : Decoder α) (text : String) : Except Problem α := do
  let doc := Document.ofChars text.toList
  let a ← d maxDepth doc.root
  if doc.trailing then .error .malformed
  return a

end PluginHost.Json
