import PluginHost.Number.Digits

/-!
# Decimal numerals

Unsigned numerals with a point and an exponent, as exact numbers, and whether a double comes near
them.
-/

namespace PluginHost

/-- The number `digits * 10 ^ exponent`. -/
structure Decimal where
  digits : Nat
  exponent : Int
deriving DecidableEq, Repr, Inhabited

namespace Decimal

/-- The exponent that starts with a letter `e`, or none at the end of the text. -/
def exponent? (cs : List Char) : Option Int :=
  match cs with
  | [] => some 0
  | e :: cs =>
    let (negative, ds) :=
      match cs with
      | '+' :: ds => (false, ds)
      | '-' :: ds => (true, ds)
      | ds => (false, ds)
    if e = 'e' ∨ e = 'E' then
      (Digits.toNat? 10 ds).map fun n => if negative then -(n : Int) else n
    else none

/-- A numeral with at least one digit before or behind the point. -/
def ofChars? (cs : List Char) : Option Decimal := do
  let whole := cs.takeWhile Char.isDigit
  let (fraction, rest) :=
    match cs.dropWhile Char.isDigit with
    | '.' :: r => (r.takeWhile Char.isDigit, r.dropWhile Char.isDigit)
    | r => ([], r)
  if whole.isEmpty && fraction.isEmpty then none
  let e ← exponent? rest
  return ⟨Digits.toNat 10 (whole ++ fraction), e - fraction.length⟩

/-- The least number that rounds to no finite double. -/
def tooLarge : Nat := Nat.pow 2 1024 - Nat.pow 2 970

/-- Whether the nearest double is finite.  The number of places before the point decides all but
the numbers near the border. -/
def isFinite (d : Decimal) : Bool :=
  if d.digits = 0 then true
  else
    let places := (Nat.repr d.digits).length + d.exponent
    if places ≤ 308 then true
    else if 309 < places then false
    else
      match d.exponent with
      | .ofNat k => d.digits * Nat.pow 10 k < tooLarge
      | .negSucc k => d.digits < tooLarge * Nat.pow 10 (k + 1)

end Decimal

end PluginHost
