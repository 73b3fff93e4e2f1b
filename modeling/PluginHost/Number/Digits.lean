/-!
# Digits

The digits of numerals in bases up to sixteen.
-/

namespace PluginHost.Digits

def value? (c : Char) : Option Nat :=
  if c.isDigit then some (c.toNat - 48)
  else if 'a' ≤ c ∧ c ≤ 'f' then some (c.toNat - 87)
  else if 'A' ≤ c ∧ c ≤ 'F' then some (c.toNat - 55)
  else none

def isDigit (base : Nat) (c : Char) : Bool :=
  match value? c with
  | some d => d < base
  | none => false

def toNat (base : Nat) (ds : List Char) : Nat :=
  ds.foldl (fun n d => base * n + (value? d).getD 0) 0

/-- The number that a text writes, if it is at least one digit of a base and nothing else. -/
def toNat? (base : Nat) (cs : List Char) : Option Nat :=
  if !cs.isEmpty && cs.all (isDigit base) then some (toNat base cs) else none

/-- The digit of a number below sixteen, in lower case. -/
def hexDigit (n : Nat) : Char :=
  if n < 10 then Char.ofNat (48 + n) else Char.ofNat (87 + n)

/-- The last `width` hexadecimal digits of a number, in upper case. -/
def upperHex : Nat → Nat → List Char
  | 0, _ => []
  | width + 1, n => upperHex width (n / 16) ++ [(hexDigit (n % 16)).toUpper]

end PluginHost.Digits
