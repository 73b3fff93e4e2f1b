import PluginHost.Number.Decimal

/-!
# Scalars of YAML

The classes of characters of YAML, and what a scalar without quotes stands for: nothing, a truth
value, a number, or its text.
-/

namespace PluginHost.Yaml

/-! ## Characters -/

/-- Whether a character ends a line. -/
def isBreak (c : Char) : Bool :=
  c = '\n' || c = '\r' || c = '\u0085' || c = '\u2028' || c = '\u2029'

/-- Whether a character is a blank within a line. -/
def isBlank (c : Char) : Bool := c = ' ' || c = '\t'

/-- Whether a character ends a word: a blank, a line's end or the NUL that stands for the end. -/
def isGap (c : Char) : Bool := isBlank c || isBreak c || c.toNat = 0

/-- Whether a text is at its end or at the end of a word. -/
def atGap : List Char → Bool
  | [] => true
  | c :: _ => isGap c

/-- Whether a character may be written as it is. -/
def isPrintable (c : Char) : Bool :=
  let n := c.toNat
  n = 0x0A || (0x20 ≤ n && n ≤ 0x7E) || (0xA0 ≤ n && n ≤ 0xD7FF)
    || (0xE000 ≤ n && n ≤ 0xFFFD && n ≠ 0xFEFF) || 0x10000 ≤ n

/-! ## What a plain scalar stands for -/

/-- Whether a word stands for nothing. -/
def isNull (s : String) : Bool := ["", "~", "null", "Null", "NULL"].contains s

/-- The truth value that a word stands for. -/
def bool? (s : String) : Option Bool :=
  if ["true", "True", "TRUE"].contains s then some true
  else if ["false", "False", "FALSE"].contains s then some false
  else none

/-- The sign of a numeral, if it has one, and what follows. -/
def splitSign : List Char → Option Bool × List Char
  | '+' :: cs => (some false, cs)
  | '-' :: cs => (some true, cs)
  | cs => (none, cs)

/-- Whether the digits are written with a needless zero in front. -/
def isPadded : List Char → Bool
  | '0' :: c :: cs => (c :: cs).all Char.isDigit
  | _ => false

/-- The magnitude of a numeral without its sign, in base ten or behind `0x`, `0o` or `0b`. -/
def magnitude? (cs : List Char) : Option Nat :=
  match cs with
  | '0' :: 'x' :: ds => Digits.toNat? 16 ds
  | '0' :: 'o' :: ds => Digits.toNat? 8 ds
  | '0' :: 'b' :: ds => Digits.toNat? 2 ds
  | ds => Digits.toNat? 10 ds

/-- Whether a word is an integer: of at most 128 bits, or of any size with a needless zero. -/
def isInteger (s : String) : Bool :=
  let (sign, ds) := splitSign s.toList
  match magnitude? ds with
  | none => false
  | some n => isPadded ds || (if sign = some true then n ≤ Nat.pow 2 127 else n < Nat.pow 2 128)

/-- Whether a word is a finite decimal, an infinity or no number at all. -/
def isFloat (s : String) : Bool :=
  let ds := (splitSign s.toList).2
  let word := String.ofList ds
  if [".inf", ".Inf", ".INF"].contains word then true
  else if [".nan", ".NaN", ".NAN"].contains s then true
  else ((Decimal.ofChars? ds).map Decimal.isFinite).getD false

/-- Whether a word stands for something else than its text. -/
def isResolved (s : String) : Bool :=
  isNull s || (bool? s).isSome || isInteger s || isFloat s

end PluginHost.Yaml
