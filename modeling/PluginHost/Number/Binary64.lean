/-!
# Binary floating-point numbers

A `Binary64` is the word of a finite or infinite double.  Its magnitude is `m * 2 ^ (t - 1074)`
for the pair `(m, t)` that `parts` gives; `ofRatio` rounds an exact quotient to the nearest
such number, a tie going to the even one.  The operations are exact quotients, rounded once.
-/

namespace PluginHost

/-- A double, as its word. -/
structure Binary64 where
  bits : UInt64
deriving DecidableEq, Repr, Inhabited

namespace Binary64

/-! ## Algorithm -/

/-- The word of positive infinity. -/
def infinity : Binary64 := ⟨0x7FF0000000000000⟩

def isNegative (x : Binary64) : Bool := 0x8000000000000000 ≤ x.bits

/-- The word without its sign. -/
def magnitude (x : Binary64) : Nat := x.bits.toNat % Nat.pow 2 63

def neg (x : Binary64) : Binary64 := ⟨x.bits ^^^ 0x8000000000000000⟩

def isInfinite (x : Binary64) : Bool := x.magnitude = infinity.bits.toNat

/-- Whether the number is zero of either sign. -/
def isZero (x : Binary64) : Bool := x.magnitude = 0

/-- The magnitude as `m * 2 ^ (t - 1074)`. -/
def parts (x : Binary64) : Nat × Nat :=
  let e := x.magnitude / Nat.pow 2 52
  let f := x.magnitude % Nat.pow 2 52
  if e = 0 then (f, 0) else (Nat.pow 2 52 + f, e - 1)

/-- The magnitude as an exact quotient. -/
def ratio (x : Binary64) : Nat × Nat :=
  let (m, t) := x.parts
  (m * Nat.pow 2 t, Nat.pow 2 1074)

/-- The quotient to the nearest integer, a tie going to the even one. -/
def roundDiv (num den : Nat) : Nat :=
  let q := num / den
  let r := num % den
  if 2 * r < den then q
  else if 2 * r = den then q + q % 2
  else q + 1

/-- The nearest double to `num / den`, for a positive `den`. -/
def ofRatio (num den : Nat) : Binary64 :=
  if num = 0 then ⟨0⟩
  else
    -- the number of binary places left of the point, plus 1074, too small by at most one
    let scaled := num * Nat.pow 2 1074 / den
    let t := scaled.log2 - 52
    let m := roundDiv (num * Nat.pow 2 1074) (den * Nat.pow 2 t)
    let word := t * Nat.pow 2 52 + m
    if infinity.bits.toNat ≤ word then infinity else ⟨UInt64.ofNat word⟩

/-- The nearest double to a natural number. -/
def ofNat (n : Nat) : Binary64 := ofRatio n 1

/-- The product of two magnitudes. -/
def mul (x y : Binary64) : Binary64 :=
  ofRatio (x.ratio.1 * y.ratio.1) (x.ratio.2 * y.ratio.2)

/-- The quotient of two magnitudes, the second not zero. -/
def div (x y : Binary64) : Binary64 :=
  ofRatio (x.ratio.1 * y.ratio.2) (x.ratio.2 * y.ratio.1)

/-- Equality of numbers: the two zeros are equal. -/
def same (x y : Binary64) : Bool :=
  x.bits = y.bits || (x.isZero && y.isZero)

end Binary64

end PluginHost
