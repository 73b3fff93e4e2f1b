import PluginHost.Number.Binary64

/-!
# Shortest decimals

The decimal with the fewest digits among those that round to a given double, and of these the
nearest to it.  The double is `m * 2 ^ t` units of `2 ^ -1074`; the decimals that round to it lie
between the midpoints to its neighbours, the ends included when `m` is even.  The grids
`10 ^ k` are tried from coarse to fine, and on each the two multiples next to the number.

`text` writes it: plainly from `1e-5` up to below `1e16`, with at least one digit behind the point,
and otherwise with a signed exponent.
-/

namespace PluginHost.Shortest

/-! ## Algorithm -/

/-- The interval of numbers that round to a double: four times its ends and itself, in units of
`2 ^ -1076`, and whether the ends belong to it. -/
structure Interval where
  low : Nat
  mid : Nat
  high : Nat
  closed : Bool

/-- The interval of the double with parts `(m, t)`. -/
def interval (m t : Nat) : Interval :=
  let below := if m = Nat.pow 2 52 ∧ 0 < t then 1 else 2
  ⟨(4 * m - below) * Nat.pow 2 t, 4 * m * Nat.pow 2 t, (4 * m + 2) * Nat.pow 2 t, m % 2 = 0⟩

/-- A power of ten as a quotient. -/
def power (k : Int) : Nat × Nat :=
  match k with
  | .ofNat n => (Nat.pow 10 n, 1)
  | .negSucc n => (1, Nat.pow 10 (n + 1))

/-- Whether `d * 10 ^ k` lies in the interval. -/
def Interval.holds (i : Interval) (d : Nat) (k : Int) : Bool :=
  let (num, den) := power k
  let x := d * num * Nat.pow 2 1076
  if i.closed then i.low * den ≤ x && x ≤ i.high * den else i.low * den < x && x < i.high * den

/-- The multiple of `10 ^ k` in the interval that is nearest to its middle, if any. -/
def Interval.pick (i : Interval) (k : Int) : Option Nat :=
  let (num, den) := power k
  let d := i.mid * den / (num * Nat.pow 2 1076)
  let below := i.mid * den - d * num * Nat.pow 2 1076
  let above := (d + 1) * num * Nat.pow 2 1076 - i.mid * den
  match i.holds d k, i.holds (d + 1) k with
  | true, true =>
    if below < above then some d
    else if above < below then some (d + 1)
    else some (if d % 2 = 0 then d else d + 1)
  | true, false => some d
  | false, true => some (d + 1)
  | false, false => none

/-- The first grid with a hit, going down from `10 ^ k`. -/
def search (i : Interval) : Nat → Int → Nat × Int
  | 0, k => (0, k)
  | fuel + 1, k =>
    match i.pick k with
    | some d => (d, k)
    | none => search i fuel (k - 1)

/-- Digits and exponent of the shortest decimal of a positive double. -/
def decimal (x : Binary64) : Nat × Int :=
  let (m, t) := x.parts
  let i := interval m t
  let top : Int := (((m.log2 + t : Nat) : Int) - 1074) * 30103 / 100000 + 2
  search i 24 top

/-- Decimal digits of a number. -/
def digits (n : Nat) : List Char := (Nat.repr n).toList

/-- Digits `ds`, of which `left` stand before the point, with at least one on each side. -/
def placePoint (ds : List Char) (left : Int) : List Char :=
  if left ≤ 0 then
    ['0', '.'] ++ List.replicate left.natAbs '0' ++ ds
  else if ds.length ≤ left.toNat then
    ds ++ List.replicate (left.toNat - ds.length) '0' ++ ['.', '0']
  else
    ds.take left.toNat ++ '.' :: ds.drop left.toNat

/-- Digits `ds` as `d.ddd` with the exponent `e`. -/
def withExponent (ds : List Char) (e : Int) : List Char :=
  let head := ds.take 1 ++ (if ds.length ≤ 1 then [] else '.' :: ds.drop 1)
  let sign := if e < 0 then '-' else '+'
  head ++ 'e' :: sign :: digits e.natAbs

/-- The written form of a finite double. -/
def text (x : Binary64) : String :=
  let sign := if x.isNegative then ['-'] else []
  if x.isZero then String.ofList (sign ++ ['0', '.', '0'])
  else
    let (d, k) := decimal x
    let ds := digits d
    let e : Int := k + ds.length - 1
    String.ofList (sign ++ if -5 ≤ e ∧ e < 16 then placePoint ds (e + 1) else withExponent ds e)

end PluginHost.Shortest
