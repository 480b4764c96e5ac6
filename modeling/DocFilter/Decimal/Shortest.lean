import DocFilter.Binary64.Basic

/-!
# The fewest decimal digits that identify a number

Among the decimals that round to a given binary number, the one with the fewest
digits is chosen, and of those the nearest to the number.  All comparisons are
between natural numbers.
-/

namespace DocFilter

/-- The decimal `digits * 10 ^ exponent`. -/
structure Decimal where
  digits : Nat
  exponent : Int
deriving DecidableEq

namespace Decimal

/-- Which of two equally near decimals is taken. -/
inductive Tie where
  | toEven
  | up
deriving DecidableEq

/-- Compares `a * 10 ^ i` with `n * 2 ^ j`. -/
def compareScaled (a : Nat) (i : Int) (n : Nat) (j : Int) : Ordering :=
  compare (a * Nat.pow 10 i.toNat * Nat.pow 2 (-j).toNat)
    (n * Nat.pow 2 j.toNat * Nat.pow 10 (-i).toNat)

/-- Whether a decimal lies among the reals that round to a magnitude: between
the halfway points to its two neighbours, which belong to it when its
significand is even. -/
def identifies (d : Decimal) (x : Binary64.Magnitude) : Bool :=
  let low :=
    if x.isNarrowBelow then 4 * x.significand - 1 else 4 * x.significand - 2
  let high := 4 * x.significand + 2
  let isClosed := x.significand % 2 == 0
  let fromLow := compareScaled d.digits d.exponent low (x.exponent - 2)
  let fromHigh := compareScaled d.digits d.exponent high (x.exponent - 2)
  (fromLow == .gt || (isClosed && fromLow == .eq)) &&
    (fromHigh == .lt || (isClosed && fromHigh == .eq))

/-- The largest multiple of `10 ^ exponent` that is at most a magnitude,
counted in that unit. -/
def floorAt (x : Binary64.Magnitude) (exponent : Int) : Nat :=
  (x.significand * Nat.pow 2 x.exponent.toNat * Nat.pow 10 (-exponent).toNat) /
    (Nat.pow 2 (-x.exponent).toNat * Nat.pow 10 exponent.toNat)

/-- The nearer of `low` and `low + 1`, in units of `10 ^ exponent`. -/
def nearer (tie : Tie) (x : Binary64.Magnitude) (low : Nat) (exponent : Int) :
    Nat :=
  match compareScaled (2 * low + 1) exponent (2 * x.significand) x.exponent with
  | .gt => low
  | .lt => low + 1
  | .eq =>
    match tie with
    | .up => low + 1
    | .toEven => if low % 2 = 0 then low else low + 1

/-- The multiple of `10 ^ exponent` that identifies a magnitude, if there is
one. -/
def onGrid? (tie : Tie) (x : Binary64.Magnitude) (exponent : Int) :
    Option Decimal :=
  let low := floorAt x exponent
  match identifies ⟨low, exponent⟩ x, identifies ⟨low + 1, exponent⟩ x with
  | true, true => some ⟨nearer tie x low exponent, exponent⟩
  | true, false => some ⟨low, exponent⟩
  | false, true => some ⟨low + 1, exponent⟩
  | false, false => none

/-- The least exponent whose power of ten is above a positive magnitude.  It is
estimated from the binary logarithm and corrected by exact comparison. -/
def scale (x : Binary64.Magnitude) : Int :=
  let estimate := ((x.significand.log2 : Int) + x.exponent) * 30103 / 100000
  let isAbove (k : Int) : Bool :=
    compareScaled 1 k x.significand x.exponent == .gt
  ([estimate - 1, estimate, estimate + 1].find? isAbove).getD (estimate + 2)

/-- A magnitude written out in full. -/
def exact (x : Binary64.Magnitude) : Decimal :=
  if 0 ≤ x.exponent then ⟨x.significand * Nat.pow 2 x.exponent.toNat, 0⟩
  else ⟨x.significand * Nat.pow 5 (-x.exponent).toNat, x.exponent⟩

/-- Moves up to `count` trailing zeros from the digits into the exponent. -/
def strip : Nat → Decimal → Decimal
  | 0, d => d
  | count + 1, d =>
    if d.digits % 10 = 0 then strip count ⟨d.digits / 10, d.exponent + 1⟩ else d

/-- The decimal with the fewest digits that identifies a positive magnitude.
Seventeen digits always suffice; a magnitude is written in full should none of
them do. -/
def shortest (tie : Tie) (x : Binary64.Magnitude) : Decimal :=
  let top := scale x
  let found :=
    (List.range 17).findSome? fun (n : Nat) =>
      onGrid? tie x (top - (n + 1 : Nat))
  strip 17 (found.getD (exact x))

end Decimal

end DocFilter
