/-!
# Binary floating-point numbers of 64 bits

A number is its bit pattern, so that two patterns that compare equal (the two
zeros) and patterns that are no number stay apart.  Everything about a value is
computed on natural numbers.
-/

namespace DocFilter

/-- A floating-point number of 64 bits: a sign, eleven bits of exponent and 52
of fraction. -/
structure Binary64 where
  bits : UInt64
deriving DecidableEq

namespace Binary64

/-- The pattern of positive infinity.  The patterns below it are the finite
numbers in order. -/
def infinityPattern : Nat := 2047 * Nat.pow 2 52

/-- The pattern without its sign. -/
def pattern (x : Binary64) : Nat := x.bits.toNat % Nat.pow 2 63

/-- Whether the sign bit is set. -/
def isNegative (x : Binary64) : Bool := Nat.pow 2 63 ≤ x.bits.toNat

/-- Whether the pattern stands for no number. -/
def isNaN (x : Binary64) : Bool := infinityPattern < x.pattern

/-- Whether the value is one of the two infinities. -/
def isInfinite (x : Binary64) : Bool := x.pattern == infinityPattern

/-- Whether the value is a number other than the infinities. -/
def isFinite (x : Binary64) : Bool := x.pattern < infinityPattern

/-- Whether the value is one of the two zeros. -/
def isZero (x : Binary64) : Bool := x.pattern == 0

/-- Equality of values: the zeros are equal, and a pattern that is no number
equals nothing. -/
def equals (x y : Binary64) : Bool :=
  !x.isNaN && !y.isNaN && (x.bits == y.bits || (x.isZero && y.isZero))

/-- A finite value without its sign, as `significand * 2 ^ exponent`. -/
structure Magnitude where
  significand : Nat
  exponent : Int
  /-- The gap to the value below is half the gap to the value above. -/
  isNarrowBelow : Bool

/-- The magnitude of a finite number. -/
def magnitude (x : Binary64) : Magnitude :=
  let exponent : Nat := x.pattern / Nat.pow 2 52
  let fraction : Nat := x.pattern % Nat.pow 2 52
  if exponent = 0 then ⟨fraction, -1074, false⟩
  else ⟨Nat.pow 2 52 + fraction, (exponent : Int) - 1075,
    fraction == 0 && 1 < exponent⟩

end Binary64

end DocFilter
