import DocFilter.Binary64.Basic

/-!
# Rounding a quotient to a floating-point number

A quotient of naturals is rounded once, to the nearest number and to the even
one of two that are equally near.  A quotient too large for that becomes
infinite.
-/

namespace DocFilter.Binary64

/-- The integer nearest to `num / den`, the even one of two. -/
def roundHalfEven (num den : Nat) : Nat :=
  let quotient := num / den
  match compare (2 * (num % den)) den with
  | .lt => quotient
  | .gt => quotient + 1
  | .eq => if quotient % 2 = 0 then quotient else quotient + 1

/-- The exponent of the largest power of two that is at most `num / den`, both
positive. -/
def log2Ratio (num den : Nat) : Int :=
  let near : Int := (num.log2 : Int) - den.log2
  if den * Nat.pow 2 near.toNat ≤
    num * Nat.pow 2 (-near).toNat then near else near - 1

/-- The exponent of the last place of the numbers as large as `num / den`. -/
def lastPlace (num den : Nat) : Int :=
  max (log2Ratio num den - 52) (-1074)

/-- The pattern nearest to `num / den`.  A carry out of the significand moves to
the next exponent by itself, because patterns are in the order of their
values. -/
def roundedPattern (num den : Nat) : Nat :=
  let place := lastPlace num den
  (place + 1074).toNat * Nat.pow 2 52 +
    roundHalfEven (num * Nat.pow 2 (-place).toNat) (den * Nat.pow 2 place.toNat)

/-- The number nearest to `num / den`, for a positive `den`. -/
def ofRatio (num den : Nat) : Binary64 :=
  if num = 0 then ⟨0⟩
  else ⟨UInt64.ofNat (min (roundedPattern num den) infinityPattern)⟩

end DocFilter.Binary64
