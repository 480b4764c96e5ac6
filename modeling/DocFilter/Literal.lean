import DocFilter.Binary64.Rounding

/-!
# Literals

The values that an expression can spell out.  The same values are bound to the
placeholders of the SQL text that the expression becomes.
-/

namespace DocFilter

/-- A text, an integer or a real number. -/
inductive Literal where
  | text (value : String)
  | integer (value : Int64)
  | real (value : Binary64)
deriving DecidableEq

namespace Literal

/-- Equality of values, in which real numbers are compared as numbers. -/
def equals : Literal → Literal → Bool
  | .text s, .text t => s == t
  | .integer m, .integer n => m == n
  | .real x, .real y => x.equals y
  | _, _ => false

/-- The largest integer that an integer literal holds. -/
def maxInteger : Nat := Nat.pow 2 63 - 1

/-- The value of a row of decimal digits. -/
def digitsValue (digits : List Char) : Nat :=
  digits.foldl (fun value c => 10 * value + (c.toNat - '0'.toNat)) 0

/-- The literal with these digits before and after its point.  Without a
fraction it is an integer as long as it fits; a number too large to be finite is
no literal. -/
def ofDigits? (whole fraction : List Char) : Option Literal :=
  let value := digitsValue (whole ++ fraction)
  if fraction.isEmpty && value ≤ maxInteger then
    some (.integer (Int64.ofNat value))
  else
    let real := Binary64.ofRatio value (Nat.pow 10 fraction.length)
    if real.isFinite then some (.real real) else none

end Literal

end DocFilter
