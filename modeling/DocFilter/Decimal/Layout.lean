import DocFilter.Decimal.Shortest

/-!
# Writing numbers

How a floating-point number is written: which values are written without an
exponent, what an integral value ends in, and the spelling of the exponent and
of the values that have no digits.
-/

namespace DocFilter.Decimal

/-- The decisions of a number format. -/
structure Layout where
  /-- The exponents of the leading digit that are written without an
  exponent. -/
  isPlain : Int → Bool
  /-- An integral value ends in `.0`. -/
  hasPointZero : Bool
  /-- A positive exponent has a sign. -/
  hasExponentSign : Bool
  tie : Tie
  nan : String
  infinity : String
  negativeInfinity : String

/-- A run of zeros. -/
def zeros (count : Nat) : String := String.ofList (List.replicate count '0')

namespace Layout

/-- Digits with the point set where the exponent says. -/
def plain (layout : Layout) (digits : String) (exponent : Int) : String :=
  let before := (digits.length : Int) + exponent
  if 0 ≤ exponent then
    digits ++ zeros exponent.toNat ++ (if layout.hasPointZero then ".0" else "")
  else if 0 < before then
    String.ofList (digits.toList.take before.toNat) ++ "." ++
      String.ofList (digits.toList.drop before.toNat)
  else "0." ++ zeros (-before).toNat ++ digits

/-- One digit before the point, the others after it, and the exponent. -/
def scientific (layout : Layout) (digits : String) (leading : Int) : String :=
  let first := String.ofList (digits.toList.take 1)
  let others := digits.toList.drop 1
  let fraction := if others.isEmpty then "" else "." ++ String.ofList others
  let sign := if layout.hasExponentSign && 0 ≤ leading then "+" else ""
  first ++ fraction ++ "e" ++ sign ++ toString leading

/-- The text of a finite number without its sign. -/
def magnitude (layout : Layout) (x : Binary64) : String :=
  if x.isZero then layout.plain "0" 0
  else
    let decimal := shortest layout.tie x.magnitude
    let digits := toString decimal.digits
    let leading := (digits.length : Int) + decimal.exponent - 1
    if layout.isPlain leading then layout.plain digits decimal.exponent
    else layout.scientific digits leading

/-- The text of a number. -/
def write (layout : Layout) (x : Binary64) : String :=
  if x.isNaN then layout.nan
  else if x.isInfinite then
    if x.isNegative then layout.negativeInfinity else layout.infinity
  else (if x.isNegative then "-" else "") ++ layout.magnitude x

end Layout

/-- In a token list a number never has an exponent, and an integral value ends
with its digits. -/
def tokenLayout : Layout where
  isPlain _ := true
  hasPointZero := false
  hasExponentSign := false
  tie := .up
  nan := "NaN"
  infinity := "inf"
  negativeInfinity := "-inf"

/-- In an outline a number is written plainly from `0.0001` up to below
`1e16`. -/
def outlineLayout : Layout where
  isPlain leading := -4 ≤ leading && leading < 16
  hasPointZero := true
  hasExponentSign := false
  tie := .up
  nan := "NaN"
  infinity := "inf"
  negativeInfinity := "-inf"

/-- In a fragment's JSON text a number is written plainly from `0.00001` up to
below `1e+16`, and a value that JSON cannot hold is `null`. -/
def jsonLayout : Layout where
  isPlain leading := -5 ≤ leading && leading < 16
  hasPointZero := true
  hasExponentSign := true
  tie := .toEven
  nan := "null"
  infinity := "null"
  negativeInfinity := "null"

end DocFilter.Decimal
