/-!
# Sets of characters as ranges of code points

A character property of a standard is kept as a list of closed ranges,
ascending and apart.  The properties with few ranges stand here: white space,
and the characters with the Unicode property Default_Ignorable_Code_Point
(version 17.0), which are left out of the picture by a display that does not
know what to do with them.  Among those are letters: the fillers of the Hangul
script.
-/

namespace DocFilter.Text

/-- Closed ranges of code points, ascending and apart. -/
abbrev Ranges := List (Nat × Nat)

/-- Whether a code point lies in one of the ranges.  The search ends at the
first range above it. -/
def Ranges.covers : Ranges → Nat → Bool
  | [], _ => false
  | (low, high) :: above, n =>
    if n < low then false
    else if n ≤ high then true
    else Ranges.covers above n

/-- The 25 characters with the property White_Space. -/
def blankRanges : Ranges :=
  [(0x9, 0xD), (0x20, 0x20), (0x85, 0x85), (0xA0, 0xA0), (0x1680, 0x1680),
   (0x2000, 0x200A), (0x2028, 0x2029), (0x202F, 0x202F), (0x205F, 0x205F),
   (0x3000, 0x3000)]

/-- Whether a character is white space. -/
def isBlank (c : Char) : Bool :=
  blankRanges.covers c.toNat

/-- The characters with the property Default_Ignorable_Code_Point. -/
def ignorableRanges : Ranges :=
  [(0xAD, 0xAD), (0x34F, 0x34F), (0x61C, 0x61C), (0x115F, 0x1160),
   (0x17B4, 0x17B5), (0x180B, 0x180F), (0x200B, 0x200F), (0x202A, 0x202E),
   (0x2060, 0x206F), (0x3164, 0x3164), (0xFE00, 0xFE0F), (0xFEFF, 0xFEFF),
   (0xFFA0, 0xFFA0), (0xFFF0, 0xFFF8), (0x1BCA0, 0x1BCA3), (0x1D173, 0x1D17A),
   (0xE0000, 0xE0FFF)]

/-- Whether a display may leave a character out. -/
def isIgnorable (c : Char) : Bool :=
  ignorableRanges.covers c.toNat

end DocFilter.Text
