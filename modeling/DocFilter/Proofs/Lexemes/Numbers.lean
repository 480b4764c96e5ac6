import DocFilter.Diagnostic
import DocFilter.Proofs.Binary64.Nearest
import DocFilter.Proofs.Lexemes.Scanning
import Mathlib.Data.Nat.Digits.Lemmas

/-!
# Numbers

At a digit the scanner reads the longest number that stands there, and its
value is the one that its digits spell.  Without a fraction it is an integer as
long as there is one of 64 bits; otherwise it is the nearest floating-point
number, if there is a finite one.
-/

namespace DocFilter

open Text

/-- The digits of a number before its point, and those behind it.  A number
without digits behind its point has no point. -/
structure Numeral where
  whole : List Char
  fraction : List Char
  isWhole : IsWhole whole
  isDigit_of_mem : ∀ digit ∈ fraction, digit.isDigit = true

namespace Numeral

/-- How a number is written. -/
def written (numeral : Numeral) : List Char :=
  numeral.whole ++
    if numeral.fraction = [] then [] else '.' :: numeral.fraction

/-- The number that a row of decimal digits spells, the last one for ones. -/
def ofDigits (digits : List Char) : ℕ :=
  Nat.ofDigits 10 (digits.reverse.map fun digit => digit.toNat - '0'.toNat)

/-- The exact value of a number. -/
def value (numeral : Numeral) : ℚ :=
  ofDigits numeral.whole +
    ofDigits numeral.fraction / 10 ^ numeral.fraction.length

/-- A number without a fraction that is an integer of 64 bits. -/
def FitsInteger (numeral : Numeral) : Prop :=
  numeral.fraction = [] ∧ numeral.value ≤ 2 ^ 63 - 1

/-! ## Values -/

theorem ofDigits_append (digits others : List Char) :
    ofDigits (digits ++ others) =
      ofDigits digits * 10 ^ others.length + ofDigits others := by
  rw [ofDigits, List.reverse_append, List.map_append, Nat.ofDigits_append,
    List.length_map, List.length_reverse, Nat.add_comm, Nat.mul_comm]
  rfl

theorem digitsValue_eq (digits : List Char) :
    Literal.digitsValue digits = ofDigits digits := by
  induction digits using List.reverseRecOn with
  | nil => rfl
  | append_singleton digits digit ih =>
    rw [Literal.digitsValue, List.foldl_concat, ← Literal.digitsValue, ih,
      ofDigits_append]
    simp [ofDigits, Nat.mul_comm]

/-- The value is that of all digits in a row, with the point moved. -/
theorem value_eq (numeral : Numeral) :
    numeral.value =
      Literal.digitsValue (numeral.whole ++ numeral.fraction) /
        (Nat.pow 10 numeral.fraction.length : Nat) := by
  have hpower : ((Nat.pow 10 numeral.fraction.length : Nat) : ℚ) =
      10 ^ numeral.fraction.length := by
    rw [Nat.pow_eq, Nat.cast_pow, Nat.cast_ofNat]
  rw [digitsValue_eq, ofDigits_append, hpower, value]
  push_cast
  rw [add_div, mul_div_cancel_right₀ _ (by positivity)]

/-- A number fits if its digits are those of an integer that is small
enough. -/
theorem fitsInteger_iff {numeral : Numeral} :
    numeral.FitsInteger ↔ numeral.fraction = [] ∧
      Literal.digitsValue (numeral.whole ++ numeral.fraction) ≤
        Literal.maxInteger := by
  unfold FitsInteger
  apply and_congr_right
  intro hfraction
  have hmax : (2 : ℚ) ^ 63 - 1 = Literal.maxInteger := by
    rw [Literal.maxInteger, Nat.pow_eq, Nat.cast_sub Nat.one_le_two_pow]
    norm_num
  have hpower : Nat.pow 10 numeral.fraction.length = 1 := by
    rw [hfraction]
    rfl
  rw [value_eq, hpower, Nat.cast_one, div_one, hmax, Nat.cast_le]

/-- A number that fits is the integer that it spells. -/
theorem ofDigits?_eq_integer {numeral : Numeral} (h : numeral.FitsInteger) :
    ∃ n : Int64, (n.toInt : ℚ) = numeral.value ∧
      Literal.ofDigits? numeral.whole numeral.fraction = some (.integer n) := by
  obtain ⟨hfraction, hle⟩ := fitsInteger_iff.mp h
  let digits := Literal.digitsValue (numeral.whole ++ numeral.fraction)
  have hlt : digits < 2 ^ 63 := Nat.lt_of_le_pred (Nat.two_pow_pos 63) hle
  have hvalue : numeral.value = digits := by
    have hpower : Nat.pow 10 numeral.fraction.length = 1 := by
      rw [hfraction]
      rfl
    rw [value_eq, hpower, Nat.cast_one, div_one]
  refine ⟨Int64.ofNat digits, ?_, ?_⟩
  · rw [Int64.toInt_ofNat_of_lt hlt, hvalue, Int.cast_natCast]
  · have htest : (numeral.fraction.isEmpty &&
        decide (digits ≤ Literal.maxInteger)) = true := by
      rw [hfraction, decide_eq_true hle]
      rfl
    unfold Literal.ofDigits?
    exact if_pos htest

/-- A number that does not fit is what its value is rounded to, if that is
finite. -/
theorem ofDigits?_of_not_fitsInteger {numeral : Numeral}
    (h : ¬numeral.FitsInteger) :
    (numeral.value < 2 ^ 1024 - 2 ^ 970 →
      ∃ x : Binary64, x.Rounds numeral.value ∧
        Literal.ofDigits? numeral.whole numeral.fraction = some (.real x)) ∧
    (2 ^ 1024 - 2 ^ 970 ≤ numeral.value →
      Literal.ofDigits? numeral.whole numeral.fraction = none) := by
  let digits := Literal.digitsValue (numeral.whole ++ numeral.fraction)
  let power := Nat.pow 10 numeral.fraction.length
  have hpower : 0 < power := Nat.pow_pos (by decide)
  have hfinite := @Binary64.isFinite_ofRatio_iff digits power hpower
  rw [← value_eq] at hfinite
  have htest : ¬(numeral.fraction.isEmpty &&
      decide (digits ≤ Literal.maxInteger)) = true := by
    rw [Bool.and_eq_true, List.isEmpty_iff, decide_eq_true_iff]
    exact fun hfits => h (fitsInteger_iff.mpr hfits)
  have hdigits : Literal.ofDigits? numeral.whole numeral.fraction =
      if (Binary64.ofRatio digits power).isFinite then
        some (.real (Binary64.ofRatio digits power)) else none := by
    unfold Literal.ofDigits?
    exact if_neg htest
  rw [hdigits]
  constructor
  · intro hlt
    have hx := hfinite.mpr hlt
    refine ⟨Binary64.ofRatio digits power, ?_, if_pos hx⟩
    rw [value_eq]
    exact Binary64.rounds_ofRatio hpower hx
  · intro hle
    exact if_neg (mt hfinite.mp hle.not_gt)

/-- The three things that can be made of a number. -/
theorem ofDigits?_cases (numeral : Numeral) :
    (numeral.FitsInteger ∧ numeral.value < 2 ^ 1024 - 2 ^ 970 ∧
        ∃ n : Int64, (n.toInt : ℚ) = numeral.value ∧
          Literal.ofDigits? numeral.whole numeral.fraction =
            some (.integer n)) ∨
      (¬numeral.FitsInteger ∧ numeral.value < 2 ^ 1024 - 2 ^ 970 ∧
        ∃ x : Binary64, x.Rounds numeral.value ∧
          Literal.ofDigits? numeral.whole numeral.fraction =
            some (.real x)) ∨
      ¬numeral.FitsInteger ∧ 2 ^ 1024 - 2 ^ 970 ≤ numeral.value ∧
        Literal.ofDigits? numeral.whole numeral.fraction = none := by
  by_cases hfits : numeral.FitsInteger
  · have hle : numeral.value < 2 ^ 1023 := by
      have hpower : (2 : ℚ) ^ 63 ≤ 2 ^ 1023 :=
        pow_le_pow_right₀ one_le_two (by decide)
      exact hfits.2.trans_lt ((sub_one_lt _).trans_le hpower)
    exact Or.inl ⟨hfits, hle.trans Binary64.two_pow_lt_finiteLimit,
      ofDigits?_eq_integer hfits⟩
  · obtain ⟨hreal, hnone⟩ := ofDigits?_of_not_fitsInteger hfits
    rcases lt_or_ge numeral.value (2 ^ 1024 - 2 ^ 970) with hlt | hge
    · exact Or.inr (Or.inl ⟨hfits, hlt, hreal hlt⟩)
    · exact Or.inr (Or.inr ⟨hfits, hge, hnone hge⟩)

end Numeral

/-! ## The longest number -/

namespace Scan

theorem isDigit_of_mem_fractionDigits {cs : List Char} :
    ∀ digit ∈ fractionDigits cs, digit.isDigit = true := by
  unfold fractionDigits
  split
  · exact forall_mem_takeWhile Char.isDigit _
  · exact List.forall_mem_nil _

/-- All digits before a point are taken that can be. -/
theorem length_le_wholeDigits {digits : List Char} (h : IsWhole digits)
    (rest : List Char) :
    digits.length ≤ (wholeDigits (digits ++ rest)).length := by
  cases h with
  | zero => exact Nat.le_refl _
  | @digits c cs hzero h =>
    have hwhole : wholeDigits (c :: cs ++ rest) =
        (c :: cs ++ rest).takeWhile Char.isDigit := by
      unfold wholeDigits
      split
      next heq => exact absurd (List.cons.inj heq).1 hzero
      next => rfl
    rw [hwhole, List.takeWhile_append_of_pos h, List.length_append]
    exact Nat.le_add_right _ _

/-- All digits behind a point are taken. -/
theorem length_le_fractionDigits {digits : List Char}
    (h : ∀ digit ∈ digits, digit.isDigit = true) (rest : List Char) :
    digits.length ≤ (fractionDigits ('.' :: (digits ++ rest))).length := by
  rw [fractionDigits, List.takeWhile_append_of_pos h, List.length_append]
  exact Nat.le_add_right _ _

end Scan

namespace Numeral

/-- The number that is taken from a text that starts with a digit. -/
def first {c : Char} (cs : List Char) (h : c.isDigit = true) : Numeral where
  whole := Scan.wholeDigits (c :: cs)
  fraction := Scan.fractionDigits
    ((c :: cs).drop (Scan.wholeDigits (c :: cs)).length)
  isWhole := (Scan.isWhole_wholeDigits h).1
  isDigit_of_mem := Scan.isDigit_of_mem_fractionDigits

theorem length_written (numeral : Numeral) :
    numeral.written.length =
      Scan.numberLength numeral.whole numeral.fraction := by
  rw [written, Scan.numberLength, List.length_append]
  by_cases h : numeral.fraction = [] <;> simp [h]

theorem written_first_isPrefix {c : Char} (cs : List Char)
    (h : c.isDigit = true) : (first cs h).written <+: c :: cs := by
  obtain ⟨-, -, rest, hrest⟩ := @Scan.isWhole_wholeDigits c cs h
  have hfraction : (first cs h).fraction = Scan.fractionDigits rest := by
    have hdrop : (c :: cs).drop (Scan.wholeDigits (c :: cs)).length = rest := by
      generalize Scan.wholeDigits (c :: cs) = whole at hrest ⊢
      rw [← hrest, List.drop_left]
    exact congrArg Scan.fractionDigits hdrop
  unfold written
  by_cases hnil : (first cs h).fraction = []
  · rw [if_pos hnil, List.append_nil]
    exact ⟨rest, hrest⟩
  · obtain ⟨behind, hbehind, -⟩ := Scan.fractionDigits_spec (hfraction ▸ hnil)
    rw [← hfraction] at hbehind
    refine ⟨behind, ?_⟩
    rw [if_neg hnil, List.append_assoc, ← hbehind]
    exact hrest

/-- No number that a text starts with is longer. -/
theorem length_written_le_first {c : Char} {cs : List Char}
    (h : c.isDigit = true) {numeral : Numeral}
    (hfront : numeral.written <+: c :: cs) :
    numeral.written.length ≤ (first cs h).written.length := by
  obtain ⟨rest, hrest⟩ := hfront
  have hfirst : (first cs h).whole = Scan.wholeDigits (c :: cs) := rfl
  have hbehind : (first cs h).fraction =
      Scan.fractionDigits ((c :: cs).drop (first cs h).whole.length) := rfl
  rw [← hrest] at hfirst hbehind
  rw [length_written, length_written, Scan.numberLength, Scan.numberLength]
  by_cases hnil : numeral.fraction = []
  · have hwhole := Scan.length_le_wholeDigits numeral.isWhole rest
    rw [written, if_pos hnil, List.append_nil] at hfirst
    rw [← hfirst] at hwhole
    simp only [hnil, List.isEmpty_nil, if_true]
    omega
  · -- The point stops the digits before it, so both numbers have it in the
    -- same place.
    have hpoint : StopsAt Char.isDigit ('.' :: (numeral.fraction ++ rest)) :=
      stopsAt_cons rfl _
    have hwritten : numeral.written ++ rest =
        numeral.whole ++ '.' :: (numeral.fraction ++ rest) := by
      rw [written, if_neg hnil, List.append_assoc, List.cons_append]
    rw [hwritten] at hfirst hbehind
    rw [Scan.wholeDigits_append numeral.isWhole (Or.inr hpoint)] at hfirst
    rw [hfirst, List.drop_left] at hbehind
    have hfraction := Scan.length_le_fractionDigits numeral.isDigit_of_mem rest
    rw [← hbehind] at hfraction
    have hne : (first cs h).fraction ≠ [] := by
      intro hempty
      rw [hempty, List.length_nil, Nat.le_zero, List.length_eq_zero_iff]
        at hfraction
      exact hnil hfraction
    simp only [hfirst, List.isEmpty_eq_false_iff.mpr hnil,
      List.isEmpty_eq_false_iff.mpr hne, Bool.false_eq_true, if_false]
    omega

end Numeral

namespace Scan

/-- At a digit the scanner reads the longest number that stands there. -/
theorem token_eq_first (cursor : Cursor) {c : Char} {cs : List Char}
    (hrest : cursor.dropBlanks.rest = c :: cs) (h : c.isDigit = true) :
    let start := cursor.dropBlanks
    let numeral := Numeral.first cs h
    let behind := start.drop numeral.written.length
    Scan.token cursor =
      match Literal.ofDigits? numeral.whole numeral.fraction with
      | some value => .ok (.literal value) behind
      | none => .error ⟨.invalidNumber, start.offset⟩ behind := by
  intro start numeral behind
  have hsymbol : symbol? (c :: cs) = none :=
    symbol?_eq_none (notMem_symbolStarts_of_isDigit h) cs
  have hquote : ¬(c = '"' ∨ c = '\'') := by
    rintro (rfl | rfl) <;> cases h
  have hword : word c start = number start := by
    rw [word, position_bind_eq, if_neg hquote, if_pos h]
  rw [← token_dropBlanks, token_eq_word cursor.dropBlanks_dropBlanks hrest
    hsymbol, hword, number_eq]
  simp only [start, hrest, behind, numeral, Numeral.length_written]
  rfl

/-- What is read at a digit: the longest number that stands there, as an
integer, as a floating-point number, or as a fault at its first digit.  The
scanner stops behind the number, whatever it makes of it. -/
structure ReadsNumber (cursor : Cursor) (numeral : Numeral) : Prop where
  isPrefix : numeral.written <+: cursor.dropBlanks.rest
  longest (other : Numeral) (h : other.written <+: cursor.dropBlanks.rest) :
    other.written.length ≤ numeral.written.length
  integer_iff (n : Int64) :
    Scan.token cursor = .ok (.literal (.integer n))
        (cursor.dropBlanks.drop numeral.written.length) ↔
      numeral.FitsInteger ∧ (n.toInt : ℚ) = numeral.value
  real_iff :
    (∃ x : Binary64, x.Rounds numeral.value ∧
      Scan.token cursor = .ok (.literal (.real x))
        (cursor.dropBlanks.drop numeral.written.length)) ↔
      ¬numeral.FitsInteger ∧ numeral.value < 2 ^ 1024 - 2 ^ 970
  error_iff :
    (∃ error : LexicalError,
      (Failure.lexical error).diagnostic =
          ⟨.lexical, "Invalid number literal",
            some cursor.dropBlanks.offset⟩ ∧
        Scan.token cursor = .error error
          (cursor.dropBlanks.drop numeral.written.length)) ↔
      2 ^ 1024 - 2 ^ 970 ≤ numeral.value

/-- Where a digit comes next, a number is read.  It is an integer if it has no
fraction and is one of 64 bits.  Otherwise it is rounded once, and it is
refused only if that is not finite. -/
theorem exists_readsNumber (cursor : Cursor) {c : Char} {cs : List Char}
    (hrest : cursor.dropBlanks.rest = c :: cs) (h : c.isDigit = true) :
    ∃ numeral, ReadsNumber cursor numeral := by
  let numeral := Numeral.first cs h
  let behind := cursor.dropBlanks.drop numeral.written.length
  have htoken : Scan.token cursor =
      match Literal.ofDigits? numeral.whole numeral.fraction with
      | some value => .ok (.literal value) behind
      | none => .error ⟨.invalidNumber, cursor.dropBlanks.offset⟩ behind :=
    token_eq_first cursor hrest h
  have hfront : numeral.written <+: cursor.dropBlanks.rest :=
    hrest ▸ Numeral.written_first_isPrefix cs h
  have hlongest (other : Numeral)
      (hother : other.written <+: cursor.dropBlanks.rest) :
      other.written.length ≤ numeral.written.length :=
    Numeral.length_written_le_first h (hrest ▸ hother)
  refine ⟨numeral, ?_⟩
  rcases numeral.ofDigits?_cases with
    ⟨hfits, hlt, n, hn, hvalue⟩ | ⟨hfits, hlt, x, hx, hvalue⟩ |
      ⟨hfits, hge, hvalue⟩ <;>
    rw [hvalue] at htoken
  · refine ⟨hfront, hlongest, ?_, ?_, ?_⟩ <;> rw [htoken]
    · intro m
      constructor
      · intro hm
        cases hm
        exact ⟨hfits, hn⟩
      · rintro ⟨-, hm⟩
        have heq : m.toInt = n.toInt := by exact_mod_cast hm.trans hn.symm
        rw [Int64.toInt_inj.mp heq]
    · refine iff_of_false ?_ (fun h => h.1 hfits)
      rintro ⟨x, -, hx⟩
      cases hx
    · refine iff_of_false ?_ hlt.not_ge
      rintro ⟨error, -, herror⟩
      cases herror
  · refine ⟨hfront, hlongest, ?_, ?_, ?_⟩ <;> rw [htoken]
    · intro m
      refine iff_of_false ?_ (fun h => hfits h.1)
      intro hm
      cases hm
    · exact iff_of_true ⟨x, hx, rfl⟩ ⟨hfits, hlt⟩
    · refine iff_of_false ?_ hlt.not_ge
      rintro ⟨error, -, herror⟩
      cases herror
  · refine ⟨hfront, hlongest, ?_, ?_, ?_⟩ <;> rw [htoken]
    · intro m
      refine iff_of_false ?_ (fun h => hfits h.1)
      intro hm
      cases hm
    · refine iff_of_false ?_ (fun h => h.2.not_ge hge)
      rintro ⟨x, -, hx⟩
      cases hx
    · exact iff_of_true ⟨_, rfl, rfl⟩ hge

/-- The least integer that does not fit, behind a blank and before a point
without digits. -/
theorem exists_readsNumber_wide :
    let cursor := Cursor.atStart " 9223372036854775808.x"
    cursor.dropBlanks.rest = '9' :: "223372036854775808.x".toList ∧
      '9'.isDigit = true ∧ ∃ numeral, ReadsNumber cursor numeral := by
  intro cursor
  have hrest : cursor.dropBlanks.rest =
      '9' :: "223372036854775808.x".toList := by
    decide +kernel
  exact ⟨hrest, by decide, exists_readsNumber cursor hrest (by decide)⟩

end Scan

end DocFilter
