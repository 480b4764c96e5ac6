import DocFilter.Binary64.Rounding
import Mathlib.Algebra.Order.Field.Power
import Mathlib.Tactic.FieldSimp
import Mathlib.Tactic.Linarith
import Mathlib.Tactic.NormNum
import Mathlib.Tactic.Positivity
import Mathlib.Tactic.Ring

/-!
# Rounding to the nearest number

The number that a quotient is rounded to is a nearest one, and an even one if
there are two.  A quotient is rounded to an integer in units of its last place,
and every number that is as large is a multiple of this unit; the smaller ones
are too far away.  A quotient has no number exactly from the middle between the
largest finite number and the next power of two on.
-/

namespace DocFilter.Binary64

/-! ## Values -/

/-- The value of a magnitude. -/
def Magnitude.value (magnitude : Magnitude) : ℚ :=
  magnitude.significand * 2 ^ magnitude.exponent

/-- The value of a finite number. -/
def toRat (x : Binary64) : ℚ :=
  if x.isNegative then -x.magnitude.value else x.magnitude.value

/-- A finite number is what a value is rounded to: no other one is nearer to
it, and among two that are equally near it is the even one.  It has a sign if
the value has one. -/
structure Rounds (x : Binary64) (value : ℚ) : Prop where
  isFinite : x.isFinite = true
  isNegative : x.isNegative = decide (value < 0)
  nearest (y : Binary64) (h : y.isFinite = true) :
    |x.toRat - value| ≤ |y.toRat - value|
  even (y : Binary64) (h : y.isFinite = true)
    (htie : |y.toRat - value| = |x.toRat - value|) (hne : y.toRat ≠ x.toRat) :
    Even x.magnitude.significand

theorem Magnitude.value_nonneg (magnitude : Magnitude) :
    0 ≤ magnitude.value := by
  unfold Magnitude.value
  positivity

theorem significand_magnitude_lt (x : Binary64) :
    x.magnitude.significand < 2 ^ 53 := by
  have hfraction : x.pattern % Nat.pow 2 52 < Nat.pow 2 52 :=
    Nat.mod_lt _ (by decide)
  have hpow : Nat.pow 2 52 = 2 ^ 52 := rfl
  unfold magnitude
  simp only
  split_ifs <;> simp only <;> omega

theorem exponent_magnitude_ge (x : Binary64) :
    -1074 ≤ x.magnitude.exponent := by
  have hpow : Nat.pow 2 52 = 2 ^ 52 := rfl
  unfold magnitude
  simp only [hpow]
  split_ifs <;> simp only <;> omega

/-- A pattern that is put together from a place and a significand has their
value.  A significand that is carried over is a power of two. -/
theorem magnitude_of_pattern_eq {x : Binary64} {place significand : Nat}
    (hpattern : x.pattern = place * Nat.pow 2 52 + significand)
    (hsignificand : significand ≤ 2 ^ 53)
    (hplace : 0 < place → 2 ^ 52 ≤ significand) :
    (x.magnitude.significand = significand ∧
        x.magnitude.exponent = (place : ℤ) - 1074) ∨
      significand = 2 ^ 53 ∧ x.magnitude.significand = 2 ^ 52 ∧
        x.magnitude.exponent = (place : ℤ) - 1073 := by
  have hpow : Nat.pow 2 52 = 2 ^ 52 := rfl
  unfold magnitude
  simp only [hpow] at hpattern ⊢
  split_ifs <;> simp only <;> omega

theorem value_magnitude_of_pattern_eq {x : Binary64} {place significand : Nat}
    (hpattern : x.pattern = place * Nat.pow 2 52 + significand)
    (hsignificand : significand ≤ 2 ^ 53)
    (hplace : 0 < place → 2 ^ 52 ≤ significand) :
    x.magnitude.value = significand * 2 ^ ((place : ℤ) - 1074) := by
  unfold Magnitude.value
  rcases magnitude_of_pattern_eq hpattern hsignificand hplace with
    ⟨hsame, hexponent⟩ | ⟨hcarry, hsame, hexponent⟩
  · rw [hsame, hexponent]
  · have hsucc : (place : ℤ) - 1073 = (place : ℤ) - 1074 + 1 := by ring
    rw [hsame, hexponent, hcarry, hsucc, zpow_add_one₀ two_ne_zero]
    push_cast
    ring

/-! ## Rounding to an integer -/

/-- A natural number is a nearest one to a value, and the even one of two. -/
structure IsNearestNat (n : Nat) (value : ℚ) : Prop where
  distance_le : |(n : ℚ) - value| ≤ 1 / 2
  even (h : |(n : ℚ) - value| = 1 / 2) : Even n

theorem isNearestNat_roundHalfEven {num den : Nat} (hden : 0 < den) :
    IsNearestNat (roundHalfEven num den) (num / den) := by
  let quotient := num / den
  let part : ℚ := (num % den : Nat) / den
  have hden' : (0 : ℚ) < den := by exact_mod_cast hden
  have hpart : 0 ≤ part := by positivity
  have hvalue : (num : ℚ) / den = quotient + part := by
    have hnum : (num : ℚ) = den * quotient + (num % den : Nat) := by
      exact_mod_cast (Nat.div_add_mod num den).symm
    rw [hnum, add_div, mul_div_cancel_left₀ _ hden'.ne']
  have hpart_lt : part < 1 := by
    rw [div_lt_one hden']
    exact_mod_cast Nat.mod_lt num hden
  have hkept : |(quotient : ℚ) - (quotient + part)| = part := by
    rw [sub_add_cancel_left, abs_neg, abs_of_nonneg hpart]
  have hraised : |((quotient + 1 : Nat) : ℚ) - (quotient + part)| =
      1 - part := by
    rw [Nat.cast_add_one, add_sub_add_left_eq_sub, abs_of_pos (by linarith)]
  rw [hvalue]
  unfold roundHalfEven
  simp only
  split
  next hcompare =>
    have hlt : part < 1 / 2 := by
      rw [div_lt_div_iff₀ hden' two_pos]
      have := Nat.compare_eq_lt.mp hcompare
      exact_mod_cast (by omega : num % den * 2 < 1 * den)
    refine ⟨by rw [hkept]; exact hlt.le, ?_⟩
    intro h
    exact absurd (hkept.symm.trans h) hlt.ne
  next hcompare =>
    have hgt : 1 / 2 < part := by
      rw [div_lt_div_iff₀ two_pos hden']
      have := Nat.compare_eq_gt.mp hcompare
      exact_mod_cast (by omega : 1 * den < num % den * 2)
    refine ⟨by rw [hraised]; linarith, ?_⟩
    intro h
    rw [hraised] at h
    linarith
  next hcompare =>
    have heq : part = 1 / 2 := by
      rw [div_eq_div_iff hden'.ne' two_ne_zero]
      have := Nat.compare_eq_eq.mp hcompare
      exact_mod_cast (by omega : num % den * 2 = 1 * den)
    split_ifs with heven
    · exact ⟨by rw [hkept, heq], fun _ => Nat.even_iff.mpr heven⟩
    · refine ⟨by rw [hraised, heq]; norm_num, fun _ => ?_⟩
      rw [Nat.even_add_one, Nat.even_iff]
      exact heven

namespace IsNearestNat

variable {n : Nat} {value : ℚ} (h : IsNearestNat n value)

include h

/-- No integer is nearer. -/
theorem nearest (k : ℤ) : |(n : ℚ) - value| ≤ |(k : ℚ) - value| := by
  by_cases heq : k = n
  · rw [heq, Int.cast_natCast]
  · have hdistance : (1 : ℚ) ≤ |(k : ℚ) - n| := by
      have hint : 1 ≤ |k - n| := Int.one_le_abs (sub_ne_zero.mpr heq)
      exact_mod_cast hint
    have htriangle := abs_sub_le (k : ℚ) value n
    rw [abs_sub_comm value] at htriangle
    linarith [h.distance_le]

/-- If another integer is as near, the number is even. -/
theorem even_of_tie {k : ℤ} (hne : k ≠ n)
    (htie : |(k : ℚ) - value| = |(n : ℚ) - value|) : Even n := by
  have hdistance : (1 : ℚ) ≤ |(k : ℚ) - n| := by
    have hint : 1 ≤ |k - n| := Int.one_le_abs (sub_ne_zero.mpr hne)
    exact_mod_cast hint
  have htriangle := abs_sub_le (k : ℚ) value n
  rw [abs_sub_comm value] at htriangle
  exact h.even (by linarith [h.distance_le])

theorem le_of_le {k : Nat} (hk : value ≤ k) : n ≤ k := by
  have habove := (abs_le.mp h.distance_le).2
  have hlt : (n : ℚ) < k + 1 := by linarith
  exact Nat.lt_succ_iff.mp (by exact_mod_cast hlt)

theorem ge_of_ge {k : Nat} (hk : k ≤ value) : k ≤ n := by
  have hbelow := (abs_le.mp h.distance_le).1
  have hlt : (k : ℚ) < n + 1 := by linarith
  exact Nat.lt_succ_iff.mp (by exact_mod_cast hlt)

/-- The number is below an even one exactly if the value is below the middle
before it. -/
theorem lt_iff_of_even {k : Nat} (hk : Even k) :
    n < k ↔ value < k - 1 / 2 := by
  obtain ⟨hbelow, habove⟩ := abs_le.mp h.distance_le
  constructor
  · intro hlt
    by_contra hmiddle
    have hle : (n : ℚ) + 1 ≤ k := by exact_mod_cast hlt
    have hdistance : (n : ℚ) - value = -(1 / 2) := by linarith
    have heven : Even n := h.even (by rw [hdistance]; norm_num)
    have hsucc : k = n + 1 := by
      have heq : (k : ℚ) = n + 1 := by linarith
      exact_mod_cast heq
    rw [hsucc, Nat.even_add_one] at hk
    exact hk heven
  · intro hmiddle
    have hlt : (n : ℚ) < k := by linarith
    exact_mod_cast hlt

end IsNearestNat

/-! ## The last place -/

/-- Scaling both parts of a quotient by a power of two scales the quotient. -/
theorem cast_scaled (num den : Nat) (exponent : ℤ) :
    ((num * Nat.pow 2 (-exponent).toNat : Nat) : ℚ) /
        (den * Nat.pow 2 exponent.toNat : Nat) =
      num / den / 2 ^ exponent := by
  rcases le_total 0 exponent with hexponent | hexponent
  · obtain ⟨n, rfl⟩ := Int.eq_ofNat_of_zero_le hexponent
    simp [div_div]
  · obtain ⟨n, hn⟩ := Int.eq_ofNat_of_zero_le (neg_nonneg.mpr hexponent)
    obtain rfl : exponent = -n := by rw [← hn, neg_neg]
    simp [mul_div_right_comm]

section

variable {num den : Nat} (hnum : 0 < num) (hden : 0 < den)

include hnum hden

/-- The exponent of the largest power of two that is at most a quotient. -/
theorem log2Ratio_spec :
    (2 : ℚ) ^ log2Ratio num den ≤ num / den ∧
      (num / den : ℚ) < 2 ^ (log2Ratio num den + 1) := by
  let near : ℤ := (num.log2 : ℤ) - den.log2
  have hden' : (0 : ℚ) < den := by exact_mod_cast hden
  have hnear : den * Nat.pow 2 near.toNat ≤ num * Nat.pow 2 (-near).toNat ↔
      (2 : ℚ) ^ near ≤ num / den := by
    have hscaled : 0 < den * Nat.pow 2 near.toNat :=
      Nat.mul_pos hden (Nat.two_pow_pos _)
    have hscaled' : (0 : ℚ) < (den * Nat.pow 2 near.toNat : Nat) := by
      exact_mod_cast hscaled
    rw [← @Nat.cast_le ℚ, ← one_le_div hscaled', cast_scaled,
      one_le_div (zpow_pos two_pos near)]
  have hlog {n : Nat} (hn : 0 < n) : (2 : ℚ) ^ (n.log2 : ℤ) ≤ n ∧
      (n : ℚ) < 2 ^ ((n.log2 : ℤ) + 1) :=
    ⟨by exact_mod_cast Nat.log2_self_le hn.ne',
      by exact_mod_cast Nat.lt_log2_self⟩
  obtain ⟨hnumlog', hnumlog⟩ := hlog hnum
  obtain ⟨hdenlog', hdenlog⟩ := hlog hden
  have hbelow : (2 : ℚ) ^ (near - 1) ≤ num / den := by
    rw [le_div_iff₀ hden']
    calc (2 : ℚ) ^ (near - 1) * den
        ≤ 2 ^ (near - 1) * 2 ^ ((den.log2 : ℤ) + 1) := by
          gcongr
      _ = 2 ^ (num.log2 : ℤ) := by
          rw [← zpow_add₀ two_ne_zero]
          congr 1
          omega
      _ ≤ num := hnumlog'
  have habove : (num / den : ℚ) < 2 ^ (near + 1) := by
    rw [div_lt_iff₀ hden']
    calc (num : ℚ) < 2 ^ ((num.log2 : ℤ) + 1) := hnumlog
      _ = 2 ^ (near + 1) * 2 ^ (den.log2 : ℤ) := by
          rw [← zpow_add₀ two_ne_zero]
          congr 1
          omega
      _ ≤ 2 ^ (near + 1) * den := by
          gcongr
  unfold log2Ratio
  simp only
  split_ifs with h
  · exact ⟨hnear.mp h, habove⟩
  · have hlt := lt_of_not_ge (mt hnear.mpr h)
    refine ⟨hbelow, ?_⟩
    rwa [sub_add_cancel]

theorem lt_two_zpow_lastPlace_add :
    (num / den : ℚ) < 2 ^ (lastPlace num den + 53) := by
  have hlast : log2Ratio num den + 1 ≤ lastPlace num den + 53 := by
    unfold lastPlace
    omega
  exact (log2Ratio_spec hnum hden).2.trans_le
    (zpow_le_zpow_right₀ one_le_two hlast)

/-- Above the smallest place, the place is that of the leading digit. -/
theorem two_zpow_lastPlace_add_le (h : -1074 < lastPlace num den) :
    (2 : ℚ) ^ (lastPlace num den + 52) ≤ num / den := by
  have hlast : lastPlace num den + 52 = log2Ratio num den := by
    unfold lastPlace at h ⊢
    omega
  rw [hlast]
  exact (log2Ratio_spec hnum hden).1

end

theorem neg_le_lastPlace (num den : Nat) : -1074 ≤ lastPlace num den :=
  le_max_right _ _

/-- The significand that a quotient is rounded to, in units of its last
place. -/
def roundedSignificand (num den : Nat) : Nat :=
  let place := lastPlace num den
  roundHalfEven (num * Nat.pow 2 (-place).toNat) (den * Nat.pow 2 place.toNat)

theorem isNearestNat_roundedSignificand {num den : Nat} (hden : 0 < den) :
    IsNearestNat (roundedSignificand num den)
      (num / den / 2 ^ lastPlace num den) := by
  rw [← cast_scaled]
  exact isNearestNat_roundHalfEven (Nat.mul_pos hden (Nat.two_pow_pos _))

theorem roundedSignificand_le {num den : Nat} (hnum : 0 < num)
    (hden : 0 < den) : roundedSignificand num den ≤ 2 ^ 53 := by
  apply (isNearestNat_roundedSignificand hden).le_of_le
  have hlt := lt_two_zpow_lastPlace_add hnum hden
  rw [add_comm, zpow_add₀ two_ne_zero] at hlt
  rw [div_le_iff₀ (zpow_pos two_pos _)]
  exact_mod_cast hlt.le

theorem le_roundedSignificand {num den : Nat} (hnum : 0 < num)
    (hden : 0 < den) (h : -1074 < lastPlace num den) :
    2 ^ 52 ≤ roundedSignificand num den := by
  apply (isNearestNat_roundedSignificand hden).ge_of_ge
  have hle := two_zpow_lastPlace_add_le hnum hden h
  rw [add_comm, zpow_add₀ two_ne_zero] at hle
  rw [le_div_iff₀ (zpow_pos two_pos _)]
  exact_mod_cast hle

/-! ## Finite numbers -/

theorem toNat_bits_ofRatio {num den : Nat} (hnum : 0 < num) :
    (ofRatio num den).bits.toNat =
      min (roundedPattern num den) infinityPattern := by
  have hle : min (roundedPattern num den) infinityPattern ≤
      infinityPattern := Nat.min_le_right _ _
  have hpattern : infinityPattern < 2 ^ 64 := by decide
  rw [ofRatio, if_neg hnum.ne', UInt64.toNat_ofNat',
    Nat.mod_eq_of_lt (by omega)]

theorem pattern_ofRatio {num den : Nat} (hnum : 0 < num) :
    (ofRatio num den).pattern =
      min (roundedPattern num den) infinityPattern := by
  have hle : min (roundedPattern num den) infinityPattern ≤
      infinityPattern := Nat.min_le_right _ _
  have hpattern : infinityPattern < Nat.pow 2 63 := by decide
  rw [pattern, toNat_bits_ofRatio hnum, Nat.mod_eq_of_lt (by omega)]

theorem isNegative_ofRatio {num den : Nat} (hnum : 0 < num) :
    (ofRatio num den).isNegative = false := by
  have hle : min (roundedPattern num den) infinityPattern ≤
      infinityPattern := Nat.min_le_right _ _
  have hpattern : infinityPattern < Nat.pow 2 63 := by decide
  rw [isNegative, toNat_bits_ofRatio hnum, decide_eq_false_iff_not]
  omega

/-- The pattern of a quotient says its last place, and its significand in units
of it. -/
theorem roundedPattern_eq {num den place : Nat}
    (hplace : lastPlace num den + 1074 = place) :
    roundedPattern num den =
      place * Nat.pow 2 52 + roundedSignificand num den := by
  unfold roundedPattern roundedSignificand
  simp only
  rw [hplace, Int.toNat_natCast]

/-- The middle between the largest finite number and the next power of two, in
units of the last place. -/
theorem finiteLimit_eq :
    (2 : ℚ) ^ 1024 - 2 ^ 970 = (2 ^ 53 - 1 / 2) * 2 ^ 971 := by
  have hpower : (2 : ℚ) ^ 1024 = 2 ^ 54 * 2 ^ 970 := pow_add 2 54 970
  have hplace : (2 : ℚ) ^ 971 = 2 * 2 ^ 970 := pow_succ' 2 970
  rw [hpower, hplace]
  generalize (2 : ℚ) ^ 970 = unit
  ring

theorem two_pow_lt_finiteLimit : (2 : ℚ) ^ 1023 < 2 ^ 1024 - 2 ^ 970 := by
  have hpower : (2 : ℚ) ^ 1024 = 2 ^ 1023 + 2 ^ 1023 :=
    (pow_succ 2 1023).trans (mul_two _)
  rw [hpower, add_sub_assoc, lt_add_iff_pos_right, sub_pos]
  exact pow_lt_pow_right₀ one_lt_two (by decide)

/-- A quotient is finite if it is below the middle between the largest finite
number and the next power of two. -/
theorem isFinite_ofRatio_iff {num den : Nat} (hden : 0 < den) :
    (ofRatio num den).isFinite = true ↔
      (num / den : ℚ) < 2 ^ 1024 - 2 ^ 970 := by
  rcases Nat.eq_zero_or_pos num with rfl | hnum
  · have hfinite : (ofRatio 0 den).isFinite = true := rfl
    have hpos : (2 : ℚ) ^ 970 < 2 ^ 1024 :=
      pow_lt_pow_right₀ one_lt_two (by decide)
    simpa only [hfinite, Nat.cast_zero, zero_div, true_iff, sub_pos]
  obtain ⟨place, hplace⟩ : ∃ place : Nat, lastPlace num den + 1074 = place :=
    Int.eq_ofNat_of_zero_le (by linarith [neg_le_lastPlace num den])
  have hsignificand := roundedSignificand_le hnum hden
  have hnormal := le_roundedSignificand hnum hden
  have hfinite : (ofRatio num den).isFinite = true ↔
      place < 2045 ∨ place = 2045 ∧ roundedSignificand num den < 2 ^ 53 := by
    have hinfinity : infinityPattern = 2047 * 2 ^ 52 := rfl
    have hpow : Nat.pow 2 52 = 2 ^ 52 := rfl
    rw [isFinite, decide_eq_true_iff, pattern_ofRatio hnum,
      roundedPattern_eq hplace, hinfinity, hpow]
    omega
  rw [hfinite]
  rcases lt_trichotomy place 2045 with hlt | rfl | hgt
  · have hle : (2 : ℚ) ^ (lastPlace num den + 53) ≤ 2 ^ (1023 : ℤ) :=
      zpow_le_zpow_right₀ one_le_two (by omega)
    have hbound := (lt_two_zpow_lastPlace_add hnum hden).trans_le hle
    exact iff_of_true (Or.inl hlt) (hbound.trans two_pow_lt_finiteLimit)
  · have hlast : lastPlace num den = (971 : Nat) := by omega
    have hnearest := @isNearestNat_roundedSignificand num den hden
    have hiff := hnearest.lt_iff_of_even (k := 2 ^ 53) (by decide)
    rw [hlast, zpow_natCast, div_lt_iff₀ (by positivity)] at hiff
    push_cast at hiff
    simp only [lt_irrefl, true_and, false_or, finiteLimit_eq]
    exact hiff
  · have hle : (2 : ℚ) ^ (1024 : ℤ) ≤ 2 ^ (lastPlace num den + 52) :=
      zpow_le_zpow_right₀ one_le_two (by omega)
    have hbound :=
      hle.trans (two_zpow_lastPlace_add_le hnum hden (by omega))
    have hlimit : (2 : ℚ) ^ 1024 - 2 ^ 970 ≤ 2 ^ 1024 :=
      sub_le_self _ (by positivity)
    exact iff_of_false (by omega) (hlimit.trans hbound).not_gt

/-! ## Nearest numbers -/

/-- In units of a place, a number is an integer, or it is small. -/
theorem toRat_cases (y : Binary64) {place : ℤ} (hplace : -1074 ≤ place) :
    (∃ k : ℤ, y.toRat = k * 2 ^ place) ∨
      -1074 < place ∧ y.toRat < 2 ^ (52 : ℤ) * 2 ^ place := by
  have hsign : y.toRat = y.magnitude.value ∨
      y.toRat = -y.magnitude.value := by
    unfold toRat
    split_ifs
    · exact Or.inr rfl
    · exact Or.inl rfl
  rcases le_or_gt place y.magnitude.exponent with hle | hgt
  · obtain ⟨shift, hshift⟩ := Int.eq_ofNat_of_zero_le (sub_nonneg.mpr hle)
    have hexponent : y.magnitude.exponent = shift + place := by omega
    have hvalue : y.magnitude.value =
        ((y.magnitude.significand * 2 ^ shift : ℤ) : ℚ) * 2 ^ place := by
      rw [Magnitude.value, hexponent, zpow_add₀ two_ne_zero, zpow_natCast]
      push_cast
      ring
    rcases hsign with hsign | hsign
    · exact Or.inl ⟨_, hsign.trans hvalue⟩
    · refine Or.inl ⟨-(y.magnitude.significand * 2 ^ shift : ℤ), ?_⟩
      rw [hsign, hvalue, Int.cast_neg, neg_mul]
  · have hexponent := exponent_magnitude_ge y
    have hsignificand : (y.magnitude.significand : ℚ) < 2 ^ 53 := by
      exact_mod_cast significand_magnitude_lt y
    have hvalue : y.magnitude.value < 2 ^ (52 : ℤ) * 2 ^ place := by
      calc y.magnitude.value
          < 2 ^ 53 * 2 ^ y.magnitude.exponent :=
            mul_lt_mul_of_pos_right hsignificand (zpow_pos two_pos _)
        _ = 2 ^ (53 + y.magnitude.exponent) := by
            rw [zpow_add₀ two_ne_zero]
            norm_num
        _ ≤ 2 ^ (52 + place) := zpow_le_zpow_right₀ one_le_two (by omega)
        _ = 2 ^ (52 : ℤ) * 2 ^ place := zpow_add₀ two_ne_zero _ _
    refine Or.inr ⟨by omega, ?_⟩
    rcases hsign with hsign | hsign
    · rwa [hsign]
    · have hnonneg := y.magnitude.value_nonneg
      linarith

/-- The distance of two multiples of a unit. -/
theorem abs_mul_sub_mul_eq {unit : ℚ} (hunit : 0 < unit) (n value : ℚ) :
    |n * unit - value| = |n - value / unit| * unit := by
  rw [← abs_of_pos hunit, ← abs_mul, abs_of_pos hunit, sub_mul,
    div_mul_cancel₀ _ hunit.ne']

namespace IsNearestNat

variable {n : Nat} {value unit : ℚ} (h : IsNearestNat n (value / unit))
  (hunit : 0 < unit)

include h hunit

/-- No multiple of the unit is nearer. -/
theorem nearest_multiple (k : ℤ) :
    |n * unit - value| ≤ |k * unit - value| := by
  rw [abs_mul_sub_mul_eq hunit, abs_mul_sub_mul_eq hunit]
  exact mul_le_mul_of_nonneg_right (h.nearest k) hunit.le

/-- If another multiple of the unit is as near, then the number is even. -/
theorem even_of_multiple_tie {k : ℤ} (hne : k * unit ≠ n * unit)
    (htie : |k * unit - value| = |n * unit - value|) : Even n := by
  rw [abs_mul_sub_mul_eq hunit, abs_mul_sub_mul_eq hunit,
    mul_left_inj' hunit.ne'] at htie
  have hne' : k ≠ n := by
    rintro rfl
    exact hne rfl
  exact h.even_of_tie hne' htie

/-- What lies below a multiple of the unit, which is not above the value, is not
as near. -/
theorem abs_sub_lt_of_lt {k : ℤ} (hle : k * unit ≤ value) {y : ℚ}
    (hy : y < k * unit) : |n * unit - value| < |y - value| :=
  calc |n * unit - value|
      ≤ |k * unit - value| := h.nearest_multiple hunit k
    _ = value - k * unit := by
        rw [abs_sub_comm, abs_of_nonneg (sub_nonneg.mpr hle)]
    _ < value - y := sub_lt_sub_left hy value
    _ ≤ |y - value| := by
        rw [abs_sub_comm]
        exact le_abs_self _

end IsNearestNat

theorem rounds_zero : Rounds ⟨0⟩ 0 := by
  have hzero : toRat ⟨0⟩ = 0 := by
    have hmagnitude : magnitude ⟨0⟩ = ⟨0, -1074, false⟩ := rfl
    simp [toRat, hmagnitude, Magnitude.value]
  refine ⟨by decide, by decide, ?_, ?_⟩
  · intro y _
    rw [hzero, sub_zero, abs_zero]
    exact abs_nonneg _
  · intro y _ htie hne
    rw [hzero] at htie hne
    simp only [sub_zero, abs_zero, abs_eq_zero] at htie
    exact absurd htie hne

/-- The parts of a quotient that is finite: its last place and the significand
that is rounded there. -/
theorem pattern_ofRatio_of_isFinite
    {num den place : Nat} (hnum : 0 < num)
    (hplace : lastPlace num den + 1074 = place)
    (hfinite : (ofRatio num den).isFinite = true) :
    (ofRatio num den).pattern =
      place * Nat.pow 2 52 + roundedSignificand num den := by
  have hlt := of_decide_eq_true hfinite
  rw [pattern_ofRatio hnum] at hlt ⊢
  rw [roundedPattern_eq hplace] at hlt ⊢
  omega

/-- A finite quotient is rounded to a nearest number, and to the even one of
two. -/
theorem rounds_ofRatio {num den : Nat} (hden : 0 < den)
    (hfinite : (ofRatio num den).isFinite = true) :
    (ofRatio num den).Rounds (num / den) := by
  rcases Nat.eq_zero_or_pos num with rfl | hnum
  · rw [Nat.cast_zero, zero_div]
    exact rounds_zero
  obtain ⟨place, hplace⟩ : ∃ place : Nat, lastPlace num den + 1074 = place :=
    Int.eq_ofNat_of_zero_le (by linarith [neg_le_lastPlace num den])
  have hlast : lastPlace num den = (place : ℤ) - 1074 := by omega
  have hpattern := pattern_ofRatio_of_isFinite hnum hplace hfinite
  have hsignificand := roundedSignificand_le hnum hden
  have hnormal : 0 < place → 2 ^ 52 ≤ roundedSignificand num den :=
    fun h => le_roundedSignificand hnum hden (by omega)
  have hunit : (0 : ℚ) < 2 ^ lastPlace num den := zpow_pos two_pos _
  have hnearest := @isNearestNat_roundedSignificand num den hden
  have hvalue : (ofRatio num den).toRat =
      roundedSignificand num den * 2 ^ lastPlace num den := by
    have hmagnitude :=
      value_magnitude_of_pattern_eq hpattern hsignificand hnormal
    rw [toRat, isNegative_ofRatio hnum, hmagnitude, hlast]
    rfl
  have hsmall (y : Binary64) (h : -1074 < lastPlace num den)
      (hy : y.toRat < 2 ^ (52 : ℤ) * 2 ^ lastPlace num den) :
      |(ofRatio num den).toRat - num / den| < |y.toRat - num / den| := by
    have hle : (2 : ℚ) ^ (52 : ℤ) * 2 ^ lastPlace num den ≤ num / den := by
      rw [← zpow_add₀ two_ne_zero, add_comm]
      exact two_zpow_lastPlace_add_le hnum hden h
    have hcast : ((2 ^ 52 : ℤ) : ℚ) = 2 ^ (52 : ℤ) := by norm_cast
    rw [← hcast] at hle hy
    rw [hvalue]
    exact hnearest.abs_sub_lt_of_lt hunit hle hy
  constructor
  · exact hfinite
  · rw [isNegative_ofRatio hnum]
    symm
    rw [decide_eq_false_iff_not, not_lt]
    positivity
  · intro y _
    rcases toRat_cases y (neg_le_lastPlace num den) with ⟨k, hk⟩ | ⟨h, hy⟩
    · rw [hvalue, hk]
      exact hnearest.nearest_multiple hunit k
    · exact (hsmall y h hy).le
  · intro y _ htie hne
    rcases toRat_cases y (neg_le_lastPlace num den) with ⟨k, hk⟩ | ⟨h, hy⟩
    · rw [hvalue, hk] at hne htie
      have heven := hnearest.even_of_multiple_tie hunit hne htie
      rcases magnitude_of_pattern_eq hpattern hsignificand hnormal with
        ⟨hsame, -⟩ | ⟨-, hsame, -⟩
      · rwa [hsame]
      · rw [hsame]
        decide
    · exact absurd htie (hsmall y h hy).ne'

end DocFilter.Binary64
