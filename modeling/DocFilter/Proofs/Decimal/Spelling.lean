import DocFilter.Decimal.Layout
import DocFilter.Proofs.Lexemes.Lexeme

/-!
# Digits of written numbers

A natural number is written in decimal digits without leading zeros, and an
integer with a sign in front.  A floating-point number other than zero is never
written as zero: the decimal that identifies it has a positive number of
digits, because zero identifies zero only.
-/

namespace DocFilter

/-! ## Integers -/

namespace Decimal

/-- The digits of a positive number start with another one than zero. -/
theorem toDigits_eq_cons {n : Nat} (hn : 0 < n) :
    ∃ c cs, Nat.toDigits 10 n = c :: cs ∧ c ≠ '0' := by
  induction n using Nat.strongRecOn with
  | ind n ih =>
    rcases Nat.lt_or_ge n 10 with hlt | hge
    · have hdigit : ∀ n < 10, 0 < n → n.digitChar ≠ '0' := by decide
      exact ⟨_, _, Nat.toDigits_of_lt_base hlt, hdigit n hlt hn⟩
    · obtain ⟨c, cs, hdigits, hc⟩ := ih (n / 10) (by omega) (by omega)
      rw [Nat.toDigits_of_base_le (by decide) hge, hdigits]
      exact ⟨c, _, rfl, hc⟩

theorem isDigit_of_mem_toDigits {n : Nat} :
    ∀ digit ∈ Nat.toDigits 10 n, digit.isDigit = true :=
  fun _ hdigit => Nat.isDigit_of_mem_toDigits (by decide) (by decide) hdigit

theorem isWhole_toDigits (n : Nat) : IsWhole (Nat.toDigits 10 n) := by
  rcases Nat.eq_zero_or_pos n with rfl | hn
  · exact .zero
  · obtain ⟨c, cs, hdigits, hc⟩ := toDigits_eq_cons hn
    have hall := @isDigit_of_mem_toDigits n
    rw [hdigits] at hall ⊢
    exact .digits hc hall

theorem isDigit_of_mem_toString {n : Nat} {c : Char}
    (h : c ∈ (toString n).toList) : c.isDigit := by
  have htoString : (toString n).toList = Nat.toDigits 10 n := Nat.toList_repr
  rw [htoString] at h
  exact isDigit_of_mem_toDigits c h

theorem toList_toString (n : Int) :
    (toString n).toList =
      (if n < 0 then ['-'] else []) ++ Nat.toDigits 10 n.natAbs := by
  have hrepr : toString n = n.repr := rfl
  rw [hrepr, Int.repr_eq_if]
  rcases Int.lt_or_le n 0 with hlt | hge
  · have habs : (-n).toNat = n.natAbs := by omega
    rw [if_neg (Int.not_le.mpr hlt), if_pos hlt, String.toList_append,
      Nat.toList_repr, habs]
    rfl
  · have habs : n.toNat = n.natAbs := by omega
    rw [if_pos hge, if_neg (Int.not_lt.mpr hge), Nat.toList_repr, habs,
      List.nil_append]

end Decimal

/-! ## Floating-point numbers -/

/-- A number other than zero has a significand. -/
theorem Binary64.significand_magnitude_pos {x : Binary64}
    (h : x.isZero = false) : 0 < x.magnitude.significand := by
  have hpattern : x.pattern ≠ 0 := beq_eq_false_iff_ne.mp h
  have hpow : Nat.pow 2 52 = 2 ^ 52 := rfl
  unfold magnitude
  simp only [hpow]
  split_ifs <;> simp only <;> omega

namespace Decimal

open Binary64 (Magnitude)

theorem compareScaled_zero {n : Nat} (hn : 0 < n) (i j : Int) :
    compareScaled 0 i n j = .lt := by
  have hpos : 0 < n * Nat.pow 2 j.toNat * Nat.pow 10 (-i).toNat :=
    Nat.mul_pos (Nat.mul_pos hn (Nat.pow_pos (by decide)))
      (Nat.pow_pos (by decide))
  rw [compareScaled, Nat.zero_mul, Nat.zero_mul]
  exact Nat.compare_eq_lt.mpr hpos

theorem le_nearer (tie : Tie) (x : Magnitude) (low : Nat) (exponent : Int) :
    low ≤ nearer tie x low exponent := by
  unfold nearer
  split
  · exact Nat.le_refl low
  · exact Nat.le_succ low
  · cases tie with
    | up => exact Nat.le_succ low
    | toEven =>
      simp only
      split_ifs
      · exact Nat.le_refl low
      · exact Nat.le_succ low

variable {tie : Tie} {x : Magnitude} (hx : 0 < x.significand)

include hx

theorem identifies_zero (exponent : Int) :
    identifies ⟨0, exponent⟩ x = false := by
  have hlow : 0 < if x.isNarrowBelow then 4 * x.significand - 1
      else 4 * x.significand - 2 := by
    split_ifs <;> omega
  unfold identifies
  simp only [compareScaled_zero hlow]
  simp

theorem digits_pos_of_onGrid? {exponent : Int} {d : Decimal}
    (h : onGrid? tie x exponent = some d) : 0 < d.digits := by
  have hlow : identifies ⟨floorAt x exponent, exponent⟩ x = true →
      0 < floorAt x exponent := by
    intro htrue
    apply Nat.pos_of_ne_zero
    intro hzero
    rw [hzero, identifies_zero hx] at htrue
    cases htrue
  unfold onGrid? at h
  simp only at h
  split at h
  next htrue _ =>
    cases h
    exact Nat.lt_of_lt_of_le (hlow htrue) (le_nearer tie x _ exponent)
  next htrue _ =>
    cases h
    exact hlow htrue
  next =>
    cases h
    exact Nat.succ_pos _
  next => cases h

theorem digits_exact_pos : 0 < (exact x).digits := by
  unfold exact
  split_ifs
  · exact Nat.mul_pos hx (Nat.pow_pos (by decide))
  · exact Nat.mul_pos hx (Nat.pow_pos (by decide))

omit hx in
theorem digits_strip_pos (count : Nat) {d : Decimal} (hd : 0 < d.digits) :
    0 < (strip count d).digits := by
  induction count generalizing d with
  | zero => exact hd
  | succ count ih =>
    rw [strip]
    split_ifs with hzero
    · exact ih (by simp only; omega)
    · exact hd

theorem digits_shortest_pos : 0 < (shortest tie x).digits := by
  unfold shortest
  simp only
  apply digits_strip_pos
  cases hfound : (List.range 17).findSome? fun n =>
      onGrid? tie x (scale x - (n + 1 : Nat)) with
  | none => exact digits_exact_pos hx
  | some d =>
    obtain ⟨n, -, hgrid⟩ := List.exists_of_findSome?_eq_some hfound
    exact digits_pos_of_onGrid? hx hgrid

end Decimal

end DocFilter
