import DocFilter.Proofs.Decimal.Spelling
import DocFilter.Proofs.Json.Reader
import DocFilter.Proofs.Lexemes.Numbers

/-!
# Numbers in JSON

Integers and finite floating-point numbers are written as JSON wants them, and
the spelling of a floating-point number has a point or an exponent, which that
of an integer never has.
-/

namespace DocFilter.Json

/-! ## Spellings -/

/-- The characters are an exponent, or there is none. -/
inductive IsExponent : List Char → Prop
  | none : IsExponent []
  | digits {sign digits : List Char}
    (hsign : sign = [] ∨ sign = ['+'] ∨ sign = ['-']) (hne : digits ≠ [])
    (h : ∀ digit ∈ digits, digit.isDigit = true) :
    IsExponent ('e' :: (sign ++ digits))

/-- The parts of a number in JSON. -/
structure Number where
  isNegative : Bool
  numeral : Numeral
  exponent : List Char
  isExponent : IsExponent exponent

/-- How a number is written. -/
def Number.written (number : Number) : List Char :=
  (if number.isNegative then ['-'] else []) ++
    (number.numeral.written ++ number.exponent)

/-- The characters that a number starts with. -/
def isNumberStart (c : Char) : Bool := c.isDigit || c == '-'

/-- The characters that a number is written with. -/
def isNumberChar (c : Char) : Bool :=
  c.isDigit || ['-', '+', '.', 'e', 'E'].contains c

/-- The characters that a number may go on with. -/
def isNumberPart (c : Char) : Bool :=
  c.isDigit || c == '.' || c == 'e' || c == 'E'

theorem stopsAt_of_imp {p q : Char → Bool} {rest : List Char}
    (h : ∀ c, p c = true → q c = true) (hrest : StopsAt q rest) :
    StopsAt p rest := by
  intro c hc
  have hq := hrest c hc
  cases hp : p c with
  | false => rfl
  | true => rw [h c hp] at hq; cases hq

theorem digits?_append {digits rest : List Char} (hne : digits ≠ [])
    (h : ∀ digit ∈ digits, digit.isDigit = true)
    (hrest : StopsAt Char.isDigit rest) :
    digits? (digits ++ rest) = some rest := by
  rw [digits?, takeWhile_append_of_stopsAt h hrest,
    dropWhile_append_of_stopsAt h hrest, List.isEmpty_eq_false_iff.mpr hne]
  rfl

theorem whole?_append {digits rest : List Char} (h : IsWhole digits)
    (hrest : StopsAt Char.isDigit rest) :
    whole? (digits ++ rest) = some rest := by
  cases h with
  | zero => rfl
  | @digits c cs hzero h =>
    unfold whole?
    split
    next heq => exact absurd (List.cons.inj heq).1 hzero
    next => exact digits?_append (List.cons_ne_nil c cs) h hrest

theorem fraction?_append {digits rest : List Char}
    (h : ∀ digit ∈ digits, digit.isDigit = true)
    (hrest : StopsAt isNumberPart rest ∨ ∃ others, rest = 'e' :: others) :
    fraction? ((if digits = [] then [] else '.' :: digits) ++ rest) =
      some rest := by
  have hstops : StopsAt Char.isDigit rest ∧ StopsAt (· == '.') rest := by
    rcases hrest with hrest | ⟨others, rfl⟩
    · exact ⟨stopsAt_of_imp (by simp +contextual [isNumberPart]) hrest,
        stopsAt_of_imp (by simp +contextual [isNumberPart]) hrest⟩
    · exact ⟨stopsAt_cons rfl others, stopsAt_cons rfl others⟩
  split_ifs with hnil
  · rw [List.nil_append]
    unfold fraction?
    split
    next others => exact absurd (hstops.2 '.' rfl) (by decide)
    next => rfl
  · exact digits?_append hnil h hstops.1

theorem dropSign_append {sign digits rest : List Char}
    (hsign : sign = [] ∨ sign = ['+'] ∨ sign = ['-']) (hne : digits ≠ [])
    (h : ∀ digit ∈ digits, digit.isDigit = true) :
    dropSign (sign ++ digits ++ rest) = digits ++ rest := by
  obtain ⟨digit, others, rfl⟩ := List.exists_cons_of_ne_nil hne
  rcases hsign with rfl | rfl | rfl
  · have hdigit := h digit List.mem_cons_self
    unfold dropSign
    split
    next heq =>
      obtain rfl := (List.cons.inj heq).1
      cases hdigit
    next heq =>
      obtain rfl := (List.cons.inj heq).1
      cases hdigit
    next => rfl
  · rfl
  · rfl

theorem exponent?_append {exponent rest : List Char} (h : IsExponent exponent)
    (hrest : StopsAt isNumberPart rest) :
    exponent? (exponent ++ rest) = some rest := by
  cases h with
  | none =>
    rw [List.nil_append]
    unfold exponent?
    split
    next others => exact absurd (hrest 'e' rfl) (by decide)
    next others => exact absurd (hrest 'E' rfl) (by decide)
    next => rfl
  | @digits sign digits hsign hne h =>
    have hstops : StopsAt Char.isDigit rest :=
      stopsAt_of_imp (by simp +contextual [isNumberPart]) hrest
    change digits? (dropSign (sign ++ digits ++ rest)) = some rest
    rw [dropSign_append hsign hne h]
    exact digits?_append hne h hstops

theorem IsExponent.stops {exponent rest : List Char} (h : IsExponent exponent)
    (hrest : StopsAt isNumberPart rest) :
    StopsAt isNumberPart (exponent ++ rest) ∨
      ∃ others, exponent ++ rest = 'e' :: others := by
  cases h with
  | none => exact Or.inl hrest
  | digits => exact Or.inr ⟨_, rfl⟩

theorem Numeral.whole?_written (numeral : Numeral) {rest : List Char}
    (hrest : StopsAt isNumberPart rest ∨ ∃ others, rest = 'e' :: others) :
    (whole? (numeral.written ++ rest)).bind fraction? = some rest := by
  have hstops : StopsAt Char.isDigit
      ((if numeral.fraction = [] then [] else '.' :: numeral.fraction) ++
        rest) := by
    split_ifs
    · rcases hrest with hrest | ⟨others, rfl⟩
      · exact stopsAt_of_imp (by simp +contextual [isNumberPart]) hrest
      · exact stopsAt_cons rfl others
    · exact stopsAt_cons rfl _
  rw [Numeral.written, List.append_assoc,
    whole?_append numeral.isWhole hstops, Option.bind_some,
    fraction?_append numeral.isDigit_of_mem hrest]

theorem dropMinus_written (number : Number) (rest : List Char) :
    dropMinus (number.written ++ rest) =
      number.numeral.written ++ (number.exponent ++ rest) := by
  unfold Number.written
  split_ifs with hnegative
  · rw [List.append_assoc]
    change number.numeral.written ++ number.exponent ++ rest = _
    rw [List.append_assoc]
  · obtain ⟨c, cs, hwhole, hc⟩ := number.numeral.isWhole.exists_eq_cons
    rw [List.nil_append, List.append_assoc, Numeral.written, hwhole]
    unfold dropMinus
    split
    next heq =>
      obtain rfl := (List.cons.inj heq).1
      cases hc
    next => rfl

/-- A number starts with a digit or a minus sign. -/
theorem Number.exists_eq_cons (number : Number) :
    ∃ c cs, number.written = c :: cs ∧ isNumberStart c = true := by
  obtain ⟨c, cs, hwhole, hc⟩ := number.numeral.isWhole.exists_eq_cons
  unfold Number.written
  split_ifs
  · exact ⟨'-', _, rfl, rfl⟩
  · rw [List.nil_append, Numeral.written, hwhole]
    exact ⟨c, _, rfl, by rw [isNumberStart, hc, Bool.true_or]⟩

theorem isNumberChar_of_isDigit {c : Char} (h : c.isDigit = true) :
    isNumberChar c = true := by
  rw [isNumberChar, h, Bool.true_or]

theorem Numeral.isNumberChar_of_mem {numeral : Numeral} {c : Char}
    (hc : c ∈ numeral.written) : isNumberChar c = true := by
  rcases List.mem_append.mp hc with hwhole | hfraction
  · exact isNumberChar_of_isDigit (numeral.isWhole.isDigit_of_mem c hwhole)
  · split_ifs at hfraction
    · cases hfraction
    · rcases List.mem_cons.mp hfraction with rfl | hfraction
      · rfl
      · exact isNumberChar_of_isDigit (numeral.isDigit_of_mem c hfraction)

theorem IsExponent.isNumberChar_of_mem {exponent : List Char}
    (h : IsExponent exponent) {c : Char} (hc : c ∈ exponent) :
    isNumberChar c = true := by
  cases h with
  | none => cases hc
  | digits hsign hne h =>
    rcases List.mem_cons.mp hc with rfl | hc
    · rfl
    rcases List.mem_append.mp hc with hmem | hmem
    · rcases hsign with rfl | rfl | rfl
      · cases hmem
      · obtain rfl := List.mem_singleton.mp hmem
        rfl
      · obtain rfl := List.mem_singleton.mp hmem
        rfl
    · exact isNumberChar_of_isDigit (h c hmem)

/-- A number is written with digits, signs, a point and a letter. -/
theorem Number.isNumberChar_of_mem {number : Number} {c : Char}
    (hc : c ∈ number.written) : isNumberChar c = true := by
  rcases List.mem_append.mp hc with hsign | hc
  · split_ifs at hsign
    · obtain rfl := List.mem_singleton.mp hsign
      rfl
    · cases hsign
  rcases List.mem_append.mp hc with hnumeral | hexponent
  · exact Numeral.isNumberChar_of_mem hnumeral
  · exact number.isExponent.isNumberChar_of_mem hexponent

/-- A number is read back, if nothing stands behind it that it could go on
with. -/
theorem number?_written (number : Number) {rest : List Char}
    (hrest : StopsAt isNumberPart rest) :
    number? (number.written ++ rest) =
      some (.number (String.ofList number.written), rest) := by
  have hstops := number.isExponent.stops hrest
  have hnumeral := Numeral.whole?_written number.numeral hstops
  obtain ⟨behind, hwhole, hfraction⟩ := Option.bind_eq_some_iff.mp hnumeral
  have hspelling : (number.written ++ rest).take
      ((number.written ++ rest).length - rest.length) = number.written := by
    rw [List.length_append, Nat.add_sub_cancel, List.take_left]
  unfold number?
  rw [dropMinus_written, hwhole]
  simp only [Option.bind_eq_bind, Option.bind_some, hfraction,
    exponent?_append number.isExponent hrest, hspelling]
  rfl

/-! ## Integers -/

/-- An integer in JSON. -/
def Number.ofInt (n : ℤ) : Number where
  isNegative := decide (n < 0)
  numeral := ⟨Nat.toDigits 10 n.natAbs, [], Decimal.isWhole_toDigits _,
    List.forall_mem_nil _⟩
  exponent := []
  isExponent := .none

theorem Number.written_ofInt (n : ℤ) :
    (Number.ofInt n).written = (toString n).toList := by
  have hnumeral : (Number.ofInt n).numeral.written =
      Nat.toDigits 10 n.natAbs := List.append_nil _
  rw [Decimal.toList_toString, Number.written, hnumeral]
  simp [Number.ofInt]

/-! ## Floating-point numbers -/

/-- A number in JSON with a point or an exponent. -/
def Number.IsReal (number : Number) : Prop :=
  number.numeral.fraction ≠ [] ∨ number.exponent ≠ []

theorem Number.IsReal.exists_mem {number : Number} (h : number.IsReal) :
    ∃ c ∈ ['.', 'e', 'E'], c ∈ number.written := by
  obtain ⟨isNegative, numeral, exponent, isExponent⟩ := number
  rcases h with hfraction | hexponent
  · have hmem : '.' ∈ numeral.written := by
      rw [Numeral.written, if_neg hfraction]
      simp
    exact ⟨'.', by decide, List.mem_append_right _ (List.mem_append_left _ hmem)⟩
  · cases isExponent with
    | none => exact absurd rfl hexponent
    | digits =>
      exact ⟨'e', by decide, List.mem_append_right _
        (List.mem_append_right _ List.mem_cons_self)⟩

/-- The characters are a number with a point or an exponent, without a minus
sign in front. -/
def SpellsReal (cs : List Char) : Prop :=
  ∃ number : Number, number.IsReal ∧ number.isNegative = false ∧
    number.written = cs

/-- Digits before a point and behind it. -/
theorem spellsReal_point {whole fraction : List Char} (hwhole : IsWhole whole)
    (hne : fraction ≠ []) (h : ∀ digit ∈ fraction, digit.isDigit = true) :
    SpellsReal (whole ++ '.' :: fraction) := by
  refine ⟨⟨false, ⟨whole, fraction, hwhole, h⟩, [], .none⟩, Or.inl hne, rfl, ?_⟩
  change [] ++ ((whole ++ if fraction = [] then [] else '.' :: fraction) ++
    []) = _
  rw [if_neg hne, List.append_nil, List.nil_append]

section

variable {layout : Decimal.Layout} {digits : String} {c : Char}
  {cs : List Char} (hdigits : digits.toList = c :: cs) (hc : c ≠ '0')
  (h : ∀ digit ∈ c :: cs, digit.isDigit = true)

include hdigits hc h

theorem spellsReal_plain (hpoint : layout.hasPointZero = true)
    (exponent : ℤ) :
    SpellsReal (layout.plain digits exponent).toList := by
  have hlength : digits.length = (c :: cs).length := by
    rw [← String.length_toList, hdigits]
  have hzeros (count : Nat) : (Decimal.zeros count).toList =
      List.replicate count '0' := String.toList_ofList
  have hzero {count : Nat} :
      ∀ digit ∈ List.replicate count '0', digit.isDigit = true := by
    intro digit hdigit
    rw [(List.mem_replicate.mp hdigit).2]
    rfl
  unfold Decimal.Layout.plain
  simp only [hlength, hpoint, if_true]
  split_ifs with hinteger hinside
  · -- All digits stand before the point.
    have hwhole : IsWhole (c :: (cs ++ List.replicate exponent.toNat '0')) :=
      .digits hc (List.forall_mem_append.mpr ⟨h, hzero⟩)
    have hspells := spellsReal_point hwhole (List.cons_ne_nil '0' [])
      (List.forall_mem_singleton.mpr rfl)
    rw [String.toList_append, String.toList_append, hdigits, hzeros]
    exact hspells
  · -- The point stands between digits.
    obtain ⟨before, hbefore⟩ : ∃ before : Nat,
        ((c :: cs).length + exponent : ℤ) = (before + 1 : Nat) :=
      ⟨((c :: cs).length + exponent - 1 : ℤ).toNat, by omega⟩
    have hwhole : IsWhole (c :: cs.take before) := by
      refine .digits hc ?_
      intro digit hdigit
      exact h digit (List.mem_of_mem_take (i := before + 1) hdigit)
    have hne : (c :: cs).drop (before + 1) ≠ [] := by
      rw [ne_eq, List.drop_eq_nil_iff]
      omega
    have hspells := spellsReal_point hwhole hne
      (fun digit hdigit => h digit (List.mem_of_mem_drop hdigit))
    rw [hbefore, Int.toNat_natCast, hdigits]
    simpa [String.toList_append] using hspells
  · -- The point stands before all digits.
    have hne : List.replicate (-((c :: cs).length + exponent : ℤ)).toNat '0' ++
        c :: cs ≠ [] := by simp
    have hspells := spellsReal_point .zero hne
      (List.forall_mem_append.mpr ⟨hzero, h⟩)
    rw [String.toList_append, String.toList_append, hdigits, hzeros]
    exact hspells

theorem spellsReal_scientific (leading : ℤ) :
    SpellsReal (layout.scientific digits leading).toList := by
  have hwhole : IsWhole [c] :=
    .digits hc (List.forall_mem_singleton.mpr (h c List.mem_cons_self))
  have hfraction : ∀ digit ∈ cs, digit.isDigit = true :=
    fun digit hdigit => h digit (List.mem_cons_of_mem c hdigit)
  obtain ⟨sign, hsign, hexponent⟩ : ∃ sign : List Char,
      (sign = [] ∨ sign = ['+'] ∨ sign = ['-']) ∧
        ((if layout.hasExponentSign && decide (0 ≤ leading) then "+"
          else "") ++ toString leading).toList =
          sign ++ Nat.toDigits 10 leading.natAbs := by
    rw [String.toList_append, Decimal.toList_toString]
    rcases lt_or_ge leading 0 with hlt | hge
    · refine ⟨['-'], Or.inr (Or.inr rfl), ?_⟩
      rw [decide_eq_false hlt.not_ge, Bool.and_false, if_pos hlt]
      rfl
    · rw [decide_eq_true hge, Bool.and_true, if_neg hge.not_gt]
      cases layout.hasExponentSign with
      | false => exact ⟨[], Or.inl rfl, rfl⟩
      | true => exact ⟨['+'], Or.inr (Or.inl rfl), rfl⟩
  have hnumber : IsExponent ('e' :: (sign ++ Nat.toDigits 10 leading.natAbs)) :=
    .digits hsign Nat.toDigits_ne_nil Decimal.isDigit_of_mem_toDigits
  refine ⟨⟨false, ⟨[c], cs, hwhole, hfraction⟩, _, hnumber⟩,
    Or.inr (List.cons_ne_nil _ _), rfl, ?_⟩
  have hpoint : (if cs.isEmpty then "" else "." ++ String.ofList cs).toList =
      if cs = [] then [] else '.' :: cs := by
    cases cs <;> simp
  unfold Decimal.Layout.scientific
  simp only [hdigits]
  rw [String.toList_append] at hexponent
  simp only [String.toList_append, String.toList_ofList, List.append_assoc,
    hexponent, List.drop_one, List.tail_cons, hpoint]
  change [] ++ (([c] ++ _) ++ _) = _
  rw [List.nil_append, List.append_assoc]
  rfl

end

theorem spellsReal_magnitude {layout : Decimal.Layout}
    (hpoint : layout.hasPointZero = true) (x : Binary64) :
    SpellsReal (layout.magnitude x).toList := by
  unfold Decimal.Layout.magnitude
  by_cases hzero : x.isZero = true
  · have hspells := spellsReal_point .zero (List.cons_ne_nil '0' [])
      (List.forall_mem_singleton.mpr rfl)
    rw [if_pos hzero, Decimal.Layout.plain]
    simp only [hpoint, if_true]
    exact hspells
  · have hsignificand := Binary64.significand_magnitude_pos
      (Bool.eq_false_iff.mpr hzero)
    let decimal := Decimal.shortest layout.tie x.magnitude
    obtain ⟨c, cs, hcons, hc⟩ :=
      Decimal.toDigits_eq_cons (Decimal.digits_shortest_pos hsignificand)
    have hdigits : (toString decimal.digits).toList = c :: cs :=
      Nat.toList_repr.trans hcons
    have hall : ∀ digit ∈ c :: cs, digit.isDigit = true :=
      hcons ▸ Decimal.isDigit_of_mem_toDigits
    rw [if_neg hzero]
    simp only
    split_ifs
    · exact spellsReal_plain hdigits hc hall hpoint _
    · exact spellsReal_scientific hdigits hc hall _

/-- A finite number is written with a point or an exponent. -/
theorem exists_number_write {layout : Decimal.Layout}
    (hpoint : layout.hasPointZero = true) {x : Binary64}
    (hfinite : x.isFinite = true) :
    ∃ number : Number, number.IsReal ∧
      number.written = (layout.write x).toList := by
  have hlt := of_decide_eq_true hfinite
  have hnan : x.isNaN = false := decide_eq_false hlt.not_gt
  have hinfinite : x.isInfinite = false := beq_eq_false_iff_ne.mpr hlt.ne
  obtain ⟨number, hreal, hsign, hwritten⟩ := spellsReal_magnitude hpoint x
  have hunsigned : number.written =
      number.numeral.written ++ number.exponent := by
    rw [Number.written, hsign]
    rfl
  refine ⟨{ number with isNegative := x.isNegative }, hreal, ?_⟩
  rw [Decimal.Layout.write, hnan, hinfinite, if_neg Bool.false_ne_true,
    if_neg Bool.false_ne_true, String.toList_append, ← hwritten, hunsigned]
  cases x.isNegative <;> rfl

end DocFilter.Json
