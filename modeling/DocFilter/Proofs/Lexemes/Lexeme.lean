import DocFilter.Token.Scan
import Mathlib.Data.List.Basic

/-!
# Lexemes

The characters that tokens are written with, as a grammar.  A punctuation mark
or an operator is written as it is shown, a text as a row of characters and
escapes between two quotes, a number in digits, and a name in the characters of
names.

A lexeme ends where it cannot go on, so what stands behind it matters.  No more
than two characters of it are looked at, and a lexeme stays one when what stands
behind it is cut short.  Nothing in this file refers to the cursor.
-/

namespace DocFilter

open Text

/-! ## Texts -/

/-- The characters are an escape for a character: a backslash with a character
that stands for itself or for a control character, with a code unit, or with
the two halves of a pair. -/
inductive IsEscape : List Char → Char → Prop
  | single {c value : Char} (h : Scan.escaped? c = some value) :
    IsEscape ['\\', c] value
  | unit {digits : List Char} {unit : Nat} (length_eq : digits.length = 4)
    (h : Scan.codeUnit? digits = some unit)
    (hhigh : Scan.isHighHalf unit = false)
    (hlow : Scan.isLowHalf unit = false) :
    IsEscape ('\\' :: 'u' :: digits) (Char.ofNat unit)
  | pair {digits digits' : List Char} {high low : Nat}
    (length_eq : digits.length = 4)
    (h : Scan.codeUnit? digits = some high)
    (hhigh : Scan.isHighHalf high = true) (length_eq' : digits'.length = 4)
    (h' : Scan.codeUnit? digits' = some low)
    (hlow : Scan.isLowHalf low = true) :
    IsEscape ('\\' :: 'u' :: digits ++ '\\' :: 'u' :: digits')
      (Scan.joinHalves high low)

/-- The characters can stand between two quotes of a kind, and stand for a
row of characters. -/
inductive IsContent (quote : Char) : List Char → List Char → Prop
  | nil : IsContent quote [] []
  | plain {c : Char} {written value : List Char} (hquote : c ≠ quote)
    (hbackslash : c ≠ '\\') (others : IsContent quote written value) :
    IsContent quote (c :: written) (c :: value)
  | escape {escape written value : List Char} {c : Char}
    (first : IsEscape escape c) (others : IsContent quote written value) :
    IsContent quote (escape ++ written) (c :: value)

theorem IsEscape.exists_eq_cons {written : List Char} {value : Char}
    (h : IsEscape written value) :
    ∃ c others, written = '\\' :: c :: others := by
  cases h <;> exact ⟨_, _, rfl⟩

/-! ## Numbers -/

/-- The digits of a number before its point: a zero, or digits that start with
another one. -/
inductive IsWhole : List Char → Prop
  | zero : IsWhole ['0']
  | digits {c : Char} {cs : List Char} (hzero : c ≠ '0')
    (h : ∀ digit ∈ c :: cs, digit.isDigit = true) : IsWhole (c :: cs)

/-- The first character does not satisfy `p`, if there is one. -/
def StopsAt (p : Char → Bool) (rest : List Char) : Prop :=
  ∀ c ∈ rest.head?, p c = false

/-- A point with a digit behind it comes next. -/
def StartsFraction (rest : List Char) : Prop :=
  ∃ digit others, rest = '.' :: digit :: others ∧ digit.isDigit = true

/-- The characters are a number, if the others stand behind them. -/
inductive IsNumber : List Char → Literal → List Char → Prop
  | whole {digits rest : List Char} {value : Literal} (h : IsWhole digits)
    (hvalue : Literal.ofDigits? digits [] = some value)
    (hdigits : digits = ['0'] ∨ StopsAt Char.isDigit rest)
    (hpoint : ¬StartsFraction rest) : IsNumber digits value rest
  | fraction {digits digits' rest : List Char} {value : Literal}
    (h : IsWhole digits) (hne : digits' ≠ [])
    (hdigits : ∀ digit ∈ digits', digit.isDigit = true)
    (hvalue : Literal.ofDigits? digits digits' = some value)
    (hrest : StopsAt Char.isDigit rest) :
    IsNumber (digits ++ '.' :: digits') value rest

/-! ## Tokens -/

/-- Punctuation marks and operators. -/
def Token.IsSymbol : Token → Prop
  | .literal _ | .name _ | .endOfText => False
  | _ => True

/-- Symbols that are another symbol with an equals sign behind them. -/
def Token.IsHalf (token : Token) : Prop :=
  token = .operator .greater ∨ token = .operator .less ∨ token = .exclamation

/-- The characters are a token, if the others stand behind them. -/
inductive IsLexeme : List Char → Token → List Char → Prop
  | symbol {token : Token} {rest : List Char} (h : token.IsSymbol)
    (hrest : token.IsHalf → StopsAt (· == '=') rest) :
    IsLexeme token.shown.toList token rest
  | text {quote : Char} {written value rest : List Char}
    (hquote : quote = '"' ∨ quote = '\'')
    (h : IsContent quote written value) :
    IsLexeme (quote :: written ++ [quote])
      (.literal (.text (String.ofList value))) rest
  | number {written rest : List Char} {value : Literal}
    (h : IsNumber written value rest) : IsLexeme written (.literal value) rest
  | name {c : Char} {cs rest : List Char} (hstart : isNameStart c = true)
    (hparts : ∀ part ∈ cs, isNamePart part = true)
    (hrest : StopsAt isNamePart rest) :
    IsLexeme (c :: cs) (.name (String.ofList (c :: cs))) rest

/-! ## What stands behind a lexeme -/

theorem stopsAt_nil (p : Char → Bool) : StopsAt p [] := by
  intro c hc
  cases hc

theorem stopsAt_cons {p : Char → Bool} {c : Char} (h : p c = false)
    (cs : List Char) : StopsAt p (c :: cs) := by
  intro c' hc
  cases hc
  exact h

theorem StopsAt.of_isPrefix {p : Char → Bool} {rest shorter : List Char}
    (h : StopsAt p rest) (hshorter : shorter <+: rest) : StopsAt p shorter := by
  obtain ⟨others, rfl⟩ := hshorter
  intro c hc
  apply h
  cases shorter with
  | nil => cases hc
  | cons first shorter => exact hc

theorem not_startsFraction_of_isPrefix {rest shorter : List Char}
    (h : ¬StartsFraction rest) (hshorter : shorter <+: rest) :
    ¬StartsFraction shorter := by
  rintro ⟨digit, others, rfl, hdigit⟩
  obtain ⟨others', rfl⟩ := hshorter
  exact h ⟨digit, others ++ others', rfl, hdigit⟩

theorem IsNumber.of_isPrefix {written rest shorter : List Char} {value : Literal}
    (h : IsNumber written value rest) (hshorter : shorter <+: rest) :
    IsNumber written value shorter := by
  cases h with
  | whole hwhole hvalue hdigits hpoint =>
    exact .whole hwhole hvalue
      (hdigits.imp_right fun hstops => hstops.of_isPrefix hshorter)
      (not_startsFraction_of_isPrefix hpoint hshorter)
  | fraction hwhole hne hdigits hvalue hrest =>
    exact .fraction hwhole hne hdigits hvalue (hrest.of_isPrefix hshorter)

/-- A lexeme stays one when what stands behind it is cut short. -/
theorem IsLexeme.of_isPrefix {written rest shorter : List Char} {token : Token}
    (h : IsLexeme written token rest) (hshorter : shorter <+: rest) :
    IsLexeme written token shorter := by
  cases h with
  | symbol hsymbol hrest =>
    exact .symbol hsymbol fun hhalf => (hrest hhalf).of_isPrefix hshorter
  | text hquote hcontent => exact .text hquote hcontent
  | number hnumber => exact .number (hnumber.of_isPrefix hshorter)
  | name hstart hparts hrest =>
    exact .name hstart hparts (hrest.of_isPrefix hshorter)

/-- A lexeme needs nothing behind it. -/
theorem IsLexeme.alone {written rest : List Char} {token : Token}
    (h : IsLexeme written token rest) : IsLexeme written token [] :=
  h.of_isPrefix rest.nil_prefix

/-! ## First characters -/

/-- The characters that symbols start with. -/
def symbolStarts : List Char :=
  ['.', ',', '[', ']', '(', ')', '-', '>', '<', '!', '=', '&', '|']

/-- Every code point that ranges cover is listed in one of them. -/
theorem Text.Ranges.mem_of_covers {ranges : Ranges} {n : Nat}
    (h : ranges.covers n = true) :
    n ∈ ranges.flatMap fun range =>
      List.range' range.1 (range.2 + 1 - range.1) := by
  induction ranges with
  | nil => cases h
  | cons range above ih =>
    rw [List.flatMap_cons, List.mem_append]
    unfold Ranges.covers at h
    split at h
    · cases h
    next hlow =>
      split at h
      next hhigh =>
        left
        rw [List.mem_range'_1]
        omega
      next => exact Or.inr (ih h)

/-- A property of all white space can be checked code point by code point. -/
theorem Text.forall_isBlank {p : Nat → Prop}
    (h : ∀ n ∈ blankRanges.flatMap fun range =>
      List.range' range.1 (range.2 + 1 - range.1), p n)
    {c : Char} (hc : isBlank c = true) : p c.toNat :=
  h c.toNat (Ranges.mem_of_covers hc)

theorem Text.isBlank_eq_false_of_isNameStart {c : Char}
    (h : isNameStart c = true) : isBlank c = false := by
  by_contra hblank
  rw [Bool.not_eq_false] at hblank
  have hranges : nameStartRanges.covers c.toNat = false :=
    forall_isBlank (p := fun n => nameStartRanges.covers n = false)
      (by decide +kernel) hblank
  have hdollar : c.toNat ≠ '$'.toNat :=
    forall_isBlank (p := fun n => n ≠ '$'.toNat) (by decide) hblank
  have hline : c.toNat ≠ '_'.toNat :=
    forall_isBlank (p := fun n => n ≠ '_'.toNat) (by decide) hblank
  simp only [isNameStart, hranges, Bool.or_false, Bool.or_eq_true,
    beq_iff_eq] at h
  rcases h with rfl | rfl
  · exact hdollar rfl
  · exact hline rfl

theorem Text.toNat_of_isDigit {c : Char} (h : c.isDigit = true) :
    48 ≤ c.toNat ∧ c.toNat ≤ 57 := by
  simpa [Char.isDigit, UInt32.le_iff_toNat_le] using h

theorem Text.isBlank_eq_false_of_isDigit {c : Char} (h : c.isDigit = true) :
    isBlank c = false := by
  by_contra hblank
  rw [Bool.not_eq_false] at hblank
  have hnat : ¬(48 ≤ c.toNat ∧ c.toNat ≤ 57) :=
    forall_isBlank (p := fun n => ¬(48 ≤ n ∧ n ≤ 57)) (by decide) hblank
  exact hnat (toNat_of_isDigit h)

/-- A name does not start with a digit. -/
theorem Text.isDigit_eq_false_of_isNameStart {c : Char}
    (h : isNameStart c = true) : c.isDigit = false := by
  by_contra hdigit
  rw [Bool.not_eq_false] at hdigit
  have hnat := toNat_of_isDigit hdigit
  have hranges : nameStartRanges.covers c.toNat = false := by
    rw [nameStartRanges, Ranges.covers, if_pos (by omega)]
  simp only [isNameStart, hranges, Bool.or_false, Bool.or_eq_true,
    beq_iff_eq] at h
  rcases h with rfl | rfl <;> cases hdigit

theorem IsWhole.exists_eq_cons {digits : List Char} (h : IsWhole digits) :
    ∃ c cs, digits = c :: cs ∧ c.isDigit = true := by
  cases h with
  | zero => exact ⟨'0', [], rfl, rfl⟩
  | digits hzero h => exact ⟨_, _, rfl, h _ List.mem_cons_self⟩

theorem IsWhole.isDigit_of_mem {digits : List Char} (h : IsWhole digits) :
    ∀ digit ∈ digits, digit.isDigit = true := by
  cases h with
  | zero => exact List.forall_mem_singleton.mpr rfl
  | digits hzero h => exact h

/-- A number starts with a digit. -/
theorem IsNumber.exists_eq_cons {written rest : List Char} {value : Literal}
    (h : IsNumber written value rest) :
    ∃ c cs, written = c :: cs ∧ c.isDigit = true := by
  cases h with
  | whole h => exact h.exists_eq_cons
  | fraction h =>
    obtain ⟨c, cs, rfl, hc⟩ := h.exists_eq_cons
    exact ⟨c, _, rfl, hc⟩

/-- A lexeme starts with a character that is no white space. -/
theorem IsLexeme.exists_eq_cons {written rest : List Char} {token : Token}
    (h : IsLexeme written token rest) :
    ∃ c cs, written = c :: cs ∧ isBlank c = false := by
  cases h with
  | symbol hsymbol =>
    cases token with
    | operator op => cases op <;> exact ⟨_, _, rfl, rfl⟩
    | literal | name | endOfText => exact hsymbol.elim
    | _ => exact ⟨_, _, rfl, rfl⟩
  | text hquote =>
    rcases hquote with rfl | rfl <;> exact ⟨_, _, rfl, rfl⟩
  | number hnumber =>
    obtain ⟨c, cs, rfl, hc⟩ := hnumber.exists_eq_cons
    exact ⟨c, cs, rfl, isBlank_eq_false_of_isDigit hc⟩
  | name hstart => exact ⟨_, _, rfl, isBlank_eq_false_of_isNameStart hstart⟩

theorem IsLexeme.ne_endOfText {written rest : List Char} {token : Token}
    (h : IsLexeme written token rest) : token ≠ .endOfText := by
  rintro rfl
  cases h with
  | symbol hsymbol => exact hsymbol

end DocFilter
