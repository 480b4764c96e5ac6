import DocFilter.Text.Quoted
import DocFilter.Token.Scan
import Mathlib.Tactic.SplitIfs

/-!
# Reading quoted texts back

A quoted text is read back in one walk over its characters, whatever stands
behind it.  So no two texts look alike in quotes.  All characters of a quoted
text can be seen: those that cannot are written as escapes, and the characters
of the escapes are among those that can.
-/

namespace DocFilter.Text

/-! ## Reading -/

/-- Where a reader stands in a quoted text. -/
inductive QuotedPlace where
  /-- Before a character of the text, or before the closing quote. -/
  | between
  | behindBackslash
  /-- Before the brace that opens the digits of a code point. -/
  | beforeDigits
  /-- Behind digits of a code point, with the number that they spell. -/
  | behindDigits (value : Nat)

/-- The character that another one stands for behind a backslash. -/
def escapedBy? : Char → Option Char
  | '0' => some '\x00'
  | 't' => some '\t'
  | 'r' => some '\r'
  | 'n' => some '\n'
  | '"' => some '"'
  | '\\' => some '\\'
  | _ => none

/-- Reads a quoted text from a place in it up to its closing quote, and gives
what stands behind that quote, too. -/
def readQuoted? : QuotedPlace → List Char → Option (List Char × List Char)
  | _, [] => none
  | .between, c :: cs =>
    if c = '"' then some ([], cs)
    else if c = '\\' then readQuoted? .behindBackslash cs
    else (readQuoted? .between cs).map (Prod.map (c :: ·) id)
  | .behindBackslash, c :: cs =>
    if c = 'u' then readQuoted? .beforeDigits cs
    else (escapedBy? c).bind fun x =>
      (readQuoted? .between cs).map (Prod.map (x :: ·) id)
  | .beforeDigits, c :: cs =>
    if c = '\x7b' then readQuoted? (.behindDigits 0) cs else none
  | .behindDigits value, c :: cs =>
    if c = '\x7d' then
      (readQuoted? .between cs).map (Prod.map (Char.ofNat value :: ·) id)
    else (Scan.hexDigit? c).bind fun digit =>
      readQuoted? (.behindDigits (16 * value + digit)) cs

/-! ## Hexadecimal digits -/

theorem hexDigit?_digitChar {n : Nat} (hn : n < 16) :
    Scan.hexDigit? n.digitChar = some n := by
  have hall : ∀ n < 16, Scan.hexDigit? n.digitChar = some n := by decide
  exact hall n hn

theorem digitChar_ne_brace {n : Nat} (hn : n < 16) : n.digitChar ≠ '\x7d' := by
  have hall : ∀ n < 16, n.digitChar ≠ '\x7d' := by decide
  exact hall n hn

theorem readQuoted?_digitChar (value : Nat) {n : Nat} (hn : n < 16)
    (rest : List Char) :
    readQuoted? (.behindDigits value) (n.digitChar :: rest) =
      readQuoted? (.behindDigits (16 * value + n)) rest := by
  rw [readQuoted?, if_neg (digitChar_ne_brace hn), hexDigit?_digitChar hn,
    Option.bind_some]

/-- The digits of a number are read as that number. -/
theorem readQuoted?_hexadecimal (n : Nat) (rest : List Char) :
    readQuoted? (.behindDigits 0) (hexadecimal n ++ rest) =
      readQuoted? (.behindDigits n) rest := by
  induction n using Nat.strongRecOn generalizing rest with
  | ind n ih =>
    rw [hexadecimal]
    by_cases hn : n < 16
    · rw [Nat.toDigits_of_lt_base hn, List.singleton_append,
        readQuoted?_digitChar 0 hn, Nat.mul_zero, Nat.zero_add]
    · -- The last digit stands behind those of a smaller number.
      have hge : 16 ≤ n := Nat.le_of_not_lt hn
      have hfront := ih (n / 16) (by omega) ((n % 16).digitChar :: rest)
      rw [Nat.toDigits_of_base_le (by decide) hge, List.append_assoc,
        List.singleton_append, ← hexadecimal, hfront,
        readQuoted?_digitChar _ (Nat.mod_lt n (by decide)), Nat.div_add_mod]

/-! ## Texts -/

/-- A character is read back, and the reader stands behind it. -/
theorem readQuoted?_quotedChar (c : Char) (rest : List Char) :
    readQuoted? .between (quotedChar c ++ rest) =
      (readQuoted? .between rest).map (Prod.map (c :: ·) id) := by
  rw [quotedChar]
  split_ifs with hnull htab hreturn hfeed hmark hobscure
  · rw [hnull]; rfl
  · rw [htab]; rfl
  · rw [hreturn]; rfl
  · rw [hfeed]; rfl
  · rcases hmark with rfl | rfl <;> rfl
  · have hdigits := readQuoted?_hexadecimal c.toNat ('\x7d' :: rest)
    rw [readQuoted?, if_pos rfl, Char.ofNat_toNat] at hdigits
    simpa [readQuoted?] using hdigits
  · rw [not_or] at hmark
    rw [List.singleton_append, readQuoted?, if_neg hmark.1, if_neg hmark.2]

theorem readQuoted?_flatMap (cs rest : List Char) :
    readQuoted? .between (cs.flatMap quotedChar ++ '"' :: rest) =
      some (cs, rest) := by
  induction cs with
  | nil => rfl
  | cons c cs ih =>
    rw [List.flatMap_cons, List.append_assoc, readQuoted?_quotedChar, ih]
    rfl

theorem toList_quoted (value : String) :
    (quoted value).toList =
      '"' :: (value.toList.flatMap quotedChar ++ ['"']) := by
  simp [quoted, String.toList_append]

/-- No two texts look alike in quotes. -/
theorem quoted_injective : Function.Injective quoted := by
  intro first second h
  have hlists := congrArg String.toList h
  rw [toList_quoted, toList_quoted] at hlists
  have hread := congrArg (readQuoted? .between) (List.cons.inj hlists).2
  rw [readQuoted?_flatMap, readQuoted?_flatMap, Option.some.injEq,
    Prod.mk.injEq] at hread
  exact String.toList_inj.mp hread.1

/-! ## Characters that can be seen -/

theorem isObscure_digitChar_eq_false {n : Nat} (hn : n < 16) :
    isObscure n.digitChar = false := by
  have hall : ∀ n < 16, isObscure n.digitChar = false := by decide +kernel
  exact hall n hn

theorem isObscure_eq_false_of_mem_hexadecimal {n : Nat} :
    ∀ c ∈ hexadecimal n, isObscure c = false := by
  induction n using Nat.strongRecOn with
  | ind n ih =>
    rw [hexadecimal]
    by_cases hn : n < 16
    · rw [Nat.toDigits_of_lt_base hn]
      exact List.forall_mem_singleton.mpr (isObscure_digitChar_eq_false hn)
    · have hge : 16 ≤ n := Nat.le_of_not_lt hn
      rw [Nat.toDigits_of_base_le (by decide) hge, List.forall_mem_append]
      exact ⟨ih (n / 16) (by omega), List.forall_mem_singleton.mpr
        (isObscure_digitChar_eq_false (Nat.mod_lt n (by decide)))⟩

/-- The characters that escapes are written with, the digits of a code point
apart. -/
def escapeMarks : List Char :=
  ['\\', '0', 't', 'r', 'n', '"', 'u', '\x7b', '\x7d']

theorem isObscure_eq_false_of_mem_escapeMarks :
    ∀ c ∈ escapeMarks, isObscure c = false := by
  have hall : (escapeMarks.all fun c => isObscure c == false) = true := by
    decide +kernel
  intro c hc
  exact eq_of_beq (List.all_eq_true.mp hall c hc)

theorem isObscure_eq_false_of_mem_quotedChar {c : Char} :
    ∀ x ∈ quotedChar c, isObscure x = false := by
  have hmarks {cs : List Char} (h : cs ⊆ escapeMarks) :
      ∀ x ∈ cs, isObscure x = false :=
    fun x hx => isObscure_eq_false_of_mem_escapeMarks x (h hx)
  rw [quotedChar]
  split_ifs with hnull htab hreturn hfeed hmark hobscure
  · exact hmarks (by decide)
  · exact hmarks (by decide)
  · exact hmarks (by decide)
  · exact hmarks (by decide)
  · rcases hmark with rfl | rfl <;> exact hmarks (by decide)
  · simp only [List.forall_mem_append]
    exact ⟨⟨hmarks (by decide), isObscure_eq_false_of_mem_hexadecimal⟩,
      hmarks (by decide)⟩
  · exact List.forall_mem_singleton.mpr (Bool.eq_false_iff.mpr hobscure)

/-- Every character of a quoted text can be seen. -/
theorem isObscure_eq_false_of_mem_quoted (value : String) :
    ∀ c ∈ (quoted value).toList, isObscure c = false := by
  have hquote : isObscure '"' = false :=
    isObscure_eq_false_of_mem_escapeMarks '"' (by decide)
  intro c hc
  rw [toList_quoted, List.mem_cons, List.mem_append, List.mem_singleton] at hc
  rcases hc with rfl | hmem | rfl
  · exact hquote
  · obtain ⟨x, -, hx⟩ := List.mem_flatMap.mp hmem
    exact isObscure_eq_false_of_mem_quotedChar c hx
  · exact hquote

end DocFilter.Text
