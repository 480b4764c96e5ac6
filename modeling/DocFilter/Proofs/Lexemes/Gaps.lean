import DocFilter.Proofs.Lexemes.Shifting
import DocFilter.Proofs.Lexemes.Splitting

/-!
# Texts with a gap between them

A lexeme ends at white space, whatever stands behind it.  So when a text that
has tokens and another text stand in a row with white space between them, the
scanner finds the tokens of the first, and then does with the second what it
does with the second alone, only further on.
-/

namespace DocFilter

open Text

/-! ## Lexemes before white space -/

theorem Text.isNamePart_eq_false_of_isBlank {c : Char} (h : isBlank c = true) :
    isNamePart c = false := by
  have hnat : isNamePart (Char.ofNat c.toNat) = false :=
    forall_isBlank (p := fun n => isNamePart (Char.ofNat n) = false)
      (by decide +kernel) h
  rwa [Char.ofNat_toNat] at hnat

theorem Text.isDigit_eq_false_of_isBlank {c : Char} (h : isBlank c = true) :
    c.isDigit = false := by
  by_contra hdigit
  rw [isBlank_eq_false_of_isDigit (Bool.not_eq_false _ ▸ hdigit)] at h
  cases h

section

variable {blank : Char} {rest more : List Char}

theorem StopsAt.append_blank {p : Char → Bool} (h : StopsAt p rest)
    (hblank : p blank = false) : StopsAt p (rest ++ blank :: more) := by
  cases rest with
  | nil => exact stopsAt_cons hblank more
  | cons c rest => exact stopsAt_cons (h c rfl) _

/-- White space is no digit, so no fraction starts before it. -/
theorem not_startsFraction_append_blank (h : ¬StartsFraction rest)
    (hblank : isBlank blank = true) :
    ¬StartsFraction (rest ++ blank :: more) := by
  rintro ⟨digit, others, heq, hdigit⟩
  rcases rest with _ | ⟨point, _ | ⟨c, rest⟩⟩
  · obtain ⟨rfl, -⟩ := List.cons.inj heq
    revert hblank
    decide
  · obtain ⟨-, heq⟩ := List.cons.inj heq
    obtain ⟨rfl, -⟩ := List.cons.inj heq
    rw [isDigit_eq_false_of_isBlank hblank] at hdigit
    cases hdigit
  · obtain ⟨rfl, hcons⟩ := List.cons.inj heq
    obtain ⟨rfl, -⟩ := List.cons.inj hcons
    exact h ⟨_, rest, rfl, hdigit⟩

theorem IsNumber.append_blank {written : List Char} {value : Literal}
    (h : IsNumber written value rest) (hblank : isBlank blank = true) :
    IsNumber written value (rest ++ blank :: more) := by
  have hdigit := isDigit_eq_false_of_isBlank hblank
  cases h with
  | whole hwhole hvalue hdigits hpoint =>
    exact .whole hwhole hvalue
      (hdigits.imp_right fun hstops => hstops.append_blank hdigit)
      (not_startsFraction_append_blank hpoint hblank)
  | fraction hwhole hne hdigits hvalue hrest =>
    exact .fraction hwhole hne hdigits hvalue (hrest.append_blank hdigit)

/-- A lexeme stays one when white space is written behind what stands behind
it. -/
theorem IsLexeme.append_blank {written : List Char} {token : Token}
    (h : IsLexeme written token rest) (hblank : isBlank blank = true) :
    IsLexeme written token (rest ++ blank :: more) := by
  cases h with
  | symbol hsymbol hrest =>
    have hequals : (blank == '=') = false := by
      rw [beq_eq_false_iff_ne]
      rintro rfl
      revert hblank
      decide
    exact .symbol hsymbol fun hhalf => (hrest hhalf).append_blank hequals
  | text hquote hcontent => exact .text hquote hcontent
  | number hnumber => exact .number (hnumber.append_blank hblank)
  | name hstart hparts hrest =>
    exact .name hstart hparts
      (hrest.append_blank (isNamePart_eq_false_of_isBlank hblank))

end

/-! ## The loop over the tokens -/

/-- What is skipped behind a part of the white space is the other part. -/
theorem Text.Cursor.MovesOver.dropBlanks_eq {cursor cursor' : Cursor}
    {gap : List Char} (h : cursor.MovesOver gap cursor')
    (hgap : ∀ c ∈ gap, isBlank c = true) :
    cursor.dropBlanks = cursor'.dropBlanks := by
  obtain ⟨gap', hgap', hmove, hstops⟩ := cursor'.exists_gap
  exact Cursor.dropBlanks_eq (h.trans hmove)
    (List.forall_mem_append.mpr ⟨hgap, hgap'⟩) hstops

namespace Scan

variable {cursor cursor' : Cursor} {turns : List Char}
  {before : List PlacedToken}

theorem length_lt_of_placedToken {placed : PlacedToken}
    (h : placedToken cursor = .ok placed cursor')
    (hne : placed.token ≠ .endOfText) :
    cursor'.rest.length < cursor.rest.length := by
  rcases placedToken_cases h with ⟨hend, -⟩ | ⟨gap, written, -, hlexeme, -, hmove⟩
  · exact absurd hend hne
  · obtain ⟨c, cs, rfl, -⟩ := hlexeme.exists_eq_cons
    rw [hmove.rest_eq]
    simp only [List.length_append, List.length_cons]
    omega

theorem tokens_of_rest_eq_nil (h : cursor.rest = []) (turns : List Char)
    (before : List PlacedToken) :
    tokens turns before cursor = .ok before.reverse cursor := by
  cases turns with
  | nil => rfl
  | cons turn turns =>
    have hblank : ∀ c ∈ cursor.rest, isBlank c = true := by
      rw [h]
      exact List.forall_mem_nil _
    have hstops : StopsAt isBlank cursor.rest := by
      rw [h]
      exact stopsAt_nil _
    rw [tokens, bind_of_eq_ok (placedToken_of_forall_isBlank hblank), if_pos rfl,
      Cursor.dropBlanks_of_stopsAt hstops]
    rfl

/-- More turns than characters do not change what the loop finds. -/
theorem tokens_congr_turns {turns' : List Char}
    (h : cursor.rest.length ≤ turns.length)
    (h' : cursor.rest.length ≤ turns'.length) (before : List PlacedToken) :
    tokens turns before cursor = tokens turns' before cursor := by
  induction turns generalizing cursor turns' before with
  | nil =>
    have hnil : cursor.rest = [] := List.length_eq_zero_iff.mp (Nat.le_zero.mp h)
    rw [tokens_of_rest_eq_nil hnil, tokens_of_rest_eq_nil hnil]
  | cons turn turns ih =>
    cases turns' with
    | nil =>
      have hnil : cursor.rest = [] :=
        List.length_eq_zero_iff.mp (Nat.le_zero.mp h')
      rw [tokens_of_rest_eq_nil hnil, tokens_of_rest_eq_nil hnil]
    | cons turn' turns' =>
      rw [tokens, tokens]
      cases hplaced : placedToken cursor with
      | error error middle =>
        rw [bind_of_eq_error hplaced, bind_of_eq_error hplaced]
      | ok placed middle =>
        rw [bind_of_eq_ok hplaced, bind_of_eq_ok hplaced]
        by_cases hend : placed.token = .endOfText
        · rw [if_pos hend, if_pos hend]
        · have hlt := length_lt_of_placedToken hplaced hend
          rw [if_neg hend, if_neg hend]
          exact ih (Nat.le_of_lt_succ (Nat.lt_of_lt_of_le hlt h))
            (Nat.le_of_lt_succ (Nat.lt_of_lt_of_le hlt h')) _

/-- White space before the tokens does not matter. -/
theorem tokens_of_gap {gap : List Char} (hmove : cursor.MovesOver gap cursor')
    (hgap : ∀ c ∈ gap, isBlank c = true)
    (hturns : cursor.rest.length ≤ turns.length) (before : List PlacedToken) :
    tokens turns before cursor = tokens turns before cursor' := by
  cases turns with
  | nil =>
    have hnil : cursor.rest = [] :=
      List.length_eq_zero_iff.mp (Nat.le_zero.mp hturns)
    have hrest := hmove.rest_eq
    rw [hnil] at hrest
    obtain ⟨rfl, -⟩ := List.append_eq_nil_iff.mp hrest.symm
    rw [Cursor.movesOver_nil_iff.mp hmove]
  | cons turn turns =>
    have hplaced : placedToken cursor = placedToken cursor' := by
      rw [placedToken, modify_bind_eq, modify_bind_eq, hmove.dropBlanks_eq hgap]
    have hbind {next : PlacedToken → Scan (List PlacedToken)} :
        (placedToken >>= next) cursor = (placedToken >>= next) cursor' := by
      change EStateM.bind _ _ _ = EStateM.bind _ _ _
      unfold EStateM.bind
      rw [hplaced]
    exact hbind

/-- The loop finds the tokens of the characters before white space, and goes on
with the white space. -/
theorem tokens_of_areTokens {offset : Nat} {cs : List Char}
    {found : List PlacedToken} (h : AreTokens offset cs found)
    (hoffset : cursor.offset = offset) (hmove : cursor.MovesOver cs cursor')
    (hblank : ∃ blank others, cursor'.rest = blank :: others ∧
      isBlank blank = true)
    (hturns : cursor.rest.length ≤ turns.length) (before : List PlacedToken) :
    tokens turns before cursor =
      tokens turns (found.reverse ++ before) cursor' := by
  induction h generalizing cursor turns before with
  | nil hgap => exact tokens_of_gap hmove hgap hturns before
  | @cons offset gap written rest token others hgap hlexeme hothers ih =>
    obtain ⟨blank, more, hrest, hblank'⟩ := hblank
    rw [← List.append_assoc] at hmove
    obtain ⟨middle, hfirst, hothers'⟩ := Cursor.movesOver_append_iff.mp hmove
    have hlexeme' : IsLexeme written token middle.rest := by
      rw [hothers'.rest_eq, hrest]
      exact hlexeme.append_blank hblank'
    have hplaced := placedToken_of_isLexeme hgap hlexeme' hfirst
    have hlt := length_lt_of_placedToken hplaced hlexeme'.ne_endOfText
    obtain ⟨turn, turns, rfl⟩ :=
      List.exists_cons_of_length_pos (Nat.lt_of_lt_of_le (Nat.zero_lt_of_lt hlt) hturns)
    have hmiddle : middle.rest.length ≤ turns.length :=
      Nat.le_of_lt_succ (Nat.lt_of_lt_of_le hlt hturns)
    have hmore : cursor'.rest.length ≤ turns.length := by
      rw [hothers'.rest_eq, List.length_append] at hmiddle
      omega
    rw [tokens, bind_of_eq_ok hplaced, if_neg hlexeme'.ne_endOfText,
      ih (hfirst.offset_eq.trans (congrArg (· + _) hoffset)) hothers' hmiddle,
      hoffset, List.reverse_cons, List.append_assoc]
    exact tokens_congr_turns hmore (Nat.le_trans hmore (Nat.le_succ _)) _

/-- The loop finds the same tokens some bytes further on, and puts them behind
those that it has already found. -/
theorem shifts_tokens {bytes : Nat} (found : List PlacedToken)
    (turns : List Char) (before : List PlacedToken) :
    Shifts bytes (found ++ List.map (PlacedToken.shift bytes) ·)
      (tokens turns before)
      (tokens turns (before.map (PlacedToken.shift bytes) ++ found.reverse)) := by
  have hreverse (before : List PlacedToken) :
      (before.map (PlacedToken.shift bytes) ++ found.reverse).reverse =
        found ++ before.reverse.map (PlacedToken.shift bytes) := by
    rw [List.reverse_append, List.reverse_reverse, List.map_reverse]
  induction turns generalizing before with
  | nil => exact Shifts.pure (hreverse before)
  | cons turn turns ih =>
    apply shifts_placedToken.bind
    intro placed
    refine Shifts.ite _ (fun _ => Shifts.pure (hreverse before)) fun _ => ?_
    exact ih (placed :: before)

end Scan

/-! ## Two texts in a row -/

/-- A text that has tokens, white space, and any text: the tokens of the first
text are found, and behind them the tokens of the last, or the fault in it, as
many bytes further on as stand before it. -/
theorem tokenize_append_blanks {first gap : String} {found : List PlacedToken}
    (hfirst : tokenize first = .ok found) (hne : gap ≠ "")
    (hgap : ∀ c ∈ gap.toList, isBlank c = true) (last : String) :
    let bytes := byteLength (first ++ gap).toList
    tokenize (first ++ gap ++ last) =
      ((tokenize last).map
        (found ++ List.map (PlacedToken.shift bytes) ·)).mapError
          (LexicalError.shift bytes) := by
  intro bytes
  let behind : Cursor := ⟨byteLength first.toList, gap.toList ++ last.toList⟩
  have hbehind : (Cursor.atStart (first ++ gap ++ last)).MovesOver first.toList
      behind :=
    ⟨by simp [Cursor.atStart, behind], (Nat.zero_add _).symm⟩
  have hlast : behind.MovesOver gap.toList ((Cursor.atStart last).shift bytes) :=
    ⟨rfl, by simp [Cursor.atStart, Cursor.shift, behind, bytes, byteLength_append]⟩
  have hblank : ∃ blank others, behind.rest = blank :: others ∧
      isBlank blank = true := by
    cases hcs : gap.toList with
    | nil => exact absurd (String.toList_eq_nil_iff.mp hcs) hne
    | cons c cs =>
      exact ⟨c, cs ++ last.toList, congrArg (· ++ last.toList) hcs,
        hgap c (hcs ▸ List.mem_cons_self)⟩
  let turns := (first ++ gap ++ last).toList
  have hturns : behind.rest.length ≤ turns.length ∧
      (Cursor.atStart last).rest.length ≤ turns.length := by
    simp only [behind, turns, Cursor.atStart, String.toList_append,
      List.length_append]
    omega
  have hlastTurns : (Cursor.atStart last).rest.length ≤ last.toList.length :=
    Nat.le_refl _
  have hscan := calc
    Scan.tokens turns [] (Cursor.atStart (first ++ gap ++ last))
    _ = Scan.tokens turns (found.reverse ++ []) behind :=
      Scan.tokens_of_areTokens (tokenize_eq_ok_iff.mp hfirst) rfl hbehind hblank
        (Nat.le_refl _) []
    _ = Scan.tokens turns (found.reverse ++ [])
        ((Cursor.atStart last).shift bytes) :=
      Scan.tokens_of_gap hlast hgap hturns.1 _
    _ = Scan.shiftResult bytes (found ++ List.map (PlacedToken.shift bytes) ·)
        (Scan.tokens turns [] (Cursor.atStart last)) := by
      rw [List.append_nil]
      exact Scan.shifts_tokens found turns [] _
    _ = Scan.shiftResult bytes (found ++ List.map (PlacedToken.shift bytes) ·)
        (Scan.tokens last.toList [] (Cursor.atStart last)) := by
      rw [Scan.tokens_congr_turns hturns.2 hlastTurns]
  unfold tokenize EStateM.run
  rw [hscan]
  cases Scan.tokens last.toList [] (Cursor.atStart last) <;> rfl

/-- A sign that could be the first half of an operator and a line separator of
three bytes.  Behind them an equals sign is a fault, and a point and a digit are
two tokens. -/
theorem tokenize_append_blanks_separator :
    let found : List PlacedToken := [⟨0, .name "é"⟩, ⟨2, .operator .less⟩]
    tokenize "é<" = .ok found ∧ (∀ c ∈ "\u2028".toList, isBlank c = true) ∧
      tokenize ("é<" ++ "\u2028" ++ "=1") = .error ⟨.halfOperator '=', 6⟩ ∧
      tokenize ("é<" ++ "\u2028" ++ " .5") =
        .ok (found ++ [⟨7, .dot⟩, ⟨8, .literal (.integer 5)⟩]) := by
  intro found
  have hfound : tokenize "é<" = .ok found := by decide +kernel
  have hgap : ∀ c ∈ "\u2028".toList, isBlank c = true := by
    intro c hc
    have hlist : "\u2028".toList = ['\u2028'] := by decide
    rw [hlist, List.mem_singleton] at hc
    subst hc
    decide +kernel
  refine ⟨hfound, hgap, ?_, ?_⟩
  · rw [tokenize_append_blanks hfound (by decide) hgap]
    decide +kernel
  · rw [tokenize_append_blanks hfound (by decide) hgap]
    decide +kernel

end DocFilter
