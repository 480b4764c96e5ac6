import DocFilter.Proofs.Lexemes.Lexeme
import DocFilter.Proofs.Reading.Sequencing
import Mathlib.Tactic.SplitIfs

/-!
# Scanning lexemes

The scanner stops behind a lexeme and returns its token, and it does so behind
every lexeme.  Each step of the scanner has a statement that is an equivalence:
it succeeds with a value if and only if the characters that it moves over are
written for this value.
-/

namespace DocFilter

open Text

/-! ## Places -/

theorem Text.byteLength_append (cs others : List Char) :
    byteLength (cs ++ others) = byteLength cs + byteLength others := by
  induction cs with
  | nil => exact (Nat.zero_add _).symm
  | cons c cs ih =>
    change c.utf8Size + byteLength (cs ++ others) =
      c.utf8Size + byteLength cs + byteLength others
    rw [ih, Nat.add_assoc]

/-- From one place over some characters to another. -/
structure Text.Cursor.MovesOver (cursor : Cursor) (written : List Char)
    (cursor' : Cursor) : Prop where
  rest_eq : cursor.rest = written ++ cursor'.rest
  offset_eq : cursor'.offset = cursor.offset + byteLength written

namespace Text.Cursor

variable {cursor middle cursor' : Cursor} {written others : List Char}

theorem movesOver_nil_iff : cursor.MovesOver [] cursor' ↔ cursor' = cursor := by
  constructor
  · rintro ⟨hrest, hoffset⟩
    exact congrArg₂ Cursor.mk hoffset hrest.symm
  · rintro rfl
    exact ⟨rfl, rfl⟩

theorem MovesOver.trans (h : cursor.MovesOver written middle)
    (h' : middle.MovesOver others cursor') :
    cursor.MovesOver (written ++ others) cursor' where
  rest_eq := by rw [h.rest_eq, h'.rest_eq, List.append_assoc]
  offset_eq := by
    rw [h'.offset_eq, h.offset_eq, byteLength_append, Nat.add_assoc]

/-- Moving over characters is moving over their number. -/
theorem MovesOver.drop_eq (h : cursor.MovesOver written cursor') :
    cursor.drop written.length = cursor' := by
  rw [drop, h.rest_eq, List.take_left, List.drop_left, ← h.offset_eq]

theorem movesOver_drop (cursor : Cursor) (n : Nat) :
    cursor.MovesOver (cursor.rest.take n) (cursor.drop n) :=
  ⟨(List.take_append_drop n cursor.rest).symm, rfl⟩

/-- A move over characters that stand at the cursor. -/
theorem movesOver_of_rest_eq {rest : List Char}
    (h : cursor.rest = written ++ rest) :
    cursor.MovesOver written (cursor.drop written.length) := by
  have hmove := cursor.movesOver_drop written.length
  rwa [h, List.take_left] at hmove

/-- Behind characters that stand at the cursor are those behind them. -/
theorem rest_drop_of_rest_eq {rest : List Char}
    (h : cursor.rest = written ++ rest) :
    (cursor.drop written.length).rest = rest :=
  List.append_cancel_left ((movesOver_of_rest_eq h).rest_eq.symm.trans h)

theorem rest_drop_one {c : Char} {cs : List Char} (h : cursor.rest = c :: cs) :
    (cursor.drop 1).rest = cs :=
  @rest_drop_of_rest_eq cursor [c] cs h

/-- A move over two rows of characters has a place between them. -/
theorem movesOver_append_iff :
    cursor.MovesOver (written ++ others) cursor' ↔
      ∃ middle, cursor.MovesOver written middle ∧
        middle.MovesOver others cursor' := by
  constructor
  · rintro ⟨hrest, hoffset⟩
    refine ⟨⟨cursor.offset + byteLength written, others ++ cursor'.rest⟩,
      ⟨?_, rfl⟩, ⟨rfl, ?_⟩⟩
    · rw [hrest, List.append_assoc]
    · rw [hoffset, byteLength_append, Nat.add_assoc]
  · rintro ⟨middle, h, h'⟩
    exact h.trans h'

theorem movesOver_cons_iff {c : Char} :
    cursor.MovesOver (c :: written) cursor' ↔
      ∃ middle, cursor.MovesOver [c] middle ∧
        middle.MovesOver written cursor' :=
  @movesOver_append_iff cursor cursor' [c] written

end Text.Cursor

/-! ## Rows of characters -/

theorem takeWhile_append_drop (p : Char → Bool) (cs : List Char) :
    cs.takeWhile p ++ cs.drop (cs.takeWhile p).length = cs :=
  List.prefix_iff_eq_append.mp (List.takeWhile_prefix p)

/-- The longest row of characters of a kind ends before a character of another
kind. -/
theorem stopsAt_drop_takeWhile (p : Char → Bool) (cs : List Char) :
    StopsAt p (cs.drop (cs.takeWhile p).length) := by
  have hsplit := takeWhile_append_drop p cs
  have hdrop : cs.drop (cs.takeWhile p).length = cs.dropWhile p :=
    List.append_cancel_left (hsplit.trans List.takeWhile_append_dropWhile.symm)
  intro c hc
  rw [hdrop] at hc
  have hstop := List.head?_dropWhile_not p cs
  rw [hc] at hstop
  exact hstop

theorem takeWhile_append_of_stopsAt {p : Char → Bool} {cs rest : List Char}
    (h : ∀ c ∈ cs, p c = true) (hrest : StopsAt p rest) :
    (cs ++ rest).takeWhile p = cs := by
  rw [List.takeWhile_append_of_pos h]
  cases rest with
  | nil => exact List.append_nil cs
  | cons c others =>
    have hc : p c = false := hrest c rfl
    rw [List.takeWhile_cons, hc]
    exact List.append_nil cs

theorem dropWhile_append_of_stopsAt {p : Char → Bool} {cs rest : List Char}
    (h : ∀ c ∈ cs, p c = true) (hrest : StopsAt p rest) :
    (cs ++ rest).dropWhile p = rest := by
  have hsplit := (cs ++ rest).takeWhile_append_dropWhile (p := p)
  rw [takeWhile_append_of_stopsAt h hrest] at hsplit
  exact List.append_cancel_left hsplit

theorem forall_mem_takeWhile (p : Char → Bool) (cs : List Char) :
    ∀ c ∈ cs.takeWhile p, p c = true :=
  List.all_eq_true.mp List.all_takeWhile

namespace Text.Cursor

/-- The white space at a cursor is skipped, and what stands behind it is
not. -/
theorem exists_gap (cursor : Cursor) :
    ∃ gap, (∀ c ∈ gap, isBlank c = true) ∧
      cursor.MovesOver gap cursor.dropBlanks ∧
      StopsAt isBlank cursor.dropBlanks.rest := by
  refine ⟨cursor.rest.takeWhile isBlank, forall_mem_takeWhile isBlank _, ?_,
    stopsAt_drop_takeWhile isBlank cursor.rest⟩
  exact movesOver_of_rest_eq (takeWhile_append_drop isBlank cursor.rest).symm

/-- White space with something else behind it is what is skipped. -/
theorem dropBlanks_eq {cursor cursor' : Cursor} {gap : List Char}
    (h : cursor.MovesOver gap cursor') (hgap : ∀ c ∈ gap, isBlank c = true)
    (hrest : StopsAt isBlank cursor'.rest) : cursor.dropBlanks = cursor' := by
  rw [dropBlanks, h.rest_eq, takeWhile_append_of_stopsAt hgap hrest, h.drop_eq]

theorem dropBlanks_of_stopsAt {cursor : Cursor}
    (h : StopsAt isBlank cursor.rest) : cursor.dropBlanks = cursor :=
  dropBlanks_eq (movesOver_nil_iff.mpr rfl) (List.forall_mem_nil _) h

theorem dropBlanks_dropBlanks (cursor : Cursor) :
    cursor.dropBlanks.dropBlanks = cursor.dropBlanks := by
  obtain ⟨gap, -, -, hstops⟩ := cursor.exists_gap
  exact dropBlanks_of_stopsAt hstops

end Text.Cursor

namespace Scan

variable {cursor cursor' : Cursor}

theorem position_bind_eq {α : Type} (next : Nat → Scan α) (cursor : Cursor) :
    (position >>= next) cursor = next cursor.offset cursor := rfl

theorem skip_bind_eq {α : Type} (n : Nat) (next : Unit → Scan α)
    (cursor : Cursor) : (skip n >>= next) cursor = next () (cursor.drop n) := rfl

/-! ## Escapes -/

/-- Four characters decide about a code unit. -/
theorem codeUnit?_append {digits : List Char} (h : digits.length = 4)
    (rest : List Char) : codeUnit? (digits ++ rest) = codeUnit? digits := by
  obtain ⟨a, b, c, d, rfl⟩ : ∃ a b c d, digits = [a, b, c, d] := by
    rcases digits with _ | ⟨a, _ | ⟨b, _ | ⟨c, _ | ⟨d, _ | ⟨e, digits⟩⟩⟩⟩⟩ <;>
      simp at h
    exact ⟨a, b, c, d, rfl⟩
  rfl

theorem four_le_length_of_codeUnit? {cs : List Char} {unit : Nat}
    (h : codeUnit? cs = some unit) : 4 ≤ cs.length := by
  rcases cs with _ | ⟨a, _ | ⟨b, _ | ⟨c, _ | ⟨d, cs⟩⟩⟩⟩
  · cases h
  · cases h
  · cases h
  · cases h
  · simp

/-- A code unit is read from four characters. -/
theorem codeUnit_eq_ok_iff {backslash unit : Nat} :
    codeUnit backslash cursor = .ok unit cursor' ↔
      ∃ digits : List Char, digits.length = 4 ∧ codeUnit? digits = some unit ∧
        cursor.MovesOver digits cursor' := by
  rw [codeUnit, get_bind_eq]
  constructor
  · intro h
    cases hunit : codeUnit? cursor.rest with
    | none =>
      rw [hunit] at h
      cases h
    | some found =>
      rw [hunit] at h
      cases h
      have hlength : (cursor.rest.take 4).length = 4 :=
        List.length_take_of_le (four_le_length_of_codeUnit? hunit)
      refine ⟨cursor.rest.take 4, hlength, ?_, cursor.movesOver_drop 4⟩
      rw [← hunit, ← codeUnit?_append hlength (cursor.rest.drop 4),
        List.take_append_drop]
  · rintro ⟨digits, hlength, hunit, hmove⟩
    have hskip : skip 4 cursor = .ok () cursor' := by
      rw [← hmove.drop_eq, hlength]
      rfl
    rw [hmove.rest_eq, codeUnit?_append hlength, hunit]
    exact bind_of_eq_ok hskip

/-- What stands behind `\u` is read as the rest of an escape. -/
theorem codePoint_eq_ok_iff {backslash : Nat} {value : Char} :
    codePoint backslash cursor = .ok value cursor' ↔
      ∃ written, IsEscape ('\\' :: 'u' :: written) value ∧
        cursor.MovesOver written cursor' := by
  constructor
  · intro h
    obtain ⟨unit, middle, hunit, hrest⟩ := bind_eq_ok_iff.mp h
    obtain ⟨digits, hlength, hdigits, hmove⟩ := codeUnit_eq_ok_iff.mp hunit
    by_cases hhigh : isHighHalf unit = true
    · rw [if_pos hhigh] at hrest
      obtain ⟨_, _, hget, hmatch⟩ := bind_eq_ok_iff.mp hrest
      cases hget
      generalize hothers : middle.rest = others at hmatch
      split at hmatch
      next others =>
        obtain ⟨_, _, hskip, hlow⟩ := bind_eq_ok_iff.mp hmatch
        cases hskip
        obtain ⟨low, _, hlow, hpair⟩ := bind_eq_ok_iff.mp hlow
        obtain ⟨digits', hlength', hdigits', hmove'⟩ :=
          codeUnit_eq_ok_iff.mp hlow
        have hmark : middle.MovesOver ['\\', 'u'] (middle.drop 2) :=
          Cursor.movesOver_of_rest_eq hothers
        by_cases hlowHalf : isLowHalf low = true
        · rw [if_pos hlowHalf] at hpair
          obtain ⟨hvalue, hcursor⟩ := pure_eq_ok_iff.mp hpair
          rw [hvalue, hcursor]
          exact ⟨_, .pair hlength hdigits hhigh hlength' hdigits' hlowHalf,
            hmove.trans (hmark.trans hmove')⟩
        · rw [if_neg hlowHalf] at hpair
          cases hpair
      next => cases hmatch
    · rw [if_neg hhigh] at hrest
      by_cases hlow : isLowHalf unit = true
      · rw [if_pos hlow] at hrest
        cases hrest
      · rw [if_neg hlow] at hrest
        obtain ⟨rfl, rfl⟩ := pure_eq_ok_iff.mp hrest
        exact ⟨digits, .unit hlength hdigits (Bool.eq_false_iff.mpr hhigh)
          (Bool.eq_false_iff.mpr hlow), hmove⟩
  · rintro ⟨written, hescape, hmove⟩
    cases hescape with
    | single h => simp [escaped?] at h
    | unit hlength hdigits hhigh hlow =>
      refine bind_eq_ok_iff.mpr ⟨_, cursor',
        codeUnit_eq_ok_iff.mpr ⟨_, hlength, hdigits, hmove⟩, ?_⟩
      rw [hhigh, hlow]
      rfl
    | pair hlength hdigits hhigh hlength' hdigits' hlow =>
      obtain ⟨middle, hmove, hothers⟩ := Cursor.movesOver_append_iff.mp hmove
      obtain ⟨middle', hmark, hmove'⟩ : ∃ middle',
          middle.MovesOver ['\\', 'u'] middle' ∧
            middle'.MovesOver _ cursor' :=
        Cursor.movesOver_append_iff.mp hothers
      refine bind_eq_ok_iff.mpr ⟨_, middle,
        codeUnit_eq_ok_iff.mpr ⟨_, hlength, hdigits, hmove⟩, ?_⟩
      rw [if_pos hhigh]
      refine bind_eq_ok_iff.mpr ⟨middle, middle, rfl, ?_⟩
      rw [hmark.rest_eq]
      refine bind_eq_ok_iff.mpr ⟨(), middle', ?_, ?_⟩
      · exact congrArg (EStateM.Result.ok ()) hmark.drop_eq
      refine bind_eq_ok_iff.mpr ⟨_, cursor',
        codeUnit_eq_ok_iff.mpr ⟨_, hlength', hdigits', hmove'⟩, ?_⟩
      rw [if_pos hlow]
      rfl

/-- Behind a backslash the next character decides. -/
theorem escape_eq {c : Char} {cs : List Char} (h : cursor.rest = '\\' :: c :: cs)
    (opening : Nat) :
    escape opening cursor =
      let behind := (cursor.drop 1).drop 1
      if c = 'u' then codePoint cursor.offset behind
      else
        match escaped? c with
        | some value => .ok value behind
        | none => .error ⟨.invalidEscape c, cursor.offset⟩ behind := by
  have hnext : next? (cursor.drop 1) = .ok (some c) ((cursor.drop 1).drop 1) := by
    change EStateM.Result.ok (cursor.rest.drop 1)[0]? _ = _
    rw [h]
    rfl
  unfold escape
  rw [position_bind_eq, skip_bind_eq, bind_of_eq_ok hnext]
  by_cases hu : c = 'u'
  · subst hu
    rfl
  · simp only [if_neg hu]
    cases escaped? c <;> rfl

/-- Behind a backslash an escape is read. -/
theorem escape_eq_ok_iff {opening : Nat} {value : Char} {others : List Char}
    (h : cursor.rest = '\\' :: others) :
    escape opening cursor = .ok value cursor' ↔
      ∃ written, IsEscape written value ∧ cursor.MovesOver written cursor' := by
  rcases others with _ | ⟨c, cs⟩
  · obtain ⟨offset, rest⟩ := cursor
    cases h
    refine iff_of_false (fun h => nomatch h) ?_
    rintro ⟨written, hescape, hrest, -⟩
    obtain ⟨c, others, rfl⟩ := hescape.exists_eq_cons
    cases hrest
  have hbehind : cursor.MovesOver ['\\', c] ((cursor.drop 1).drop 1) := by
    have hfirst : cursor.MovesOver ['\\'] (cursor.drop 1) :=
      Cursor.movesOver_of_rest_eq h
    have hrest : (cursor.drop 1).rest = [c] ++ cs := Cursor.rest_drop_one h
    exact hfirst.trans (Cursor.movesOver_of_rest_eq hrest)
  -- Every escape starts with the two characters that have just been read.
  have hiff : (∃ written, IsEscape written value ∧
      cursor.MovesOver written cursor') ↔
      ∃ written, IsEscape ('\\' :: c :: written) value ∧
        ((cursor.drop 1).drop 1).MovesOver written cursor' := by
    constructor
    · rintro ⟨written, hescape, hmove⟩
      obtain ⟨c', written, rfl⟩ := hescape.exists_eq_cons
      have hc : c' = c := by
        have hrest := hmove.rest_eq.symm.trans h
        exact (List.cons.inj (List.cons.inj hrest).2).1
      subst hc
      obtain ⟨middle, hfirst, hmove⟩ : ∃ middle,
          cursor.MovesOver ['\\', c'] middle ∧ middle.MovesOver _ cursor' :=
        Cursor.movesOver_append_iff.mp hmove
      rw [← hbehind.drop_eq, hfirst.drop_eq]
      exact ⟨written, hescape, hmove⟩
    · rintro ⟨written, hescape, hmove⟩
      exact ⟨_, hescape, hbehind.trans hmove⟩
  rw [escape_eq h, hiff]
  by_cases hu : c = 'u'
  · subst hu
    exact codePoint_eq_ok_iff
  · simp only [if_neg hu]
    constructor
    · intro hvalue
      cases hescaped : escaped? c with
      | none =>
        rw [hescaped] at hvalue
        cases hvalue
      | some found =>
        rw [hescaped] at hvalue
        cases hvalue
        exact ⟨[], .single hescaped, Cursor.movesOver_nil_iff.mpr rfl⟩
    · rintro ⟨written, hescape, hmove⟩
      cases hescape with
      | single hescaped =>
        rw [hescaped, Cursor.movesOver_nil_iff.mp hmove]
      | unit => exact absurd rfl hu
      | pair => exact absurd rfl hu

/-! ## Texts -/

theorem push_append_ofList (before : String) (c : Char) (cs : List Char) :
    before.push c ++ String.ofList cs = before ++ String.ofList (c :: cs) := by
  rw [← String.toList_inj]
  simp

/-- A turn of the loop over the characters of a text. -/
theorem textBody_cons {c : Char} {cs : List Char} (h : cursor.rest = c :: cs)
    (opening : Nat) (quote turn : Char) (turns : List Char) (before : String) :
    textBody opening quote (turn :: turns) before cursor =
      if c = quote then .ok before (cursor.drop 1)
      else if c = '\\' then
        (do
          let x ← escape opening
          textBody opening quote turns (before.push x) : Scan String) cursor
      else textBody opening quote turns (before.push c) (cursor.drop 1) := by
  have hpeek : cursor.peek? = some c := by
    rw [Cursor.peek?, Cursor.peekNth?, h]
    rfl
  rw [textBody, get_bind_eq, hpeek]
  simp only
  split_ifs <;> rfl

/-- Up to the closing quote the content of a text is read. -/
theorem isContent_of_textBody {opening : Nat} {quote : Char}
    {turns : List Char} {before value : String}
    (h : textBody opening quote turns before cursor = .ok value cursor') :
    ∃ written decoded, IsContent quote written decoded ∧
      value = before ++ String.ofList decoded ∧
      cursor.MovesOver (written ++ [quote]) cursor' := by
  induction turns generalizing before cursor with
  | nil => cases h
  | cons turn turns ih =>
    rcases hrest : cursor.rest with _ | ⟨c, cs⟩
    · obtain ⟨offset, rest⟩ := cursor
      cases hrest
      cases h
    rw [textBody_cons hrest] at h
    have hfirst : cursor.MovesOver [c] (cursor.drop 1) :=
      Cursor.movesOver_of_rest_eq hrest
    split_ifs at h with hquote hbackslash
    · cases h
      subst hquote
      exact ⟨[], [], .nil, by simp, hfirst⟩
    · obtain ⟨x, middle, hescape, hrest'⟩ := bind_eq_ok_iff.mp h
      subst hbackslash
      obtain ⟨escape, hescape, hmove⟩ := (escape_eq_ok_iff hrest).mp hescape
      obtain ⟨written, decoded, hcontent, hvalue, hmove'⟩ := ih hrest'
      refine ⟨escape ++ written, x :: decoded, .escape hescape hcontent, ?_, ?_⟩
      · rw [hvalue, push_append_ofList]
      · rw [List.append_assoc]
        exact hmove.trans hmove'
    · obtain ⟨written, decoded, hcontent, hvalue, hmove⟩ := ih h
      refine ⟨c :: written, c :: decoded,
        .plain hquote hbackslash hcontent, ?_, hfirst.trans hmove⟩
      rw [hvalue, push_append_ofList]

/-- The content of a text is read up to its closing quote, if there are more
turns than characters in it. -/
theorem textBody_of_isContent {opening : Nat} {quote : Char}
    (hquote : quote ≠ '\\') {written decoded : List Char}
    (h : IsContent quote written decoded) {turns : List Char}
    (hturns : written.length < turns.length) (before : String)
    (hmove : cursor.MovesOver (written ++ [quote]) cursor') :
    textBody opening quote turns before cursor =
      .ok (before ++ String.ofList decoded) cursor' := by
  induction h generalizing turns before cursor with
  | nil =>
    obtain ⟨turn, turns, rfl⟩ := List.exists_cons_of_length_pos hturns
    rw [textBody_cons hmove.rest_eq, if_pos rfl]
    have hdrop : cursor.drop 1 = cursor' := hmove.drop_eq
    simp [hdrop]
  | @plain c written decoded hc hbackslash others ih =>
    obtain ⟨turn, turns, rfl⟩ :=
      List.exists_cons_of_length_pos (Nat.zero_lt_of_lt hturns)
    rw [textBody_cons hmove.rest_eq, if_neg hc, if_neg hbackslash]
    obtain ⟨middle, hfirst, hmove⟩ :=
      Cursor.movesOver_cons_iff.mp hmove
    have hdrop : cursor.drop 1 = middle := hfirst.drop_eq
    rw [hdrop, ih (Nat.lt_of_succ_lt_succ hturns) _ hmove, push_append_ofList]
  | @escape escape written decoded x first others ih =>
    obtain ⟨turn, turns, rfl⟩ :=
      List.exists_cons_of_length_pos (Nat.zero_lt_of_lt hturns)
    obtain ⟨c, escape, rfl⟩ := first.exists_eq_cons
    have hrest := hmove.rest_eq
    rw [List.append_assoc] at hmove
    obtain ⟨middle, hfirst, hmove⟩ := Cursor.movesOver_append_iff.mp hmove
    have hescape : Scan.escape opening cursor = .ok x middle :=
      (escape_eq_ok_iff hfirst.rest_eq).mpr ⟨_, first, hfirst⟩
    rw [textBody_cons hrest, if_neg hquote.symm, if_pos rfl,
      bind_of_eq_ok hescape, ih ?_ _ hmove, push_append_ofList]
    simp only [List.length_cons, List.length_append] at hturns
    omega

/-- Between two quotes of a kind a text is read. -/
theorem text_eq_ok_iff {quote : Char} {cs : List Char}
    (hquote : quote = '"' ∨ quote = '\'') (h : cursor.rest = quote :: cs)
    {token : Token} :
    text quote cursor = .ok token cursor' ↔
      ∃ written decoded, IsContent quote written decoded ∧
        token = .literal (.text (String.ofList decoded)) ∧
        cursor.MovesOver (quote :: written ++ [quote]) cursor' := by
  have hopening : cursor.MovesOver [quote] (cursor.drop 1) :=
    Cursor.movesOver_of_rest_eq h
  have htext : text quote cursor =
      (do
        let value ← textBody cursor.offset quote (cursor.drop 1).rest ""
        return .literal (.text value) : Scan Token) (cursor.drop 1) := rfl
  rw [htext]
  constructor
  · intro htoken
    obtain ⟨value, middle, hvalue, htoken⟩ := bind_eq_ok_iff.mp htoken
    obtain ⟨rfl, rfl⟩ := pure_eq_ok_iff.mp htoken
    obtain ⟨written, decoded, hcontent, hvalue, hmove⟩ :=
      isContent_of_textBody hvalue
    refine ⟨written, decoded, hcontent, ?_, hopening.trans hmove⟩
    rw [hvalue, String.empty_append]
  · rintro ⟨written, decoded, hcontent, rfl, hmove⟩
    obtain ⟨middle, hfirst, hmove⟩ :=
      Cursor.movesOver_cons_iff.mp hmove
    have hmiddle : middle = cursor.drop 1 := hfirst.drop_eq.symm
    subst hmiddle
    have hbackslash : quote ≠ '\\' := by
      rcases hquote with rfl | rfl <;> decide
    have hturns : written.length < (cursor.drop 1).rest.length := by
      have hlength := congrArg List.length hmove.rest_eq
      simp only [List.append_eq, List.length_append, List.length_cons]
        at hlength
      omega
    rw [bind_of_eq_ok
      (textBody_of_isContent hbackslash hcontent hturns "" hmove),
      String.empty_append]
    rfl

/-! ## Numbers -/

theorem isWhole_wholeDigits {c : Char} {cs : List Char} (h : c.isDigit = true) :
    IsWhole (wholeDigits (c :: cs)) ∧
      (wholeDigits (c :: cs) = ['0'] ∨
        StopsAt Char.isDigit
          ((c :: cs).drop (wholeDigits (c :: cs)).length)) ∧
      wholeDigits (c :: cs) <+: c :: cs := by
  by_cases hzero : c = '0'
  · subst hzero
    exact ⟨.zero, Or.inl rfl, ⟨cs, rfl⟩⟩
  · have hwhole : wholeDigits (c :: cs) = (c :: cs).takeWhile Char.isDigit := by
      unfold wholeDigits
      split
      next heq => exact absurd (List.cons.inj heq).1 hzero
      next => rfl
    have hcons : (c :: cs).takeWhile Char.isDigit =
        c :: cs.takeWhile Char.isDigit := by
      rw [List.takeWhile_cons, h]
      rfl
    rw [hwhole]
    refine ⟨?_, Or.inr (stopsAt_drop_takeWhile _ _), List.takeWhile_prefix _⟩
    have hdigits := forall_mem_takeWhile Char.isDigit (c :: cs)
    rw [hcons] at hdigits ⊢
    exact .digits hzero hdigits

theorem wholeDigits_append {digits rest : List Char} (h : IsWhole digits)
    (hrest : digits = ['0'] ∨ StopsAt Char.isDigit rest) :
    wholeDigits (digits ++ rest) = digits := by
  cases h with
  | zero => rfl
  | @digits c cs hzero h =>
    have hstops : StopsAt Char.isDigit rest := by
      rcases hrest with hrest | hrest
      · exact absurd (List.cons.inj hrest).1 hzero
      · exact hrest
    unfold wholeDigits
    split
    next heq => exact absurd (List.cons.inj heq).1 hzero
    next => exact takeWhile_append_of_stopsAt h hstops

theorem fractionDigits_eq_nil_iff {cs : List Char} :
    fractionDigits cs = [] ↔ ¬StartsFraction cs := by
  constructor
  · rintro hnil ⟨digit, others, rfl, hdigit⟩
    have hcons : (digit :: others).takeWhile Char.isDigit = [] := hnil
    rw [List.takeWhile_cons, hdigit] at hcons
    cases hcons
  · intro h
    unfold fractionDigits
    split
    next others =>
      cases others with
      | nil => rfl
      | cons digit others =>
        have hdigit : digit.isDigit = false := by
          by_contra hdigit
          exact h ⟨digit, others, rfl, Bool.not_eq_false _ ▸ hdigit⟩
        rw [List.takeWhile_cons, hdigit]
        rfl
    next => rfl

/-- A fraction that is not empty stands behind a point. -/
theorem fractionDigits_spec {cs : List Char} (h : fractionDigits cs ≠ []) :
    ∃ rest, cs = '.' :: fractionDigits cs ++ rest ∧
      (∀ digit ∈ fractionDigits cs, digit.isDigit = true) ∧
      StopsAt Char.isDigit rest := by
  unfold fractionDigits at h ⊢
  split
  next others =>
    refine ⟨_, ?_, forall_mem_takeWhile _ _,
      stopsAt_drop_takeWhile Char.isDigit others⟩
    rw [List.cons_append, takeWhile_append_drop]
  next hpoint =>
    split at h
    next others => exact absurd rfl (hpoint others)
    next => exact absurd rfl h

theorem fractionDigits_append {digits rest : List Char}
    (h : ∀ digit ∈ digits, digit.isDigit = true)
    (hrest : StopsAt Char.isDigit rest) :
    fractionDigits ('.' :: digits ++ rest) = digits :=
  takeWhile_append_of_stopsAt h hrest

/-- The number of characters of a number with these digits before and behind
its point. -/
def numberLength (whole fraction : List Char) : Nat :=
  whole.length + if fraction.isEmpty then 0 else fraction.length + 1

/-- The digits at a cursor are those of a number. -/
theorem exists_isNumber {c : Char} {cs : List Char} (h : c.isDigit = true) :
    let whole := wholeDigits (c :: cs)
    let fraction := fractionDigits ((c :: cs).drop whole.length)
    ∃ written rest, c :: cs = written ++ rest ∧
      written.length = numberLength whole fraction ∧
      ∀ value, Literal.ofDigits? whole fraction = some value →
        IsNumber written value rest := by
  intro whole fraction
  obtain ⟨hwhole, hdigits, after, hafter⟩ := @isWhole_wholeDigits c cs h
  have hdrop : (c :: cs).drop whole.length = after := by
    rw [← hafter]
    exact List.drop_left
  have hfraction : fraction = fractionDigits after :=
    congrArg fractionDigits hdrop
  rw [hdrop] at hdigits
  by_cases hnil : fraction = []
  · refine ⟨whole, after, hafter.symm, by simp [numberLength, hnil], ?_⟩
    intro value hvalue
    rw [hnil] at hvalue
    rw [hfraction, fractionDigits_eq_nil_iff] at hnil
    exact .whole hwhole hvalue hdigits hnil
  · obtain ⟨rest, hrest, hall, hstops⟩ := fractionDigits_spec (hfraction ▸ hnil)
    rw [← hfraction] at hrest hall
    refine ⟨whole ++ '.' :: fraction, rest, ?_, ?_, ?_⟩
    · rw [← hafter, hrest, List.append_assoc]
    · simp [numberLength, hnil]
    · intro value hvalue
      exact .fraction hwhole hnil hall hvalue hstops

/-- The digits of a number are those that are found. -/
theorem exists_digits_of_isNumber {written rest : List Char} {value : Literal}
    (h : IsNumber written value rest) :
    let whole := wholeDigits (written ++ rest)
    let fraction := fractionDigits ((written ++ rest).drop whole.length)
    Literal.ofDigits? whole fraction = some value ∧
      written.length = numberLength whole fraction := by
  intro whole fraction
  cases h with
  | whole hwhole hvalue hdigits hpoint =>
    have hfound : whole = written := wholeDigits_append hwhole hdigits
    have hnil : fraction = [] := by
      change fractionDigits ((written ++ rest).drop whole.length) = []
      rw [hfound, List.drop_left]
      exact fractionDigits_eq_nil_iff.mpr hpoint
    rw [hfound, hnil]
    exact ⟨hvalue, by simp [numberLength]⟩
  | @fraction digits digits' _ _ hwhole hne hall hvalue hstops =>
    have hpoint : StopsAt Char.isDigit ('.' :: (digits' ++ rest)) :=
      stopsAt_cons rfl _
    have hfound : whole = digits := by
      change wholeDigits (digits ++ '.' :: digits' ++ rest) = digits
      rw [List.append_assoc]
      exact wholeDigits_append hwhole (Or.inr hpoint)
    have hfraction : fraction = digits' := by
      change fractionDigits
        ((digits ++ '.' :: digits' ++ rest).drop whole.length) = digits'
      rw [hfound, List.append_assoc, List.drop_left]
      exact fractionDigits_append hall hstops
    rw [hfound, hfraction]
    exact ⟨hvalue, by simp [numberLength, hne]⟩

/-- The digits before and behind the point decide about a number. -/
theorem number_eq (cursor : Cursor) :
    number cursor =
      let whole := wholeDigits cursor.rest
      let fraction := fractionDigits (cursor.rest.drop whole.length)
      let behind := cursor.drop (numberLength whole fraction)
      match Literal.ofDigits? whole fraction with
      | some value => .ok (.literal value) behind
      | none => .error ⟨.invalidNumber, cursor.offset⟩ behind := by
  unfold number
  rw [position_bind_eq, get_bind_eq]
  simp only
  rw [skip_bind_eq]
  cases Literal.ofDigits? (wholeDigits cursor.rest)
    (fractionDigits (cursor.rest.drop (wholeDigits cursor.rest).length)) <;> rfl

/-- At a digit a number is read. -/
theorem number_eq_ok_iff {c : Char} {cs : List Char}
    (h : cursor.rest = c :: cs) (hc : c.isDigit = true) {token : Token} :
    number cursor = .ok token cursor' ↔
      ∃ written value, IsNumber written value cursor'.rest ∧
        token = .literal value ∧ cursor.MovesOver written cursor' := by
  rw [number_eq]
  constructor
  · obtain ⟨written, rest, hrest, hlength, hnumber⟩ :=
      @exists_isNumber c cs hc
    rw [← h] at hrest hlength hnumber
    simp only [← hlength]
    intro htoken
    split at htoken
    next value hvalue =>
      cases htoken
      have hbehind := Cursor.rest_drop_of_rest_eq hrest
      exact ⟨written, value, hbehind ▸ hnumber value hvalue, rfl,
        Cursor.movesOver_of_rest_eq hrest⟩
    next => cases htoken
  · rintro ⟨written, value, hnumber, rfl, hmove⟩
    obtain ⟨hvalue, hlength⟩ := exists_digits_of_isNumber hnumber
    rw [← hmove.rest_eq] at hvalue hlength
    simp only [← hlength, hvalue, hmove.drop_eq]

/-! ## Names -/

/-- At the start of a name the name is read. -/
theorem name_eq_ok_iff {c : Char} {cs : List Char} (h : cursor.rest = c :: cs)
    {token : Token} :
    name cursor = .ok token cursor' ↔
      ∃ parts, (∀ part ∈ parts, isNamePart part = true) ∧
        StopsAt isNamePart cursor'.rest ∧
        token = .name (String.ofList (c :: parts)) ∧
        cursor.MovesOver (c :: parts) cursor' := by
  have hname : name cursor =
      let text := c :: cs.takeWhile isNamePart
      .ok (.name (String.ofList text)) (cursor.drop text.length) := by
    obtain ⟨offset, rest⟩ := cursor
    cases h
    rfl
  rw [hname]
  constructor
  · intro htoken
    have hrest : cursor.rest =
        (c :: cs.takeWhile isNamePart) ++
          cs.drop (cs.takeWhile isNamePart).length := by
      rw [h, List.cons_append, takeWhile_append_drop]
    cases htoken
    refine ⟨_, forall_mem_takeWhile isNamePart cs, ?_, rfl,
      Cursor.movesOver_of_rest_eq hrest⟩
    rw [Cursor.rest_drop_of_rest_eq hrest]
    exact stopsAt_drop_takeWhile isNamePart cs
  · rintro ⟨parts, hparts, hstops, rfl, hmove⟩
    have hcs : cs = parts ++ cursor'.rest :=
      (List.cons.inj (h.symm.trans hmove.rest_eq)).2
    rw [hcs, takeWhile_append_of_stopsAt hparts hstops]
    simp only [hmove.drop_eq]

/-! ## Symbols -/

/-- A symbol that is found is written as it is shown. -/
theorem symbol?_spec {cs : List Char} {token : Token} {length : Nat}
    (h : symbol? cs = some (token, length)) :
    token.IsSymbol ∧ length = token.shown.toList.length ∧
      ∃ rest, cs = token.shown.toList ++ rest ∧
        (token.IsHalf → StopsAt (· == '=') rest) := by
  have hstops {rest : List Char} (hequals : ∀ tail, rest = '=' :: tail → False) :
      StopsAt (· == '=') rest := by
    intro c hc
    obtain ⟨tail, rfl⟩ := List.head?_eq_some_iff.mp hc
    exact beq_false_of_ne fun hc => hequals tail (hc ▸ rfl)
  unfold symbol? at h
  split at h
  -- Only three symbols are halves, and they are found where no equals sign is.
  all_goals cases h
  all_goals refine ⟨trivial, rfl, _, rfl, fun hhalf => ?_⟩
  all_goals first
    | exact hstops ‹_›
    | simp [Token.IsHalf] at hhalf

/-- Every symbol is found. -/
theorem symbol?_append {token : Token} (h : token.IsSymbol) {rest : List Char}
    (hrest : token.IsHalf → StopsAt (· == '=') rest) :
    symbol? (token.shown.toList ++ rest) =
      some (token, token.shown.toList.length) := by
  have hequals (hhalf : token.IsHalf) (tail : List Char)
      (heq : rest = '=' :: tail) : False := by
    have hstop := hrest hhalf '=' (heq ▸ rfl)
    exact absurd hstop (by decide)
  cases token with
  | operator op =>
    cases op with
    | less =>
      change symbol? ('<' :: rest) = _
      rw [symbol?]
      · rfl
      · exact hequals (Or.inr (Or.inl rfl))
    | greater =>
      change symbol? ('>' :: rest) = _
      rw [symbol?]
      · rfl
      · exact hequals (Or.inl rfl)
    | _ => rfl
  | exclamation =>
    change symbol? ('!' :: rest) = _
    rw [symbol?]
    · rfl
    · exact hequals (Or.inr (Or.inr rfl))
  | literal | name | endOfText => exact h.elim
  | _ => rfl

/-- Other characters start no symbol. -/
theorem symbol?_eq_none {c : Char} (h : c ∉ symbolStarts) (cs : List Char) :
    symbol? (c :: cs) = none := by
  unfold symbol?
  split
  all_goals first
    | rfl
    | (next heq =>
        cases heq
        exact absurd (by decide) h)

/-! ## Tokens -/

theorem notMem_symbolStarts_of_isDigit {c : Char} (h : c.isDigit = true) :
    c ∉ symbolStarts := by
  have hstarts : (symbolStarts.all fun start => !start.isDigit) = true := rfl
  intro hc
  have hdigit := List.all_eq_true.mp hstarts c hc
  rw [h] at hdigit
  cases hdigit

theorem notMem_symbolStarts_of_isNameStart {c : Char}
    (h : isNameStart c = true) : c ∉ symbolStarts := by
  have hstarts : (symbolStarts.all fun start => !isNameStart start) = true :=
    rfl
  intro hc
  have hstart := List.all_eq_true.mp hstarts c hc
  rw [h] at hstart
  cases hstart

/-- Only a lexeme of a symbol starts with a symbol, and it is this one. -/
theorem symbol?_eq_of_isLexeme {written rest : List Char} {token : Token}
    (h : IsLexeme written token rest) :
    symbol? (written ++ rest) = some (token, written.length) ∨
      symbol? (written ++ rest) = none := by
  cases h with
  | symbol hsymbol hrest => exact Or.inl (symbol?_append hsymbol hrest)
  | text hquote =>
    right
    rcases hquote with rfl | rfl <;> exact symbol?_eq_none (by decide) _
  | number hnumber =>
    right
    obtain ⟨c, cs, rfl, hdigit⟩ := hnumber.exists_eq_cons
    exact symbol?_eq_none (notMem_symbolStarts_of_isDigit hdigit) _
  | name hstart =>
    exact Or.inr
      (symbol?_eq_none (notMem_symbolStarts_of_isNameStart hstart) _)

/-- Where no symbol stands, a token is read from its first character on. -/
theorem word_eq_ok_iff {c : Char} {cs : List Char} (h : cursor.rest = c :: cs)
    (hsymbol : symbol? cursor.rest = none) {token : Token} :
    word c cursor = .ok token cursor' ↔
      ∃ written, IsLexeme written token cursor'.rest ∧
        cursor.MovesOver written cursor' := by
  rw [word, position_bind_eq]
  constructor
  · intro hword
    split_ifs at hword with hquote hdigit hstart hequals hhalf
    · obtain ⟨written, decoded, hcontent, rfl, hmove⟩ :=
        (text_eq_ok_iff hquote h).mp hword
      exact ⟨_, .text hquote hcontent, hmove⟩
    · obtain ⟨written, value, hnumber, rfl, hmove⟩ :=
        (number_eq_ok_iff h hdigit).mp hword
      exact ⟨written, .number hnumber, hmove⟩
    · obtain ⟨parts, hparts, hstops, rfl, hmove⟩ :=
        (name_eq_ok_iff h).mp hword
      exact ⟨_, .name hstart hparts hstops, hmove⟩
    · cases hword
    · cases hword
    · cases hword
  · rintro ⟨written, hlexeme, hmove⟩
    have hrest := hmove.rest_eq
    cases hlexeme with
    | symbol hsome hhalf =>
      rw [hrest, symbol?_append hsome hhalf] at hsymbol
      cases hsymbol
    | @text quote written decoded _ hquote hcontent =>
      obtain ⟨rfl, -⟩ := List.cons.inj (h.symm.trans hrest)
      rw [if_pos hquote]
      exact (text_eq_ok_iff hquote h).mpr ⟨written, decoded, hcontent, rfl, hmove⟩
    | number hnumber =>
      obtain ⟨first, others, rfl, hdigit⟩ := hnumber.exists_eq_cons
      obtain ⟨rfl, -⟩ := List.cons.inj (h.symm.trans hrest)
      have hquote : ¬(c = '"' ∨ c = '\'') := by
        rintro (rfl | rfl) <;> cases hdigit
      rw [if_neg hquote, if_pos hdigit]
      exact (number_eq_ok_iff h hdigit).mpr ⟨_, _, hnumber, rfl, hmove⟩
    | name hstart hparts hstops =>
      obtain ⟨rfl, -⟩ := List.cons.inj (h.symm.trans hrest)
      have hquote : ¬(c = '"' ∨ c = '\'') := by
        rintro (rfl | rfl) <;> cases hstart
      have hdigit : ¬c.isDigit = true := by
        rw [isDigit_eq_false_of_isNameStart hstart]
        decide
      rw [if_neg hquote, if_neg hdigit, if_pos hstart]
      exact (name_eq_ok_iff h).mpr ⟨_, hparts, hstops, rfl, hmove⟩

/-- A symbol that is found is read. -/
theorem token_eq_of_symbol? (hblanks : cursor.dropBlanks = cursor)
    {symbol : Token} {length : Nat}
    (h : symbol? cursor.rest = some (symbol, length)) :
    Scan.token cursor = .ok symbol (cursor.drop length) := by
  rw [Scan.token, modify_bind_eq, get_bind_eq, hblanks, h]
  rfl

/-- Where no symbol is found, a word is read. -/
theorem token_eq_word (hblanks : cursor.dropBlanks = cursor) {c : Char}
    {cs : List Char} (hrest : cursor.rest = c :: cs)
    (h : symbol? (c :: cs) = none) : Scan.token cursor = word c cursor := by
  rw [Scan.token, modify_bind_eq, get_bind_eq, hblanks, hrest]
  simp only [h]

/-- At the end of the text it is said so. -/
theorem token_eq_endOfText (hrest : cursor.rest = []) :
    Scan.token cursor = .ok .endOfText cursor := by
  obtain ⟨offset, rest⟩ := cursor
  cases hrest
  rfl

/-- At a character that is no white space, the scanner reads a lexeme, and at
the end it says so. -/
theorem token_eq_ok_iff (hstops : StopsAt isBlank cursor.rest) {token : Token} :
    Scan.token cursor = .ok token cursor' ↔
      (token = .endOfText ∧ cursor.rest = [] ∧ cursor' = cursor) ∨
        ∃ written, IsLexeme written token cursor'.rest ∧
          cursor.MovesOver written cursor' := by
  have hblanks := Cursor.dropBlanks_of_stopsAt hstops
  cases hsymbol : symbol? cursor.rest with
  | some found =>
    obtain ⟨symbol, length⟩ := found
    obtain ⟨hsome, rfl, rest, hrest, hhalf⟩ := symbol?_spec hsymbol
    have hbehind := Cursor.rest_drop_of_rest_eq hrest
    rw [token_eq_of_symbol? hblanks hsymbol]
    constructor
    · intro htoken
      cases htoken
      exact Or.inr ⟨_, .symbol hsome (hbehind ▸ hhalf),
        Cursor.movesOver_of_rest_eq hrest⟩
    · rintro (⟨-, hnil, -⟩ | ⟨written, hlexeme, hmove'⟩)
      · rw [hnil] at hsymbol
        cases hsymbol
      · rw [hmove'.rest_eq] at hsymbol
        rcases symbol?_eq_of_isLexeme hlexeme with hfound | hfound
        · obtain ⟨rfl, hlength⟩ :=
            Prod.mk.inj (Option.some.inj (hsymbol.symm.trans hfound))
          rw [hlength, hmove'.drop_eq]
        · rw [hsymbol] at hfound
          cases hfound
  | none =>
    rcases hrest : cursor.rest with _ | ⟨c, cs⟩
    · rw [token_eq_endOfText hrest]
      constructor
      · intro htoken
        cases htoken
        exact Or.inl ⟨rfl, rfl, rfl⟩
      · rintro (⟨rfl, -, rfl⟩ | ⟨written, hlexeme, hmove⟩)
        · rfl
        · obtain ⟨c, cs, rfl, -⟩ := hlexeme.exists_eq_cons
          have habsurd := hrest.symm.trans hmove.rest_eq
          cases habsurd
    · rw [token_eq_word hblanks hrest (hrest ▸ hsymbol),
        word_eq_ok_iff hrest hsymbol]
      simp only [reduceCtorEq, false_and, and_false, false_or]

/-- The gap before a token does not matter. -/
theorem token_dropBlanks (cursor : Cursor) :
    Scan.token cursor.dropBlanks = Scan.token cursor := by
  rw [Scan.token, modify_bind_eq, modify_bind_eq, cursor.dropBlanks_dropBlanks]

/-- The gap before a token is skipped. -/
theorem placedToken_eq_ok_iff {placed : PlacedToken} :
    placedToken cursor = .ok placed cursor' ↔
      placed.offset = cursor.dropBlanks.offset ∧
        Scan.token cursor.dropBlanks = .ok placed.token cursor' := by
  rw [placedToken, modify_bind_eq, position_bind_eq, bind_eq_ok_iff]
  constructor
  · rintro ⟨token, middle, htoken, hplaced⟩
    cases hplaced
    exact ⟨rfl, htoken⟩
  · rintro ⟨hoffset, htoken⟩
    refine ⟨placed.token, cursor', htoken, ?_⟩
    rw [← hoffset]
    rfl

end Scan

end DocFilter
