import DocFilter.Program.Command
import DocFilter.Proofs.Lexemes.Scanning

/-!
# Splitting a text into tokens

A text has tokens if and only if it consists of lexemes with gaps of white
space around them, and then these are its tokens.  From this follows what a
text and its tokens have to do with each other: nothing of the text is lost, and
every token takes as many characters as it can.
-/

namespace DocFilter

open Text

/-! ## Lexemes with gaps between them -/

/-- The characters, which stand behind a number of bytes, are gaps of white
space and lexemes of these tokens. -/
inductive AreTokens : Nat → List Char → List PlacedToken → Prop
  | nil {offset : Nat} {gap : List Char} (hgap : ∀ c ∈ gap, isBlank c = true) :
    AreTokens offset gap []
  | cons {offset : Nat} {gap written rest : List Char} {token : Token}
    {others : List PlacedToken} (hgap : ∀ c ∈ gap, isBlank c = true)
    (hlexeme : IsLexeme written token rest)
    (hothers : AreTokens (offset + byteLength (gap ++ written)) rest others) :
    AreTokens offset (gap ++ (written ++ rest))
      (⟨offset + byteLength gap, token⟩ :: others)

/-- There is no token in white space, and elsewhere there is one. -/
theorem AreTokens.eq_nil_iff {offset : Nat} {cs : List Char}
    {tokens : List PlacedToken} (h : AreTokens offset cs tokens) :
    tokens = [] ↔ ∀ c ∈ cs, isBlank c = true := by
  cases h with
  | nil hgap => exact iff_of_true rfl hgap
  | cons hgap hlexeme =>
    refine iff_of_false (List.cons_ne_nil _ _) fun hall => ?_
    obtain ⟨c, cs, rfl, hc⟩ := hlexeme.exists_eq_cons
    rw [hall c (by simp)] at hc
    cases hc

/-- Every token of a text is read from a lexeme in it. -/
theorem AreTokens.exists_isLexeme {offset : Nat} {cs : List Char}
    {tokens : List PlacedToken} (h : AreTokens offset cs tokens) :
    ∀ placed ∈ tokens, ∃ written rest, IsLexeme written placed.token rest := by
  induction h with
  | nil => exact List.forall_mem_nil _
  | cons hgap hlexeme hothers ih =>
    exact List.forall_mem_cons.mpr ⟨⟨_, _, hlexeme⟩, ih⟩

/-- White space stops before a lexeme. -/
theorem IsLexeme.stopsAt_isBlank {written rest : List Char} {token : Token}
    (h : IsLexeme written token rest) : StopsAt isBlank (written ++ rest) := by
  obtain ⟨c, cs, rfl, hc⟩ := h.exists_eq_cons
  exact stopsAt_cons hc (cs ++ rest)

/-- The same characters are no two different lexemes. -/
theorem IsLexeme.unique {written rest written' rest' : List Char}
    {token token' : Token} (h : IsLexeme written token rest)
    (h' : IsLexeme written' token' rest')
    (heq : written ++ rest = written' ++ rest') :
    written = written' ∧ token = token' ∧ rest = rest' := by
  let cursor : Cursor := ⟨0, written ++ rest⟩
  have hmove : cursor.MovesOver written (cursor.drop written.length) :=
    Cursor.movesOver_of_rest_eq rfl
  have hmove' : cursor.MovesOver written' (cursor.drop written'.length) :=
    Cursor.movesOver_of_rest_eq heq
  have hrest := List.append_cancel_left hmove.rest_eq
  have hrest' := List.append_cancel_left (heq.symm.trans hmove'.rest_eq)
  have hscan := (Scan.token_eq_ok_iff h.stopsAt_isBlank).mpr
    (Or.inr ⟨written, hrest ▸ h, hmove⟩)
  have hscan' := (Scan.token_eq_ok_iff h.stopsAt_isBlank).mpr
    (Or.inr ⟨written', hrest' ▸ h', hmove'⟩)
  obtain ⟨htoken, hcursor⟩ :=
    EStateM.Result.ok.inj (hscan.symm.trans hscan')
  have hrests : rest = rest' := by
    rw [hrest, hrest', hcursor]
  subst hrests
  exact ⟨List.append_cancel_right heq, htoken, rfl⟩

/-- White space with nothing behind it. -/
theorem Text.Cursor.dropBlanks_rest_eq_nil_iff {cursor : Cursor} :
    cursor.dropBlanks.rest = [] ↔ ∀ c ∈ cursor.rest, isBlank c = true := by
  obtain ⟨gap, hgap, hmove, hstops⟩ := cursor.exists_gap
  rw [hmove.rest_eq]
  constructor
  · intro hnil
    rw [hnil, List.append_nil]
    exact hgap
  · intro hall
    cases hrest : cursor.dropBlanks.rest with
    | nil => rfl
    | cons c others =>
      have hc := hstops c (hrest ▸ rfl)
      rw [hall c (by simp [hrest])] at hc
      cases hc

/-- What is read next is a token with the gap before it, or the end of the text
behind white space. -/
theorem Scan.placedToken_cases {cursor cursor' : Cursor} {placed : PlacedToken}
    (h : Scan.placedToken cursor = .ok placed cursor') :
    (placed.token = .endOfText ∧ ∀ c ∈ cursor.rest, isBlank c = true) ∨
      ∃ gap written, (∀ c ∈ gap, isBlank c = true) ∧
        IsLexeme written placed.token cursor'.rest ∧
        placed.offset = cursor.offset + byteLength gap ∧
        cursor.MovesOver (gap ++ written) cursor' := by
  obtain ⟨hoffset, htoken⟩ := placedToken_eq_ok_iff.mp h
  obtain ⟨gap, hgap, hmove, hstops⟩ := cursor.exists_gap
  rcases (token_eq_ok_iff hstops).mp htoken with
    ⟨hend, hnil, -⟩ | ⟨written, hlexeme, hmove'⟩
  · exact Or.inl ⟨hend, Cursor.dropBlanks_rest_eq_nil_iff.mp hnil⟩
  · refine Or.inr ⟨gap, written, hgap, hlexeme, ?_, hmove.trans hmove'⟩
    rw [hoffset, hmove.offset_eq]

theorem Scan.placedToken_of_isLexeme {cursor cursor' : Cursor}
    {gap written : List Char} {token : Token}
    (hgap : ∀ c ∈ gap, isBlank c = true)
    (hlexeme : IsLexeme written token cursor'.rest)
    (hmove : cursor.MovesOver (gap ++ written) cursor') :
    Scan.placedToken cursor =
      .ok ⟨cursor.offset + byteLength gap, token⟩ cursor' := by
  obtain ⟨middle, hfirst, hsecond⟩ := Cursor.movesOver_append_iff.mp hmove
  have hstops : StopsAt isBlank middle.rest := by
    rw [hsecond.rest_eq]
    exact hlexeme.stopsAt_isBlank
  have hmiddle : cursor.dropBlanks = middle :=
    Cursor.dropBlanks_eq hfirst hgap hstops
  rw [placedToken_eq_ok_iff, hmiddle]
  exact ⟨hfirst.offset_eq.symm,
    (token_eq_ok_iff hstops).mpr (Or.inr ⟨written, hlexeme, hsecond⟩)⟩

theorem Scan.placedToken_of_forall_isBlank {cursor : Cursor}
    (h : ∀ c ∈ cursor.rest, isBlank c = true) :
    Scan.placedToken cursor =
      .ok ⟨cursor.dropBlanks.offset, .endOfText⟩ cursor.dropBlanks := by
  have hnil := Cursor.dropBlanks_rest_eq_nil_iff.mpr h
  have hstops : StopsAt isBlank cursor.dropBlanks.rest := by
    rw [hnil]
    exact stopsAt_nil isBlank
  exact placedToken_eq_ok_iff.mpr
    ⟨rfl, (token_eq_ok_iff hstops).mpr (Or.inl ⟨rfl, hnil, rfl⟩)⟩

/-- The loop over the tokens finds gaps and lexemes, and all of them, if there
are as many turns as characters. -/
theorem Scan.tokens_eq_ok_iff {cursor : Cursor} {turns : List Char}
    (hturns : cursor.rest.length ≤ turns.length)
    {before found : List PlacedToken} :
    (∃ cursor', Scan.tokens turns before cursor = .ok found cursor') ↔
      ∃ later, found = before.reverse ++ later ∧
        AreTokens cursor.offset cursor.rest later := by
  induction turns generalizing before cursor with
  | nil =>
    have hnil : cursor.rest = [] := List.length_eq_zero_iff.mp (by simpa using hturns)
    rw [hnil]
    constructor
    · rintro ⟨cursor', hfound⟩
      cases hfound
      exact ⟨[], (List.append_nil _).symm, .nil (List.forall_mem_nil _)⟩
    · rintro ⟨later, rfl, hlater⟩
      rw [hlater.eq_nil_iff.mpr (List.forall_mem_nil _), List.append_nil]
      exact ⟨cursor, rfl⟩
  | cons turn turns ih =>
    -- A token has at least one character, so the other turns are enough for
    -- what stands behind it.
    have hshorter {written : List Char} {cursor' : Cursor}
        (hmove : cursor.MovesOver written cursor') (hne : written ≠ []) :
        cursor'.rest.length ≤ turns.length := by
      have hlength := congrArg List.length hmove.rest_eq
      have hpos := List.length_pos_iff.mpr hne
      simp only [List.length_append, List.length_cons] at hlength hturns
      omega
    rw [Scan.tokens]
    constructor
    · rintro ⟨cursor', hfound⟩
      obtain ⟨placed, middle, hplaced, hfound⟩ := bind_eq_ok_iff.mp hfound
      rcases placedToken_cases hplaced with
        ⟨hend, hall⟩ | ⟨gap, written, hgap, hlexeme, hoffset, hmove⟩
      · rw [if_pos hend] at hfound
        cases hfound
        exact ⟨[], (List.append_nil _).symm, .nil hall⟩
      · rw [if_neg hlexeme.ne_endOfText] at hfound
        have hne : gap ++ written ≠ [] := by
          obtain ⟨c, cs, rfl, -⟩ := hlexeme.exists_eq_cons
          simp
        obtain ⟨later, rfl, hlater⟩ :=
          (ih (hshorter hmove hne)).mp ⟨cursor', hfound⟩
        refine ⟨placed :: later, by simp, ?_⟩
        obtain ⟨offset, token⟩ := placed
        cases hoffset
        rw [hmove.offset_eq] at hlater
        rw [hmove.rest_eq, List.append_assoc]
        exact .cons hgap hlexeme hlater
    · rintro ⟨later, rfl, hlater⟩
      generalize hcs : cursor.rest = cs at hlater
      cases hlater with
      | nil hall =>
        refine ⟨cursor.dropBlanks, ?_⟩
        rw [bind_of_eq_ok (placedToken_of_forall_isBlank (hcs ▸ hall)),
          if_pos rfl, List.append_nil]
        rfl
      | @cons _ gap written rest token others hgap hlexeme hothers =>
        rw [← List.append_assoc] at hcs
        have hmove := Cursor.movesOver_of_rest_eq hcs
        have hrest := Cursor.rest_drop_of_rest_eq hcs
        rw [← hrest] at hlexeme hothers
        have hne : gap ++ written ≠ [] := by
          obtain ⟨c, cs, rfl, -⟩ := hlexeme.exists_eq_cons
          simp
        rw [← hmove.offset_eq] at hothers
        rw [bind_of_eq_ok (placedToken_of_isLexeme hgap hlexeme hmove),
          if_neg hlexeme.ne_endOfText]
        exact (ih (hshorter hmove hne)).mpr ⟨others, by simp, hothers⟩

/-- A text has these tokens if and only if it consists of their lexemes with
gaps of white space around them. -/
theorem tokenize_eq_ok_iff {text : String} {tokens : List PlacedToken} :
    tokenize text = .ok tokens ↔ AreTokens 0 text.toList tokens := by
  have hscan := @Scan.tokens_eq_ok_iff (Cursor.atStart text) text.toList
    (Nat.le_refl _) [] tokens
  have htokenize : tokenize text = .ok tokens ↔
      ∃ cursor', Scan.tokens text.toList [] (Cursor.atStart text) =
        .ok tokens cursor' := by
    unfold tokenize EStateM.run
    cases Scan.tokens text.toList [] (Cursor.atStart text) <;> simp
  rw [htokenize, hscan]
  simp [Cursor.atStart]

/-! ## Offsets -/

theorem Text.byteLength_pos {cs : List Char} (h : cs ≠ []) :
    0 < byteLength cs := by
  cases cs with
  | nil => exact absurd rfl h
  | cons c cs => exact Nat.add_pos_left c.utf8Size_pos (byteLength cs)

/-- The number of bytes before some character of a text, or before its end. -/
def IsBoundary (cs : List Char) (position : Nat) : Prop :=
  ∃ before after, cs = before ++ after ∧ position = byteLength before

/-- A token starts where a character does. -/
theorem AreTokens.isBoundary {offset : Nat} {cs : List Char}
    {tokens : List PlacedToken} (h : AreTokens offset cs tokens)
    {before : List Char} (hoffset : offset = byteLength before) :
    ∀ placed ∈ tokens, IsBoundary (before ++ cs) placed.offset := by
  induction h generalizing before with
  | nil => exact List.forall_mem_nil _
  | @cons offset gap written rest token others hgap hlexeme hothers ih =>
    rw [List.forall_mem_cons]
    constructor
    · refine ⟨before ++ gap, written ++ rest, ?_, ?_⟩
      · rw [List.append_assoc]
      · rw [byteLength_append, hoffset]
    · have hbehind : offset + byteLength (gap ++ written) =
          byteLength (before ++ (gap ++ written)) := by
        rw [byteLength_append before, hoffset]
      have hrest := ih hbehind
      simp only [List.append_assoc] at hrest ⊢
      exact hrest

/-- Every token stands behind the one before it. -/
theorem AreTokens.pairwise_lt {offset : Nat} {cs : List Char}
    {tokens : List PlacedToken} (h : AreTokens offset cs tokens) :
    (∀ placed ∈ tokens, offset ≤ placed.offset) ∧
      tokens.Pairwise fun placed later => placed.offset < later.offset := by
  induction h with
  | nil => exact ⟨List.forall_mem_nil _, .nil⟩
  | @cons offset gap written rest token others hgap hlexeme hothers ih =>
    obtain ⟨hbehind, hpairwise⟩ := ih
    have hwritten : 0 < byteLength written := by
      obtain ⟨c, cs, rfl, -⟩ := hlexeme.exists_eq_cons
      exact byteLength_pos (List.cons_ne_nil c cs)
    rw [byteLength_append] at hbehind
    constructor
    · rw [List.forall_mem_cons]
      refine ⟨Nat.le_add_right _ _, fun later hlater => ?_⟩
      have hlater := hbehind later hlater
      omega
    · refine .cons (fun later hlater => ?_) hpairwise
      have hlater := hbehind later hlater
      simp only
      omega

/-! ## Slices -/

/-- Behind the characters `before` and a gap stands a slice of a text.  The
slice is the token by itself, and a longer one is no token. -/
structure IsSlice (before gap slice : List Char) (placed : PlacedToken)
    (rest : List Char) : Prop where
  gap_isBlank : ∀ c ∈ gap, isBlank c = true
  slice_ne_nil : slice ≠ []
  offset_eq : placed.offset = byteLength (before ++ gap)
  alone : tokenize (String.ofList slice) = .ok [⟨0, placed.token⟩]
  longest : ∀ longer, longer <+: slice ++ rest → slice.length < longer.length →
    (∀ c ∈ longer.getLast?, isBlank c = false) →
    ∀ other, tokenize (String.ofList longer) ≠ .ok [other]

/-- Behind the characters `before`, a text is split into slices with gaps of
white space around them. -/
inductive IsSplit : List Char → List Char → List PlacedToken → Prop
  | nil {before gap : List Char} (hgap : ∀ c ∈ gap, isBlank c = true) :
    IsSplit before gap []
  | cons {before gap slice rest : List Char} {placed : PlacedToken}
    {others : List PlacedToken} (first : IsSlice before gap slice placed rest)
    (hothers : IsSplit (before ++ gap ++ slice) rest others) :
    IsSplit before (gap ++ slice ++ rest) (placed :: others)

/-- A lexeme is a token by itself. -/
theorem IsLexeme.tokenize_eq {written rest : List Char} {token : Token}
    (h : IsLexeme written token rest) :
    tokenize (String.ofList written) = .ok [⟨0, token⟩] := by
  rw [tokenize_eq_ok_iff, String.toList_ofList]
  have htokens : AreTokens 0 ([] ++ (written ++ [])) [⟨0, token⟩] :=
    .cons (List.forall_mem_nil _) h.alone (.nil (List.forall_mem_nil _))
  rwa [List.append_nil] at htokens

/-- Behind a lexeme, characters that do not end in white space are not part of
the same token. -/
theorem IsLexeme.tokenize_append_ne {written rest more : List Char}
    {token : Token} (h : IsLexeme written token rest) (hmore : more <+: rest)
    (hne : more ≠ []) (hlast : ∀ c ∈ more.getLast?, isBlank c = false)
    (other : PlacedToken) :
    tokenize (String.ofList (written ++ more)) ≠ .ok [other] := by
  intro htokens
  rw [tokenize_eq_ok_iff, String.toList_ofList] at htokens
  generalize hcs : written ++ more = cs at htokens
  cases htokens with
  | @cons _ gap written' rest' token' _ hgap hlexeme hothers =>
    have hnil : gap = [] := by
      cases gap with
      | nil => rfl
      | cons c gap =>
        have hstops := (h.of_isPrefix hmore).stopsAt_isBlank c (hcs ▸ rfl)
        rw [hgap c List.mem_cons_self] at hstops
        cases hstops
    subst hnil
    obtain ⟨-, -, rfl⟩ := (h.of_isPrefix hmore).unique hlexeme hcs
    have hall := hothers.eq_nil_iff.mp rfl
    have hlast' := hlast _ (List.getLast?_eq_some_getLast hne)
    rw [hall _ (List.getLast_mem hne)] at hlast'
    cases hlast'

/-- Lexemes with gaps between them are slices, each as long as it can be. -/
theorem AreTokens.isSplit {offset : Nat} {cs : List Char}
    {tokens : List PlacedToken} (h : AreTokens offset cs tokens)
    {before : List Char} (hoffset : offset = byteLength before) :
    IsSplit before cs tokens := by
  induction h generalizing before with
  | nil hgap => exact .nil hgap
  | @cons offset gap written rest token others hgap hlexeme hothers ih =>
    have hbehind : offset + byteLength (gap ++ written) =
        byteLength (before ++ gap ++ written) := by
      rw [List.append_assoc, byteLength_append before, hoffset]
    rw [← List.append_assoc]
    refine .cons ⟨hgap, ?_, ?_, hlexeme.tokenize_eq, ?_⟩ (ih hbehind)
    · obtain ⟨c, cs, rfl, -⟩ := hlexeme.exists_eq_cons
      exact List.cons_ne_nil c cs
    · rw [byteLength_append, hoffset]
    · intro longer hlonger hlength hlast
      obtain ⟨more, rfl⟩ : written <+: longer :=
        List.prefix_of_prefix_length_le (List.prefix_append written rest)
          hlonger (Nat.le_of_lt hlength)
      have hmore : more <+: rest := (List.prefix_append_right_inj written).mp hlonger
      have hne : more ≠ [] := by
        rintro rfl
        simp at hlength
      apply hlexeme.tokenize_append_ne hmore hne
      intro c hc
      apply hlast
      rw [List.getLast?_append, hc]
      rfl

/-- A text that has tokens is split into them and gaps of white space, and every
token is as long as it can be.  It has no token exactly when it is white space,
and then the program reports that there is no expression. -/
theorem tokenize_isSplit (text : String) :
    (∀ tokens, tokenize text = .ok tokens →
      IsSplit [] text.toList tokens ∧
        (tokens.Pairwise fun placed later => placed.offset < later.offset) ∧
        ∀ placed ∈ tokens, IsBoundary text.toList placed.offset) ∧
      (tokenize text = .ok [] ↔ ∀ c ∈ text.toList, isBlank c = true) ∧
      ∀ request, Program.compileText request text = .error .noExpression ↔
        tokenize text = .ok [] := by
  have hnil : tokenize text = .ok [] ↔ ∀ c ∈ text.toList, isBlank c = true := by
    rw [tokenize_eq_ok_iff]
    exact ⟨fun h => h.eq_nil_iff.mp rfl, .nil⟩
  refine ⟨?_, hnil, ?_⟩
  · intro tokens htokens
    have h := tokenize_eq_ok_iff.mp htokens
    have hboundary : ∀ placed ∈ tokens,
        IsBoundary ([] ++ text.toList) placed.offset := h.isBoundary rfl
    exact ⟨h.isSplit rfl, h.pairwise_lt.2, hboundary⟩
  · intro request
    have hne (result : Except Failure String) :
        result.mapError Program.Trouble.expression ≠ .error .noExpression := by
      cases result <;> simp [Except.mapError]
    rw [hnil, ← List.all_eq_true]
    unfold Program.compileText
    split_ifs with hblank htree
    · exact iff_of_true rfl hblank
    · exact iff_of_false (hne _) hblank
    · exact iff_of_false (hne _) hblank

/-- A letter of two bytes, an operator that starts with another one, and zeros
in front of a number. -/
theorem tokenize_isSplit_leadingZeros :
    let text := "é>= 007 "
    let tokens : List PlacedToken :=
      [⟨0, .name "é"⟩, ⟨2, .operator .greaterEqual⟩,
        ⟨5, .literal (.integer 0)⟩, ⟨6, .literal (.integer 0)⟩,
        ⟨7, .literal (.integer 7)⟩]
    tokenize text = .ok tokens ∧ IsSplit [] text.toList tokens := by
  intro text tokens
  have htokens : tokenize text = .ok tokens := by decide +kernel
  exact ⟨htokens, ((tokenize_isSplit text).1 tokens htokens).1⟩

end DocFilter
