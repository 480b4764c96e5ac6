import DocFilter.Proofs.Guarded.Bytewise
import DocFilter.Proofs.Lexemes.Scanning

/-!
# The bytewise scanner follows the scanner

A cursor stands in a text if what is left of it stands behind as many bytes of
the text as it has counted.  The bytewise scanner, started from this number of
bytes, ends like the scanner at the cursor, so it never cuts the text inside a
character or behind its end.  Every error is reported at the start of a
character.
-/

namespace DocFilter

open Text

variable {text : List Char} {cursor cursor' : Cursor}

/-! ## White space -/

namespace Text.Cursor

theorem dropBlanks_of_isBlank {c : Char} {cs : List Char}
    (h : cursor.rest = c :: cs) (hc : isBlank c = true) :
    cursor.dropBlanks = (cursor.drop 1).dropBlanks := by
  obtain ⟨gap, hgap, hmove, hstops⟩ := (cursor.drop 1).exists_gap
  have hfirst : cursor.MovesOver [c] (cursor.drop 1) :=
    movesOver_of_rest_eq h
  apply dropBlanks_eq (hfirst.trans hmove) _ hstops
  exact List.forall_mem_cons.mpr ⟨hc, hgap⟩

end Text.Cursor

theorem IsWhole.isEmpty_eq_false {digits : List Char} (h : IsWhole digits) :
    digits.isEmpty = false := by
  cases h <;> rfl

/-! ## Places in a text -/

/-- A text is cut where the characters before it end. -/
theorem Bytewise.from?_append (before rest : List Char) :
    from? (before ++ rest) (byteLength before) = some rest := by
  induction before with
  | nil => cases rest <;> rfl
  | cons c before ih =>
    obtain ⟨bytes, hbytes⟩ := Nat.exists_eq_succ_of_ne_zero
      (Nat.ne_of_gt c.utf8Size_pos)
    have hlength : byteLength (c :: before) = bytes + byteLength before + 1 := by
      change c.utf8Size + byteLength before = _
      omega
    have hle : c.utf8Size ≤ bytes + byteLength before + 1 := by omega
    have hsub : bytes + byteLength before + 1 - c.utf8Size =
        byteLength before := by omega
    rw [hlength, List.cons_append, from?, if_pos hle, hsub, ih]

/-- A text is cut off where the characters at its start end. -/
theorem Bytewise.upTo?_eq_some_iff {cs before : List Char} {bytes : Nat} :
    upTo? cs bytes = some before ↔
      ∃ rest, cs = before ++ rest ∧ byteLength before = bytes := by
  induction cs generalizing before bytes with
  | nil =>
    cases bytes with
    | zero =>
      constructor
      · intro h
        cases h
        exact ⟨[], rfl, rfl⟩
      · rintro ⟨rest, hrest, -⟩
        rw [(List.append_eq_nil_iff.mp hrest.symm).1]
        rfl
    | succ bytes =>
      refine iff_of_false (fun h => nomatch h) ?_
      rintro ⟨rest, hrest, hbytes⟩
      rw [(List.append_eq_nil_iff.mp hrest.symm).1] at hbytes
      cases hbytes
  | cons c cs ih =>
    have hpos := c.utf8Size_pos
    cases bytes with
    | zero =>
      constructor
      · intro h
        cases h
        exact ⟨c :: cs, rfl, rfl⟩
      · rintro ⟨rest, -, hbytes⟩
        cases before with
        | nil => rfl
        | cons c' before =>
          have hpos' := c'.utf8Size_pos
          change c'.utf8Size + byteLength before = 0 at hbytes
          omega
    | succ bytes =>
      rw [upTo?]
      constructor
      · intro h
        split_ifs at h with hle
        obtain ⟨others, hothers, rfl⟩ := Option.map_eq_some_iff.mp h
        obtain ⟨rest, rfl, hbytes⟩ := ih.mp hothers
        refine ⟨rest, rfl, ?_⟩
        change c.utf8Size + byteLength others = bytes + 1
        omega
      · rintro ⟨rest, hrest, hbytes⟩
        cases before with
        | nil => cases hbytes
        | cons c' before =>
          obtain ⟨rfl, hcs⟩ := List.cons.inj hrest
          change c.utf8Size + byteLength before = bytes + 1 at hbytes
          have hbefore : upTo? cs (bytes + 1 - c.utf8Size) = some before :=
            ih.mpr ⟨rest, hcs, by omega⟩
          rw [if_pos (by omega), hbefore]
          rfl

/-- What is left at the cursor is what is left of the text behind as many bytes
as the cursor has counted. -/
def Text.Cursor.StandsIn (cursor : Cursor) (text : List Char) : Prop :=
  ∃ before, text = before ++ cursor.rest ∧ cursor.offset = byteLength before

/-- A character of the text starts at a position. -/
def IsInside (text : List Char) (position : Nat) : Prop :=
  ∃ before c after, text = before ++ c :: after ∧ position = byteLength before

namespace Text.Cursor.StandsIn

theorem atStart (text : String) : (Cursor.atStart text).StandsIn text.toList :=
  ⟨[], rfl, rfl⟩

theorem move {written : List Char} (h : cursor.StandsIn text)
    (hmove : cursor.MovesOver written cursor') : cursor'.StandsIn text := by
  obtain ⟨before, htext, hoffset⟩ := h
  refine ⟨before ++ written, ?_, ?_⟩
  · rw [htext, hmove.rest_eq, List.append_assoc]
  · rw [hmove.offset_eq, hoffset, byteLength_append]

theorem drop (h : cursor.StandsIn text) (n : Nat) :
    (cursor.drop n).StandsIn text :=
  h.move (cursor.movesOver_drop n)

theorem isInside {c : Char} {cs : List Char} (h : cursor.StandsIn text)
    (hrest : cursor.rest = c :: cs) : IsInside text cursor.offset := by
  obtain ⟨before, htext, hoffset⟩ := h
  exact ⟨before, c, cs, hrest ▸ htext, hoffset⟩

theorem length_le (h : cursor.StandsIn text) :
    cursor.rest.length ≤ text.length := by
  obtain ⟨before, htext, -⟩ := h
  rw [htext, List.length_append]
  exact Nat.le_add_left _ _

/-- The bytes of a move stay within the text. -/
theorem offset_le (h : cursor.StandsIn text) :
    cursor.offset ≤ byteLength text := by
  obtain ⟨before, htext, hoffset⟩ := h
  rw [htext, byteLength_append, hoffset]
  exact Nat.le_add_right _ _

end Text.Cursor.StandsIn

namespace Bytewise

/-! ## Moving -/

theorem from?_offset (h : cursor.StandsIn text) :
    from? text cursor.offset = some cursor.rest := by
  obtain ⟨before, htext, hoffset⟩ := h
  rw [htext, hoffset, from?_append]

theorem rest_eq (h : cursor.StandsIn text) :
    rest text cursor.offset = .ok cursor.rest cursor.offset := by
  rw [rest, get_bind_eq, from?_offset h]
  rfl

theorem peekNth?_eq (h : cursor.StandsIn text) (n : Nat) :
    peekNth? text n cursor.offset = .ok cursor.rest[n]? cursor.offset := by
  rw [peekNth?, bind_of_eq_ok (rest_eq h)]
  rfl

theorem peek?_eq (h : cursor.StandsIn text) :
    peek? text cursor.offset = .ok cursor.rest.head? cursor.offset := by
  rw [peek?, bind_of_eq_ok (rest_eq h)]
  rfl

theorem pop?_eq (h : cursor.StandsIn text) :
    pop? text cursor.offset = .ok cursor.rest.head? (cursor.drop 1).offset := by
  rw [pop?, bind_of_eq_ok (peek?_eq h)]
  obtain ⟨offset, rest⟩ := cursor
  cases rest <;> rfl

theorem skip_eq (h : cursor.StandsIn text) {written : List Char}
    (hmove : cursor.MovesOver written cursor') :
    skip text (byteLength written) cursor.offset = .ok () cursor'.offset := by
  have hle := (h.move hmove).offset_le
  rw [hmove.offset_eq] at hle ⊢
  exact congrArg (EStateM.Result.ok ()) (Nat.min_eq_left hle)

/-- White space is skipped character by character. -/
theorem skipBlanks_eq (h : cursor.StandsIn text) {turns : List Char}
    (hturns : cursor.rest.length ≤ turns.length) :
    skipBlanks text turns cursor.offset = .ok () cursor.dropBlanks.offset := by
  induction turns generalizing cursor with
  | nil =>
    have hnil : cursor.rest = [] :=
      List.length_eq_zero_iff.mp (Nat.le_zero.mp hturns)
    rw [Cursor.dropBlanks_of_stopsAt (hnil ▸ stopsAt_nil isBlank)]
    rfl
  | cons turn turns ih =>
    rw [skipBlanks, bind_of_eq_ok (peek?_eq h)]
    rcases hrest : cursor.rest with _ | ⟨c, cs⟩
    · rw [Cursor.dropBlanks_of_stopsAt (hrest ▸ stopsAt_nil isBlank)]
      rfl
    · simp only [List.head?_cons]
      by_cases hblank : isBlank c = true
      · rw [if_pos hblank, bind_of_eq_ok (pop?_eq h),
          Cursor.dropBlanks_of_isBlank hrest hblank]
        apply ih (h.drop 1)
        rw [Cursor.rest_drop_one hrest]
        rw [hrest] at hturns
        exact Nat.le_of_succ_le_succ hturns
      · rw [Bool.not_eq_true] at hblank
        rw [if_neg (Bool.eq_false_iff.mp hblank),
          Cursor.dropBlanks_of_stopsAt (hrest ▸ stopsAt_cons hblank cs)]
        rfl

/-! ## Escapes -/

theorem utf8Size_of_hexDigit? {c : Char} {digit : Nat}
    (h : Scan.hexDigit? c = some digit) : c.utf8Size = 1 := by
  rw [Char.utf8Size_eq_one_iff]
  have hle {c' : Char} (hc : c ≤ c') (hc' : c'.val ≤ 127) : c.val ≤ 127 :=
    UInt32.le_trans hc hc'
  unfold Scan.hexDigit? at h
  split_ifs at h with hdigit hlower hupper
  · exact hle hdigit.2 (by decide)
  · exact hle hlower.2 (by decide)
  · exact hle hupper.2 (by decide)

theorem byteLength_of_mapM_hexDigit? {cs : List Char} {digits : List Nat}
    (h : cs.mapM Scan.hexDigit? = some digits) : byteLength cs = cs.length := by
  induction cs generalizing digits with
  | nil => rfl
  | cons c cs ih =>
    rw [List.mapM_cons] at h
    obtain ⟨digit, hdigit, h⟩ := Option.bind_eq_some_iff.mp h
    obtain ⟨others, hothers, -⟩ := Option.bind_eq_some_iff.mp h
    change c.utf8Size + byteLength cs = cs.length + 1
    rw [utf8Size_of_hexDigit? hdigit, ih hothers, Nat.add_comm]

/-- The number written with some digits. -/
def hexValue (digits : List Nat) : Nat :=
  digits.foldl (fun value digit => value * 16 + digit) 0

/-- A code unit is the number written with the next four bytes, if they are
hexadecimal digits. -/
theorem codeUnit?_eq_some_iff {cs : List Char} {unit : Nat} :
    Scan.codeUnit? cs = some unit ↔
      ∃ before digits, upTo? cs 4 = some before ∧
        before.mapM Scan.hexDigit? = some digits ∧ hexValue digits = unit := by
  constructor
  · intro h
    rcases cs with _ | ⟨a, _ | ⟨b, _ | ⟨c, _ | ⟨d, cs⟩⟩⟩⟩
    · cases h
    · cases h
    · cases h
    · cases h
    obtain ⟨w, hw, h⟩ := Option.bind_eq_some_iff.mp h
    obtain ⟨x, hx, h⟩ := Option.bind_eq_some_iff.mp h
    obtain ⟨y, hy, h⟩ := Option.bind_eq_some_iff.mp h
    obtain ⟨z, hz, h⟩ := Option.bind_eq_some_iff.mp h
    have hdigits : [a, b, c, d].mapM Scan.hexDigit? = some [w, x, y, z] := by
      simp [hw, hx, hy, hz]
    refine ⟨[a, b, c, d], [w, x, y, z], ?_, hdigits, ?_⟩
    · exact upTo?_eq_some_iff.mpr
        ⟨cs, rfl, byteLength_of_mapM_hexDigit? hdigits⟩
    · rw [← Option.some.inj h]
      simp only [hexValue, List.foldl_cons, List.foldl_nil]
      omega
  · rintro ⟨before, digits, hbefore, hdigits, rfl⟩
    obtain ⟨rest, rfl, hbytes⟩ := upTo?_eq_some_iff.mp hbefore
    rw [byteLength_of_mapM_hexDigit? hdigits] at hbytes
    rcases before with _ | ⟨a, _ | ⟨b, _ | ⟨c, _ | ⟨d, _ | ⟨e, before⟩⟩⟩⟩⟩ <;>
      simp at hbytes
    simp only [List.mapM_cons, List.mapM_nil, Option.bind_eq_bind,
      Option.bind_eq_some_iff, Option.pure_def, Option.some.injEq] at hdigits
    obtain ⟨w, hw, _, ⟨x, hx, _, ⟨y, hy, _, ⟨z, hz, _, rfl, rfl⟩, rfl⟩, rfl⟩,
      rfl⟩ := hdigits
    simp only [List.cons_append, List.nil_append, Scan.codeUnit?, hw, hx, hy, hz,
      Option.bind_eq_bind, Option.bind_some, Option.pure_def, Option.some.injEq,
      hexValue, List.foldl_cons, List.foldl_nil]
    omega

/-- The digits of a code unit take four bytes. -/
theorem codeUnit?_eq (h : cursor.StandsIn text) :
    codeUnit? text cursor.offset =
      match Scan.codeUnit? cursor.rest with
      | some unit => .ok (some unit) (cursor.drop 4).offset
      | none => .ok none cursor.offset := by
  rw [codeUnit?, bind_of_eq_ok (rest_eq h)]
  cases hunit : Scan.codeUnit? cursor.rest with
  | some unit =>
    obtain ⟨before, digits, hbefore, hdigits, rfl⟩ :=
      codeUnit?_eq_some_iff.mp hunit
    obtain ⟨rest, hrest, hbytes⟩ := upTo?_eq_some_iff.mp hbefore
    have hlength : before.length = 4 :=
      (byteLength_of_mapM_hexDigit? hdigits).symm.trans hbytes
    have hskip := skip_eq h (Cursor.movesOver_of_rest_eq hrest)
    rw [hbytes, hlength] at hskip
    simp only [hbefore, hdigits]
    rw [bind_of_eq_ok hskip]
    rfl
  | none =>
    cases hbefore : upTo? cursor.rest 4 with
    | none => rfl
    | some before =>
      cases hdigits : before.mapM Scan.hexDigit? with
      | none =>
        simp only [hdigits]
        rfl
      | some digits =>
        have hsome := codeUnit?_eq_some_iff.mpr
          ⟨before, digits, hbefore, hdigits, rfl⟩
        rw [hunit] at hsome
        cases hsome

/-! ## Faults -/

/-- A bytewise run at a cursor ends like the run of the scanner, with the same
value or with the same error at the start of a character, and it leaves the
place where the scanner stops. -/
inductive Mirrors {α : Type} (text : List Char) :
    EStateM.Result LexicalError Cursor α →
      EStateM.Result (Halt LexicalError) Nat α → Prop
  | ok {value : α} {cursor : Cursor} (h : cursor.StandsIn text) :
    Mirrors text (.ok value cursor) (.ok value cursor.offset)
  | error {error : LexicalError} {cursor : Cursor}
    (herror : IsInside text error.position) (h : cursor.StandsIn text) :
    Mirrors text (.error error cursor) (.error (.fault error) cursor.offset)

variable {α β : Type}

theorem mirrors_ok (h : cursor.StandsIn text) (value : α) :
    Mirrors text (.ok value cursor) (.ok value cursor.offset) :=
  .ok h

theorem mirrors_fail {position : Nat} (h : cursor.StandsIn text)
    (hposition : IsInside text position) (fault : LexicalFault) :
    Mirrors text ((Scan.fail fault position : Scan α) cursor)
      ((fail fault position : Step α) cursor.offset) :=
  .error hposition h

section

variable {result : EStateM.Result LexicalError Cursor α}
  {result' : EStateM.Result (Halt LexicalError) Nat α}

theorem Mirrors.standsIn_left (h : Mirrors text result result') :
    (left result).StandsIn text := by
  cases h with
  | ok h => exact h
  | error _ h => exact h

theorem Mirrors.left_eq (h : Mirrors text result result') :
    left result' = (left result).offset := by
  cases h <;> rfl

end

/-- One run after another mirrors what it mirrors part by part. -/
theorem Mirrors.bind
    {scan : Scan α} {step : Step α} {next : α → Scan β} {next' : α → Step β}
    {place : Nat} (h : Mirrors text (scan cursor) (step place))
    (hnext : ∀ value (middle : Cursor), middle.StandsIn text →
      Mirrors text (next value middle) (next' value middle.offset)) :
    Mirrors text ((scan >>= next) cursor) ((step >>= next') place) := by
  change Mirrors text (EStateM.bind scan next cursor)
    (EStateM.bind step next' place)
  unfold EStateM.bind
  generalize scan cursor = result at h ⊢
  generalize step place = result' at h ⊢
  cases h with
  | ok h => exact hnext _ _ h
  | error herror h => exact .error herror h

theorem mirrors_codeUnit (h : cursor.StandsIn text) {backslash : Nat}
    (hbackslash : IsInside text backslash) :
    Mirrors text (Scan.codeUnit backslash cursor)
      (codeUnit text backslash cursor.offset) := by
  have hunit := codeUnit?_eq h
  rw [Scan.codeUnit, get_bind_eq]
  cases hscan : Scan.codeUnit? cursor.rest with
  | some unit =>
    rw [hscan] at hunit
    rw [codeUnit, bind_of_eq_ok hunit]
    exact mirrors_ok (h.drop 4) unit
  | none =>
    rw [hscan] at hunit
    rw [codeUnit, bind_of_eq_ok hunit]
    exact mirrors_fail h hbackslash _

/-- Halves of a pair are not below the first ones of their kinds. -/
theorem joinHalves_eq {high low : Nat} (hhigh : Scan.isHighHalf high = true)
    (hlow : Scan.isLowHalf low = true) :
    joinHalves high low = return Scan.joinHalves high low := by
  simp only [Scan.isHighHalf, Scan.isLowHalf, Bool.and_eq_true,
    decide_eq_true_eq] at hhigh hlow
  exact if_pos ⟨hhigh.1, hlow.1⟩

theorem mirrors_codePoint (h : cursor.StandsIn text) {backslash : Nat}
    (hbackslash : IsInside text backslash) :
    Mirrors text (Scan.codePoint backslash cursor)
      (codePoint text backslash cursor.offset) := by
  apply (mirrors_codeUnit h hbackslash).bind
  intro unit middle hmiddle
  by_cases hhigh : Scan.isHighHalf unit = true
  · rw [if_pos hhigh, if_pos hhigh, get_bind_eq,
      bind_of_eq_ok (peek?_eq hmiddle), bind_of_eq_ok (peekNth?_eq hmiddle 1)]
    generalize hothers : middle.rest = others
    split
    next others =>
      have hmark : middle.MovesOver ['\\', 'u'] (middle.drop 2) :=
        Cursor.movesOver_of_rest_eq hothers
      have hskip : skip text 2 middle.offset = .ok () (middle.drop 2).offset :=
        skip_eq hmiddle hmark
      rw [if_pos ⟨rfl, rfl⟩, bind_of_eq_ok hskip, Scan.skip_bind_eq]
      apply (mirrors_codeUnit (hmiddle.drop 2) hbackslash).bind
      intro low behind hbehind
      by_cases hlow : Scan.isLowHalf low = true
      · rw [if_pos hlow, if_pos hlow, joinHalves_eq hhigh hlow]
        exact mirrors_ok hbehind _
      · rw [if_neg hlow, if_neg hlow]
        exact mirrors_fail hbehind hbackslash _
    next hne =>
      have hneg : ¬(others.head? = some '\\' ∧ others[1]? = some 'u') := by
        rintro ⟨hfirst, hsecond⟩
        obtain ⟨tail, rfl⟩ := List.head?_eq_some_iff.mp hfirst
        obtain ⟨tail', rfl⟩ := List.head?_eq_some_iff.mp
          (List.head?_eq_getElem?.trans hsecond)
        exact hne tail' rfl
      rw [if_neg hneg]
      exact mirrors_fail hmiddle hbackslash _
  · rw [if_neg hhigh, if_neg hhigh]
    by_cases hlow : Scan.isLowHalf unit = true
    · rw [if_pos hlow, if_pos hlow]
      exact mirrors_fail hmiddle hbackslash _
    · rw [if_neg hlow, if_neg hlow]
      exact mirrors_ok hmiddle _

theorem mirrors_escape (h : cursor.StandsIn text) {others : List Char}
    (hrest : cursor.rest = '\\' :: others) {opening : Nat}
    (hopening : IsInside text opening) :
    Mirrors text (Scan.escape opening cursor)
      (escape text opening cursor.offset) := by
  rw [escape, get_bind_eq, bind_of_eq_ok (pop?_eq h),
    bind_of_eq_ok (pop?_eq (h.drop 1)), Cursor.rest_drop_one hrest]
  cases others with
  | nil =>
    have hend := (h.drop 1).drop 1
    obtain ⟨offset, rest⟩ := cursor
    cases hrest
    exact mirrors_fail hend hopening _
  | cons c cs =>
    have hbehind := (h.drop 1).drop 1
    rw [Scan.escape_eq hrest]
    by_cases hu : c = 'u'
    · subst hu
      exact mirrors_codePoint hbehind (h.isInside hrest)
    · simp only [if_neg hu, List.head?_cons]
      cases Scan.escaped? c with
      | some value => exact mirrors_ok hbehind value
      | none => exact mirrors_fail hbehind (h.isInside hrest) _

/-! ## Texts -/

theorem mirrors_textBody (h : cursor.StandsIn text) {opening : Nat}
    (hopening : IsInside text opening) (quote : Char) (turns : List Char)
    (value : String) :
    Mirrors text (Scan.textBody opening quote turns value cursor)
      (textBody text opening quote turns value cursor.offset) := by
  induction turns generalizing cursor value with
  | nil => exact mirrors_fail h hopening _
  | cons turn turns ih =>
    rw [textBody, bind_of_eq_ok (peek?_eq h)]
    rcases hrest : cursor.rest with _ | ⟨c, cs⟩
    · obtain ⟨offset, rest⟩ := cursor
      cases hrest
      exact mirrors_fail h hopening _
    · rw [Scan.textBody_cons hrest]
      simp only [List.head?_cons]
      split_ifs with hquote hbackslash
      · rw [bind_of_eq_ok (pop?_eq h)]
        exact mirrors_ok (h.drop 1) value
      · subst hbackslash
        exact (mirrors_escape h hrest hopening).bind fun x middle hmiddle =>
          ih hmiddle (value.push x)
      · rw [bind_of_eq_ok (pop?_eq h)]
        exact ih (h.drop 1) (value.push c)

theorem mirrors_quoted (h : cursor.StandsIn text) {c : Char} {cs : List Char}
    (hrest : cursor.rest = c :: cs) (quote : Char) :
    Mirrors text (Scan.text quote cursor) (quoted text quote cursor.offset) := by
  have hbehind := h.drop 1
  have htext : Scan.text quote cursor =
      (do
        let value ← Scan.textBody cursor.offset quote (cursor.drop 1).rest ""
        return .literal (.text value) : Scan Token) (cursor.drop 1) := rfl
  rw [htext, quoted, get_bind_eq, bind_of_eq_ok (pop?_eq h),
    bind_of_eq_ok (rest_eq hbehind)]
  apply (mirrors_textBody hbehind (h.isInside hrest) quote _ "").bind
  intro value middle hmiddle
  exact mirrors_ok hmiddle _

/-! ## Numbers and names -/

/-- A move over a row of characters that stand at the cursor. -/
theorem skip_eq_of_rest_eq (h : cursor.StandsIn text)
    {written rest : List Char} (hrest : cursor.rest = written ++ rest) :
    skip text (byteLength written) cursor.offset =
      .ok () (cursor.drop written.length).offset :=
  skip_eq h (Cursor.movesOver_of_rest_eq hrest)

theorem length_numberWritten (whole fraction : List Char) :
    (numberWritten whole fraction).length =
      Scan.numberLength whole fraction := by
  unfold numberWritten Scan.numberLength
  split_ifs
  · rfl
  · rw [List.length_append]
    rfl

/-- The number at the start of a text is written there. -/
theorem exists_numberWritten {c : Char} {cs : List Char}
    (h : c.isDigit = true) :
    let whole := Scan.wholeDigits (c :: cs)
    let fraction := Scan.fractionDigits ((c :: cs).drop whole.length)
    numberAt? (c :: cs) = some (whole, fraction) ∧
      ∃ rest, c :: cs = numberWritten whole fraction ++ rest := by
  intro whole fraction
  obtain ⟨hwhole, -, after, hafter⟩ := @Scan.isWhole_wholeDigits c cs h
  have hdrop : (c :: cs).drop whole.length = after := by
    rw [← hafter]
    exact List.drop_left
  constructor
  · rw [numberAt?, hwhole.isEmpty_eq_false]
    rfl
  · by_cases hnil : fraction = []
    · exact ⟨after, by rw [hnil]; exact hafter.symm⟩
    · have hfraction : fraction = Scan.fractionDigits after :=
        congrArg Scan.fractionDigits hdrop
      obtain ⟨rest, hrest, -⟩ := Scan.fractionDigits_spec (hfraction ▸ hnil)
      rw [← hfraction] at hrest
      have hwritten : numberWritten whole fraction = whole ++ '.' :: fraction :=
        if_neg (by simpa using hnil)
      refine ⟨rest, ?_⟩
      rw [hwritten, List.append_assoc, ← hrest]
      exact hafter.symm

theorem mirrors_number (h : cursor.StandsIn text) {c : Char} {cs : List Char}
    (hrest : cursor.rest = c :: cs) (hc : c.isDigit = true) :
    Mirrors text (Scan.number cursor) (number text cursor.offset) := by
  obtain ⟨hnumber, rest, hwritten⟩ := @exists_numberWritten c cs hc
  have hskip := skip_eq_of_rest_eq h (hrest.trans hwritten)
  rw [length_numberWritten] at hskip
  rw [Scan.number_eq, number, get_bind_eq, bind_of_eq_ok (rest_eq h),
    hrest, hnumber]
  simp only
  rw [bind_of_eq_ok hskip]
  cases Literal.ofDigits? (Scan.wholeDigits (c :: cs))
    (Scan.fractionDigits
      ((c :: cs).drop (Scan.wholeDigits (c :: cs)).length)) with
  | some value => exact mirrors_ok (h.drop _) _
  | none => exact mirrors_fail (h.drop _) (h.isInside hrest) _

/-- At the start of a name both scanners read the same name. -/
theorem name?_eq (h : cursor.StandsIn text) {c : Char} {cs : List Char}
    (hrest : cursor.rest = c :: cs) (hc : isNameStart c = true) :
    ∃ token behind, Scan.name cursor = .ok token behind ∧
      name? text cursor.offset = .ok (some token) behind.offset ∧
        behind.StandsIn text := by
  have hname : cursor.rest = (c :: cs.takeWhile isNamePart) ++
      cs.drop (cs.takeWhile isNamePart).length := by
    rw [hrest, List.cons_append, takeWhile_append_drop]
  have hskip := skip_eq_of_rest_eq h hname
  refine ⟨.name (String.ofList (c :: cs.takeWhile isNamePart)), _, ?_, ?_,
    h.drop (c :: cs.takeWhile isNamePart).length⟩
  · obtain ⟨offset, rest⟩ := cursor
    cases hrest
    rfl
  · rw [name?, bind_of_eq_ok (rest_eq h), hrest]
    simp only [hc, if_true]
    rw [bind_of_eq_ok hskip]
    rfl

theorem name?_eq_none (h : cursor.StandsIn text) {c : Char} {cs : List Char}
    (hrest : cursor.rest = c :: cs) (hc : isNameStart c = false) :
    name? text cursor.offset = .ok none cursor.offset := by
  rw [name?, bind_of_eq_ok (rest_eq h), hrest]
  simp only [hc, Bool.false_eq_true, if_false]
  rfl

/-- Where no symbol starts, a word is read. -/
theorem mirrors_word (h : cursor.StandsIn text) {c : Char} {cs : List Char}
    (hrest : cursor.rest = c :: cs) (hc : c ∉ symbolStarts) :
    Mirrors text (Scan.word c cursor) (word text c cursor.offset) := by
  have hequals : c ≠ '=' := fun heq => hc (heq ▸ by decide)
  have hhalf : ¬(c = '&' ∨ c = '|') := by
    rintro (rfl | rfl) <;> exact hc (by decide)
  rw [Scan.word, word, Scan.position_bind_eq]
  by_cases hquote : c = '"' ∨ c = '\''
  · rw [if_pos hquote, if_pos hquote]
    exact mirrors_quoted h hrest c
  rw [if_neg hquote, if_neg hquote]
  by_cases hdigit : c.isDigit = true
  · rw [if_pos hdigit, if_pos hdigit]
    exact mirrors_number h hrest hdigit
  rw [if_neg hdigit, if_neg hdigit, get_bind_eq]
  by_cases hstart : isNameStart c = true
  · obtain ⟨token, behind, hscan, hname, hbehind⟩ := name?_eq h hrest hstart
    rw [if_pos hstart, hscan, bind_of_eq_ok hname]
    exact mirrors_ok hbehind token
  · have hnone := name?_eq_none h hrest (Bool.eq_false_iff.mpr hstart)
    rw [if_neg hstart, if_neg hequals, if_neg hhalf, bind_of_eq_ok hnone]
    exact mirrors_fail h (h.isInside hrest) _

/-! ## Symbols -/

theorem mirrors_single (h : cursor.StandsIn text)
    (hblanks : cursor.dropBlanks = cursor) {symbol : Token}
    (hsymbol : Scan.symbol? cursor.rest = some (symbol, 1)) :
    Mirrors text (Scan.token cursor) (single text symbol cursor.offset) := by
  rw [Scan.token_eq_of_symbol? hblanks hsymbol, single, bind_of_eq_ok (pop?_eq h)]
  exact mirrors_ok (h.drop 1) symbol

theorem drop_two {c c' : Char} {cs : List Char}
    (hrest : cursor.rest = c :: c' :: cs) :
    (cursor.drop 1).drop 1 = cursor.drop 2 := by
  have hfirst : cursor.MovesOver [c] (cursor.drop 1) :=
    Cursor.movesOver_of_rest_eq hrest
  have hsecond : (cursor.drop 1).MovesOver [c'] ((cursor.drop 1).drop 1) :=
    Cursor.movesOver_of_rest_eq (Cursor.rest_drop_one hrest)
  exact (hfirst.trans hsecond).drop_eq.symm

theorem mirrors_withEquals (h : cursor.StandsIn text)
    (hblanks : cursor.dropBlanks = cursor) {c : Char} {cs : List Char}
    (hrest : cursor.rest = c :: cs) {longer shorter : Token}
    (hlonger : ∀ tail, Scan.symbol? (c :: '=' :: tail) = some (longer, 2))
    (hshorter : StopsAt (· == '=') cs →
      Scan.symbol? (c :: cs) = some (shorter, 1)) :
    Mirrors text (Scan.token cursor)
      (withEquals text longer shorter cursor.offset) := by
  rw [withEquals, bind_of_eq_ok (pop?_eq h), bind_of_eq_ok (peek?_eq (h.drop 1)),
    Cursor.rest_drop_one hrest]
  by_cases hequals : cs.head? = some '='
  · obtain ⟨tail, rfl⟩ := List.head?_eq_some_iff.mp hequals
    rw [if_pos hequals, bind_of_eq_ok (pop?_eq (h.drop 1)), drop_two hrest,
      Scan.token_eq_of_symbol? hblanks (hrest ▸ hlonger tail)]
    exact mirrors_ok (h.drop 2) longer
  · have hstops : StopsAt (· == '=') cs := by
      intro c' hc'
      exact beq_false_of_ne fun heq => hequals (heq ▸ hc')
    rw [if_neg hequals, Scan.token_eq_of_symbol? hblanks (hrest ▸ hshorter hstops)]
    exact mirrors_ok (h.drop 1) shorter

/-- A logical operator is not found by its first half. -/
theorem symbol?_eq_none_of_half {c : Char} {cs : List Char}
    (hc : c = '&' ∨ c = '|') (hsecond : cs.head? ≠ some c) :
    Scan.symbol? (c :: cs) = none := by
  rcases hc with rfl | rfl
  all_goals
    unfold Scan.symbol?
    split
    all_goals first
      | rfl
      | (next heq => cases heq <;> exact absurd rfl hsecond)

theorem mirrors_double (h : cursor.StandsIn text)
    (hblanks : cursor.dropBlanks = cursor) {c : Char} {cs : List Char}
    (hrest : cursor.rest = c :: cs) (hc : c = '&' ∨ c = '|') {symbol : Token}
    (hsymbol : ∀ tail, Scan.symbol? (c :: c :: tail) = some (symbol, 2)) :
    Mirrors text (Scan.token cursor) (double text c symbol cursor.offset) := by
  rw [double, get_bind_eq, bind_of_eq_ok (pop?_eq h),
    bind_of_eq_ok (peek?_eq (h.drop 1)), Cursor.rest_drop_one hrest]
  by_cases hsecond : cs.head? = some c
  · obtain ⟨tail, rfl⟩ := List.head?_eq_some_iff.mp hsecond
    rw [if_pos hsecond, bind_of_eq_ok (pop?_eq (h.drop 1)), drop_two hrest,
      Scan.token_eq_of_symbol? hblanks (hrest ▸ hsymbol tail)]
    exact mirrors_ok (h.drop 2) symbol
  · have hnone := symbol?_eq_none_of_half hc hsecond
    have hword : Scan.word c cursor =
        .error ⟨.halfOperator c, cursor.offset⟩ (cursor.drop 1) := by
      rcases hc with rfl | rfl <;> rfl
    rw [if_neg hsecond, Scan.token_eq_word hblanks hrest hnone, hword]
    exact .error (h.isInside hrest) (h.drop 1)

theorem mirrors_equals (h : cursor.StandsIn text)
    (hblanks : cursor.dropBlanks = cursor) {cs : List Char}
    (hrest : cursor.rest = '=' :: cs) :
    Mirrors text (Scan.token cursor) (equals text cursor.offset) := by
  have hword : Scan.word '=' cursor =
      .error ⟨.halfOperator '=', cursor.offset⟩ cursor := rfl
  rw [equals, get_bind_eq, bind_of_eq_ok (peekNth?_eq h 1), hrest]
  -- Two bytes are skipped for both symbols, since each is two characters of
  -- one byte.
  have hsymbol {c : Char} {symbol : Token} (hsecond : cs[0]? = some c)
      (hsymbol : ∀ tail, Scan.symbol? ('=' :: c :: tail) = some (symbol, 2))
      (hsize : c.utf8Size = 1) :
      Mirrors text (Scan.token cursor)
        ((do skip text 2; return symbol : Step Token) cursor.offset) := by
    obtain ⟨tail, rfl⟩ := List.head?_eq_some_iff.mp
      (List.head?_eq_getElem?.trans hsecond)
    have hskip : skip text 2 cursor.offset = .ok () (cursor.drop 2).offset := by
      have hwritten := @skip_eq_of_rest_eq text cursor h ['=', c] tail hrest
      have hbytes : byteLength ['=', c] = 2 := by
        change 1 + (c.utf8Size + 0) = 2
        omega
      rwa [hbytes] at hwritten
    rw [Scan.token_eq_of_symbol? hblanks (hrest ▸ hsymbol tail), bind_of_eq_ok hskip]
    exact mirrors_ok (h.drop 2) symbol
  generalize hsecond : ('=' :: cs)[1]? = second
  split
  · exact hsymbol hsecond (fun _ => rfl) rfl
  · exact hsymbol hsecond (fun _ => rfl) rfl
  next hequal harrow =>
    have hnone : Scan.symbol? ('=' :: cs) = none := by
      unfold Scan.symbol?
      split
      all_goals first
        | rfl
        | (next heq =>
            cases heq <;>
              first
              | exact (hequal hsecond.symm).elim
              | exact (harrow hsecond.symm).elim)
    rw [Scan.token_eq_word hblanks hrest hnone, hword]
    exact .error (h.isInside hrest) h

/-! ## Tokens -/

/-- Other characters start a word. -/
theorem tokenFrom_eq_word {c : Char} (hc : c ∉ symbolStarts) :
    tokenFrom text (some c) = word text c := by
  unfold tokenFrom
  split
  all_goals first
    | rfl
    | (next heq => cases heq <;> exact absurd (by decide) hc)
    | (next heq => rw [Option.some.inj heq])

/-- At a character that is no white space, both scanners read the same
token. -/
theorem mirrors_tokenFrom (h : cursor.StandsIn text)
    (hblanks : cursor.dropBlanks = cursor) :
    Mirrors text (Scan.token cursor)
      (tokenFrom text cursor.rest.head? cursor.offset) := by
  rcases hrest : cursor.rest with _ | ⟨c, cs⟩
  · rw [Scan.token_eq_endOfText hrest]
    exact mirrors_ok h _
  by_cases hc : c ∈ symbolStarts
  · have hshorter {c : Char} {token : Token}
        (htoken : token.IsSymbol) (hshown : token.shown.toList = [c])
        (hstops : StopsAt (· == '=') cs) :
        Scan.symbol? (c :: cs) = some (token, 1) := by
      have hsymbol := Scan.symbol?_append htoken fun _ => hstops
      rwa [hshown] at hsymbol
    simp only [symbolStarts, List.mem_cons, List.not_mem_nil, or_false] at hc
    rcases hc with rfl | rfl | rfl | rfl | rfl | rfl | rfl | rfl | rfl | rfl |
      rfl | rfl | rfl
    iterate 7 exact mirrors_single h hblanks (hrest ▸ rfl)
    iterate 3
      exact mirrors_withEquals h hblanks hrest (fun _ => rfl)
        (hshorter trivial rfl)
    · exact mirrors_equals h hblanks hrest
    · exact mirrors_double h hblanks hrest (Or.inl rfl) fun _ => rfl
    · exact mirrors_double h hblanks hrest (Or.inr rfl) fun _ => rfl
  · rw [Scan.token_eq_word hblanks hrest (Scan.symbol?_eq_none hc cs),
      List.head?_cons, tokenFrom_eq_word hc]
    exact mirrors_word h hrest hc

theorem skipBlanks_text_eq (h : cursor.StandsIn text) :
    skipBlanks text text cursor.offset = .ok () cursor.dropBlanks.offset :=
  skipBlanks_eq h h.length_le

theorem mirrors_token (h : cursor.StandsIn text) :
    Mirrors text (Scan.token cursor) (token text cursor.offset) := by
  have hbehind : cursor.dropBlanks.StandsIn text := h.drop _
  rw [← Scan.token_dropBlanks, token, bind_of_eq_ok (skipBlanks_text_eq h),
    bind_of_eq_ok (peek?_eq hbehind)]
  exact mirrors_tokenFrom hbehind cursor.dropBlanks_dropBlanks

theorem mirrors_placedToken (h : cursor.StandsIn text) :
    Mirrors text (Scan.placedToken cursor)
      (placedToken text cursor.offset) := by
  have hbehind : cursor.dropBlanks.StandsIn text := h.drop _
  rw [Scan.placedToken, modify_bind_eq, Scan.position_bind_eq, placedToken,
    bind_of_eq_ok (skipBlanks_text_eq h), get_bind_eq]
  exact (mirrors_token hbehind).bind fun token middle hmiddle =>
    mirrors_ok hmiddle _

theorem mirrors_tokens (h : cursor.StandsIn text) (turns : List Char)
    (before : List PlacedToken) :
    Mirrors text (Scan.tokens turns before cursor)
      (tokens text turns before cursor.offset) := by
  induction turns generalizing cursor before with
  | nil => exact mirrors_ok h _
  | cons turn turns ih =>
    apply (mirrors_placedToken h).bind
    intro placed middle hmiddle
    by_cases hend : placed.token = .endOfText
    · rw [if_pos hend, if_pos hend]
      exact mirrors_ok hmiddle _
    · rw [if_neg hend, if_neg hend]
      exact ih hmiddle (placed :: before)

/-- The bytewise scanner finds the same tokens, or stops with the same error at
the start of a character.  It never cuts a text where no character starts. -/
theorem tokenize_eq (text : String) :
    tokenize text = (DocFilter.tokenize text).mapError .fault ∧
      ∀ error, DocFilter.tokenize text = .error error →
        IsInside text.toList error.position := by
  have hmirrors := mirrors_tokens (Cursor.StandsIn.atStart text) text.toList []
  have hplace : (Cursor.atStart text).offset = 0 := rfl
  rw [hplace] at hmirrors
  unfold tokenize DocFilter.tokenize EStateM.run
  generalize Scan.tokens text.toList [] (Cursor.atStart text) = result
    at hmirrors ⊢
  generalize tokens text.toList text.toList [] 0 = result' at hmirrors ⊢
  cases hmirrors with
  | ok h => exact ⟨rfl, fun error herror => nomatch herror⟩
  | error hinside h =>
    refine ⟨rfl, ?_⟩
    rintro error' herror
    cases herror
    exact hinside

end Bytewise

end DocFilter
