import DocFilter.Proofs.Guarded.Scanning
import DocFilter.Proofs.Lexemes.Gaps

/-!
# Scanning on behind errors

A scanner can be asked for the next token again and again, whatever its last
answer was.  Behind an error it goes on where it has stopped, which depends on
how much of an operator, an escape or a number was read by then.  Wherever that
is, a character of the text starts there or the text ends, so the next question
can cut the text again.  No question moves the scanner back, every token moves
it forward, and once there is nothing left to find there never is again.
-/

namespace DocFilter

open Text

/-! ## Questions and replies -/

/-- What a scanner can be asked for: the next token, or the next token together
with its offset. -/
inductive Question where
  | token
  | placedToken
deriving DecidableEq

/-- A token that was found, and its offset if it was asked for. -/
structure Finding where
  token : Token
  offset? : Option Nat
deriving DecidableEq

namespace Question

/-- The part of a placed token that was asked for. -/
def finding (question : Question) (placed : PlacedToken) : Finding :=
  match question with
  | token => ⟨placed.token, none⟩
  | placedToken => ⟨placed.token, some placed.offset⟩

/-- Asks a scanner. -/
def scan : Question → Scan Finding
  | token => return ⟨← Scan.token, none⟩
  | placedToken => return finding placedToken (← Scan.placedToken)

/-- Asks a bytewise scanner. -/
def step (text : List Char) : Question → Bytewise.Step Finding
  | token => return ⟨← Bytewise.token text, none⟩
  | placedToken => return finding placedToken (← Bytewise.placedToken text)

end Question

/-- A finding or the reason why there is none, and the number of bytes before
the place where the scanner has stopped. -/
structure Reply where
  result : Except (Halt LexicalError) Finding
  position : Nat

namespace Reply

/-- The reply of a scanner. -/
def ofScan : EStateM.Result LexicalError Cursor Finding → Reply
  | .ok finding cursor => ⟨.ok finding, cursor.offset⟩
  | .error error cursor => ⟨.error (.fault error), cursor.offset⟩

/-- The reply of a bytewise scanner. -/
def ofStep : EStateM.Result (Halt LexicalError) Nat Finding → Reply
  | .ok finding position => ⟨.ok finding, position⟩
  | .error halt position => ⟨.error halt, position⟩

/-- The reply says that the end of the text is reached. -/
def IsEnd (reply : Reply) : Prop :=
  ∃ finding, reply.result = .ok finding ∧ finding.token = .endOfText

end Reply

/-- The replies of a scanner to questions that are asked one after the other,
each where the one before has left it. -/
def replies : List Question → Cursor → List Reply
  | [], _ => []
  | question :: later, cursor =>
    let run := question.scan cursor
    Reply.ofScan run :: replies later (left run)

/-- The replies of a bytewise scanner. -/
def Bytewise.replies (text : List Char) : List Question → Nat → List Reply
  | [], _ => []
  | question :: later, position =>
    let run := question.step text position
    Reply.ofStep run :: Bytewise.replies text later (left run)

/-! ## What a reply should be -/

/-- A position is the first one that is not before another position and where
no white space stands. -/
def IsFirstNonBlank (text : List Char) (before position : Nat) : Prop :=
  ∃ gap rest, Bytewise.from? text before = some (gap ++ rest) ∧
    (∀ c ∈ gap, isBlank c = true) ∧ StopsAt isBlank rest ∧
      position = before + byteLength gap

/-- What a reply says, and where it leaves a scanner that was asked at a
position of the text. -/
structure Reply.IsSound (text : List Char) (before : Nat) (reply : Reply) :
    Prop where
  not_defect : reply.result ≠ .error .defect
  isBoundary : IsBoundary text reply.position
  position_le : reply.position ≤ byteLength text
  le_position : before ≤ reply.position
  lt_position {finding : Finding} (h : reply.result = .ok finding)
    (hne : finding.token ≠ .endOfText) : before < reply.position
  isEnd_iff : reply.IsEnd ↔
    ∃ rest, Bytewise.from? text before = some rest ∧
      ∀ c ∈ rest, isBlank c = true
  offset {finding : Finding} {offset : Nat} (h : reply.result = .ok finding)
    (hoffset : finding.offset? = some offset) :
    IsFirstNonBlank text before offset

/-- Replies are sound one after the other, and an end of the text is
repeated forever. -/
def AreSound (text : List Char) : Nat → List Reply → Prop
  | _, [] => True
  | before, reply :: later =>
    reply.IsSound text before ∧
      (reply.IsEnd → ∀ other ∈ later,
        other.IsEnd ∧ other.position = reply.position) ∧
      AreSound text reply.position later

/-! ## One question -/

/-- Without its offset, a token is found in the same way. -/
theorem Scan.token_eq (cursor : Cursor) :
    Scan.token cursor =
      match Scan.placedToken cursor with
      | .ok placed behind => .ok placed.token behind
      | .error error behind => .error error behind := by
  rw [Scan.placedToken, modify_bind_eq, position_bind_eq, ← token_dropBlanks]
  cases hscan : Scan.token cursor.dropBlanks with
  | ok token behind =>
    rw [bind_of_eq_ok hscan]
    rfl
  | error error behind => rw [bind_of_eq_error hscan]

namespace Question

variable {text : List Char} {cursor : Cursor}

/-- Whatever the question is, the next token is looked for. -/
theorem scan_eq (question : Question) (cursor : Cursor) :
    question.scan cursor =
      match Scan.placedToken cursor with
      | .ok placed behind => .ok (question.finding placed) behind
      | .error error behind => .error error behind := by
  cases question with
  | token =>
    have htoken := Scan.token_eq cursor
    cases hplaced : Scan.placedToken cursor with
    | ok placed behind =>
      rw [hplaced] at htoken
      rw [scan, bind_of_eq_ok htoken]
      rfl
    | error error behind =>
      rw [hplaced] at htoken
      rw [scan, bind_of_eq_error htoken]
  | placedToken =>
    cases hplaced : Scan.placedToken cursor with
    | ok placed behind =>
      rw [scan, bind_of_eq_ok hplaced]
      rfl
    | error error behind => rw [scan, bind_of_eq_error hplaced]

theorem finding_token (question : Question) (placed : PlacedToken) :
    (question.finding placed).token = placed.token := by
  cases question <;> rfl

theorem eq_of_finding_offset? {question : Question} {placed : PlacedToken}
    {offset : Nat} (h : (question.finding placed).offset? = some offset) :
    placed.offset = offset := by
  cases question with
  | token => cases h
  | placedToken => exact Option.some.inj h

theorem mirrors_step (h : cursor.StandsIn text) (question : Question) :
    Bytewise.Mirrors text (question.scan cursor)
      (question.step text cursor.offset) := by
  cases question with
  | token =>
    exact (Bytewise.mirrors_token h).bind fun _ _ hmiddle =>
      Bytewise.mirrors_ok hmiddle _
  | placedToken =>
    exact (Bytewise.mirrors_placedToken h).bind fun _ _ hmiddle =>
      Bytewise.mirrors_ok hmiddle _

theorem ofStep_eq (h : cursor.StandsIn text) (question : Question) :
    Reply.ofStep (question.step text cursor.offset) =
      Reply.ofScan (question.scan cursor) := by
  have hmirrors := question.mirrors_step h
  generalize question.scan cursor = result at hmirrors ⊢
  generalize question.step text cursor.offset = result' at hmirrors ⊢
  cases hmirrors <;> rfl

/-- What is left of a text is behind the place that was asked at, however the
question is answered. -/
theorem exists_movesOver_left (question : Question) (cursor : Cursor) :
    ∃ written, cursor.MovesOver written (left (question.scan cursor)) := by
  -- A scanner at the start of what is left there does the same, and all that is
  -- known of the place where it stops is that it stands in this text.
  let start : Cursor := ⟨0, cursor.rest⟩
  have hstart : start.StandsIn cursor.rest := ⟨[], rfl, rfl⟩
  have hshift : start.shift cursor.offset = cursor :=
    congrArg (Cursor.mk · cursor.rest) (Nat.zero_add cursor.offset)
  have hscan := @Scan.shifts_placedToken cursor.offset start
  have hleft : left (question.scan cursor) = left (Scan.placedToken cursor) := by
    rw [question.scan_eq]
    cases Scan.placedToken cursor <;> rfl
  obtain ⟨written, hrest, hoffset⟩ :=
    (Bytewise.mirrors_placedToken hstart).standsIn_left
  rw [hshift] at hscan
  rw [hleft, hscan, Scan.left_shiftResult]
  refine ⟨written, hrest, ?_⟩
  rw [Cursor.shift, hoffset, Nat.add_comm]

theorem isEnd_iff (question : Question) (cursor : Cursor) :
    (Reply.ofScan (question.scan cursor)).IsEnd ↔
      ∀ c ∈ cursor.rest, isBlank c = true := by
  rw [question.scan_eq]
  constructor
  · rintro ⟨finding, hresult, hend⟩
    cases hplaced : Scan.placedToken cursor with
    | ok placed behind =>
      rw [hplaced] at hresult
      cases hresult
      rw [finding_token] at hend
      rcases Scan.placedToken_cases hplaced with
        ⟨-, hblank⟩ | ⟨gap, written, -, hlexeme, -⟩
      · exact hblank
      · exact absurd hend hlexeme.ne_endOfText
    | error error behind =>
      rw [hplaced] at hresult
      cases hresult
  · intro hblank
    rw [Scan.placedToken_of_forall_isBlank hblank]
    exact ⟨_, rfl, question.finding_token _⟩

/-- In white space the end of the text is found, and the scanner goes there. -/
theorem left_of_forall_isBlank (question : Question)
    (h : ∀ c ∈ cursor.rest, isBlank c = true) :
    left (question.scan cursor) = cursor.dropBlanks := by
  rw [question.scan_eq, Scan.placedToken_of_forall_isBlank h]
  rfl

/-- A finding is a token that is found where the scanner was asked. -/
theorem exists_placedToken {question : Question} {finding : Finding}
    (h : (Reply.ofScan (question.scan cursor)).result = .ok finding) :
    ∃ placed, finding = question.finding placed ∧
      Scan.placedToken cursor = .ok placed (left (question.scan cursor)) := by
  rw [question.scan_eq] at h ⊢
  cases hplaced : Scan.placedToken cursor with
  | ok placed behind =>
    rw [hplaced] at h
    exact ⟨placed, (Except.ok.inj h).symm, rfl⟩
  | error error behind =>
    rw [hplaced] at h
    cases h

end Question

theorem Reply.position_ofScan
    (run : EStateM.Result LexicalError Cursor Finding) :
    (Reply.ofScan run).position = (left run).offset := by
  cases run <;> rfl

/-- The reply at a place in a text is sound. -/
theorem Question.isSound_reply {text : List Char} {cursor : Cursor}
    (h : cursor.StandsIn text) (question : Question) :
    (Reply.ofScan (question.scan cursor)).IsSound text cursor.offset := by
  obtain ⟨written, hmove⟩ := question.exists_movesOver_left cursor
  have hleft := h.move hmove
  have hposition := Reply.position_ofScan (question.scan cursor)
  constructor
  case not_defect =>
    cases question.scan cursor <;> exact fun hresult => nomatch hresult
  case isBoundary =>
    obtain ⟨before, htext, hoffset⟩ := hleft
    exact ⟨before, _, htext, hposition.trans hoffset⟩
  case position_le =>
    rw [hposition]
    exact hleft.offset_le
  case le_position =>
    rw [hposition, hmove.offset_eq]
    exact Nat.le_add_right _ _
  case lt_position =>
    intro finding hresult hne
    obtain ⟨placed, rfl, hplaced⟩ := exists_placedToken hresult
    rw [finding_token] at hne
    rcases Scan.placedToken_cases hplaced with
      ⟨hend, -⟩ | ⟨gap, written, -, hlexeme, -, hmove⟩
    · exact absurd hend hne
    · obtain ⟨c, cs, rfl, -⟩ := hlexeme.exists_eq_cons
      rw [hposition, hmove.offset_eq]
      exact Nat.lt_add_of_pos_right (byteLength_pos (by simp))
  case isEnd_iff =>
    rw [question.isEnd_iff, Bytewise.from?_offset h]
    simp
  case offset =>
    intro finding offset hresult hoffset
    obtain ⟨placed, rfl, hplaced⟩ := exists_placedToken hresult
    obtain ⟨gap, hgap, hmove, hstops⟩ := cursor.exists_gap
    refine ⟨gap, cursor.dropBlanks.rest, ?_, hgap, hstops, ?_⟩
    · rw [Bytewise.from?_offset h, hmove.rest_eq]
    · rw [← eq_of_finding_offset? hoffset, ← hmove.offset_eq]
      exact (Scan.placedToken_eq_ok_iff.mp hplaced).1

/-! ## Many questions -/

/-- A bytewise scanner gives the replies of a scanner. -/
theorem Bytewise.replies_eq {text : List Char} (questions : List Question)
    {cursor : Cursor} (h : cursor.StandsIn text) :
    replies text questions cursor.offset =
      DocFilter.replies questions cursor := by
  induction questions generalizing cursor with
  | nil => rfl
  | cons question later ih =>
    have hmirrors := question.mirrors_step h
    rw [replies, DocFilter.replies, question.ofStep_eq h,
      hmirrors.left_eq, ih hmirrors.standsIn_left]

/-- In white space every reply is that the end of the text is reached. -/
theorem replies_of_forall_isBlank (questions : List Question) {cursor : Cursor}
    (h : ∀ c ∈ cursor.rest, isBlank c = true) :
    ∀ reply ∈ replies questions cursor,
      reply.IsEnd ∧ reply.position = cursor.dropBlanks.offset := by
  induction questions generalizing cursor with
  | nil => exact List.forall_mem_nil _
  | cons question later ih =>
    have hleft := question.left_of_forall_isBlank h
    have hrest : ∀ c ∈ cursor.dropBlanks.rest, isBlank c = true := by
      rw [Cursor.dropBlanks_rest_eq_nil_iff.mpr h]
      exact List.forall_mem_nil _
    have hlater := ih hrest
    rw [cursor.dropBlanks_dropBlanks] at hlater
    rw [replies, List.forall_mem_cons, Reply.position_ofScan, hleft]
    exact ⟨⟨(question.isEnd_iff cursor).mpr h, rfl⟩, hlater⟩

theorem areSound_replies {text : List Char} (questions : List Question)
    {cursor : Cursor} (h : cursor.StandsIn text) :
    AreSound text cursor.offset (replies questions cursor) := by
  induction questions generalizing cursor with
  | nil => trivial
  | cons question later ih =>
    obtain ⟨written, hmove⟩ := question.exists_movesOver_left cursor
    have hlater := ih (h.move hmove)
    rw [← Reply.position_ofScan] at hlater
    refine ⟨question.isSound_reply h, ?_, hlater⟩
    intro hend other hother
    have hblank := (question.isEnd_iff cursor).mp hend
    have hall := replies_of_forall_isBlank (question :: later) hblank
    obtain ⟨hfirst, hothers⟩ := List.forall_mem_cons.mp hall
    obtain ⟨hother, hposition⟩ := hothers other hother
    exact ⟨hother, hposition.trans hfirst.2.symm⟩

/-! ## The loop over the tokens -/

/-- Asking for placed tokens from a cursor on, as long as a token is found, comes
to an end with some tokens or with an error.  There is no bound on the number of
questions here. -/
inductive Scan.ComesTo : Cursor → Except LexicalError (List PlacedToken) → Prop
  | endOfText {cursor cursor' : Cursor} {placed : PlacedToken}
    (h : placedToken cursor = .ok placed cursor')
    (hend : placed.token = .endOfText) : ComesTo cursor (.ok [])
  | error {cursor cursor' : Cursor} {error : LexicalError}
    (h : placedToken cursor = .error error cursor') :
    ComesTo cursor (.error error)
  | token {cursor cursor' : Cursor} {placed : PlacedToken}
    {result : Except LexicalError (List PlacedToken)}
    (h : placedToken cursor = .ok placed cursor')
    (hne : placed.token ≠ .endOfText) (hrest : ComesTo cursor' result) :
    ComesTo cursor (result.map (placed :: ·))

/-- With as many turns as there are characters, the loop comes to its end. -/
theorem Scan.comesTo_of_tokens {turns : List Char} {cursor : Cursor}
    (hturns : cursor.rest.length ≤ turns.length) (before : List PlacedToken) :
    (∃ found cursor', tokens turns before cursor =
        .ok (before.reverse ++ found) cursor' ∧ ComesTo cursor (.ok found)) ∨
      ∃ error cursor', tokens turns before cursor = .error error cursor' ∧
        ComesTo cursor (.error error) := by
  induction turns generalizing cursor before with
  | nil =>
    have hnil : cursor.rest = [] :=
      List.length_eq_zero_iff.mp (Nat.le_zero.mp hturns)
    have hblank : ∀ c ∈ cursor.rest, isBlank c = true := by
      rw [hnil]
      exact List.forall_mem_nil _
    refine Or.inl ⟨[], cursor, ?_,
      .endOfText (placedToken_of_forall_isBlank hblank) rfl⟩
    rw [tokens_of_rest_eq_nil hnil, List.append_nil]
  | cons turn turns ih =>
    rw [tokens]
    cases hplaced : placedToken cursor with
    | error error behind =>
      rw [bind_of_eq_error hplaced]
      exact Or.inr ⟨error, behind, rfl, .error hplaced⟩
    | ok placed behind =>
      rw [bind_of_eq_ok hplaced]
      by_cases hend : placed.token = .endOfText
      · rw [if_pos hend]
        refine Or.inl ⟨[], behind, ?_, .endOfText hplaced hend⟩
        rw [List.append_nil]
        rfl
      · rw [if_neg hend]
        have hlength := length_lt_of_placedToken hplaced hend
        have hbehind : behind.rest.length ≤ turns.length :=
          Nat.le_of_lt_succ (Nat.lt_of_lt_of_le hlength hturns)
        rcases ih hbehind (placed :: before) with
          ⟨found, cursor', hfound, hrest⟩ | ⟨error, cursor', herror, hrest⟩
        · rw [List.reverse_cons, List.append_assoc] at hfound
          exact Or.inl ⟨placed :: found, cursor', hfound,
            .token hplaced hend hrest⟩
        · exact Or.inr ⟨error, cursor', herror, .token hplaced hend hrest⟩

theorem comesTo_tokenize (text : String) :
    Scan.ComesTo (Cursor.atStart text) (tokenize text) := by
  unfold tokenize EStateM.run
  rcases Scan.comesTo_of_tokens
    (Nat.le_refl (Cursor.atStart text).rest.length) [] with
      ⟨found, cursor', hfound, hcomes⟩ | ⟨error, cursor', herror, hcomes⟩
  · have hrun : Scan.tokens text.toList [] (Cursor.atStart text) =
        .ok found cursor' := hfound
    rw [hrun]
    exact hcomes
  · have hrun : Scan.tokens text.toList [] (Cursor.atStart text) =
        .error error cursor' := herror
    rw [hrun]
    exact hcomes

/-- Whatever a scanner is asked on a text, and however often, the bytewise
scanner gives the same replies, and all of them are sound: also behind errors it
stops where a character starts or the text ends and never goes back, it goes on
with every token, and it finds the end just where there is only white space left,
and then forever.  So the loop over the tokens comes to an end. -/
theorem replies_areSound (text : String) (questions : List Question) :
    Bytewise.replies text.toList questions 0 =
        replies questions (Cursor.atStart text) ∧
      AreSound text.toList 0 (Bytewise.replies text.toList questions 0) ∧
      Scan.ComesTo (Cursor.atStart text) (tokenize text) := by
  have hstart := Cursor.StandsIn.atStart text
  have hreplies : Bytewise.replies text.toList questions 0 =
      replies questions (Cursor.atStart text) :=
    Bytewise.replies_eq questions hstart
  refine ⟨hreplies, ?_, comesTo_tokenize text⟩
  rw [hreplies]
  exact areSound_replies questions hstart

-- The first half of a pair is followed by a code unit that is no second half, so
-- the text ends in an error behind the digits of this unit.  The equals sign is
-- not used up by its error.
example :
    (Bytewise.replies "'\\ud83d\\u0041 é=".toList
      [.token, .placedToken, .token, .token] 0).map Reply.position =
        [13, 16, 16, 16] := by
  decide +kernel

end DocFilter
