import DocFilter.Proofs.Grammar.Faults
import DocFilter.Proofs.Height.Threshold

/-!
# Which token is wrong

The tokens of a text can be continued to an expression up to some token.  A
fault of the grammar is reported at the first token with which they can not, or
at the end of the text if there is no such token.  The exception is a missing
bracket, which is reported behind the token that stands in its place.  What
stands behind the wrong token makes no other difference.
-/

namespace DocFilter.Reading

open Grammar

variable {room room' : Nat} {stream rest after : TokenStream}
  {before : List PlacedToken} {error : SyntaxError}

/-! ## Enough room -/

theorem complete_ne_tooDeep (hroom : stream.tokens.length < room) (position : Nat)
    (rest : TokenStream) :
    complete room stream ≠ .error ⟨.tooDeep, position⟩ rest := by
  intro herror
  obtain ⟨-, -, -, -, hdeep, -⟩ :=
    (retraces_complete hroom).error stream _ rest (Nat.le_refl _) herror trivial
  exact hdeep rfl

/-- More room than there are tokens makes no difference. -/
theorem complete_eq_of_length_lt (hroom : stream.tokens.length < room)
    (hroom' : stream.tokens.length < room') :
    complete room stream = complete room' stream := by
  have hnarrow {room room' : Nat} (hroom : stream.tokens.length < room)
      (hle : room ≤ room') : complete room stream = complete room' stream := by
    rcases Narrows.complete hle stream with heq | ⟨position, rest, hdeep⟩
    · exact heq
    · exact absurd hdeep (complete_ne_tooDeep hroom position rest)
  rcases Nat.le_total room room' with hle | hle
  · exact hnarrow hroom hle
  · exact (hnarrow hroom' hle).symm

/-! ## The first wrong token -/

/-- Some tokens can be continued to an expression, and together with the next
one they can not. -/
structure IsBlocked (before after : List PlacedToken) : Prop where
  begins : Begins .expression (before.map PlacedToken.token)
  not_begins : ∀ placed ∈ after.head?,
    ¬Begins .expression ((before ++ [placed]).map PlacedToken.token)

/-- Every text has a first wrong token, unless there is none in it. -/
theorem exists_isBlocked (tokens : List PlacedToken) :
    ∃ before after, tokens = before ++ after ∧ IsBlocked before after := by
  have hsplit (before after : List PlacedToken)
      (hbefore : Begins .expression (before.map PlacedToken.token)) :
      ∃ before' after', before ++ after = before' ++ after' ∧
        IsBlocked before' after' := by
    induction after generalizing before with
    | nil => exact ⟨before, [], rfl, hbefore, fun _ h => nomatch h⟩
    | cons placed others ih =>
      by_cases hnext :
        Begins .expression ((before ++ [placed]).map PlacedToken.token)
      · rw [List.append_cons]
        exact ih (before ++ [placed]) hnext
      · refine ⟨before, placed :: others, rfl, hbefore, ?_⟩
        rintro _ ⟨⟩
        exact hnext
  exact hsplit [] tokens (.nil _)

/-- If the tokens before the first wrong one belong to an expression of at most
`n` tokens, a reader that fails on at most `n` tokens fails there. -/
theorem retraces_of_isBlocked {n : Nat} (hblocked : IsBlocked before after.tokens)
    (phrase : Phrase .expression)
    (hphrase : before.map PlacedToken.token <+: phrase.tokens)
    (hlength : phrase.tokens.length ≤ n)
    (hstream : (after.prepend before).tokens.length ≤ n)
    (herror : complete (n + 1) (after.prepend before) = .error error rest)
    (hplain : error.fault.IsPlain) :
    error.fault ≠ .tooDeep ∧ error.position = error.fault.place after ∧
      ∀ after' : TokenStream, after'.Alike after →
        (after'.prepend before).tokens.length ≤ n →
          ∃ rest', complete (n + 1) (after'.prepend before) =
            .error ⟨error.fault, error.fault.place after'⟩ rest' := by
  obtain ⟨before', ⟨later', stop'⟩, hsplit, hbegins, hdeep, hplace, hretrace⟩ :=
    (retraces_complete (Nat.lt_succ_self n)).error _ error rest hstream herror
      hplain
  obtain ⟨later, stop⟩ := after
  obtain ⟨fault, position⟩ := error
  obtain rfl : stop = stop' := congrArg TokenStream.stop hsplit
  have htokens : before ++ later = before' ++ later' :=
    congrArg TokenStream.tokens hsplit
  rcases List.append_eq_append_iff.mp htokens with
    ⟨middle, rfl, rfl⟩ | ⟨middle, rfl, rfl⟩
  · cases middle with
    | nil =>
      rw [List.append_nil] at hretrace
      exact ⟨hdeep, hplace, hretrace⟩
    | cons placed others =>
      -- The wrong token has been taken, so it is not wrong.
      refine absurd (hbegins.of_isPrefix ?_) (hblocked.not_begins placed rfl)
      rw [List.map_append, List.map_append, List.map_cons, List.map_cons]
      simp
  · cases middle with
    | nil =>
      rw [List.append_nil]
      exact ⟨hdeep, hplace, hretrace⟩
    | cons placed others =>
      -- The reader has failed at a token of an expression, and so it fails on
      -- this expression.
      obtain ⟨missing, hmissing⟩ := hphrase
      let whole : TokenStream :=
        ⟨placed :: (others ++ missing.map (PlacedToken.mk 0)), 0⟩
      have hwhole : phrase.tokens =
          (whole.prepend before').tokens.map PlacedToken.token := by
        rw [← hmissing]
        simp [whole, TokenStream.prepend, Function.comp_def]
      have hfits : (whole.prepend before').tokens.length ≤ n := by
        rw [← List.length_map, ← hwhole]
        exact hlength
      obtain ⟨rest', herror'⟩ := hretrace whole ⟨rfl, rfl⟩ hfits
      have hheight : phrase.height ≤ n + 1 :=
        Nat.le_trans phrase.height_le_length (Nat.le_succ_of_le hlength)
      rcases complete_of_tokens_eq phrase hwhole hheight with
        ⟨expr, -, hread⟩ | ⟨-, fault', position', rest'', hcall⟩
      · cases herror'.symm.trans hread
      · cases herror'.symm.trans hcall
        exact hplain.elim

/-- Where a reader with enough room fails, if it is known which token is wrong. -/
theorem complete_eq_error_of_isBlocked (hblocked : IsBlocked before after.tokens)
    (hroom : (after.prepend before).tokens.length < room)
    (herror : complete room (after.prepend before) = .error error rest)
    (hplain : error.fault.IsPlain) :
    error.fault ≠ .tooDeep ∧ error.position = error.fault.place after ∧
      ∀ after' : TokenStream, after'.Alike after →
        ∀ room', (after'.prepend before).tokens.length < room' →
          ∃ rest', complete room' (after'.prepend before) =
            .error ⟨error.fault, error.fault.place after'⟩ rest' := by
  obtain ⟨phrase, hphrase⟩ := hblocked.begins
  have hfails (n : Nat) (hphrase' : phrase.tokens.length ≤ n)
      (hstream : (after.prepend before).tokens.length ≤ n) :=
    retraces_of_isBlocked hblocked phrase hphrase hphrase' hstream
      ((complete_eq_of_length_lt (Nat.lt_succ_of_le hstream) hroom).trans herror)
      hplain
  obtain ⟨hdeep, hplace, -⟩ :=
    hfails (max phrase.tokens.length (after.prepend before).tokens.length)
      (Nat.le_max_left _ _) (Nat.le_max_right _ _)
  refine ⟨hdeep, hplace, fun after' halike room' hroom' => ?_⟩
  -- The expression and both streams fit in this many tokens.
  obtain ⟨-, -, hretrace⟩ := hfails
    (max phrase.tokens.length (max (after.prepend before).tokens.length
      (after'.prepend before).tokens.length)) (by omega) (by omega)
  obtain ⟨rest', herror'⟩ := hretrace after' halike (by omega)
  exact ⟨rest', (complete_eq_of_length_lt hroom' (by omega)).trans herror'⟩

/-! ## Where faults are reported -/

/-- With more room than there are tokens, a fault of the grammar is reported at
the first wrong token, or at the end if there is none, and a missing bracket is
reported behind this token.  Whatever stands behind the same token instead, the
fault is the same and it is reported by the same rule. -/
theorem complete_faults_at_wrong_token
    (hroom : stream.tokens.length < room)
    (herror : complete room stream = .error error rest)
    (hplain : error.fault.IsPlain) :
    error.fault ≠ .tooDeep ∧
      ∃ before after : List PlacedToken,
        stream.tokens = before ++ after ∧ IsBlocked before after ∧
        error.position = error.fault.place ⟨after, stream.stop⟩ ∧
        ∀ placed ∈ after.head?, ∀ (later : List PlacedToken) (stop room' : Nat),
          (before ++ placed :: later).length < room' →
            ∃ rest', complete room' ⟨before ++ placed :: later, stop⟩ =
              .error ⟨error.fault, error.fault.place ⟨placed :: later, stop⟩⟩
                rest' := by
  obtain ⟨tokens, stop⟩ := stream
  obtain ⟨before, after, rfl, hblocked⟩ := exists_isBlocked tokens
  obtain ⟨hdeep, hplace, hretrace⟩ :=
    @complete_eq_error_of_isBlocked room rest ⟨after, stop⟩ before error hblocked
      hroom herror hplain
  refine ⟨hdeep, before, after, rfl, hblocked, hplace, ?_⟩
  intro placed hplaced later stop' room' hroom'
  have halike : TokenStream.Alike ⟨placed :: later, stop'⟩ ⟨after, stop⟩ := by
    cases after with
    | nil => cases hplaced
    | cons first others =>
      cases hplaced
      exact ⟨rfl, rfl⟩
  exact hretrace ⟨placed :: later, stop'⟩ halike room' hroom'

/-- In `f(a b` the second argument is wrong. -/
theorem complete_faults_at_wrong_token_unclosedArguments :
    let stream : TokenStream :=
      ⟨[⟨0, .name "f"⟩, ⟨1, .openParen⟩, ⟨2, .name "a"⟩, ⟨4, .name "b"⟩], 5⟩
    let error : SyntaxError := ⟨.unclosedArguments, 4⟩
    stream.tokens.length < 5 ∧ complete 5 stream = .error error ⟨[], 5⟩ ∧
      error.fault.IsPlain ∧
      ∃ before after : List PlacedToken,
        stream.tokens = before ++ after ∧ IsBlocked before after ∧
        error.position = error.fault.place ⟨after, stream.stop⟩ := by
  intro stream error
  have hroom : stream.tokens.length < 5 := by decide
  have herror : complete 5 stream = .error error ⟨[], 5⟩ := rfl
  obtain ⟨-, before, after, htokens, hblocked, hplace, -⟩ :=
    complete_faults_at_wrong_token hroom herror trivial
  exact ⟨hroom, herror, trivial, before, after, htokens, hblocked, hplace⟩

/-- In `_.a[1 2]` the second number is wrong, and the fault is reported behind
it.  In `_.a[1 2 ]` the same number is wrong, and the fault is reported at
another place. -/
theorem missingBracket_behind_wrong_token :
    let before : List PlacedToken :=
      [⟨0, .name "_"⟩, ⟨1, .dot⟩, ⟨2, .name "a"⟩, ⟨3, .openBracket⟩,
        ⟨4, .literal (.integer 1)⟩]
    let wrong : PlacedToken := ⟨6, .literal (.integer 2)⟩
    let tokens := before ++ [wrong, ⟨7, .closeBracket⟩]
    let tokens' := before ++ [wrong, ⟨8, .closeBracket⟩]
    let error : SyntaxError := ⟨.missingBracket, 7⟩
    let error' : SyntaxError := ⟨.missingBracket, 8⟩
    tokens.length < 8 ∧ error.fault.IsPlain ∧
      IsBlocked before [wrong, ⟨7, .closeBracket⟩] ∧
      complete 8 ⟨tokens, 8⟩ = .error error ⟨[⟨7, .closeBracket⟩], 8⟩ ∧
      complete 8 ⟨tokens', 9⟩ = .error error' ⟨[⟨8, .closeBracket⟩], 9⟩ ∧
      error.position ≠ wrong.offset ∧ error ≠ error' := by
  intro before wrong tokens tokens' error error'
  have herror : complete 8 ⟨tokens, 8⟩ =
      .error error ⟨[⟨7, .closeBracket⟩], 8⟩ := rfl
  refine ⟨by decide, trivial, ?_, herror, rfl, by decide, by decide⟩
  obtain ⟨before', after, hsplit, hblocked⟩ := exists_isBlocked tokens
  rw [hsplit] at herror
  have hroom : (TokenStream.prepend before' ⟨after, 8⟩).tokens.length < 8 := by
    change (before' ++ after).length < 8
    rw [← hsplit]
    decide
  obtain ⟨-, hplace, -⟩ :=
    @complete_eq_error_of_isBlocked 8 _ ⟨after, 8⟩ before' _ hblocked hroom herror
      trivial
  -- Only the number has a token at the position seven behind it.
  have hposition : ∀ count ≤ 7,
      7 = SyntaxFault.missingBracket.place ⟨tokens.drop count, 8⟩ → count = 5 := by
    decide
  have hafter : tokens.drop before'.length = after := by
    rw [hsplit, List.drop_left]
  have hbefore : tokens.take before'.length = before' := by
    rw [hsplit, List.take_left]
  have hcount : before'.length = 5 := by
    rw [TokenStream.length_prepend] at hroom
    apply hposition _ (by omega)
    rw [hafter]
    exact hplace
  rw [hcount] at hafter hbefore
  subst hafter hbefore
  exact hblocked

end DocFilter.Reading
