import DocFilter.Expr.Reading
import DocFilter.Proofs.Reading.Sequencing

/-!
# What a reader takes

A reader that succeeds has taken tokens off the front of its stream and has
changed nothing else.  `Takes reader P` says so, and that the tokens taken and
the value returned satisfy `P`.  The rule for sequencing hands the tokens
taken so far to the next reader, so that the property of a whole rule of the
grammar is collected step by step.
-/

namespace DocFilter.Reading

variable {α β : Type}

/-- Whenever the reader succeeds, it has taken tokens off the front which
satisfy `P` together with the value. -/
def Takes (reader : Reading α) (P : List Token → α → Prop) : Prop :=
  ∀ stream value rest, reader stream = .ok value rest →
    ∃ taken : List PlacedToken,
      stream = ⟨taken ++ rest.tokens, rest.stop⟩ ∧
        P (taken.map PlacedToken.token) value

theorem acceptSome_of_eq_some
    {meaning : Token → Option α} {first : PlacedToken} {value : α}
    (h : meaning first.token = some value) (others : List PlacedToken)
    (stop : Nat) :
    acceptSome meaning ⟨first :: others, stop⟩ =
      .ok (some value) ⟨others, stop⟩ := by
  have hpeek : peek? ⟨first :: others, stop⟩ =
      .ok (some first.token) ⟨first :: others, stop⟩ := rfl
  rw [acceptSome, bind_of_eq_ok hpeek, Option.bind_some, h]
  rfl

theorem acceptSome_of_eq_none
    {meaning : Token → Option α} {first : PlacedToken}
    (h : meaning first.token = none) (others : List PlacedToken) (stop : Nat) :
    acceptSome meaning ⟨first :: others, stop⟩ =
      .ok none ⟨first :: others, stop⟩ := by
  have hpeek : peek? ⟨first :: others, stop⟩ =
      .ok (some first.token) ⟨first :: others, stop⟩ := rfl
  rw [acceptSome, bind_of_eq_ok hpeek, Option.bind_some, h]
  rfl

namespace Takes

variable {P : List Token → α → Prop} {Q : List Token → β → Prop}

theorem mono
    {P' : List Token → α → Prop} {reader : Reading α} (hreader : Takes reader P)
    (h : ∀ tokens value, P tokens value → P' tokens value) :
    Takes reader P' := by
  intro stream value rest hok
  obtain ⟨taken, hstream, hP⟩ := hreader stream value rest hok
  exact ⟨taken, hstream, h _ _ hP⟩

theorem pure {value : α} (h : P [] value) : Takes (Pure.pure value) P := by
  intro stream value' rest hok
  cases hok
  exact ⟨[], rfl, h⟩

theorem bind
    {reader : Reading α} {next : α → Reading β} (hreader : Takes reader P)
    (hnext : ∀ value before, P before value →
      Takes (next value) fun after result => Q (before ++ after) result) :
    Takes (reader >>= next) Q := by
  intro stream result rest hok
  obtain ⟨value, middle, hvalue, hresult⟩ := bind_eq_ok_iff.mp hok
  obtain ⟨taken, hstream, hP⟩ := hreader stream value middle hvalue
  obtain ⟨taken', hmiddle, hQ⟩ := hnext value _ hP middle result rest hresult
  refine ⟨taken ++ taken', ?_, ?_⟩
  · rw [hstream, hmiddle, List.append_assoc]
  · rw [List.map_append]
    exact hQ

theorem failAt (fault : SyntaxFault) (position : Nat) :
    Takes (Reading.failAt fault position) P := by
  intro stream value rest hok
  cases hok

theorem get : Takes (MonadState.get : Reading TokenStream) fun tokens _ =>
    tokens = [] := by
  intro stream value rest hok
  cases hok
  exact ⟨[], rfl, rfl⟩

theorem position : Takes Reading.position fun tokens _ => tokens = [] :=
  get.bind fun _ _ hget => pure (by rw [hget]; rfl)

theorem fail (fault : SyntaxFault) : Takes (Reading.fail fault) P :=
  position.bind fun position _ _ => failAt fault position

/-- The next token is taken, unless there is none. -/
theorem next? : Takes Reading.next? fun tokens found =>
    tokens = found.toList := by
  intro stream found rest hok
  obtain ⟨tokens, stop⟩ := stream
  cases tokens with
  | nil =>
    cases hok
    exact ⟨[], rfl, rfl⟩
  | cons placed others =>
    cases hok
    exact ⟨[placed], rfl, rfl⟩

theorem accept (token : Token) :
    Takes (Reading.accept token) fun tokens taken =>
      tokens = if taken then [token] else [] := by
  intro stream taken rest hok
  obtain ⟨tokens, stop⟩ := stream
  cases tokens with
  | nil =>
    cases hok
    exact ⟨[], rfl, rfl⟩
  | cons placed others =>
    change (if some placed.token = some token then
      (do modify TokenStream.tail; return true : Reading Bool)
      else Pure.pure false) ⟨placed :: others, stop⟩ = _ at hok
    by_cases hplaced : some placed.token = some token
    · rw [if_pos hplaced] at hok
      cases hok
      exact ⟨[placed], rfl,
        congrArg (fun token => [token]) (Option.some.inj hplaced)⟩
    · rw [if_neg hplaced] at hok
      cases hok
      exact ⟨[], rfl, rfl⟩

/-- The token behind an accepted meaning is the only one that is taken. -/
theorem acceptSome (meaning : Token → Option α) :
    Takes (Reading.acceptSome meaning) fun tokens found =>
      match found with
      | none => tokens = []
      | some value =>
        ∃ token, tokens = [token] ∧ meaning token = some value := by
  intro stream found rest hok
  obtain ⟨tokens, stop⟩ := stream
  cases tokens with
  | nil =>
    cases hok
    exact ⟨[], rfl, rfl⟩
  | cons placed others =>
    cases hmeaning : meaning placed.token with
    | none =>
      rw [acceptSome_of_eq_none hmeaning] at hok
      cases hok
      exact ⟨[], rfl, rfl⟩
    | some value =>
      rw [acceptSome_of_eq_some hmeaning] at hok
      cases hok
      exact ⟨[placed], rfl, placed.token, rfl, hmeaning⟩

end Takes

end DocFilter.Reading
