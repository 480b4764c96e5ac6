import DocFilter.Proofs.Guarded.Recovering
import Mathlib.Data.List.Chain

/-!
# One request after another

Several requests can be made on the same tokens: each goes on with the tokens
and the counters that the one before has left, whether it was answered with an
expression or with an error.  The counters that are left do not matter, so every
request is answered as if it were the first one on the tokens that are left.
-/

namespace DocFilter

/-- What can be asked for: an expression that all tokens belong to, or the next
expression. -/
inductive Request where
  | complete
  | expression
deriving DecidableEq

namespace Request

/-- Answers a request without counters. -/
def read (maxDepth : Nat) : Request → Reading JsonExpr
  | complete => Reading.complete maxDepth
  | expression => Reading.expression maxDepth

/-- Answers a request with counters. -/
def count (maxDepth : Nat) : Request → Counting JsonExpr
  | complete => Counting.complete maxDepth
  | expression => Counting.expression maxDepth

end Request

/-- An expression or the reason why there is none, and the tokens that are
left. -/
structure Answer where
  result : Except (Halt SyntaxError) JsonExpr
  rest : TokenStream

namespace Answer

/-- The answer of a reader without counters. -/
def ofReading : EStateM.Result SyntaxError TokenStream JsonExpr → Answer
  | .ok expr rest => ⟨.ok expr, rest⟩
  | .error error rest => ⟨.error (.fault error), rest⟩

/-- The answer of a reader with counters. -/
def ofCounting : EStateM.Result (Halt SyntaxError) Count JsonExpr → Answer
  | .ok expr count => ⟨.ok expr, count.stream⟩
  | .error halt count => ⟨.error halt, count.stream⟩

theorem rest_ofReading
    (result : EStateM.Result SyntaxError TokenStream JsonExpr) :
    (ofReading result).rest = left result := by
  cases result <;> rfl

end Answer

/-- The counters before the next request.  The active calls are watched from now
on, and the other counters stay as they are. -/
def Count.rewatched (count : Count) : Count := { count with mostActive := 0 }

/-- The answers to requests that are made one behind the other with the same
counters. -/
def answers (maxDepth : Nat) : List Request → Count → List Answer
  | [], _ => []
  | request :: later, count =>
    let run := request.count maxDepth count.rewatched
    Answer.ofCounting run :: answers maxDepth later (left run)

/-- The answers to requests that are made with new counters each, on the tokens
that the one before has left. -/
def freshAnswers (maxDepth : Nat) : List Request → TokenStream → List Answer
  | [], _ => []
  | request :: later, stream =>
    let answer := Answer.ofCounting (request.count maxDepth (Count.start stream))
    answer :: freshAnswers maxDepth later answer.rest

/-- The answers to requests that are made without counters. -/
def plainAnswers (maxDepth : Nat) : List Request → TokenStream → List Answer
  | [], _ => []
  | request :: later, stream =>
    let answer := Answer.ofReading (request.read maxDepth stream)
    answer :: plainAnswers maxDepth later answer.rest

/-! ## One request -/

section

variable {maxDepth : Nat} {stream : TokenStream} {count : Count}

theorem Count.settled_start (stream : TokenStream) :
    (Count.start stream).Settled 0 stream :=
  ⟨rfl, rfl, rfl⟩

/-- Whatever level has been reached before, a request can be made when all
levels are left. -/
theorem Count.Settled.at_rewatched (h : count.Settled 0 stream) :
    count.rewatched.At (fun _ => True) maxDepth 0 count.peak stream where
  stream_eq := h.stream_eq
  within := ⟨fun _ _ => trivial, trivial⟩
  depth_eq := h.depth_eq
  peak_eq := rfl
  active_eq := h.active_eq
  mostActive_le := Nat.zero_le maxDepth

theorem Request.recovers (request : Request) :
    Recovers (fun _ => True) maxDepth 0 (request.read maxDepth)
      (request.count maxDepth) := by
  cases request with
  | complete => exact recovers_complete maxDepth
  | expression => exact recovers_expression maxDepth

theorem Request.tracks (request : Request) :
    Tracks (fun _ => True) maxDepth 0 (request.read maxDepth)
      (request.count maxDepth) fun expr expr' _ => expr' = expr := by
  cases request with
  | complete => exact tracks_complete maxDepth
  | expression => exact tracks_expression maxDepth

/-- A request is answered as without counters. -/
theorem Request.ofCounting_count (request : Request)
    (h : count.Settled 0 stream) :
    Answer.ofCounting (request.count maxDepth count.rewatched) =
      Answer.ofReading (request.read maxDepth stream) := by
  have hat : count.rewatched.At (fun _ => True) maxDepth 0 count.peak stream :=
    h.at_rewatched
  have hfollows := request.tracks count.peak stream count.rewatched
    (Nat.zero_le _) hat
  have hsettled := (request.recovers count.peak stream count.rewatched
    (Nat.zero_le _) hat).2
  generalize request.read maxDepth stream = result at hfollows hsettled ⊢
  generalize request.count maxDepth count.rewatched = result'
    at hfollows hsettled ⊢
  cases hfollows with
  | ok h =>
    obtain ⟨_, rfl, -⟩ := h
    exact congrArg (Answer.mk (.ok _)) hsettled.stream_eq
  | error => exact congrArg (Answer.mk (.error _)) hsettled.stream_eq

/-- Behind a request the counters are settled again. -/
theorem Request.settled_count (request : Request) (h : count.Settled 0 stream) :
    (left (request.count maxDepth count.rewatched)).Settled 0
      (Answer.ofReading (request.read maxDepth stream)).rest := by
  rw [Answer.rest_ofReading]
  exact (request.recovers count.peak stream count.rewatched
    (Nat.zero_le _) h.at_rewatched).2

/-- A request takes tokens off the front, and no more than there are. -/
theorem Request.rest_isBehind (request : Request) (maxDepth : Nat)
    (stream : TokenStream) :
    (Answer.ofReading (request.read maxDepth stream)).rest.IsBehind stream := by
  rw [Answer.rest_ofReading]
  exact (request.recovers 0 stream (Count.start stream).rewatched
    (Nat.zero_le _) (Count.settled_start stream).at_rewatched).1

end

/-! ## Many requests -/

variable (maxDepth : Nat)

theorem answers_eq_plainAnswers (requests : List Request) {stream : TokenStream}
    {count : Count} (h : count.Settled 0 stream) :
    answers maxDepth requests count = plainAnswers maxDepth requests stream := by
  induction requests generalizing stream count with
  | nil => rfl
  | cons request later ih =>
    rw [answers, plainAnswers, request.ofCounting_count h,
      ih (request.settled_count h)]

theorem freshAnswers_eq_plainAnswers (requests : List Request)
    (stream : TokenStream) :
    freshAnswers maxDepth requests stream =
      plainAnswers maxDepth requests stream := by
  induction requests generalizing stream with
  | nil => rfl
  | cons request later ih =>
    have hanswer : Answer.ofCounting
        (request.count maxDepth (Count.start stream)) =
          Answer.ofReading (request.read maxDepth stream) :=
      request.ofCounting_count (Count.settled_start stream)
    rw [freshAnswers, plainAnswers, hanswer, ih]

theorem isChain_plainAnswers (requests : List Request) (stream : TokenStream) :
    (stream :: (plainAnswers maxDepth requests stream).map Answer.rest).IsChain
      fun before after => after.IsBehind before := by
  induction requests generalizing stream with
  | nil => exact .singleton stream
  | cons request later ih =>
    exact .cons_cons (request.rest_isBehind maxDepth stream) (ih _)

/-- However the requests before it have ended, a request is answered as by new
counters on the tokens that are left, and leaves the same tokens.  These are the
answers without counters, so no request meets a defect.  From one request to the
next, tokens are taken off the front and never put back. -/
theorem answers_eq_freshAnswers (requests : List Request)
    (stream : TokenStream) :
    answers maxDepth requests (Count.start stream) =
        freshAnswers maxDepth requests stream ∧
      answers maxDepth requests (Count.start stream) =
        plainAnswers maxDepth requests stream ∧
      (stream :: (answers maxDepth requests (Count.start stream)).map
        Answer.rest).IsChain fun before after => after.IsBehind before := by
  have hplain :=
    answers_eq_plainAnswers maxDepth requests (Count.settled_start stream)
  rw [freshAnswers_eq_plainAnswers, hplain]
  exact ⟨rfl, rfl, isChain_plainAnswers maxDepth requests stream⟩

-- On one level there is no room behind a prefix operator, so the first two
-- requests fail there, and the third one finds a name.
example :
    let stream : TokenStream :=
      ⟨[⟨0, .exclamation⟩, ⟨1, .exclamation⟩, ⟨2, .name "a"⟩], 3⟩
    (answers 1 [.complete, .expression, .complete] (Count.start stream)).map
      (·.rest.tokens.length) = [2, 1, 0] := by
  decide +kernel

end DocFilter
