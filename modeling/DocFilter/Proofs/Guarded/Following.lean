import DocFilter.Proofs.Reading.Sequencing

/-!
# Guarded runs

A guarded run spells out every operation that is not defined everywhere, and
stops with a defect where such an operation is used outside its domain.  It
follows a plain run, which knows no defects, if both end alike: with related
results, or with the same error.  A run that follows another one therefore
meets no defect.  The statements about two runs are put together step by step,
along the sequencing of the two programs.
-/

namespace DocFilter

/-- Why a guarded run stops: an error of the plain run, or a defect. -/
inductive Halt (ε : Type) where
  | fault (error : ε)
  | defect

/-- The same reason, with another kind of error. -/
def Halt.map {ε ε' : Type} (f : ε → ε') : Halt ε → Halt ε'
  | .fault error => .fault (f error)
  | .defect => .defect

variable {ε σ τ α β α' β' : Type} {E : ε → Prop}

/-- The guarded run ends like the plain one: either both return, and `post`
relates their values and states, or both stop with an error that satisfies
`E`. -/
inductive Follows (E : ε → Prop) (post : α → σ → β → τ → Prop) :
    EStateM.Result ε σ α → EStateM.Result (Halt ε) τ β → Prop
  | ok {value : α} {state : σ} {value' : β} {state' : τ}
    (h : post value state value' state') :
    Follows E post (.ok value state) (.ok value' state')
  | error {error : ε} {state : σ} {state' : τ} (h : E error) :
    Follows E post (.error error state) (.error (.fault error) state')

namespace Follows

variable {post : α → σ → β → τ → Prop} {post' : α' → σ → β' → τ → Prop}

theorem mono
    {result : EStateM.Result ε σ α} {result' : EStateM.Result (Halt ε) τ β}
    {weaker : α → σ → β → τ → Prop} (h : Follows E post result result')
    (hpost : ∀ value state value' state',
      post value state value' state' → weaker value state value' state') :
    Follows E weaker result result' := by
  cases h with
  | ok h => exact .ok (hpost _ _ _ _ h)
  | error h => exact .error h

/-- One run after another follows what it follows part by part. -/
theorem bind
    {plain : EStateM ε σ α} {guarded : EStateM (Halt ε) τ β}
    {next : α → EStateM ε σ α'} {next' : β → EStateM (Halt ε) τ β'}
    {state : σ} {state' : τ} (h : Follows E post (plain state) (guarded state'))
    (hnext : ∀ value middle value' middle', post value middle value' middle' →
      Follows E post' (next value middle) (next' value' middle')) :
    Follows E post' ((plain >>= next) state) ((guarded >>= next') state') := by
  change Follows E post' (EStateM.bind plain next state)
    (EStateM.bind guarded next' state')
  unfold EStateM.bind
  generalize plain state = result at h ⊢
  generalize guarded state' = result' at h ⊢
  cases h with
  | ok h => exact hnext _ _ _ _ h
  | error h => exact .error h

/-- What a guarded run returns if the plain run returns. -/
theorem exists_ok
    {value : α} {state : σ} {result' : EStateM.Result (Halt ε) τ β}
    (h : Follows E post (.ok value state) result') :
    ∃ value' state', result' = .ok value' state' ∧
      post value state value' state' := by
  cases h with
  | ok h => exact ⟨_, _, rfl, h⟩

/-- What a guarded run stops with if the plain run stops. -/
theorem exists_error
    {error : ε} {state : σ} {result' : EStateM.Result (Halt ε) τ β}
    (h : Follows E post (.error error state) result') :
    E error ∧ ∃ state', result' = .error (.fault error) state' := by
  cases h with
  | error h => exact ⟨h, _, rfl⟩

end Follows

end DocFilter
