import DocFilter.Proofs.Grammar.Soundness

/-!
# Loops without turns

A loop has a number of turns and starts with as many as there are tokens left.
Each of its turns uses up a token, so no loop stops because it has no turn left,
and more turns than tokens make no difference.  Started like this, a loop
satisfies an equation that does not mention turns: it does one step, and then it
is started again.
-/

namespace DocFilter.Reading

variable {α β : Type}

/-! ## Loops and their steps -/

/-- One turn of the loop is a step that goes on with the other turns.  A step
uses up a token before it goes on, and no turn is missed at the end of the
tokens. -/
structure IsLoop (step : (α → Reading β) → α → Reading β)
    (loop : List PlacedToken → α → Reading β) : Prop where
  cons : ∀ turn turns, loop (turn :: turns) = step (loop turns)
  nil : ∀ value stop next, loop [] value ⟨[], stop⟩ = step next value ⟨[], stop⟩
  congr : ∀ (next next' : α → Reading β) (value : α) (stream : TokenStream),
    (∀ (value : α) (rest : TokenStream),
      rest.tokens.length < stream.tokens.length →
        next value rest = next' value rest) →
      step next value stream = step next' value stream

/-- A loop with as many turns as there are tokens. -/
def started (loop : List PlacedToken → α → Reading β) (value : α) :
    Reading β := do
  loop (← get).tokens value

namespace IsLoop

variable {step : (α → Reading β) → α → Reading β}
  {loop : List PlacedToken → α → Reading β}

/-- With enough turns a loop does a step, and goes on with enough turns. -/
theorem apply_eq (h : IsLoop step loop) {turns turns' : List PlacedToken}
    {stream : TokenStream} (hturns : stream.tokens.length ≤ turns.length)
    (hturns' : stream.tokens.length ≤ turns'.length) (value : α) :
    loop turns value stream = loop turns' value stream := by
  induction turns generalizing turns' stream value with
  | nil =>
    obtain ⟨tokens, stop⟩ := stream
    obtain rfl := List.eq_nil_of_length_eq_zero (Nat.le_zero.mp hturns)
    cases turns' with
    | nil => rfl
    | cons turn' turns' => rw [h.cons, h.nil]
  | cons turn turns ih =>
    cases turns' with
    | nil =>
      obtain ⟨tokens, stop⟩ := stream
      obtain rfl := List.eq_nil_of_length_eq_zero (Nat.le_zero.mp hturns')
      rw [h.cons, h.nil]
    | cons turn' turns' =>
      rw [h.cons, h.cons]
      apply h.congr
      intro value rest hrest
      rw [List.length_cons] at hturns hturns'
      exact ih (by omega) (by omega) value

/-- A loop does a step and is started again. -/
theorem started_eq (h : IsLoop step loop) :
    started loop = step (started loop) := by
  funext value stream
  have hturns : stream.tokens.length ≤
      (PlacedToken.mk 0 .comma :: stream.tokens).length := Nat.le_succ _
  change loop stream.tokens value stream = _
  rw [h.apply_eq (Nat.le_refl _) hturns, h.cons]
  apply h.congr
  intro value rest hrest
  exact h.apply_eq (Nat.le_of_lt hrest) (Nat.le_refl _) value

end IsLoop

/-! ## What readers leave -/

variable {P : List Token → α → Prop} {reader : Reading α}
  {stream rest : TokenStream} {value : α}

/-- A reader leaves as many tokens as it does not take. -/
theorem Takes.length_eq (h : Takes reader P) (hok : reader stream = .ok value rest) :
    ∃ taken, P taken value ∧
      stream.tokens.length = taken.length + rest.tokens.length := by
  obtain ⟨taken, rfl, hP⟩ := h stream value rest hok
  exact ⟨_, hP, by simp⟩

theorem Takes.length_le (h : Takes reader P) (hok : reader stream = .ok value rest) :
    rest.tokens.length ≤ stream.tokens.length := by
  obtain ⟨taken, -, hlength⟩ := h.length_eq hok
  omega

/-! ## Chains -/

section

variable (tier : Tier) (operand : Reading Operand) (room : Nat)

/-- A link of a chain and what is done behind it. -/
def link (next : Operand → Reading Operand) (left : Operand) :
    Reading Operand := do
  match ← acceptSome (Token.operator? tier) with
  | none => return left
  | some op =>
    let right ← operand
    next (← within room (joined op left right))

/-- The links of a chain behind its left operand. -/
def links : Operand → Reading Operand :=
  started (chainAfter tier operand room)

theorem chain_eq : chain tier operand room = operand >>= links tier operand room :=
  rfl

variable {operand}

theorem isLoop_chainAfter {P : List Token → Operand → Prop}
    (htakes : Takes operand P) :
    IsLoop (link tier operand room) (chainAfter tier operand room) where
  cons _ _ := rfl
  nil _ _ _ := rfl
  congr next next' left stream h := by
    apply bind_congr_of_ok
    intro found middle hfound
    cases found with
    | none => rfl
    | some op =>
      obtain ⟨_, ⟨token, rfl, -⟩, hlength⟩ :=
        (Takes.acceptSome _).length_eq hfound
      rw [List.length_singleton] at hlength
      apply bind_congr_of_ok
      intro right rest hright
      apply bind_congr_of_ok
      intro result rest' hresult
      have hrest := htakes.length_le hright
      have hrest' := (takes_within _).length_le hresult
      exact h result rest' (by omega)

theorem links_eq {P : List Token → Operand → Prop} (htakes : Takes operand P) :
    links tier operand room =
      link tier operand room (links tier operand room) :=
  (isLoop_chainAfter tier room htakes).started_eq

end

/-! ## Items -/

section

variable (item : Reading α) (close : Token) (unclosed : SyntaxFault)

/-- A comma, the item behind it, and what is done behind the item. -/
def furtherItem (next : List α → Reading (List α)) (before : List α) :
    Reading (List α) := do
  let position ← position
  match ← next? with
  | some token =>
    if token = .comma then next ((← item) :: before)
    else if token = close then return before.reverse
    else failAt unclosed position
  | none => failAt unclosed position

/-- The items behind those already read, up to the closing token. -/
def furtherItems : List α → Reading (List α) :=
  started (itemsAfter item close unclosed)

variable {item}

theorem isLoop_itemsAfter (htakes : Takes item P) :
    IsLoop (furtherItem item close unclosed)
      (itemsAfter item close unclosed) where
  cons _ _ := rfl
  nil _ _ _ := rfl
  congr next next' before stream h := by
    apply bind_congr_of_ok
    intro start middle hstart
    have hmiddle := Takes.position.length_le hstart
    apply bind_congr_of_ok
    intro found rest hfound
    obtain ⟨_, rfl, hrest⟩ := Takes.next?.length_eq hfound
    cases found with
    | none => rfl
    | some token =>
      dsimp only
      by_cases hcomma : token = .comma
      · rw [if_pos hcomma, if_pos hcomma]
        apply bind_congr_of_ok
        intro value rest' hvalue
        have hrest' := htakes.length_le hvalue
        simp only [Option.toList_some, List.length_singleton] at hrest
        exact h _ rest' (by omega)
      · rw [if_neg hcomma, if_neg hcomma]

theorem furtherItems_eq (htakes : Takes item P) :
    furtherItems item close unclosed =
      furtherItem item close unclosed (furtherItems item close unclosed) :=
  (isLoop_itemsAfter close unclosed htakes).started_eq

end

/-! ## Suffixes -/

section

variable (expression : Reading Operand) (room : Nat)

/-- A suffix and what is done behind it. -/
def furtherSuffix (next : Operand → Reading Operand) (object : Operand) :
    Reading Operand := do
  if ← accept .dot then
    let result ← member expression object
    next (← within room result)
  else if ← accept .openBracket then
    let result ← key expression object
    next (← within room result)
  else return object

/-- The suffixes behind an object. -/
def furtherSuffixes : Operand → Reading Operand :=
  started (suffixes expression room)

theorem accessor_eq : accessor expression room =
    atom expression >>= furtherSuffixes expression room :=
  rfl

variable {expression}

theorem isLoop_suffixes {limit : Nat}
    (htakes : Takes expression (IsOperand (.chain .logical) limit)) :
    IsLoop (furtherSuffix expression room) (suffixes expression room) where
  cons _ _ := rfl
  nil _ _ _ := rfl
  congr next next' object stream h := by
    have hnext {reader : Reading Operand} {P : List Token → Operand → Prop}
        (hreader : Takes reader P) {middle : TokenStream}
        (hmiddle : middle.tokens.length < stream.tokens.length) :
        (do let result ← reader; next (← within room result)) middle =
          (do let result ← reader; next' (← within room result)) middle := by
      apply bind_congr_of_ok
      intro result rest hresult
      apply bind_congr_of_ok
      intro object rest' hobject
      have hrest := hreader.length_le hresult
      have hrest' := (takes_within _).length_le hobject
      exact h object rest' (by omega)
    apply bind_congr_of_ok
    intro dotted middle hdotted
    obtain ⟨_, rfl, hmiddle⟩ := (Takes.accept .dot).length_eq hdotted
    cases dotted with
    | true =>
      rw [if_pos rfl, List.length_singleton] at hmiddle
      exact hnext (takes_member htakes object) (by omega)
    | false =>
      rw [if_neg Bool.false_ne_true, List.length_nil, Nat.zero_add] at hmiddle
      apply bind_congr_of_ok
      intro bracketed middle' hbracketed
      obtain ⟨_, rfl, hmiddle'⟩ :=
        (Takes.accept .openBracket).length_eq hbracketed
      cases bracketed with
      | true =>
        rw [if_pos rfl, List.length_singleton] at hmiddle'
        exact hnext (takes_key htakes object) (by omega)
      | false => rfl

theorem furtherSuffixes_eq {limit : Nat}
    (htakes : Takes expression (IsOperand (.chain .logical) limit)) :
    furtherSuffixes expression room =
      furtherSuffix expression room (furtherSuffixes expression room) :=
  (isLoop_suffixes room htakes).started_eq

end

end DocFilter.Reading
