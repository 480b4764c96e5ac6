import DocFilter.Diagnostic
import DocFilter.Proofs.Grammar.Completeness

/-!
# The limit on heights is exact

A reader with less room does what it does with more room, or it stops because
the expression is too deep.  This holds of every step that a reader is put
together from, and so no other error can come first.  What is read with some
room is therefore read with any other room that the height of its phrase fits
in, and with less room than that it is too deep.
-/

namespace DocFilter.Reading

open Grammar

/-! ## Less room -/

variable {α β : Type}

/-- On every stream the first reader does what the second one does, or it stops
because the expression is too deep. -/
def Narrows (narrow wide : Reading α) : Prop :=
  ∀ stream, narrow stream = wide stream ∨
    ∃ position rest, narrow stream = .error ⟨.tooDeep, position⟩ rest

namespace Narrows

theorem refl (reader : Reading α) : Narrows reader reader :=
  fun _ => Or.inl rfl

theorem tooDeep (wide : Reading α) : Narrows (fail .tooDeep) wide :=
  fun stream => Or.inr ⟨stream.position, stream, rfl⟩

theorem bind {narrow wide : Reading α} {next next' : α → Reading β}
    (h : Narrows narrow wide)
    (hnext : ∀ value, Narrows (next value) (next' value)) :
    Narrows (narrow >>= next) (wide >>= next') := by
  intro stream
  rcases h stream with heq | ⟨position, rest, hdeep⟩
  · cases hwide : wide stream with
    | ok value middle =>
      rw [bind_of_eq_ok hwide, bind_of_eq_ok (heq.trans hwide)]
      exact hnext value middle
    | error error middle =>
      rw [bind_of_eq_error hwide, bind_of_eq_error (heq.trans hwide)]
      exact Or.inl rfl
  · rw [bind_of_eq_error hdeep]
    exact Or.inr ⟨position, rest, rfl⟩

/-- Behind a step that does not depend on the room. -/
theorem seq (first : Reading α) {next next' : α → Reading β}
    (hnext : ∀ value, Narrows (next value) (next' value)) :
    Narrows (first >>= next) (first >>= next') :=
  (refl first).bind hnext

theorem ite {condition : Prop} [Decidable condition]
    {narrow narrow' wide wide' : Reading α} (h : Narrows narrow wide)
    (h' : Narrows narrow' wide') :
    Narrows (if condition then narrow else narrow')
      (if condition then wide else wide') := by
  split
  · exact h
  · exact h'

/-! ### Items and chains -/

theorem itemsAfter {item item' : Reading α} (h : Narrows item item')
    (close : Token) (unclosed : SyntaxFault) (turns : List PlacedToken)
    (before : List α) :
    Narrows (Reading.itemsAfter item close unclosed turns before)
      (Reading.itemsAfter item' close unclosed turns before) := by
  induction turns generalizing before with
  | nil => exact refl _
  | cons turn turns ih =>
    refine seq position fun start => seq next? fun found => ?_
    cases found with
    | none => exact refl _
    | some token =>
      exact ite (h.bind fun value => ih (value :: before)) (refl _)

theorem items {item item' : Reading α} (h : Narrows item item') (close : Token)
    (atEnd unclosed : SyntaxFault) :
    Narrows (Reading.items item close atEnd unclosed)
      (Reading.items item' close atEnd unclosed) := by
  refine seq peek? fun found => ?_
  cases found with
  | none => exact refl _
  | some token =>
    exact ite (refl _) (h.bind fun first => seq get fun stream =>
      itemsAfter h close unclosed stream.tokens [first])

variable {room room' : Nat}

theorem within (hroom : room ≤ room') (operand : Operand) :
    Narrows (Reading.within room operand) (Reading.within room' operand) := by
  unfold Reading.within
  by_cases hheight : operand.height ≤ room
  · rw [if_pos hheight, if_pos (Nat.le_trans hheight hroom)]
    exact refl _
  · rw [if_neg hheight]
    exact tooDeep _

theorem chainAfter {operand operand' : Reading Operand}
    (h : Narrows operand operand') (hroom : room ≤ room') (tier : Tier)
    (turns : List PlacedToken) (left : Operand) :
    Narrows (Reading.chainAfter tier operand room turns left)
      (Reading.chainAfter tier operand' room' turns left) := by
  induction turns generalizing left with
  | nil => exact refl _
  | cons turn turns ih =>
    refine seq (acceptSome (Token.operator? tier)) fun found => ?_
    cases found with
    | none => exact refl _
    | some op => exact h.bind fun right => (within hroom _).bind ih

theorem chain {operand operand' : Reading Operand}
    (h : Narrows operand operand') (hroom : room ≤ room') (tier : Tier) :
    Narrows (Reading.chain tier operand room)
      (Reading.chain tier operand' room') :=
  h.bind fun first => seq get fun stream =>
    chainAfter h hroom tier stream.tokens first

theorem expressionOf {negated negated' : Reading Operand}
    (h : Narrows negated negated') (hroom : room ≤ room') :
    Narrows (Reading.expressionOf negated room)
      (Reading.expressionOf negated' room') :=
  (h.chain hroom .comparison).chain hroom .logical

/-! ### Atoms and suffixes -/

section

variable {expression expression' : Reading Operand}
  (h : Narrows expression expression')

include h

theorem argument :
    Narrows (Reading.argument expression) (Reading.argument expression') := by
  refine seq get fun stream => ?_
  split
  · exact seq _ fun _ => h.bind fun _ => refl _
  · exact h.bind fun _ => refl _

theorem arguments :
    Narrows (Reading.arguments expression) (Reading.arguments expression') :=
  h.argument.items .closeParen .endInArguments .unclosedArguments

theorem elements :
    Narrows (Reading.elements expression) (Reading.elements expression') :=
  h.items .closeBracket .endInArray .unclosedArray

theorem atom :
    Narrows (Reading.atom expression) (Reading.atom expression') := by
  refine seq position fun start => seq next? fun found => ?_
  cases found with
  | none => exact refl _
  | some token =>
    cases token with
    | name text =>
      exact seq (accept .openParen) fun _ =>
        ite (h.arguments.bind fun _ => refl _) (refl _)
    | openParen => exact h.bind fun _ => refl _
    | openBracket => exact h.elements.bind fun _ => refl _
    | _ => exact refl _

theorem member (object : Operand) :
    Narrows (Reading.member expression object)
      (Reading.member expression' object) := by
  refine seq position fun start => seq next? fun found => ?_
  cases found with
  | none => exact refl _
  | some token =>
    cases token with
    | name text =>
      exact seq (accept .openParen) fun _ =>
        ite (h.arguments.bind fun _ => refl _) (refl _)
    | _ => exact refl _

theorem key (object : Operand) :
    Narrows (Reading.key expression object)
      (Reading.key expression' object) :=
  h.bind fun _ => refl _

theorem suffixes (hroom : room ≤ room') (turns : List PlacedToken)
    (object : Operand) :
    Narrows (Reading.suffixes expression room turns object)
      (Reading.suffixes expression' room' turns object) := by
  induction turns generalizing object with
  | nil => exact refl _
  | cons turn turns ih =>
    have hnext {reader reader' : Reading Operand} (h : Narrows reader reader') :
        Narrows (do
            let object ← reader
            Reading.suffixes expression room turns
              (← Reading.within room object))
          (do
            let object ← reader'
            Reading.suffixes expression' room' turns
              (← Reading.within room' object)) :=
      h.bind fun next => (within hroom next).bind ih
    exact seq (accept .dot) fun _ => ite (hnext (h.member object))
      (seq (accept .openBracket) fun _ => ite (hnext (h.key object)) (refl _))

theorem accessor (hroom : room ≤ room') :
    Narrows (Reading.accessor expression room)
      (Reading.accessor expression' room') :=
  h.atom.bind fun first => seq get fun stream =>
    h.suffixes hroom stream.tokens first

end

/-! ### Expressions -/

theorem negated (hroom : room ≤ room') :
    Narrows (Reading.negated room) (Reading.negated room') := by
  induction room generalizing room' with
  | zero => exact tooDeep _
  | succ room ih =>
    obtain ⟨room', rfl⟩ : ∃ inner, room' = inner + 1 := ⟨room' - 1, by omega⟩
    have hinner : room ≤ room' := Nat.le_of_succ_le_succ hroom
    refine seq (acceptSome Token.prefixOp?) fun found => ?_
    cases found with
    | none =>
      exact (((ih hinner).expressionOf hinner).accessor hinner).bind fun _ =>
        refl _
    | some op => exact (ih hinner).bind fun _ => refl _

theorem complete (hroom : room ≤ room') :
    Narrows (Reading.complete room) (Reading.complete room') :=
  (((negated hroom).expressionOf hroom).bind fun _ => refl _).bind fun _ =>
    refl _

end Narrows

/-! ## The height of what is read -/

/-- All derivations of the same tokens have the same height, as long as their
calls keep to the tables. -/
theorem height_eq_of_tokens_eq
    {first second : Phrase .expression} (htokens : first.tokens = second.tokens)
    {tree tree' : JsonExpr} (htree : first.tree? = some tree)
    (htree' : second.tree? = some tree') : first.height = second.height := by
  let placed := first.tokens.map (PlacedToken.mk 0)
  have hplaced : placed.map PlacedToken.token = first.tokens := by
    rw [List.map_map]
    exact List.map_id' first.tokens
  have hends : (Level.chain .logical).Ends none :=
    ⟨⟨⟨by simp, by simp, by simp⟩, rfl⟩, rfl⟩
  have hread := isRead first tree _ htree (Nat.le_max_left _ second.height)
    placed [] 0 hplaced hends
  have hread' := isRead second tree' _ htree' (Nat.le_max_right first.height _)
    placed [] 0 (hplaced.trans htokens) hends
  have hresult := hread.symm.trans hread'
  simp only [EStateM.Result.ok.injEq, Operand.mk.injEq] at hresult
  exact hresult.1.2

/-- With less room than the height of their phrase, tokens are too deep. -/
theorem complete_of_lt_height
    {limit : Nat} {stream : TokenStream} {expr : JsonExpr}
    (phrase : Phrase .expression)
    (htokens : phrase.tokens = stream.tokens.map PlacedToken.token)
    (htree : phrase.tree? = some expr) (hlimit : limit < phrase.height) :
    ∃ position rest,
      complete limit stream = .error ⟨.tooDeep, position⟩ rest := by
  rcases Narrows.complete (Nat.le_of_lt hlimit) stream with heq | hdeep
  · -- What is read has a height that fits in the room, and no other height.
    rw [complete_of_derivation phrase htokens htree (Nat.le_refl _)] at heq
    obtain ⟨other, htokens', htree', hheight⟩ := derivation_of_complete heq
    have heights :=
      height_eq_of_tokens_eq (htokens.trans htokens'.symm) htree htree'
    omega
  · exact hdeep

/-- An expression that is read with some limit has a derivation.  With any limit
that the height of its derivation does not exceed the same is read, and with any
other limit the author is told that the expression is nested too deeply.  Hence
nothing changes when the limit is raised. -/
theorem complete_iff_height_le
    {room : Nat} {stream rest : TokenStream} {expr : JsonExpr}
    (hread : complete room stream = .ok expr rest) :
    (∃ phrase : Phrase .expression,
      phrase.tokens = stream.tokens.map PlacedToken.token ∧
        phrase.tree? = some expr) ∧
    (∀ (phrase : Phrase .expression) (tree : JsonExpr),
      phrase.tokens = stream.tokens.map PlacedToken.token →
        phrase.tree? = some tree →
          ∀ limit,
            (phrase.height ≤ limit →
              complete limit stream = .ok expr rest) ∧
            (limit < phrase.height →
              ∃ position rest',
                complete limit stream =
                    .error ⟨.tooDeep, position⟩ rest' ∧
                  (Failure.grammatical ⟨.tooDeep, position⟩).diagnostic =
                    ⟨.grammatical, "Expression nested too deeply",
                      some position⟩)) ∧
    ∀ limit, room ≤ limit → complete limit stream = .ok expr rest := by
  obtain ⟨phrase, htokens, htree, hheight⟩ := derivation_of_complete hread
  have hrest : rest = ⟨[], stream.stop⟩ := by
    rw [complete_of_derivation phrase htokens htree hheight] at hread
    cases hread
    rfl
  subst hrest
  refine ⟨⟨phrase, htokens, htree⟩, ?_, ?_⟩
  · intro other tree htokens' htree' limit
    have htree_eq : tree = expr :=
      tree_eq_of_tokens_eq (htokens'.trans htokens.symm) htree' htree
    subst htree_eq
    refine ⟨complete_of_derivation other htokens' htree', fun hlimit => ?_⟩
    obtain ⟨position, rest', hdeep⟩ :=
      complete_of_lt_height other htokens' htree' hlimit
    exact ⟨position, rest', hdeep, rfl⟩
  · intro limit hlimit
    exact complete_of_derivation phrase htokens htree
      (Nat.le_trans hheight hlimit)

/-- A sign, a name and a property have the height three. -/
theorem complete_iff_height_le_signedProperty :
    let stream : TokenStream :=
      ⟨[⟨0, .exclamation⟩, ⟨1, .name "_"⟩, ⟨2, .dot⟩, ⟨3, .name "a"⟩], 4⟩
    let expr : JsonExpr :=
      .ofScalar (.unary .not (.ofJson (.path (.name "_") ["a"])))
    complete 4 stream = .ok expr ⟨[], 4⟩ ∧
      complete 3 stream = .ok expr ⟨[], 4⟩ ∧
      ∃ position rest,
        complete 2 stream = .error ⟨.tooDeep, position⟩ rest := by
  intro stream expr
  let phrase : Phrase .expression :=
    .chain (.chain (.signed .exclamation
      (.accessor (.name "_") (.cons (.property "a") .nil))) .nil) .nil
  have hread : complete 4 stream = .ok expr ⟨[], 4⟩ := rfl
  have htokens : phrase.tokens = stream.tokens.map PlacedToken.token := rfl
  have htree : phrase.tree? = some expr := rfl
  have hheight : phrase.height = 3 := rfl
  obtain ⟨-, hlimits, -⟩ := complete_iff_height_le hread
  obtain ⟨hfits, -⟩ := hlimits phrase expr htokens htree 3
  obtain ⟨-, hdeep⟩ := hlimits phrase expr htokens htree 2
  obtain ⟨position, rest, hlow, -⟩ := hdeep (by rw [hheight]; decide)
  exact ⟨hread, hfits (Nat.le_of_eq hheight), position, rest, hlow⟩

end DocFilter.Reading
