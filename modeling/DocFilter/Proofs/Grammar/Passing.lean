import DocFilter.Proofs.Grammar.Inversion
import DocFilter.Proofs.Grammar.Shape
import DocFilter.Proofs.Grammar.Soundness
import DocFilter.Proofs.Reading.Passing

/-!
# What the grammar derives is taken or refused

A phrase that fits in the room is taken just as it is, and its tree and its
height are returned, or it is refused because of a call in it, and then it has
no tree.  A reader is greedy, so the next token must not continue the phrase.
The induction is on the size of the phrase: the lists inside a phrase are
followed token by token, and every operand, key and argument in them is a
smaller phrase.
-/

namespace DocFilter.Grammar

/-! ## Where phrases end -/

/-- The next token continues neither a name into a call nor an atom by a
suffix. -/
def EndsOperand (next : Option Token) : Prop :=
  next ≠ some .openParen ∧ next ≠ some .dot ∧ next ≠ some .openBracket

/-- The next token does not continue a phrase of a level. -/
def Level.Ends : Level → Option Token → Prop
  | .atom, next => next ≠ some .openParen
  | .negated, next => EndsOperand next
  | .chain .comparison, next =>
    EndsOperand next ∧ next.bind (Token.operator? .comparison) = none
  | .chain .logical, next =>
    (EndsOperand next ∧ next.bind (Token.operator? .comparison) = none) ∧
      next.bind (Token.operator? .logical) = none

theorem Level.Ends.operator?_eq_none
    {tier : Tier} {next : Option Token} (h : (Level.chain tier).Ends next) :
    next.bind (Token.operator? tier) = none := by
  cases tier <;> exact h.2

theorem Level.Ends.operand
    {tier : Tier} {next : Option Token} (h : (Level.chain tier).Ends next) :
    (Level.operand tier).Ends next := by
  cases tier <;> exact h.1

/-- An operator of a tier ends what its operands may be. -/
theorem ends_operator {tier : Tier} {op : BinaryOp} (htier : op.tier = tier) :
    (Level.operand tier).Ends (some (.operator op)) := by
  cases tier with
  | comparison => exact ⟨by simp, by simp, by simp⟩
  | logical =>
    exact ⟨⟨by simp, by simp, by simp⟩, by simp [Token.operator?, htier]⟩

theorem ends_following_links
    {tier : Tier} (links : Phrase (.many (.link tier))) {next : Option Token}
    (h : (Level.chain tier).Ends next) :
    (Level.operand tier).Ends (Reading.following links.tokens next) := by
  cases links with
  | nil => exact h.operand
  | cons first others =>
    cases first with
    | link op htier operand => exact ends_operator htier

/-- A suffix ends the atom before it, and the suffix before it. -/
theorem following_suffixes_ne_openParen
    (suffixes : Phrase (.many .suffix)) {next : Option Token}
    (h : next ≠ some .openParen) :
    Reading.following suffixes.tokens next ≠ some .openParen := by
  cases suffixes with
  | nil => exact h
  | cons first others => cases first <;> simp [Phrase.tokens]

/-- A closing token or a comma ends an expression. -/
theorem ends_of_closing
    {token : Token}
    (h : token = .comma ∨ token = .closeParen ∨ token = .closeBracket) :
    (Level.chain .logical).Ends (some token) := by
  rcases h with rfl | rfl | rfl <;>
    exact ⟨⟨⟨by simp, by simp, by simp⟩, rfl⟩, rfl⟩

/-- Nothing ends an expression as well. -/
theorem ends_none : (Level.chain .logical).Ends none :=
  ⟨⟨⟨by simp, by simp, by simp⟩, rfl⟩, rfl⟩

/-! ## What is put on top of something -/

namespace Phrase

/-- What an expression becomes by the links behind it. -/
def linked? {tier : Tier} (links : Phrase (.many (.link tier)))
    (left : JsonExpr) : Option JsonExpr :=
  links.tree?.map fun links => links.foldl binaryTree left

/-- What an expression becomes by a suffix behind it. -/
def stepped? (suffix : Phrase .suffix) (object : JsonExpr) : Option JsonExpr := do
  let step : JsonExpr → Option JsonExpr ← suffix.tree?
  step object

/-- What an expression becomes by the suffixes behind it. -/
def suffixed? (suffixes : Phrase (.many .suffix)) (object : JsonExpr) :
    Option JsonExpr := do
  let steps : List (JsonExpr → Option JsonExpr) ← suffixes.tree?
  steps.foldlM (fun object step => step object) object

theorem tree?_chain {tier : Tier} (first : Phrase (.value (.operand tier)))
    (links : Phrase (.many (.link tier))) :
    (chain first links).tree? = first.tree?.bind links.linked? := by
  unfold linked?
  rw [tree?]
  cases first.tree? with
  | none => rfl
  | some left => cases links.tree? <;> rfl

theorem linked?_cons {tier : Tier} (op : BinaryOp) (htier : op.tier = tier)
    (operand : Phrase (.value (.operand tier)))
    (others : Phrase (.many (.link tier))) (left : JsonExpr) :
    (cons (.link op htier operand) others).linked? left =
      operand.tree?.bind fun right =>
        others.linked? (binaryTree left (op, right)) := by
  unfold linked?
  rw [tree?, tree?]
  cases operand.tree? with
  | none => rfl
  | some right => cases others.tree? <;> rfl

theorem suffixed?_cons (first : Phrase .suffix) (others : Phrase (.many .suffix))
    (object : JsonExpr) :
    (cons first others).suffixed? object =
      (first.stepped? object).bind others.suffixed? := by
  unfold suffixed? stepped?
  rw [tree?]
  cases first.tree? with
  | none => rfl
  | some step =>
    cases others.tree? with
    | none => cases hstep : step object <;> simp [hstep]
    | some steps => rfl

theorem stepped?_method (callee : String) (arguments : Phrase (.items .argument))
    (object : JsonExpr) :
    (method callee arguments).stepped? object =
      arguments.tree?.bind (methodTree? object callee) := by
  rw [stepped?, tree?]
  cases arguments.tree? <;> rfl

theorem stepped?_key (inner : Phrase .expression) (object : JsonExpr) :
    (key inner).stepped? object =
      inner.tree?.map fun key => .item object key.asScalar := by
  rw [stepped?, tree?]
  cases inner.tree? <;> rfl

end Phrase

end DocFilter.Grammar

namespace DocFilter.Reading

open Grammar

/-! ## Readers of phrases -/

/-- The reader of the phrases of a level. -/
def readerOf : Level → Nat → Reading Operand
  | .chain .logical, room => expressionOf (negated room) room
  | .chain .comparison, room => chain .comparison (negated room) room
  | .negated, room => negated room
  | .atom, room => atom (expressionOf (negated room) room)

theorem readerOf_chain (tier : Tier) (room : Nat) :
    readerOf (.chain tier) room =
      chain tier (readerOf (.operand tier) room) room := by
  cases tier <;> rfl

/-- The reader takes the phrase and returns a value with its tree and its height,
or it refuses the phrase, and the phrase has no tree. -/
def PassesPhrase {α : Type} {category : Category} (phrase : Phrase category)
    (reader : Reading α) (tree : α → category.Tree) (height : α → Nat)
    (ends : Option Token → Prop) : Prop :=
  Passes reader phrase.tokens
    (fun value => phrase.tree? = some (tree value) ∧ height value = phrase.height)
    (phrase.tree? = none) ends

/-- A phrase that fits in the room is read or refused. -/
def IsPassed {level : Level} (phrase : Phrase (.value level)) : Prop :=
  ∀ room, phrase.height ≤ room →
    PassesPhrase phrase (readerOf level room) Operand.expr Operand.height
      level.Ends

/-! ## Chains -/

theorem within_of_le {room : Nat} {operand : Operand}
    (h : operand.height ≤ room) : within room operand = pure operand :=
  if_pos h

theorem accepts_within
    {room : Nat} {operand : Operand} (h : operand.height ≤ room)
    (ends : Option Token → Prop) :
    Accepts (within room operand) [] operand ends := by
  rw [within_of_le h]
  exact Accepts.pure operand ends

/-- The turns of the loop last as long as there are tokens of the links, since
each link has one. -/
theorem passes_chainAfter
    {tier : Tier} {room : Nat} (turns : List PlacedToken)
    (links : Phrase (.many (.link tier)))
    (hread : ∀ operand : Phrase (.value (.operand tier)),
      sizeOf operand < sizeOf links → IsPassed operand)
    (left : Operand) (hturns : links.tokens.length ≤ turns.length)
    (hroom : links.heightOver left.height ≤ room) :
    Passes (chainAfter tier (readerOf (.operand tier) room) room turns left)
      links.tokens
      (fun result => links.linked? left.expr = some result.expr ∧
        result.height = links.heightOver left.height)
      (links.linked? left.expr = none) (Level.chain tier).Ends := by
  induction turns generalizing links left with
  | nil =>
    cases links with
    | nil => exact Passes.pure ⟨rfl, rfl⟩ _ _
    | cons first others =>
      cases first
      simp [Phrase.tokens] at hturns
  | cons turn turns ih =>
    cases links with
    | nil =>
      exact Passes.seq_nil (Accepts.acceptSome_none (Token.operator? tier))
        (Passes.pure ⟨rfl, rfl⟩ _ _) fun _ hends => hends.operator?_eq_none
    | cons first others =>
      cases first with
      | link op htier operand =>
        simp only [Phrase.tokens, Phrase.heightOver, Phrase.linked?_cons,
          List.cons_append, List.length_cons, List.length_append,
          Phrase.cons.sizeOf_spec, Phrase.link.sizeOf_spec] at *
        have hmax := operand.heightOver_eq_max trivial left.height
        have hle := others.le_heightOver (operand.heightOver left.height + 1)
        have hop : Token.operator? tier (.operator op) = some op := by
          rw [Token.operator?, if_pos htier]
        refine Passes.seq (Accepts.acceptSome hop)
          ((hread operand (by omega) room (by omega)).bind ?_
            (fun _ => ends_following_links others) ?_)
        · rintro right ⟨htree, hheight⟩
          have hnext : (joined op left right).height =
              operand.heightOver left.height + 1 := by
            rw [hmax, ← hheight]
            rfl
          rw [htree, ← hnext]
          exact Passes.seq (accepts_within (by omega))
            (ih others (fun part hpart => hread part (by omega))
              (joined op left right) (by omega) (by rw [hnext]; exact hroom))
        · intro hnone
          rw [hnone]
          rfl

/-- A chain is read, if its operands are. -/
theorem isPassed_chain
    {tier : Tier} (first : Phrase (.value (.operand tier)))
    (links : Phrase (.many (.link tier))) (hfirst : IsPassed first)
    (hlinks : ∀ operand : Phrase (.value (.operand tier)),
      sizeOf operand < sizeOf links → IsPassed operand) :
    IsPassed (.chain first links) := by
  intro room hroom
  have hheight : (Phrase.chain first links).height =
      links.heightOver first.height :=
    Nat.zero_max _
  rw [hheight] at hroom
  have hle := links.le_heightOver first.height
  rw [PassesPhrase, hheight, readerOf_chain, Phrase.tree?_chain]
  apply (hfirst room (by omega)).bind
  · rintro left ⟨htree, hleft⟩
    rw [htree, ← hleft]
    refine Passes.get_bind fun stream hstream => ?_
    exact passes_chainAfter stream.tokens links hlinks left hstream
      (hleft ▸ hroom)
  · exact fun _ => ends_following_links links
  · intro hnone
    rw [hnone]
    rfl

/-! ## Lists of items -/

section

variable {α : Type} {category : Category} {tree : α → category.Tree}
  {height : α → Nat} {item : Reading α} {room : Nat}
  {ends : Option Token → Prop} {close : Token}

/-- Behind an item stands a comma or the closing token. -/
theorem following_others
    (hcomma : ends (some .comma)) (hclose : ends (some close))
    (others : Phrase (.many (.next category))) (next : Option Token) :
    ends (following (others.tokens ++ [close]) next) := by
  cases others with
  | nil => exact hclose
  | cons first others =>
    cases first
    exact hcomma

theorem passes_itemsAfter
    (hcategory : category.Beside) (hcomma : ends (some .comma))
    (hclose : ends (some close)) (hne : close ≠ .comma) (unclosed : SyntaxFault)
    (turns : List PlacedToken) (others : Phrase (.many (.next category)))
    (hread : ∀ phrase : Phrase category,
      sizeOf phrase < sizeOf others → phrase.height ≤ room →
        PassesPhrase phrase item tree height ends)
    (before : List α) (hturns : others.tokens.length < turns.length)
    (hroom : others.height ≤ room) (ends' : Option Token → Prop) :
    Passes (itemsAfter item close unclosed turns before)
      (others.tokens ++ [close])
      (fun values => ∃ later, values = before.reverse ++ later ∧
        others.tree? = some (later.map tree) ∧
        greatestOf height later = others.height)
      (others.tree? = none) ends' := by
  induction turns generalizing others before with
  | nil => exact absurd hturns (Nat.not_lt_zero _)
  | cons turn turns ih =>
    cases others with
    | nil =>
      refine Passes.position_bind fun position => ?_
      apply Passes.seq (Accepts.next? close)
      dsimp only
      rw [if_neg hne, if_pos rfl]
      exact Passes.pure ⟨[], (List.append_nil _).symm, rfl, rfl⟩ _ ends'
    | cons first others =>
      cases first with
      | next phrase =>
        have hmax := others.heightOver_eq_max hcategory (phrase.heightOver 0)
        simp only [Phrase.height, Phrase.tokens, Phrase.heightOver,
          List.cons_append, List.length_cons, List.length_append,
          Phrase.cons.sizeOf_spec, Phrase.next.sizeOf_spec] at *
        rw [List.append_assoc]
        refine Passes.position_bind fun position =>
          Passes.seq (Accepts.next? .comma) ?_
        apply (hread phrase (by omega) (by omega)).bind
        · rintro value ⟨htree, hheight⟩
          apply (ih others (fun part hpart => hread part (by omega))
            (value :: before) (by omega) (by omega)).imp
          · rintro values ⟨later, rfl, hothers, hgreatest⟩
            refine ⟨value :: later, ?_, ?_, ?_⟩
            · rw [List.reverse_cons, List.append_assoc]
              rfl
            · rw [Phrase.tree?, Phrase.tree?, htree, hothers]
              rfl
            · rw [greatestOf] at hgreatest ⊢
              rw [List.map_cons, greatest_cons, hgreatest, hheight, hmax]
              rfl
          · intro hothers
            rw [Phrase.tree?, Phrase.tree?, htree, hothers]
            rfl
        · exact fun next _ => following_others hcomma hclose others next
        · intro hnone
          rw [Phrase.tree?, Phrase.tree?, hnone]
          rfl

/-- A list with items is read from its first one on. -/
theorem passes_itemsFrom
    (hcategory : category.Beside) (hcomma : ends (some .comma))
    (hclose : ends (some close)) (hne : close ≠ .comma) (unclosed : SyntaxFault)
    (first : Phrase category) (others : Phrase (.many (.next category)))
    (hread : ∀ part : Phrase category,
      sizeOf part < sizeOf (Phrase.items first others) → part.height ≤ room →
        PassesPhrase part item tree height ends)
    (hroom : (Phrase.items first others).height ≤ room)
    (ends' : Option Token → Prop) :
    Passes (do
        let first ← item
        itemsAfter item close unclosed (← get).tokens [first])
      (first.tokens ++ (others.tokens ++ [close]))
      (fun values =>
        (Phrase.items first others).tree? = some (values.map tree) ∧
          greatestOf height values = (Phrase.items first others).height)
      ((Phrase.items first others).tree? = none) ends' := by
  have hmax := others.heightOver_eq_max hcategory (first.heightOver 0)
  simp only [Phrase.height, Phrase.heightOver, Phrase.items.sizeOf_spec] at *
  apply (hread first (by omega) (by omega)).bind
  · rintro value ⟨htree, hheight⟩
    refine Passes.get_bind fun stream hstream => ?_
    rw [List.length_append, List.length_singleton] at hstream
    apply (passes_itemsAfter hcategory hcomma hclose hne unclosed
      stream.tokens others (fun part hpart => hread part (by omega)) [value]
      hstream (by rw [Phrase.height]; omega) ends').imp
    · rintro values ⟨later, rfl, hothers, hgreatest⟩
      refine ⟨?_, ?_⟩
      · rw [Phrase.tree?, htree, hothers]
        rfl
      · rw [greatestOf, List.reverse_singleton, List.singleton_append,
          List.map_cons, greatest_cons, hheight, hmax]
        rw [greatestOf] at hgreatest
        rw [hgreatest]
        rfl
    · intro hothers
      rw [Phrase.tree?, htree, hothers]
      rfl
  · exact fun next _ => following_others hcomma hclose others next
  · intro hnone
    rw [Phrase.tree?, hnone]
    rfl

theorem passes_items
    (hcategory : category.Beside) (hcomma : ends (some .comma))
    (hclose : ends (some close)) (hne : close ≠ .comma)
    (hfirst : ∀ phrase : Phrase category,
      ∃ token others, phrase.tokens = token :: others ∧ token ≠ close)
    (atEnd unclosed : SyntaxFault) (phrase : Phrase (.items category))
    (hread : ∀ part : Phrase category,
      sizeOf part < sizeOf phrase → part.height ≤ room →
        PassesPhrase part item tree height ends)
    (hroom : phrase.height ≤ room) (ends' : Option Token → Prop) :
    Passes (items item close atEnd unclosed) (phrase.tokens ++ [close])
      (fun values => phrase.tree? = some (values.map tree) ∧
        greatestOf height values = phrase.height)
      (phrase.tree? = none) ends' := by
  intro placed rest stop hplaced hends
  cases phrase with
  | noItems =>
    obtain ⟨found, others, rfl, hfound, hothers⟩ :=
      List.map_eq_cons_iff.mp hplaced
    obtain rfl := List.map_eq_nil_iff.mp hothers
    exact Or.inl ⟨[], ⟨rfl, rfl⟩,
      items_of_eq_close item atEnd unclosed hfound rest stop⟩
  | items first others =>
    rw [Phrase.tokens, List.append_assoc] at hplaced
    have hpassed := passes_itemsFrom hcategory hcomma hclose hne unclosed first
      others hread hroom ends' placed rest stop hplaced hends
    -- The first item does not start with the closing token.
    obtain ⟨token, tokens, htokens, htoken⟩ := hfirst first
    rw [htokens] at hplaced
    obtain ⟨found, placed', rfl, hfound, -⟩ := List.map_eq_cons_iff.mp hplaced
    rw [List.cons_append] at hpassed ⊢
    rwa [items_of_ne_close item atEnd unclosed (hfound ▸ htoken)]

end

/-! ## Arguments and elements -/

theorem first_token_ne_closing
    {token close : Token} (hstarts : StartsOperand token)
    (hclose : close = .closeParen ∨ close = .closeBracket) : token ≠ close := by
  rcases hclose with rfl | rfl
  · cases hstarts with
    | atom h => cases h <;> simp
    | sign sign => cases sign <;> simp [Sign.token]
  · cases hstarts with
    | atom h => cases h <;> simp
    | sign sign => cases sign <;> simp [Sign.token]

/-- Only a name and an arrow behind it make an argument an arrow. -/
theorem argument_eq_of_not_startsArrow
    (expression : Reading Operand) (stream : TokenStream)
    (h : ¬StartsArrow (stream.tokens.map PlacedToken.token)) :
    argument expression stream =
      (do return .plain (← expression) : Reading Argument) stream := by
  obtain ⟨tokens, stop⟩ := stream
  rcases tokens with _ | ⟨⟨offset, token⟩, _ | ⟨⟨offset', token'⟩, others⟩⟩
  · rfl
  · cases token <;> rfl
  · cases token with
    | name element =>
      cases token' with
      | arrow => exact absurd trivial h
      | _ => rfl
    | _ => rfl

/-- The next token ends an expression that is an argument, and does not make
an arrow of it. -/
def EndsArgument (next : Option Token) : Prop :=
  (Level.chain .logical).Ends next ∧ next ≠ some .arrow

theorem endsArgument_of_closing
    {token : Token}
    (h : token = .comma ∨ token = .closeParen ∨ token = .closeBracket) :
    EndsArgument (some token) :=
  ⟨ends_of_closing h, by rcases h with rfl | rfl | rfl <;> simp⟩

/-- The body of an argument, and what is made of it. -/
theorem passes_body
    {room : Nat} (body : Phrase .expression) (hbody : IsPassed body)
    (hroom : body.height ≤ room) (build : Operand → Argument)
    (wrap : JsonExpr → ArgumentTree)
    (hbuild : ∀ operand, argumentTree (build operand) = wrap operand.expr ∧
      (build operand).height = operand.height) :
    Passes (do return build (← readerOf (.chain .logical) room)) body.tokens
      (fun value => body.tree?.map wrap = some (argumentTree value) ∧
        value.height = body.height)
      (body.tree?.map wrap = none) EndsArgument := by
  apply ((hbody room hroom).mono fun _ hends => hends.1).map
  · rintro operand ⟨htree, hheight⟩
    obtain ⟨hargument, hsame⟩ := hbuild operand
    rw [htree, hargument, hsame]
    exact ⟨rfl, hheight⟩
  · intro hnone
    rw [hnone]
    rfl

theorem passes_argument
    {room : Nat} (phrase : Phrase .argument)
    (hread : ∀ body : Phrase .expression,
      sizeOf body < sizeOf phrase → IsPassed body)
    (hroom : phrase.height ≤ room) :
    PassesPhrase phrase (argument (readerOf (.chain .logical) room)) argumentTree
      Argument.height EndsArgument := by
  cases phrase with
  | plain body =>
    have hbody := passes_body body (hread body (by simp)) hroom .plain .plain
      fun _ => ⟨rfl, rfl⟩
    have htree : (Phrase.plain body).tree? = body.tree?.map .plain := by
      rw [Phrase.tree?]
      cases body.tree? <;> rfl
    intro placed rest stop hplaced hends
    rw [argument_eq_of_not_startsArrow, htree]
    · exact hbody placed rest stop hplaced hends
    · rw [List.map_append, show placed.map PlacedToken.token = body.tokens from
        hplaced]
      refine body.not_startsArrow fun harrow => hends.2 ?_
      rw [← List.head?_map]
      exact harrow
  | arrow element body =>
    simp only [Phrase.arrow.sizeOf_spec] at hread
    have hbody := passes_body body (hread body (by omega)) hroom (.arrow element)
      (.arrow element) fun _ => ⟨rfl, rfl⟩
    have htree :
        (Phrase.arrow element body).tree? = body.tree?.map (.arrow element) := by
      rw [Phrase.tree?]
      cases body.tree? <;> rfl
    intro placed rest stop hplaced hends
    obtain ⟨⟨offset, token⟩, others, rfl, hfirst, hothers⟩ :=
      List.map_eq_cons_iff.mp hplaced
    obtain ⟨⟨offset', token'⟩, placed', rfl, hsecond, hplaced'⟩ :=
      List.map_eq_cons_iff.mp hothers
    cases hfirst
    cases hsecond
    rw [htree]
    exact hbody placed' rest stop hplaced' hends

theorem passes_arguments
    {room : Nat} (phrase : Phrase (.items .argument))
    (hread : ∀ body : Phrase .expression,
      sizeOf body < sizeOf phrase → IsPassed body)
    (hroom : phrase.height ≤ room) (ends : Option Token → Prop) :
    Passes (arguments (readerOf (.chain .logical) room))
      (phrase.tokens ++ [Token.closeParen])
      (fun values => phrase.tree? = some (values.map argumentTree) ∧
        greatestOf Argument.height values = phrase.height)
      (phrase.tree? = none) ends := by
  have hcategory : Category.argument.Beside := trivial
  refine passes_items hcategory (endsArgument_of_closing (Or.inl rfl))
    (endsArgument_of_closing (Or.inr (Or.inl rfl))) (by simp) ?_ .endInArguments
    .unclosedArguments phrase (fun part hpart => ?_) hroom ends
  · intro part
    cases part with
    | plain body =>
      obtain ⟨token, others, htokens, hstarts⟩ := body.exists_first_token
      exact ⟨token, others, htokens,
        first_token_ne_closing hstarts (Or.inl rfl)⟩
    | arrow element body => exact ⟨_, _, rfl, by simp⟩
  · exact passes_argument part fun body hbody =>
      hread body (Nat.lt_trans hbody hpart)

theorem passes_elements
    {room : Nat} (phrase : Phrase (.items .expression))
    (hread : ∀ element : Phrase .expression,
      sizeOf element < sizeOf phrase → IsPassed element)
    (hroom : phrase.height ≤ room) (ends : Option Token → Prop) :
    Passes (elements (readerOf (.chain .logical) room))
      (phrase.tokens ++ [Token.closeBracket])
      (fun values => phrase.tree? = some (values.map Operand.expr) ∧
        greatestOf Operand.height values = phrase.height)
      (phrase.tree? = none) ends := by
  have hcategory : Category.expression.Beside := trivial
  refine passes_items hcategory (ends_of_closing (Or.inl rfl))
    (ends_of_closing (Or.inr (Or.inr rfl))) (by simp)
    (fun element => ?_) .endInArray .unclosedArray phrase
    (fun part hpart => hread part hpart room) hroom ends
  obtain ⟨token, others, htokens, hstarts⟩ := element.exists_first_token
  exact ⟨token, others, htokens, first_token_ne_closing hstarts (Or.inr rfl)⟩

/-! ## Atoms -/

theorem passes_checked (position : Nat) (result : Except CallFault JsonExpr)
    (ends : Option Token → Prop) :
    Passes (checked position result) []
      (fun expr => result.toOption = some expr) (result.toOption = none)
      ends := by
  cases result with
  | ok expr => exact Passes.pure (by rfl) _ ends
  | error fault =>
    intro placed rest stop _ _
    exact Or.inr ⟨rfl, fault, position, _, rfl⟩

theorem isPassed_literal (value : Literal) : IsPassed (.literal value) := by
  intro room _
  refine Passes.position_bind fun start => ?_
  apply Passes.seq (Accepts.next? (.literal value))
  exact Passes.pure ⟨rfl, rfl⟩ _ _

theorem isPassed_name (text : String) : IsPassed (.name text) := by
  intro room _
  refine Passes.position_bind fun start => ?_
  apply Passes.seq (Accepts.next? (.name text))
  exact Passes.seq_nil (Accepts.accept_false .openParen)
    (Passes.pure ⟨rfl, rfl⟩ _ _) fun _ => id

/-- The call of a function or a method is read up to its closing parenthesis.
It is refused if it has no tree, or its arguments have none. -/
theorem passes_call
    {room : Nat} (phrase : Phrase (.items .argument))
    (hread : ∀ body : Phrase .expression,
      sizeOf body < sizeOf phrase → IsPassed body)
    (hroom : phrase.height ≤ room) (start : Nat)
    (call : List Argument → Except CallFault JsonExpr)
    (table : List ArgumentTree → Option JsonExpr)
    (hcall : ∀ values, (call values).toOption = table (values.map argumentTree))
    (height : Nat → Nat) (ends : Option Token → Prop) :
    Passes (do
        let arguments ← arguments (readerOf (.chain .logical) room)
        let expr ← checked start (call arguments)
        return (⟨expr, height (greatest (arguments.map Argument.height))⟩ :
          Operand))
      (phrase.tokens ++ [Token.closeParen])
      (fun result => phrase.tree?.bind table = some result.expr ∧
        result.height = height phrase.height)
      (phrase.tree?.bind table = none) ends := by
  apply (passes_arguments phrase hread hroom ends).bind_nil
  · rintro values ⟨htrees, hheight⟩
    rw [htrees, Option.bind_some, ← hcall, ← hheight]
    apply (passes_checked start (call values) ends).bind_nil _ id
    intro expr hexpr
    exact Passes.pure ⟨hexpr, rfl⟩ _ ends
  · intro hnone
    rw [hnone]
    rfl

theorem isPassed_call
    (callee : String) (phrase : Phrase (.items .argument))
    (hread : ∀ body : Phrase .expression,
      sizeOf body < sizeOf phrase → IsPassed body) :
    IsPassed (.call callee phrase) := by
  intro room hroom
  refine Passes.position_bind fun start =>
    Passes.seq (Accepts.next? (.name callee)) ?_
  exact Passes.seq (Accepts.accept .openParen)
    (passes_call phrase hread hroom start (Call.function callee)
      (functionTree? callee) (function_toOption callee) id _)

theorem isPassed_group (inner : Phrase .expression) (hinner : IsPassed inner) :
    IsPassed (.group inner) := by
  intro room hroom
  refine Passes.position_bind fun start =>
    Passes.seq (Accepts.next? .openParen) ?_
  refine (hinner room hroom).bind (fun operand hoperand => ?_)
    (fun _ _ => ends_of_closing (Or.inr (Or.inl rfl))) id
  apply Passes.seq (Accepts.next? .closeParen)
  rw [if_pos rfl]
  exact Passes.pure (by exact hoperand) _ _

theorem isPassed_array
    (phrase : Phrase (.items .expression))
    (hread : ∀ element : Phrase .expression,
      sizeOf element < sizeOf phrase → IsPassed element) :
    IsPassed (.array phrase) := by
  intro room hroom
  refine Passes.position_bind fun start =>
    Passes.seq (Accepts.next? .openBracket) ?_
  apply (passes_elements phrase hread hroom _).map
  · rintro values ⟨htrees, hheight⟩
    refine ⟨?_, hheight⟩
    rw [Phrase.tree?, htrees]
    rfl
  · intro hnone
    rw [Phrase.tree?, hnone]
    rfl

/-! ## Suffixes -/

/-- The reader takes what stands behind the first token of the suffix and
returns what becomes of the object, or it refuses the suffix. -/
def PassesSuffix (suffix : Phrase .suffix) (reader : Reading Operand)
    (tokens : List Token) (object : Operand) (ends : Option Token → Prop) :
    Prop :=
  Passes reader tokens
    (fun result => suffix.stepped? object.expr = some result.expr ∧
      result.height = suffix.heightOver object.height)
    (suffix.stepped? object.expr = none) ends

theorem passes_property (expression : Reading Operand) (object : Operand)
    (label : String) :
    PassesSuffix (.property label) (member expression object) [.name label] object
      fun next => next ≠ some .openParen := by
  refine Passes.position_bind fun start => ?_
  apply Passes.seq (Accepts.next? (.name label))
  apply Passes.seq_nil (Accepts.accept_false .openParen) _ fun _ => id
  have htree : (Phrase.property label).stepped? object.expr =
      some (propertyTree object.expr label) := rfl
  rw [propertyTree] at htree
  by_cases hlength : label = "length"
  · simp only [Bool.false_eq_true, if_false, if_pos hlength] at htree ⊢
    exact Passes.pure ⟨htree, rfl⟩ _ _
  · simp only [Bool.false_eq_true, if_false, if_neg hlength] at htree ⊢
    exact Passes.pure ⟨htree, rfl⟩ _ _

theorem passes_method
    {room : Nat} (callee : String) (phrase : Phrase (.items .argument))
    (hread : ∀ body : Phrase .expression,
      sizeOf body < sizeOf phrase → IsPassed body)
    (hroom : phrase.height ≤ room) (object : Operand)
    (ends : Option Token → Prop) :
    PassesSuffix (.method callee phrase)
      (member (readerOf (.chain .logical) room) object)
      (Token.name callee :: Token.openParen ::
        (phrase.tokens ++ [Token.closeParen]))
      object ends := by
  have hmax := phrase.heightOver_eq_max trivial object.height
  rw [PassesSuffix, Phrase.stepped?_method, Phrase.heightOver, hmax]
  refine Passes.position_bind fun start =>
    Passes.seq (Accepts.next? (.name callee)) ?_
  exact Passes.seq (Accepts.accept .openParen)
    (passes_call phrase hread hroom start (Call.method object.expr callee)
      (methodTree? object.expr callee) (method_toOption object.expr callee)
      (fun height => max object.height height + 1) ends)

theorem passes_key
    {room : Nat} (inner : Phrase .expression) (hinner : IsPassed inner)
    (hroom : inner.height ≤ room) (object : Operand)
    (ends : Option Token → Prop) :
    PassesSuffix (.key inner) (key (readerOf (.chain .logical) room) object)
      (inner.tokens ++ [Token.closeBracket]) object ends := by
  have hmax := inner.heightOver_eq_max trivial object.height
  rw [PassesSuffix, Phrase.stepped?_key, Phrase.heightOver, hmax]
  refine (hinner room hroom).bind ?_
    (fun _ _ => ends_of_closing (Or.inr (Or.inr rfl))) ?_
  · rintro operand ⟨htree, hheight⟩
    apply Passes.seq (Accepts.next? .closeBracket)
    rw [if_pos rfl, htree, ← hheight]
    exact Passes.pure ⟨rfl, rfl⟩ _ _
  · intro hnone
    rw [hnone]
    rfl

/-- The reader takes the tokens of some suffixes and returns what becomes of
the object, or it refuses one of them. -/
def PassesSuffixes (phrase : Phrase (.many .suffix)) (reader : Reading Operand)
    (object : Operand) : Prop :=
  Passes reader phrase.tokens
    (fun result => phrase.suffixed? object.expr = some result.expr ∧
      result.height = phrase.heightOver object.height)
    (phrase.suffixed? object.expr = none) EndsOperand

/-- What is read behind the first token of a suffix is checked, and the loop
goes on from there with the other suffixes. -/
theorem PassesSuffix.bind_suffixes
    {room : Nat} {suffix : Phrase .suffix} {others : Phrase (.many .suffix)}
    {reader : Reading Operand} {loop : Operand → Reading Operand}
    {tokens : List Token} {object : Operand}
    (hreader : PassesSuffix suffix reader tokens object
      fun next => next ≠ some .openParen)
    (hroom : suffix.heightOver object.height ≤ room)
    (hloop : ∀ middle : Operand,
      middle.height = suffix.heightOver object.height →
        PassesSuffixes others (loop middle) middle) :
    Passes (do
        let next ← reader
        loop (← within room next))
      (tokens ++ others.tokens)
      (fun result =>
        (suffix.stepped? object.expr).bind others.suffixed? =
            some result.expr ∧
          result.height = others.heightOver (suffix.heightOver object.height))
      ((suffix.stepped? object.expr).bind others.suffixed? = none)
      EndsOperand := by
  refine hreader.bind ?_
    (fun _ hends => following_suffixes_ne_openParen others hends.1) ?_
  · rintro middle ⟨htree, hheight⟩
    have hothers := hloop middle hheight
    rw [htree, ← hheight]
    exact Passes.seq (accepts_within (by omega)) hothers
  · intro hnone
    rw [hnone]
    rfl

/-- The turns of the loop last as long as there are tokens of the suffixes. -/
theorem passes_suffixes
    {room : Nat} (turns : List PlacedToken) (phrase : Phrase (.many .suffix))
    (hread : ∀ body : Phrase .expression,
      sizeOf body < sizeOf phrase → IsPassed body)
    (object : Operand) (hturns : phrase.tokens.length ≤ turns.length)
    (hroom : phrase.heightOver object.height ≤ room) :
    PassesSuffixes phrase
      (suffixes (readerOf (.chain .logical) room) room turns object) object := by
  induction turns generalizing phrase object with
  | nil =>
    cases phrase with
    | nil => exact Passes.pure ⟨rfl, rfl⟩ _ _
    | cons first others => cases first <;> simp [Phrase.tokens] at hturns
  | cons turn turns ih =>
    cases phrase with
    | nil =>
      exact Passes.seq_nil (Accepts.accept_false .dot)
        (Passes.seq_nil (Accepts.accept_false .openBracket)
          (Passes.pure ⟨rfl, rfl⟩ _ _) fun _ hends => hends.2.2)
        fun _ hends => hends.2.1
    | cons first others =>
      unfold PassesSuffixes
      simp only [Phrase.heightOver, Phrase.cons.sizeOf_spec, Phrase.tokens,
        Phrase.suffixed?_cons, List.length_append] at hread hturns hroom ⊢
      have hle := others.le_heightOver (first.heightOver object.height)
      have hfirst : first.heightOver object.height ≤ room :=
        Nat.le_trans hle hroom
      have hnext (hlength : others.tokens.length ≤ turns.length)
          (middle : Operand)
          (hheight : middle.height = first.heightOver object.height) :=
        ih others (fun body hbody => hread body (by omega)) middle hlength
          (by rw [hheight]; exact hroom)
      cases first with
      | property label =>
        simp only [Phrase.tokens, List.length_cons, List.length_nil] at hturns
        change Passes _
          ([Token.dot] ++ ([Token.name label] ++ others.tokens)) _ _ _
        exact Passes.seq (Accepts.accept .dot)
          ((passes_property _ object label).bind_suffixes hfirst
            (hnext (by omega)))
      | method callee arguments =>
        have hmax := arguments.heightOver_eq_max trivial object.height
        have hheight : arguments.heightOver object.height + 1 ≤ room := hfirst
        simp only [Phrase.tokens, Phrase.method.sizeOf_spec, List.length_cons,
          List.length_append] at hturns hread
        change Passes _ ([Token.dot] ++
          (Token.name callee :: Token.openParen :: _ ++ others.tokens)) _ _ _
        refine Passes.seq (Accepts.accept .dot)
          (PassesSuffix.bind_suffixes ?_ hfirst (hnext (by omega)))
        exact passes_method callee arguments
          (fun body hbody => hread body (by omega)) (by omega) object _
      | key inner =>
        have hmax := inner.heightOver_eq_max trivial object.height
        have hheight : inner.heightOver object.height + 1 ≤ room := hfirst
        simp only [Phrase.tokens, Phrase.key.sizeOf_spec, List.length_cons,
          List.length_append] at hturns hread
        change Passes _ ([Token.openBracket] ++ (_ ++ others.tokens)) _ _ _
        refine Passes.seq_nil (Accepts.accept_false .dot) ?_ fun _ _ => by simp
        refine Passes.seq (Accepts.accept .openBracket)
          (PassesSuffix.bind_suffixes ?_ hfirst (hnext (by omega)))
        exact passes_key inner (hread inner (by omega)) (by omega) object _

/-! ## Operands -/

theorem isPassed_accessor
    (first : Phrase (.value .atom)) (phrase : Phrase (.many .suffix))
    (hfirst : IsPassed first)
    (hread : ∀ body : Phrase .expression,
      sizeOf body < sizeOf phrase → IsPassed body) :
    IsPassed (.accessor first phrase) := by
  intro room hroom
  have hheight : (Phrase.accessor first phrase).height =
      phrase.heightOver first.height + 1 :=
    Nat.zero_max _
  have htree : (Phrase.accessor first phrase).tree? =
      first.tree?.bind phrase.suffixed? := by
    rw [Phrase.tree?]
    rfl
  rw [hheight] at hroom
  have hle := phrase.le_heightOver first.height
  obtain ⟨room, rfl⟩ : ∃ inner, room = inner + 1 := ⟨room - 1, by omega⟩
  have haccessor : Passes (accessor (readerOf (.chain .logical) room) room)
      (first.tokens ++ phrase.tokens)
      (fun result => first.tree?.bind phrase.suffixed? = some result.expr ∧
        result.height = phrase.heightOver first.height)
      (first.tree?.bind phrase.suffixed? = none) EndsOperand := by
    refine (hfirst room (by omega)).bind ?_
      (fun _ hends => following_suffixes_ne_openParen phrase hends.1) ?_
    · rintro object ⟨hobject, hsame⟩
      rw [hobject, ← hsame]
      refine Passes.get_bind fun stream hstream => ?_
      exact passes_suffixes stream.tokens phrase hread object hstream
        (by rw [hsame]; omega)
    · intro hnone
      rw [hnone]
      rfl
  -- An atom does not start with a sign, so no prefix operator is taken.
  obtain ⟨token, others, htokens, hstarts⟩ := first.exists_first_token
  have hprefix : token.prefixOp? = none := by
    cases hstarts <;> rfl
  rw [PassesPhrase, hheight, htree]
  refine Passes.seq_nil (Accepts.acceptSome_none Token.prefixOp?) ?_ ?_
  · apply haccessor.map _ _ id
    rintro operand ⟨hexpr, hsame⟩
    exact ⟨hexpr, congrArg (· + 1) hsame⟩
  · intro next _
    rw [Phrase.tokens, htokens]
    exact hprefix

theorem isPassed_signed (sign : Sign) (operand : Phrase (.value .negated))
    (hoperand : IsPassed operand) :
    IsPassed (.signed sign operand) := by
  intro room hroom
  have hheight : (Phrase.signed sign operand).height = operand.height + 1 :=
    Nat.zero_max _
  rw [hheight] at hroom
  obtain ⟨room, rfl⟩ : ∃ below, room = below + 1 := ⟨room - 1, by omega⟩
  have hprefix : sign.token.prefixOp? = some sign.op := by
    cases sign <;> rfl
  refine Passes.seq (Accepts.acceptSome hprefix) ?_
  apply (hoperand room (by omega)).map
  · rintro inner ⟨htree, hsame⟩
    refine ⟨?_, ?_⟩
    · rw [Phrase.tree?, htree]
      rfl
    · rw [hheight, hsame]
  · intro hnone
    rw [Phrase.tree?, hnone]
    rfl

/-! ## Expressions -/

/-- Every phrase is read or refused, by induction on its size. -/
theorem isPassed {level : Level} (phrase : Phrase (.value level)) :
    IsPassed phrase := by
  generalize hsize : sizeOf phrase = size
  induction size using Nat.strongRecOn generalizing level with
  | ind size ih =>
    have hsmaller {level : Level} (part : Phrase (.value level))
        (hpart : sizeOf part < sizeOf phrase) : IsPassed part :=
          ih _ (hsize ▸ hpart) part rfl
    clear ih hsize
    cases phrase with
    | chain first links =>
      simp only [Phrase.chain.sizeOf_spec] at hsmaller
      exact isPassed_chain first links (hsmaller first (by omega))
        fun operand hoperand => hsmaller operand (by omega)
    | signed sign operand =>
      simp only [Phrase.signed.sizeOf_spec] at hsmaller
      exact isPassed_signed sign operand (hsmaller operand (by omega))
    | accessor first suffixes =>
      simp only [Phrase.accessor.sizeOf_spec] at hsmaller
      exact isPassed_accessor first suffixes (hsmaller first (by omega))
        fun body hbody => hsmaller body (by omega)
    | literal value => exact isPassed_literal value
    | name text => exact isPassed_name text
    | call callee arguments =>
      simp only [Phrase.call.sizeOf_spec] at hsmaller
      exact isPassed_call callee arguments fun body hbody =>
        hsmaller body (by omega)
    | group inner =>
      simp only [Phrase.group.sizeOf_spec] at hsmaller
      exact isPassed_group inner (hsmaller inner (by omega))
    | array elements =>
      simp only [Phrase.array.sizeOf_spec] at hsmaller
      exact isPassed_array elements fun element helement =>
        hsmaller element (by omega)

/-- The tokens of a phrase that fits in the room are read as its tree.  If it
has none, it is refused because of a call. -/
theorem complete_of_tokens_eq
    {room : Nat} {stream : TokenStream} (phrase : Phrase .expression)
    (htokens : phrase.tokens = stream.tokens.map PlacedToken.token)
    (hroom : phrase.height ≤ room) :
    (∃ expr, phrase.tree? = some expr ∧
      complete room stream = .ok expr ⟨[], stream.stop⟩) ∨
    (phrase.tree? = none ∧ ∃ fault position rest,
      complete room stream = .error ⟨.call fault, position⟩ rest) := by
  obtain ⟨placed, stop⟩ := stream
  have hpassed := isPassed phrase room hroom placed [] stop htokens.symm ends_none
  rw [List.append_nil] at hpassed
  rcases hpassed with
    ⟨operand, ⟨htree, -⟩, hread⟩ | ⟨hnone, fault, position, rest, herror⟩
  · left
    refine ⟨operand.expr, htree, ?_⟩
    have hexpression : expression room ⟨placed, stop⟩ =
        .ok operand.expr ⟨[], stop⟩ :=
      bind_of_eq_ok hread
    exact bind_of_eq_ok hexpression
  · right
    refine ⟨hnone, fault, position, rest, ?_⟩
    have hexpression : expression room ⟨placed, stop⟩ =
        .error ⟨.call fault, position⟩ rest :=
      bind_of_eq_error herror
    exact bind_of_eq_error hexpression

end DocFilter.Reading
