import DocFilter.Proofs.Grammar.Phrase
import DocFilter.Proofs.Reading.Taking
import Mathlib.Tactic.SplitIfs

/-!
# What is read is derived by the grammar

Every reader that succeeds has taken the tokens of a phrase, and returns the
tree and the height of this phrase.  There is one statement for each rule of
the grammar.  The readers of lists and chains return more than one value or
start from a given one, so their statements say how the phrase adds to it.
-/

namespace DocFilter.Reading

open Grammar

/-! ## Heights -/

theorem foldl_max_eq (heights : List Nat) (height : Nat) :
    heights.foldl max height = max height (greatest heights) := by
  unfold greatest
  induction heights generalizing height with
  | nil => simp
  | cons first others ih =>
    rw [List.foldl_cons, List.foldl_cons, ih, ih (max 0 first)]
    omega

@[simp] theorem greatest_cons (height : Nat) (others : List Nat) :
    greatest (height :: others) = max height (greatest others) := by
  rw [greatest, List.foldl_cons, foldl_max_eq]
  omega

/-! ## Values that phrases stand for -/

variable {α : Type} {room : Nat}

/-- The tokens form a phrase with the tree and the height of the value, and
the height fits in the room. -/
def Represents
    (category : Category) (tree : α → category.Tree) (height : α → Nat)
    (room : Nat)
    (tokens : List Token) (value : α) : Prop :=
  height value ≤ room ∧
    ∃ phrase : Phrase category,
      phrase.tokens = tokens ∧ phrase.tree? = some (tree value) ∧
      ∀ below, phrase.heightOver below = max below (height value)

/-- The tokens form a phrase of a level for an operand. -/
abbrev IsOperand (level : Level) (room : Nat) : List Token → Operand → Prop :=
  Represents (.value level) Operand.expr Operand.height room

/-- The tree of an argument that has been read. -/
def argumentTree : Argument → ArgumentTree
  | .plain body => .plain body.expr
  | .arrow element body => .arrow element body.expr

/-- The tokens form an argument of a call. -/
abbrev IsArgument (room : Nat) : List Token → Argument → Prop :=
  Represents .argument argumentTree Argument.height room

/-- The greatest height of some values. -/
def greatestOf (height : α → Nat) (values : List α) : Nat :=
  greatest (values.map height)

/-! ## Lists of items -/

section

variable {category : Category} {tree : α → category.Tree} {height : α → Nat}

theorem represents_nil :
    Represents (.many (.next category)) (List.map tree) (greatestOf height) room
      [] [] :=
  ⟨Nat.zero_le room, .nil, rfl, rfl, fun below => (Nat.max_zero below).symm⟩

theorem represents_cons
    {tokens others : List Token} {value : α} {values : List α}
    (hvalue : Represents category tree height room tokens value)
    (hvalues : Represents (.many (.next category)) (List.map tree)
      (greatestOf height) room
      others values) :
    Represents (.many (.next category)) (List.map tree) (greatestOf height) room
      (.comma :: tokens ++ others) (value :: values) := by
  obtain ⟨hroom, phrase, hphrase, htree, hheight⟩ := hvalue
  obtain ⟨hroom', phrase', hphrase', htree', hheight'⟩ := hvalues
  refine ⟨?_, .cons (.next phrase) phrase', ?_, ?_, ?_⟩
  · simp only [greatestOf, List.map_cons, greatest_cons] at hroom' ⊢
    omega
  · rw [Phrase.tokens, Phrase.tokens, hphrase, hphrase']
  · rw [Phrase.tree?, Phrase.tree?, htree, htree']
    rfl
  · intro below
    rw [Phrase.heightOver, Phrase.heightOver, hheight, hheight']
    simp only [greatestOf, List.map_cons, greatest_cons]
    omega

theorem represents_items
    {tokens others : List Token} {value : α} {values : List α}
    (hvalue : Represents category tree height room tokens value)
    (hvalues : Represents (.many (.next category)) (List.map tree)
      (greatestOf height) room
      others values) :
    Represents (.items category) (List.map tree) (greatestOf height) room
      (tokens ++ others) (value :: values) := by
  obtain ⟨hroom, phrase, hphrase, htree, hheight⟩ := hvalue
  obtain ⟨hroom', phrase', hphrase', htree', hheight'⟩ := hvalues
  refine ⟨?_, .items phrase phrase', ?_, ?_, ?_⟩
  · simp only [greatestOf, List.map_cons, greatest_cons] at hroom' ⊢
    omega
  · rw [Phrase.tokens, hphrase, hphrase']
  · rw [Phrase.tree?, htree, htree']
    rfl
  · intro below
    rw [Phrase.heightOver, hheight, hheight']
    simp only [greatestOf, List.map_cons, greatest_cons]
    omega

theorem takes_itemsAfter
    {item : Reading α}
    (hitem : Takes item (Represents category tree height room)) (close : Token)
    (unclosed : SyntaxFault) (turns : List PlacedToken) (before : List α) :
    Takes (itemsAfter item close unclosed turns before) fun tokens values =>
      ∃ taken later, values = before.reverse ++ later ∧
        tokens = taken ++ [close] ∧
        Represents (.many (.next category)) (List.map tree)
          (greatestOf height) room
          taken later := by
  induction turns generalizing before with
  | nil => exact Takes.fail unclosed
  | cons turn turns ih =>
    apply Takes.position.bind
    intro position _ hposition
    apply Takes.next?.bind
    intro found _ hfound
    subst hposition hfound
    cases found with
    | none => exact Takes.failAt unclosed position
    | some token =>
      dsimp only
      by_cases hcomma : token = .comma
      · rw [if_pos hcomma]
        refine hitem.bind fun value tokens hvalue =>
          (ih (value :: before)).mono ?_
        rintro after values ⟨taken, later, hvalues, hafter, hlater⟩
        refine ⟨.comma :: tokens ++ taken, value :: later, ?_, ?_,
          represents_cons hvalue hlater⟩
        · rw [hvalues, List.reverse_cons, List.append_assoc]
          rfl
        · simp [hafter, hcomma]
      · rw [if_neg hcomma]
        by_cases hclose : token = close
        · rw [if_pos hclose]
          refine Takes.pure ⟨[], [], ?_, ?_, represents_nil⟩
          · rw [List.append_nil]
          · simp [hclose]
        · rw [if_neg hclose]
          exact Takes.failAt unclosed position

/-- A list that starts with the closing token is empty. -/
theorem items_of_eq_close
    (item : Reading α) {close : Token} (atEnd unclosed : SyntaxFault)
    {found : PlacedToken} (hfound : found.token = close)
    (others : List PlacedToken) (stop : Nat) :
    items item close atEnd unclosed ⟨found :: others, stop⟩ =
      .ok [] ⟨others, stop⟩ := by
  change (if found.token = close then
    (do modify TokenStream.tail; return [] : Reading (List α)) else _) _ = _
  rw [if_pos hfound]
  rfl

/-- A list that starts with another token has items. -/
theorem items_of_ne_close
    (item : Reading α) {close : Token} (atEnd unclosed : SyntaxFault)
    {found : PlacedToken} (hfound : found.token ≠ close)
    (others : List PlacedToken) (stop : Nat) :
    items item close atEnd unclosed ⟨found :: others, stop⟩ =
      (do
        let first ← item
        itemsAfter item close unclosed (← get).tokens [first])
      ⟨found :: others, stop⟩ := by
  change (if found.token = close then
    (do modify TokenStream.tail; return [] : Reading (List α)) else _) _ = _
  rw [if_neg hfound]

/-- Behind the opening token stand items with commas between them, and then
the closing token. -/
theorem takes_items
    {item : Reading α}
    (hitem : Takes item (Represents category tree height room)) (close : Token)
    (atEnd unclosed : SyntaxFault) :
    Takes (items item close atEnd unclosed) fun tokens values =>
      ∃ taken, tokens = taken ++ [close] ∧
        Represents (.items category) (List.map tree)
          (greatestOf height) room taken values := by
  have hitems : Takes
      (do
        let first ← item
        itemsAfter item close unclosed (← get).tokens [first])
      fun tokens values => ∃ taken, tokens = taken ++ [close] ∧
        Represents (.items category) (List.map tree)
          (greatestOf height) room taken values := by
    apply hitem.bind
    intro first tokens hfirst
    apply Takes.get.bind
    intro stream _ hget
    subst hget
    refine (takes_itemsAfter hitem close unclosed stream.tokens [first]).mono ?_
    rintro after values ⟨taken, later, hvalues, hafter, hlater⟩
    subst hvalues
    exact ⟨tokens ++ taken, by simp [hafter], represents_items hfirst hlater⟩
  intro stream values rest hok
  obtain ⟨tokens, stop⟩ := stream
  cases tokens with
  | nil => cases hok
  | cons placed others =>
    by_cases hclose : placed.token = close
    · rw [items_of_eq_close item atEnd unclosed hclose] at hok
      cases hok
      refine ⟨[placed], rfl, [], by simp [hclose], Nat.zero_le room, .noItems,
        rfl, rfl, ?_⟩
      exact fun below => (Nat.max_zero below).symm
    · rw [items_of_ne_close item atEnd unclosed hclose] at hok
      exact hitems _ values rest hok

end

/-! ## Calls -/

/-- The call of a function is the one that the table gives. -/
theorem function_toOption (name : String) (arguments : List Argument) :
    (Call.function name arguments).toOption =
      functionTree? name (arguments.map argumentTree) := by
  unfold Call.function PatternStyle.name
  rcases arguments with _ | ⟨subject, _ | ⟨pattern, _ | ⟨third, others⟩⟩⟩
  · split_ifs <;> rfl
  · cases subject <;> (split_ifs <;> rfl)
  · cases subject <;> cases pattern <;>
      simp only [List.map_cons, List.map_nil, argumentTree,
        functionTree?] <;> split_ifs <;> rfl
  · cases subject <;> cases pattern <;> (split_ifs <;> rfl)

/-- The call of a method is the one that the table gives. -/
theorem method_toOption (object : JsonExpr) (name : String)
    (arguments : List Argument) :
    (Call.method object name arguments).toOption =
      methodTree? object name (arguments.map argumentTree) := by
  unfold Call.method Quantifier.name
  rcases arguments with _ | ⟨argument, _ | ⟨second, others⟩⟩
  · simp only [List.map_nil, methodTree?]
    split_ifs <;> rfl
  · cases argument with
    | plain needle =>
      by_cases hname : name = "includes"
      · subst hname
        rfl
      · simp only [List.map_cons, List.map_nil, argumentTree, methodTree?,
          if_neg hname]
        split_ifs <;> rfl
    | arrow element body =>
      simp only [List.map_cons, List.map_nil, argumentTree, methodTree?]
      by_cases hany : name = "some"
      · subst hany
        rfl
      · by_cases hall : name = "every"
        · subst hall
          rfl
        · simp only [if_neg hany, if_neg hall]
          split_ifs <;> rfl
  · cases argument <;> (split_ifs <;> rfl)

theorem takes_checked (position : Nat) (result : Except CallFault JsonExpr) :
    Takes (checked position result) fun tokens expr =>
      tokens = [] ∧ result.toOption = some expr := by
  cases result with
  | ok expr => exact Takes.pure ⟨rfl, rfl⟩
  | error fault => exact Takes.failAt (.call fault) position

/-! ## Chains -/

theorem operator?_eq_some
    {tier : Tier} {token : Token} {op : BinaryOp}
    (h : token.operator? tier = some op) :
    token = .operator op ∧ op.tier = tier := by
  cases token with
  | operator found =>
    simp only [Token.operator?, Option.ite_none_right_eq_some,
      Option.some.injEq] at h
    obtain ⟨htier, hfound⟩ := h
    exact ⟨congrArg Token.operator hfound, hfound ▸ htier⟩
  | _ => cases h

theorem takes_within (operand : Operand) :
    Takes (within room operand) fun tokens result =>
      tokens = [] ∧ result = operand ∧ operand.height ≤ room := by
  by_cases hroom : operand.height ≤ room
  · rw [within, if_pos hroom]
    exact Takes.pure ⟨rfl, rfl, hroom⟩
  · rw [within, if_neg hroom]
    exact Takes.fail .tooDeep

theorem takes_chainAfter
    {tier : Tier} {operand : Reading Operand}
    (hoperand : Takes operand (IsOperand (.operand tier) room))
    (turns : List PlacedToken) (left : Operand) (hleft : left.height ≤ room) :
    Takes (chainAfter tier operand room turns left) fun tokens result =>
      result.height ≤ room ∧
        ∃ (links : Phrase (.many (.link tier))) (trees : _),
        links.tokens = tokens ∧ links.tree? = some trees ∧
        result.expr = trees.foldl binaryTree left.expr ∧
        result.height = links.heightOver left.height := by
  induction turns generalizing left with
  | nil => exact Takes.pure ⟨hleft, .nil, [], rfl, rfl, rfl, rfl⟩
  | cons turn turns ih =>
    apply (Takes.acceptSome (Token.operator? tier)).bind
    intro found before hfound
    cases found with
    | none =>
      refine Takes.pure ⟨hleft, .nil, [], ?_, rfl, rfl, rfl⟩
      rw [List.append_nil]
      exact hfound.symm
    | some op =>
      obtain ⟨token, hbefore, hop⟩ := hfound
      obtain ⟨htoken, htier⟩ := operator?_eq_some hop
      apply hoperand.bind
      intro right tokens hright
      apply (takes_within (joined op left right)).bind
      intro next _ hnext
      obtain ⟨hnil, hnext, hroom⟩ := hnext
      subst hnil hnext
      refine (ih (joined op left right) hroom).mono ?_
      rintro after result ⟨hresult, links, trees, hlinks, htrees, hexpr,
        hheight⟩
      obtain ⟨-, phrase, hphrase, htree, hphraseHeight⟩ := hright
      refine ⟨hresult, .cons (.link op htier phrase) links,
        (op, right.expr) :: trees, ?_, ?_,
        hexpr, ?_⟩
      · rw [Phrase.tokens, Phrase.tokens, hphrase, hlinks, hbefore, htoken]
        rfl
      · rw [Phrase.tree?, Phrase.tree?, htree, htrees]
        rfl
      · rw [Phrase.heightOver, Phrase.heightOver, hphraseHeight]
        exact hheight

/-- Operands with operators of a tier between them form a chain of this
tier. -/
theorem takes_chain
    {tier : Tier} {operand : Reading Operand}
    (hoperand : Takes operand (IsOperand (.operand tier) room)) :
    Takes (chain tier operand room) (IsOperand (.chain tier) room) := by
  apply hoperand.bind
  intro first tokens hfirst
  apply Takes.get.bind
  intro stream _ hget
  subst hget
  obtain ⟨hroom, phrase, hphrase, htree, hheight⟩ := hfirst
  refine (takes_chainAfter hoperand stream.tokens first hroom).mono ?_
  rintro after result ⟨hresult, links, trees, hlinks, htrees, hexpr,
    hresultHeight⟩
  refine ⟨hresult, .chain phrase links, ?_, ?_, ?_⟩
  · rw [Phrase.tokens, hphrase, hlinks]
    rfl
  · rw [Phrase.tree?, htree, htrees, hexpr]
    rfl
  · intro below
    rw [Phrase.heightOver, hheight, Nat.zero_max, hresultHeight]

/-- What is read with a reader for the operands of comparisons is an
expression. -/
theorem takes_expressionOf
    {negated : Reading Operand}
    (hnegated : Takes negated (IsOperand .negated room)) :
    Takes (expressionOf negated room) (IsOperand (.chain .logical) room) := by
  have hcomparison : Takes (chain .comparison negated room)
      (IsOperand (.chain .comparison) room) :=
    takes_chain hnegated
  exact takes_chain hcomparison

/-! ## Arguments and atoms -/

section

variable {expression : Reading Operand}

theorem takes_argument
    (hexpression : Takes expression (IsOperand (.chain .logical) room)) :
    Takes (argument expression) (IsArgument room) := by
  have hplain : Takes (do return .plain (← expression)) (IsArgument room) := by
    refine hexpression.bind fun body tokens hbody => Takes.pure ?_
    obtain ⟨hroom, phrase, hphrase, htree, hheight⟩ := hbody
    refine ⟨hroom, .plain phrase, ?_, ?_, hheight⟩
    · rw [List.append_nil]
      exact hphrase
    · rw [Phrase.tree?, htree]
      rfl
  intro stream value rest hok
  obtain ⟨tokens, stop⟩ := stream
  rcases tokens with _ | ⟨⟨offset, token⟩, _ | ⟨⟨offset', token'⟩, others⟩⟩
  · exact hplain _ value rest hok
  · cases token <;> exact hplain _ value rest hok
  · cases token with
    | name element =>
      cases token' with
      | arrow =>
        change (do return .arrow element (← expression) : Reading Argument)
          ⟨others, stop⟩ = _ at hok
        obtain ⟨body, rest', hbody, hvalue⟩ := bind_eq_ok_iff.mp hok
        cases hvalue
        obtain ⟨taken, hstream, hroom, phrase, hphrase, htree, hheight⟩ :=
          hexpression _ body rest hbody
        cases hstream
        refine ⟨⟨offset, .name element⟩ :: ⟨offset', .arrow⟩ :: taken,
          rfl, hroom, .arrow element phrase, ?_, ?_, hheight⟩
        · rw [Phrase.tokens, hphrase]
          rfl
        · rw [Phrase.tree?, htree]
          rfl
      | _ => exact hplain _ value rest hok
    | _ => exact hplain _ value rest hok

theorem takes_arguments
    (hexpression : Takes expression (IsOperand (.chain .logical) room)) :
    Takes (arguments expression) fun tokens values =>
      ∃ taken, tokens = taken ++ [Token.closeParen] ∧
        Represents (.items .argument) (List.map argumentTree)
          (greatestOf Argument.height) room taken values :=
  takes_items (takes_argument hexpression) .closeParen .endInArguments
    .unclosedArguments

theorem takes_elements
    (hexpression : Takes expression (IsOperand (.chain .logical) room)) :
    Takes (elements expression) fun tokens values =>
      ∃ taken, tokens = taken ++ [Token.closeBracket] ∧
        Represents (.items .expression) (List.map Operand.expr)
          (greatestOf Operand.height) room
          taken values :=
  takes_items hexpression .closeBracket .endInArray .unclosedArray

/-- A token of its own for an operand of height zero. -/
theorem isOperand_of_atom
    {token : Token} {expr : JsonExpr} (phrase : Phrase (.value .atom))
    (htokens : phrase.tokens = [token]) (htree : phrase.tree? = some expr)
    (hheight : ∀ below, phrase.heightOver below = below) :
    IsOperand .atom room [token] ⟨expr, 0⟩ :=
  ⟨Nat.zero_le room, phrase, htokens, htree, fun below =>
    (hheight below).trans (by simp)⟩

theorem takes_atom (hexpression : Takes expression
    (IsOperand (.chain .logical) room)) :
    Takes (atom expression) (IsOperand .atom room) := by
  apply Takes.position.bind
  intro start _ hstart
  apply Takes.next?.bind
  intro found _ hfound
  subst hstart hfound
  cases found with
  | none => exact Takes.fail .endOfExpression
  | some token =>
    cases token with
    | literal value =>
      exact Takes.pure (isOperand_of_atom (.literal value) rfl rfl fun _ => rfl)
    | name text =>
      apply (Takes.accept .openParen).bind
      intro called _ hcalled
      subst hcalled
      cases called with
      | false =>
        exact Takes.pure (isOperand_of_atom (.name text) rfl rfl fun _ => rfl)
      | true =>
        apply (takes_arguments hexpression).bind
        intro values tokens hvalues
        apply (takes_checked start (Call.function text values)).bind
        intro expr _ hexpr
        obtain ⟨hnil, hexpr⟩ := hexpr
        obtain ⟨taken, htokens, hroom, phrase, hphrase, htree, hheight⟩ :=
          hvalues
        subst hnil
        refine Takes.pure ⟨hroom, .call text phrase, ?_, ?_, hheight⟩
        · simp [Phrase.tokens, hphrase, htokens]
        · rw [Phrase.tree?, htree]
          exact (function_toOption text values).symm.trans hexpr
    | openParen =>
      apply hexpression.bind
      intro inner tokens hinner
      apply Takes.next?.bind
      intro close _ hclose
      subst hclose
      by_cases hclosed : close = some .closeParen
      · rw [if_pos hclosed]
        obtain ⟨hroom, phrase, hphrase, htree, hheight⟩ := hinner
        refine Takes.pure ⟨hroom, .group phrase, ?_, htree, hheight⟩
        simp [Phrase.tokens, hphrase, hclosed]
      · rw [if_neg hclosed]
        exact Takes.failAt .unclosedGroup start
    | openBracket =>
      refine (takes_elements hexpression).bind fun values tokens hvalues =>
        Takes.pure ?_
      obtain ⟨taken, htokens, hroom, phrase, hphrase, htree, hheight⟩ := hvalues
      refine ⟨hroom, .array phrase, ?_, ?_, hheight⟩
      · simp [Phrase.tokens, hphrase, htokens]
      · rw [Phrase.tree?, htree]
        rfl
    | _ => exact Takes.failAt _ start

/-! ## Suffixes -/

/-- The tokens form a suffix that leads from one operand to another. -/
def IsSuffix (object result : Operand) (tokens : List Token) : Prop :=
  ∃ (suffix : Phrase .suffix) (step : JsonExpr → Option JsonExpr),
    suffix.tokens = tokens ∧ suffix.tree? = some step ∧
      step object.expr = some result.expr ∧
      result.height = suffix.heightOver object.height

/-- The tokens form suffixes that lead from one operand to another, one after
the other. -/
def AreSuffixes (object result : Operand) (tokens : List Token) : Prop :=
  ∃ (suffixes : Phrase (.many .suffix))
    (steps : List (JsonExpr → Option JsonExpr)),
    suffixes.tokens = tokens ∧ suffixes.tree? = some steps ∧
      steps.foldlM (fun object step => step object) object.expr =
        some result.expr ∧
      result.height = suffixes.heightOver object.height

theorem areSuffixes_nil (object : Operand) : AreSuffixes object object [] :=
  ⟨.nil, [], rfl, rfl, rfl, rfl⟩

theorem areSuffixes_cons
    {object middle result : Operand} {tokens others : List Token}
    (hfirst : IsSuffix object middle tokens)
    (hothers : AreSuffixes middle result others) :
    AreSuffixes object result (tokens ++ others) := by
  obtain ⟨suffix, step, htokens, htree, hstep, hheight⟩ := hfirst
  obtain ⟨suffixes, steps, htokens', htree', hsteps, hheight'⟩ := hothers
  refine ⟨.cons suffix suffixes, step :: steps, ?_, ?_, ?_, ?_⟩
  · rw [Phrase.tokens, htokens, htokens']
  · rw [Phrase.tree?, htree, htree']
    rfl
  · rw [List.foldlM_cons, hstep]
    exact hsteps
  · rw [Phrase.heightOver, ← hheight, hheight']

theorem takes_member
    (hexpression : Takes expression (IsOperand (.chain .logical) room))
    (object : Operand) :
    Takes (member expression object) fun tokens result =>
      IsSuffix object result (.dot :: tokens) := by
  apply Takes.position.bind
  intro start _ hstart
  apply Takes.next?.bind
  intro found _ hfound
  subst hstart hfound
  cases found with
  | none => exact Takes.failAt .missingName start
  | some token =>
    cases token with
    | name text =>
      apply (Takes.accept .openParen).bind
      intro called _ hcalled
      subst hcalled
      cases called with
      | true =>
        apply (takes_arguments hexpression).bind
        intro values tokens hvalues
        apply (takes_checked start (Call.method object.expr text values)).bind
        intro expr _ hexpr
        obtain ⟨hnil, hexpr⟩ := hexpr
        obtain ⟨taken, htokens, -, phrase, hphrase, htree, hheight⟩ := hvalues
        subst hnil
        refine Takes.pure ⟨.method text phrase,
          fun object => methodTree? object text (values.map argumentTree), ?_,
            ?_, ?_, ?_⟩
        · simp [Phrase.tokens, hphrase, htokens]
        · rw [Phrase.tree?, htree]
          rfl
        · exact (method_toOption object.expr text values).symm.trans hexpr
        · rw [Phrase.heightOver, hheight]
          rfl
      | false =>
        by_cases hlength : text = "length"
        · simp only [Bool.false_eq_true, if_false, if_pos hlength]
          refine Takes.pure ⟨.property text, _, rfl, rfl, ?_, rfl⟩
          simp only [propertyTree, if_pos hlength]
          rfl
        · simp only [Bool.false_eq_true, if_false, if_neg hlength]
          refine Takes.pure ⟨.property text, _, rfl, rfl, ?_, rfl⟩
          simp only [propertyTree, if_neg hlength]
          rfl
    | _ => exact Takes.failAt .missingName start

theorem takes_key
    (hexpression : Takes expression (IsOperand (.chain .logical) room))
    (object : Operand) :
    Takes (key expression object) fun tokens result =>
      IsSuffix object result (.openBracket :: tokens) := by
  apply hexpression.bind
  intro inner tokens hinner
  apply Takes.next?.bind
  intro close _ hclose
  subst hclose
  by_cases hclosed : close = some .closeBracket
  · rw [if_pos hclosed]
    obtain ⟨-, phrase, hphrase, htree, hheight⟩ := hinner
    refine Takes.pure ⟨.key phrase, fun object =>
      some (.item object inner.expr.asScalar),
      ?_, ?_, rfl, ?_⟩
    · simp [Phrase.tokens, hphrase, hclosed]
    · rw [Phrase.tree?, htree]
      rfl
    · rw [Phrase.heightOver, hheight]
  · rw [if_neg hclosed]
    exact Takes.fail .missingBracket

theorem takes_suffixes
    (hexpression : Takes expression (IsOperand (.chain .logical) room))
    (turns : List PlacedToken) (object : Operand)
    (hobject : object.height ≤ room) :
    Takes (suffixes expression room turns object) fun tokens result =>
      result.height ≤ room ∧ AreSuffixes object result tokens := by
  induction turns generalizing object with
  | nil => exact Takes.pure ⟨hobject, areSuffixes_nil object⟩
  | cons turn turns ih =>
    have hnext {reader : Reading Operand} {token : Token}
        (hreader : Takes reader fun tokens result =>
          IsSuffix object result (token :: tokens)) :
        Takes (do
          let next ← reader
          suffixes expression room turns
            (← within room next)) fun tokens result =>
            result.height ≤ room ∧
              AreSuffixes object result (token :: tokens) := by
      apply hreader.bind
      intro next tokens hsuffix
      apply (takes_within next).bind
      intro checked _ hchecked
      obtain ⟨hnil, hchecked, hroom⟩ := hchecked
      subst hnil hchecked
      refine (ih checked hroom).mono ?_
      rintro after result ⟨hresult, hsuffixes⟩
      exact ⟨hresult, areSuffixes_cons hsuffix hsuffixes⟩
    apply (Takes.accept .dot).bind
    intro dotted _ hdotted
    subst hdotted
    cases dotted with
    | true => exact hnext (takes_member hexpression object)
    | false =>
      apply (Takes.accept .openBracket).bind
      intro bracketed _ hbracketed
      subst hbracketed
      cases bracketed with
      | true => exact hnext (takes_key hexpression object)
      | false => exact Takes.pure ⟨hobject, areSuffixes_nil object⟩

/-- An atom and its suffixes take one level less than the operand of a
comparison that they form. -/
theorem takes_accessor
    (hexpression : Takes expression (IsOperand (.chain .logical) room)) :
    Takes (accessor expression room) fun tokens result =>
      IsOperand .negated (room + 1) tokens
        ⟨result.expr, result.height + 1⟩ := by
  apply (takes_atom hexpression).bind
  intro first tokens hfirst
  apply Takes.get.bind
  intro stream _ hget
  subst hget
  obtain ⟨hroom, phrase, hphrase, htree, hheight⟩ := hfirst
  refine (takes_suffixes hexpression stream.tokens first hroom).mono ?_
  rintro after result ⟨hresult, suffixes, steps, hsuffixes, hsteps, hexpr,
    hresultHeight⟩
  refine ⟨Nat.succ_le_succ hresult, .accessor phrase suffixes, ?_, ?_, ?_⟩
  · rw [Phrase.tokens, hphrase, hsuffixes]
    rfl
  · rw [Phrase.tree?, htree, hsteps]
    exact hexpr
  · intro below
    rw [Phrase.heightOver, hheight, Nat.zero_max, hresultHeight]

end

/-! ## Expressions -/

theorem prefixOp?_eq_some {token : Token} {op : UnaryOp}
    (h : token.prefixOp? = some op) :
    ∃ sign : Sign, token = sign.token ∧ op = sign.op := by
  cases token with
  | exclamation =>
    cases h
    exact ⟨.exclamation, rfl, rfl⟩
  | minus =>
    cases h
    exact ⟨.minus, rfl, rfl⟩
  | _ => cases h

theorem takes_negated (room : Nat) :
    Takes (negated room) (IsOperand .negated room) := by
  induction room with
  | zero => exact Takes.fail .tooDeep
  | succ room ih =>
    apply (Takes.acceptSome Token.prefixOp?).bind
    intro found before hfound
    cases found with
    | none =>
      subst hfound
      apply (takes_accessor (takes_expressionOf ih)).bind
      intro operand tokens hoperand
      refine Takes.pure ?_
      rw [List.append_nil]
      exact hoperand
    | some op =>
      obtain ⟨token, hbefore, hop⟩ := hfound
      obtain ⟨sign, htoken, hsign⟩ := prefixOp?_eq_some hop
      apply ih.bind
      intro operand tokens hoperand
      apply Takes.pure
      obtain ⟨hroom, phrase, hphrase, htree, hheight⟩ := hoperand
      refine ⟨Nat.succ_le_succ hroom, .signed sign phrase, ?_, ?_, ?_⟩
      · simp [Phrase.tokens, hphrase, hbefore, htoken]
      · rw [Phrase.tree?, htree, hsign]
        rfl
      · intro below
        rw [Phrase.heightOver, hheight, Nat.zero_max]

/-- What is read as an expression is an expression of the grammar, with the
tree that is returned. -/
theorem takes_expression (room : Nat) :
    Takes (expression room) fun tokens expr =>
      ∃ phrase : Phrase .expression,
        phrase.tokens = tokens ∧ phrase.tree? = some expr ∧
          phrase.height ≤ room := by
  apply (takes_expressionOf (takes_negated room)).bind
  intro operand tokens hoperand
  obtain ⟨hroom, phrase, hphrase, htree, hheight⟩ := hoperand
  refine Takes.pure ⟨phrase, ?_, htree, ?_⟩
  · rw [List.append_nil]
    exact hphrase
  · rw [Phrase.height, hheight, Nat.zero_max]
    exact hroom

/-- A complete reading reads an expression and leaves no tokens. -/
theorem expression_of_complete
    {room : Nat} {stream rest : TokenStream} {expr : JsonExpr}
    (h : complete room stream = .ok expr rest) :
    expression room stream = .ok expr rest ∧ rest.tokens = [] := by
  obtain ⟨value, ⟨tokens, stop⟩, hvalue, hrest⟩ := bind_eq_ok_iff.mp h
  cases tokens with
  | nil =>
    cases hrest
    exact ⟨hvalue, rfl⟩
  | cons placed others => cases hrest

/-- A complete reading leaves no tokens, so all of them form the
expression. -/
theorem derivation_of_complete
    {room : Nat} {stream rest : TokenStream} {expr : JsonExpr}
    (h : complete room stream = .ok expr rest) :
    ∃ phrase : Phrase .expression,
      phrase.tokens = stream.tokens.map PlacedToken.token ∧
        phrase.tree? = some expr ∧
        phrase.height ≤ room := by
  obtain ⟨hexpr, hnil⟩ := expression_of_complete h
  obtain ⟨taken, hstream, phrase, hphrase, htree, hheight⟩ :=
    takes_expression room stream expr rest hexpr
  refine ⟨phrase, ?_, htree, hheight⟩
  rw [hphrase, hstream, hnil, List.append_nil]

end DocFilter.Reading
