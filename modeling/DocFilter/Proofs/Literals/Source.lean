import DocFilter.Proofs.Grammar.Completeness
import DocFilter.Proofs.Literals.Independence
import DocFilter.Proofs.Literals.Order

/-!
# Parameters and the tokens they come from

The parameters of a compiled text are the literals among its tokens.  Their
order is that of the text, but for the calls of `like` and `glob`: SQL takes
the pattern first, so the two arguments change places.  This exchange is an
operation on derivations, and it carries over to every call inside an
argument.
-/

namespace DocFilter

/-- The value of a token that is a literal. -/
def Token.literal? : Token → Option Literal
  | .literal value => some value
  | _ => none

/-- The literals among some tokens, in their order. -/
def literals (tokens : List Token) : List Literal :=
  tokens.filterMap Token.literal?

@[simp] theorem literals_nil : literals [] = [] := rfl

@[simp] theorem literals_cons (token : Token) (others : List Token) :
    literals (token :: others) = token.literal?.toList ++ literals others := by
  unfold literals
  cases htoken : token.literal? <;> simp [htoken]

@[simp] theorem literals_append (tokens others : List Token) :
    literals (tokens ++ others) = literals tokens ++ literals others :=
  List.filterMap_append

theorem literals_cons_of_eq_none (token : Token) (h : token.literal? = none)
    (others : List Token) : literals (token :: others) = literals others :=
  List.filterMap_cons_none h

/-- Brackets hold no literals of their own. -/
theorem literals_enclosed (opening closing : Token)
    (hopening : opening.literal? = none) (hclosing : closing.literal? = none)
    (tokens : List Token) :
    literals (opening :: (tokens ++ [closing])) = literals tokens := by
  rw [literals_cons_of_eq_none opening hopening, literals_append,
    literals_cons_of_eq_none closing hclosing, literals_nil, List.append_nil]

namespace Grammar

/-! ## The exchange of arguments -/

/-- Two arguments in the opposite order.  Calls with fewer or more arguments
have no tree. -/
def exchangeTwo : Phrase (.items .argument) → Phrase (.items .argument)
  | .items first (.cons (.next second) .nil) =>
    .items second (.cons (.next first) .nil)
  | arguments => arguments

/-- The phrase in which the arguments of every call of a function, which is
`like` or `glob`, have changed places. -/
def Phrase.exchanged : {category : Category} → Phrase category → Phrase category
  | _, .chain first links => .chain first.exchanged links.exchanged
  | _, .link op htier operand => .link op htier operand.exchanged
  | _, .signed sign operand => .signed sign operand.exchanged
  | _, .accessor atom suffixes => .accessor atom.exchanged suffixes.exchanged
  | _, .property label => .property label
  | _, .method callee arguments => .method callee arguments.exchanged
  | _, .key inner => .key inner.exchanged
  | _, .literal value => .literal value
  | _, .name text => .name text
  | _, .call callee arguments => .call callee (exchangeTwo arguments.exchanged)
  | _, .group inner => .group inner.exchanged
  | _, .array elements => .array elements.exchanged
  | _, .plain body => .plain body.exchanged
  | _, .arrow element body => .arrow element body.exchanged
  | _, .noItems => .noItems
  | _, .items first others => .items first.exchanged others.exchanged
  | _, .next phrase => .next phrase.exchanged
  | _, .nil => .nil
  | _, .cons first others => .cons first.exchanged others.exchanged

theorem exchangeTwo_tokens_perm (arguments : Phrase (.items .argument)) :
    (exchangeTwo arguments).tokens.Perm arguments.tokens := by
  cases arguments with
  | noItems => exact .rfl
  | items first others =>
    cases others with
    | nil => exact .rfl
    | cons following rest =>
      cases following with
      | next second =>
        cases rest with
        | cons => exact .rfl
        | nil =>
          change (second.tokens ++ ((Token.comma :: first.tokens) ++ [])).Perm
            (first.tokens ++ ((Token.comma :: second.tokens) ++ []))
          rw [List.append_nil, List.append_nil]
          have hcomma : (Token.comma :: (second.tokens ++ first.tokens)).Perm
              (Token.comma :: (first.tokens ++ second.tokens)) :=
            List.perm_append_comm.cons _
          exact List.perm_middle.trans (hcomma.trans List.perm_middle.symm)

/-- The exchange moves tokens, and it neither adds nor drops any. -/
theorem Phrase.exchanged_tokens_perm {category : Category}
    (phrase : Phrase category) :
    phrase.exchanged.tokens.Perm phrase.tokens := by
  induction phrase with
  | chain _ _ ihFirst ihOthers | accessor _ _ ihFirst ihOthers
  | items _ _ ihFirst ihOthers | cons _ _ ihFirst ihOthers =>
    exact ihFirst.append ihOthers
  | link _ _ _ ih | signed _ _ ih | next _ ih => exact ih.cons _
  | arrow _ _ ih => exact (ih.cons _).cons _
  | method _ _ ih => exact (((ih.append_right _).cons _).cons _).cons _
  | call callee arguments ih =>
    have hexchange := (exchangeTwo_tokens_perm arguments.exchanged).trans ih
    exact ((hexchange.append_right _).cons _).cons _
  | key _ ih | group _ ih | array _ ih => exact (ih.append_right _).cons _
  | plain _ ih => exact ih
  | property | literal | name | noItems | nil => exact .rfl

/-! ## Trees -/

/-- The tree of a phrase holds these literals in the order of emission.  A
suffix puts its literals behind those of its object. -/
def Category.Holds : (category : Category) → category.Tree → List Literal → Prop
  | .value _, tree, params => JsonExpr.placeholders tree = params
  | .link _, pair, params => JsonExpr.placeholders pair.2 = params
  | .suffix, step, params => ∀ object result, step object = some result →
      JsonExpr.placeholders result = JsonExpr.placeholders object ++ params
  | .argument, .plain body, params => JsonExpr.placeholders body = params
  | .argument, .arrow _ body, params => JsonExpr.placeholders body = params
  | .items item, trees, params =>
    ∃ parts, List.Forall₂ item.Holds trees parts ∧ parts.flatten = params
  | .next item, tree, params => item.Holds tree params
  | .many part, trees, params =>
    ∃ parts, List.Forall₂ part.Holds trees parts ∧ parts.flatten = params

theorem placeholders_foldl_binaryTree
    {tier : Tier} {links : List (BinaryOp × JsonExpr)}
    {parts : List (List Literal)}
    (h : List.Forall₂ (Category.link tier).Holds links parts)
    (left : JsonExpr) :
    (links.foldl binaryTree left).placeholders =
      left.placeholders ++ parts.flatten := by
  induction h generalizing left with
  | nil => rw [List.foldl_nil, List.flatten_nil, List.append_nil]
  | @cons link part links parts hlink _ ih =>
    have hright : link.2.placeholders = part := hlink
    rw [List.foldl_cons, ih, binaryTree, JsonExpr.placeholders,
      ScalarExpr.placeholders, JsonExpr.placeholders_asScalar,
      JsonExpr.placeholders_asScalar, hright, List.flatten_cons,
      List.append_assoc]

theorem placeholders_foldlM_steps
    {steps : List (JsonExpr → Option JsonExpr)} {parts : List (List Literal)}
    (h : List.Forall₂ Category.suffix.Holds steps parts)
    {object result : JsonExpr}
    (hresult : steps.foldlM (fun object step => step object) object =
      some result) :
    result.placeholders = object.placeholders ++ parts.flatten := by
  induction h generalizing object with
  | nil =>
    cases hresult
    rw [List.flatten_nil, List.append_nil]
  | @cons step part steps parts hstep _ ih =>
    rw [List.foldlM_cons] at hresult
    obtain ⟨middle, hmiddle, hresult⟩ := Option.bind_eq_some_iff.mp hresult
    rw [ih hresult, hstep object middle hmiddle, List.flatten_cons,
      List.append_assoc]

theorem placeholdersAll_eq_flatten
    {elements : List JsonExpr} {parts : List (List Literal)}
    (h : List.Forall₂ Category.expression.Holds elements parts) :
    JsonExpr.placeholdersAll elements = parts.flatten := by
  induction h with
  | nil => rfl
  | @cons element part elements parts helement _ ih =>
    have hpart : element.placeholders = part := helement
    rw [JsonExpr.placeholdersAll, hpart, ih, List.flatten_cons]

/-- The call of a method puts the literals of its argument behind those of the
object. -/
theorem placeholders_methodTree?
    {object result : JsonExpr} {callee : String} {arguments : List ArgumentTree}
    {parts : List (List Literal)}
    (h : List.Forall₂ Category.argument.Holds arguments parts)
    (hresult : methodTree? object callee arguments = some result) :
    result.placeholders = object.placeholders ++ parts.flatten := by
  unfold methodTree? at hresult
  split at hresult
  · cases h
    split_ifs at hresult <;> cases hresult <;>
      simp [JsonExpr.placeholders, ScalarExpr.placeholders]
  · obtain _ | ⟨hneedle, hrest⟩ := h
    cases hrest
    split_ifs at hresult
    cases hresult
    cases hneedle
    simp [JsonExpr.placeholders, ScalarExpr.placeholders]
  · obtain _ | ⟨hbody, hrest⟩ := h
    cases hrest
    cases hbody
    split_ifs at hresult <;> cases hresult <;>
      simp [JsonExpr.placeholders, ScalarExpr.placeholders]
  · cases hresult

/-- The call of a function puts the literals of its second argument before
those of the first. -/
theorem placeholders_functionTree?
    {result : JsonExpr} {callee : String} {first second : ArgumentTree}
    {part part' : List Literal} (hfirst : Category.argument.Holds first part)
    (hsecond : Category.argument.Holds second part')
    (hresult : functionTree? callee [first, second] = some result) :
    result.placeholders = part' ++ part := by
  unfold functionTree? at hresult
  split at hresult
  next subject pattern harguments =>
    cases harguments
    cases hfirst
    cases hsecond
    split_ifs at hresult <;> cases hresult <;>
      simp [JsonExpr.placeholders, ScalarExpr.placeholders]
  next => cases hresult

/-- A call that has a tree has two arguments. -/
theorem exists_two_of_functionTree?
    {callee : String} {arguments : List ArgumentTree} {result : JsonExpr}
    (h : functionTree? callee arguments = some result) :
    ∃ first second, arguments = [first, second] := by
  unfold functionTree? at h
  split at h
  next subject pattern => exact ⟨_, _, rfl⟩
  next => cases h

/-- A list of arguments that stands for two is a pair of phrases. -/
theorem exists_items_of_tree?_eq_pair
    {arguments : Phrase (.items .argument)} {first second : ArgumentTree}
    (h : arguments.tree? = some [first, second]) :
    ∃ subject pattern, arguments = .items subject (.cons (.next pattern) .nil) ∧
      subject.tree? = some first ∧ pattern.tree? = some second := by
  cases arguments with
  | noItems => cases h
  | items subject others =>
    obtain ⟨_, hsubject, later, hothers, htrees⟩ :=
      Phrase.tree?_items_eq_some.mp h
    cases htrees
    cases others with
    | nil => cases hothers
    | cons following rest =>
      obtain ⟨_, hfollowing, none, hrest, hothers⟩ :=
        Phrase.tree?_cons_eq_some.mp hothers
      cases hothers
      cases rest with
      | nil =>
        cases following with
        | next pattern => exact ⟨subject, pattern, rfl, hsubject, hfollowing⟩
      | cons third more =>
        obtain ⟨_, -, _, -, hrest⟩ := Phrase.tree?_cons_eq_some.mp hrest
        cases hrest

/-! ## Phrases -/

/-- The tree of a phrase, if there is one, holds the literals of the exchanged
phrase. -/
def Phrase.KeepsLiterals {category : Category} (phrase : Phrase category) :
    Prop :=
  ∀ tree, phrase.tree? = some tree →
    category.Holds tree (literals phrase.exchanged.tokens)

namespace Phrase.KeepsLiterals

/-! ### Operators -/

theorem chain {tier : Tier} {first : Phrase (.value (.operand tier))}
    {links : Phrase (.many (.link tier))} (hfirst : first.KeepsLiterals)
    (hlinks : links.KeepsLiterals) : (chain first links).KeepsLiterals := by
  intro tree h
  obtain ⟨left, hleft, trees, htrees, rfl⟩ := tree?_chain_eq_some.mp h
  have hleft' : left.placeholders = _ := hfirst left hleft
  obtain ⟨parts, hparts, hflatten⟩ := hlinks trees htrees
  change (trees.foldl binaryTree left).placeholders =
    literals (first.exchanged.tokens ++ links.exchanged.tokens)
  rw [placeholders_foldl_binaryTree hparts, hleft', hflatten, literals_append]

theorem link {tier : Tier} (op : BinaryOp) (htier : op.tier = tier)
    {operand : Phrase (.value (.operand tier))}
    (hoperand : operand.KeepsLiterals) :
    (link op htier operand).KeepsLiterals := by
  intro pair h
  obtain ⟨right, hright, rfl⟩ := tree?_link_eq_some.mp h
  exact hoperand right hright

theorem signed (sign : Sign) {operand : Phrase (.value .negated)}
    (hoperand : operand.KeepsLiterals) :
    (signed sign operand).KeepsLiterals := by
  intro tree h
  obtain ⟨inner, hinner, rfl⟩ := tree?_signed_eq_some.mp h
  have hinner' : inner.placeholders = _ := hoperand inner hinner
  change inner.asScalar.placeholders =
    literals (sign.token :: operand.exchanged.tokens)
  rw [JsonExpr.placeholders_asScalar, hinner', literals_cons]
  cases sign <;> rfl

/-! ### Suffixes -/

theorem accessor {atom : Phrase (.value .atom)}
    {suffixes : Phrase (.many .suffix)} (hatom : atom.KeepsLiterals)
    (hsuffixes : suffixes.KeepsLiterals) :
    (accessor atom suffixes).KeepsLiterals := by
  intro tree h
  obtain ⟨object, hobject, steps, hsteps, hresult⟩ :=
    tree?_accessor_eq_some.mp h
  have hobject' : object.placeholders = _ := hatom object hobject
  obtain ⟨parts, hparts, hflatten⟩ := hsuffixes steps hsteps
  change JsonExpr.placeholders tree =
    literals (atom.exchanged.tokens ++ suffixes.exchanged.tokens)
  rw [placeholders_foldlM_steps hparts hresult, hobject', hflatten,
    literals_append]

theorem property (label : String) : (property label).KeepsLiterals := by
  intro step h object result hresult
  cases h
  cases hresult
  change (propertyTree object label).placeholders = object.placeholders ++ []
  unfold propertyTree
  split_ifs <;> simp [JsonExpr.placeholders, ScalarExpr.placeholders]

theorem method (callee : String) {arguments : Phrase (.items .argument)}
    (harguments : arguments.KeepsLiterals) :
    (method callee arguments).KeepsLiterals := by
  intro step h object result hresult
  obtain ⟨trees, htrees, rfl⟩ := tree?_method_eq_some.mp h
  obtain ⟨parts, hparts, hflatten⟩ := harguments trees htrees
  change result.placeholders = object.placeholders ++
    literals (Token.dot :: Token.name callee :: Token.openParen ::
      (arguments.exchanged.tokens ++ [Token.closeParen]))
  rw [placeholders_methodTree? hparts hresult, hflatten,
    literals_cons_of_eq_none .dot rfl,
    literals_cons_of_eq_none (.name callee) rfl,
    literals_enclosed .openParen .closeParen rfl rfl]

theorem key {inner : Phrase .expression} (hinner : inner.KeepsLiterals) :
    (key inner).KeepsLiterals := by
  intro step h object result hresult
  obtain ⟨place, hplace, rfl⟩ := tree?_key_eq_some.mp h
  have hplace' : place.placeholders = _ := hinner place hplace
  cases hresult
  change object.placeholders ++ place.asScalar.placeholders =
    object.placeholders ++
      literals (Token.openBracket ::
        (inner.exchanged.tokens ++ [Token.closeBracket]))
  rw [JsonExpr.placeholders_asScalar, hplace',
    literals_enclosed .openBracket .closeBracket rfl rfl]

/-! ### Atoms -/

/-- A call of a function looks at its two arguments, and not at the list that
they form. -/
theorem call (callee : String) {arguments : Phrase (.items .argument)}
    (harguments : ∀ subject pattern,
      arguments = .items subject (.cons (.next pattern) .nil) →
        subject.KeepsLiterals ∧ pattern.KeepsLiterals) :
    (call callee arguments).KeepsLiterals := by
  intro tree h
  obtain ⟨trees, htrees, hcall⟩ := tree?_call_eq_some.mp h
  obtain ⟨first, second, rfl⟩ := exists_two_of_functionTree? hcall
  obtain ⟨subject, pattern, rfl, hfirst, hsecond⟩ :=
    exists_items_of_tree?_eq_pair htrees
  obtain ⟨hsubject, hpattern⟩ := harguments subject pattern rfl
  change JsonExpr.placeholders tree =
    literals (Token.name callee :: Token.openParen ::
      ((pattern.exchanged.tokens ++
        ((Token.comma :: subject.exchanged.tokens) ++ [])) ++
          [Token.closeParen]))
  rw [placeholders_functionTree? (hsubject first hfirst)
      (hpattern second hsecond) hcall,
    literals_cons_of_eq_none (.name callee) rfl,
    literals_enclosed .openParen .closeParen rfl rfl, List.append_nil,
    literals_append, literals_cons_of_eq_none .comma rfl]

theorem group {inner : Phrase .expression} (hinner : inner.KeepsLiterals) :
    (group inner).KeepsLiterals := by
  intro tree h
  have htree : JsonExpr.placeholders tree = _ := hinner tree h
  change JsonExpr.placeholders tree =
    literals (Token.openParen ::
      (inner.exchanged.tokens ++ [Token.closeParen]))
  rw [htree, literals_enclosed .openParen .closeParen rfl rfl]

theorem array {elements : Phrase (.items .expression)}
    (helements : elements.KeepsLiterals) : (array elements).KeepsLiterals := by
  intro tree h
  obtain ⟨trees, htrees, rfl⟩ := tree?_array_eq_some.mp h
  obtain ⟨parts, hparts, hflatten⟩ := helements trees htrees
  change JsonExpr.placeholdersAll trees =
    literals (Token.openBracket ::
      (elements.exchanged.tokens ++ [Token.closeBracket]))
  rw [placeholdersAll_eq_flatten hparts, hflatten,
    literals_enclosed .openBracket .closeBracket rfl rfl]

/-! ### Arguments and lists -/

theorem plain {body : Phrase .expression} (hbody : body.KeepsLiterals) :
    (plain body).KeepsLiterals := by
  intro argument h
  obtain ⟨inner, hinner, rfl⟩ := tree?_plain_eq_some.mp h
  exact hbody inner hinner

theorem arrow (element : String) {body : Phrase .expression}
    (hbody : body.KeepsLiterals) : (arrow element body).KeepsLiterals := by
  intro argument h
  obtain ⟨inner, hinner, rfl⟩ := tree?_arrow_eq_some.mp h
  exact hbody inner hinner

theorem items {item : Category} {first : Phrase item}
    {others : Phrase (.many (.next item))} (hfirst : first.KeepsLiterals)
    (hothers : others.KeepsLiterals) :
    (items first others).KeepsLiterals := by
  intro trees h
  obtain ⟨head, hhead, tail, htail, rfl⟩ := tree?_items_eq_some.mp h
  obtain ⟨parts, hparts, hflatten⟩ := hothers tail htail
  refine ⟨_, .cons (hfirst head hhead) hparts, ?_⟩
  change _ = literals (first.exchanged.tokens ++ others.exchanged.tokens)
  rw [List.flatten_cons, hflatten, literals_append]

theorem cons {part : Category} {first : Phrase part}
    {others : Phrase (.many part)} (hfirst : first.KeepsLiterals)
    (hothers : others.KeepsLiterals) : (cons first others).KeepsLiterals := by
  intro trees h
  obtain ⟨head, hhead, tail, htail, rfl⟩ := tree?_cons_eq_some.mp h
  obtain ⟨parts, hparts, hflatten⟩ := hothers tail htail
  refine ⟨_, .cons (hfirst head hhead) hparts, ?_⟩
  change _ = literals (first.exchanged.tokens ++ others.exchanged.tokens)
  rw [List.flatten_cons, hflatten, literals_append]

end Phrase.KeepsLiterals

/-- Every phrase keeps its literals.  The recursion is on the size, since a call
of a function skips a level of the phrase. -/
theorem Phrase.keepsLiterals {category : Category} (phrase : Phrase category) :
    phrase.KeepsLiterals := by
  cases phrase with
  | chain first links => exact .chain first.keepsLiterals links.keepsLiterals
  | link op htier operand => exact .link op htier operand.keepsLiterals
  | signed sign operand => exact .signed sign operand.keepsLiterals
  | accessor atom suffixes =>
    exact .accessor atom.keepsLiterals suffixes.keepsLiterals
  | property label => exact .property label
  | method callee arguments => exact .method callee arguments.keepsLiterals
  | key inner => exact .key inner.keepsLiterals
  | literal value | name text =>
    intro tree h
    cases h
    rfl
  | call callee arguments =>
    refine .call callee fun subject pattern heq => ?_
    subst heq
    exact ⟨subject.keepsLiterals, pattern.keepsLiterals⟩
  | group inner => exact .group inner.keepsLiterals
  | array elements => exact .array elements.keepsLiterals
  | plain body => exact .plain body.keepsLiterals
  | arrow element body => exact .arrow element body.keepsLiterals
  | noItems | nil =>
    intro trees h
    cases h
    exact ⟨[], .nil, rfl⟩
  | items first others => exact .items first.keepsLiterals others.keepsLiterals
  | next following => exact following.keepsLiterals
  | cons first others => exact .cons first.keepsLiterals others.keepsLiterals
termination_by sizeOf phrase

end Grammar

/-! ## Compiled texts -/

open Grammar

/-- The parameters of a compiled text are the literals among its tokens, each
of them once.  They stand in the order of the tokens, once the arguments of
every `like` and `glob` have changed places. -/
theorem params_eq_literals_exchanged
    {text : String} {options : Options} {fragment : Fragment}
    (h : compile text options = .ok fragment) :
    ∃ tokens, tokenize text = .ok tokens ∧
      fragment.params.Perm (literals (tokens.map PlacedToken.token)) ∧
      (∃ phrase : Phrase .expression,
        phrase.tokens = tokens.map PlacedToken.token ∧ phrase.tree?.isSome) ∧
      ∀ phrase : Phrase .expression,
        phrase.tokens = tokens.map PlacedToken.token → phrase.tree?.isSome →
          fragment.params = literals phrase.exchanged.tokens := by
  obtain ⟨tokens, htokens, hcompile⟩ := compile_eq_ok h
  obtain ⟨expr, rest, hread, hemit⟩ := compileTokens_eq_ok hcompile
  obtain ⟨phrase, hphrase, htree, -⟩ := Reading.derivation_of_complete hread
  have hparams : fragment.params = expr.placeholders := by
    rw [ScalarExpr.params_emit hemit, JsonExpr.placeholders_asScalar,
      JsonExpr.placeholders_normalize]
  have hliterals (other : Phrase .expression)
      (hother : other.tree? = some expr) :
      fragment.params = literals other.exchanged.tokens :=
    hparams.trans (other.keepsLiterals expr hother)
  refine ⟨tokens, htokens, ?_, ⟨phrase, hphrase, ?_⟩, ?_⟩
  · rw [hliterals phrase htree, ← hphrase]
    exact phrase.exchanged_tokens_perm.filterMap Token.literal?
  · rw [htree]
    rfl
  · intro other hother hsome
    obtain ⟨tree, hother'⟩ := Option.isSome_iff_exists.mp hsome
    have heq : tree = expr :=
      Reading.tree_eq_of_tokens_eq (hother.trans hphrase.symm) hother' htree
    exact hliterals other (heq ▸ hother')

/-- The pattern of `like` stands before its subject. -/
theorem params_eq_literals_exchanged_like :
    compile "like(\"a\", \"b\") == 1" default =
        .ok ⟨"(like(?, ?) = ?)", [.text "b", .text "a", .integer 1]⟩ ∧
      ∃ tokens, tokenize "like(\"a\", \"b\") == 1" = .ok tokens ∧
        [.text "b", .text "a", .integer 1].Perm
          (literals (tokens.map PlacedToken.token)) ∧
        (∃ phrase : Phrase .expression,
          phrase.tokens = tokens.map PlacedToken.token ∧ phrase.tree?.isSome) ∧
        ∀ phrase : Phrase .expression,
          phrase.tokens = tokens.map PlacedToken.token → phrase.tree?.isSome →
            [.text "b", .text "a", .integer 1] =
              literals phrase.exchanged.tokens := by
  have hcompile : compile "like(\"a\", \"b\") == 1" default =
      .ok ⟨"(like(?, ?) = ?)", [.text "b", .text "a", .integer 1]⟩ := by
        decide +kernel
  exact ⟨hcompile, params_eq_literals_exchanged hcompile⟩

end DocFilter
