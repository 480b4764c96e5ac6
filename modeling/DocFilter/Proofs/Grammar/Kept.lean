import DocFilter.Filter
import DocFilter.Proofs.Grammar.Soundness
import DocFilter.Proofs.Grammar.Sources

/-!
# Properties of the trees that are read

A tree that is read is put together by the rules of the grammar and by nothing
else.  A property of trees that each of these rules keeps therefore holds of
every tree that is read.  Coercions enter a tree only where a rule asks for
them, and a rule that asks for a scalar takes an opposite coercion off.

A property may also be about the tokens that the tree is read from.  Its rules
for suffixes are then told where the object of the suffix comes from.
-/

namespace DocFilter.Grammar

/-- A property of trees that the rules of the grammar keep, apart from those for
suffixes. -/
structure IsKeptBeforeSuffixes (P : JsonExpr → Prop) : Prop where
  literal (value : Literal) : P (.ofScalar (.literal value))
  name (text : String) : P (.name text)
  array {elements : List JsonExpr} (h : ∀ element ∈ elements, P element) :
    P (.array elements)
  matching (style : PatternStyle) {subject pattern : JsonExpr}
    (hsubject : P subject) (hpattern : P pattern) :
    P (.ofScalar (.matching style subject.asScalar pattern.asScalar))
  unary (op : UnaryOp) {operand : JsonExpr} (h : P operand) :
    P (.ofScalar (.unary op operand.asScalar))
  binary (op : BinaryOp) {left right : JsonExpr} (hleft : P left)
    (hright : P right) :
    P (.ofScalar (.binary op left.asScalar right.asScalar))

/-- A property of trees that every rule of the grammar keeps, if there is
something to know about the labels of steps. -/
structure IsKeptAmong (isLabel : String → Prop) (P : JsonExpr → Prop) : Prop
    extends IsKeptBeforeSuffixes P where
  path {object : JsonExpr} {label : String} (hlabel : isLabel label)
    (hne : label ≠ "length") (h : P object) : P (.path object [label])
  length {object : JsonExpr} (h : P object) : P (.ofScalar (.length object))
  item {object key : JsonExpr} (hobject : P object) (hkey : P key) :
    P (.item object key.asScalar)
  includes {collection needle : JsonExpr} (hcollection : P collection)
    (hneedle : P needle) : P (.ofScalar (.includes collection needle.asScalar))
  quantified (quantifier : Quantifier) {collection : JsonExpr}
    (element : String) {condition : JsonExpr} (hcollection : P collection)
    (hcondition : P condition) :
    P (.ofScalar
      (.quantified quantifier collection element condition.asScalar))

/-- A property of trees that every rule of the grammar keeps, whatever the
labels of steps are. -/
abbrev IsKept (P : JsonExpr → Prop) : Prop := IsKeptAmong (fun _ => True) P

/-- The names among some tokens can be labels. -/
def NamesAre (isLabel : String → Prop) (tokens : List Token) : Prop :=
  ∀ token ∈ tokens, ∀ text, token = .name text → isLabel text

/-- A property of trees that every rule of the grammar keeps where these tokens
are read.  A rule for a suffix is told where the object and the suffix stand
among the tokens. -/
structure IsKeptIn (tokens : List Token) (P : JsonExpr → Prop) : Prop
    extends IsKeptBeforeSuffixes P where
  path {object : JsonExpr} {label : String}
    (hsource : IsSourced tokens object [.dot, .name label]
      (.path object [label]))
    (hne : label ≠ "length") (h : P object) : P (.path object [label])
  length {object : JsonExpr}
    (hsource : IsSourced tokens object [.dot, .name "length"]
      (.ofScalar (.length object)))
    (h : P object) : P (.ofScalar (.length object))
  item {object key : JsonExpr} {suffix : List Token}
    (hsource : IsSourced tokens object (.openBracket :: suffix)
      (.item object key.asScalar))
    (hobject : P object) (hkey : P key) : P (.item object key.asScalar)
  includes {collection needle : JsonExpr} {suffix : List Token}
    (hsource : IsSourced tokens collection (.dot :: suffix)
      (.ofScalar (.includes collection needle.asScalar)))
    (hcollection : P collection) (hneedle : P needle) :
    P (.ofScalar (.includes collection needle.asScalar))
  quantified (quantifier : Quantifier) {collection : JsonExpr}
    (element : String) {condition : JsonExpr} {suffix : List Token}
    (hsource : IsSourced tokens collection (.dot :: suffix)
      (.ofScalar
        (.quantified quantifier collection element condition.asScalar)))
    (hcollection : P collection) (hcondition : P condition) :
    P (.ofScalar
      (.quantified quantifier collection element condition.asScalar))

/-- What a phrase with some tokens stands for has a property, where the phrase
is one among `all` tokens.  A suffix keeps the property of an object that stands
before it. -/
def Category.Keeps (all : List Token) (P : JsonExpr → Prop) :
    (category : Category) → List Token → category.Tree → Prop
  | .value _, _, tree => P tree
  | .link _, _, pair => P pair.2
  | .suffix, tokens, step =>
    ∀ object result, IsSourced all object tokens result → P object →
      step object = some result → P result
  | .argument, _, .plain body => P body
  | .argument, _, .arrow _ body => P body
  | .items item, _, trees => ∀ tree ∈ trees, ∃ tokens, item.Keeps all P tokens tree
  | .next item, _, tree => ∃ tokens, item.Keeps all P tokens tree
  | .many part, tokens, trees =>
    ∃ phrases : List (Phrase part), phrases.flatMap Phrase.tokens = tokens ∧
      List.Forall₂ (fun phrase tree => phrase.tree? = some tree ∧
        part.Keeps all P phrase.tokens tree) phrases trees

variable {isLabel : String → Prop} {P : JsonExpr → Prop} {all : List Token}

theorem Category.Keeps.of_mem {part : Category} {tokens : List Token}
    {trees : List part.Tree} (h : (Category.many part).Keeps all P tokens trees) :
    ∀ tree ∈ trees, ∃ tokens, part.Keeps all P tokens tree := by
  obtain ⟨phrases, -, h⟩ := h
  induction h with
  | nil => exact List.forall_mem_nil _
  | cons hfirst _ ih => exact List.forall_mem_cons.mpr ⟨⟨_, hfirst.2⟩, ih⟩

namespace IsKeptIn

theorem foldl_binaryTree (hP : IsKeptIn all P)
    {links : List (BinaryOp × JsonExpr)} (hlinks : ∀ link ∈ links, P link.2)
    {left : JsonExpr} (hleft : P left) : P (links.foldl binaryTree left) := by
  induction links generalizing left with
  | nil => exact hleft
  | cons link links ih =>
    rw [List.forall_mem_cons] at hlinks
    exact ih hlinks.2 (hP.binary link.1 hleft hlinks.1)

/-- The first suffix goes on from the object, and the others from what it makes
of the object. -/
theorem foldlM_steps {phrases : List (Phrase .suffix)}
    {steps : List (JsonExpr → Option JsonExpr)}
    (hsteps : List.Forall₂ (fun phrase step => phrase.tree? = some step ∧
      Category.suffix.Keeps all P phrase.tokens step) phrases steps)
    {before slice after : List Token}
    (hall : all = before ++ (slice ++ (phrases.flatMap Phrase.tokens ++ after)))
    {object result : JsonExpr} (hslice : DerivesAccessor slice object)
    (hobject : P object)
    (hresult : steps.foldlM (fun object step => step object) object =
      some result) :
    P result := by
  induction hsteps generalizing slice object with
  | nil =>
    cases hresult
    exact hobject
  | @cons phrase step others _ hfirst _ ih =>
    obtain ⟨htree, hkeeps⟩ := hfirst
    rw [List.foldlM_cons] at hresult
    obtain ⟨middle, hmiddle, hresult⟩ := Option.bind_eq_some_iff.mp hresult
    rw [List.flatMap_cons, List.append_assoc] at hall
    have hlonger := hslice.append htree hmiddle
    have hsource : IsSourced all object phrase.tokens middle :=
      ⟨before, slice, _, hall, hslice.derives, hlonger.derives⟩
    refine ih ?_ hlonger (hkeeps object middle hsource hobject hmiddle) hresult
    rw [hall, List.append_assoc]

theorem propertyTree (hP : IsKeptIn all P) {object : JsonExpr} {label : String}
    (hsource : IsSourced all object [.dot, .name label]
      (propertyTree object label))
    (hobject : P object) : P (propertyTree object label) := by
  unfold Grammar.propertyTree at hsource ⊢
  split_ifs at hsource ⊢ with hlength
  · subst hlength
    exact hP.length hsource hobject
  · exact hP.path hsource hlength hobject

theorem methodTree? (hP : IsKeptIn all P) {object result : JsonExpr}
    {suffix : List Token} (hsource : IsSourced all object (.dot :: suffix) result)
    (hobject : P object) {callee : String} {arguments : List ArgumentTree}
    {tokens : List Token}
    (harguments : (Category.items .argument).Keeps all P tokens arguments)
    (hresult : methodTree? object callee arguments = some result) :
    P result := by
  unfold Grammar.methodTree? at hresult
  split at hresult
  · split_ifs at hresult <;> cases hresult <;> exact hP.unary _ hobject
  next needle =>
    obtain ⟨_, hneedle⟩ := harguments _ List.mem_cons_self
    split_ifs at hresult
    cases hresult
    exact hP.includes hsource hobject hneedle
  next element body =>
    obtain ⟨_, hbody⟩ := harguments _ List.mem_cons_self
    split_ifs at hresult <;> cases hresult <;>
      exact hP.quantified _ element hsource hobject hbody
  · cases hresult

theorem functionTree? (hP : IsKeptIn all P) {result : JsonExpr}
    {callee : String} {arguments : List ArgumentTree} {tokens : List Token}
    (harguments : (Category.items .argument).Keeps all P tokens arguments)
    (hresult : functionTree? callee arguments = some result) : P result := by
  unfold Grammar.functionTree? at hresult
  split at hresult
  next subject pattern =>
    obtain ⟨_, hsubject⟩ := harguments _ List.mem_cons_self
    obtain ⟨_, hpattern⟩ :=
      harguments _ (List.mem_cons_of_mem _ List.mem_cons_self)
    split_ifs at hresult <;> cases hresult <;>
      exact hP.matching _ hsubject hpattern
  next => cases hresult

/-- The property holds of the tree of every phrase among the tokens. -/
theorem of_tree?_eq_some (hP : IsKeptIn all P) {category : Category}
    {phrase : Phrase category} {tree : category.Tree}
    (hall : phrase.tokens <:+: all) (h : phrase.tree? = some tree) :
    category.Keeps all P phrase.tokens tree := by
  induction phrase with
  | chain first links ihFirst ihLinks =>
    obtain ⟨left, hleft, trees, htrees, rfl⟩ :=
      Phrase.tree?_chain_eq_some.mp h
    have hlinks := ihLinks ((List.suffix_append _ _).isInfix.trans hall) htrees
    have hfirst := ihFirst ((List.prefix_append _ _).isInfix.trans hall) hleft
    refine hP.foldl_binaryTree (fun link hlink => ?_) hfirst
    obtain ⟨_, hright⟩ := hlinks.of_mem link hlink
    exact hright
  | link op htier operand ih =>
    obtain ⟨right, hright, rfl⟩ := Phrase.tree?_link_eq_some.mp h
    exact ih ((List.suffix_cons _ _).isInfix.trans hall) hright
  | signed sign operand ih =>
    obtain ⟨inner, hinner, rfl⟩ := Phrase.tree?_signed_eq_some.mp h
    exact hP.unary sign.op
      (ih ((List.suffix_cons _ _).isInfix.trans hall) hinner)
  | accessor atom suffixes ihAtom ihSuffixes =>
    obtain ⟨object, hobject, steps, hsteps, hresult⟩ :=
      Phrase.tree?_accessor_eq_some.mp h
    have hatom := ihAtom ((List.prefix_append _ _).isInfix.trans hall) hobject
    obtain ⟨phrases, htokens, hphrases⟩ :=
      ihSuffixes ((List.suffix_append _ _).isInfix.trans hall) hsteps
    obtain ⟨before, after, hall⟩ := hall
    rw [Phrase.tokens, ← htokens, List.append_assoc, List.append_assoc] at hall
    exact foldlM_steps hphrases hall.symm (.atom hobject) hatom hresult
  | property label =>
    cases h
    intro object result hsource hobject hresult
    cases hresult
    exact hP.propertyTree hsource hobject
  | method callee arguments ih =>
    obtain ⟨trees, htrees, rfl⟩ := Phrase.tree?_method_eq_some.mp h
    intro object result hsource hobject hresult
    have harguments := List.infix_append' [.dot, .name callee, .openParen]
      arguments.tokens [.closeParen]
    exact hP.methodTree? hsource hobject (ih (harguments.trans hall) htrees)
      hresult
  | key inner ih =>
    obtain ⟨key, hkey, rfl⟩ := Phrase.tree?_key_eq_some.mp h
    intro object result hsource hobject hresult
    cases hresult
    have hinner := List.infix_append' [.openBracket] inner.tokens [.closeBracket]
    exact hP.item hsource hobject (ih (hinner.trans hall) hkey)
  | literal value =>
    cases h
    exact hP.literal value
  | name text =>
    cases h
    exact hP.name text
  | call callee arguments ih =>
    obtain ⟨trees, htrees, hcall⟩ := Phrase.tree?_call_eq_some.mp h
    have harguments := List.infix_append' [.name callee, .openParen]
      arguments.tokens [.closeParen]
    exact hP.functionTree? (ih (harguments.trans hall) htrees) hcall
  | group inner ih =>
    have hinner := List.infix_append' [.openParen] inner.tokens [.closeParen]
    exact ih (hinner.trans hall) h
  | array elements ih =>
    obtain ⟨trees, htrees, rfl⟩ := Phrase.tree?_array_eq_some.mp h
    have helements :=
      List.infix_append' [.openBracket] elements.tokens [.closeBracket]
    refine hP.array fun element helement => ?_
    obtain ⟨_, hkeeps⟩ := ih (helements.trans hall) htrees element helement
    exact hkeeps
  | plain body ih =>
    obtain ⟨inner, hinner, rfl⟩ := Phrase.tree?_plain_eq_some.mp h
    exact ih hall hinner
  | arrow element body ih =>
    obtain ⟨inner, hinner, rfl⟩ := Phrase.tree?_arrow_eq_some.mp h
    have hbody := List.suffix_append [.name element, .arrow] body.tokens
    exact ih (hbody.isInfix.trans hall) hinner
  | noItems =>
    cases h
    exact List.forall_mem_nil _
  | items first others ihFirst ihOthers =>
    obtain ⟨head, hhead, tail, htail, rfl⟩ := Phrase.tree?_items_eq_some.mp h
    have hfirst := ihFirst ((List.prefix_append _ _).isInfix.trans hall) hhead
    have hothers := ihOthers ((List.suffix_append _ _).isInfix.trans hall) htail
    refine List.forall_mem_cons.mpr ⟨⟨_, hfirst⟩, fun tree htree => ?_⟩
    obtain ⟨_, hnext⟩ := hothers.of_mem tree htree
    exact hnext
  | next following ih =>
    exact ⟨_, ih ((List.suffix_cons _ _).isInfix.trans hall) h⟩
  | nil =>
    cases h
    exact ⟨[], rfl, .nil⟩
  | cons first others ihFirst ihOthers =>
    obtain ⟨head, hhead, tail, htail, rfl⟩ := Phrase.tree?_cons_eq_some.mp h
    have hfirst := ihFirst ((List.prefix_append _ _).isInfix.trans hall) hhead
    obtain ⟨phrases, htokens, hphrases⟩ :=
      ihOthers ((List.suffix_append _ _).isInfix.trans hall) htail
    refine ⟨first :: phrases, ?_, .cons ⟨hhead, hfirst⟩ hphrases⟩
    rw [List.flatMap_cons, htokens, Phrase.tokens]

end IsKeptIn

namespace IsKeptAmong

/-- The label of a step is a name among the tokens. -/
theorem isKeptIn (hP : IsKeptAmong isLabel P) {tokens : List Token}
    (hnames : NamesAre isLabel tokens) : IsKeptIn tokens P where
  toIsKeptBeforeSuffixes := hP.toIsKeptBeforeSuffixes
  path hsource hne h :=
    hP.path (hnames _ (hsource.mem (by simp)) _ rfl) hne h
  length _ h := hP.length h
  item _ hobject hkey := hP.item hobject hkey
  includes _ hcollection hneedle := hP.includes hcollection hneedle
  quantified quantifier _ element _ _ _ hcollection hcondition :=
    hP.quantified quantifier element hcollection hcondition

/-- The property holds of every tree that is read. -/
theorem of_complete_eq_ok
    (hP : IsKeptAmong isLabel P) {room : Nat} {stream rest : TokenStream}
    {expr : JsonExpr}
    (hnames : NamesAre isLabel (stream.tokens.map PlacedToken.token))
    (h : Reading.complete room stream = .ok expr rest) : P expr := by
  obtain ⟨phrase, htokens, htree, -⟩ := Reading.derivation_of_complete h
  rw [← htokens] at hnames
  exact (hP.isKeptIn hnames).of_tree?_eq_some (List.infix_refl _) htree

end IsKeptAmong

/-- A tree that is read from a text is read from its tokens. -/
theorem exists_tokens_of_readExpr_eq_ok
    {text : String} {maxHeight : Nat} {expr : JsonExpr}
    (h : readExpr text maxHeight = .ok expr) :
    ∃ tokens rest, tokenize text = .ok tokens ∧
      Reading.complete maxHeight ⟨tokens, Text.byteLength text.toList⟩ =
        .ok expr rest := by
  unfold readExpr readTokens at h
  cases htokens : tokenize text with
  | error error =>
    rw [htokens] at h
    cases h
  | ok tokens =>
    simp only [htokens, Except.mapError, bind, Except.bind] at h
    cases hread : (Reading.complete maxHeight).run
      ⟨tokens, Text.byteLength text.toList⟩ with
    | error error rest => simp [hread] at h
    | ok value rest =>
      simp only [hread, Except.ok.injEq] at h
      exact ⟨tokens, rest, rfl, h ▸ hread⟩

namespace IsKept

/-- The property holds of every tree that is read. -/
theorem of_complete_eq_ok
    (hP : IsKept P) {room : Nat} {stream rest : TokenStream} {expr : JsonExpr}
    (h : Reading.complete room stream = .ok expr rest) : P expr :=
  IsKeptAmong.of_complete_eq_ok hP (fun _ _ _ _ => trivial) h

/-- The property holds of every tree that is read from a text. -/
theorem of_readExpr_eq_ok
    (hP : IsKept P) {text : String} {maxHeight : Nat} {expr : JsonExpr}
    (h : readExpr text maxHeight = .ok expr) : P expr := by
  obtain ⟨tokens, rest, -, hread⟩ := exists_tokens_of_readExpr_eq_ok h
  exact hP.of_complete_eq_ok hread

end IsKept

end DocFilter.Grammar
