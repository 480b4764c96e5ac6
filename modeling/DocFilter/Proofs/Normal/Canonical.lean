import DocFilter.Proofs.Grammar.Completeness
import DocFilter.Proofs.Meaning.Normal
import DocFilter.Proofs.Normal.Redexes

/-!
# Trees that are read are canonical

No coercion in a tree that is read stands on its opposite, and every path in it
has one step.  A node with an object is read from the tokens of the object and
those of a suffix behind them: read on their own, the former are just the
object, without a coercion more or less, and both together are the node.

Of the two things that the normal form does, only one is therefore left to do
for a tree that is read, and this is to join paths.
-/

namespace DocFilter

/-! ## Joined paths -/

mutual

/-- An expression with its paths joined, and with its coercions as they are. -/
def JsonExpr.joinPaths : JsonExpr → JsonExpr
  | .name text => .name text
  | .path object labels => object.joinPaths.descend labels
  | .item object key => .item object.joinPaths key.joinPaths
  | .array elements => .array (JsonExpr.joinPathsAll elements)
  | .ofScalar value => .ofScalar value.joinPaths

/-- Some expressions with their paths joined. -/
def JsonExpr.joinPathsAll : List JsonExpr → List JsonExpr
  | [] => []
  | element :: others => element.joinPaths :: JsonExpr.joinPathsAll others

/-- An expression for a scalar with its paths joined, and with its coercions as
they are. -/
def ScalarExpr.joinPaths : ScalarExpr → ScalarExpr
  | .literal value => .literal value
  | .matching style subject pattern =>
    .matching style subject.joinPaths pattern.joinPaths
  | .length object => .length object.joinPaths
  | .includes collection needle =>
    .includes collection.joinPaths needle.joinPaths
  | .quantified quantifier collection element condition =>
    .quantified quantifier collection.joinPaths element condition.joinPaths
  | .unary op operand => .unary op operand.joinPaths
  | .binary op left right => .binary op left.joinPaths right.joinPaths
  | .ofJson value => .ofJson value.joinPaths

end

mutual

/-- Where no coercion stands on its opposite, the normal form joins paths and
does nothing else. -/
theorem JsonExpr.normalize_eq_joinPaths (expr : JsonExpr)
    (h : expr.IsUnstacked) : expr.normalize = expr.joinPaths := by
  cases expr with
  | name text => rw [JsonExpr.normalize, JsonExpr.joinPaths]
  | path object labels =>
    rw [JsonExpr.normalize, JsonExpr.joinPaths,
      object.normalize_eq_joinPaths h]
  | item object key =>
    rw [JsonExpr.normalize, JsonExpr.joinPaths,
      object.normalize_eq_joinPaths h.1, key.normalize_eq_joinPaths h.2]
  | array elements =>
    rw [JsonExpr.normalize, JsonExpr.joinPaths,
      JsonExpr.normalizeAll_eq_joinPathsAll elements h]
  | ofScalar value =>
    have hne := ScalarExpr.normalize_ne_ofJson h.1
    rw [JsonExpr.normalize, JsonExpr.joinPaths,
      ScalarExpr.asJson_of_ne_ofJson hne, value.normalize_eq_joinPaths h.2]

theorem JsonExpr.normalizeAll_eq_joinPathsAll (elements : List JsonExpr)
    (h : JsonExpr.AreUnstacked elements) :
    JsonExpr.normalizeAll elements = JsonExpr.joinPathsAll elements := by
  cases elements with
  | nil => rw [JsonExpr.normalizeAll, JsonExpr.joinPathsAll]
  | cons element others =>
    rw [JsonExpr.normalizeAll, JsonExpr.joinPathsAll,
      element.normalize_eq_joinPaths h.1,
      JsonExpr.normalizeAll_eq_joinPathsAll others h.2]

/-- Where no coercion stands on its opposite, the normal form joins paths and
does nothing else. -/
theorem ScalarExpr.normalize_eq_joinPaths (expr : ScalarExpr)
    (h : expr.IsUnstacked) : expr.normalize = expr.joinPaths := by
  cases expr with
  | literal value => rw [ScalarExpr.normalize, ScalarExpr.joinPaths]
  | matching style subject pattern =>
    rw [ScalarExpr.normalize, ScalarExpr.joinPaths,
      subject.normalize_eq_joinPaths h.1, pattern.normalize_eq_joinPaths h.2]
  | length object =>
    rw [ScalarExpr.normalize, ScalarExpr.joinPaths,
      object.normalize_eq_joinPaths h]
  | includes collection needle =>
    rw [ScalarExpr.normalize, ScalarExpr.joinPaths,
      collection.normalize_eq_joinPaths h.1, needle.normalize_eq_joinPaths h.2]
  | quantified quantifier collection element condition =>
    rw [ScalarExpr.normalize, ScalarExpr.joinPaths,
      collection.normalize_eq_joinPaths h.1,
      condition.normalize_eq_joinPaths h.2]
  | unary op operand =>
    rw [ScalarExpr.normalize, ScalarExpr.joinPaths,
      operand.normalize_eq_joinPaths h]
  | binary op left right =>
    rw [ScalarExpr.normalize, ScalarExpr.joinPaths,
      left.normalize_eq_joinPaths h.1, right.normalize_eq_joinPaths h.2]
  | ofJson value =>
    have hne := JsonExpr.normalize_ne_ofScalar h.1
    rw [ScalarExpr.normalize, ScalarExpr.joinPaths,
      JsonExpr.asScalar_of_ne_ofScalar hne, value.normalize_eq_joinPaths h.2]

end

/-! ## Nodes with objects -/

namespace Node

/-- The object that a suffix makes a node of. -/
def object? : Node → Option JsonExpr
  | .json (.path object _) | .json (.item object _) => some object
  | .scalar (.length object) | .scalar (.includes object _)
  | .scalar (.quantified _ object _ _) => some object
  | _ => none

/-- A node as an expression for a JSON value. -/
def toJson : Node → JsonExpr
  | .json expr => expr
  | .scalar expr => .ofScalar expr

/-- The tokens can be those of the suffix that makes such a node.  A path has
one step, with the name behind the point as its label. -/
def HasSuffix : Node → List Token → Prop
  | .json (.path _ labels), suffix =>
    ∃ label, labels = [label] ∧ label ≠ "length" ∧ suffix = [.dot, .name label]
  | .json (.item _ _), suffix => suffix.head? = some .openBracket
  | .scalar (.length _), suffix => suffix = [.dot, .name "length"]
  | .scalar (.includes _ _), suffix
  | .scalar (.quantified _ _ _ _), suffix => suffix.head? = some .dot
  | _, _ => False

/-- If the node has an object, then it is made by a suffix among the tokens from
an object that stands before it. -/
def IsSourced (tokens : List Token) (node : Node) : Prop :=
  ∀ object, node.object? = some object →
    ∃ suffix, Grammar.IsSourced tokens object suffix node.toJson ∧
      node.HasSuffix suffix

/-- All nodes in a node are made where they stand among the tokens. -/
def AreSourced (tokens : List Token) (node : Node) : Prop :=
  ∀ inner, Relation.ReflTransGen (fun node child => child ∈ node.children)
    node inner → inner.IsSourced tokens

variable {tokens : List Token} {node : Node}

theorem areSourced_iff :
    node.AreSourced tokens ↔
      node.IsSourced tokens ∧ ∀ child ∈ node.children, child.AreSourced tokens :=
  forall_inner_iff

theorem isSourced_of_object?_eq_none (h : node.object? = none) :
    node.IsSourced tokens := by
  intro object hobject
  rw [h] at hobject
  cases hobject

/-- The coercion of a scalar is taken off, and otherwise one is added. -/
theorem AreSourced.asScalar {value : JsonExpr}
    (h : (json value).AreSourced tokens) :
    (scalar value.asScalar).AreSourced tokens := by
  cases value with
  | ofScalar inner => exact (areSourced_iff.mp h).2 _ List.mem_cons_self
  | name | path | item | array =>
    exact areSourced_iff.mpr
      ⟨isSourced_of_object?_eq_none rfl, List.forall_mem_singleton.mpr h⟩

/-- A scalar that is not the scalar of a JSON value comes with its coercion. -/
theorem areSourced_ofScalar {value : ScalarExpr}
    (hvalue : (scalar value).IsSourced tokens)
    (hchildren : ∀ child ∈ (scalar value).children, child.AreSourced tokens) :
    (json (.ofScalar value)).AreSourced tokens :=
  areSourced_iff.mpr ⟨isSourced_of_object?_eq_none rfl,
    List.forall_mem_singleton.mpr (areSourced_iff.mpr ⟨hvalue, hchildren⟩)⟩

end Node

/-- The rules of the grammar make nodes where they stand among the tokens. -/
theorem isKeptIn_areSourced (tokens : List Token) :
    Grammar.IsKeptIn tokens fun expr => (Node.json expr).AreSourced tokens where
  literal value :=
    Node.areSourced_ofScalar (Node.isSourced_of_object?_eq_none rfl)
      (List.forall_mem_nil _)
  name text :=
    Node.areSourced_iff.mpr
      ⟨Node.isSourced_of_object?_eq_none rfl, List.forall_mem_nil _⟩
  array h := by
    refine Node.areSourced_iff.mpr ⟨Node.isSourced_of_object?_eq_none rfl, ?_⟩
    exact List.forall_mem_map.mpr h
  matching style _ _ hsubject hpattern :=
    Node.areSourced_ofScalar (Node.isSourced_of_object?_eq_none rfl)
      (by simp [Node.children, hsubject.asScalar, hpattern.asScalar])
  unary op _ h :=
    Node.areSourced_ofScalar (Node.isSourced_of_object?_eq_none rfl)
      (by simp [Node.children, h.asScalar])
  binary op _ _ hleft hright :=
    Node.areSourced_ofScalar (Node.isSourced_of_object?_eq_none rfl)
      (by simp [Node.children, hleft.asScalar, hright.asScalar])
  path hsource hne h := by
    refine Node.areSourced_iff.mpr ⟨?_, by simpa [Node.children] using h⟩
    rintro object ⟨⟩
    exact ⟨_, hsource, _, rfl, hne, rfl⟩
  length hsource h := by
    refine Node.areSourced_ofScalar ?_ (by simpa [Node.children] using h)
    rintro object ⟨⟩
    exact ⟨_, hsource, rfl⟩
  item hsource hobject hkey := by
    refine Node.areSourced_iff.mpr
      ⟨?_, by simp [Node.children, hobject, hkey.asScalar]⟩
    rintro object ⟨⟩
    exact ⟨_, hsource, rfl⟩
  includes hsource hcollection hneedle := by
    refine Node.areSourced_ofScalar ?_
      (by simp [Node.children, hcollection, hneedle.asScalar])
    rintro object ⟨⟩
    exact ⟨_, hsource, rfl⟩
  quantified _ _ _ _ _ hsource hcollection hcondition := by
    refine Node.areSourced_ofScalar ?_
      (by simp [Node.children, hcollection, hcondition.asScalar])
    rintro object ⟨⟩
    exact ⟨_, hsource, rfl⟩

/-! ## Expressions that are read -/

/-- Read on their own, the tokens are this expression, with as much room as
there are tokens. -/
def Reading.AreReadAs (tokens : List PlacedToken) (expr : JsonExpr) : Prop :=
  ∀ room stop, tokens.length ≤ room →
    complete room ⟨tokens, stop⟩ = .ok expr ⟨[], stop⟩

theorem Grammar.Derives.areReadAs {placed : List PlacedToken} {expr : JsonExpr}
    (h : Derives (placed.map PlacedToken.token) expr) :
    Reading.AreReadAs placed expr := by
  obtain ⟨phrase, htokens, htree⟩ := h
  intro room stop hroom
  refine Reading.complete_of_derivation phrase htokens htree ?_
  calc phrase.height
    _ ≤ phrase.tokens.length := phrase.height_le_length
    _ = placed.length := by rw [htokens, List.length_map]
    _ ≤ room := hroom

/-- What there is to say about an expression that these tokens are read as. -/
structure JsonExpr.IsCanonical (tokens : List PlacedToken) (expr : JsonExpr) :
    Prop where
  /-- No coercion stands on its opposite. -/
  isUnstacked : expr.IsUnstacked
  /-- Where a node has an object, the tokens of the object and those of a suffix
  stand side by side.  The former are read as the object, and both as the
  node. -/
  exists_source {node : Node} {object : JsonExpr}
    (hnode : Relation.ReflTransGen (fun node child => child ∈ node.children)
      (.json expr) node)
    (hobject : node.object? = some object) :
    ∃ before slice suffix after,
      tokens = before ++ (slice ++ (suffix ++ after)) ∧
        node.HasSuffix (suffix.map PlacedToken.token) ∧
        Reading.AreReadAs slice object ∧
        Reading.AreReadAs (slice ++ suffix) node.toJson
  /-- The normal form joins paths and does nothing else. -/
  normalize_eq : expr.normalize = expr.joinPaths

theorem JsonExpr.isCanonical_of_tree? {placed : List PlacedToken}
    {expr : JsonExpr} {phrase : Grammar.Phrase .expression}
    (htokens : phrase.tokens = placed.map PlacedToken.token)
    (htree : phrase.tree? = some expr) : expr.IsCanonical placed := by
  have hunstacked : expr.IsUnstacked :=
    (isKept_isUnstacked.isKeptIn fun _ _ _ _ => trivial).of_tree?_eq_some
      (List.infix_refl _) htree
  refine ⟨hunstacked, ?_, expr.normalize_eq_joinPaths hunstacked⟩
  intro node object hnode hobject
  have hsourced : (Node.json expr).AreSourced phrase.tokens :=
    (isKeptIn_areSourced _).of_tree?_eq_some (List.infix_refl _) htree
  obtain ⟨suffixTokens, ⟨_, _, _, hsplit, hderives, hderives'⟩, hsuffix⟩ :=
    hsourced node hnode object hobject
  -- The tokens are split where their places are taken off, and so are they with
  -- their places.
  rw [htokens] at hsplit
  obtain ⟨before, _, rfl, -, hothers⟩ := List.map_eq_append_iff.mp hsplit
  obtain ⟨slice, _, rfl, rfl, hbehind⟩ := List.map_eq_append_iff.mp hothers
  obtain ⟨suffix, after, rfl, rfl, -⟩ := List.map_eq_append_iff.mp hbehind
  rw [← List.map_append] at hderives'
  exact ⟨before, slice, suffix, after, rfl, hsuffix, hderives.areReadAs,
    hderives'.areReadAs⟩

/-- An expression is canonical, whether all tokens are read as it or those in
front. -/
theorem Reading.isCanonical (room : Nat) (stream rest : TokenStream)
    (expr : JsonExpr) :
    (complete room stream = .ok expr rest →
      expr.IsCanonical stream.tokens) ∧
    (expression room stream = .ok expr rest →
      ∃ taken, stream.tokens = taken ++ rest.tokens ∧
        expr.IsCanonical taken) := by
  constructor
  · intro h
    obtain ⟨phrase, htokens, htree, -⟩ := derivation_of_complete h
    exact JsonExpr.isCanonical_of_tree? htokens htree
  · intro h
    obtain ⟨taken, hstream, phrase, htokens, htree, -⟩ :=
      takes_expression room stream expr rest h
    exact ⟨taken, congrArg TokenStream.tokens hstream,
      JsonExpr.isCanonical_of_tree? htokens htree⟩

/-- The comparison in parentheses is a scalar, and as an object it has the one
coercion that it is read with. -/
theorem Reading.isCanonical_comparison :
    let taken : List PlacedToken :=
      [⟨0, .openParen⟩, ⟨1, .name "_"⟩, ⟨2, .dot⟩, ⟨3, .name "a"⟩,
        ⟨5, .operator .equal⟩, ⟨8, .literal (.integer 1)⟩, ⟨9, .closeParen⟩,
        ⟨10, .dot⟩, ⟨11, .name "b"⟩]
    let expr : JsonExpr :=
      .path (.ofScalar (.binary .equal (.ofJson (.path (.name "_") ["a"]))
        (.literal (.integer 1)))) ["b"]
    let behind : List PlacedToken := [⟨12, .comma⟩]
    complete 5 ⟨taken, 12⟩ = .ok expr ⟨[], 12⟩ ∧
      expression 5 ⟨taken ++ behind, 13⟩ = .ok expr ⟨behind, 13⟩ ∧
      expr.IsCanonical taken ∧
      ∃ taken', taken ++ behind = taken' ++ behind ∧
        expr.IsCanonical taken' := by
  intro taken expr behind
  have hcomplete : complete 5 ⟨taken, 12⟩ = .ok expr ⟨[], 12⟩ := rfl
  have hexpression :
      expression 5 ⟨taken ++ behind, 13⟩ = .ok expr ⟨behind, 13⟩ := rfl
  exact ⟨hcomplete, hexpression, (isCanonical _ _ _ _).1 hcomplete,
    (isCanonical _ _ _ _).2 hexpression⟩

end DocFilter
