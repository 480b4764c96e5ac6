import DocFilter.Proofs.Height.Branch
import Mathlib.Logic.Relation

/-!
# Expressions in normal form

A redex is a node that the normal form does away with: steps behind steps, or
a coercion on top of its opposite.  An expression is in normal form if there is
no redex in it at any depth.  To take a coercion off uncovers what stands in
it, and this comes to stand in a parent that may hold steps or a coercion
itself.  The parts are in normal form by then, so all that has to be seen is
that the parent does not form a redex with what was uncovered.
-/

namespace DocFilter

/-! ## Redexes -/

/-- Steps behind steps, or a coercion on top of its opposite. -/
def Node.IsRedex : Node → Prop
  | .json (.path (.path _ _) _) => True
  | .json (.ofScalar (.ofJson _)) => True
  | .scalar (.ofJson (.ofScalar _)) => True
  | _ => False

/-- No node in a node is a redex, at any depth. -/
def Node.IsNormal (node : Node) : Prop :=
  ∀ inner, Relation.ReflTransGen (fun node child => child ∈ node.children)
    node inner → ¬inner.IsRedex

/-- All nodes in a node have a property if it has the property itself and so do
all nodes in its parts. -/
theorem Node.forall_inner_iff {P : Node → Prop} {node : Node} :
    (∀ inner, Relation.ReflTransGen (fun node child => child ∈ node.children)
      node inner → P inner) ↔
      P node ∧ ∀ child ∈ node.children, ∀ inner,
        Relation.ReflTransGen (fun node child => child ∈ node.children)
          child inner → P inner := by
  constructor
  · intro h
    refine ⟨h node .refl, fun child hchild inner hinner => ?_⟩
    exact h inner (hinner.head hchild)
  · rintro ⟨hnode, hchildren⟩ inner hinner
    rcases hinner.cases_head with rfl | ⟨child, hchild, hinner⟩
    · exact hnode
    · exact hchildren child hchild inner hinner

/-- A node is in normal form if it is no redex and its parts are in normal
form. -/
theorem Node.isNormal_iff {node : Node} :
    node.IsNormal ↔
      ¬node.IsRedex ∧ ∀ child ∈ node.children, child.IsNormal :=
  forall_inner_iff

/-- An expression for a JSON value is in normal form. -/
abbrev JsonExpr.IsNormal (expr : JsonExpr) : Prop := (Node.json expr).IsNormal

/-- An expression for a scalar is in normal form. -/
abbrev ScalarExpr.IsNormal (expr : ScalarExpr) : Prop :=
  (Node.scalar expr).IsNormal

/-! ## The forms of expressions -/

namespace JsonExpr

theorem isNormal_name (text : String) : (name text).IsNormal := by
  rw [IsNormal, Node.isNormal_iff]
  simp [Node.IsRedex, Node.children]

theorem isNormal_path {object : JsonExpr} {labels : List String} :
    (path object labels).IsNormal ↔
      (∀ inner before, object ≠ path inner before) ∧ object.IsNormal := by
  rw [IsNormal, Node.isNormal_iff]
  cases object <;> simp [Node.IsRedex, Node.children]

theorem isNormal_item {object : JsonExpr} {key : ScalarExpr} :
    (item object key).IsNormal ↔ object.IsNormal ∧ key.IsNormal := by
  rw [IsNormal, Node.isNormal_iff]
  simp [Node.IsRedex, Node.children]

theorem isNormal_array {elements : List JsonExpr} :
    (array elements).IsNormal ↔ ∀ element ∈ elements, element.IsNormal := by
  rw [IsNormal, Node.isNormal_iff]
  simp [Node.IsRedex, Node.children]

theorem isNormal_ofScalar {value : ScalarExpr} :
    (ofScalar value).IsNormal ↔
      (∀ inner, value ≠ .ofJson inner) ∧ value.IsNormal := by
  rw [IsNormal, Node.isNormal_iff]
  cases value <;> simp [Node.IsRedex, Node.children]

end JsonExpr

namespace ScalarExpr

theorem isNormal_literal (value : Literal) : (literal value).IsNormal := by
  rw [IsNormal, Node.isNormal_iff]
  simp [Node.IsRedex, Node.children]

theorem isNormal_matching {style : PatternStyle}
    {subject pattern : ScalarExpr} :
    (matching style subject pattern).IsNormal ↔
      subject.IsNormal ∧ pattern.IsNormal := by
  rw [IsNormal, Node.isNormal_iff]
  simp [Node.IsRedex, Node.children]

theorem isNormal_length {object : JsonExpr} :
    (length object).IsNormal ↔ object.IsNormal := by
  rw [IsNormal, Node.isNormal_iff]
  simp [Node.IsRedex, Node.children]

theorem isNormal_includes {collection : JsonExpr} {needle : ScalarExpr} :
    (includes collection needle).IsNormal ↔
      collection.IsNormal ∧ needle.IsNormal := by
  rw [IsNormal, Node.isNormal_iff]
  simp [Node.IsRedex, Node.children]

theorem isNormal_quantified {quantifier : Quantifier} {collection : JsonExpr}
    {element : String} {condition : ScalarExpr} :
    (quantified quantifier collection element condition).IsNormal ↔
      collection.IsNormal ∧ condition.IsNormal := by
  rw [IsNormal, Node.isNormal_iff]
  simp [Node.IsRedex, Node.children]

theorem isNormal_unary {op : UnaryOp} {operand : ScalarExpr} :
    (unary op operand).IsNormal ↔ operand.IsNormal := by
  rw [IsNormal, Node.isNormal_iff]
  simp [Node.IsRedex, Node.children]

theorem isNormal_binary {op : BinaryOp} {left right : ScalarExpr} :
    (binary op left right).IsNormal ↔ left.IsNormal ∧ right.IsNormal := by
  rw [IsNormal, Node.isNormal_iff]
  simp [Node.IsRedex, Node.children]

theorem isNormal_ofJson {value : JsonExpr} :
    (ofJson value).IsNormal ↔
      (∀ inner, value ≠ .ofScalar inner) ∧ value.IsNormal := by
  rw [IsNormal, Node.isNormal_iff]
  cases value <;> simp [Node.IsRedex, Node.children]

end ScalarExpr

/-! ## What takes the place of a redex -/

namespace JsonExpr

/-- Steps are joined to those that the object ends in, and what these start
from ends in none. -/
theorem IsNormal.descend {object : JsonExpr} (h : object.IsNormal)
    (labels : List String) : (object.descend labels).IsNormal := by
  cases object with
  | path inner before => exact isNormal_path.mpr (isNormal_path.mp h)
  | name | item | array | ofScalar => exact isNormal_path.mpr ⟨by simp, h⟩

/-- A coercion is taken off, and otherwise there is none to stand on. -/
theorem IsNormal.asScalar {value : JsonExpr} (h : value.IsNormal) :
    value.asScalar.IsNormal := by
  cases value with
  | ofScalar inner => exact (isNormal_ofScalar.mp h).2
  | name | path | item | array =>
    exact ScalarExpr.isNormal_ofJson.mpr ⟨by simp, h⟩

theorem descend_of_ne_path {object : JsonExpr}
    (h : ∀ inner before, object ≠ path inner before) (labels : List String) :
    object.descend labels = path object labels := by
  cases object with
  | path inner before => exact absurd rfl (h inner before)
  | name | item | array | ofScalar => rfl

theorem asScalar_of_ne_ofScalar {value : JsonExpr}
    (h : ∀ inner, value ≠ ofScalar inner) :
    value.asScalar = .ofJson value := by
  cases value with
  | ofScalar inner => exact absurd rfl (h inner)
  | name | path | item | array => rfl

end JsonExpr

namespace ScalarExpr

/-- A coercion is taken off, and otherwise there is none to stand on. -/
theorem IsNormal.asJson {value : ScalarExpr} (h : value.IsNormal) :
    value.asJson.IsNormal := by
  cases value with
  | ofJson inner => exact (isNormal_ofJson.mp h).2
  | _ => exact JsonExpr.isNormal_ofScalar.mpr ⟨by simp, h⟩

theorem asJson_of_ne_ofJson {value : ScalarExpr}
    (h : ∀ inner, value ≠ ofJson inner) : value.asJson = .ofScalar value := by
  cases value with
  | ofJson inner => exact absurd rfl (h inner)
  | _ => rfl

end ScalarExpr

/-! ## Normal forms -/

mutual

/-- The normal form of an expression for a JSON value is in normal form. -/
theorem JsonExpr.isNormal_normalize (expr : JsonExpr) :
    expr.normalize.IsNormal := by
  cases expr with
  | name text => exact JsonExpr.isNormal_name text
  | path object labels =>
    rw [JsonExpr.normalize]
    exact object.isNormal_normalize.descend labels
  | item object key =>
    rw [JsonExpr.normalize, JsonExpr.isNormal_item]
    exact ⟨object.isNormal_normalize, key.isNormal_normalize⟩
  | array elements =>
    rw [JsonExpr.normalize, JsonExpr.isNormal_array]
    exact JsonExpr.isNormal_of_mem_normalizeAll elements
  | ofScalar value =>
    rw [JsonExpr.normalize]
    exact value.isNormal_normalize.asJson

theorem JsonExpr.isNormal_of_mem_normalizeAll (elements : List JsonExpr) :
    ∀ element ∈ JsonExpr.normalizeAll elements, element.IsNormal := by
  cases elements with
  | nil => exact List.forall_mem_nil _
  | cons element others =>
    rw [JsonExpr.normalizeAll, List.forall_mem_cons]
    exact ⟨element.isNormal_normalize,
      JsonExpr.isNormal_of_mem_normalizeAll others⟩

/-- The normal form of an expression for a scalar is in normal form. -/
theorem ScalarExpr.isNormal_normalize (expr : ScalarExpr) :
    expr.normalize.IsNormal := by
  cases expr with
  | literal value => exact ScalarExpr.isNormal_literal value
  | matching style subject pattern =>
    rw [ScalarExpr.normalize, ScalarExpr.isNormal_matching]
    exact ⟨subject.isNormal_normalize, pattern.isNormal_normalize⟩
  | length object =>
    rw [ScalarExpr.normalize, ScalarExpr.isNormal_length]
    exact object.isNormal_normalize
  | includes collection needle =>
    rw [ScalarExpr.normalize, ScalarExpr.isNormal_includes]
    exact ⟨collection.isNormal_normalize, needle.isNormal_normalize⟩
  | quantified quantifier collection element condition =>
    rw [ScalarExpr.normalize, ScalarExpr.isNormal_quantified]
    exact ⟨collection.isNormal_normalize, condition.isNormal_normalize⟩
  | unary op operand =>
    rw [ScalarExpr.normalize, ScalarExpr.isNormal_unary]
    exact operand.isNormal_normalize
  | binary op left right =>
    rw [ScalarExpr.normalize, ScalarExpr.isNormal_binary]
    exact ⟨left.isNormal_normalize, right.isNormal_normalize⟩
  | ofJson value =>
    rw [ScalarExpr.normalize]
    exact value.isNormal_normalize.asScalar

end

mutual

/-- An expression for a JSON value in normal form is left as it is. -/
theorem JsonExpr.normalize_of_isNormal (expr : JsonExpr) (h : expr.IsNormal) :
    expr.normalize = expr := by
  cases expr with
  | name text => rw [JsonExpr.normalize]
  | path object labels =>
    obtain ⟨hne, hobject⟩ := JsonExpr.isNormal_path.mp h
    rw [JsonExpr.normalize, object.normalize_of_isNormal hobject,
      JsonExpr.descend_of_ne_path hne]
  | item object key =>
    obtain ⟨hobject, hkey⟩ := JsonExpr.isNormal_item.mp h
    rw [JsonExpr.normalize, object.normalize_of_isNormal hobject,
      key.normalize_of_isNormal hkey]
  | array elements =>
    have helements := JsonExpr.isNormal_array.mp h
    rw [JsonExpr.normalize,
      JsonExpr.normalizeAll_of_forall_isNormal elements helements]
  | ofScalar value =>
    obtain ⟨hne, hvalue⟩ := JsonExpr.isNormal_ofScalar.mp h
    rw [JsonExpr.normalize, value.normalize_of_isNormal hvalue,
      ScalarExpr.asJson_of_ne_ofJson hne]

theorem JsonExpr.normalizeAll_of_forall_isNormal (elements : List JsonExpr)
    (h : ∀ element ∈ elements, element.IsNormal) :
    JsonExpr.normalizeAll elements = elements := by
  cases elements with
  | nil => rw [JsonExpr.normalizeAll]
  | cons element others =>
    obtain ⟨helement, hothers⟩ := List.forall_mem_cons.mp h
    rw [JsonExpr.normalizeAll, element.normalize_of_isNormal helement,
      JsonExpr.normalizeAll_of_forall_isNormal others hothers]

/-- An expression for a scalar in normal form is left as it is. -/
theorem ScalarExpr.normalize_of_isNormal (expr : ScalarExpr)
    (h : expr.IsNormal) : expr.normalize = expr := by
  cases expr with
  | literal value => rw [ScalarExpr.normalize]
  | matching style subject pattern =>
    obtain ⟨hsubject, hpattern⟩ := ScalarExpr.isNormal_matching.mp h
    rw [ScalarExpr.normalize, subject.normalize_of_isNormal hsubject,
      pattern.normalize_of_isNormal hpattern]
  | length object =>
    rw [ScalarExpr.normalize,
      object.normalize_of_isNormal (ScalarExpr.isNormal_length.mp h)]
  | includes collection needle =>
    obtain ⟨hcollection, hneedle⟩ := ScalarExpr.isNormal_includes.mp h
    rw [ScalarExpr.normalize, collection.normalize_of_isNormal hcollection,
      needle.normalize_of_isNormal hneedle]
  | quantified quantifier collection element condition =>
    obtain ⟨hcollection, hcondition⟩ := ScalarExpr.isNormal_quantified.mp h
    rw [ScalarExpr.normalize, collection.normalize_of_isNormal hcollection,
      condition.normalize_of_isNormal hcondition]
  | unary op operand =>
    rw [ScalarExpr.normalize,
      operand.normalize_of_isNormal (ScalarExpr.isNormal_unary.mp h)]
  | binary op left right =>
    obtain ⟨hleft, hright⟩ := ScalarExpr.isNormal_binary.mp h
    rw [ScalarExpr.normalize, left.normalize_of_isNormal hleft,
      right.normalize_of_isNormal hright]
  | ofJson value =>
    obtain ⟨hne, hvalue⟩ := ScalarExpr.isNormal_ofJson.mp h
    rw [ScalarExpr.normalize, value.normalize_of_isNormal hvalue,
      JsonExpr.asScalar_of_ne_ofScalar hne]

end

/-- An expression is its own normal form if and only if there is no redex in
it. -/
theorem JsonExpr.normalize_eq_self_iff (expr : JsonExpr) :
    expr.normalize = expr ↔ expr.IsNormal :=
  ⟨fun h => h ▸ expr.isNormal_normalize, expr.normalize_of_isNormal⟩

/-- An expression is its own normal form if and only if there is no redex in
it. -/
theorem ScalarExpr.normalize_eq_self_iff (expr : ScalarExpr) :
    expr.normalize = expr ↔ expr.IsNormal :=
  ⟨fun h => h ▸ expr.isNormal_normalize, expr.normalize_of_isNormal⟩

/-- One pass is enough.  There is no redex left in the normal form of an
expression of either sort, an expression without redexes is left as it is and no
other one is, and hence a second pass changes nothing. -/
theorem isNormal_normalize_and_normalize_eq_self_iff :
    (∀ expr : JsonExpr, expr.normalize.IsNormal ∧
      (expr.normalize = expr ↔ expr.IsNormal) ∧
        expr.normalize.normalize = expr.normalize) ∧
    ∀ expr : ScalarExpr, expr.normalize.IsNormal ∧
      (expr.normalize = expr ↔ expr.IsNormal) ∧
        expr.normalize.normalize = expr.normalize := by
  constructor
  · intro expr
    have hnormal := expr.isNormal_normalize
    exact ⟨hnormal, expr.normalize_eq_self_iff,
      expr.normalize.normalize_of_isNormal hnormal⟩
  · intro expr
    have hnormal := expr.isNormal_normalize
    exact ⟨hnormal, expr.normalize_eq_self_iff,
      expr.normalize.normalize_of_isNormal hnormal⟩

end DocFilter
