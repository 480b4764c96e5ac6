import DocFilter.Expr.Normal

/-!
# Branches of a tree

A branch of an expression leads from the expression itself over its parts down
to an expression without parts.  The depth of an expression is the greatest
weight of its branches.  Coercions have a weight of their own, so that the same
function counts all nodes of a branch or only those that are no coercions.
Normal forms are no deeper than what they are normal forms of.
-/

namespace DocFilter

/-! ## Nodes -/

/-- An expression of either sort. -/
inductive Node where
  | json (expr : JsonExpr)
  | scalar (expr : ScalarExpr)

/-- The expressions that an expression is put together from. -/
def Node.children : Node → List Node
  | .json (.name _) => []
  | .json (.path object _) => [.json object]
  | .json (.item object key) => [.json object, .scalar key]
  | .json (.array elements) => elements.map .json
  | .json (.ofScalar value) => [.scalar value]
  | .scalar (.literal _) => []
  | .scalar (.matching _ subject pattern) => [.scalar subject, .scalar pattern]
  | .scalar (.length object) => [.json object]
  | .scalar (.includes collection needle) => [.json collection, .scalar needle]
  | .scalar (.quantified _ collection _ condition) =>
    [.json collection, .scalar condition]
  | .scalar (.unary _ operand) => [.scalar operand]
  | .scalar (.binary _ left right) => [.scalar left, .scalar right]
  | .scalar (.ofJson value) => [.json value]

/-- Whether an expression only takes another one over into its own sort. -/
def Node.isCoercion : Node → Bool
  | .json (.ofScalar _) | .scalar (.ofJson _) => true
  | _ => false

/-- The nodes on a way from a node over its children to a node without
children. -/
inductive IsBranch : Node → List Node → Prop
  | leaf {node : Node} (h : node.children = []) : IsBranch node [node]
  | step {node child : Node} {branch : List Node} (h : child ∈ node.children)
    (hbranch : IsBranch child branch) : IsBranch node (node :: branch)

/-! ## Depths -/

mutual

/-- The greatest weight of a branch, where a coercion weighs `weight` and every
other node weighs one. -/
def JsonExpr.depth (weight : Nat) : JsonExpr → Nat
  | .name _ => 1
  | .path object _ => object.depth weight + 1
  | .item object key => max (object.depth weight) (key.depth weight) + 1
  | .array elements => JsonExpr.depthAll weight elements + 1
  | .ofScalar value => value.depth weight + weight

/-- The greatest depth of some expressions, or zero. -/
def JsonExpr.depthAll (weight : Nat) : List JsonExpr → Nat
  | [] => 0
  | element :: others =>
    max (element.depth weight) (JsonExpr.depthAll weight others)

/-- The greatest weight of a branch of an expression for a scalar. -/
def ScalarExpr.depth (weight : Nat) : ScalarExpr → Nat
  | .literal _ => 1
  | .matching _ subject pattern =>
    max (subject.depth weight) (pattern.depth weight) + 1
  | .length object => object.depth weight + 1
  | .includes collection needle =>
    max (collection.depth weight) (needle.depth weight) + 1
  | .quantified _ collection _ condition =>
    max (collection.depth weight) (condition.depth weight) + 1
  | .unary _ operand => operand.depth weight + 1
  | .binary _ left right => max (left.depth weight) (right.depth weight) + 1
  | .ofJson value => value.depth weight + weight

end

/-- The depth of an expression of either sort. -/
def Node.depth (weight : Nat) : Node → Nat
  | .json expr => expr.depth weight
  | .scalar expr => expr.depth weight

/-- The weight of a node alone. -/
def Node.weigh (weight : Nat) (node : Node) : Nat :=
  if node.isCoercion then weight else 1

variable {weight : Nat}

theorem JsonExpr.depthAll_le_iff {elements : List JsonExpr} {bound : Nat} :
    depthAll weight elements ≤ bound ↔
      ∀ element ∈ elements, element.depth weight ≤ bound := by
  induction elements with
  | nil => simp [depthAll]
  | cons element others ih =>
    rw [depthAll, Nat.max_le, ih, List.forall_mem_cons]

/-- A node adds its own weight to the depth of each child. -/
theorem Node.depth_add_weigh_le {node child : Node}
    (h : child ∈ node.children) :
    child.depth weight + node.weigh weight ≤ node.depth weight := by
  cases node with
  | json expr =>
    cases expr with
    | name => cases h
    | array elements =>
      obtain ⟨element, helement, rfl⟩ := List.mem_map.mp h
      have hall := JsonExpr.depthAll_le_iff.mp
        (Nat.le_refl (JsonExpr.depthAll weight elements)) element helement
      exact Nat.succ_le_succ hall
    | path | item | ofScalar =>
      simp only [children, List.mem_cons, List.not_mem_nil, or_false] at h
      rcases h with rfl | rfl <;>
        simp only [depth, JsonExpr.depth, weigh, isCoercion, if_true,
          Bool.false_eq_true, if_false] <;> omega
  | scalar expr =>
    cases expr with
    | literal => cases h
    | _ =>
      simp only [children, List.mem_cons, List.not_mem_nil, or_false] at h
      rcases h with rfl | rfl <;>
        simp only [depth, ScalarExpr.depth, weigh, isCoercion, if_true,
          Bool.false_eq_true, if_false] <;> omega

/-- A node without children is no coercion. -/
theorem Node.weigh_le_depth {node : Node} (h : node.children = []) :
    node.weigh weight ≤ node.depth weight := by
  cases node with
  | json expr =>
    cases expr with
    | name => exact Nat.le_refl 1
    | array elements => exact Nat.succ_le_succ (Nat.zero_le _)
    | _ => cases h
  | scalar expr =>
    cases expr with
    | literal => exact Nat.le_refl 1
    | _ => cases h

/-- The weight of a node in front of a branch. -/
theorem weigh_add_countP (weight : Nat) (node : Node) (branch : List Node) :
    node.weigh weight + (branch.countP (fun node => !node.isCoercion) +
      weight * branch.countP Node.isCoercion) =
      (node :: branch).countP (fun node => !node.isCoercion) +
        weight * (node :: branch).countP Node.isCoercion := by
  rw [List.countP_cons, List.countP_cons, Nat.mul_add, Node.weigh]
  cases node.isCoercion with
  | true =>
    have hone : weight * (if true = true then 1 else 0) = weight :=
      Nat.mul_one weight
    simp only [if_true, Bool.not_true, Bool.false_eq_true, if_false] at hone ⊢
    omega
  | false =>
    simp only [if_true, Bool.not_false, Bool.false_eq_true, if_false,
      Nat.mul_zero]
    omega

/-- No branch weighs more than the depth. -/
theorem IsBranch.countP_add_le {node : Node} {branch : List Node}
    (h : IsBranch node branch) :
    branch.countP (fun node => !node.isCoercion) +
        weight * branch.countP Node.isCoercion ≤
      node.depth weight := by
  induction h with
  | @leaf node h =>
    rw [← weigh_add_countP]
    exact Node.weigh_le_depth h
  | step h _ ih =>
    rw [← weigh_add_countP]
    have hchild := @Node.depth_add_weigh_le weight _ _ h
    omega

/-- With weight zero, coercions are not counted. -/
theorem IsBranch.countP_le {node : Node} {branch : List Node}
    (h : IsBranch node branch) :
    branch.countP (fun node => !node.isCoercion) ≤ node.depth 0 := by
  have hweight := @IsBranch.countP_add_le 0 _ _ h
  rwa [Nat.zero_mul] at hweight

/-- With weight one, all nodes are counted. -/
theorem IsBranch.length_le {node : Node} {branch : List Node}
    (h : IsBranch node branch) : branch.length ≤ node.depth 1 := by
  have hweight := @IsBranch.countP_add_le 1 _ _ h
  have hlength := List.length_eq_countP_add_countP Node.isCoercion (l := branch)
  simp only [Bool.not_eq_true, Bool.decide_eq_false] at hlength
  omega

/-! ## Coercions -/

theorem ScalarExpr.depth_asJson_le (expr : ScalarExpr) :
    expr.asJson.depth weight ≤ expr.depth weight + weight := by
  cases expr with
  | ofJson value =>
    simp only [asJson, depth]
    omega
  | _ => exact Nat.le_refl _

theorem JsonExpr.depth_asScalar_le (expr : JsonExpr) :
    expr.asScalar.depth weight ≤ expr.depth weight + weight := by
  cases expr with
  | ofScalar value =>
    simp only [asScalar, depth]
    omega
  | _ => exact Nat.le_refl _

/-! ## Normal forms -/

theorem JsonExpr.depth_descend_le (object : JsonExpr) (labels : List String) :
    (object.descend labels).depth weight ≤ object.depth weight + 1 := by
  cases object with
  | path inner before => exact Nat.le_succ _
  | _ => exact Nat.le_refl _

mutual

theorem JsonExpr.depth_normalize_le (weight : Nat) :
    (expr : JsonExpr) → expr.normalize.depth weight ≤ expr.depth weight
  | .name _ => Nat.le_refl 1
  | .path object labels => by
    have hobject := JsonExpr.depth_normalize_le weight object
    have hdescend := @JsonExpr.depth_descend_le weight object.normalize labels
    simp only [JsonExpr.normalize, JsonExpr.depth]
    omega
  | .item object key => by
    have hobject := JsonExpr.depth_normalize_le weight object
    have hkey := ScalarExpr.depth_normalize_le weight key
    simp only [JsonExpr.normalize, JsonExpr.depth]
    omega
  | .array elements => by
    have helements := JsonExpr.depthAll_normalizeAll_le weight elements
    simp only [JsonExpr.normalize, JsonExpr.depth]
    omega
  | .ofScalar value => by
    have hvalue := ScalarExpr.depth_normalize_le weight value
    have hasJson := @ScalarExpr.depth_asJson_le weight value.normalize
    simp only [JsonExpr.normalize, JsonExpr.depth]
    omega

theorem JsonExpr.depthAll_normalizeAll_le (weight : Nat) :
    (elements : List JsonExpr) →
      JsonExpr.depthAll weight (JsonExpr.normalizeAll elements) ≤
        JsonExpr.depthAll weight elements
  | [] => Nat.le_refl 0
  | element :: others => by
    have helement := JsonExpr.depth_normalize_le weight element
    have hothers := JsonExpr.depthAll_normalizeAll_le weight others
    simp only [JsonExpr.normalizeAll, JsonExpr.depthAll]
    omega

theorem ScalarExpr.depth_normalize_le (weight : Nat) :
    (expr : ScalarExpr) → expr.normalize.depth weight ≤ expr.depth weight
  | .literal _ => Nat.le_refl 1
  | .matching _ subject pattern => by
    have hsubject := ScalarExpr.depth_normalize_le weight subject
    have hpattern := ScalarExpr.depth_normalize_le weight pattern
    simp only [ScalarExpr.normalize, ScalarExpr.depth]
    omega
  | .length object => by
    have hobject := JsonExpr.depth_normalize_le weight object
    simp only [ScalarExpr.normalize, ScalarExpr.depth]
    omega
  | .includes collection needle => by
    have hcollection := JsonExpr.depth_normalize_le weight collection
    have hneedle := ScalarExpr.depth_normalize_le weight needle
    simp only [ScalarExpr.normalize, ScalarExpr.depth]
    omega
  | .quantified _ collection _ condition => by
    have hcollection := JsonExpr.depth_normalize_le weight collection
    have hcondition := ScalarExpr.depth_normalize_le weight condition
    simp only [ScalarExpr.normalize, ScalarExpr.depth]
    omega
  | .unary _ operand => by
    have hoperand := ScalarExpr.depth_normalize_le weight operand
    simp only [ScalarExpr.normalize, ScalarExpr.depth]
    omega
  | .binary _ left right => by
    have hleft := ScalarExpr.depth_normalize_le weight left
    have hright := ScalarExpr.depth_normalize_le weight right
    simp only [ScalarExpr.normalize, ScalarExpr.depth]
    omega
  | .ofJson value => by
    have hvalue := JsonExpr.depth_normalize_le weight value
    have hasScalar := @JsonExpr.depth_asScalar_le weight value.normalize
    simp only [ScalarExpr.normalize, ScalarExpr.depth]
    omega

end

end DocFilter
