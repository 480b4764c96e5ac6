import DocFilter.Proofs.Grammar.Inversion
import DocFilter.Proofs.Grammar.Shape
import DocFilter.Proofs.Height.Branch
import Mathlib.Tactic.SplitIfs

/-!
# The height of a phrase bounds its tree

A tree fits into a height if none of its branches has more nodes than that,
apart from coercions, and at most one coercion stands on top of each of them.
The tree of every phrase fits into the height of the phrase.  An atom and the
object of a suffix fit into one level more, which is the level that the operand
of a comparison takes around them.
-/

namespace DocFilter

/-- The tree is no deeper than a height, and no more than twice as deep with
all coercions, whether it is taken as a JSON value or as a scalar. -/
structure Fits (height : Nat) (expr : JsonExpr) : Prop where
  depth_zero_le : expr.depth 0 ≤ height
  depth_one_le : expr.depth 1 ≤ 2 * height
  depth_one_asScalar_le : expr.asScalar.depth 1 ≤ 2 * height

namespace Fits

variable {height : Nat} {expr object left right : JsonExpr}

theorem mono {height' : Nat} (h : Fits height expr) (hle : height ≤ height') :
    Fits height' expr where
  depth_zero_le := Nat.le_trans h.depth_zero_le hle
  depth_one_le := Nat.le_trans h.depth_one_le (Nat.mul_le_mul_left 2 hle)
  depth_one_asScalar_le :=
    Nat.le_trans h.depth_one_asScalar_le (Nat.mul_le_mul_left 2 hle)

theorem depth_zero_asScalar_le (h : Fits height expr) :
    expr.asScalar.depth 0 ≤ height :=
  Nat.le_trans (expr.depth_asScalar_le) h.depth_zero_le

/-- A scalar that is no coercion, on top of parts of a height, takes one level
and brings one coercion with it. -/
theorem ofScalar {value : ScalarExpr} (hzero : value.depth 0 ≤ height + 1)
    (hone : value.depth 1 ≤ 2 * height + 1) :
    Fits (height + 1) (.ofScalar value) where
  depth_zero_le := hzero
  depth_one_le := Nat.succ_le_succ hone
  depth_one_asScalar_le := Nat.le_succ_of_le hone

/-- A JSON value that is no coercion, on top of parts of a height, takes one
level and one coercion where it is taken as a scalar. -/
theorem ofJson (hzero : expr.depth 0 ≤ height + 1)
    (hone : expr.depth 1 ≤ 2 * height + 1) : Fits (height + 1) expr where
  depth_zero_le := hzero
  depth_one_le := Nat.le_succ_of_le hone
  depth_one_asScalar_le := by
    have hasScalar := @JsonExpr.depth_asScalar_le 1 expr
    omega

/-! ### The forms of trees -/

theorem literal (value : Literal) (height : Nat) :
    Fits (height + 1) (.ofScalar (.literal value)) := by
  apply ofScalar <;> exact Nat.succ_le_succ (Nat.zero_le _)

theorem name (text : String) (height : Nat) : Fits (height + 1) (.name text) := by
  apply ofJson <;> exact Nat.succ_le_succ (Nat.zero_le _)

theorem path (label : String) (h : Fits height object) :
    Fits (height + 1) (.path object [label]) :=
  ofJson (Nat.succ_le_succ h.depth_zero_le) (Nat.succ_le_succ h.depth_one_le)

theorem length (h : Fits height object) :
    Fits (height + 1) (.ofScalar (.length object)) :=
  ofScalar (Nat.succ_le_succ h.depth_zero_le) (Nat.succ_le_succ h.depth_one_le)

theorem item {key : JsonExpr} (hobject : Fits height object)
    (hkey : Fits height key) :
    Fits (height + 1) (.item object key.asScalar) := by
  apply ofJson
  · exact Nat.succ_le_succ
      (Nat.max_le.mpr ⟨hobject.depth_zero_le, hkey.depth_zero_asScalar_le⟩)
  · exact Nat.succ_le_succ
      (Nat.max_le.mpr ⟨hobject.depth_one_le, hkey.depth_one_asScalar_le⟩)

theorem array {elements : List JsonExpr}
    (h : ∀ element ∈ elements, Fits height element) :
    Fits (height + 1) (.array elements) := by
  apply ofJson
  · apply Nat.succ_le_succ
    rw [JsonExpr.depthAll_le_iff]
    exact fun element helement => (h element helement).depth_zero_le
  · apply Nat.succ_le_succ
    rw [JsonExpr.depthAll_le_iff]
    exact fun element helement => (h element helement).depth_one_le

theorem unary (op : UnaryOp) (h : Fits height expr) :
    Fits (height + 1) (.ofScalar (.unary op expr.asScalar)) :=
  ofScalar (Nat.succ_le_succ h.depth_zero_asScalar_le)
    (Nat.succ_le_succ h.depth_one_asScalar_le)

theorem binary (op : BinaryOp) (hleft : Fits height left)
    (hright : Fits height right) :
    Fits (height + 1) (.ofScalar (.binary op left.asScalar right.asScalar)) := by
  apply ofScalar
  · exact Nat.succ_le_succ (Nat.max_le.mpr
      ⟨hleft.depth_zero_asScalar_le, hright.depth_zero_asScalar_le⟩)
  · exact Nat.succ_le_succ (Nat.max_le.mpr
      ⟨hleft.depth_one_asScalar_le, hright.depth_one_asScalar_le⟩)

theorem matching (style : PatternStyle) {subject pattern : JsonExpr}
    (hsubject : Fits height subject) (hpattern : Fits height pattern) :
    Fits (height + 1)
      (.ofScalar (.matching style subject.asScalar pattern.asScalar)) := by
  apply ofScalar
  · exact Nat.succ_le_succ (Nat.max_le.mpr
      ⟨hsubject.depth_zero_asScalar_le, hpattern.depth_zero_asScalar_le⟩)
  · exact Nat.succ_le_succ (Nat.max_le.mpr
      ⟨hsubject.depth_one_asScalar_le, hpattern.depth_one_asScalar_le⟩)

theorem includes {needle : JsonExpr} (hobject : Fits height object)
    (hneedle : Fits height needle) :
    Fits (height + 1) (.ofScalar (.includes object needle.asScalar)) := by
  apply ofScalar
  · exact Nat.succ_le_succ (Nat.max_le.mpr
      ⟨hobject.depth_zero_le, hneedle.depth_zero_asScalar_le⟩)
  · exact Nat.succ_le_succ (Nat.max_le.mpr
      ⟨hobject.depth_one_le, hneedle.depth_one_asScalar_le⟩)

theorem quantified (quantifier : Quantifier) (element : String)
    {condition : JsonExpr} (hobject : Fits height object)
    (hcondition : Fits height condition) :
    Fits (height + 1) (.ofScalar
      (.quantified quantifier object element condition.asScalar)) := by
  apply ofScalar
  · exact Nat.succ_le_succ (Nat.max_le.mpr
      ⟨hobject.depth_zero_le, hcondition.depth_zero_asScalar_le⟩)
  · exact Nat.succ_le_succ (Nat.max_le.mpr
      ⟨hobject.depth_one_le, hcondition.depth_one_asScalar_le⟩)

end Fits

namespace Grammar

/-! ## Phrases -/

/-- A higher phrase below makes no phrase less high. -/
theorem Phrase.heightOver_mono {category : Category} (phrase : Phrase category)
    {below below' : Nat} (h : below ≤ below') :
    phrase.heightOver below ≤ phrase.heightOver below' := by
  induction phrase generalizing below below' with
  | chain | signed | accessor =>
    simp only [heightOver]
    omega
  | link _ _ _ ih | method _ _ ih | key _ ih => exact Nat.succ_le_succ (ih h)
  | property => exact Nat.succ_le_succ h
  | literal | name | noItems | nil => exact h
  | call _ _ ih | group _ ih | array _ ih | plain _ ih | arrow _ _ ih
  | next _ ih =>
    exact ih h
  | items first others ihFirst ihOthers | cons first others ihFirst ihOthers =>
    exact ihOthers (ihFirst h)

/-- What an item stands for fits into a height. -/
def Category.ItemFits (height : Nat) :
    (category : Category) → category.Tree → Prop
  | .value .atom, tree => Fits (height + 1) tree
  | .value _, tree => Fits height tree
  | .argument, .plain body => Fits height body
  | .argument, .arrow _ body => Fits height body
  | _, _ => True

/-- What a phrase stands for fits into the height that the phrase has over
what lies below it.  Links and suffixes stand for steps, which lead from a tree
that fits to another one that fits. -/
def Category.Fits (heightOver : Nat → Nat) :
    (category : Category) → category.Tree → Prop
  | .link _, pair => ∀ height left, DocFilter.Fits height left →
    DocFilter.Fits (heightOver height) (binaryTree left pair)
  | .suffix, step => ∀ height object result,
    DocFilter.Fits (height + 1) object → step object = some result →
      DocFilter.Fits (heightOver height + 1) result
  | .items item, trees => ∀ tree ∈ trees, item.ItemFits (heightOver 0) tree
  | .next item, tree => item.ItemFits (heightOver 0) tree
  | .many (.link _), links => ∀ height left, DocFilter.Fits height left →
    DocFilter.Fits (heightOver height) (links.foldl binaryTree left)
  | .many .suffix, steps => ∀ height object result,
    DocFilter.Fits (height + 1) object →
      steps.foldlM (fun object step => step object) object = some result →
      DocFilter.Fits (heightOver height + 1) result
  | .many (.next item), trees =>
    ∀ tree ∈ trees, item.ItemFits (heightOver 0) tree
  | .many _, _ => True
  | category, tree => category.ItemFits (heightOver 0) tree

theorem Category.Fits.itemFits
    {heightOver : Nat → Nat} {category : Category} {tree : category.Tree}
    (h : category.Fits heightOver tree) :
    category.ItemFits (heightOver 0) tree := by
  cases category with
  | value | argument => exact h
  | _ => trivial

theorem Category.ItemFits.mono
    {category : Category} {tree : category.Tree} {height height' : Nat}
    (h : category.ItemFits height tree) (hle : height ≤ height') :
    category.ItemFits height' tree := by
  cases category with
  | value level =>
    cases level with
    | atom => exact DocFilter.Fits.mono h (Nat.succ_le_succ hle)
    | chain | negated => exact DocFilter.Fits.mono h hle
  | argument => cases tree <;> exact DocFilter.Fits.mono h hle
  | _ => trivial

/-- The operands of a tier fit into their height. -/
theorem Category.Fits.operand
    {heightOver : Nat → Nat} {tier : Tier} {tree : JsonExpr}
    (h : (Category.value (.operand tier)).Fits heightOver tree) :
    DocFilter.Fits (heightOver 0) tree := by
  cases tier <;> exact h

theorem fits_propertyTree
    {height : Nat} {object : JsonExpr} (h : Fits height object)
    (label : String) : Fits (height + 1) (propertyTree object label) := by
  unfold propertyTree
  split_ifs
  · exact h.length
  · exact h.path label

theorem fits_methodTree?
    {height : Nat} {object result : JsonExpr} {callee : String}
    {arguments : List ArgumentTree} (hobject : Fits height object)
    (harguments : ∀ argument ∈ arguments,
      Category.argument.ItemFits height argument)
    (hresult : methodTree? object callee arguments = some result) :
    Fits (height + 1) result := by
  unfold methodTree? at hresult
  split at hresult
  · split_ifs at hresult <;> cases hresult <;> exact hobject.unary _
  next needle =>
    have hneedle : Fits height needle := harguments _ List.mem_cons_self
    split_ifs at hresult
    cases hresult
    exact hobject.includes hneedle
  next element body =>
    have hbody : Fits height body := harguments _ List.mem_cons_self
    split_ifs at hresult <;> cases hresult <;>
      exact hobject.quantified _ element hbody
  · cases hresult

theorem fits_functionTree?
    {height : Nat} {result : JsonExpr} {callee : String}
    {arguments : List ArgumentTree}
    (harguments : ∀ argument ∈ arguments,
      Category.argument.ItemFits height argument)
    (hresult : functionTree? callee arguments = some result) :
    Fits (height + 1) result := by
  unfold functionTree? at hresult
  split at hresult
  next subject pattern =>
    have hsubject : Fits height subject := harguments _ List.mem_cons_self
    have hpattern : Fits height pattern :=
      harguments _ (List.mem_cons_of_mem _ List.mem_cons_self)
    split_ifs at hresult <;> cases hresult <;> exact hsubject.matching _ hpattern
  next => cases hresult

/-- Items that stand before others are no higher than all of them. -/
theorem itemFits_of_mem_cons
    {item : Category} {others : Phrase (.many (.next item))} {height : Nat}
    {head : item.Tree} {tail : List item.Tree}
    (hhead : item.ItemFits height head)
    (htail : ∀ tree ∈ tail, item.ItemFits (others.heightOver 0) tree) :
    ∀ tree ∈ head :: tail, item.ItemFits (others.heightOver height) tree := by
  rw [List.forall_mem_cons]
  constructor
  · exact hhead.mono (others.le_heightOver height)
  · intro tree htree
    exact (htail tree htree).mono (others.heightOver_mono (Nat.zero_le height))

theorem fits_nil (part : Category) :
    (Category.many part).Fits (Phrase.nil : Phrase (.many part)).heightOver [] := by
  cases part with
  | link => exact fun height left hleft => hleft
  | suffix =>
    intro height object result hobject hresult
    cases hresult
    exact hobject
  | next item => exact List.forall_mem_nil _
  | _ => trivial

/-- Of several phrases the first one leads to what the others start from. -/
theorem fits_cons
    {part : Category} {first : Phrase part} {others : Phrase (.many part)}
    {tree : part.Tree} {trees : List part.Tree}
    (hfirst : part.Fits first.heightOver tree)
    (hothers : (Category.many part).Fits others.heightOver trees) :
    (Category.many part).Fits (Phrase.cons first others).heightOver
      (tree :: trees) := by
  cases part with
  | link tier =>
    intro height left hleft
    exact hothers _ _ (hfirst height left hleft)
  | suffix =>
    intro height object result hobject hresult
    rw [List.foldlM_cons] at hresult
    obtain ⟨middle, hmiddle, hresult⟩ := Option.bind_eq_some_iff.mp hresult
    exact hothers _ _ result (hfirst height object middle hobject hmiddle)
      hresult
  | next item => exact itemFits_of_mem_cons hfirst hothers
  | _ => trivial

/-- The tree of every phrase fits into the height of the phrase. -/
theorem fits_of_tree?_eq_some
    {category : Category} {phrase : Phrase category} {tree : category.Tree}
    (h : phrase.tree? = some tree) : category.Fits phrase.heightOver tree := by
  induction phrase with
  | chain first links ihFirst ihLinks =>
    obtain ⟨left, hleft, trees, htrees, rfl⟩ := Phrase.tree?_chain_eq_some.mp h
    exact (ihLinks htrees _ left (ihFirst hleft).operand).mono
      (Nat.le_max_right 0 _)
  | link op htier operand ih =>
    obtain ⟨right, hright, rfl⟩ := Phrase.tree?_link_eq_some.mp h
    intro height left hleft
    have hle := operand.heightOver_mono (Nat.zero_le height)
    exact Fits.binary op (hleft.mono (operand.le_heightOver height))
      ((ih hright).operand.mono hle)
  | signed sign operand ih =>
    obtain ⟨inner, hinner, rfl⟩ := Phrase.tree?_signed_eq_some.mp h
    have hoperand : Fits (operand.heightOver 0) inner := ih hinner
    exact (hoperand.unary sign.op).mono (Nat.le_max_right 0 _)
  | accessor atom suffixes ihAtom ihSuffixes =>
    obtain ⟨object, hobject, steps, hsteps, hresult⟩ :=
      Phrase.tree?_accessor_eq_some.mp h
    have hfits := ihSuffixes hsteps _ object tree (ihAtom hobject) hresult
    exact hfits.mono (Nat.le_max_right 0 _)
  | property label =>
    cases h
    intro height object result hobject hresult
    cases hresult
    exact fits_propertyTree hobject label
  | method callee arguments ih =>
    obtain ⟨trees, htrees, rfl⟩ := Phrase.tree?_method_eq_some.mp h
    intro height object result hobject hresult
    -- The object and the arguments stand side by side below the call, so both
    -- are taken to the greater one of their heights.
    have hobject' : Fits (arguments.heightOver height + 1) object :=
      hobject.mono (Nat.succ_le_succ (arguments.le_heightOver height))
    have hle := arguments.heightOver_mono (Nat.zero_le height)
    apply fits_methodTree? hobject' _ hresult
    intro argument hargument
    exact Category.ItemFits.mono (ih htrees argument hargument)
      (Nat.le_succ_of_le hle)
  | key inner ih =>
    obtain ⟨key, hkey, rfl⟩ := Phrase.tree?_key_eq_some.mp h
    intro height object result hobject hresult
    cases hresult
    have hkey' : Fits (inner.heightOver 0) key := ih hkey
    have hle := inner.heightOver_mono (Nat.zero_le height)
    exact Fits.item
      (hobject.mono (Nat.succ_le_succ (inner.le_heightOver height)))
      (hkey'.mono (Nat.le_succ_of_le hle))
  | literal value =>
    cases h
    exact Fits.literal value 0
  | name text =>
    cases h
    exact Fits.name text 0
  | call callee arguments ih =>
    obtain ⟨trees, htrees, hcall⟩ := Phrase.tree?_call_eq_some.mp h
    exact fits_functionTree? (ih htrees) hcall
  | group inner ih => exact Fits.mono (ih h) (Nat.le_succ _)
  | array elements ih =>
    obtain ⟨trees, htrees, rfl⟩ := Phrase.tree?_array_eq_some.mp h
    exact Fits.array (ih htrees)
  | plain body ih =>
    obtain ⟨inner, hinner, rfl⟩ := Phrase.tree?_plain_eq_some.mp h
    exact ih hinner
  | arrow element body ih =>
    obtain ⟨inner, hinner, rfl⟩ := Phrase.tree?_arrow_eq_some.mp h
    exact ih hinner
  | noItems =>
    cases h
    exact List.forall_mem_nil _
  | items first others ihFirst ihOthers =>
    obtain ⟨head, hhead, tail, htail, rfl⟩ := Phrase.tree?_items_eq_some.mp h
    exact itemFits_of_mem_cons (ihFirst hhead).itemFits (ihOthers htail)
  | next following ih => exact Category.Fits.itemFits (ih h)
  | nil =>
    cases h
    exact fits_nil _
  | cons first others ihFirst ihOthers =>
    obtain ⟨head, hhead, tail, htail, rfl⟩ := Phrase.tree?_cons_eq_some.mp h
    exact fits_cons (ihFirst hhead) (ihOthers htail)

end Grammar

end DocFilter
