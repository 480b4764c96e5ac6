import DocFilter.Proofs.Scoping.FreeNames

/-!
# Names of elements

Two expressions that differ only in the names of the elements of their
quantifiers become the same SQL.  The names are compared under the quantifiers
around them: two names are the same there if the innermost quantifiers that one
of them is an element of are at the same place, or if neither of them is an
element and they are equal.  A renaming that captures a name is excluded by
this.
-/

namespace DocFilter

/-! ## Expressions up to the names of elements -/

/-- The elements of quantifiers around two places of two expressions, the
innermost first. -/
abbrev ElementPairs := List (String × String)

/-- Two names refer to the same quantifier, or they are the same name and refer
to none. -/
def ElementPairs.Match : ElementPairs → String → String → Prop
  | [], name, other => name = other
  | (element, element') :: outer, name, other =>
    name = element ∧ other = element' ∨
      name ≠ element ∧ other ≠ element' ∧ ElementPairs.Match outer name other

mutual

/-- Two expressions for a JSON value are equal up to the names of elements. -/
inductive JsonExpr.IsRenamed : ElementPairs → JsonExpr → JsonExpr → Prop
  | name {pairs : ElementPairs} {text text' : String}
    (h : pairs.Match text text') :
    JsonExpr.IsRenamed pairs (.name text) (.name text')
  | path {pairs : ElementPairs} {object object' : JsonExpr}
    (h : JsonExpr.IsRenamed pairs object object') (labels : List String) :
    JsonExpr.IsRenamed pairs (.path object labels) (.path object' labels)
  | item {pairs : ElementPairs} {object object' : JsonExpr}
    {key key' : ScalarExpr} (hobject : JsonExpr.IsRenamed pairs object object')
    (hkey : ScalarExpr.IsRenamed pairs key key') :
    JsonExpr.IsRenamed pairs (.item object key) (.item object' key')
  | array {pairs : ElementPairs} {elements elements' : List JsonExpr}
    (h : JsonExpr.AreRenamed pairs elements elements') :
    JsonExpr.IsRenamed pairs (.array elements) (.array elements')
  | ofScalar {pairs : ElementPairs} {value value' : ScalarExpr}
    (h : ScalarExpr.IsRenamed pairs value value') :
    JsonExpr.IsRenamed pairs (.ofScalar value) (.ofScalar value')

/-- Some expressions for JSON values are equal to others up to the names of
elements. -/
inductive JsonExpr.AreRenamed :
    ElementPairs → List JsonExpr → List JsonExpr → Prop
  | nil {pairs : ElementPairs} : JsonExpr.AreRenamed pairs [] []
  | cons {pairs : ElementPairs} {element element' : JsonExpr}
    {others others' : List JsonExpr}
    (helement : JsonExpr.IsRenamed pairs element element')
    (hothers : JsonExpr.AreRenamed pairs others others') :
    JsonExpr.AreRenamed pairs (element :: others) (element' :: others')

/-- Two expressions for a scalar are equal up to the names of elements. -/
inductive ScalarExpr.IsRenamed : ElementPairs → ScalarExpr → ScalarExpr → Prop
  | literal {pairs : ElementPairs} (value : Literal) :
    ScalarExpr.IsRenamed pairs (.literal value) (.literal value)
  | matching {pairs : ElementPairs} (style : PatternStyle)
    {subject subject' pattern pattern' : ScalarExpr}
    (hsubject : ScalarExpr.IsRenamed pairs subject subject')
    (hpattern : ScalarExpr.IsRenamed pairs pattern pattern') :
    ScalarExpr.IsRenamed pairs (.matching style subject pattern)
      (.matching style subject' pattern')
  | length {pairs : ElementPairs} {object object' : JsonExpr}
    (h : JsonExpr.IsRenamed pairs object object') :
    ScalarExpr.IsRenamed pairs (.length object) (.length object')
  | includes {pairs : ElementPairs} {collection collection' : JsonExpr}
    {needle needle' : ScalarExpr}
    (hcollection : JsonExpr.IsRenamed pairs collection collection')
    (hneedle : ScalarExpr.IsRenamed pairs needle needle') :
    ScalarExpr.IsRenamed pairs (.includes collection needle)
      (.includes collection' needle')
  | quantified {pairs : ElementPairs} (quantifier : Quantifier)
    {collection collection' : JsonExpr} (element element' : String)
    {condition condition' : ScalarExpr}
    (hcollection : JsonExpr.IsRenamed pairs collection collection')
    (hcondition : ScalarExpr.IsRenamed ((element, element') :: pairs)
      condition condition') :
    ScalarExpr.IsRenamed pairs
      (.quantified quantifier collection element condition)
      (.quantified quantifier collection' element' condition')
  | unary {pairs : ElementPairs} (op : UnaryOp) {operand operand' : ScalarExpr}
    (h : ScalarExpr.IsRenamed pairs operand operand') :
    ScalarExpr.IsRenamed pairs (.unary op operand) (.unary op operand')
  | binary {pairs : ElementPairs} (op : BinaryOp)
    {left left' right right' : ScalarExpr}
    (hleft : ScalarExpr.IsRenamed pairs left left')
    (hright : ScalarExpr.IsRenamed pairs right right') :
    ScalarExpr.IsRenamed pairs (.binary op left right) (.binary op left' right')
  | ofJson {pairs : ElementPairs} {value value' : JsonExpr}
    (h : JsonExpr.IsRenamed pairs value value') :
    ScalarExpr.IsRenamed pairs (.ofJson value) (.ofJson value')

end

/-- Two expressions for a JSON value differ in the names of elements only. -/
abbrev JsonExpr.AlphaEq : JsonExpr → JsonExpr → Prop :=
  JsonExpr.IsRenamed []

/-- Two expressions for a scalar differ in the names of elements only. -/
abbrev ScalarExpr.AlphaEq : ScalarExpr → ScalarExpr → Prop :=
  ScalarExpr.IsRenamed []

/-! ## Scopes -/

/-- What a scope makes of a name. -/
def Scope.resolve (scope : Scope) (name : String) :
    Except UnboundName Binding :=
  match scope.lookup? name with
  | some binding => .ok binding
  | none => .error ⟨name⟩

/-- A name is emitted as what the scope makes of it. -/
theorem JsonExpr.emit_name (text : String) (sort : ValueSort) (scope : Scope) :
    (JsonExpr.name text).emit sort scope =
      (scope.resolve text).map (Binding.sql · sort) := by
  rw [JsonExpr.emit, Scope.resolve]
  cases scope.lookup? text <;> rfl

theorem Scope.resolve_element (scope : Scope) (element name : String) :
    (scope.element element).resolve name =
      if name = element then .ok (.element scope.aliasName)
      else scope.resolve name := by
  rw [resolve, lookup?_element]
  split_ifs <;> rfl

/-- Two scopes make the same of some names, up to the names of the elements
around, and have as many subqueries around. -/
structure Scope.Agrees (scope : Scope) (pairs : ElementPairs) (scope' : Scope)
    (names : List String) : Prop where
  depth_eq : scope.depth = scope'.depth
  resolve_eq : ∀ name ∈ names, ∀ other, pairs.Match name other →
    scope.resolve name = scope'.resolve other

namespace Scope.Agrees

variable {scope scope' : Scope} {pairs : ElementPairs}
  {names others : List String}

theorem aliasName_eq (h : scope.Agrees pairs scope' names) :
    scope.aliasName = scope'.aliasName := by
  unfold Scope.aliasName
  rw [h.depth_eq]

theorem left (h : scope.Agrees pairs scope' (names ++ others)) :
    scope.Agrees pairs scope' names where
  depth_eq := h.depth_eq
  resolve_eq name hname :=
    h.resolve_eq name (List.mem_append_left others hname)

theorem right (h : scope.Agrees pairs scope' (names ++ others)) :
    scope.Agrees pairs scope' others where
  depth_eq := h.depth_eq
  resolve_eq name hname :=
    h.resolve_eq name (List.mem_append_right names hname)

/-- In the conditions of two quantifiers the elements have the same meaning,
whatever they are called. -/
theorem element {element element' : String}
    (h : scope.Agrees pairs scope' (names.filter (· ≠ element))) :
    (scope.element element).Agrees ((element, element') :: pairs)
      (scope'.element element') names where
  depth_eq := congrArg Nat.succ h.depth_eq
  resolve_eq := by
    intro name hname other hmatch
    rw [resolve_element, resolve_element]
    -- Either both names are the new elements, or neither is and the scopes
    -- around are asked.
    rcases hmatch with ⟨rfl, rfl⟩ | ⟨hne, hne', hmatch⟩
    · rw [if_pos rfl, if_pos rfl, h.aliasName_eq]
    · rw [if_neg hne, if_neg hne']
      have hmem : name ∈ names.filter (· ≠ element) :=
        List.mem_filter.mpr ⟨hname, decide_eq_true hne⟩
      exact h.resolve_eq name hmem other hmatch

end Scope.Agrees

/-! ## Emission -/

mutual

/-- Expressions for a JSON value that are equal up to the names of elements
become the same SQL, or fail on the same name. -/
theorem JsonExpr.emit_eq_of_isRenamed {pairs : ElementPairs}
    (expr : JsonExpr) {other : JsonExpr} (h : expr.IsRenamed pairs other)
    {scope scope' : Scope} (hscope : scope.Agrees pairs scope' expr.freeNames)
    (sort : ValueSort) : expr.emit sort scope = other.emit sort scope' := by
  cases expr with
  | name text =>
    cases h with
    | name hmatch =>
      rw [JsonExpr.emit_name, JsonExpr.emit_name,
        hscope.resolve_eq text (by simp [JsonExpr.freeNames]) _ hmatch]
  | path object labels =>
    cases h with
    | path hobject =>
      rw [JsonExpr.freeNames] at hscope
      rw [JsonExpr.emit, JsonExpr.emit,
        object.emit_eq_of_isRenamed hobject hscope]
  | item object key =>
    cases h with
    | item hobject hkey =>
      rw [JsonExpr.freeNames] at hscope
      rw [JsonExpr.emit, JsonExpr.emit,
        object.emit_eq_of_isRenamed hobject hscope.left,
        key.emit_eq_of_isRenamed hkey hscope.right]
  | array elements =>
    cases h with
    | array helements =>
      rw [JsonExpr.freeNames] at hscope
      rw [JsonExpr.emit, JsonExpr.emit,
        JsonExpr.emitAll_eq_of_areRenamed elements helements hscope]
  | ofScalar value =>
    cases h with
    | ofScalar hvalue =>
      rw [JsonExpr.freeNames] at hscope
      rw [JsonExpr.emit, JsonExpr.emit,
        value.emit_eq_of_isRenamed hvalue hscope]

theorem JsonExpr.emitAll_eq_of_areRenamed {pairs : ElementPairs}
    (elements : List JsonExpr) {others : List JsonExpr}
    (h : JsonExpr.AreRenamed pairs elements others) {scope scope' : Scope}
    (hscope : scope.Agrees pairs scope' (JsonExpr.freeNamesAll elements)) :
    JsonExpr.emitAll elements scope = JsonExpr.emitAll others scope' := by
  cases elements with
  | nil =>
    cases h with
    | nil => rfl
  | cons element rest =>
    cases h with
    | cons helement hrest =>
      rw [JsonExpr.freeNamesAll] at hscope
      rw [JsonExpr.emitAll, JsonExpr.emitAll,
        element.emit_eq_of_isRenamed helement hscope.left,
        JsonExpr.emitAll_eq_of_areRenamed rest hrest hscope.right]

/-- Expressions for a scalar that are equal up to the names of elements become
the same SQL, or fail on the same name. -/
theorem ScalarExpr.emit_eq_of_isRenamed {pairs : ElementPairs}
    (expr : ScalarExpr) {other : ScalarExpr} (h : expr.IsRenamed pairs other)
    {scope scope' : Scope}
    (hscope : scope.Agrees pairs scope' expr.freeNames) :
    expr.emit scope = other.emit scope' := by
  cases expr with
  | literal value =>
    cases h with
    | literal => rfl
  | matching style subject pattern =>
    cases h with
    | matching _ hsubject hpattern =>
      rw [ScalarExpr.freeNames] at hscope
      rw [ScalarExpr.emit, ScalarExpr.emit,
        pattern.emit_eq_of_isRenamed hpattern hscope.left,
        subject.emit_eq_of_isRenamed hsubject hscope.right]
  | length object =>
    cases h with
    | length hobject =>
      rw [ScalarExpr.freeNames] at hscope
      rw [ScalarExpr.emit, ScalarExpr.emit,
        object.emit_eq_of_isRenamed hobject hscope]
  | includes collection needle =>
    cases h with
    | includes hcollection hneedle =>
      rw [ScalarExpr.freeNames] at hscope
      rw [ScalarExpr.emit, ScalarExpr.emit,
        collection.emit_eq_of_isRenamed hcollection hscope.left,
        needle.emit_eq_of_isRenamed hneedle hscope.right, hscope.aliasName_eq]
  | quantified quantifier collection element condition =>
    cases h with
    | quantified _ _ element' hcollection hcondition =>
      rw [ScalarExpr.freeNames] at hscope
      rw [ScalarExpr.emit, ScalarExpr.emit,
        collection.emit_eq_of_isRenamed hcollection hscope.left,
        condition.emit_eq_of_isRenamed hcondition hscope.right.element,
        hscope.aliasName_eq]
  | unary op operand =>
    cases h with
    | unary _ hoperand =>
      rw [ScalarExpr.freeNames] at hscope
      rw [ScalarExpr.emit, ScalarExpr.emit,
        operand.emit_eq_of_isRenamed hoperand hscope]
  | binary op left right =>
    cases h with
    | binary _ hleft hright =>
      rw [ScalarExpr.freeNames] at hscope
      rw [ScalarExpr.emit, ScalarExpr.emit,
        left.emit_eq_of_isRenamed hleft hscope.left,
        right.emit_eq_of_isRenamed hright hscope.right]
  | ofJson value =>
    cases h with
    | ofJson hvalue =>
      rw [ScalarExpr.freeNames] at hscope
      rw [ScalarExpr.emit, ScalarExpr.emit,
        value.emit_eq_of_isRenamed hvalue hscope]

end

/-- Taking a coercion off does not depend on names. -/
theorem JsonExpr.IsRenamed.asScalar {pairs : ElementPairs}
    {expr other : JsonExpr} (h : expr.IsRenamed pairs other) :
    expr.asScalar.IsRenamed pairs other.asScalar := by
  cases h with
  | ofScalar hvalue => exact hvalue
  | name hmatch => exact .ofJson (.name hmatch)
  | path hobject labels => exact .ofJson (.path hobject labels)
  | item hobject hkey => exact .ofJson (.item hobject hkey)
  | array helements => exact .ofJson (.array helements)

/-- Outside all quantifiers two scopes agree on the names that they bind
alike. -/
theorem Scope.agrees_of_lookup?_eq {scope scope' : Scope} {names : List String}
    (hdepth : scope.depth = scope'.depth)
    (h : ∀ name ∈ names, scope.lookup? name = scope'.lookup? name) :
    scope.Agrees [] scope' names where
  depth_eq := hdepth
  resolve_eq := by
    rintro name hname other rfl
    rw [resolve, resolve, h name hname]

/-- Two expressions that differ in the names of elements only become the same
SQL with the same parameters, or fail on the same name, in any two scopes with
as many subqueries around that bind the free names alike. -/
theorem emit_eq_of_alphaEq {scope scope' : Scope}
    (hdepth : scope.depth = scope'.depth) :
    (∀ expr other : JsonExpr, expr.AlphaEq other →
      (∀ name ∈ expr.freeNames, scope.lookup? name = scope'.lookup? name) →
        (∀ sort, expr.emit sort scope = other.emit sort scope') ∧
          expr.toSql scope = other.toSql scope') ∧
      ∀ expr other : ScalarExpr, expr.AlphaEq other →
        (∀ name ∈ expr.freeNames, scope.lookup? name = scope'.lookup? name) →
          expr.emit scope = other.emit scope' := by
  constructor
  · intro expr other halpha hnames
    have hscope := Scope.agrees_of_lookup?_eq hdepth hnames
    refine ⟨expr.emit_eq_of_isRenamed halpha hscope, ?_⟩
    rw [← expr.freeNames_asScalar] at hscope
    exact expr.asScalar.emit_eq_of_isRenamed halpha.asScalar hscope
  · intro expr other halpha hnames
    exact expr.emit_eq_of_isRenamed halpha
      (Scope.agrees_of_lookup?_eq hdepth hnames)

/-- The elements `t` and `u` are called `u` and `_`, and the second scope binds
one more name. -/
theorem emit_eq_of_alphaEq_nested :
    let tests (outer inner : String) : ScalarExpr :=
      .quantified .any (.name "_") outer
        (.quantified .all (.name outer) inner
          (.binary .equal (.ofJson (.name inner)) (.ofJson (.name outer))))
    let scope := Scope.root "data" "records.id"
    let scope' := scope.bind "u" (.column "other")
    (tests "t" "u").AlphaEq (tests "u" "_") ∧
      (∀ name ∈ (tests "t" "u").freeNames,
        scope.lookup? name = scope'.lookup? name) ∧
      (tests "t" "u").emit scope = (tests "u" "_").emit scope' := by
  intro tests scope scope'
  have houter : ElementPairs.Match [("u", "_"), ("t", "u")] "t" "u" :=
    Or.inr ⟨by decide, by decide, Or.inl ⟨rfl, rfl⟩⟩
  have halpha : (tests "t" "u").AlphaEq (tests "u" "_") :=
    .quantified .any "t" "u" (.name rfl)
      (.quantified .all "u" "_" (.name (Or.inl ⟨rfl, rfl⟩))
        (.binary .equal (.ofJson (.name (Or.inl ⟨rfl, rfl⟩)))
          (.ofJson (.name houter))))
  have hnames : ∀ name ∈ (tests "t" "u").freeNames,
      scope.lookup? name = scope'.lookup? name := by decide +kernel
  have hdepth : scope.depth = scope'.depth := rfl
  exact ⟨halpha, hnames, (emit_eq_of_alphaEq hdepth).2 _ _ halpha hnames⟩

end DocFilter
