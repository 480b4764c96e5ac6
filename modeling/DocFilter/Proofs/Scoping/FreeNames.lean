import DocFilter.Filter
import DocFilter.Proofs.Emission.Inversion
import Mathlib.Data.List.Basic

/-!
# Free names

The names that are free in an expression are those that a scope around it has
to bind.  They are listed in the order of emission, so that the first one that
a scope does not bind is the one that emission fails on.  A quantifier binds
its element in the condition and nowhere else, whatever the name is bound to
outside.
-/

namespace DocFilter

mutual

/-- The free names of an expression for a JSON value, in the order of
emission. -/
def JsonExpr.freeNames : JsonExpr → List String
  | .name text => [text]
  | .path object _ => object.freeNames
  | .item object key => object.freeNames ++ key.freeNames
  | .array elements => JsonExpr.freeNamesAll elements
  | .ofScalar value => value.freeNames

/-- The free names of some expressions for JSON values. -/
def JsonExpr.freeNamesAll : List JsonExpr → List String
  | [] => []
  | element :: others => element.freeNames ++ JsonExpr.freeNamesAll others

/-- The free names of an expression for a scalar, in the order of emission: a
pattern stands before the subject that is matched with it. -/
def ScalarExpr.freeNames : ScalarExpr → List String
  | .literal _ => []
  | .matching _ subject pattern => pattern.freeNames ++ subject.freeNames
  | .length object => object.freeNames
  | .includes collection needle => collection.freeNames ++ needle.freeNames
  | .quantified _ collection element condition =>
    collection.freeNames ++ condition.freeNames.filter (· ≠ element)
  | .unary _ operand => operand.freeNames
  | .binary _ left right => left.freeNames ++ right.freeNames
  | .ofJson value => value.freeNames

end

/-! ## Coercions and normal forms -/

@[simp] theorem ScalarExpr.freeNames_asJson (value : ScalarExpr) :
    value.asJson.freeNames = value.freeNames := by
  cases value <;> simp only [ScalarExpr.asJson, JsonExpr.freeNames,
    ScalarExpr.freeNames]

@[simp] theorem JsonExpr.freeNames_asScalar (value : JsonExpr) :
    value.asScalar.freeNames = value.freeNames := by
  cases value <;> simp only [JsonExpr.asScalar, JsonExpr.freeNames,
    ScalarExpr.freeNames]

@[simp] theorem JsonExpr.freeNames_descend (object : JsonExpr)
    (labels : List String) :
    (object.descend labels).freeNames = object.freeNames := by
  cases object <;> simp only [JsonExpr.descend, JsonExpr.freeNames]

mutual

/-- The normal form has the same free names in the same order. -/
theorem JsonExpr.freeNames_normalize (expr : JsonExpr) :
    expr.normalize.freeNames = expr.freeNames := by
  cases expr with
  | name text => rw [JsonExpr.normalize]
  | path object labels =>
    rw [JsonExpr.normalize, JsonExpr.freeNames_descend,
      object.freeNames_normalize, JsonExpr.freeNames]
  | item object key =>
    rw [JsonExpr.normalize, JsonExpr.freeNames, JsonExpr.freeNames,
      object.freeNames_normalize, key.freeNames_normalize]
  | array elements =>
    rw [JsonExpr.normalize, JsonExpr.freeNames, JsonExpr.freeNames,
      JsonExpr.freeNamesAll_normalizeAll elements]
  | ofScalar value =>
    rw [JsonExpr.normalize, ScalarExpr.freeNames_asJson,
      value.freeNames_normalize, JsonExpr.freeNames]

theorem JsonExpr.freeNamesAll_normalizeAll (elements : List JsonExpr) :
    JsonExpr.freeNamesAll (JsonExpr.normalizeAll elements) =
      JsonExpr.freeNamesAll elements := by
  cases elements with
  | nil => rw [JsonExpr.normalizeAll]
  | cons element others =>
    rw [JsonExpr.normalizeAll, JsonExpr.freeNamesAll, JsonExpr.freeNamesAll,
      element.freeNames_normalize, JsonExpr.freeNamesAll_normalizeAll others]

theorem ScalarExpr.freeNames_normalize (expr : ScalarExpr) :
    expr.normalize.freeNames = expr.freeNames := by
  cases expr with
  | literal value => rw [ScalarExpr.normalize]
  | matching style subject pattern =>
    rw [ScalarExpr.normalize, ScalarExpr.freeNames, ScalarExpr.freeNames,
      subject.freeNames_normalize, pattern.freeNames_normalize]
  | length object =>
    rw [ScalarExpr.normalize, ScalarExpr.freeNames, ScalarExpr.freeNames,
      object.freeNames_normalize]
  | includes collection needle =>
    rw [ScalarExpr.normalize, ScalarExpr.freeNames, ScalarExpr.freeNames,
      collection.freeNames_normalize, needle.freeNames_normalize]
  | quantified quantifier collection element condition =>
    rw [ScalarExpr.normalize, ScalarExpr.freeNames, ScalarExpr.freeNames,
      collection.freeNames_normalize, condition.freeNames_normalize]
  | unary op operand =>
    rw [ScalarExpr.normalize, ScalarExpr.freeNames, ScalarExpr.freeNames,
      operand.freeNames_normalize]
  | binary op left right =>
    rw [ScalarExpr.normalize, ScalarExpr.freeNames, ScalarExpr.freeNames,
      left.freeNames_normalize, right.freeNames_normalize]
  | ofJson value =>
    rw [ScalarExpr.normalize, JsonExpr.freeNames_asScalar,
      value.freeNames_normalize, ScalarExpr.freeNames]

end

/-! ## Scopes -/

/-- The names that a scope binds. -/
def Scope.names (scope : Scope) : List String :=
  scope.bindings.map Prod.fst

theorem Scope.lookup?_eq_none_iff {scope : Scope} {name : String} :
    scope.lookup? name = none ↔ name ∉ scope.names := by
  unfold Scope.lookup? Scope.names
  rw [List.lookup_eq_none_iff]
  simp only [bne_iff_ne, List.mem_map, not_exists, not_and]
  constructor
  · intro h entry hentry heq
    exact h entry hentry heq.symm
  · intro h entry hentry heq
    exact h entry hentry heq.symm

theorem Scope.lookup?_bind
    (scope : Scope) (name other : String) (binding : Binding) :
    (scope.bind name binding).lookup? other =
      if other = name then some binding else scope.lookup? other := by
  change List.lookup other ((name, binding) :: scope.bindings) = _
  rw [List.lookup_cons]
  split_ifs with h
  · rw [beq_iff_eq.mpr h]
  · rw [beq_false_of_ne h]
    rfl

/-- In a condition the name of the element has a new meaning, whatever it was
bound to, and every other name keeps its own. -/
theorem Scope.lookup?_element (scope : Scope) (element name : String) :
    (scope.element element).lookup? name =
      if name = element then some (.element scope.aliasName)
      else scope.lookup? name :=
  scope.inner.lookup?_bind element name (.element scope.aliasName)

theorem Scope.lookup?_root (documentColumn rowColumn name : String) :
    (root documentColumn rowColumn).lookup? name =
      if name = "_" then some (.document documentColumn)
      else if name = "id" then some (.column rowColumn) else none := by
  rw [root, lookup?_bind, lookup?_bind]
  rfl

/-- The first of some names that a scope does not bind. -/
def Scope.firstUnbound? (scope : Scope) (names : List String) : Option String :=
  names.find? fun name => name ∉ scope.names

theorem Scope.firstUnbound?_eq_none_iff
    {scope : Scope} {names : List String} :
    scope.firstUnbound? names = none ↔ ∀ name ∈ names, name ∈ scope.names := by
  simp [firstUnbound?]

theorem Scope.firstUnbound?_eq_some_iff
    {scope : Scope} {names : List String} {name : String} :
    scope.firstUnbound? names = some name ↔
      ∃ before after, names = before ++ name :: after ∧
        (∀ earlier ∈ before, earlier ∈ scope.names) ∧ name ∉ scope.names := by
  rw [firstUnbound?, List.find?_eq_some_iff_append]
  constructor
  · rintro ⟨hunbound, before, after, hnames, hbefore⟩
    exact ⟨before, after, hnames, by simpa using hbefore,
      by simpa using hunbound⟩
  · rintro ⟨before, after, hnames, hbefore, hunbound⟩
    exact ⟨by simpa using hunbound, before, after, hnames,
      by simpa using hbefore⟩

theorem Scope.firstUnbound?_append
    (scope : Scope) (names others : List String) :
    scope.firstUnbound? (names ++ others) =
      (scope.firstUnbound? names).or (scope.firstUnbound? others) :=
  List.find?_append

/-- Inside a condition the element is bound, and all other names are as they
are outside. -/
theorem Scope.firstUnbound?_element
    (scope : Scope) (element : String) (names : List String) :
    (scope.element element).firstUnbound? names =
      scope.firstUnbound? (names.filter (· ≠ element)) := by
  unfold Scope.firstUnbound?
  rw [List.find?_filter]
  congr 1
  funext name
  have hnames : (scope.element element).names = element :: scope.names := rfl
  simp only [hnames, List.mem_cons, not_or, Bool.decide_and, ne_eq,
    Bool.decide_eq_true]

/-! ## Emission -/

/-- The name that a step of emission fails on. -/
def unboundName? {α : Type} : Except UnboundName α → Option String
  | .ok _ => none
  | .error unbound => some unbound.name

theorem unboundName?_map
    {α β : Type} (first : Except UnboundName α) (make : α → β) :
    unboundName? (do
      let value ← first
      return make value) = unboundName? first := by
  cases first <;> rfl

theorem unboundName?_map₂
    {α β γ : Type} (first : Except UnboundName α)
    (second : Except UnboundName β) (make : α → β → γ) :
    unboundName? (do
      let value ← first
      let value' ← second
      return make value value') =
      (unboundName? first).or (unboundName? second) := by
  cases first with
  | error unbound => rfl
  | ok value => cases second <;> rfl

mutual

/-- Emission fails on the first free name that is not bound. -/
theorem JsonExpr.unboundName?_emit
    (expr : JsonExpr) (sort : ValueSort) (scope : Scope) :
    unboundName? (expr.emit sort scope) =
      scope.firstUnbound? expr.freeNames := by
  cases expr with
  | name text =>
    rw [JsonExpr.emit, JsonExpr.freeNames]
    cases hlookup : scope.lookup? text with
    | none =>
      have hunbound := Scope.lookup?_eq_none_iff.mp hlookup
      exact (Scope.firstUnbound?_eq_some_iff.mpr
        ⟨[], [], rfl, List.forall_mem_nil _, hunbound⟩).symm
    | some binding =>
      have hbound : text ∈ scope.names := by
        by_contra hunbound
        rw [Scope.lookup?_eq_none_iff.mpr hunbound] at hlookup
        cases hlookup
      exact (Scope.firstUnbound?_eq_none_iff.mpr
        (List.forall_mem_singleton.mpr hbound)).symm
  | path object labels =>
    rw [JsonExpr.emit, unboundName?_map, object.unboundName?_emit,
      JsonExpr.freeNames]
  | item object key =>
    rw [JsonExpr.emit, unboundName?_map₂, object.unboundName?_emit,
      key.unboundName?_emit, JsonExpr.freeNames, Scope.firstUnbound?_append]
  | array elements =>
    rw [JsonExpr.emit, unboundName?_map,
      JsonExpr.unboundName?_emitAll elements, JsonExpr.freeNames]
  | ofScalar value =>
    rw [JsonExpr.emit, unboundName?_map, value.unboundName?_emit,
      JsonExpr.freeNames]

theorem JsonExpr.unboundName?_emitAll
    (elements : List JsonExpr) (scope : Scope) :
    unboundName? (JsonExpr.emitAll elements scope) =
      scope.firstUnbound? (JsonExpr.freeNamesAll elements) := by
  cases elements with
  | nil => rfl
  | cons element others =>
    rw [JsonExpr.emitAll, unboundName?_map₂, element.unboundName?_emit,
      JsonExpr.unboundName?_emitAll others, JsonExpr.freeNamesAll,
      Scope.firstUnbound?_append]

theorem ScalarExpr.unboundName?_emit (expr : ScalarExpr) (scope : Scope) :
    unboundName? (expr.emit scope) = scope.firstUnbound? expr.freeNames := by
  cases expr with
  | literal value => rfl
  | matching style subject pattern =>
    rw [ScalarExpr.emit, unboundName?_map₂, pattern.unboundName?_emit,
      subject.unboundName?_emit, ScalarExpr.freeNames,
      Scope.firstUnbound?_append]
  | length object =>
    rw [ScalarExpr.emit, unboundName?_map, object.unboundName?_emit,
      ScalarExpr.freeNames]
  | includes collection needle =>
    rw [ScalarExpr.emit, unboundName?_map₂, collection.unboundName?_emit,
      needle.unboundName?_emit, ScalarExpr.freeNames,
      Scope.firstUnbound?_append]
  | quantified quantifier collection element condition =>
    rw [ScalarExpr.emit, unboundName?_map₂, collection.unboundName?_emit,
      condition.unboundName?_emit, ScalarExpr.freeNames,
      Scope.firstUnbound?_append, Scope.firstUnbound?_element]
  | unary op operand =>
    rw [ScalarExpr.emit, unboundName?_map, operand.unboundName?_emit,
      ScalarExpr.freeNames]
  | binary op left right =>
    rw [ScalarExpr.emit, unboundName?_map₂, left.unboundName?_emit,
      right.unboundName?_emit, ScalarExpr.freeNames,
      Scope.firstUnbound?_append]
  | ofJson value =>
    rw [ScalarExpr.emit, value.unboundName?_emit, ScalarExpr.freeNames]

end

/-! ## What emission depends on -/

/-- What emission in a scope comes to, when an expression has these free names
in the order of emission: it succeeds if all of them are bound, and otherwise
its author is told the first one that is not. -/
structure Scope.Settles (scope : Scope) (names : List String)
    (emission : Emission) : Prop where
  succeeds_iff :
    (∃ fragment, emission = .ok fragment) ↔ ∀ name ∈ names, name ∈ scope.names
  fails_iff (diagnostic : Diagnostic) :
    emission.mapError (fun unbound => (Failure.unbound unbound).diagnostic) =
        .error diagnostic ↔
      ∃ before name after, names = before ++ name :: after ∧
        (∀ earlier ∈ before, earlier ∈ scope.names) ∧ name ∉ scope.names ∧
        diagnostic = ⟨.binding, "Unknown identifier: " ++ name, none⟩

theorem Scope.settles_of_unboundName?_eq
    {scope : Scope} {names : List String} {emission : Emission}
    (h : unboundName? emission = scope.firstUnbound? names) :
    scope.Settles names emission := by
  cases emission with
  | ok fragment =>
    have hbound := Scope.firstUnbound?_eq_none_iff.mp h.symm
    refine ⟨iff_of_true ⟨fragment, rfl⟩ hbound, fun diagnostic => ?_⟩
    refine iff_of_false (fun h => nomatch h) ?_
    rintro ⟨before, name, after, rfl, -, hunbound, -⟩
    exact hunbound (hbound name (by simp))
  | error unbound =>
    have hfirst : scope.firstUnbound? names = some unbound.name := h.symm
    constructor
    · refine iff_of_false (fun ⟨fragment, h⟩ => nomatch h) ?_
      intro hbound
      rw [Scope.firstUnbound?_eq_none_iff.mpr hbound] at hfirst
      cases hfirst
    · intro diagnostic
      constructor
      · intro hdiagnostic
        obtain ⟨before, after, hnames, hbefore, hunbound⟩ :=
          Scope.firstUnbound?_eq_some_iff.mp hfirst
        exact ⟨before, unbound.name, after, hnames, hbefore, hunbound,
          (Except.error.inj hdiagnostic).symm⟩
      · rintro ⟨before, name, after, hnames, hbefore, hunbound, rfl⟩
        -- A list has only one first name that is not bound.
        have hfirst' := Scope.firstUnbound?_eq_some_iff.mpr
          ⟨before, after, hnames, hbefore, hunbound⟩
        rw [hfirst] at hfirst'
        cases hfirst'
        rfl

/-- Emission succeeds if and only if the scope binds every free name, and if
not, the diagnostic names the first free name that is not bound.  A quantifier
binds its element in the condition, where it hides any outer binding of that
name.  Hence a text compiles when its free names are those of the document and
the row. -/
theorem settles_freeNames_emit :
    (∀ scope : Scope,
      (∀ (expr : JsonExpr) (sort : ValueSort),
        scope.Settles expr.freeNames (expr.emit sort scope)) ∧
      (∀ expr : ScalarExpr,
        scope.Settles expr.freeNames (expr.emit scope)) ∧
      (∀ expr : JsonExpr,
        scope.Settles expr.freeNames (expr.toSql scope)) ∧
      ∀ element name, (scope.element element).lookup? name =
        if name = element then some (.element scope.aliasName)
        else scope.lookup? name) ∧
    ∀ (text : String) (options : Options) (expr : JsonExpr),
      checkLength text options = .ok () →
        readExpr text options.maxHeight = .ok expr →
          (∀ name ∈ expr.freeNames, name = "_" ∨ name = "id") →
            ∃ fragment, compile text options = .ok fragment := by
  have htoSql (scope : Scope) (expr : JsonExpr) :
      scope.Settles expr.freeNames (expr.toSql scope) := by
    apply Scope.settles_of_unboundName?_eq
    rw [JsonExpr.toSql, ScalarExpr.unboundName?_emit,
      JsonExpr.freeNames_asScalar]
  refine ⟨fun scope => ⟨?_, ?_, htoSql scope, scope.lookup?_element⟩, ?_⟩
  · intro expr sort
    exact Scope.settles_of_unboundName?_eq (expr.unboundName?_emit sort scope)
  · intro expr
    exact Scope.settles_of_unboundName?_eq (expr.unboundName?_emit scope)
  · intro text options expr hlength hread hnames
    have hbound : ∀ name ∈ expr.normalize.freeNames,
        name ∈ (Scope.root options.documentColumn options.rowColumn).names := by
      intro name hname
      rw [expr.freeNames_normalize] at hname
      change name ∈ ["_", "id"]
      rcases hnames name hname with rfl | rfl <;> simp
    obtain ⟨fragment, hfragment⟩ :=
      (htoSql _ expr.normalize).succeeds_iff.mpr hbound
    refine ⟨fragment, ?_⟩
    unfold compile parse
    rw [hlength, hread]
    change (expr.normalize.toSql _).mapError Failure.unbound = .ok fragment
    rw [hfragment]
    rfl

/-- An element may be called `_`.  It is not bound in the collection that it is
taken from. -/
theorem settles_freeNames_emit_element :
    let text := "_.tags.some(_ => _ == id)"
    let tokens : List PlacedToken :=
      [⟨0, .name "_"⟩, ⟨1, .dot⟩, ⟨2, .name "tags"⟩, ⟨6, .dot⟩,
        ⟨7, .name "some"⟩, ⟨11, .openParen⟩, ⟨12, .name "_"⟩, ⟨14, .arrow⟩,
        ⟨17, .name "_"⟩, ⟨19, .operator .equal⟩, ⟨22, .name "id"⟩,
        ⟨24, .closeParen⟩]
    let expr : JsonExpr :=
      .ofScalar (.quantified .any (.path (.name "_") ["tags"]) "_"
        (.binary .equal (.ofJson (.name "_")) (.ofJson (.name "id"))))
    let leak : ScalarExpr :=
      .quantified .any (.name "t") "t" (.ofJson (.name "u"))
    let scope := Scope.root "data" "records.id"
    tokenize text = .ok tokens ∧ readExpr text 128 = .ok expr ∧
      expr.freeNames = ["_", "id"] ∧
      (∃ fragment, compile text default = .ok fragment) ∧
      (leak.emit scope).mapError
          (fun unbound => (Failure.unbound unbound).diagnostic) =
        .error ⟨.binding, "Unknown identifier: t", none⟩ := by
  intro text tokens expr leak scope
  have htokens : tokenize text = .ok tokens := by decide +kernel
  have hread : readExpr text 128 = .ok expr := by
    unfold readExpr readTokens
    rw [htokens]
    rfl
  have hnames : expr.freeNames = ["_", "id"] := by decide +kernel
  obtain ⟨hsettled, hcompiles⟩ := settles_freeNames_emit
  refine ⟨htokens, hread, hnames, ?_, ?_⟩
  · refine hcompiles text default expr (by decide +kernel) hread ?_
    simp [hnames]
  · refine (((hsettled scope).2.1 leak).fails_iff _).mpr ?_
    exact ⟨[], "t", ["u"], by decide +kernel, by simp, by decide +kernel, rfl⟩

end DocFilter
