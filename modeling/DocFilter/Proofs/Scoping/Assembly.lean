import DocFilter.Proofs.Emission.Inversion

/-!
# Emitted SQL with its subqueries

The text of a fragment does not say which of its pieces stand for names, nor
where a subquery begins and ends.  An assembly is the same SQL before it is
joined into one text: references and subqueries are still apart.  Expressions
are assembled just as they are emitted, so whatever is read off an assembly
holds of the text.

The condition of a quantifier and the needle of a membership test are the parts
of an expression that are emitted inside the test of a subquery.  The collection
of either one stands outside of that test.
-/

namespace DocFilter

/-- What encloses a part of an expression that goes into the test of a
subquery: the condition on an element, or the needle that elements are compared
with. -/
inductive Enclosure where
  | condition (element : String)
  | needle
deriving DecidableEq

/-! ## Assemblies -/

/-- The test that every element satisfies a condition is the negation of the
test that some element satisfies its negation. -/
theorem Sql.elementTest_all
    (aliasName : String) (collection condition : Fragment) :
    elementTest aliasName .all collection condition =
      "NOT " ++ elementTest aliasName .any collection
        ("NOT (" ++ condition ++ ")") := by
  have hopening : "NOT EXISTS (SELECT 1 FROM json_each(" =
      "NOT " ++ "EXISTS (SELECT 1 FROM json_each(" := by decide +kernel
  have hmiddle : " WHERE NOT (" = " WHERE " ++ "NOT (" := by decide +kernel
  have hclosing : "))" = ")" ++ ")" := by decide +kernel
  unfold elementTest
  rw [hopening, hmiddle, hclosing, Fragment.mk.injEq]
  constructor
  · simp only [Fragment.sql_append, Fragment.sql_ofText,
      String.append_assoc, -String.reduceAppend]
  · simp

/-- SQL whose references to names and subqueries are still apart. -/
inductive Assembly where
  | text (sql : String)
  | placeholder (value : Literal)
  /-- The text that a bound name stands for. -/
  | reference (sql : String)
  | beside (first second : Assembly)
  /-- The length of a JSON value. -/
  | length (object : Assembly)
  /-- A test for an element of a collection, for the sake of an enclosure. -/
  | subquery (enclosure : Enclosure) (aliasName : String)
    (collection test : Assembly)

namespace Assembly

instance : Append Assembly := ⟨beside⟩

instance : Coe String Assembly := ⟨text⟩

/-- The SQL of an assembly. -/
def fragment : Assembly → Fragment
  | text sql => sql
  | placeholder value => .placeholder value
  | reference sql => sql
  | beside first second => first.fragment ++ second.fragment
  | length object => Sql.lengthOf object.fragment
  | subquery _ aliasName collection test =>
    Sql.elementTest aliasName .any collection.fragment test.fragment

@[simp] theorem fragment_text (sql : String) :
    (text sql).fragment = .ofText sql := rfl

@[simp] theorem fragment_append (first second : Assembly) :
    (first ++ second).fragment = first.fragment ++ second.fragment := rfl

/-- JSON, turned into a sort. -/
def ofJson : ValueSort → Assembly → Assembly
  | .json, assembly => assembly
  | .scalar, assembly => "(" ++ assembly ++ " ->> '$')"

@[simp] theorem fragment_ofJson (sort : ValueSort) (assembly : Assembly) :
    (ofJson sort assembly).fragment = sort.ofJson assembly.fragment := by
  cases sort <;> rfl

/-- The elements of an array with commas between them. -/
def commaSeparated : List Assembly → Assembly
  | [] => ""
  | [assembly] => assembly
  | assembly :: others => assembly ++ ", " ++ commaSeparated others

@[simp] theorem fragment_commaSeparated (assemblies : List Assembly) :
    (commaSeparated assemblies).fragment =
      Sql.commaSeparated (assemblies.map fragment) := by
  induction assemblies with
  | nil => rfl
  | cons assembly others ih =>
    cases others with
    | nil => rfl
    | cons next others =>
      simp only [List.map_cons, commaSeparated, Sql.commaSeparated,
        fragment_append, fragment_text] at ih ⊢
      rw [ih]

/-- A test for a quantifier.  That every element satisfies a condition means
that none satisfies its negation. -/
def elementTest (aliasName element : String) :
    Quantifier → Assembly → Assembly → Assembly
  | .any, collection, condition =>
    subquery (.condition element) aliasName collection condition
  | .all, collection, condition =>
    "NOT " ++ subquery (.condition element) aliasName collection
      ("NOT (" ++ condition ++ ")")

@[simp] theorem fragment_elementTest (aliasName element : String)
    (quantifier : Quantifier) (collection condition : Assembly) :
    (elementTest aliasName element quantifier collection condition).fragment =
      Sql.elementTest aliasName quantifier collection.fragment
        condition.fragment := by
  cases quantifier with
  | any => rfl
  | all => exact (Sql.elementTest_all aliasName _ _).symm

/-- Looks for an element that equals a scalar. -/
def membershipTest (aliasName : String) (collection needle : Assembly) :
    Assembly :=
  subquery .needle aliasName collection (aliasName ++ ".value = " ++ needle)

end Assembly

mutual

/-- Assembles an expression for a JSON value, as JSON or as a scalar. -/
def JsonExpr.assemble :
    JsonExpr → ValueSort → Scope → Except UnboundName Assembly
  | .name text, sort, scope =>
    match scope.lookup? text with
    | some binding => .ok (.reference (binding.sql sort))
    | none => .error ⟨text⟩
  | .path object labels, sort, scope => do
    let object ← object.assemble .json scope
    return "(" ++ object ++ sort.arrow ++ Sql.quotedPath labels ++ ")"
  | .item object key, sort, scope => do
    let object ← object.assemble .json scope
    let key ← key.assemble scope
    return .ofJson sort ("(" ++ object ++ " -> " ++ key ++ ")")
  | .array elements, sort, scope => do
    let elements ← JsonExpr.assembleAll elements scope
    return .ofJson sort ("json_array(" ++ .commaSeparated elements ++ ")")
  | .ofScalar value, sort, scope => do
    let value ← value.assemble scope
    return .ofJson sort ("json_quote(" ++ value ++ ")")

/-- Assembles some expressions, each as JSON. -/
def JsonExpr.assembleAll :
    List JsonExpr → Scope → Except UnboundName (List Assembly)
  | [], _ => .ok []
  | element :: others, scope => do
    let element ← element.assemble .json scope
    let others ← JsonExpr.assembleAll others scope
    return element :: others

/-- Assembles an expression for a scalar. -/
def ScalarExpr.assemble : ScalarExpr → Scope → Except UnboundName Assembly
  | .literal value, _ => .ok (.placeholder value)
  | .matching style subject pattern, scope => do
    let pattern ← pattern.assemble scope
    let subject ← subject.assemble scope
    return style.name ++ "(" ++ pattern ++ ", " ++ subject ++ ")"
  | .length object, scope => do
    let object ← object.assemble .json scope
    return .length object
  | .includes collection needle, scope => do
    let collection ← collection.assemble .json scope
    let needle ← needle.assemble scope
    return .membershipTest scope.aliasName collection needle
  | .quantified quantifier collection element condition, scope => do
    let collection ← collection.assemble .json scope
    let condition ← condition.assemble (scope.element element)
    return .elementTest scope.aliasName element quantifier collection condition
  | .unary op operand, scope => do
    let operand ← operand.assemble scope
    return op.sqlOpening ++ operand ++ ")"
  | .binary op left right, scope => do
    let left ← left.assemble scope
    let right ← right.assemble scope
    return "(" ++ left ++ (" " ++ op.sql ++ " ") ++ right ++ ")"
  | .ofJson value, scope => value.assemble .scalar scope

end

/-! ## Emission joins assemblies -/

section

variable {α α' β β' γ γ' : Type} {onFirst : α → α'} {onSecond : β → β'}
  {onResult : γ → γ'} {first : Except UnboundName α}
  {first' : Except UnboundName α'} {second : Except UnboundName β}
  {second' : Except UnboundName β'}

theorem exists_of_map_eq_ok {result : α'}
    (h : first.map onFirst = .ok result) :
    ∃ value, first = .ok value ∧ onFirst value = result := by
  cases first with
  | error unbound => cases h
  | ok value => exact ⟨value, rfl, Except.ok.inj h⟩

/-- A part is mapped when what is made from it is mapped. -/
theorem emission_map_eq_map {make : α → γ} {make' : α' → γ'}
    (hfirst : first' = first.map onFirst)
    (hmake : ∀ value, make' (onFirst value) = onResult (make value)) :
    (do
      let value ← first'
      return make' value) =
      (do
        let value ← first
        return make value : Except UnboundName γ).map onResult := by
  subst hfirst
  cases first with
  | error unbound => rfl
  | ok value => exact congrArg Except.ok (hmake value)

/-- Two parts are mapped when what is made from both is mapped. -/
theorem emission_map₂_eq_map {make : α → β → γ} {make' : α' → β' → γ'}
    (hfirst : first' = first.map onFirst)
    (hsecond : second' = second.map onSecond)
    (hmake : ∀ value value',
      make' (onFirst value) (onSecond value') = onResult (make value value')) :
    (do
      let value ← first'
      let value' ← second'
      return make' value value') =
      (do
        let value ← first
        let value' ← second
        return make value value' : Except UnboundName γ).map onResult := by
  subst hfirst
  cases first with
  | error unbound => rfl
  | ok value => exact emission_map_eq_map hsecond (hmake value)

end

mutual

/-- What is emitted is the text of the assembly, failures included. -/
theorem JsonExpr.emit_eq_map_assemble
    (expr : JsonExpr) (sort : ValueSort) (scope : Scope) :
    expr.emit sort scope =
      (expr.assemble sort scope).map Assembly.fragment := by
  cases expr with
  | name text =>
    rw [JsonExpr.emit, JsonExpr.assemble]
    cases scope.lookup? text <;> rfl
  | path object labels =>
    rw [JsonExpr.emit, JsonExpr.assemble]
    exact emission_map_eq_map (object.emit_eq_map_assemble .json scope)
      fun _ => rfl
  | item object key =>
    rw [JsonExpr.emit, JsonExpr.assemble]
    exact emission_map₂_eq_map (object.emit_eq_map_assemble .json scope)
      (key.emit_eq_map_assemble scope) fun _ _ => by simp
  | array elements =>
    rw [JsonExpr.emit, JsonExpr.assemble]
    exact emission_map_eq_map
      (JsonExpr.emitAll_eq_map_assembleAll elements scope) fun _ => by simp
  | ofScalar value =>
    rw [JsonExpr.emit, JsonExpr.assemble]
    exact emission_map_eq_map (value.emit_eq_map_assemble scope)
      fun _ => by simp

theorem JsonExpr.emitAll_eq_map_assembleAll
    (elements : List JsonExpr) (scope : Scope) :
    JsonExpr.emitAll elements scope =
      (JsonExpr.assembleAll elements scope).map (List.map Assembly.fragment) :=
    by
  cases elements with
  | nil => rfl
  | cons element others =>
    rw [JsonExpr.emitAll, JsonExpr.assembleAll]
    exact emission_map₂_eq_map (element.emit_eq_map_assemble .json scope)
      (JsonExpr.emitAll_eq_map_assembleAll others scope) fun _ _ => rfl

/-- What is emitted is the text of the assembly, failures included. -/
theorem ScalarExpr.emit_eq_map_assemble (expr : ScalarExpr) (scope : Scope) :
    expr.emit scope = (expr.assemble scope).map Assembly.fragment := by
  cases expr with
  | literal value => rfl
  | matching style subject pattern =>
    rw [ScalarExpr.emit, ScalarExpr.assemble]
    exact emission_map₂_eq_map (pattern.emit_eq_map_assemble scope)
      (subject.emit_eq_map_assemble scope) fun _ _ => rfl
  | length object =>
    rw [ScalarExpr.emit, ScalarExpr.assemble]
    exact emission_map_eq_map (object.emit_eq_map_assemble .json scope)
      fun _ => rfl
  | includes collection needle =>
    rw [ScalarExpr.emit, ScalarExpr.assemble]
    exact emission_map₂_eq_map (collection.emit_eq_map_assemble .json scope)
      (needle.emit_eq_map_assemble scope) fun _ _ => rfl
  | quantified quantifier collection element condition =>
    rw [ScalarExpr.emit, ScalarExpr.assemble]
    exact emission_map₂_eq_map (collection.emit_eq_map_assemble .json scope)
      (condition.emit_eq_map_assemble (scope.element element))
      fun _ _ => by simp
  | unary op operand =>
    rw [ScalarExpr.emit, ScalarExpr.assemble]
    exact emission_map_eq_map (operand.emit_eq_map_assemble scope)
      fun _ => rfl
  | binary op left right =>
    rw [ScalarExpr.emit, ScalarExpr.assemble]
    exact emission_map₂_eq_map (left.emit_eq_map_assemble scope)
      (right.emit_eq_map_assemble scope) fun _ _ => rfl
  | ofJson value =>
    rw [ScalarExpr.emit, ScalarExpr.assemble]
    exact value.emit_eq_map_assemble .scalar scope

end

end DocFilter
