import DocFilter.Expr.Normal
import DocFilter.Proofs.Emission.Inversion

/-!
# The order of the parameters

Emission walks through an expression and puts every literal into the
parameters once.  The order of this walk is a function of the tree alone, and
it stays the same when the tree is brought into normal form.
-/

namespace DocFilter

mutual

/-- The literals of an expression for a JSON value, in the order of
emission. -/
def JsonExpr.placeholders : JsonExpr → List Literal
  | .name _ => []
  | .path object _ => object.placeholders
  | .item object key => object.placeholders ++ key.placeholders
  | .array elements => JsonExpr.placeholdersAll elements
  | .ofScalar value => value.placeholders

/-- The literals of some expressions for JSON values, in the order of
emission. -/
def JsonExpr.placeholdersAll : List JsonExpr → List Literal
  | [] => []
  | element :: others => element.placeholders ++ JsonExpr.placeholdersAll others

/-- The literals of an expression for a scalar, in the order of emission: a
pattern stands before the subject that is matched with it. -/
def ScalarExpr.placeholders : ScalarExpr → List Literal
  | .literal value => [value]
  | .matching _ subject pattern => pattern.placeholders ++ subject.placeholders
  | .length object => object.placeholders
  | .includes collection needle =>
    collection.placeholders ++ needle.placeholders
  | .quantified _ collection _ condition =>
    collection.placeholders ++ condition.placeholders
  | .unary _ operand => operand.placeholders
  | .binary _ left right => left.placeholders ++ right.placeholders
  | .ofJson value => value.placeholders

end

/-! ## Coercions and normal forms -/

@[simp] theorem ScalarExpr.placeholders_asJson (value : ScalarExpr) :
    value.asJson.placeholders = value.placeholders := by
  cases value <;> simp only [ScalarExpr.asJson, JsonExpr.placeholders,
    ScalarExpr.placeholders]

@[simp] theorem JsonExpr.placeholders_asScalar (value : JsonExpr) :
    value.asScalar.placeholders = value.placeholders := by
  cases value <;> simp only [JsonExpr.asScalar, JsonExpr.placeholders,
    ScalarExpr.placeholders]

@[simp] theorem JsonExpr.placeholders_descend (object : JsonExpr)
    (labels : List String) :
    (object.descend labels).placeholders = object.placeholders := by
  cases object <;> simp only [JsonExpr.descend, JsonExpr.placeholders]

mutual

theorem JsonExpr.placeholders_normalize (expr : JsonExpr) :
    expr.normalize.placeholders = expr.placeholders := by
  cases expr with
  | name text => rw [JsonExpr.normalize]
  | path object labels =>
    rw [JsonExpr.normalize, JsonExpr.placeholders_descend,
      object.placeholders_normalize, JsonExpr.placeholders]
  | item object key =>
    rw [JsonExpr.normalize, JsonExpr.placeholders, JsonExpr.placeholders,
      object.placeholders_normalize, key.placeholders_normalize]
  | array elements =>
    rw [JsonExpr.normalize, JsonExpr.placeholders, JsonExpr.placeholders,
      JsonExpr.placeholdersAll_normalizeAll elements]
  | ofScalar value =>
    rw [JsonExpr.normalize, ScalarExpr.placeholders_asJson,
      value.placeholders_normalize, JsonExpr.placeholders]

theorem JsonExpr.placeholdersAll_normalizeAll (elements : List JsonExpr) :
    JsonExpr.placeholdersAll (JsonExpr.normalizeAll elements) =
      JsonExpr.placeholdersAll elements := by
  cases elements with
  | nil => rw [JsonExpr.normalizeAll]
  | cons element others =>
    rw [JsonExpr.normalizeAll, JsonExpr.placeholdersAll,
      JsonExpr.placeholdersAll, element.placeholders_normalize,
      JsonExpr.placeholdersAll_normalizeAll others]

theorem ScalarExpr.placeholders_normalize (expr : ScalarExpr) :
    expr.normalize.placeholders = expr.placeholders := by
  cases expr with
  | literal value => rw [ScalarExpr.normalize]
  | matching style subject pattern =>
    rw [ScalarExpr.normalize, ScalarExpr.placeholders, ScalarExpr.placeholders,
      subject.placeholders_normalize, pattern.placeholders_normalize]
  | length object =>
    rw [ScalarExpr.normalize, ScalarExpr.placeholders, ScalarExpr.placeholders,
      object.placeholders_normalize]
  | includes collection needle =>
    rw [ScalarExpr.normalize, ScalarExpr.placeholders, ScalarExpr.placeholders,
      collection.placeholders_normalize, needle.placeholders_normalize]
  | quantified quantifier collection element condition =>
    rw [ScalarExpr.normalize, ScalarExpr.placeholders, ScalarExpr.placeholders,
      collection.placeholders_normalize, condition.placeholders_normalize]
  | unary op operand =>
    rw [ScalarExpr.normalize, ScalarExpr.placeholders, ScalarExpr.placeholders,
      operand.placeholders_normalize]
  | binary op left right =>
    rw [ScalarExpr.normalize, ScalarExpr.placeholders, ScalarExpr.placeholders,
      left.placeholders_normalize, right.placeholders_normalize]
  | ofJson value =>
    rw [ScalarExpr.normalize, JsonExpr.placeholders_asScalar,
      value.placeholders_normalize, ScalarExpr.placeholders]

end

/-! ## Fragments -/

@[simp] theorem ValueSort.params_ofJson (sort : ValueSort)
    (fragment : Fragment) :
    (sort.ofJson fragment).params = fragment.params := by
  cases sort <;> simp [ValueSort.ofJson]

@[simp] theorem Sql.params_elementTest
    (aliasName : String) (quantifier : Quantifier)
    (collection condition : Fragment) :
    (Sql.elementTest aliasName quantifier collection condition).params =
      collection.params ++ condition.params := by
  cases quantifier <;> simp [Sql.elementTest]

@[simp] theorem Sql.params_membershipTest (aliasName : String)
    (collection needle : Fragment) :
    (Sql.membershipTest aliasName collection needle).params =
      collection.params ++ needle.params := by
  simp [Sql.membershipTest]

@[simp] theorem Sql.params_lengthOf (object : Fragment) :
    (Sql.lengthOf object).params = object.params := by
  simp [Sql.lengthOf]

theorem Sql.params_commaSeparated (fragments : List Fragment) :
    (Sql.commaSeparated fragments).params =
      fragments.flatMap Fragment.params := by
  induction fragments with
  | nil => rfl
  | cons fragment others ih =>
    cases others with
    | nil => rw [List.flatMap_singleton, Sql.commaSeparated]
    | cons next others =>
      simp only [Sql.commaSeparated, Fragment.params_append,
        Fragment.params_ofText, List.append_nil, List.flatMap_cons] at ih ⊢
      rw [ih]

mutual

/-- The parameters are the literals of the expression, in the order of
emission. -/
theorem JsonExpr.params_emit
    {expr : JsonExpr} {sort : ValueSort} {scope : Scope} {fragment : Fragment}
    (h : expr.emit sort scope = .ok fragment) :
    fragment.params = expr.placeholders := by
  cases expr with
  | name text =>
    obtain ⟨binding, hbinding, rfl⟩ := JsonExpr.emit_name_eq_ok.mp h
    rw [JsonExpr.placeholders, Fragment.params_ofText]
  | path object labels =>
    obtain ⟨inner, hinner, rfl⟩ := JsonExpr.emit_path_eq_ok.mp h
    have hobject := JsonExpr.params_emit hinner
    simp [JsonExpr.placeholders, hobject]
  | item object key =>
    obtain ⟨inner, hinner, place, hplace, rfl⟩ := JsonExpr.emit_item_eq_ok.mp h
    have hobject := JsonExpr.params_emit hinner
    have hkey := ScalarExpr.params_emit hplace
    simp [JsonExpr.placeholders, hobject, hkey]
  | array elements =>
    obtain ⟨fragments, hfragments, rfl⟩ := JsonExpr.emit_array_eq_ok.mp h
    have helements := JsonExpr.params_emitAll hfragments
    simp [JsonExpr.placeholders, Sql.params_commaSeparated, helements]
  | ofScalar value =>
    obtain ⟨inner, hinner, rfl⟩ := JsonExpr.emit_ofScalar_eq_ok.mp h
    have hvalue := ScalarExpr.params_emit hinner
    simp [JsonExpr.placeholders, hvalue]

theorem JsonExpr.params_emitAll
    {elements : List JsonExpr} {scope : Scope} {fragments : List Fragment}
    (h : JsonExpr.emitAll elements scope = .ok fragments) :
    fragments.flatMap Fragment.params = JsonExpr.placeholdersAll elements := by
  cases elements with
  | nil =>
    obtain rfl := JsonExpr.emitAll_nil_eq_ok.mp h
    rw [JsonExpr.placeholdersAll, List.flatMap_nil]
  | cons element others =>
    obtain ⟨first, hfirst, later, hlater, rfl⟩ :=
      JsonExpr.emitAll_cons_eq_ok.mp h
    rw [JsonExpr.placeholdersAll, List.flatMap_cons,
      JsonExpr.params_emit hfirst, JsonExpr.params_emitAll hlater]

theorem ScalarExpr.params_emit
    {expr : ScalarExpr} {scope : Scope} {fragment : Fragment}
    (h : expr.emit scope = .ok fragment) :
    fragment.params = expr.placeholders := by
  cases expr with
  | literal value =>
    obtain rfl := ScalarExpr.emit_literal_eq_ok.mp h
    rw [ScalarExpr.placeholders, Fragment.placeholder]
  | matching style subject pattern =>
    obtain ⟨first, hfirst, second, hsecond, rfl⟩ :=
      ScalarExpr.emit_matching_eq_ok.mp h
    have hpattern := ScalarExpr.params_emit hfirst
    have hsubject := ScalarExpr.params_emit hsecond
    simp [ScalarExpr.placeholders, hpattern, hsubject]
  | length object =>
    obtain ⟨inner, hinner, rfl⟩ := ScalarExpr.emit_length_eq_ok.mp h
    have hobject := JsonExpr.params_emit hinner
    simp [ScalarExpr.placeholders, hobject]
  | includes collection needle =>
    obtain ⟨inner, hinner, sought, hsought, rfl⟩ :=
      ScalarExpr.emit_includes_eq_ok.mp h
    have hcollection := JsonExpr.params_emit hinner
    have hneedle := ScalarExpr.params_emit hsought
    simp [ScalarExpr.placeholders, hcollection, hneedle]
  | quantified quantifier collection element condition =>
    obtain ⟨inner, hinner, test, htest, rfl⟩ :=
      ScalarExpr.emit_quantified_eq_ok.mp h
    have hcollection := JsonExpr.params_emit hinner
    have hcondition := ScalarExpr.params_emit htest
    simp [ScalarExpr.placeholders, hcollection, hcondition]
  | unary op operand =>
    obtain ⟨inner, hinner, rfl⟩ := ScalarExpr.emit_unary_eq_ok.mp h
    have hoperand := ScalarExpr.params_emit hinner
    simp [ScalarExpr.placeholders, hoperand]
  | binary op left right =>
    obtain ⟨first, hfirst, second, hsecond, rfl⟩ :=
      ScalarExpr.emit_binary_eq_ok.mp h
    have hleft := ScalarExpr.params_emit hfirst
    have hright := ScalarExpr.params_emit hsecond
    simp [ScalarExpr.placeholders, hleft, hright]
  | ofJson value =>
    have hvalue := JsonExpr.params_emit (ScalarExpr.emit_ofJson_eq_ok.mp h)
    rw [ScalarExpr.placeholders, hvalue]

end

end DocFilter
