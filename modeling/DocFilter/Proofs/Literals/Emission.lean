import DocFilter.Proofs.Literals.Mapping

/-!
# Emission and literals

Emission puts literals into the parameters only.  When the literals of an
expression are replaced, the text of its SQL stays, the parameters are
replaced in the same way, and an unbound name stays the same.
-/

namespace DocFilter

section

variable (f : Literal → Literal)

/-! ## Fragments -/

namespace Fragment

@[simp] theorem mapParams_append (first second : Fragment) :
    (first ++ second).mapParams f =
      first.mapParams f ++ second.mapParams f := by
  change Fragment.mk _ _ = Fragment.mk _ _
  rw [params_append, List.map_append]
  rfl

@[simp] theorem mapParams_ofText (sql : String) :
    (ofText sql).mapParams f = ofText sql := rfl

@[simp] theorem mapParams_placeholder (value : Literal) :
    (placeholder value).mapParams f = placeholder (f value) := rfl

end Fragment

@[simp] theorem ValueSort.ofJson_mapParams (sort : ValueSort)
    (fragment : Fragment) :
    sort.ofJson (fragment.mapParams f) =
      (sort.ofJson fragment).mapParams f := by
  cases sort <;> simp [ValueSort.ofJson]

namespace Sql

@[simp] theorem elementTest_mapParams
    (aliasName : String) (quantifier : Quantifier)
    (collection condition : Fragment) :
    elementTest aliasName quantifier (collection.mapParams f)
      (condition.mapParams f) =
      (elementTest aliasName quantifier collection condition).mapParams f := by
  cases quantifier <;> simp [elementTest]

@[simp] theorem membershipTest_mapParams
    (aliasName : String) (collection needle : Fragment) :
    membershipTest aliasName (collection.mapParams f) (needle.mapParams f) =
      (membershipTest aliasName collection needle).mapParams f := by
  simp [membershipTest, ← elementTest_mapParams]

@[simp] theorem lengthOf_mapParams (object : Fragment) :
    lengthOf (object.mapParams f) = (lengthOf object).mapParams f := by
  simp [lengthOf]

theorem commaSeparated_map_mapParams (fragments : List Fragment) :
    commaSeparated (fragments.map (Fragment.mapParams f)) =
      (commaSeparated fragments).mapParams f := by
  induction fragments with
  | nil => rfl
  | cons fragment others ih =>
    cases others with
    | nil => rfl
    | cons next others =>
      simp only [List.map_cons, commaSeparated, Fragment.mapParams_append,
        Fragment.mapParams_ofText] at ih ⊢
      rw [ih]

end Sql

/-! ## Expressions -/

/-- A step that commutes with a map can be taken before or after the map. -/
theorem bind_map_eq
    {ε α β γ δ : Type} {g : α → β} {h : γ → δ} {next : α → Except ε γ}
    {next' : β → Except ε δ}
    (hnext : ∀ value, next' (g value) = (next value).map h)
    (first : Except ε α) :
    (first.map g >>= next') = (first >>= next).map h := by
  cases first with
  | error error => rfl
  | ok value => exact hnext value

mutual

/-- Emission commutes with the replacement of literals, failures included. -/
theorem JsonExpr.emit_mapLiterals :
    ∀ (expr : JsonExpr) (sort : ValueSort) (scope : Scope),
      (expr.mapLiterals f).emit sort scope =
        (expr.emit sort scope).map (Fragment.mapParams f)
  | .name text, sort, scope => by
    simp only [JsonExpr.mapLiterals, JsonExpr.emit]
    cases scope.lookup? text <;> rfl
  | .path object labels, sort, scope => by
    have hobject := JsonExpr.emit_mapLiterals object .json scope
    simp only [JsonExpr.mapLiterals, JsonExpr.emit, hobject]
    exact bind_map_eq (fun _ => congrArg Except.ok (by simp)) _
  | .item object key, sort, scope => by
    have hobject := JsonExpr.emit_mapLiterals object .json scope
    have hkey := ScalarExpr.emit_mapLiterals key scope
    simp only [JsonExpr.mapLiterals, JsonExpr.emit, hobject, hkey]
    refine bind_map_eq (fun _ => ?_) _
    exact bind_map_eq (fun _ =>
      congrArg Except.ok (by simp [← ValueSort.ofJson_mapParams])) _
  | .array elements, sort, scope => by
    have helements := JsonExpr.emitAll_mapLiteralsAll elements scope
    simp only [JsonExpr.mapLiterals, JsonExpr.emit, helements]
    refine bind_map_eq (fun _ => congrArg Except.ok ?_) _
    simp [← ValueSort.ofJson_mapParams, Sql.commaSeparated_map_mapParams]
  | .ofScalar value, sort, scope => by
    have hvalue := ScalarExpr.emit_mapLiterals value scope
    simp only [JsonExpr.mapLiterals, JsonExpr.emit, hvalue]
    exact bind_map_eq (fun _ =>
      congrArg Except.ok (by simp [← ValueSort.ofJson_mapParams])) _

theorem JsonExpr.emitAll_mapLiteralsAll :
    ∀ (elements : List JsonExpr) (scope : Scope),
      JsonExpr.emitAll (JsonExpr.mapLiteralsAll f elements) scope =
        (JsonExpr.emitAll elements scope).map (List.map (Fragment.mapParams f))
  | [], _ => rfl
  | element :: others, scope => by
    have helement := JsonExpr.emit_mapLiterals element .json scope
    have hothers := JsonExpr.emitAll_mapLiteralsAll others scope
    simp only [JsonExpr.mapLiteralsAll, JsonExpr.emitAll, helement, hothers]
    refine bind_map_eq (fun _ => ?_) _
    refine bind_map_eq (fun _ => ?_) _
    rfl

theorem ScalarExpr.emit_mapLiterals :
    ∀ (expr : ScalarExpr) (scope : Scope),
      (expr.mapLiterals f).emit scope =
        (expr.emit scope).map (Fragment.mapParams f)
  | .literal _, _ => rfl
  | .matching _ subject pattern, scope => by
    have hsubject := ScalarExpr.emit_mapLiterals subject scope
    have hpattern := ScalarExpr.emit_mapLiterals pattern scope
    simp only [ScalarExpr.mapLiterals, ScalarExpr.emit, hsubject, hpattern]
    refine bind_map_eq (fun _ => ?_) _
    exact bind_map_eq (fun _ => congrArg Except.ok (by simp)) _
  | .length object, scope => by
    have hobject := JsonExpr.emit_mapLiterals object .json scope
    simp only [ScalarExpr.mapLiterals, ScalarExpr.emit, hobject]
    exact bind_map_eq (fun _ => congrArg Except.ok (by simp)) _
  | .includes collection needle, scope => by
    have hcollection := JsonExpr.emit_mapLiterals collection .json scope
    have hneedle := ScalarExpr.emit_mapLiterals needle scope
    simp only [ScalarExpr.mapLiterals, ScalarExpr.emit, hcollection, hneedle]
    refine bind_map_eq (fun _ => ?_) _
    exact bind_map_eq (fun _ => congrArg Except.ok (by simp)) _
  | .quantified _ collection element condition, scope => by
    have hcollection := JsonExpr.emit_mapLiterals collection .json scope
    have hcondition :=
      ScalarExpr.emit_mapLiterals condition (scope.element element)
    simp only [ScalarExpr.mapLiterals, ScalarExpr.emit, hcollection, hcondition]
    refine bind_map_eq (fun _ => ?_) _
    exact bind_map_eq (fun _ => congrArg Except.ok (by simp)) _
  | .unary _ operand, scope => by
    have hoperand := ScalarExpr.emit_mapLiterals operand scope
    simp only [ScalarExpr.mapLiterals, ScalarExpr.emit, hoperand]
    exact bind_map_eq (fun _ => congrArg Except.ok (by simp)) _
  | .binary _ left right, scope => by
    have hleft := ScalarExpr.emit_mapLiterals left scope
    have hright := ScalarExpr.emit_mapLiterals right scope
    simp only [ScalarExpr.mapLiterals, ScalarExpr.emit, hleft, hright]
    refine bind_map_eq (fun _ => ?_) _
    exact bind_map_eq (fun _ => congrArg Except.ok (by simp)) _
  | .ofJson value, scope => by
    have hvalue := JsonExpr.emit_mapLiterals value .scalar scope
    simpa only [ScalarExpr.mapLiterals, ScalarExpr.emit] using hvalue

end

end

theorem JsonExpr.toSql_mapLiterals
    (f : Literal → Literal) (expr : JsonExpr) (scope : Scope) :
    (expr.mapLiterals f).toSql scope =
    (expr.toSql scope).map (Fragment.mapParams f) := by
  rw [JsonExpr.toSql, JsonExpr.asScalar_mapLiterals,
    ScalarExpr.emit_mapLiterals]
  rfl

end DocFilter
