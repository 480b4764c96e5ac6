import DocFilter.Proofs.Emission.Readback
import DocFilter.Proofs.Literals.Equality

/-!
# Different filters become different SQL

Two texts that are compiled with the default columns become the same SQL with
the same parameters if and only if their trees differ in the names of elements
at most.
-/

namespace DocFilter

open Sql

/-! ## Compiled texts -/

/-- The columns are the default ones. -/
def Options.HasDefaultColumns (options : Options) : Prop :=
  options.documentColumn = "data" ∧ options.rowColumn = "records.id"

/-- Where no coercion stands on its opposite, taking one off can be undone. -/
theorem JsonExpr.isRenamed_of_asScalar {pairs : ElementPairs}
    {expr other : JsonExpr} (htidy : expr.IsTidy) (htidy' : other.IsTidy)
    (h : expr.asScalar.IsRenamed pairs other.asScalar) :
    expr.IsRenamed pairs other := by
  cases expr with
  | ofScalar value =>
    cases other with
    | ofScalar value' => exact .ofScalar h
    | name | path | item | array =>
      cases h with
      | ofJson hvalue => exact absurd rfl (htidy.1 _)
  | name | path | item | array =>
    cases other with
    | ofScalar value' =>
      cases h with
      | ofJson hvalue => exact absurd rfl (htidy'.1 _)
    | name | path | item | array =>
      cases h with
      | ofJson hvalue => exact hvalue

/-- Two tidy expressions have the same SQL if and only if they differ in the
names of elements at most. -/
theorem JsonExpr.eq_iff_alphaEq_of_toSql_eq_ok {expr other : JsonExpr}
    (htidy : expr.IsTidy) (htidy' : other.IsTidy)
    {fragment fragment' : Fragment}
    (h : expr.toSql (Scope.root "data" "records.id") = .ok fragment)
    (h' : other.toSql (Scope.root "data" "records.id") = .ok fragment') :
    fragment = fragment' ↔ expr.AlphaEq other := by
  have hemit : expr.asScalar.emit (Scope.under []) = .ok fragment := h
  have hemit' : other.asScalar.emit (Scope.under []) = .ok fragment' := h'
  constructor
  · rintro rfl
    obtain ⟨row, hrow, hshows⟩ :=
      expr.asScalar.exists_row_of_emit_eq_ok htidy.asScalar hemit
    obtain ⟨row', hrow', hshows'⟩ :=
      other.asScalar.exists_row_of_emit_eq_ok htidy'.asScalar hemit'
    obtain rfl := hshows.unique hshows'
    have halpha : expr.asScalar.AlphaEq other.asScalar :=
      expr.asScalar.isRenamed_of_row_eq htidy.asScalar htidy'.asScalar hrow
        hrow'
    exact isRenamed_of_asScalar htidy htidy' halpha
  · intro halpha
    have hscope : (Scope.under []).Agrees [] (Scope.under [])
        expr.asScalar.freeNames :=
      Scope.agrees_of_lookup?_eq rfl fun _ _ => rfl
    have hsame := expr.asScalar.emit_eq_of_isRenamed halpha.asScalar hscope
    exact Except.ok.inj (hemit.symm.trans (hsame.trans hemit'))

/-- Two texts that are compiled with the default columns, whatever the limits
are, become the same SQL with the same parameters if and only if the normal
forms of their trees differ in the names of elements at most.  It does not
matter whether parameters are compared as values or as numbers. -/
theorem equals_iff_alphaEq_of_compile_eq_ok
    {text text' : String} {options options' : Options}
    (hcolumns : options.HasDefaultColumns)
    (hcolumns' : options'.HasDefaultColumns) {fragment fragment' : Fragment}
    (h : compile text options = .ok fragment)
    (h' : compile text' options' = .ok fragment') :
    ∃ expr expr', parse text options = .ok expr ∧
      parse text' options' = .ok expr' ∧
        (fragment = fragment' ↔ expr.AlphaEq expr') ∧
          (fragment.equals fragment' = true ↔ expr.AlphaEq expr') := by
  obtain ⟨tree, hread, hparse, hsql⟩ := exists_tree_of_compile_eq_ok h
  obtain ⟨tree', hread', hparse', hsql'⟩ := exists_tree_of_compile_eq_ok h'
  rw [hcolumns.1, hcolumns.2] at hsql
  rw [hcolumns'.1, hcolumns'.2] at hsql'
  have htidy := tree.isTidy_normalize (JsonExpr.isTidy_of_readExpr_eq_ok hread)
  have htidy' :=
    tree'.isTidy_normalize (JsonExpr.isTidy_of_readExpr_eq_ok hread')
  have heq := JsonExpr.eq_iff_alphaEq_of_toSql_eq_ok htidy htidy' hsql hsql'
  have hequals := Fragment.equals_iff (isPlain_of_compile_eq_ok h)
    (isPlain_of_compile_eq_ok h')
  exact ⟨_, _, hparse, hparse', heq, hequals.trans heq⟩

/-- The element of a quantifier is called `t` in one text and `_` in the
other. -/
theorem equals_iff_alphaEq_of_compile_eq_ok_some :
    let text := "_.tags.some(t => t == \"a\")"
    let text' := "_.tags.some(_ => (_) == 'a')"
    let fragment : Fragment :=
      ⟨"EXISTS (SELECT 1 FROM json_each((data -> '$.tags')) AS json_1 " ++
        "WHERE (json_1.value = ?))", [.text "a"]⟩
    (default : Options).HasDefaultColumns ∧
      compile text default = .ok fragment ∧
      compile text' default = .ok fragment ∧
        ∃ expr expr', parse text default = .ok expr ∧
          parse text' default = .ok expr' ∧ expr.AlphaEq expr' := by
  intro text text' fragment
  have hcolumns : (default : Options).HasDefaultColumns := ⟨rfl, rfl⟩
  have h : compile text default = .ok fragment := by decide +kernel
  have h' : compile text' default = .ok fragment := by decide +kernel
  obtain ⟨expr, expr', hparse, hparse', heq, -⟩ :=
    equals_iff_alphaEq_of_compile_eq_ok hcolumns hcolumns h h'
  exact ⟨hcolumns, h, h', expr, expr', hparse, hparse', heq.mp rfl⟩

end DocFilter
