import DocFilter.Proofs.Emission.Closed
import DocFilter.Proofs.Syntax.Outside

/-!
# Emitted SQL has a placeholder for every value

Every emitted text stands on its own: its quoted texts are closed, its
parentheses are balanced, and it has as many placeholders as there are values.
Labels may hold quotes, parentheses and question marks, since all of a path
stands in a quoted text.
-/

namespace DocFilter

/-- The text of a fragment is complete, with a placeholder for each of its
values. -/
def Fragment.IsComplete (fragment : Fragment) : Prop :=
  Sql.IsComplete fragment.sql.toList fragment.params.length

/-- Both texts of a bound name are complete and have no placeholders. -/
structure Binding.IsComplete (binding : Binding) : Prop where
  json : Sql.IsComplete binding.json.toList 0
  scalar : Sql.IsComplete binding.scalar.toList 0

/-- The text of a fragment leads from one number of open parentheses to
another, and has a placeholder for each of its values. -/
structure Fragment.Fills (before after : Nat) (fragment : Fragment) : Prop where
  leads : fragment.Leads before after
  placeholders_eq :
    Sql.placeholders fragment.sql.toList = fragment.params.length

theorem Fragment.isComplete_iff_fills {fragment : Fragment} :
    fragment.IsComplete ↔ fragment.Fills 0 0 := by
  unfold Fragment.IsComplete
  rw [Sql.isComplete_iff]
  constructor
  · rintro ⟨hclosed, hcount⟩
    exact ⟨hclosed, hcount⟩
  · rintro ⟨hleads, hcount⟩
    exact ⟨hleads, hcount⟩

theorem Fragment.Fills.append
    {before middle after : Nat} {first second : Fragment}
    (hfirst : first.Fills before middle)
    (hsecond : second.Fills middle after) :
    (first ++ second).Fills before after := by
  refine ⟨hfirst.leads.append hsecond.leads, ?_⟩
  rw [Fragment.sql_append, String.toList_append, Fragment.params_append,
    Sql.placeholders_append hfirst.leads, hfirst.placeholders_eq,
    hsecond.placeholders_eq, List.length_append]

/-- Having a placeholder for each value is a property that emission keeps. -/
theorem Fragment.isKept_fills : Fragment.IsKept Fragment.Fills where
  fixed h := ⟨h.1, Sql.placeholders_eq_zero h.2⟩
  placeholder _ :=
    ⟨(by decide : Sql.IsClosed "?".toList),
      (by decide : Sql.placeholders "?".toList = 1)⟩
  path labels :=
    ⟨Sql.isClosed_quotedPath labels, Sql.placeholders_quotedPath labels⟩
  append hfirst hsecond := hfirst.append hsecond
  within h depth := ⟨Sql.Leads.within h.leads depth, h.placeholders_eq⟩

theorem Binding.IsComplete.fills {binding : Binding}
    (h : binding.IsComplete) (sort : ValueSort) :
    Fragment.Fills 0 0 (binding.sql sort) := by
  apply Fragment.isComplete_iff_fills.mp
  cases sort with
  | json => exact h.json
  | scalar => exact h.scalar

/-- Whatever the labels, the names and the literals of an expression of either
sort are: if the texts of all bound names are complete and have no
placeholders, then all SQL that is emitted is complete, with one placeholder
for each value. -/
theorem isComplete_of_emit_eq_ok
    {scope : Scope} (hscope : scope.All Binding.IsComplete)
    {fragment : Fragment} :
    (∀ (expr : JsonExpr) (sort : ValueSort),
      expr.emit sort scope = .ok fragment → fragment.IsComplete) ∧
    (∀ expr : ScalarExpr,
      expr.emit scope = .ok fragment → fragment.IsComplete) ∧
    ∀ expr : JsonExpr,
      expr.toSql scope = .ok fragment → fragment.IsComplete := by
  have hkeeps : scope.Keeps Fragment.Fills :=
    fun entry hentry => (hscope entry hentry).fills
  have hscalar (expr : ScalarExpr) (h : expr.emit scope = .ok fragment) :
      fragment.IsComplete :=
    Fragment.isComplete_iff_fills.mpr
      (ScalarExpr.emit_keeps Fragment.isKept_fills hkeeps h)
  refine ⟨?_, hscalar, fun expr => hscalar expr.asScalar⟩
  intro expr sort h
  exact Fragment.isComplete_iff_fills.mpr
    (JsonExpr.emit_keeps Fragment.isKept_fills hkeeps h)

/-- A label, a name and a literal with quotes, parentheses and question marks
in them, and a bound name whose text has a quoted text. -/
theorem isComplete_of_emit_eq_ok_quotes :
    let scope := (Scope.root "data" "records.id").bind "it's"
      ⟨"json('(''?')", "(x ->> ')')"⟩
    let expr : ScalarExpr :=
      .quantified .all (.path (.name "it's") ["a'(?", "b"]) "?("
        (.binary .equal (.ofJson (.name "?(")) (.literal (.text "?'(")))
    let fragment : Fragment :=
      ⟨"NOT EXISTS (SELECT 1 FROM json_each((json('(''?') -> " ++
        "'$.\"a''(?\".b')) AS json_1 WHERE NOT ((json_1.value = ?)))",
        [.text "?'("]⟩
    scope.All Binding.IsComplete ∧ expr.emit scope = .ok fragment ∧
      fragment.IsComplete := by
  intro scope expr fragment
  have htexts : ∀ entry ∈ scope.bindings,
      Sql.IsComplete entry.2.json.toList 0 ∧
        Sql.IsComplete entry.2.scalar.toList 0 := by
    decide +kernel
  have hscope : scope.All Binding.IsComplete :=
    fun entry hentry => ⟨(htexts entry hentry).1, (htexts entry hentry).2⟩
  have hemit : expr.emit scope = .ok fragment := by decide +kernel
  obtain ⟨-, hscalar, -⟩ := isComplete_of_emit_eq_ok hscope
  exact ⟨hscope, hemit, hscalar expr hemit⟩

end DocFilter
