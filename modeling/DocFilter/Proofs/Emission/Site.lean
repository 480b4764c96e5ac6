import DocFilter.Sql.Emit
import Mathlib.Data.List.Basic

/-!
# Sites

A site is an expression together with the scope that it is emitted in.  The
parts of a site are the expressions right below it, each in its own scope:
only the condition of a quantifier has another scope than the expression
around it.
-/

namespace DocFilter

/-- An expression of one of the two sorts in a scope. -/
inductive Site where
  | json (expr : JsonExpr) (scope : Scope)
  | scalar (expr : ScalarExpr) (scope : Scope)

namespace Site

/-- The scope of a site. -/
def scope : Site → Scope
  | .json _ scope => scope
  | .scalar _ scope => scope

/-- The sites right below a site. -/
def parts : Site → List Site
  | .json (.name _) _ => []
  | .json (.path object _) scope => [.json object scope]
  | .json (.item object key) scope => [.json object scope, .scalar key scope]
  | .json (.array elements) scope => elements.map fun element =>
    .json element scope
  | .json (.ofScalar value) scope => [.scalar value scope]
  | .scalar (.literal _) _ => []
  | .scalar (.matching _ subject pattern) scope =>
    [.scalar subject scope, .scalar pattern scope]
  | .scalar (.length object) scope => [.json object scope]
  | .scalar (.includes collection needle) scope =>
    [.json collection scope, .scalar needle scope]
  | .scalar (.quantified _ collection element condition) scope =>
    [.json collection scope, .scalar condition (scope.element element)]
  | .scalar (.unary _ operand) scope => [.scalar operand scope]
  | .scalar (.binary _ left right) scope =>
    [.scalar left scope, .scalar right scope]
  | .scalar (.ofJson value) scope => [.json value scope]

/-- A site stands in another one, at any depth. -/
inductive Within : Site → Site → Prop
  | refl (site : Site) : Within site site
  | part {inner part outer : Site} (hpart : part ∈ outer.parts)
    (hinner : Within inner part) :
      Within inner outer

/-- The scope of a part is that of the site, or that of the condition of a
quantifier in it. -/
theorem scope_of_mem_parts {part site : Site} (h : part ∈ site.parts) :
    part.scope = site.scope ∨ ∃ element,
      part.scope = site.scope.element element := by
  cases site with
  | json expr outer =>
    left
    cases expr with
    | name text => cases h
    | path object labels =>
      rw [List.mem_singleton.mp h]
      rfl
    | item object key =>
      rcases List.mem_pair.mp h with rfl | rfl <;> rfl
    | array elements =>
      obtain ⟨element, -, rfl⟩ := List.mem_map.mp h
      rfl
    | ofScalar value =>
      rw [List.mem_singleton.mp h]
      rfl
  | scalar expr outer =>
    cases expr with
    | literal value => cases h
    | quantified quantifier collection element condition =>
      rcases List.mem_pair.mp h with rfl | rfl
      · exact Or.inl rfl
      · exact Or.inr ⟨element, rfl⟩
    | matching | includes | binary =>
      left
      rcases List.mem_pair.mp h with rfl | rfl <;> rfl
    | length | unary | ofJson =>
      left
      rw [List.mem_singleton.mp h]
      rfl

/-- What holds of the scope of a site, and is kept by conditions of
quantifiers, holds of the scopes of all sites in it. -/
theorem Within.scope
    {P : Scope → Prop}
    (hP : ∀ scope element, P scope → P (scope.element element))
    {inner outer : Site} (h : Within inner outer) (houter : P outer.scope) :
    P inner.scope := by
  induction h with
  | refl => exact houter
  | part hpart _ ih =>
    apply ih
    rcases scope_of_mem_parts hpart with hscope | ⟨element, hscope⟩
    · rw [hscope]
      exact houter
    · rw [hscope]
      exact hP _ element houter

end Site

end DocFilter
