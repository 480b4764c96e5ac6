import DocFilter.Proofs.Emission.Closed
import DocFilter.Proofs.Literals.Order
import DocFilter.Proofs.Normal.Redexes
import Mathlib.Data.List.Forall2

/-!
# The SQL of the normal form

An expression and its normal form become the same SQL, apart from how paths and
coercions are spelled: the steps of a path are taken one after another or all at
once, and a value is turned into the other sort and back or left as it is.
Whatever is emitted for a part is respelled in place, so neither the parameters
nor the name that emission fails on depend on the normal form.
-/

namespace DocFilter

namespace Sql

/-! ## Spellings -/

/-- The two texts that a JSON value is emitted as, as JSON and as a scalar:
those of a bound name, those of a path, and those of any other value. -/
inductive Spells (known : Binding → Prop) : Fragment → Fragment → Prop
  | name {binding : Binding} (h : known binding) :
    Spells known binding.json binding.scalar
  | path (object : Fragment) (labels : List String) :
    Spells known
      ("(" ++ object ++ ValueSort.json.arrow ++ quotedPath labels ++ ")")
      ("(" ++ object ++ ValueSort.scalar.arrow ++ quotedPath labels ++ ")")
  | value (json : Fragment) : Spells known json (ValueSort.scalar.ofJson json)

/-- The second fragment is the first one, with some paths and coercions spelled
in a shorter way. -/
inductive Respells (known : Binding → Prop) : Fragment → Fragment → Prop
  | refl (fragment : Fragment) : Respells known fragment fragment
  | trans {first second third : Fragment} (h : Respells known first second)
    (h' : Respells known second third) : Respells known first third
  | append {first first' second second' : Fragment}
    (hfirst : Respells known first first')
    (hsecond : Respells known second second') :
    Respells known (first ++ second) (first' ++ second')
  /-- Steps behind steps are steps of one path. -/
  | path (object : Fragment) (before labels : List String) (sort : ValueSort) :
    Respells known
      ("(" ++ ("(" ++ object ++ ValueSort.json.arrow ++ quotedPath before ++
        ")") ++ sort.arrow ++ quotedPath labels ++ ")")
      ("(" ++ object ++ sort.arrow ++ quotedPath (before ++ labels) ++ ")")
  /-- The scalar of a scalar that was turned into JSON. -/
  | scalar (value : Fragment) :
    Respells known (ValueSort.scalar.ofJson ("json_quote(" ++ value ++ ")"))
      value
  /-- The JSON of a JSON value that was turned into a scalar. -/
  | json {json scalar : Fragment} (h : Spells known json scalar) :
    Respells known ("json_quote(" ++ scalar ++ ")") json

variable {known : Binding → Prop}

theorem Spells.params_eq {json scalar : Fragment}
    (h : Spells known json scalar) : scalar.params = json.params := by
  cases h <;> simp

/-- A spelling does not touch the parameters. -/
theorem Respells.params_eq {first second : Fragment}
    (h : Respells known first second) : first.params = second.params := by
  induction h with
  | refl => rfl
  | trans _ _ ih ih' => exact ih.trans ih'
  | append _ _ ihFirst ihSecond => simp [ihFirst, ihSecond]
  | path | scalar => simp
  | json h => simp [h.params_eq]

namespace Respells

variable {fragment fragment' other other' : Fragment}

/-- A fragment between fixed ones is respelled in place. -/
theorem enclose (h : Respells known fragment fragment')
    (opening closing : Fragment) :
    Respells known (opening ++ fragment ++ closing)
      (opening ++ fragment' ++ closing) :=
  ((refl opening).append h).append (refl closing)

/-- Two fragments between fixed ones are respelled in place. -/
theorem enclose₂ (h : Respells known fragment fragment')
    (h' : Respells known other other') (opening middle closing : Fragment) :
    Respells known (opening ++ fragment ++ middle ++ other ++ closing)
      (opening ++ fragment' ++ middle ++ other' ++ closing) :=
  ((h.enclose opening middle).append h').append (refl closing)

theorem ofJson (h : Respells known fragment fragment') (sort : ValueSort) :
    Respells known (sort.ofJson fragment) (sort.ofJson fragment') := by
  cases sort with
  | json => exact h
  | scalar => exact h.enclose "(" " ->> '$')"

theorem extract (h : Respells known fragment fragment') (sort : ValueSort)
    (labels : List String) :
    Respells known
      ("(" ++ fragment ++ sort.arrow ++ quotedPath labels ++ ")")
      ("(" ++ fragment' ++ sort.arrow ++ quotedPath labels ++ ")") :=
  ((h.enclose "(" sort.arrow).append (refl _)).append (refl ")")

theorem lengthOf (h : Respells known fragment fragment') :
    Respells known (Sql.lengthOf fragment) (Sql.lengthOf fragment') :=
  ((refl _).append h).append (refl _)

theorem elementTest (h : Respells known fragment fragment')
    (h' : Respells known other other') (aliasName : String)
    (quantifier : Quantifier) :
    Respells known (Sql.elementTest aliasName quantifier fragment other)
      (Sql.elementTest aliasName quantifier fragment' other') := by
  cases quantifier <;>
    exact ((((h.enclose _ _).append (refl _)).append (refl _)).append
      h').append (refl _)

theorem commaSeparated {fragments fragments' : List Fragment}
    (h : List.Forall₂ (Respells known) fragments fragments') :
    Respells known (Sql.commaSeparated fragments)
      (Sql.commaSeparated fragments') := by
  induction h with
  | nil => exact refl _
  | cons hfirst hothers ih =>
    cases hothers with
    | nil => exact hfirst
    | cons => exact (hfirst.append (refl ", ")).append ih

end Respells

end Sql

/-! ## Emissions that end alike -/

/-- Two emissions fail on the same name, or succeed with related results. -/
inductive EndsAlike {α : Type} (R : α → α → Prop) :
    Except UnboundName α → Except UnboundName α → Prop
  | error (unbound : UnboundName) :
    EndsAlike R (.error unbound) (.error unbound)
  | ok {value value' : α} (h : R value value') :
    EndsAlike R (.ok value) (.ok value')

namespace EndsAlike

variable {α β γ : Type} {R : α → α → Prop} {S : β → β → Prop}
  {T : γ → γ → Prop} {first first' : Except UnboundName α}
  {second second' : Except UnboundName β}

theorem refl (hR : ∀ value, R value value) (first : Except UnboundName α) :
    EndsAlike R first first := by
  cases first with
  | error unbound => exact error unbound
  | ok value => exact ok (hR value)

theorem trans {third : Except UnboundName α}
    (hR : ∀ value value' value'', R value value' → R value' value'' →
      R value value'')
    (h : EndsAlike R first first') (h' : EndsAlike R first' third) :
    EndsAlike R first third := by
  cases h with
  | error => exact h'
  | ok h =>
    cases h' with
    | ok h' => exact ok (hR _ _ _ h h')

/-- Something is made from a part on both sides. -/
theorem map {make make' : α → β} (h : EndsAlike R first first')
    (hmake : ∀ value value', R value value' →
      S (make value) (make' value')) :
    EndsAlike S
      (do
        let value ← first
        return make value)
      (do
        let value ← first'
        return make' value) := by
  cases h with
  | error unbound => exact error unbound
  | ok h => exact ok (hmake _ _ h)

/-- Something is made from two parts on both sides. -/
theorem map₂ {make make' : α → β → γ} (h : EndsAlike R first first')
    (h' : EndsAlike S second second')
    (hmake : ∀ value value' other other', R value value' → S other other' →
      T (make value other) (make' value' other')) :
    EndsAlike T
      (do
        let value ← first
        let other ← second
        return make value other)
      (do
        let value ← first'
        let other ← second'
        return make' value other) := by
  cases h with
  | error unbound => exact error unbound
  | ok h => exact h'.map fun _ _ hother => hmake _ _ _ _ h hother

/-- What is made from a part is related to the part itself. -/
theorem make_self {make : α → α} (hmake : ∀ value, R (make value) value)
    (first : Except UnboundName α) :
    EndsAlike R
      (do
        let value ← first
        return make value)
      first := by
  cases first with
  | error unbound => exact error unbound
  | ok value => exact ok (hmake value)

end EndsAlike

/-! ## What takes the place of a redex -/

open Sql

/-- The second emission is that of a shorter spelling. -/
abbrev EndsRespelled (known : Binding → Prop) : Emission → Emission → Prop :=
  EndsAlike (Respells known)

variable {known : Binding → Prop} {scope : Scope}

theorem EndsRespelled.refl (emission : Emission) :
    EndsRespelled known emission emission :=
  EndsAlike.refl Respells.refl emission

theorem EndsRespelled.trans {first second third : Emission}
    (h : EndsRespelled known first second)
    (h' : EndsRespelled known second third) :
    EndsRespelled known first third :=
  EndsAlike.trans (fun _ _ _ => Respells.trans) h h'

/-- A JSON value is emitted as its two spellings. -/
theorem JsonExpr.endsAlike_emit_sorts (hscope : scope.All known)
    (expr : JsonExpr) :
    EndsAlike (fun scalar json => Spells known json scalar)
      (expr.emit .scalar scope) (expr.emit .json scope) := by
  -- Both sorts are made from the same parts.
  have hvalue {α : Type} (parts : Except UnboundName α) (make : α → Fragment) :
      EndsAlike (fun scalar json => Spells known json scalar)
        (do
          let value ← parts
          return ValueSort.scalar.ofJson (make value))
        (do
          let value ← parts
          return ValueSort.json.ofJson (make value)) :=
    (EndsAlike.refl (fun _ => rfl) parts).map
      (by rintro value _ rfl; exact .value _)
  cases expr with
  | name text =>
    rw [emit, emit]
    cases hlookup : scope.lookup? text with
    | none => exact .error ⟨text⟩
    | some binding => exact .ok (.name (hscope.lookup? hlookup))
  | path object labels =>
    rw [emit, emit]
    refine (EndsAlike.refl (fun _ => rfl) (object.emit .json scope)).map ?_
    rintro inner _ rfl
    exact .path inner labels
  | item object key =>
    rw [emit, emit]
    refine (EndsAlike.refl (fun _ => rfl) (object.emit .json scope)).map₂
      (EndsAlike.refl (fun _ => rfl) (key.emit scope)) ?_
    rintro inner _ place _ rfl rfl
    exact .value _
  | array elements =>
    rw [emit, emit]
    exact hvalue (emitAll elements scope) _
  | ofScalar value =>
    rw [emit, emit]
    exact hvalue (value.emit scope) _

/-- Steps are joined to those that the object ends in. -/
theorem JsonExpr.endsRespelled_descend (object : JsonExpr)
    (labels : List String) (sort : ValueSort) :
    EndsRespelled known ((path object labels).emit sort scope)
      ((object.descend labels).emit sort scope) := by
  cases object with
  | path inner before =>
    rw [descend, emit, emit, emit]
    cases inner.emit .json scope with
    | error unbound => exact .error unbound
    | ok fragment => exact .ok (.path fragment before labels sort)
  | name | item | array | ofScalar => exact .refl _

/-- A coercion is taken off where its opposite stands on top of it. -/
theorem JsonExpr.endsRespelled_asScalar (value : JsonExpr) :
    EndsRespelled known (value.emit .scalar scope)
      (value.asScalar.emit scope) := by
  cases value with
  | ofScalar inner =>
    rw [emit, asScalar]
    exact EndsAlike.make_self Respells.scalar (inner.emit scope)
  | name | path | item | array => exact .refl _

/-- A coercion is taken off where its opposite stands on top of it. -/
theorem ScalarExpr.endsRespelled_asJson (hscope : scope.All known)
    (value : ScalarExpr) (sort : ValueSort) :
    EndsRespelled known ((JsonExpr.ofScalar value).emit sort scope)
      (value.asJson.emit sort scope) := by
  cases value with
  | ofJson inner =>
    rw [JsonExpr.emit, emit, asJson]
    cases sort with
    | scalar =>
      exact EndsAlike.make_self Respells.scalar (inner.emit .scalar scope)
    | json =>
      have hsorts := inner.endsAlike_emit_sorts hscope
      generalize inner.emit .scalar scope = scalar at hsorts
      generalize inner.emit .json scope = json at hsorts
      cases hsorts with
      | error unbound => exact .error unbound
      | ok h => exact .ok (.json h)
  | _ => exact .refl _

/-! ## Normal forms -/

/-- The bindings of a scope are known, and so are the elements of all
subqueries. -/
structure Scope.IsKnown (known : Binding → Prop) (scope : Scope) : Prop where
  all : scope.All known
  known_element (aliasName : String) : known (.element aliasName)

theorem Scope.IsKnown.element (h : scope.IsKnown known) (name : String) :
    (scope.element name).IsKnown known where
  all := h.all.element (h.known_element _) name
  known_element := h.known_element

mutual

/-- The normal form of an expression for a JSON value is emitted as a shorter
spelling. -/
theorem JsonExpr.endsRespelled_normalize {scope : Scope}
    (hscope : scope.IsKnown known) (expr : JsonExpr) (sort : ValueSort) :
    EndsRespelled known (expr.emit sort scope)
      (expr.normalize.emit sort scope) := by
  cases expr with
  | name text =>
    rw [JsonExpr.normalize]
    exact .refl _
  | path object labels =>
    have hobject := object.endsRespelled_normalize hscope .json
    rw [JsonExpr.normalize]
    refine .trans ?_ (object.normalize.endsRespelled_descend labels sort)
    rw [JsonExpr.emit, JsonExpr.emit]
    exact hobject.map fun _ _ h => h.extract sort labels
  | item object key =>
    have hobject := object.endsRespelled_normalize hscope .json
    have hkey := key.endsRespelled_normalize hscope
    rw [JsonExpr.normalize, JsonExpr.emit, JsonExpr.emit]
    exact hobject.map₂ hkey fun _ _ _ _ h h' =>
      (h.enclose₂ h' "(" " -> " ")").ofJson sort
  | array elements =>
    have helements := JsonExpr.endsRespelled_normalizeAll hscope elements
    rw [JsonExpr.normalize, JsonExpr.emit, JsonExpr.emit]
    exact helements.map fun _ _ h =>
      ((Respells.commaSeparated h).enclose "json_array(" ")").ofJson sort
  | ofScalar value =>
    have hvalue := value.endsRespelled_normalize hscope
    rw [JsonExpr.normalize]
    refine .trans ?_ (value.normalize.endsRespelled_asJson hscope.all sort)
    rw [JsonExpr.emit, JsonExpr.emit]
    exact hvalue.map fun _ _ h => (h.enclose "json_quote(" ")").ofJson sort

theorem JsonExpr.endsRespelled_normalizeAll {scope : Scope}
    (hscope : scope.IsKnown known) (elements : List JsonExpr) :
    EndsAlike (List.Forall₂ (Respells known))
      (JsonExpr.emitAll elements scope)
      (JsonExpr.emitAll (JsonExpr.normalizeAll elements) scope) := by
  cases elements with
  | nil =>
    rw [JsonExpr.normalizeAll]
    exact .ok .nil
  | cons element others =>
    have helement := element.endsRespelled_normalize hscope .json
    have hothers := JsonExpr.endsRespelled_normalizeAll hscope others
    rw [JsonExpr.normalizeAll, JsonExpr.emitAll, JsonExpr.emitAll]
    exact helement.map₂ hothers fun _ _ _ _ h h' => .cons h h'

/-- The normal form of an expression for a scalar is emitted as a shorter
spelling. -/
theorem ScalarExpr.endsRespelled_normalize {scope : Scope}
    (hscope : scope.IsKnown known) (expr : ScalarExpr) :
    EndsRespelled known (expr.emit scope) (expr.normalize.emit scope) := by
  cases expr with
  | literal value =>
    rw [ScalarExpr.normalize]
    exact .refl _
  | matching style subject pattern =>
    have hsubject := subject.endsRespelled_normalize hscope
    have hpattern := pattern.endsRespelled_normalize hscope
    rw [ScalarExpr.normalize, ScalarExpr.emit, ScalarExpr.emit]
    exact hpattern.map₂ hsubject fun _ _ _ _ h h' => h.enclose₂ h' _ ", " ")"
  | length object =>
    have hobject := object.endsRespelled_normalize hscope .json
    rw [ScalarExpr.normalize, ScalarExpr.emit, ScalarExpr.emit]
    exact hobject.map fun _ _ h => h.lengthOf
  | includes collection needle =>
    have hcollection := collection.endsRespelled_normalize hscope .json
    have hneedle := needle.endsRespelled_normalize hscope
    rw [ScalarExpr.normalize, ScalarExpr.emit, ScalarExpr.emit]
    exact hcollection.map₂ hneedle fun _ _ _ _ h h' =>
      h.elementTest ((Respells.refl _).append h') scope.aliasName .any
  | quantified quantifier collection element condition =>
    have hcollection := collection.endsRespelled_normalize hscope .json
    have hcondition :=
      condition.endsRespelled_normalize (hscope.element element)
    rw [ScalarExpr.normalize, ScalarExpr.emit, ScalarExpr.emit]
    exact hcollection.map₂ hcondition fun _ _ _ _ h h' =>
      h.elementTest h' scope.aliasName quantifier
  | unary op operand =>
    have hoperand := operand.endsRespelled_normalize hscope
    rw [ScalarExpr.normalize, ScalarExpr.emit, ScalarExpr.emit]
    exact hoperand.map fun _ _ h => h.enclose op.sqlOpening ")"
  | binary op left right =>
    have hleft := left.endsRespelled_normalize hscope
    have hright := right.endsRespelled_normalize hscope
    rw [ScalarExpr.normalize, ScalarExpr.emit, ScalarExpr.emit]
    exact hleft.map₂ hright fun _ _ _ _ h h' => h.enclose₂ h' "(" _ ")"
  | ofJson value =>
    have hvalue := value.endsRespelled_normalize hscope .scalar
    rw [ScalarExpr.normalize, ScalarExpr.emit]
    exact hvalue.trans value.normalize.endsRespelled_asScalar

end

/-- It does not matter whether an expression is taken as a scalar before or
after it is brought into normal form. -/
theorem JsonExpr.normalize_asScalar (expr : JsonExpr) :
    expr.asScalar.normalize = expr.normalize.asScalar := by
  cases expr with
  | ofScalar value =>
    rw [asScalar, normalize]
    have hnormal := value.isNormal_normalize
    generalize value.normalize = value' at hnormal
    cases value' with
    | ofJson inner =>
      have hne := (ScalarExpr.isNormal_ofJson.mp hnormal).1
      exact (asScalar_of_ne_ofScalar hne).symm
    | _ => rfl
  | name | path | item | array =>
    rw [asScalar_of_ne_ofScalar (by simp), ScalarExpr.normalize]

/-! ## What the normal form does not change -/

/-- The bindings whose texts can stand in what is emitted in a scope: those of
the scope, and the elements of subqueries. -/
def Scope.Mentions (scope : Scope) (binding : Binding) : Prop :=
  (∃ name, (name, binding) ∈ scope.bindings) ∨
    ∃ aliasName, binding = .element aliasName

theorem Scope.isKnown_mentions (scope : Scope) :
    scope.IsKnown scope.Mentions where
  all := fun entry hentry => Or.inl ⟨entry.1, hentry⟩
  known_element aliasName := Or.inr ⟨aliasName, rfl⟩

/-- Two emissions in a scope fail on the same name, or succeed with the same
parameters and with SQL that differs only in how paths and coercions are
spelled. -/
def Scope.DifferInSpelling (scope : Scope) : Emission → Emission → Prop :=
  EndsAlike fun fragment fragment' => fragment.params = fragment'.params ∧
    Respells scope.Mentions fragment fragment'

theorem EndsRespelled.differInSpelling {first second : Emission}
    (h : EndsRespelled scope.Mentions first second) :
    scope.DifferInSpelling first second := by
  cases h with
  | error unbound => exact .error unbound
  | ok h => exact .ok ⟨h.params_eq, h⟩

/-- In every scope an expression and its normal form fail on the same name, or
become SQL with the same parameters that differs only in how paths and coercions
are spelled. -/
theorem differInSpelling_emit_normalize (scope : Scope) :
    (∀ (expr : JsonExpr) (sort : ValueSort),
      scope.DifferInSpelling (expr.emit sort scope)
        (expr.normalize.emit sort scope)) ∧
    (∀ expr : JsonExpr,
      scope.DifferInSpelling (expr.toSql scope)
        (expr.normalize.toSql scope)) ∧
    ∀ expr : ScalarExpr,
      scope.DifferInSpelling (expr.emit scope)
        (expr.normalize.emit scope) := by
  have hscope := scope.isKnown_mentions
  refine ⟨?_, ?_, ?_⟩
  · intro expr sort
    exact (expr.endsRespelled_normalize hscope sort).differInSpelling
  · intro expr
    have hsql := expr.asScalar.endsRespelled_normalize hscope
    rw [expr.normalize_asScalar] at hsql
    exact hsql.differInSpelling
  · intro expr
    exact (expr.endsRespelled_normalize hscope).differInSpelling

end DocFilter
