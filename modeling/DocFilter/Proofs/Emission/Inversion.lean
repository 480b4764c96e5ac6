import DocFilter.Sql.Emit

/-!
# What emission puts together

An emission that succeeds has succeeded for every part, and its fragment is
put together from the fragments of the parts.  There is one statement for each
form of expression; later proofs use these statements and do not open the
definition of emission again.
-/

namespace DocFilter

/-- A sequence of two steps succeeds when both of them do. -/
theorem emission_bind_eq_ok
    {α β : Type} {first : Except UnboundName α}
    {next : α → Except UnboundName β} {result : β} :
    (first >>= next) = .ok result ↔
      ∃ value, first = .ok value ∧ next value = .ok result := by
  cases first with
  | error unbound =>
    constructor
    · intro h
      cases h
    · rintro ⟨value, hvalue, -⟩
      cases hvalue
  | ok value =>
    constructor
    · intro h
      exact ⟨value, rfl, h⟩
    · rintro ⟨value', hvalue, hnext⟩
      cases hvalue
      exact hnext

/-- One part succeeds and something is made from it. -/
theorem emission_map_eq_ok
    {α β : Type} {first : Except UnboundName α} {make : α → β} {result : β} :
    (do
      let value ← first
      return make value) = .ok result ↔
      ∃ value, first = .ok value ∧ make value = result := by
  rw [emission_bind_eq_ok]
  simp only [pure, Except.pure, Except.ok.injEq]

/-- Two parts succeed, the first one first, and something is made from both. -/
theorem emission_map₂_eq_ok
    {α β γ : Type} {first : Except UnboundName α}
    {second : Except UnboundName β} {make : α → β → γ} {result : γ} :
    (do
      let value ← first
      let value' ← second
      return make value value') = .ok result ↔
      ∃ value, first = .ok value ∧ ∃ value', second = .ok value' ∧
        make value value' = result := by
  rw [emission_bind_eq_ok]
  simp only [emission_map_eq_ok]

variable {sort : ValueSort} {scope : Scope} {fragment : Fragment}

namespace JsonExpr

theorem emit_name_eq_ok {text : String} :
    (name text).emit sort scope = .ok fragment ↔
      ∃ binding, scope.lookup? text = some binding ∧
        .ofText (binding.sql sort) = fragment := by
  rw [emit]
  cases scope.lookup? text with
  | none =>
    constructor
    · intro h
      cases h
    · rintro ⟨binding, hbinding, -⟩
      cases hbinding
  | some binding =>
    constructor
    · intro h
      exact ⟨binding, rfl, Except.ok.inj h⟩
    · rintro ⟨binding', hbinding, rfl⟩
      cases hbinding
      rfl

theorem emit_path_eq_ok {object : JsonExpr} {labels : List String} :
    (path object labels).emit sort scope = .ok fragment ↔
      ∃ inner, object.emit .json scope = .ok inner ∧
        "(" ++ inner ++ sort.arrow ++ Sql.quotedPath labels ++ ")" =
          fragment :=
  emission_map_eq_ok

theorem emit_item_eq_ok {object : JsonExpr} {key : ScalarExpr} :
    (item object key).emit sort scope = .ok fragment ↔
      ∃ inner, object.emit .json scope = .ok inner ∧
        ∃ place, key.emit scope = .ok place ∧
          sort.ofJson ("(" ++ inner ++ " -> " ++ place ++ ")") = fragment :=
  emission_map₂_eq_ok

theorem emit_array_eq_ok {elements : List JsonExpr} :
    (array elements).emit sort scope = .ok fragment ↔
      ∃ fragments, emitAll elements scope = .ok fragments ∧
        sort.ofJson ("json_array(" ++ Sql.commaSeparated fragments ++ ")") =
          fragment :=
  emission_map_eq_ok

theorem emit_ofScalar_eq_ok {value : ScalarExpr} :
    (ofScalar value).emit sort scope = .ok fragment ↔
      ∃ inner, value.emit scope = .ok inner ∧
        sort.ofJson ("json_quote(" ++ inner ++ ")") = fragment :=
  emission_map_eq_ok

theorem emitAll_nil_eq_ok {fragments : List Fragment} :
    emitAll [] scope = .ok fragments ↔ [] = fragments := by
  constructor
  · intro h
    exact Except.ok.inj h
  · rintro rfl
    rfl

theorem emitAll_cons_eq_ok
    {element : JsonExpr} {others : List JsonExpr} {fragments : List Fragment} :
    emitAll (element :: others) scope = .ok fragments ↔
      ∃ first, element.emit .json scope = .ok first ∧
        ∃ later, emitAll others scope = .ok later ∧
          first :: later = fragments :=
  emission_map₂_eq_ok

end JsonExpr

namespace ScalarExpr

theorem emit_literal_eq_ok {value : Literal} :
    (literal value).emit scope = .ok fragment ↔
      .placeholder value = fragment := by
  constructor
  · intro h
    exact Except.ok.inj h
  · rintro rfl
    rfl

theorem emit_matching_eq_ok {style : PatternStyle}
    {subject pattern : ScalarExpr} :
    (matching style subject pattern).emit scope = .ok fragment ↔
      ∃ first, pattern.emit scope = .ok first ∧
        ∃ second, subject.emit scope = .ok second ∧
          style.name ++ "(" ++ first ++ ", " ++ second ++ ")" = fragment :=
  emission_map₂_eq_ok

theorem emit_length_eq_ok {object : JsonExpr} :
    (length object).emit scope = .ok fragment ↔
      ∃ inner, object.emit .json scope = .ok inner ∧
        Sql.lengthOf inner = fragment :=
  emission_map_eq_ok

theorem emit_includes_eq_ok {collection : JsonExpr} {needle : ScalarExpr} :
    (includes collection needle).emit scope = .ok fragment ↔
      ∃ inner, collection.emit .json scope = .ok inner ∧
        ∃ sought, needle.emit scope = .ok sought ∧
          Sql.membershipTest scope.aliasName inner sought = fragment :=
  emission_map₂_eq_ok

theorem emit_quantified_eq_ok
    {quantifier : Quantifier} {collection : JsonExpr} {element : String}
    {condition : ScalarExpr} :
    (quantified quantifier collection element condition).emit scope =
      .ok fragment ↔
      ∃ inner, collection.emit .json scope = .ok inner ∧
        ∃ test, condition.emit (scope.element element) = .ok test ∧
          Sql.elementTest scope.aliasName quantifier inner test = fragment :=
  emission_map₂_eq_ok

theorem emit_unary_eq_ok {op : UnaryOp} {operand : ScalarExpr} :
    (unary op operand).emit scope = .ok fragment ↔
      ∃ inner, operand.emit scope = .ok inner ∧
        op.sqlOpening ++ inner ++ ")" = fragment :=
  emission_map_eq_ok

theorem emit_binary_eq_ok {op : BinaryOp} {left right : ScalarExpr} :
    (binary op left right).emit scope = .ok fragment ↔
      ∃ first, left.emit scope = .ok first ∧
        ∃ second, right.emit scope = .ok second ∧
          "(" ++ first ++ (" " ++ op.sql ++ " ") ++ second ++ ")" = fragment :=
  emission_map₂_eq_ok

theorem emit_ofJson_eq_ok {value : JsonExpr} :
    (ofJson value).emit scope = .ok fragment ↔
      value.emit .scalar scope = .ok fragment :=
  Iff.rfl

end ScalarExpr

end DocFilter
