import DocFilter.Proofs.Emission.Inversion
import DocFilter.Proofs.Scoping.FreeNames
import DocFilter.Proofs.Syntax.Terms

/-!
# Expressions as rows of terms

Emission puts texts together, and what it puts together is made of terms: an
expression for a JSON value is one term, and an expression for a scalar is a
row of them.  A row has one term unless it is a test for elements, which starts
with `EXISTS` or with `NOT EXISTS`.

The columns are the default ones.  An expression with a name that is not bound
has no terms.
-/

namespace DocFilter

open Sql

/-! ## Bound names -/

/-- What a name can stand for. -/
inductive Referent where
  | document
  | row
  /-- An element of the collection that a subquery goes through, with the number
  of subqueries around that. -/
  | element (depth : Nat)
deriving DecidableEq

/-- The alias of a subquery that stands in a number of others. -/
def elementAlias (depth : Nat) : String := Scope.aliasName ⟨[], depth⟩

/-- How a name that stands for this is spelled. -/
def Referent.binding : Referent → Binding
  | document => .document "data"
  | row => .column "records.id"
  | element depth => .element (elementAlias depth)

/-- The scope inside conditions on some elements, the innermost first. -/
def Scope.under : List String → Scope
  | [] => .root "data" "records.id"
  | element :: outer => (Scope.under outer).element element

/-- What a name stands for inside conditions on some elements. -/
def referent? : List String → String → Option Referent
  | [], name =>
    if name = "_" then some .document
    else if name = "id" then some .row else none
  | element :: outer, name =>
    if name = element then some (.element outer.length)
    else referent? outer name

theorem Scope.depth_under (elements : List String) :
    (Scope.under elements).depth = elements.length := by
  induction elements with
  | nil => rfl
  | cons element outer ih => exact congrArg Nat.succ ih

theorem Scope.aliasName_under (elements : List String) :
    (Scope.under elements).aliasName = elementAlias elements.length := by
  unfold elementAlias Scope.aliasName
  rw [Scope.depth_under]

theorem Scope.lookup?_under (elements : List String) (name : String) :
    (Scope.under elements).lookup? name =
      (referent? elements name).map Referent.binding := by
  induction elements with
  | nil =>
    rw [Scope.under, Scope.lookup?_root, referent?]
    split_ifs <;> rfl
  | cons element outer ih =>
    rw [Scope.under, Scope.lookup?_element, referent?, Scope.aliasName_under]
    split_ifs
    · rfl
    · exact ih

/-! ## Forms of terms -/

namespace Sql.Term

/-- A row in parentheses. -/
def enclosed (row : List Term) : Term := call "" [row]

/-- The operator that extracts a member as a sort. -/
def arrow : ValueSort → Term
  | .json => word "->"
  | .scalar => word "->>"

/-- A term for JSON, turned into a sort. -/
def ofJson : ValueSort → Term → Term
  | .json, term => term
  | .scalar, term => enclosed [term, arrow .scalar, word "'$'"]

/-- The words that the length of a JSON value is written with. -/
def lengthWords : List Term :=
  [word "SELECT", word "CASE", call "json_type" [[word "length_arg"]],
    word "WHEN", word "'text'", word "THEN",
    call "length" [[word "length_arg", arrow .scalar, word "'$'"]],
    word "WHEN", word "'array'", word "THEN",
    call "json_array_length" [[word "length_arg"]], word "ELSE",
    enclosed [word "length_arg", arrow .scalar, word "'$.length'"],
    word "END", word "FROM"]

/-- The length of a JSON value. -/
def lengthOf (object : Term) : Term :=
  enclosed
    (lengthWords ++
      [enclosed [word "SELECT", object, word "AS", word "length_arg"]])

/-- A test for an element of a collection. -/
def test (aliasName : String) (collection : Term) (condition : List Term) :
    List Term :=
  [word "EXISTS",
    enclosed
      ([word "SELECT", word "1", word "FROM", call "json_each" [[collection]],
        word "AS", word aliasName, word "WHERE"] ++ condition)]

/-- A test for a quantifier. -/
def elementTest (aliasName : String) (collection : Term)
    (condition : List Term) : Quantifier → List Term
  | .any => test aliasName collection condition
  | .all =>
    word "NOT" ::
      test aliasName collection [word "NOT", enclosed condition]

/-- Looks for an element that equals a scalar. -/
def membershipTest (aliasName : String) (collection : Term)
    (needle : List Term) : List Term :=
  test aliasName collection
    (word (aliasName ++ ".value") :: word "=" :: needle)

/-- An operation on a scalar. -/
def unary : UnaryOp → List Term → Term
  | .not, operand => enclosed (word "NOT" :: operand)
  | .minus, operand => enclosed (word "-" :: operand)
  | .lower, operand => call "lower" [operand]
  | .upper, operand => call "upper" [operand]

/-- An operation between two scalars. -/
def binary (op : BinaryOp) (left right : List Term) : Term :=
  enclosed (left ++ word op.sql :: right)

/-- A bound name. -/
def referent : Referent → ValueSort → Term
  | .document, sort => ofJson sort (word "data")
  | .row, .json => call "json_quote" [[word "records.id"]]
  | .row, .scalar => word "records.id"
  | .element depth, .json =>
    call "IIF"
      [[word (elementAlias depth ++ ".type"), word "IN",
          call "" [[word "'object'"], [word "'array'"]]],
        [word (elementAlias depth ++ ".value")],
        [call "json_quote" [[word (elementAlias depth ++ ".value")]]]]
  | .element depth, .scalar => word (elementAlias depth ++ ".value")

end Sql.Term

/-! ## Expressions -/

mutual

/-- The term of an expression for a JSON value, as JSON or as a scalar. -/
def JsonExpr.term :
    JsonExpr → ValueSort → List String → Except UnboundName Term
  | .name text, sort, elements =>
    match referent? elements text with
    | some referent => .ok (.referent referent sort)
    | none => .error ⟨text⟩
  | .path object labels, sort, elements => do
    let object ← object.term .json elements
    return .enclosed [object, .arrow sort, .word (quotedPath labels)]
  | .item object key, sort, elements => do
    let object ← object.term .json elements
    let key ← key.row elements
    return .ofJson sort (.enclosed (object :: .arrow .json :: key))
  | .array items, sort, elements => do
    let terms ← JsonExpr.terms items elements
    return .ofJson sort (.call "json_array" (terms.map fun term => [term]))
  | .ofScalar value, sort, elements => do
    let row ← value.row elements
    return .ofJson sort (.call "json_quote" [row])

/-- The terms of some expressions, each as JSON. -/
def JsonExpr.terms :
    List JsonExpr → List String → Except UnboundName (List Term)
  | [], _ => .ok []
  | item :: others, elements => do
    let term ← item.term .json elements
    let others ← JsonExpr.terms others elements
    return term :: others

/-- The row of an expression for a scalar. -/
def ScalarExpr.row :
    ScalarExpr → List String → Except UnboundName (List Term)
  | .literal value, _ => .ok [.placeholder value]
  | .matching style subject pattern, elements => do
    let pattern ← pattern.row elements
    let subject ← subject.row elements
    return [.call style.name [pattern, subject]]
  | .length object, elements => do
    let object ← object.term .json elements
    return [.lengthOf object]
  | .includes collection needle, elements => do
    let collection ← collection.term .json elements
    let needle ← needle.row elements
    return Term.membershipTest (elementAlias elements.length) collection needle
  | .quantified quantifier collection element condition, elements => do
    let collection ← collection.term .json elements
    let condition ← condition.row (element :: elements)
    return Term.elementTest (elementAlias elements.length) collection condition
      quantifier
  | .unary op operand, elements => do
    let operand ← operand.row elements
    return [.unary op operand]
  | .binary op left right, elements => do
    let left ← left.row elements
    let right ← right.row elements
    return [.binary op left right]
  | .ofJson value, elements => do
    let term ← value.term .scalar elements
    return [term]

end

/-! ## What terms and rows are made of -/

namespace JsonExpr

variable {sort : ValueSort} {elements : List String} {term : Term}

theorem term_name_eq_ok {text : String} :
    (name text).term sort elements = .ok term ↔
      ∃ referent, referent? elements text = some referent ∧
        .referent referent sort = term := by
  rw [JsonExpr.term]
  cases referent? elements text with
  | none => simp
  | some referent => simp

theorem term_path_eq_ok {object : JsonExpr} {labels : List String} :
    (path object labels).term sort elements = .ok term ↔
      ∃ inner, object.term .json elements = .ok inner ∧
        .enclosed [inner, .arrow sort, .word (quotedPath labels)] = term :=
  emission_map_eq_ok

theorem term_item_eq_ok {object : JsonExpr} {key : ScalarExpr} :
    (item object key).term sort elements = .ok term ↔
      ∃ inner, object.term .json elements = .ok inner ∧
        ∃ place, key.row elements = .ok place ∧
          .ofJson sort (.enclosed (inner :: .arrow .json :: place)) = term :=
  emission_map₂_eq_ok

theorem term_array_eq_ok {items : List JsonExpr} :
    (array items).term sort elements = .ok term ↔
      ∃ inners, terms items elements = .ok inners ∧
        .ofJson sort (.call "json_array" (inners.map fun inner => [inner])) =
          term :=
  emission_map_eq_ok

theorem term_ofScalar_eq_ok {value : ScalarExpr} :
    (ofScalar value).term sort elements = .ok term ↔
      ∃ inner, value.row elements = .ok inner ∧
        .ofJson sort (.call "json_quote" [inner]) = term :=
  emission_map_eq_ok

theorem terms_nil_eq_ok {inners : List Term} :
    terms [] elements = .ok inners ↔ [] = inners := by
  rw [terms, Except.ok.injEq]

theorem terms_cons_eq_ok {first : JsonExpr} {others : List JsonExpr}
    {inners : List Term} :
    terms (first :: others) elements = .ok inners ↔
      ∃ inner, first.term .json elements = .ok inner ∧
        ∃ later, terms others elements = .ok later ∧ inner :: later = inners :=
  emission_map₂_eq_ok

end JsonExpr

namespace ScalarExpr

variable {elements : List String} {row : List Term}

theorem row_literal_eq_ok {value : Literal} :
    (literal value).row elements = .ok row ↔ [.placeholder value] = row := by
  rw [ScalarExpr.row, Except.ok.injEq]

theorem row_matching_eq_ok {style : PatternStyle}
    {subject pattern : ScalarExpr} :
    (matching style subject pattern).row elements = .ok row ↔
      ∃ first, pattern.row elements = .ok first ∧
        ∃ second, subject.row elements = .ok second ∧
          [.call style.name [first, second]] = row :=
  emission_map₂_eq_ok

theorem row_length_eq_ok {object : JsonExpr} :
    (length object).row elements = .ok row ↔
      ∃ inner, object.term .json elements = .ok inner ∧
        [.lengthOf inner] = row :=
  emission_map_eq_ok

theorem row_includes_eq_ok {collection : JsonExpr} {needle : ScalarExpr} :
    (includes collection needle).row elements = .ok row ↔
      ∃ inner, collection.term .json elements = .ok inner ∧
        ∃ sought, needle.row elements = .ok sought ∧
          Term.membershipTest (elementAlias elements.length) inner sought =
            row :=
  emission_map₂_eq_ok

theorem row_quantified_eq_ok {quantifier : Quantifier} {collection : JsonExpr}
    {element : String} {condition : ScalarExpr} :
    (quantified quantifier collection element condition).row elements =
        .ok row ↔
      ∃ inner, collection.term .json elements = .ok inner ∧
        ∃ tested, condition.row (element :: elements) = .ok tested ∧
          Term.elementTest (elementAlias elements.length) inner tested
            quantifier = row :=
  emission_map₂_eq_ok

theorem row_unary_eq_ok {op : UnaryOp} {operand : ScalarExpr} :
    (unary op operand).row elements = .ok row ↔
      ∃ inner, operand.row elements = .ok inner ∧ [.unary op inner] = row :=
  emission_map_eq_ok

theorem row_binary_eq_ok {op : BinaryOp} {left right : ScalarExpr} :
    (binary op left right).row elements = .ok row ↔
      ∃ first, left.row elements = .ok first ∧
        ∃ second, right.row elements = .ok second ∧
          [.binary op first second] = row :=
  emission_map₂_eq_ok

theorem row_ofJson_eq_ok {value : JsonExpr} :
    (ofJson value).row elements = .ok row ↔
      ∃ inner, value.term .scalar elements = .ok inner ∧ [inner] = row :=
  emission_map_eq_ok

end ScalarExpr

end DocFilter
