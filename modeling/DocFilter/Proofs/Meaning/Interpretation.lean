import DocFilter.Expr.Normal
import Mathlib.Logic.Function.Basic

/-!
# Interpretations

An interpretation gives a meaning to every form of expression as a function of
the meanings of its parts.  Nothing is asked of these functions, except that a
path is one property step after another.  A quantifier sees its condition as a
function of the element.
-/

namespace DocFilter

universe u

/-- A meaning for every form of expression. -/
structure Interpretation where
  /-- What an expression for a JSON value stands for. -/
  Json : Type u
  /-- What an expression for a scalar stands for. -/
  Scalar : Type u
  /-- What a name can be bound to. -/
  Value : Type u
  /-- A bound name as an expression. -/
  name : Value → Json
  /-- A single property step. -/
  property : Json → String → Json
  item : Json → Scalar → Json
  array : List Json → Json
  ofScalar : Scalar → Json
  literal : Literal → Scalar
  matching : PatternStyle → Scalar → Scalar → Scalar
  length : Json → Scalar
  includes : Json → Scalar → Scalar
  /-- A test of the elements of a collection. -/
  quantified : Quantifier → Json → (Value → Scalar) → Scalar
  unary : UnaryOp → Scalar → Scalar
  binary : BinaryOp → Scalar → Scalar → Scalar
  ofJson : Json → Scalar

/-- The two coercions are inverse to each other. -/
structure Interpretation.CoercionsCancel (meaning : Interpretation) : Prop where
  ofScalar_ofJson (value : meaning.Json) :
    meaning.ofScalar (meaning.ofJson value) = value
  ofJson_ofScalar (value : meaning.Scalar) :
    meaning.ofJson (meaning.ofScalar value) = value

mutual

/-- What an expression for a JSON value stands for, given what the names are
bound to. -/
def JsonExpr.denote (meaning : Interpretation) :
    JsonExpr → (String → meaning.Value) → meaning.Json
  | .name text, values => meaning.name (values text)
  | .path object labels, values =>
    labels.foldl meaning.property (object.denote meaning values)
  | .item object key, values =>
    meaning.item (object.denote meaning values) (key.denote meaning values)
  | .array elements, values =>
    meaning.array (JsonExpr.denoteAll meaning elements values)
  | .ofScalar value, values => meaning.ofScalar (value.denote meaning values)

/-- What some expressions for JSON values stand for. -/
def JsonExpr.denoteAll (meaning : Interpretation) :
    List JsonExpr → (String → meaning.Value) → List meaning.Json
  | [], _ => []
  | element :: others, values =>
    element.denote meaning values :: JsonExpr.denoteAll meaning others values

/-- What an expression for a scalar stands for.  The element of a quantifier
hides an outer name that is called the same. -/
def ScalarExpr.denote (meaning : Interpretation) :
    ScalarExpr → (String → meaning.Value) → meaning.Scalar
  | .literal value, _ => meaning.literal value
  | .matching style subject pattern, values =>
    meaning.matching style (subject.denote meaning values)
      (pattern.denote meaning values)
  | .length object, values => meaning.length (object.denote meaning values)
  | .includes collection needle, values =>
    meaning.includes (collection.denote meaning values)
      (needle.denote meaning values)
  | .quantified quantifier collection element condition, values =>
    meaning.quantified quantifier (collection.denote meaning values)
      fun value =>
        condition.denote meaning (Function.update values element value)
  | .unary op operand, values =>
    meaning.unary op (operand.denote meaning values)
  | .binary op left right, values =>
    meaning.binary op (left.denote meaning values) (right.denote meaning values)
  | .ofJson value, values => meaning.ofJson (value.denote meaning values)

end

/-! ## What expressions are put together from -/

variable {meaning : Interpretation} {values : String → meaning.Value}

/-- Steps behind a path go on where the path ends. -/
theorem JsonExpr.denote_descend (object : JsonExpr) (labels : List String) :
    (object.descend labels).denote meaning values =
      labels.foldl meaning.property (object.denote meaning values) := by
  cases object with
  | path object before =>
    simp only [JsonExpr.descend, JsonExpr.denote, List.foldl_append]
  | name | item | array | ofScalar => rfl

/-- A scalar where a JSON value is expected stands for its coercion, unless
this takes the opposite coercion off and the two do not cancel. -/
theorem ScalarExpr.denote_asJson
    {value : ScalarExpr}
    (h : meaning.CoercionsCancel ∨ ∀ inner, value ≠ .ofJson inner) :
    value.asJson.denote meaning values =
      meaning.ofScalar (value.denote meaning values) := by
  cases value with
  | ofJson inner =>
    rcases h with hcancel | hplain
    · rw [ScalarExpr.asJson, ScalarExpr.denote, hcancel.ofScalar_ofJson]
    · exact absurd rfl (hplain inner)
  | _ => rfl

/-- A JSON value where a scalar is expected stands for its coercion, unless
this takes the opposite coercion off and the two do not cancel. -/
theorem JsonExpr.denote_asScalar
    {value : JsonExpr}
    (h : meaning.CoercionsCancel ∨ ∀ inner, value ≠ .ofScalar inner) :
    value.asScalar.denote meaning values =
      meaning.ofJson (value.denote meaning values) := by
  cases value with
  | ofScalar inner =>
    rcases h with hcancel | hplain
    · rw [JsonExpr.asScalar, JsonExpr.denote, hcancel.ofJson_ofScalar]
    · exact absurd rfl (hplain inner)
  | _ => rfl

end DocFilter
