import DocFilter.Literal
import DocFilter.Operator

/-!
# Expressions

An expression stands for a JSON value or for a scalar of SQL, and the two sorts
are kept apart: paths, items and quantifiers work on JSON values, operators on
scalars.  A node of either sort enters the other through a coercion.
`JsonExpr.ofScalar` and `ScalarExpr.ofJson` are the coercions as they stand;
`ScalarExpr.asJson` and `JsonExpr.asScalar` take an opposite coercion off
instead of adding one.
-/

namespace DocFilter

mutual

/-- An expression for a JSON value. -/
inductive JsonExpr where
  /-- A bound name. -/
  | name (text : String)
  /-- Property steps from an object, in order. -/
  | path (object : JsonExpr) (labels : List String)
  /-- The member of an object or an array under a computed key. -/
  | item (object : JsonExpr) (key : ScalarExpr)
  /-- An array with its elements. -/
  | array (elements : List JsonExpr)
  /-- A scalar as a JSON value. -/
  | ofScalar (value : ScalarExpr)

/-- An expression for a scalar: a text, a number, a truth value or nothing. -/
inductive ScalarExpr where
  | literal (value : Literal)
  /-- Whether a text matches a pattern. -/
  | matching (style : PatternStyle) (subject pattern : ScalarExpr)
  /-- The length of a text or an array, or else the member called `length`. -/
  | length (object : JsonExpr)
  /-- Whether an element of a collection equals a scalar. -/
  | includes (collection : JsonExpr) (needle : ScalarExpr)
  /-- Whether some or every element of a collection satisfies a condition. -/
  | quantified (quantifier : Quantifier) (collection : JsonExpr)
    (element : String)
      (condition : ScalarExpr)
  | unary (op : UnaryOp) (operand : ScalarExpr)
  | binary (op : BinaryOp) (left right : ScalarExpr)
  /-- The scalar of a JSON value. -/
  | ofJson (value : JsonExpr)

end

instance : Inhabited JsonExpr := ⟨.name ""⟩

/-- A scalar where a JSON value is expected. -/
def ScalarExpr.asJson : ScalarExpr → JsonExpr
  | .ofJson value => value
  | value => .ofScalar value

/-- A JSON value where a scalar is expected. -/
def JsonExpr.asScalar : JsonExpr → ScalarExpr
  | .ofScalar value => value
  | value => .ofJson value

/-- One property step. -/
def JsonExpr.property (object : JsonExpr) (label : String) : JsonExpr :=
  .path object [label]

end DocFilter
