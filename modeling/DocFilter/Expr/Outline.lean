import DocFilter.Decimal.Layout
import DocFilter.Expr.Basic
import DocFilter.Outline
import DocFilter.Text.Quoted

/-!
# Outlines of expressions

An expression shown as its tree, with the name of every node.  The two coercions
show the sort that a node came from.
-/

namespace DocFilter

/-- A text in quotes as an outline. -/
def Outline.quoted (text : String) : Outline := .leaf (Text.quoted text)

/-- A literal as an outline. -/
def Literal.outline : Literal → Outline
  | .text value => .call "StringLiteral" [.quoted value]
  | .integer value =>
    .call "NumberLiteral" [.call "Integer" [.leaf (toString value.toInt)]]
  | .real value =>
    .call "NumberLiteral"
      [.call "Float" [.leaf (Decimal.outlineLayout.write value)]]

/-- The name of a binary operator in an outline. -/
def BinaryOp.outlineName : BinaryOp → String
  | .equal => "Equal"
  | .notEqual => "NotEqual"
  | .less => "LessThan"
  | .greater => "GreaterThan"
  | .lessEqual => "LessEqual"
  | .greaterEqual => "GreaterEqual"
  | .and => "And"
  | .or => "Or"

/-- A unary operation and its operand as an outline. -/
def UnaryOp.outline (op : UnaryOp) (operand : Outline) : Outline :=
  match op with
  | .not =>
    .record "Prefix" [.field "op" (.leaf "Negate"), .field "operand" operand]
  | .minus =>
    .record "Prefix" [.field "op" (.leaf "Minus"), .field "operand" operand]
  | .lower => .call "ToLower" [operand]
  | .upper => .call "ToUpper" [operand]

/-- The name of a kind of pattern in an outline. -/
def PatternStyle.outlineName : PatternStyle → String
  | .like => "Like"
  | .glob => "Glob"

/-- The name of a quantifier in an outline. -/
def Quantifier.outlineName : Quantifier → String
  | .any => "Some"
  | .all => "Every"

mutual

/-- The outline of an expression for a JSON value. -/
def JsonExpr.outline : JsonExpr → Outline
  | .name text => .call "Identifier" [.quoted text]
  | .path object labels =>
    .record "PropertyChain"
      [.field "object" object.outline,
        .field "properties" (.list (labels.map .quoted))]
  | .item object key =>
    .record "Index" [.field "object" object.outline, .field "key" key.outline]
  | .array elements => .call "ArrayLiteral" [.list (JsonExpr.outlines elements)]
  | .ofScalar value => .call "CoercedFromSql" [value.outline]

/-- The outlines of some expressions for JSON values. -/
def JsonExpr.outlines : List JsonExpr → List Outline
  | [] => []
  | element :: others => element.outline :: JsonExpr.outlines others

/-- The outline of an expression for a scalar. -/
def ScalarExpr.outline : ScalarExpr → Outline
  | .literal value => value.outline
  | .matching style subject pattern =>
    .record style.outlineName
      [.field "haystack" subject.outline, .field "pattern" pattern.outline]
  | .length object => .call "Length" [object.outline]
  | .includes collection needle =>
    .record "Includes" [.field "haystack" collection.outline,
      .field "needle" needle.outline]
  | .quantified quantifier collection element condition =>
    .record quantifier.outlineName
      [.field "haystack" collection.outline, .field "param" (.quoted element),
        .field "predicate" condition.outline]
  | .unary op operand => op.outline operand.outline
  | .binary op left right =>
    .record "BinaryOp"
      [.field "op" (.leaf op.outlineName), .field "left" left.outline,
        .field "right" right.outline]
  | .ofJson value => .call "CoercedFromJson" [value.outline]

end

end DocFilter
