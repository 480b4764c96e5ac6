import DocFilter.Expr.Basic

/-!
# The normal form of an expression

Property steps that follow each other become one path, and opposite coercions on
top of each other cancel.  Parts are brought into normal form before the
expression that holds them, so one pass is enough.
-/

namespace DocFilter

/-- Property steps from an object, joined to those that the object ends in. -/
def JsonExpr.descend : JsonExpr → List String → JsonExpr
  | .path object before, labels => .path object (before ++ labels)
  | object, labels => .path object labels

mutual

/-- The normal form of an expression for a JSON value. -/
def JsonExpr.normalize : JsonExpr → JsonExpr
  | .name text => .name text
  | .path object labels => object.normalize.descend labels
  | .item object key => .item object.normalize key.normalize
  | .array elements => .array (JsonExpr.normalizeAll elements)
  | .ofScalar value => value.normalize.asJson

/-- The normal forms of some expressions for JSON values. -/
def JsonExpr.normalizeAll : List JsonExpr → List JsonExpr
  | [] => []
  | element :: others => element.normalize :: JsonExpr.normalizeAll others

/-- The normal form of an expression for a scalar. -/
def ScalarExpr.normalize : ScalarExpr → ScalarExpr
  | .literal value => .literal value
  | .matching style subject pattern =>
    .matching style subject.normalize pattern.normalize
  | .length object => .length object.normalize
  | .includes collection needle =>
    .includes collection.normalize needle.normalize
  | .quantified quantifier collection element condition =>
    .quantified quantifier collection.normalize element condition.normalize
  | .unary op operand => .unary op operand.normalize
  | .binary op left right => .binary op left.normalize right.normalize
  | .ofJson value => value.normalize.asScalar

end

end DocFilter
