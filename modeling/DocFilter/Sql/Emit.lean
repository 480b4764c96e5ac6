import DocFilter.Expr.Basic
import DocFilter.Sql.Fragment
import DocFilter.Sql.Path
import DocFilter.Sql.Scope

/-!
# The SQL of an expression

Every literal becomes a placeholder, and its value is added to the parameters in
the order of the text.  An expression for a JSON value can be asked for JSON or
for its scalar.  Emission fails only at a name that the scope does not bind, the
first one in the order of the text.
-/

namespace DocFilter

/-- A name that no binding is in scope for. -/
structure UnboundName where
  name : String
deriving DecidableEq

/-- The result of emission. -/
abbrev Emission := Except UnboundName Fragment

namespace ValueSort

/-- The operator that extracts a member as this sort. -/
def arrow : ValueSort → String
  | .json => " -> "
  | .scalar => " ->> "

/-- A fragment for JSON, turned into this sort. -/
def ofJson : ValueSort → Fragment → Fragment
  | .json, fragment => fragment
  | .scalar, fragment => "(" ++ fragment ++ " ->> '$')"

end ValueSort

namespace Sql

/-- Joins a fragment for a collection and one for a condition on its elements
into a test. -/
def elementTest (aliasName : String) :
    Quantifier → Fragment → Fragment → Fragment
  | .any, collection, condition =>
    "EXISTS (SELECT 1 FROM json_each(" ++ collection ++ ") AS " ++ aliasName ++
      " WHERE " ++ condition ++ ")"
  | .all, collection, condition =>
    "NOT EXISTS (SELECT 1 FROM json_each(" ++ collection ++ ") AS " ++
      aliasName ++ " WHERE NOT (" ++
      condition ++ "))"

/-- Looks for an element that equals a scalar. -/
def membershipTest (aliasName : String) (collection needle : Fragment) :
    Fragment :=
  elementTest aliasName .any collection (aliasName ++ ".value = " ++ needle)

/-- The length of a JSON value.  The value is named, so that its text stands
here only once. -/
def lengthOf (object : Fragment) : Fragment :=
  "(SELECT CASE json_type(length_arg) WHEN 'text' THEN length(length_arg ->> '$') " ++
    "WHEN 'array' THEN json_array_length(length_arg) ELSE (length_arg ->> '$.length') END FROM (SELECT " ++
    object ++ " AS length_arg))"

/-- The elements of an array with commas between them. -/
def commaSeparated : List Fragment → Fragment
  | [] => .empty
  | [fragment] => fragment
  | fragment :: others => fragment ++ ", " ++ commaSeparated others

end Sql

mutual

/-- The SQL of an expression for a JSON value, as JSON or as a scalar. -/
def JsonExpr.emit : JsonExpr → ValueSort → Scope → Emission
  | .name text, sort, scope =>
    match scope.lookup? text with
    | some binding => .ok (binding.sql sort)
    | none => .error ⟨text⟩
  | .path object labels, sort, scope => do
    let object ← object.emit .json scope
    return "(" ++ object ++ sort.arrow ++ Sql.quotedPath labels ++ ")"
  | .item object key, sort, scope => do
    let object ← object.emit .json scope
    let key ← key.emit scope
    return sort.ofJson ("(" ++ object ++ " -> " ++ key ++ ")")
  | .array elements, sort, scope => do
    let elements ← JsonExpr.emitAll elements scope
    return sort.ofJson ("json_array(" ++ Sql.commaSeparated elements ++ ")")
  | .ofScalar value, sort, scope => do
    let value ← value.emit scope
    return sort.ofJson ("json_quote(" ++ value ++ ")")

/-- The SQL of some expressions, each as JSON. -/
def JsonExpr.emitAll :
    List JsonExpr → Scope → Except UnboundName (List Fragment)
  | [], _ => .ok []
  | element :: others, scope => do
    let element ← element.emit .json scope
    let others ← JsonExpr.emitAll others scope
    return element :: others

/-- The SQL of an expression for a scalar.  A matching function of SQL takes the
pattern first. -/
def ScalarExpr.emit : ScalarExpr → Scope → Emission
  | .literal value, _ => .ok (.placeholder value)
  | .matching style subject pattern, scope => do
    let pattern ← pattern.emit scope
    let subject ← subject.emit scope
    return style.name ++ "(" ++ pattern ++ ", " ++ subject ++ ")"
  | .length object, scope => do
    let object ← object.emit .json scope
    return Sql.lengthOf object
  | .includes collection needle, scope => do
    let collection ← collection.emit .json scope
    let needle ← needle.emit scope
    return Sql.membershipTest scope.aliasName collection needle
  | .quantified quantifier collection element condition, scope => do
    let collection ← collection.emit .json scope
    let condition ← condition.emit (scope.element element)
    return Sql.elementTest scope.aliasName quantifier collection condition
  | .unary op operand, scope => do
    let operand ← operand.emit scope
    return op.sqlOpening ++ operand ++ ")"
  | .binary op left right, scope => do
    let left ← left.emit scope
    let right ← right.emit scope
    return "(" ++ left ++ (" " ++ op.sql ++ " ") ++ right ++ ")"
  | .ofJson value, scope => value.emit .scalar scope

end

/-- The SQL of an expression where SQL expects a scalar: a condition or a sort
key. -/
def JsonExpr.toSql (expr : JsonExpr) (scope : Scope) : Emission :=
  expr.asScalar.emit scope

end DocFilter
