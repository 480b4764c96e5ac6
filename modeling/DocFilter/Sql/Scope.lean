/-!
# Scopes

A scope says how each bound name is spelled in SQL, and how many subqueries
stand around it.  The alias of a subquery is numbered by that count, so it
differs from the aliases around it.
-/

namespace DocFilter

/-- The two sorts of SQL text for a value: one yields JSON, the other a
scalar. -/
inductive ValueSort where
  | json
  | scalar
deriving DecidableEq

/-- The SQL texts that a bound name stands for. -/
structure Binding where
  json : String
  scalar : String
deriving DecidableEq

namespace Binding

/-- The text of one sort. -/
def sql (binding : Binding) : ValueSort → String
  | .json => binding.json
  | .scalar => binding.scalar

/-- The document itself, in a column that holds JSON. -/
def document (column : String) : Binding where
  json := column
  scalar := "(" ++ column ++ " ->> '$')"

/-- A column that holds a scalar. -/
def column (name : String) : Binding where
  json := "json_quote(" ++ name ++ ")"
  scalar := name

/-- An element of the collection that a subquery goes through.  Objects and
arrays are JSON already, and every other value is quoted back into it. -/
def element (aliasName : String) : Binding where
  json :=
    "IIF(" ++ aliasName ++ ".type IN ('object', 'array'), " ++ aliasName ++
      ".value, json_quote(" ++ aliasName ++
      ".value))"
  scalar := aliasName ++ ".value"

end Binding

/-- The bound names, the innermost first, and the number of subqueries
around. -/
structure Scope where
  bindings : List (String × Binding)
  depth : Nat
deriving DecidableEq

namespace Scope

/-- The scope without names. -/
def empty : Scope := ⟨[], 0⟩

/-- Binds a name.  An older binding of the name is hidden and not lost. -/
def bind (scope : Scope) (name : String) (binding : Binding) : Scope :=
  ⟨(name, binding) :: scope.bindings, scope.depth⟩

/-- The scope of a whole expression: the document is `_` and the row is
`id`. -/
def root (documentColumn rowColumn : String) : Scope :=
  (empty.bind "id" (.column rowColumn)).bind "_" (.document documentColumn)

/-- The innermost binding of a name. -/
def lookup? (scope : Scope) (name : String) : Option Binding :=
  scope.bindings.lookup name

/-- The alias of a subquery that stands in a scope. -/
def aliasName (scope : Scope) : String :=
  "json_" ++ toString (scope.depth + 1)

/-- The scope inside a subquery. -/
def inner (scope : Scope) : Scope :=
  ⟨scope.bindings, scope.depth + 1⟩

/-- The scope of a condition on the elements that a subquery goes through. -/
def element (scope : Scope) (name : String) : Scope :=
  scope.inner.bind name (.element scope.aliasName)

end Scope

end DocFilter
