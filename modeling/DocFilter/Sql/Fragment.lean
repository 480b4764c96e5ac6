import DocFilter.Literal

/-!
# Fragments of SQL

A fragment is a piece of SQL text with a placeholder for every value that
comes from the expression, and the values in the order of their placeholders.
-/

namespace DocFilter

/-- A piece of SQL text and the values of its placeholders, in order. -/
structure Fragment where
  sql : String
  params : List Literal
deriving DecidableEq

namespace Fragment

/-- The fragment without text. -/
def empty : Fragment := ⟨"", []⟩

/-- A text without placeholders. -/
def ofText (sql : String) : Fragment := ⟨sql, []⟩

/-- A single placeholder and its value. -/
def placeholder (value : Literal) : Fragment := ⟨"?", [value]⟩

/-- One fragment behind another. -/
def append (first second : Fragment) : Fragment :=
  ⟨first.sql ++ second.sql, first.params ++ second.params⟩

instance : Append Fragment := ⟨append⟩

instance : Coe String Fragment := ⟨ofText⟩

@[simp] theorem sql_ofText (sql : String) : (ofText sql).sql = sql := rfl

@[simp] theorem params_ofText (sql : String) : (ofText sql).params = [] := rfl

@[simp] theorem sql_append (first second : Fragment) :
    (first ++ second).sql = first.sql ++ second.sql := rfl

@[simp] theorem params_append (first second : Fragment) :
    (first ++ second).params = first.params ++ second.params := rfl

/-- Whether a fragment has no text. -/
def isEmpty (fragment : Fragment) : Bool := fragment.sql.isEmpty

/-- Equality of texts and of the values bound to the placeholders. -/
def equals (first second : Fragment) : Bool :=
  first.sql == second.sql && first.params.length == second.params.length &&
    (first.params.zip second.params).all fun (x, y) => x.equals y

end Fragment

end DocFilter
