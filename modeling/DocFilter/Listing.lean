import DocFilter.Filter

/-!
# The end of a listing query

A listing keeps the documents that a filter holds for and puts them in the
order of a sort key.
-/

namespace DocFilter

/-- Whether a listing ascends or descends. -/
inductive Direction where
  | ascending
  | descending
deriving DecidableEq

namespace Direction

/-- The direction in SQL. -/
def sql : Direction → String
  | .ascending => "ASC"
  | .descending => "DESC"

/-- The direction that a text names, whatever the case of its letters.  Only
ASCII letters have a case here. -/
def ofText (text : String) : Except Failure Direction :=
  let word := text.toList.map Char.toLower
  if word = ['a', 's', 'c'] then .ok .ascending
  else if word = ['d', 'e', 's', 'c'] then .ok .descending
  else .error (.notADirection text)

end Direction

/-- A filter and an order, each compiled with the same options. -/
structure Listing where
  options : Options
  filter : Option Fragment
  order : Option (Fragment × Direction)

namespace Listing

/-- The listing of all documents in no order. -/
def new (options : Options) : Listing := ⟨options, none, none⟩

/-- Keeps only the documents that an expression holds for, in place of an
earlier filter. -/
def filterBy (listing : Listing) (text : String) : Except Failure Listing := do
  let fragment ← compile text listing.options
  return { listing with filter := some fragment }

/-- Sorts by the value of an expression, in place of an earlier order. -/
def orderBy (listing : Listing) (text : String) (direction : Direction) :
    Except Failure Listing := do
  let fragment ← compile text listing.options
  return { listing with order := some (fragment, direction) }

/-- The clause of a filter. -/
def filterClause (fragment : Fragment) : Fragment := "WHERE " ++ fragment

/-- The clause of an order. -/
def orderClause (fragment : Fragment) (direction : Direction) : Fragment :=
  "ORDER BY " ++ fragment ++ (" " ++ direction.sql)

/-- The end of the query: the filter stands before the order, and so do its
parameters. -/
def clause (listing : Listing) : Fragment :=
  match listing.filter, listing.order with
  | none, none => .empty
  | some filter, none => filterClause filter
  | none, some (order, direction) => orderClause order direction
  | some filter, some (order, direction) =>
    filterClause filter ++ " " ++ orderClause order direction

end Listing

end DocFilter
