import DocFilter.Text.Alphanumeric

/-!
# Paths in SQL

A path to a member of a JSON document is written as `$` and the labels of the
steps, inside an SQL text.  There are two layers of quotes: double quotes around
a label that is no plain word, and single quotes around the whole, in which a
single quote is written twice.
-/

namespace DocFilter.Sql

open Text

/-- Characters with every single quote written twice. -/
def doubled (cs : List Char) : List Char :=
  cs.flatMap fun c => if c = '\'' then ['\'', '\''] else [c]

theorem doubled_cons (c : Char) (cs : List Char) :
    doubled (c :: cs) =
      (if c = '\'' then ['\'', '\''] else [c]) ++ doubled cs := rfl

theorem doubled_append (cs ds : List Char) :
    doubled (cs ++ ds) = doubled cs ++ doubled ds :=
  List.flatMap_append

/-- Characters as an SQL text. -/
def quoted (cs : List Char) : List Char :=
  '\'' :: (doubled cs ++ ['\''])

/-- Whether a label can stand in a path without quotes. -/
def isPlainLabel (label : List Char) : Bool :=
  !label.isEmpty && label.all fun c => isAlphanumeric c || c == '_' || c == '$'

/-- A label as it stands in a path. -/
def label (cs : List Char) : List Char :=
  if isPlainLabel cs then cs else '"' :: cs ++ ['"']

/-- The steps of a path, each with a point in front. -/
def steps (labels : List String) : List Char :=
  labels.flatMap fun text => '.' :: label text.toList

theorem steps_cons (text : String) (labels : List String) :
    steps (text :: labels) = '.' :: (label text.toList ++ steps labels) := rfl

/-- The path with these labels. -/
def path (labels : List String) : List Char :=
  '$' :: steps labels

/-- The path with these labels, as an SQL text. -/
def quotedPath (labels : List String) : String :=
  String.ofList (quoted (path labels))

end DocFilter.Sql
