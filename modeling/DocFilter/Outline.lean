/-!
# Outlines

A tree of headed groups as text: on one line, or with every part on a line of
its own.
-/

namespace DocFilter

/-- A tree of headed groups. -/
inductive Outline where
  /-- A text without parts. -/
  | leaf (text : String)
  /-- Parts in brackets. -/
  | list (parts : List Outline)
  /-- A head with parts in parentheses. -/
  | call (head : String) (parts : List Outline)
  /-- A head with fields in braces. -/
  | record (head : String) (fields : List Outline)
  /-- A named part of a record. -/
  | field (name : String) (value : Outline)

namespace Outline

mutual

/-- An outline on one line. -/
def flat : Outline → String
  | .leaf text => text
  | .list parts => "[" ++ ", ".intercalate (flatParts parts) ++ "]"
  | .call head parts => head ++ "(" ++ ", ".intercalate (flatParts parts) ++ ")"
  | .record head fields =>
    head ++ " \x7b " ++ ", ".intercalate (flatParts fields) ++ " \x7d"
  | .field name value => name ++ ": " ++ value.flat

/-- The parts of an outline, each on one line. -/
def flatParts : List Outline → List String
  | [] => []
  | part :: others => part.flat :: flatParts others

end

/-- The blanks in front of a line. -/
def margin (level : Nat) : String :=
  String.ofList (List.replicate (4 * level) ' ')

mutual

/-- An outline with every part on a line of its own, four blanks further in
than what it is part of. -/
def indented : Outline → Nat → String
  | .leaf text, _ => text
  | .list [], _ => "[]"
  | .list parts, level =>
    "[\n" ++ lines parts (level + 1) ++ margin level ++ "]"
  | .call head parts, level =>
    head ++ "(\n" ++ lines parts (level + 1) ++ margin level ++ ")"
  | .record head fields, level =>
    head ++ " \x7b\n" ++ lines fields (level + 1) ++ margin level ++ "\x7d"
  | .field name value, level => name ++ ": " ++ value.indented level

/-- The lines of the parts of an outline, each with a comma behind it. -/
def lines : List Outline → Nat → String
  | [], _ => ""
  | part :: others, level =>
    margin level ++ part.indented level ++ ",\n" ++ lines others level

end

end Outline

end DocFilter
