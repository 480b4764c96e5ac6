import DocFilter.Decimal.Layout
import DocFilter.Sql.Fragment
import DocFilter.Text.Quoted

/-!
# Fragments as JSON text

A fragment is written as an object with the members `sql` and `params`.  Texts,
integers and reals are told apart by their spelling: a text has quotes, and a
real has a point or an exponent.
-/

namespace DocFilter.Json

open Text

/-- A code unit in four hexadecimal digits. -/
def unitDigits (n : Nat) : List Char :=
  let digits := hexadecimal n
  List.replicate (4 - digits.length) '0' ++ digits

/-- A character as it stands in a JSON text.  Quotes, backslashes and control
characters are escaped. -/
def escaped (c : Char) : List Char :=
  if c = '"' ∨ c = '\\' then ['\\', c]
  else if c = '\x08' then ['\\', 'b']
  else if c = '\x0c' then ['\\', 'f']
  else if c = '\n' then ['\\', 'n']
  else if c = '\r' then ['\\', 'r']
  else if c = '\t' then ['\\', 't']
  else if c.toNat < 0x20 then ['\\', 'u'] ++ unitDigits c.toNat
  else [c]

/-- A text in JSON. -/
def text (s : String) : String :=
  "\"" ++ String.ofList (s.toList.flatMap escaped) ++ "\""

/-- A literal in JSON. -/
def literal : Literal → String
  | .text value => text value
  | .integer value => toString value.toInt
  | .real value => Decimal.jsonLayout.write value

end DocFilter.Json

namespace DocFilter.Fragment

/-- A fragment in JSON, on one line and without blanks. -/
def toJson (fragment : Fragment) : String :=
  "\x7b\"sql\":" ++ Json.text fragment.sql ++
    ",\"params\":[" ++ ",".intercalate (fragment.params.map Json.literal) ++
      "]\x7d"

/-- The values of a fragment in JSON, each on a line of its own. -/
def paramLines : List Literal → String
  | [] => "[]"
  | params =>
    "[\n    " ++ ",\n    ".intercalate (params.map Json.literal) ++ "\n  ]"

/-- A fragment in JSON, with each member and each value on a line of its
own. -/
def toPrettyJson (fragment : Fragment) : String :=
  "\x7b\n  \"sql\": " ++ Json.text fragment.sql ++
    ",\n  \"params\": " ++ paramLines fragment.params ++ "\n\x7d"

end DocFilter.Fragment
