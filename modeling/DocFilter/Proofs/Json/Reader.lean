import DocFilter.Sql.Json
import DocFilter.Token.Scan

/-!
# Reading JSON

A strict reader for JSON texts, in which white space is allowed only between
tokens.  It gives back the characters of a text with its escapes undone, and
the spelling of a number, which says more than its value.  The depth only
bounds the recursion: two levels of it take up a character at least.
-/

namespace DocFilter.Json

/-- A value that a JSON text stands for. -/
inductive Value where
  | null
  | boolean (value : Bool)
  | number (spelling : String)
  | text (value : String)
  | array (items : List Value)
  | object (members : List (String × Value))

/-! ## White space -/

/-- The white space of JSON. -/
def isGap (c : Char) : Bool := c == ' ' || c == '\t' || c == '\n' || c == '\r'

/-- What stands behind the white space. -/
def dropGap (cs : List Char) : List Char := cs.dropWhile isGap

/-! ## Texts -/

/-- The character that a letter stands for behind a backslash. -/
def shortEscape? : Char → Option Char
  | '"' => some '"'
  | '\\' => some '\\'
  | '/' => some '/'
  | 'b' => some '\x08'
  | 'f' => some '\x0c'
  | 'n' => some '\n'
  | 'r' => some '\r'
  | 't' => some '\t'
  | _ => none

/-- Reads an escape behind its backslash.  A character beyond sixteen bits is
written as a pair of halves, and a half does not stand alone. -/
def escape? : List Char → Option (Char × List Char)
  | 'u' :: cs => do
    let unit ← Scan.codeUnit? cs
    let behind := cs.drop 4
    if Scan.isHighHalf unit then
      match behind with
      | '\\' :: 'u' :: behind => do
        let low ← Scan.codeUnit? behind
        if Scan.isLowHalf low then
          some (Scan.joinHalves unit low, behind.drop 4)
        else none
      | _ => none
    else if Scan.isLowHalf unit then none
    else some (Char.ofNat unit, behind)
  | c :: cs => (shortEscape? c).map fun value => (value, cs)
  | [] => none

/-- Reads a character of a text.  Control characters have to be escaped. -/
def character? : List Char → Option (Char × List Char)
  | '\\' :: cs => escape? cs
  | c :: cs => if c = '"' ∨ c.toNat < 0x20 then none else some (c, cs)
  | [] => none

/-- Reads a text from behind its opening quote, in a number of turns. -/
def textRest? : Nat → List Char → Option (List Char × List Char)
  | 0, _ => none
  | turns + 1, cs =>
    if cs.head? = some '"' then some ([], cs.drop 1)
    else do
      let (c, cs) ← character? cs
      let (others, cs) ← textRest? turns cs
      return (c :: others, cs)

/-- Reads a text. -/
def text? (cs : List Char) : Option (String × List Char) := do
  guard (cs.head? = some '"')
  let (value, cs) ← textRest? cs.length (cs.drop 1)
  return (String.ofList value, cs)

/-! ## Numbers -/

/-- What stands behind some digits, of which there is at least one. -/
def digits? (cs : List Char) : Option (List Char) :=
  if (cs.takeWhile Char.isDigit).isEmpty then none
  else some (cs.dropWhile Char.isDigit)

/-- What stands behind the digits before the point of a number.  A zero in
front stands alone. -/
def whole? : List Char → Option (List Char)
  | '0' :: cs => some cs
  | cs => digits? cs

/-- What stands behind the point of a number and its digits, if there is a
point. -/
def fraction? : List Char → Option (List Char)
  | '.' :: cs => digits? cs
  | cs => some cs

/-- What stands behind a sign, if there is one. -/
def dropSign : List Char → List Char
  | '+' :: cs => cs
  | '-' :: cs => cs
  | cs => cs

/-- What stands behind the exponent of a number, if there is one. -/
def exponent? : List Char → Option (List Char)
  | 'e' :: cs => digits? (dropSign cs)
  | 'E' :: cs => digits? (dropSign cs)
  | cs => some cs

/-- What stands behind the minus sign of a number, if there is one. -/
def dropMinus : List Char → List Char
  | '-' :: cs => cs
  | cs => cs

/-- Reads a number. -/
def number? (cs : List Char) : Option (Value × List Char) := do
  let behind ← exponent? (← fraction? (← whole? (dropMinus cs)))
  let spelling := cs.take (cs.length - behind.length)
  return (.number (String.ofList spelling), behind)

/-! ## Values -/

/-- The words that are values. -/
def keywords : List (List Char × Value) :=
  [(['n', 'u', 'l', 'l'], .null), (['t', 'r', 'u', 'e'], .boolean true),
    (['f', 'a', 'l', 's', 'e'], .boolean false)]

/-- Reads a word that is a value. -/
def keyword? (cs : List Char) : Option (Value × List Char) :=
  keywords.findSome? fun (word, value) =>
    if word.isPrefixOf cs then some (value, cs.drop word.length) else none

mutual

/-- Reads a value, behind the white space before it. -/
def value? : Nat → List Char → Option (Value × List Char)
  | 0, _ => none
  | depth + 1, cs =>
    match dropGap cs with
    | '[' :: cs =>
      match dropGap cs with
      | ']' :: cs => some (.array [], cs)
      | cs => do
        let (items, cs) ← items? depth cs
        return (.array items, cs)
    | '\x7b' :: cs =>
      match dropGap cs with
      | '\x7d' :: cs => some (.object [], cs)
      | cs => do
        let (members, cs) ← members? depth cs
        return (.object members, cs)
    | cs =>
      ((text? cs).map fun (value, cs) => (.text value, cs))
        <|> keyword? cs <|> number? cs

/-- Reads the items of an array and its closing bracket. -/
def items? : Nat → List Char → Option (List Value × List Char)
  | 0, _ => none
  | depth + 1, cs => do
    let (item, cs) ← value? depth cs
    match dropGap cs with
    | ',' :: cs =>
      let (others, cs) ← items? depth cs
      return (item :: others, cs)
    | ']' :: cs => return ([item], cs)
    | _ => none

/-- Reads the members of an object and its closing brace. -/
def members? :
    Nat → List Char → Option (List (String × Value) × List Char)
  | 0, _ => none
  | depth + 1, cs => do
    let (name, cs) ← text? (dropGap cs)
    match dropGap cs with
    | ':' :: cs =>
      let (value, cs) ← value? depth cs
      match dropGap cs with
      | ',' :: cs =>
        let (others, cs) ← members? depth cs
        return ((name, value) :: others, cs)
      | '\x7d' :: cs => return ([(name, value)], cs)
      | _ => none
    | _ => none

end

/-- The value of a JSON text. -/
def read? (text : String) : Option Value := do
  let (value, cs) ← value? (2 * text.length + 1) text.toList
  guard (dropGap cs = [])
  return value

end DocFilter.Json
