import DocFilter.Text.Cursor
import DocFilter.Text.NamePart
import DocFilter.Text.NameStart
import DocFilter.Token.Basic

/-!
# Scanning a text for tokens

Tokens are read one after the other from a cursor.  A scan that fails leaves the
cursor where it stopped, so reading can go on behind a fault.
-/

namespace DocFilter

open Text

/-- What can be wrong with a text before its grammar is looked at. -/
inductive LexicalFault where
  /-- No token starts with the character. -/
  | unexpected (c : Char)
  /-- The first character of an operator stands without its second. -/
  | halfOperator (c : Char)
  | unterminatedText
  | invalidEscape (c : Char)
  | invalidCodePoint
  | invalidNumber
deriving DecidableEq

/-- A fault and the number of bytes before it. -/
structure LexicalError where
  fault : LexicalFault
  position : Nat
deriving DecidableEq

/-- The wording of an error. -/
def LexicalError.message (error : LexicalError) : String :=
  let position := error.position
  match error.fault with
  | .unexpected c => s!"Unexpected character '{c}' at position {position}"
  | .halfOperator c =>
    s!"Unexpected '{c}' at position {position} (did you mean '{c}{c}'?)"
  | .unterminatedText => s!"Unexpected EOF in string starting at {position}"
  | .invalidEscape c => s!"Invalid escape sequence: \\{c}"
  | .invalidCodePoint => "Invalid unicode escape"
  | .invalidNumber => "Invalid number literal"

/-- A step that reads from a cursor and may fail. -/
abbrev Scan := EStateM LexicalError Cursor

namespace Scan

/-- Stops with a fault at a position. -/
def fail {α : Type} (fault : LexicalFault) (position : Nat) : Scan α :=
  throw ⟨fault, position⟩

/-- The number of bytes before the cursor. -/
def position : Scan Nat := return (← get).offset

/-- Moves over a number of characters. -/
def skip (count : Nat) : Scan Unit := modify (·.drop count)

/-- Reads the next character. -/
def next? : Scan (Option Char) := do
  let c := (← get).peek?
  skip 1
  return c

/-! ## Texts -/

/-- The value of a hexadecimal digit of either case. -/
def hexDigit? (c : Char) : Option Nat :=
  if '0' ≤ c ∧ c ≤ '9' then some (c.toNat - '0'.toNat)
  else if 'a' ≤ c ∧ c ≤ 'f' then some (c.toNat - 'a'.toNat + 10)
  else if 'A' ≤ c ∧ c ≤ 'F' then some (c.toNat - 'A'.toNat + 10)
  else none

/-- The number written with the first four characters, if they are hexadecimal
digits. -/
def codeUnit? : List Char → Option Nat
  | a :: b :: c :: d :: _ => do
    return ((← hexDigit? a) * 16 + (← hexDigit? b)) * 256 +
      (← hexDigit? c) * 16 + (← hexDigit? d)
  | _ => none

/-- Reads four hexadecimal digits. -/
def codeUnit (backslash : Nat) : Scan Nat := do
  match codeUnit? (← get).rest with
  | some unit => skip 4; return unit
  | none => fail .invalidCodePoint backslash

/-- Whether a number of sixteen bits is the first half of a pair. -/
def isHighHalf (unit : Nat) : Bool := 0xD800 ≤ unit && unit < 0xDC00

/-- Whether a number of sixteen bits is the second half of a pair. -/
def isLowHalf (unit : Nat) : Bool := 0xDC00 ≤ unit && unit < 0xE000

/-- The character that a pair of halves stands for. -/
def joinHalves (high low : Nat) : Char :=
  Char.ofNat (0x10000 + (high - 0xD800) * 0x400 + (low - 0xDC00))

/-- Reads what follows `\u`: the first half of a pair must be followed by `\u`
and the second. -/
def codePoint (backslash : Nat) : Scan Char := do
  let unit ← codeUnit backslash
  if isHighHalf unit then
    match (← get).rest with
    | '\\' :: 'u' :: _ =>
      skip 2
      let low ← codeUnit backslash
      if isLowHalf low then return joinHalves unit low
      else fail .invalidCodePoint backslash
    | _ => fail .invalidCodePoint backslash
  else if isLowHalf unit then fail .invalidCodePoint backslash
  else return Char.ofNat unit

/-- The character that stands for itself or for a control character behind a
backslash. -/
def escaped? : Char → Option Char
  | '"' => some '"'
  | '\'' => some '\''
  | '\\' => some '\\'
  | 'b' => some '\x08'
  | 'f' => some '\x0c'
  | 'n' => some '\n'
  | 'r' => some '\r'
  | 't' => some '\t'
  | _ => none

/-- Reads an escape from its backslash on.  A backslash at the end of the text
leaves the text that began at `opening` open. -/
def escape (opening : Nat) : Scan Char := do
  let backslash ← position
  skip 1
  match ← next? with
  | none => fail .unterminatedText opening
  | some 'u' => codePoint backslash
  | some c =>
    match escaped? c with
    | some x => return x
    | none => fail (.invalidEscape c) backslash

/-- Reads up to the closing quote and adds what it reads to `value`.  Each turn
uses up one character at least, so as many turns as there are characters left
are enough. -/
def textBody (opening : Nat) (quote : Char) : List Char → String → Scan String
  | [], _ => fail .unterminatedText opening
  | _ :: turns, value => do
    match (← get).peek? with
    | none => fail .unterminatedText opening
    | some c =>
      if c = quote then
        skip 1
        return value
      else if c = '\\' then
        let x ← escape opening
        textBody opening quote turns (value.push x)
      else
        skip 1
        textBody opening quote turns (value.push c)

/-- Reads a text in quotes. -/
def text (quote : Char) : Scan Token := do
  let opening ← position
  skip 1
  return .literal (.text (← textBody opening quote (← get).rest ""))

/-! ## Numbers -/

/-- The digits at the start of a text that a number has before its point.  A
zero in front stands alone. -/
def wholeDigits : List Char → List Char
  | '0' :: _ => ['0']
  | cs => cs.takeWhile Char.isDigit

/-- The digits behind a point at the start of a text. -/
def fractionDigits : List Char → List Char
  | '.' :: cs => cs.takeWhile Char.isDigit
  | _ => []

/-- Reads a number.  A point without a digit behind it is left for the next
token. -/
def number : Scan Token := do
  let start ← position
  let rest := (← get).rest
  let whole := wholeDigits rest
  let fraction := fractionDigits (rest.drop whole.length)
  skip (whole.length + if fraction.isEmpty then 0 else fraction.length + 1)
  match Literal.ofDigits? whole fraction with
  | some value => return .literal value
  | none => fail .invalidNumber start

/-! ## Tokens -/

/-- Reads a name. -/
def name : Scan Token := do
  let rest := (← get).rest
  let text := rest.take 1 ++ (rest.drop 1).takeWhile isNamePart
  skip text.length
  return .name (String.ofList text)

/-- The punctuation mark or operator at the start of a text, and its number of
characters. -/
def symbol? : List Char → Option (Token × Nat)
  | '.' :: _ => some (.dot, 1)
  | ',' :: _ => some (.comma, 1)
  | '[' :: _ => some (.openBracket, 1)
  | ']' :: _ => some (.closeBracket, 1)
  | '(' :: _ => some (.openParen, 1)
  | ')' :: _ => some (.closeParen, 1)
  | '-' :: _ => some (.minus, 1)
  | '>' :: '=' :: _ => some (.operator .greaterEqual, 2)
  | '>' :: _ => some (.operator .greater, 1)
  | '<' :: '=' :: _ => some (.operator .lessEqual, 2)
  | '<' :: _ => some (.operator .less, 1)
  | '!' :: '=' :: _ => some (.operator .notEqual, 2)
  | '!' :: _ => some (.exclamation, 1)
  | '=' :: '=' :: _ => some (.operator .equal, 2)
  | '=' :: '>' :: _ => some (.arrow, 2)
  | '&' :: '&' :: _ => some (.operator .and, 2)
  | '|' :: '|' :: _ => some (.operator .or, 2)
  | _ => none

/-- Reads a token that is no symbol, from its first character on.  The first
half of a logical operator is used up even when the second is missing. -/
def word (c : Char) : Scan Token := do
  let start ← position
  if c = '"' ∨ c = '\'' then text c
  else if c.isDigit then number
  else if isNameStart c then name
  else if c = '=' then fail (.halfOperator c) start
  else if c = '&' ∨ c = '|' then
    skip 1
    fail (.halfOperator c) start
  else fail (.unexpected c) start

/-- Reads the next token, behind the white space before it. -/
def token : Scan Token := do
  modify Cursor.dropBlanks
  let rest := (← get).rest
  match symbol? rest with
  | some (symbol, length) => skip length; return symbol
  | none =>
    match rest with
    | [] => return .endOfText
    | c :: _ => word c

/-- Reads the next token together with its offset. -/
def placedToken : Scan PlacedToken := do
  modify Cursor.dropBlanks
  let offset ← position
  return ⟨offset, ← token⟩

/-- Reads the tokens up to the end of the text behind those already read, which
are given last first.  Each turn uses up one character at least. -/
def tokens : List Char → List PlacedToken → Scan (List PlacedToken)
  | [], before => return before.reverse
  | _ :: turns, before => do
    let placed ← placedToken
    if placed.token = .endOfText then return before.reverse
    else tokens turns (placed :: before)

end Scan

/-- The tokens of a text, without the end of the text. -/
def tokenize (text : String) : Except LexicalError (List PlacedToken) :=
  match (Scan.tokens text.toList []).run (Cursor.atStart text) with
  | .ok tokens _ => .ok tokens
  | .error error _ => .error error

end DocFilter
