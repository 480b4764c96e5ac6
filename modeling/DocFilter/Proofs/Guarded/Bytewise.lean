import DocFilter.Proofs.Guarded.Following
import DocFilter.Token.Scan

/-!
# Scanning a text byte by byte

A text in UTF-8 is a row of bytes, and a place in it is a number of bytes.  To
read from such a place is to cut the text there, which is a defect inside a
character and behind the end of the text.  The scanner here keeps nothing but
the number of bytes before it, moves by the bytes of what it has found, and cuts
the text anew at every step.
-/

namespace DocFilter.Bytewise

open Text

/-! ## Cutting a text -/

/-- The part of a text from a number of bytes on, if a character starts there
or the text ends there. -/
def from? : List Char → Nat → Option (List Char)
  | cs, 0 => some cs
  | [], _ + 1 => none
  | c :: cs, bytes + 1 =>
    if c.utf8Size ≤ bytes + 1 then from? cs (bytes + 1 - c.utf8Size) else none

/-- The part of a text that takes a number of bytes, if a character ends
there. -/
def upTo? : List Char → Nat → Option (List Char)
  | _, 0 => some []
  | [], _ + 1 => none
  | c :: cs, bytes + 1 =>
    if c.utf8Size ≤ bytes + 1 then
      (c :: ·) <$> upTo? cs (bytes + 1 - c.utf8Size)
    else none

/-- A step that reads from a place in a text, which is a number of bytes. -/
abbrev Step := EStateM (Halt LexicalError) Nat

/-- Stops with a fault at a position. -/
def fail {α : Type} (fault : LexicalFault) (position : Nat) : Step α :=
  throw (.fault ⟨fault, position⟩)

variable (text : List Char)

/-! ## Moving -/

/-- What is left of the text.  There must be a character or the end. -/
def rest : Step (List Char) := do
  match from? text (← get) with
  | some cs => return cs
  | none => throw .defect

/-- The character `n` places further on. -/
def peekNth? (n : Nat) : Step (Option Char) := return (← rest text)[n]?

/-- The next character. -/
def peek? : Step (Option Char) := return (← rest text).head?

/-- Reads the next character. -/
def pop? : Step (Option Char) := do
  match ← peek? text with
  | none => return none
  | some c =>
    modify (· + c.utf8Size)
    return some c

/-- Moves over a number of bytes, or to the end of the text if fewer are left.
Nothing is said here about where this leads. -/
def skip (bytes : Nat) : Step Unit :=
  modify fun position => min (position + bytes) (byteLength text)

/-- Moves over white space.  Each turn reads a character, so as many turns as
there are characters are enough. -/
def skipBlanks : List Char → Step Unit
  | [] => return ()
  | _ :: turns => do
    match ← peek? text with
    | none => return ()
    | some c =>
      if isBlank c then
        let _ ← pop? text
        skipBlanks turns
      else return ()

/-! ## Texts -/

/-- Reads four hexadecimal digits, if the next four bytes are such. -/
def codeUnit? : Step (Option Nat) := do
  match upTo? (← rest text) 4 with
  | none => return none
  | some cs =>
    match cs.mapM Scan.hexDigit? with
    | none => return none
    | some digits =>
      skip text 4
      return some (digits.foldl (fun value digit => value * 16 + digit) 0)

/-- Reads four hexadecimal digits. -/
def codeUnit (backslash : Nat) : Step Nat := do
  match ← codeUnit? text with
  | some unit => return unit
  | none => fail .invalidCodePoint backslash

/-- The character that the two halves of a pair stand for.  Each half is counted
from the first one of its kind, which is a defect for a number below that. -/
def joinHalves (high low : Nat) : Step Char :=
  if 0xD800 ≤ high ∧ 0xDC00 ≤ low then return Scan.joinHalves high low
  else throw .defect

/-- Reads what follows `\u`. -/
def codePoint (backslash : Nat) : Step Char := do
  let unit ← codeUnit text backslash
  if Scan.isHighHalf unit then
    if (← peek? text) = some '\\' ∧ (← peekNth? text 1) = some 'u' then
      skip text 2
      let low ← codeUnit text backslash
      if Scan.isLowHalf low then joinHalves unit low
      else fail .invalidCodePoint backslash
    else fail .invalidCodePoint backslash
  else if Scan.isLowHalf unit then fail .invalidCodePoint backslash
  else return Char.ofNat unit

/-- Reads an escape from its backslash on. -/
def escape (opening : Nat) : Step Char := do
  let backslash ← get
  let _ ← pop? text
  match ← pop? text with
  | none => fail .unterminatedText opening
  | some 'u' => codePoint text backslash
  | some c =>
    match Scan.escaped? c with
    | some x => return x
    | none => fail (.invalidEscape c) backslash

/-- Reads up to the closing quote and adds what it reads to `value`. -/
def textBody (opening : Nat) (quote : Char) : List Char → String → Step String
  | [], _ => fail .unterminatedText opening
  | _ :: turns, value => do
    match ← peek? text with
    | none => fail .unterminatedText opening
    | some c =>
      if c = quote then
        let _ ← pop? text
        return value
      else if c = '\\' then
        let x ← escape text opening
        textBody opening quote turns (value.push x)
      else
        let _ ← pop? text
        textBody opening quote turns (value.push c)

/-- Reads a text in quotes. -/
def quoted (quote : Char) : Step Token := do
  let opening ← get
  let _ ← pop? text
  return .literal (.text (← textBody text opening quote (← rest text) ""))

/-! ## Numbers and names -/

/-- The longest number at the start of a text, by the characters before and
behind its point. -/
def numberAt? (cs : List Char) : Option (List Char × List Char) :=
  let whole := Scan.wholeDigits cs
  if whole.isEmpty then none
  else some (whole, Scan.fractionDigits (cs.drop whole.length))

/-- The characters of a number. -/
def numberWritten (whole fraction : List Char) : List Char :=
  if fraction.isEmpty then whole else whole ++ '.' :: fraction

/-- Reads a number. -/
def number : Step Token := do
  let start ← get
  match numberAt? (← rest text) with
  | none => fail .invalidNumber start
  | some (whole, fraction) =>
    skip text (byteLength (numberWritten whole fraction))
    match Literal.ofDigits? whole fraction with
    | some value => return .literal value
    | none => fail .invalidNumber start

/-- Reads a name, if there is one. -/
def name? : Step (Option Token) := do
  match ← rest text with
  | [] => return none
  | c :: cs =>
    if isNameStart c then
      let written := c :: cs.takeWhile isNamePart
      skip text (byteLength written)
      return some (.name (String.ofList written))
    else return none

/-! ## Symbols -/

/-- Reads a symbol of one character. -/
def single (token : Token) : Step Token := do
  let _ ← pop? text
  return token

/-- Reads a symbol of one character, or another one if an equals sign
follows. -/
def withEquals (longer shorter : Token) : Step Token := do
  let _ ← pop? text
  if (← peek? text) = some '=' then
    let _ ← pop? text
    return longer
  else return shorter

/-- Reads a symbol of two equal characters. -/
def double (c : Char) (token : Token) : Step Token := do
  let position ← get
  let _ ← pop? text
  if (← peek? text) = some c then
    let _ ← pop? text
    return token
  else fail (.halfOperator c) position

/-- Reads a symbol that starts with an equals sign. -/
def equals : Step Token := do
  let position ← get
  match ← peekNth? text 1 with
  | some '=' => skip text 2; return .operator .equal
  | some '>' => skip text 2; return .arrow
  | _ => fail (.halfOperator '=') position

/-! ## Tokens -/

/-- Reads a token that is no symbol, from its first character on. -/
def word (c : Char) : Step Token := do
  if c = '"' ∨ c = '\'' then quoted text c
  else if c.isDigit then number text
  else
    let position ← get
    match ← name? text with
    | some token => return token
    | none => fail (.unexpected c) position

/-- Reads the token that starts with a character, or none at the end of the
text. -/
def tokenFrom : Option Char → Step Token
  | none => return .endOfText
  | some '.' => single text .dot
  | some ',' => single text .comma
  | some '[' => single text .openBracket
  | some ']' => single text .closeBracket
  | some '(' => single text .openParen
  | some ')' => single text .closeParen
  | some '-' => single text .minus
  | some '>' => withEquals text (.operator .greaterEqual) (.operator .greater)
  | some '<' => withEquals text (.operator .lessEqual) (.operator .less)
  | some '!' => withEquals text (.operator .notEqual) .exclamation
  | some '=' => equals text
  | some '&' => double text '&' (.operator .and)
  | some '|' => double text '|' (.operator .or)
  | some c => word text c

/-- Reads the next token, behind the white space before it. -/
def token : Step Token := do
  skipBlanks text text
  tokenFrom text (← peek? text)

/-- Reads the next token together with its offset. -/
def placedToken : Step PlacedToken := do
  skipBlanks text text
  let offset ← get
  return ⟨offset, ← token text⟩

/-- Reads the tokens up to the end of the text behind those already read,
which are given last first. -/
def tokens : List Char → List PlacedToken → Step (List PlacedToken)
  | [], before => return before.reverse
  | _ :: turns, before => do
    let placed ← placedToken text
    if placed.token = .endOfText then return before.reverse
    else tokens turns (placed :: before)

/-- The tokens of a text, without the end of the text. -/
def tokenize (text : String) :
    Except (Halt LexicalError) (List PlacedToken) :=
  match (tokens text.toList text.toList []).run 0 with
  | .ok tokens _ => .ok tokens
  | .error halt _ => .error halt

end DocFilter.Bytewise
