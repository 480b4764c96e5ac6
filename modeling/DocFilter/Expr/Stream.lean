import DocFilter.Expr.Fault

/-!
# Reading from a list of tokens

A stream is what is left of a list of tokens.  Reading an expression takes
tokens off its front, and what it has taken stays taken when it fails.
-/

namespace DocFilter

/-- What is left of a list of tokens, and the number of bytes before the end
of its text. -/
structure TokenStream where
  tokens : List PlacedToken
  stop : Nat
deriving DecidableEq

/-- The offset of the next token, or the end of the text. -/
def TokenStream.position (stream : TokenStream) : Nat :=
  match stream.tokens with
  | [] => stream.stop
  | placed :: _ => placed.offset

/-- A stream without its next token. -/
def TokenStream.tail (stream : TokenStream) : TokenStream :=
  ⟨stream.tokens.tail, stream.stop⟩

/-- A step that reads tokens and may fail. -/
abbrev Reading := EStateM SyntaxError TokenStream

namespace Reading

/-- Stops with a fault at a position. -/
def failAt {α : Type} (fault : SyntaxFault) (position : Nat) : Reading α :=
  throw ⟨fault, position⟩

/-- The offset of the next token. -/
def position : Reading Nat := return (← get).position

/-- Stops with a fault at the next token. -/
def fail {α : Type} (fault : SyntaxFault) : Reading α := do
  failAt fault (← position)

/-- The next token. -/
def peek? : Reading (Option Token) := do
  match (← get).tokens with
  | [] => return none
  | placed :: _ => return some placed.token

/-- Takes the next token. -/
def next? : Reading (Option Token) := do
  let token ← peek?
  modify TokenStream.tail
  return token

/-- Takes the next token if it is the given one. -/
def accept (token : Token) : Reading Bool := do
  if (← peek?) = some token then
    modify TokenStream.tail
    return true
  else return false

/-- Takes the next token if it stands for something. -/
def acceptSome {α : Type} (meaning : Token → Option α) :
    Reading (Option α) := do
  match (← peek?).bind meaning with
  | some value => modify TokenStream.tail; return some value
  | none => return none

/-- Reads further items, with commas between them, up to the closing token.  The
items already read are given last first.  Each turn uses up one token at least,
so as many turns as there are tokens left are enough. -/
def itemsAfter {α : Type}
    (item : Reading α) (close : Token) (unclosed : SyntaxFault) :
    List PlacedToken → List α → Reading (List α)
  | [], _ => fail unclosed
  | _ :: turns, before => do
    let position ← position
    match ← next? with
    | some token =>
      if token = .comma then
        itemsAfter item close unclosed turns ((← item) :: before)
      else if token = close then return before.reverse
      else failAt unclosed position
    | none => failAt unclosed position

/-- Reads items with commas between them up to the closing token, behind the
opening one. -/
def items {α : Type}
    (item : Reading α) (close : Token) (atEnd unclosed : SyntaxFault) :
    Reading (List α) := do
  match ← peek? with
  | none => fail atEnd
  | some token =>
    if token = close then
      modify TokenStream.tail
      return []
    else
      let first ← item
      itemsAfter item close unclosed (← get).tokens [first]

end Reading

end DocFilter
