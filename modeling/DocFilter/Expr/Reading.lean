import DocFilter.Expr.Call
import DocFilter.Expr.Stream

/-!
# Reading expressions

```text
expression := comparison (('&&' | '||') comparison)*
comparison := negated (('>' | '>=' | '==' | '<' | '<=' | '!=') negated)*
negated    := ('!' | '-') negated | accessor
accessor   := atom ('.' NAME ['(' arguments ')'] | '[' expression ']')*
atom       := TEXT | NUMBER | NAME ['(' arguments ')'] | '(' expression ')' | '[' elements ']'
elements   := [expression (',' expression)*]
arguments  := [argument (',' argument)*]
argument   := NAME '=>' expression | expression
```

Operators of one tier group to the left.  Every expression has a height, and the
height that a reader may still use is its room: an atom, a prefix operator, a
suffix and an operator of a chain take one level each.
-/

namespace DocFilter.Reading

/-- The result of a call, whose faults are reported at a position. -/
def checked (position : Nat) : Except CallFault JsonExpr → Reading JsonExpr
  | .ok expr => return expr
  | .error fault => failAt (.call fault) position

/-- An operand with a height of at most `room`. -/
def within (room : Nat) (operand : Operand) : Reading Operand := do
  if operand.height ≤ room then return operand else fail .tooDeep

/-! ## Chains of operators -/

/-- Two operands joined by an operator. -/
def joined (op : BinaryOp) (left right : Operand) : Operand where
  expr := (ScalarExpr.binary op left.expr.asScalar right.expr.asScalar).asJson
  height := max left.height right.height + 1

/-- Reads the rest of a chain behind its left operand.  Each turn uses up one
token at least, so as many turns as there are tokens left are enough. -/
def chainAfter (tier : Tier) (operand : Reading Operand) (room : Nat) :
    List PlacedToken → Operand → Reading Operand
  | [], left => return left
  | _ :: turns, left => do
    match ← acceptSome (Token.operator? tier) with
    | none => return left
    | some op =>
      let right ← operand
      chainAfter tier operand room turns (← within room (joined op left right))

/-- Reads operands with operators of a tier between them. -/
def chain (tier : Tier) (operand : Reading Operand) (room : Nat) :
    Reading Operand := do
  let first ← operand
  chainAfter tier operand room (← get).tokens first

/-- Reads an expression, given a reader for the operands of comparisons. -/
def expressionOf (negated : Reading Operand) (room : Nat) : Reading Operand :=
  chain .logical (chain .comparison negated room) room

/-! ## Atoms and suffixes -/

/-- Reads an argument, given a reader for expressions. -/
def argument (expression : Reading Operand) : Reading Argument := do
  match (← get).tokens with
  | ⟨_, .name element⟩ :: ⟨_, .arrow⟩ :: _ =>
    modify fun stream => stream.tail.tail
    return .arrow element (← expression)
  | _ => return .plain (← expression)

/-- Reads arguments behind the opening parenthesis. -/
def arguments (expression : Reading Operand) : Reading (List Argument) :=
  items (argument expression) .closeParen .endInArguments .unclosedArguments

/-- Reads elements behind the opening bracket. -/
def elements (expression : Reading Operand) : Reading (List Operand) :=
  items expression .closeBracket .endInArray .unclosedArray

/-- Reads an atom, given a reader for expressions. -/
def atom (expression : Reading Operand) : Reading Operand := do
  let start ← position
  match ← next? with
  | none => fail .endOfExpression
  | some (.literal value) => return ⟨(ScalarExpr.literal value).asJson, 0⟩
  | some (.name text) =>
    if ← accept .openParen then
      let arguments ← arguments expression
      let expr ← checked start (Call.function text arguments)
      return ⟨expr, greatest (arguments.map Argument.height)⟩
    else return ⟨.name text, 0⟩
  | some .openParen =>
    let inner ← expression
    if (← next?) = some .closeParen then return inner
    else failAt .unclosedGroup start
  | some .openBracket =>
    let elements ← elements expression
    return ⟨.array (elements.map Operand.expr),
      greatest (elements.map Operand.height)⟩
  | some token => failAt (.unexpectedToken token) start

/-- Reads what follows a point: a property, or the call of a method. -/
def member (expression : Reading Operand) (object : Operand) :
    Reading Operand := do
  let start ← position
  match ← next? with
  | some (.name text) =>
    if ← accept .openParen then
      let arguments ← arguments expression
      let expr ← checked start (Call.method object.expr text arguments)
      return ⟨expr, max object.height
        (greatest (arguments.map Argument.height)) + 1⟩
    else if text = "length" then
      return ⟨(ScalarExpr.length object.expr).asJson, object.height + 1⟩
    else return ⟨object.expr.property text, object.height + 1⟩
  | _ => failAt .missingName start

/-- Reads what follows an opening bracket: a computed key and the closing
bracket.  A missing bracket is reported behind the token that stands in its
place. -/
def key (expression : Reading Operand) (object : Operand) :
    Reading Operand := do
  let key ← expression
  if (← next?) = some .closeBracket then
    return ⟨.item object.expr key.expr.asScalar,
      max object.height key.height + 1⟩
  else fail .missingBracket

/-- Reads the suffixes behind an object.  Each turn uses up one token at
least. -/
def suffixes (expression : Reading Operand) (room : Nat) :
    List PlacedToken → Operand → Reading Operand
  | [], object => return object
  | _ :: turns, object => do
    if ← accept .dot then
      let object ← member expression object
      suffixes expression room turns (← within room object)
    else if ← accept .openBracket then
      let object ← key expression object
      suffixes expression room turns (← within room object)
    else return object

/-- Reads an atom and its suffixes. -/
def accessor (expression : Reading Operand) (room : Nat) : Reading Operand := do
  let first ← atom expression
  suffixes expression room (← get).tokens first

/-! ## Expressions -/

/-- Reads an operand of a comparison.  It takes one level, and what stands
inside has the rest of the room. -/
def negated : Nat → Reading Operand
  | 0 => fail .tooDeep
  | room + 1 => do
    match ← acceptSome Token.prefixOp? with
    | some op =>
      let operand ← negated room
      return ⟨(ScalarExpr.unary op operand.expr.asScalar).asJson,
        operand.height + 1⟩
    | none =>
      let operand ← accessor (expressionOf (negated room) room) room
      return ⟨operand.expr, operand.height + 1⟩

/-- Reads an expression of a height of at most `room`, and leaves the tokens
behind it. -/
def expression (room : Nat) : Reading JsonExpr := do
  return (← expressionOf (negated room) room).expr

/-- Reads an expression that all tokens belong to. -/
def complete (room : Nat) : Reading JsonExpr := do
  let expr ← expression room
  if (← get).tokens.isEmpty then return expr else fail .trailingTokens

end DocFilter.Reading
