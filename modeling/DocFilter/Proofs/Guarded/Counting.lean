import DocFilter.Expr.Reading
import DocFilter.Proofs.Guarded.Following

/-!
# Reading with counters

Heights can be bounded without computing the height of anything.  A counter
says how many levels have been entered, and another one which level has been
reached; the height of what is being read is the difference, which is a defect
where it is negative.  The readers here keep these two counters instead of
returning heights.

Two more counters only watch the readers of operands: how many of their calls
have not returned, and how many that was at most.
-/

namespace DocFilter

/-- The tokens that are left, and the counters. -/
structure Count where
  stream : TokenStream
  /-- The number of levels that have been entered and not been left. -/
  depth : Nat
  /-- The deepest level that has been reached by what is being measured. -/
  peak : Nat
  /-- The number of calls for an operand that have not returned. -/
  active : Nat
  /-- The greatest number of such calls so far. -/
  mostActive : Nat

/-- The counters before anything is read. -/
def Count.start (stream : TokenStream) : Count := ⟨stream, 0, 0, 0, 0⟩

/-- The counters within a call. -/
def Count.enterCall (count : Count) : Count :=
  { count with
    active := count.active + 1
    mostActive := max count.mostActive (count.active + 1) }

/-- The counters behind a call.  The levels that it has entered are left. -/
def Count.leaveCall (before after : Count) : Count :=
  { after with depth := before.depth, active := before.active }

/-- A step that reads tokens and counts levels. -/
abbrev Counting := EStateM (Halt SyntaxError) Count

namespace Counting

/-- Reads tokens and leaves the counters as they are. -/
def lift {α : Type} (reader : Reading α) : Counting α := fun count =>
  match reader count.stream with
  | .ok value stream => .ok value { count with stream }
  | .error error stream => .error (.fault error) { count with stream }

variable (maxDepth : Nat)

/-! ## Levels -/

/-- Enters a level. -/
def descend : Counting Unit := do
  let count ← get
  if maxDepth ≤ count.depth then lift (Reading.fail .tooDeep)
  else
    let depth := count.depth + 1
    set { count with depth, peak := max count.peak depth }

/-- Notes that a level is reached. -/
def reach (level : Nat) : Counting Unit := do
  let count ← get
  if maxDepth < level then lift (Reading.fail .tooDeep)
  else set { count with peak := max count.peak level }

/-- Reads something together with the height that it has reached above the
levels that have been entered. -/
def measure {α : Type} (reader : Counting α) : Counting (α × Nat) := do
  let outer := (← get).peak
  modify fun count => { count with peak := count.depth }
  let value ← reader
  let count ← get
  if count.peak < count.depth then throw .defect
  else
    set { count with peak := max count.peak outer }
    return (value, count.peak - count.depth)

/-- Makes a call, which leaves the levels that it has entered however it
ends. -/
def call {α : Type} (body : Counting α) : Counting α := fun count =>
  match body count.enterCall with
  | .ok value after => .ok value (count.leaveCall after)
  | .error halt after => .error halt (count.leaveCall after)

/-! ## Lists and chains -/

/-- Reads further items up to the closing token. -/
def itemsAfter {α : Type}
    (item : Counting α) (close : Token) (unclosed : SyntaxFault) :
    List PlacedToken → List α → Counting (List α)
  | [], _ => lift (Reading.fail unclosed)
  | _ :: turns, before => do
    let position ← lift Reading.position
    match ← lift Reading.next? with
    | some token =>
      if token = .comma then
        itemsAfter item close unclosed turns ((← item) :: before)
      else if token = close then return before.reverse
      else lift (Reading.failAt unclosed position)
    | none => lift (Reading.failAt unclosed position)

/-- Reads items up to the closing token. -/
def items {α : Type}
    (item : Counting α) (close : Token) (atEnd unclosed : SyntaxFault) :
    Counting (List α) := do
  match ← lift Reading.peek? with
  | none => lift (Reading.fail atEnd)
  | some token =>
    if token = close then
      lift (modify TokenStream.tail)
      return []
    else
      let first ← item
      itemsAfter item close unclosed (← get).stream.tokens [first]

/-- Two expressions joined by an operator. -/
def joined (op : BinaryOp) (left right : JsonExpr) : JsonExpr :=
  (ScalarExpr.binary op left.asScalar right.asScalar).asJson

/-- Reads the rest of a chain behind its left operand, which has a height. -/
def chainAfter (tier : Tier) (operand : Counting JsonExpr) :
    List PlacedToken → JsonExpr → Nat → Counting JsonExpr
  | [], left, _ => return left
  | _ :: turns, left, height => do
    match ← lift (Reading.acceptSome (Token.operator? tier)) with
    | none => return left
    | some op =>
      let (right, rightHeight) ← measure operand
      let height := max height rightHeight + 1
      reach maxDepth ((← get).depth + height)
      chainAfter tier operand turns (joined op left right) height

/-- Reads operands with operators of a tier between them. -/
def chain (tier : Tier) (operand : Counting JsonExpr) : Counting JsonExpr := do
  let (first, height) ← measure operand
  chainAfter maxDepth tier operand (← get).stream.tokens first height

/-- Reads an expression, given a reader for the operands of comparisons. -/
def expressionOf (negated : Counting JsonExpr) : Counting JsonExpr :=
  chain maxDepth .logical (chain maxDepth .comparison negated)

/-! ## Atoms and suffixes -/

section

variable (expression : Counting JsonExpr)

/-- Reads an argument.  Its height is not noted. -/
def argument : Counting Argument := do
  match (← get).stream.tokens with
  | ⟨_, .name element⟩ :: ⟨_, .arrow⟩ :: _ =>
    lift (modify fun stream => stream.tail.tail)
    return .arrow element ⟨← expression, 0⟩
  | _ => return .plain ⟨← expression, 0⟩

/-- Reads arguments behind the opening parenthesis. -/
def arguments : Counting (List Argument) :=
  items (argument expression) .closeParen .endInArguments .unclosedArguments

/-- Reads elements behind the opening bracket. -/
def elements : Counting (List JsonExpr) :=
  items expression .closeBracket .endInArray .unclosedArray

/-- Reads an atom. -/
def atom : Counting JsonExpr := do
  let start ← lift Reading.position
  match ← lift Reading.next? with
  | none => lift (Reading.fail .endOfExpression)
  | some (.literal value) => return (ScalarExpr.literal value).asJson
  | some (.name text) =>
    if ← lift (Reading.accept .openParen) then
      let arguments ← arguments expression
      lift (Reading.checked start (Call.function text arguments))
    else return .name text
  | some .openParen =>
    let inner ← expression
    if (← lift Reading.next?) = some .closeParen then return inner
    else lift (Reading.failAt .unclosedGroup start)
  | some .openBracket => return .array (← elements expression)
  | some token => lift (Reading.failAt (.unexpectedToken token) start)

/-- Reads what follows a point behind an object.  The height is that of what
stands below the suffix. -/
def member (object : JsonExpr) (height : Nat) : Counting Operand := do
  let start ← lift Reading.position
  match ← lift Reading.next? with
  | some (.name text) =>
    if ← lift (Reading.accept .openParen) then
      let (arguments, argumentsHeight) ← measure (arguments expression)
      let expr ← lift (Reading.checked start (Call.method object text arguments))
      return ⟨expr, max height argumentsHeight⟩
    else if text = "length" then
      return ⟨(ScalarExpr.length object).asJson, height⟩
    else return ⟨object.property text, height⟩
  | _ => lift (Reading.failAt .missingName start)

/-- Reads what follows an opening bracket behind an object.  The height is that
of what stands below the suffix. -/
def key (object : JsonExpr) (height : Nat) : Counting Operand := do
  let (key, keyHeight) ← measure expression
  if (← lift Reading.next?) = some .closeBracket then
    return ⟨.item object key.asScalar, max height keyHeight⟩
  else lift (Reading.fail .missingBracket)

/-- Reads the suffixes behind an object of a height.  Each of them takes a
level. -/
def suffixes : List PlacedToken → JsonExpr → Nat → Counting JsonExpr
  | [], object, _ => return object
  | _ :: turns, object, height => do
    if ← lift (Reading.accept .dot) then
      let below ← member expression object height
      reach maxDepth ((← get).depth + (below.height + 1))
      suffixes turns below.expr (below.height + 1)
    else if ← lift (Reading.accept .openBracket) then
      let below ← key expression object height
      reach maxDepth ((← get).depth + (below.height + 1))
      suffixes turns below.expr (below.height + 1)
    else return object

/-- Reads an atom and its suffixes. -/
def accessor : Counting JsonExpr := do
  let (first, height) ← measure (atom expression)
  suffixes maxDepth expression (← get).stream.tokens first height

end

/-! ## Expressions -/

/-- Reads an operand of a comparison within the level that it takes, given a
reader for the operands inside. -/
def operandOf (negated : Counting JsonExpr) : Counting JsonExpr := do
  match ← lift (Reading.acceptSome Token.prefixOp?) with
  | some op =>
    let operand ← negated
    return (ScalarExpr.unary op operand.asScalar).asJson
  | none => accessor maxDepth (expressionOf maxDepth negated)

/-- Reads an operand of a comparison.  Calls are made within calls no more than
a number of times, and it is a defect to make one more. -/
def negated : Nat → Counting JsonExpr
  | 0 => throw .defect
  | calls + 1 => call do
    descend maxDepth
    operandOf maxDepth (negated calls)

/-- Reads an expression. -/
def expression : Counting JsonExpr :=
  expressionOf maxDepth (negated maxDepth (maxDepth + 1))

/-- Reads an expression that all tokens belong to. -/
def complete : Counting JsonExpr := do
  let expr ← expression maxDepth
  if (← get).stream.tokens.isEmpty then return expr
  else lift (Reading.fail .trailingTokens)

end Counting

end DocFilter
