import DocFilter.Expr.Outline
import DocFilter.Filter
import DocFilter.Program.Reference
import DocFilter.Sql.Json

/-!
# Commands

What the program can be asked to do, and what it answers.  A command takes its
expression from its arguments, or else from the standard input.
-/

namespace DocFilter.Program

/-- A request to compile an expression. -/
structure CompileRequest where
  expression : Option String := none
  documentColumn : Option String := none
  rowColumn : Option String := none
  /-- Show the tree in place of the SQL. -/
  asTree : Bool := false
  isPretty : Bool := false
deriving DecidableEq

/-- What the program can be asked to do. -/
inductive Command where
  | compile (request : CompileRequest)
  | tokens (expression : Option String)
  | reference
  | version
deriving DecidableEq

/-- Why the program could not do what it was asked to. -/
inductive Trouble where
  | expression (failure : Failure)
  | noExpression
  /-- The standard input is no UTF-8. -/
  | unreadableInput
deriving DecidableEq

/-- What the program says about a diagnostic. -/
def expressionMessage (diagnostic : Diagnostic) : String :=
  "Expression error: " ++ diagnostic.message

/-- What the program says about its trouble. -/
def Trouble.message : Trouble → String
  | .expression failure => expressionMessage failure.diagnostic
  | .noExpression =>
    "No expression provided. Pass it as an argument or pipe it to stdin."
  | .unreadableInput => "IO error: stream did not contain valid UTF-8"

/-- The options that a request stands for. -/
def CompileRequest.options (request : CompileRequest) : Options :=
  let options : Options := {}
  { options with
    documentColumn := request.documentColumn.getD options.documentColumn
    rowColumn := request.rowColumn.getD options.rowColumn }

/-- The text of a fragment. -/
def fragmentText (isPretty : Bool) (fragment : Fragment) : String :=
  if isPretty then fragment.toPrettyJson else fragment.toJson

/-- The text of a tree. -/
def treeText (isPretty : Bool) (expr : JsonExpr) : String :=
  if isPretty then expr.outline.indented 0 else expr.outline.flat

/-- Compiles an expression as a request asks for.  Positions in errors count
from the start of the text, white space included. -/
def compileText (request : CompileRequest) (text : String) :
    Except Trouble String :=
  if text.toList.all Text.isBlank then .error .noExpression
  else if request.asTree then
    (treeText request.isPretty <$> parse text request.options).mapError
      .expression
  else
    (fragmentText request.isPretty <$> compile text request.options).mapError
      .expression

/-- The lines of a token listing. -/
def tokenLines (text : String) : Except Trouble (List String) :=
  (List.map PlacedToken.line <$> tokenize text).mapError fun error =>
    .expression (.lexical error)

/-- The expression of a command: the argument, or else the standard input. -/
def expressionText (argument : Option String) (input : ByteArray) :
    Except Trouble String :=
  match argument with
  | some text => .ok text
  | none =>
    match String.fromUTF8? input with
    | some text => .ok text
    | none => .error .unreadableInput

/-- The output of a command. -/
def Command.run (input : ByteArray) : Command → Except Trouble String
  | .compile request => do
    let text ← expressionText request.expression input
    return (← compileText request text) ++ "\n"
  | .tokens expression => do
    let text ← expressionText expression input
    return String.join ((← tokenLines text).map (· ++ "\n"))
  | .reference => .ok languageReference
  | .version => .ok "docexpr 0.1.0\n"

/-- Whether a command takes its expression from the standard input. -/
def Command.needsInput : Command → Bool
  | .compile request => request.expression.isNone
  | .tokens expression => expression.isNone
  | _ => false

end DocFilter.Program
