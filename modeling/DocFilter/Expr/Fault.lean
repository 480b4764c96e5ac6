import DocFilter.Token.Basic

/-!
# Faults in the grammar

What can be wrong with the tokens of an expression, and the wording of every
fault.  The faults of calls stand apart from the others: a call is checked when
its arguments have been read.
-/

namespace DocFilter

/-- What can be called in an expression. -/
inductive Callee where
  | matching (style : PatternStyle)
  | lower
  | upper
  | includes
  | quantifier (quantifier : Quantifier)
deriving DecidableEq

/-- What can be wrong with a call. -/
inductive CallFault where
  | unknownFunction (name : String) (count : Nat)
  | unknownMethod (name : String)
  | argumentCount (callee : Callee)
  /-- An arrow stands where an expression is expected. -/
  | arrowUnexpected
  /-- An expression stands where an arrow is expected. -/
  | arrowMissing (quantifier : Quantifier)
deriving DecidableEq

/-- The wording of a fault in a call. -/
def CallFault.message : CallFault → String
  | .unknownFunction name count => s!"Invalid function name: {name}:{count}"
  | .unknownMethod name => s!"Unknown method: {name}"
  | .argumentCount (.matching style) =>
    s!"Wrong number of arguments to {style.name}"
  | .argumentCount .lower => "Wrong number of arguments to toLowerCase"
  | .argumentCount .upper => "Wrong number of arguments to toUpperCase"
  | .argumentCount .includes => "Wrong number of arguments to includes"
  | .argumentCount (.quantifier .any) => ".some() takes exactly one argument"
  | .argumentCount (.quantifier .all) => "Wrong number of arguments to .every()"
  | .arrowUnexpected => "Unexpected arrow function"
  | .arrowMissing quantifier =>
    s!".{quantifier.name}() must be passed an arrow function"

/-- What can be wrong with the tokens of an expression. -/
inductive SyntaxFault where
  | tooDeep
  | trailingTokens
  | unexpectedToken (token : Token)
  | endOfExpression
  | endInArray
  | endInArguments
  | missingName
  | missingBracket
  | unclosedGroup
  | unclosedArray
  | unclosedArguments
  | call (fault : CallFault)
deriving DecidableEq

/-- A fault and the position that it is reported at. -/
structure SyntaxError where
  fault : SyntaxFault
  position : Nat
deriving DecidableEq

/-- The wording of an error. -/
def SyntaxError.message (error : SyntaxError) : String :=
  match error.fault with
  | .tooDeep => "Expression nested too deeply"
  | .trailingTokens => "Trailing tokens"
  | .unexpectedToken token => s!"Unexpected {token.kind}"
  | .endOfExpression => "Unexpected EOF reading expression"
  | .endInArray => "Unexpected EOF in array literal"
  | .endInArguments => "Unexpected EOF in argument list"
  | .missingName => "Missing identifier after \".\""
  | .missingBracket => "Missing \"]\""
  | .unclosedGroup => "Unclosed parenthetical"
  | .unclosedArray => "Expected closing bracket for array literal"
  | .unclosedArguments => "Expected close paren"
  | .call fault => fault.message

end DocFilter
