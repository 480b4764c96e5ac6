import DocFilter.Decimal.Layout
import DocFilter.Literal
import DocFilter.Operator
import DocFilter.Text.Quoted

/-!
# Tokens

The smallest parts of an expression that have a meaning, and how they are
shown to a reader.
-/

namespace DocFilter

/-- A part of an expression. -/
inductive Token where
  | literal (value : Literal)
  | name (text : String)
  | operator (op : BinaryOp)
  | exclamation
  | minus
  | dot
  | comma
  | openBracket
  | closeBracket
  | openParen
  | closeParen
  | arrow
  | endOfText
deriving DecidableEq

/-- A token with the number of bytes before it. -/
structure PlacedToken where
  offset : Nat
  token : Token
deriving DecidableEq

/-- A literal as it is shown: a text in quotes, a number in digits. -/
def Literal.shown : Literal → String
  | .text value => Text.quoted value
  | .integer value => toString value.toInt
  | .real value => Decimal.tokenLayout.write value

namespace Token

/-- The word for a kind of token. -/
def kind : Token → String
  | .literal (.text _) => "STRING_LITERAL"
  | .literal (.integer _) => "NUMBER_LITERAL"
  | .literal (.real _) => "NUMBER_LITERAL"
  | .name _ => "IDENTIFIER"
  | .operator .equal => "OP_EQ"
  | .operator .notEqual => "OP_NEQ"
  | .operator .less => "OP_LT"
  | .operator .greater => "OP_GT"
  | .operator .lessEqual => "OP_LTE"
  | .operator .greaterEqual => "OP_GTE"
  | .operator .and => "OP_AND"
  | .operator .or => "OP_OR"
  | .exclamation => "OP_NEGATE"
  | .minus => "OP_MINUS"
  | .dot => "DOT"
  | .comma => "COMMA"
  | .openBracket => "OPEN_BRACKET"
  | .closeBracket => "CLOSE_BRACKET"
  | .openParen => "OPEN_PAREN"
  | .closeParen => "CLOSE_PAREN"
  | .arrow => "ARROW"
  | .endOfText => "EOF"

/-- A token as it is shown. -/
def shown : Token → String
  | .literal value => value.shown
  | .name text => text
  | .operator op => op.symbol
  | .exclamation => "!"
  | .minus => "-"
  | .dot => "."
  | .comma => ","
  | .openBracket => "["
  | .closeBracket => "]"
  | .openParen => "("
  | .closeParen => ")"
  | .arrow => "=>"
  | .endOfText => "<eof>"

/-- The binary operator of a tier that a token stands for. -/
def operator? (tier : Tier) : Token → Option BinaryOp
  | .operator op => if op.tier = tier then some op else none
  | _ => none

/-- The operation that a token stands for when it is written before its
operand. -/
def prefixOp? : Token → Option UnaryOp
  | .exclamation => some .not
  | .minus => some .minus
  | _ => none

end Token

/-- One line of a token listing: the offset, the kind, and the text of a
literal or a name, with tabs between them. -/
def PlacedToken.line (placed : PlacedToken) : String :=
  let start := toString placed.offset ++ "\t" ++ placed.token.kind
  match placed.token with
  | .literal _ | .name _ => start ++ "\t" ++ placed.token.shown
  | _ => start

end DocFilter
