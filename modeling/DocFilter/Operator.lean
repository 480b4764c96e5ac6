/-!
# Operators

The words of the expression language that combine expressions, with their
spelling there and in SQL.
-/

namespace DocFilter

/-- The two tiers of binary operators: comparisons bind tighter than the
logical connectives. -/
inductive Tier where
  | comparison
  | logical
deriving DecidableEq

/-- An operator between two scalars. -/
inductive BinaryOp where
  | equal
  | notEqual
  | less
  | greater
  | lessEqual
  | greaterEqual
  | and
  | or
deriving DecidableEq

namespace BinaryOp

/-- The tier that an operator belongs to. -/
def tier : BinaryOp → Tier
  | .and | .or => .logical
  | _ => .comparison

/-- The operator in an expression. -/
def symbol : BinaryOp → String
  | .equal => "=="
  | .notEqual => "!="
  | .less => "<"
  | .greater => ">"
  | .lessEqual => "<="
  | .greaterEqual => ">="
  | .and => "&&"
  | .or => "||"

/-- The operator in SQL. -/
def sql : BinaryOp → String
  | .equal => "="
  | .notEqual => "<>"
  | .less => "<"
  | .greater => ">"
  | .lessEqual => "<="
  | .greaterEqual => ">="
  | .and => "AND"
  | .or => "OR"

end BinaryOp

/-- An operation on one scalar: two are written before it, and two are methods
called on it. -/
inductive UnaryOp where
  | not
  | minus
  | lower
  | upper
deriving DecidableEq

/-- The SQL text before the operand.  A closing parenthesis follows the
operand. -/
def UnaryOp.sqlOpening : UnaryOp → String
  | .not => "(NOT "
  | .minus => "(- "
  | .lower => "lower("
  | .upper => "upper("

/-- The two kinds of patterns that a text can be matched with. -/
inductive PatternStyle where
  | like
  | glob
deriving DecidableEq

/-- The name of the matching function, in an expression and in SQL. -/
def PatternStyle.name : PatternStyle → String
  | .like => "like"
  | .glob => "glob"

/-- Whether a condition is to hold for some element or for every one. -/
inductive Quantifier where
  | any
  | all
deriving DecidableEq

/-- The name of the method that tests the elements. -/
def Quantifier.name : Quantifier → String
  | .any => "some"
  | .all => "every"

end DocFilter
