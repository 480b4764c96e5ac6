import DocFilter.Expr.Basic
import DocFilter.Expr.Fault

/-!
# Calls

What a call becomes once its arguments have been read.  Each function and method
fixes how many arguments it takes and which of them are arrows, and a call that
does not keep to that is a fault.
-/

namespace DocFilter

/-- An expression and its height. -/
structure Operand where
  expr : JsonExpr
  height : Nat

/-- An argument of a call: an expression, or an arrow from a name to an
expression. -/
inductive Argument where
  | plain (body : Operand)
  | arrow (element : String) (body : Operand)

/-- The height of an argument. -/
def Argument.height : Argument → Nat
  | .plain body => body.height
  | .arrow _ body => body.height

/-- The greatest of some heights, or zero. -/
def greatest (heights : List Nat) : Nat := heights.foldl max 0

namespace Call

/-- The scalar of an argument that must not be an arrow. -/
def scalar : Argument → Except CallFault ScalarExpr
  | .plain body => .ok body.expr.asScalar
  | .arrow _ _ => .error .arrowUnexpected

/-- The call of a function that matches a text with a pattern. -/
def matching (style : PatternStyle) :
    List Argument → Except CallFault ScalarExpr
  | [subject, pattern] => do
    let subject ← scalar subject
    let pattern ← scalar pattern
    return .matching style subject pattern
  | _ => .error (.argumentCount (.matching style))

/-- The call of a function.  The functions match a text with a pattern. -/
def function (name : String) (arguments : List Argument) :
    Except CallFault JsonExpr :=
  ScalarExpr.asJson <$>
    if name = PatternStyle.like.name then matching .like arguments
    else if name = PatternStyle.glob.name then matching .glob arguments
    else .error (.unknownFunction name arguments.length)

/-- The call of a method that changes the case of a text. -/
def recase (op : UnaryOp) (callee : Callee) (object : JsonExpr) :
    List Argument → Except CallFault ScalarExpr
  | [] => .ok (.unary op object.asScalar)
  | _ => .error (.argumentCount callee)

/-- The call of the method that looks for an element. -/
def includes (object : JsonExpr) : List Argument → Except CallFault ScalarExpr
  | [needle] => return .includes object (← scalar needle)
  | _ => .error (.argumentCount .includes)

/-- The call of a method that tests the elements. -/
def quantified (quantifier : Quantifier) (object : JsonExpr) :
    List Argument → Except CallFault ScalarExpr
  | [.arrow element body] =>
    .ok (.quantified quantifier object element body.expr.asScalar)
  | [.plain _] => .error (.arrowMissing quantifier)
  | _ => .error (.argumentCount (.quantifier quantifier))

/-- The call of a method on an object. -/
def method
    (object : JsonExpr) (name : String) (arguments : List Argument) :
    Except CallFault JsonExpr :=
  ScalarExpr.asJson <$>
    if name = "toLowerCase" then recase .lower .lower object arguments
    else if name = "toUpperCase" then recase .upper .upper object arguments
    else if name = "includes" then includes object arguments
    else if name = Quantifier.any.name then quantified .any object arguments
    else if name = Quantifier.all.name then quantified .all object arguments
    else .error (.unknownMethod name)

end Call

end DocFilter
