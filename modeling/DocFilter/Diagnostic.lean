import DocFilter.Expr.Fault
import DocFilter.Sql.Emit
import DocFilter.Token.Scan

/-!
# Diagnostics

Whatever is wrong with an expression reaches its author as a kind, a message
and, where there is one, a position in bytes.
-/

namespace DocFilter

/-- What an expression, or a request about one, failed on. -/
inductive Failure where
  /-- The expression is longer than the limit, both in bytes. -/
  | tooLong (length limit : Nat)
  | lexical (error : LexicalError)
  | grammatical (error : SyntaxError)
  | unbound (error : UnboundName)
  /-- The text is no sort direction. -/
  | notADirection (text : String)
deriving DecidableEq

/-- The kinds of diagnostics.  The internal kind is the only one that the author
of an expression is not to blame for. -/
inductive DiagnosticKind where
  | lexical
  | grammatical
  | binding
  | limit
  | internal
deriving DecidableEq

/-- A kind, a message and perhaps a position in bytes. -/
structure Diagnostic where
  kind : DiagnosticKind
  message : String
  position? : Option Nat
deriving DecidableEq

namespace Diagnostic

/-- A diagnostic without a position. -/
def new (kind : DiagnosticKind) (message : String) : Diagnostic :=
  ⟨kind, message, none⟩

/-- Gives a diagnostic a position. -/
def withPosition (diagnostic : Diagnostic) (position : Nat) : Diagnostic :=
  ⟨diagnostic.kind, diagnostic.message, some position⟩

/-- The diagnostic of a defect in the library itself. -/
def defect : Diagnostic :=
  new .internal "Unexpected error compiling expression"

/-- Whether the author of the expression is to blame. -/
def isUserError (diagnostic : Diagnostic) : Bool :=
  diagnostic.kind != .internal

end Diagnostic

/-- What the author of an expression is told about a failure. -/
def Failure.diagnostic : Failure → Diagnostic
  | .tooLong length limit =>
    .new .limit s!"Expression too long ({length} bytes, limit is {limit})"
  | .lexical error =>
    (Diagnostic.new .lexical error.message).withPosition error.position
  | .grammatical error =>
    (Diagnostic.new .grammatical error.message).withPosition error.position
  | .unbound error => .new .binding s!"Unknown identifier: {error.name}"
  | .notADirection text => .new .grammatical s!"Invalid sort direction: {text}"

end DocFilter
