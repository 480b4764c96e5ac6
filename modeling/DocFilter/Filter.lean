import DocFilter.Diagnostic
import DocFilter.Expr.Normal
import DocFilter.Expr.Reading

/-!
# Filters

From the text of a filter or an ordering to its tree and to its SQL.
-/

namespace DocFilter

/-- How an expression is compiled and how large it may be. -/
structure Options where
  /-- The column that holds the document, which is called `_` in
  expressions. -/
  documentColumn : String := "data"
  /-- The column that identifies the row, which is called `id` in
  expressions. -/
  rowColumn : String := "records.id"
  /-- The most bytes that an expression may have. -/
  maxLength : Option Nat := some 4096
  /-- The greatest height that an expression may have. -/
  maxHeight : Nat := 128
deriving DecidableEq

instance : Inhabited Options := ⟨{}⟩

/-- Runs a reader on the tokens of a text. -/
def readTokens {α : Type} (text : String) (reader : Reading α) :
    Except Failure α := do
  let tokens ← (tokenize text).mapError .lexical
  match reader.run ⟨tokens, Text.byteLength text.toList⟩ with
  | .ok value _ => .ok value
  | .error error _ => .error (.grammatical error)

/-- The tree of an expression as it is written. -/
def readExpr (text : String) (maxHeight : Nat) : Except Failure JsonExpr :=
  readTokens text (Reading.complete maxHeight)

/-- Refuses a text that is longer than the options allow. -/
def checkLength (text : String) (options : Options) : Except Failure Unit :=
  let length := Text.byteLength text.toList
  match options.maxLength with
  | none => .ok ()
  | some limit =>
    if limit < length then .error (.tooLong length limit) else .ok ()

/-- The normal form of an expression. -/
def parse (text : String) (options : Options) : Except Failure JsonExpr := do
  checkLength text options
  return (← readExpr text options.maxHeight).normalize

/-- The SQL of an expression. -/
def compile (text : String) (options : Options) : Except Failure Fragment := do
  let expr ← parse text options
  (expr.toSql (Scope.root options.documentColumn options.rowColumn)).mapError
    .unbound

end DocFilter
