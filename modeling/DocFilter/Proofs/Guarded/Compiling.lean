import DocFilter.Filter
import DocFilter.Proofs.Guarded.Reading
import DocFilter.Proofs.Guarded.Scanning
import DocFilter.Proofs.Lexemes.Splitting

/-!
# No defect is reached

Parsing and compiling, put together from the bytewise scanner and the reader
with counters.  A defect of either would be reported with the internal kind.
Neither ever happens: both end like the plain functions, and a report has a
position where its kind asks for one, at a place that exists in the text.
-/

namespace DocFilter

variable {α β : Type}

namespace Guarded

/-- The tree of an expression as it is written. -/
def readExpr (text : String) (maxHeight : Nat) :
    Except (Halt Failure) JsonExpr := do
  let tokens ← (Bytewise.tokenize text).mapError (Halt.map .lexical)
  let stream : TokenStream := ⟨tokens, Text.byteLength text.toList⟩
  match (Counting.complete maxHeight).run (Count.start stream) with
  | .ok expr _ => .ok expr
  | .error halt _ => .error (halt.map .grammatical)

/-- The normal form of an expression. -/
def parse (text : String) (options : Options) :
    Except (Halt Failure) JsonExpr := do
  (checkLength text options).mapError .fault
  return (← readExpr text options.maxHeight).normalize

/-- The SQL of an expression. -/
def compile (text : String) (options : Options) :
    Except (Halt Failure) Fragment := do
  let expr ← parse text options
  (expr.toSql (Scope.root options.documentColumn options.rowColumn)).mapError
    fun error => .fault (.unbound error)

/-- What the author of an expression is told. -/
def report : Except (Halt Failure) α → Except Diagnostic α
  | .ok value => .ok value
  | .error (.fault failure) => .error failure.diagnostic
  | .error .defect => .error .defect

/-! ## Guarded and plain functions agree -/

theorem mapError_bind {ε ε' : Type} (f : ε → ε') (result : Except ε α)
    (next : α → Except ε β) :
    (result >>= next).mapError f =
      result.mapError f >>= fun value => (next value).mapError f := by
  cases result <;> rfl

theorem readExpr_eq (text : String) (maxHeight : Nat) :
    readExpr text maxHeight =
      (DocFilter.readExpr text maxHeight).mapError .fault := by
  unfold readExpr DocFilter.readExpr readTokens
  rw [(Bytewise.tokenize_eq text).1]
  cases tokenize text with
  | error error => rfl
  | ok tokens =>
    have hfollows := complete_follows maxHeight
      ⟨tokens, Text.byteLength text.toList⟩
    simp only [Except.mapError, bind, Except.bind, EStateM.run]
    cases hread : Reading.complete maxHeight
      ⟨tokens, Text.byteLength text.toList⟩ with
    | ok expr rest =>
      rw [hread] at hfollows
      obtain ⟨expr', count, hcount, rfl, -, -⟩ := hfollows.exists_ok
      rw [hcount]
    | error error rest =>
      rw [hread] at hfollows
      obtain ⟨-, count, hcount⟩ := hfollows.exists_error
      rw [hcount]
      rfl

theorem parse_eq (text : String) (options : Options) :
    parse text options = (DocFilter.parse text options).mapError .fault := by
  unfold parse DocFilter.parse
  rw [mapError_bind, readExpr_eq]
  congr 1
  funext _
  rw [mapError_bind]
  rfl

theorem compile_eq (text : String) (options : Options) :
    compile text options = (DocFilter.compile text options).mapError .fault := by
  unfold compile DocFilter.compile
  rw [mapError_bind, parse_eq]
  congr 1
  funext expr
  cases expr.toSql (Scope.root options.documentColumn options.rowColumn) <;> rfl

theorem report_mapError_fault (result : Except Failure α) :
    report (result.mapError .fault) = result.mapError Failure.diagnostic := by
  cases result <;> rfl

end Guarded

/-! ## Failures and the text -/

/-- The options do not allow a text of this length. -/
def IsTooLong (text : String) (options : Options) : Prop :=
  ∃ limit, options.maxLength = some limit ∧
    limit < Text.byteLength text.toList

/-- The failure is one of the text: the text is too long for the options, or
the failure stands at a place in it. -/
inductive Failure.IsOf (text : String) (options : Options) : Failure → Prop
  | tooLong {limit : Nat} (hlimit : options.maxLength = some limit)
    (h : limit < Text.byteLength text.toList) :
    IsOf text options (.tooLong (Text.byteLength text.toList) limit)
  | lexical {error : LexicalError} (h : IsInside text.toList error.position) :
    IsOf text options (.lexical error)
  | grammatical {error : SyntaxError} {tokens : List PlacedToken}
    (htokens : tokenize text = .ok tokens)
    (h : error.position ∈ tokens.map PlacedToken.offset ∨
      error.position = Text.byteLength text.toList) :
    IsOf text options (.grammatical error)
  | unbound (error : UnboundName) : IsOf text options (.unbound error)

variable {text : String} {options : Options} {failure : Failure}

theorem isOf_of_readExpr_eq_error {maxHeight : Nat}
    (h : readExpr text maxHeight = .error failure) :
    failure.IsOf text options := by
  unfold readExpr readTokens at h
  cases htokens : tokenize text with
  | error error =>
    rw [htokens] at h
    cases h
    exact .lexical ((Bytewise.tokenize_eq text).2 error htokens)
  | ok tokens =>
    have hfollows := complete_follows maxHeight
      ⟨tokens, Text.byteLength text.toList⟩
    simp only [htokens, Except.mapError, bind, Except.bind, EStateM.run] at h
    cases hread : Reading.complete maxHeight
      ⟨tokens, Text.byteLength text.toList⟩ with
    | ok expr rest =>
      rw [hread] at h
      cases h
    | error error rest =>
      rw [hread] at h hfollows
      cases h
      exact .grammatical htokens hfollows.exists_error.1

theorem checkLength_of_isTooLong (h : IsTooLong text options) :
    ∃ failure : Failure, failure.IsOf text options ∧
      failure.diagnostic.kind = .limit ∧
        checkLength text options = .error failure := by
  obtain ⟨limit, hlimit, hlong⟩ := h
  refine ⟨_, .tooLong hlimit hlong, rfl, ?_⟩
  unfold checkLength
  rw [hlimit]
  exact if_pos hlong

theorem checkLength_of_not_isTooLong (h : ¬IsTooLong text options) :
    checkLength text options = .ok () := by
  unfold checkLength
  cases hlimit : options.maxLength with
  | none => rfl
  | some limit => exact if_neg fun hlong => h ⟨limit, hlimit, hlong⟩

/-- The length is checked first. -/
theorem parse_of_isTooLong (h : IsTooLong text options) :
    ∃ failure : Failure, failure.diagnostic.kind = .limit ∧
      parse text options = .error failure := by
  obtain ⟨failure, -, hkind, hcheck⟩ := checkLength_of_isTooLong h
  refine ⟨failure, hkind, ?_⟩
  unfold parse
  rw [hcheck]
  rfl

theorem isOf_of_parse_eq_error (h : parse text options = .error failure) :
    failure.IsOf text options := by
  unfold parse at h
  by_cases hlong : IsTooLong text options
  · obtain ⟨failure', hof, -, hcheck⟩ := checkLength_of_isTooLong hlong
    rw [hcheck] at h
    cases h
    exact hof
  · rw [checkLength_of_not_isTooLong hlong] at h
    cases hread : readExpr text options.maxHeight with
    | ok expr =>
      rw [hread] at h
      cases h
    | error failure' =>
      rw [hread] at h
      cases h
      exact isOf_of_readExpr_eq_error hread

theorem compile_of_isTooLong (h : IsTooLong text options) :
    ∃ failure : Failure, failure.diagnostic.kind = .limit ∧
      compile text options = .error failure := by
  obtain ⟨failure, hkind, hparse⟩ := parse_of_isTooLong h
  refine ⟨failure, hkind, ?_⟩
  unfold compile
  rw [hparse]
  rfl

theorem isOf_of_compile_eq_error (h : compile text options = .error failure) :
    failure.IsOf text options := by
  unfold compile at h
  cases hparse : parse text options with
  | error failure' =>
    rw [hparse] at h
    cases h
    exact isOf_of_parse_eq_error hparse
  | ok expr =>
    simp only [hparse, bind, Except.bind] at h
    cases hsql : expr.toSql
      (Scope.root options.documentColumn options.rowColumn) with
    | ok fragment =>
      rw [hsql] at h
      cases h
    | error error =>
      rw [hsql] at h
      cases h
      exact .unbound error

/-! ## Reports -/

/-- What the author of an expression can be told: never that there is a defect,
that the text is too long just when it is, and a place in the text wherever
something is wrong with its characters or with its tokens. -/
structure IsSoundReport (text : String) (options : Options)
    (result : Except Diagnostic α) : Prop where
  not_internal : ∀ diagnostic, result = .error diagnostic →
    diagnostic.kind ≠ .internal
  limit_iff : (∃ diagnostic, result = .error diagnostic ∧
    diagnostic.kind = .limit) ↔ IsTooLong text options
  limit : ∀ diagnostic, result = .error diagnostic →
    diagnostic.kind = .limit → diagnostic.position? = none
  lexical : ∀ diagnostic, result = .error diagnostic →
    diagnostic.kind = .lexical → ∃ position,
      diagnostic.position? = some position ∧ IsBoundary text.toList position ∧
        position < Text.byteLength text.toList
  grammatical : ∀ diagnostic, result = .error diagnostic →
    diagnostic.kind = .grammatical → ∃ position tokens,
      diagnostic.position? = some position ∧ tokenize text = .ok tokens ∧
        (position ∈ tokens.map PlacedToken.offset ∨
          position = Text.byteLength text.toList)
  binding : ∀ diagnostic, result = .error diagnostic →
    diagnostic.kind = .binding → diagnostic.position? = none

theorem IsInside.isBoundary {cs : List Char} {position : Nat}
    (h : IsInside cs position) :
    IsBoundary cs position ∧ position < Text.byteLength cs := by
  obtain ⟨before, c, after, hcs, rfl⟩ := h
  refine ⟨⟨before, c :: after, hcs, rfl⟩, ?_⟩
  rw [hcs, Text.byteLength_append]
  exact Nat.lt_add_of_pos_right (Nat.add_pos_left c.utf8Size_pos _)

/-- A report is sound if all failures are of the text, and if a text that is
too long is refused for this reason. -/
theorem isSoundReport_mapError {result : Except Failure α}
    (hof : ∀ failure, result = .error failure → failure.IsOf text options)
    (hlong : IsTooLong text options → ∃ failure : Failure,
      failure.diagnostic.kind = .limit ∧ result = .error failure) :
    IsSoundReport text options (result.mapError Failure.diagnostic) := by
  have hfailure {diagnostic : Diagnostic}
      (h : result.mapError Failure.diagnostic = .error diagnostic) :
      ∃ failure : Failure, failure.IsOf text options ∧
        failure.diagnostic = diagnostic := by
    cases hresult : result with
    | ok value =>
      rw [hresult] at h
      cases h
    | error failure =>
      rw [hresult] at h
      cases h
      exact ⟨failure, hof failure hresult, rfl⟩
  constructor
  case not_internal =>
    intro diagnostic h
    obtain ⟨failure, hfailure, rfl⟩ := hfailure h
    cases hfailure <;> exact fun hkind => nomatch hkind
  case limit_iff =>
    constructor
    · rintro ⟨diagnostic, h, hkind⟩
      obtain ⟨failure, hfailure, rfl⟩ := hfailure h
      cases hfailure with
      | tooLong hlimit hlong => exact ⟨_, hlimit, hlong⟩
      | _ => cases hkind
    · intro htooLong
      obtain ⟨failure, hkind, hresult⟩ := hlong htooLong
      exact ⟨failure.diagnostic, by rw [hresult]; rfl, hkind⟩
  case limit =>
    intro diagnostic h hkind
    obtain ⟨failure, hfailure, rfl⟩ := hfailure h
    cases hfailure with
    | tooLong => rfl
    | _ => cases hkind
  case lexical =>
    intro diagnostic h hkind
    obtain ⟨failure, hfailure, rfl⟩ := hfailure h
    cases hfailure with
    | lexical hinside => exact ⟨_, rfl, hinside.isBoundary⟩
    | _ => cases hkind
  case grammatical =>
    intro diagnostic h hkind
    obtain ⟨failure, hfailure, rfl⟩ := hfailure h
    cases hfailure with
    | grammatical htokens hposition => exact ⟨_, _, rfl, htokens, hposition⟩
    | _ => cases hkind
  case binding =>
    intro diagnostic h hkind
    obtain ⟨failure, hfailure, rfl⟩ := hfailure h
    cases hfailure with
    | unbound => rfl
    | _ => cases hkind

/-- For every text and all options, parsing and compiling with every operation
guarded end like parsing and compiling, and what they report is sound. -/
theorem guarded_isSoundReport (text : String) (options : Options) :
    (Guarded.parse text options = (parse text options).mapError .fault ∧
      IsSoundReport text options
        (Guarded.report (Guarded.parse text options))) ∧
      Guarded.compile text options =
        (compile text options).mapError .fault ∧
      IsSoundReport text options
        (Guarded.report (Guarded.compile text options)) := by
  have hparse := Guarded.parse_eq text options
  have hcompile := Guarded.compile_eq text options
  refine ⟨⟨hparse, ?_⟩, hcompile, ?_⟩
  · rw [hparse, Guarded.report_mapError_fault]
    exact isSoundReport_mapError (fun _ => isOf_of_parse_eq_error)
      parse_of_isTooLong
  · rw [hcompile, Guarded.report_mapError_fault]
    exact isSoundReport_mapError (fun _ => isOf_of_compile_eq_error)
      compile_of_isTooLong

end DocFilter
