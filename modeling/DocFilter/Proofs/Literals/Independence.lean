import DocFilter.Filter
import DocFilter.Proofs.Literals.Reading
import Mathlib.Data.List.Forall2

/-!
# The text of the SQL does not depend on the literals

Two token lists are alike when they differ in the values of literals only.
Whatever the limits and the columns are, two lists that are alike become SQL
with the same text and as many parameters, or fail with the same error.

The proof replaces every literal of both lists by one and the same.  This
makes the lists equal, and by the commutations of reading, normalizing and
emitting it changes nothing but the parameters.
-/

namespace DocFilter

/-- The SQL of a list of tokens, or what is wrong with it. -/
def compileTokens
    (stream : TokenStream) (maxHeight : Nat)
    (documentColumn rowColumn : String) :
    Except Failure Fragment :=
  match (Reading.complete maxHeight).run stream with
  | .ok expr _ =>
    (expr.normalize.toSql (Scope.root documentColumn rowColumn)).mapError
      .unbound
  | .error error _ => .error (.grammatical error)

/-- A text is compiled by splitting it into tokens and compiling these. -/
theorem compile_eq_compileTokens (text : String) (options : Options) :
    compile text options = (do
      checkLength text options
      let tokens ← (tokenize text).mapError .lexical
      compileTokens ⟨tokens, Text.byteLength text.toList⟩ options.maxHeight
        options.documentColumn options.rowColumn) := by
  unfold compile parse readExpr readTokens compileTokens
  cases checkLength text options with
  | error failure => rfl
  | ok checked =>
    cases (tokenize text).mapError Failure.lexical with
    | error failure => rfl
    | ok tokens =>
      simp only [bind, Except.bind, pure, Except.pure]
      cases (Reading.complete options.maxHeight).run
        ⟨tokens, Text.byteLength text.toList⟩ <;> rfl

/-- Tokens that are compiled have a tree, and its normal form is what is
emitted. -/
theorem compileTokens_eq_ok
    {stream : TokenStream} {maxHeight : Nat} {documentColumn rowColumn : String}
    {fragment : Fragment}
    (h : compileTokens stream maxHeight documentColumn rowColumn =
      .ok fragment) :
    ∃ expr rest, Reading.complete maxHeight stream = .ok expr rest ∧
      expr.normalize.toSql (Scope.root documentColumn rowColumn) =
        .ok fragment := by
  unfold compileTokens at h
  cases hread : (Reading.complete maxHeight).run stream with
  | error error rest =>
    rw [hread] at h
    cases h
  | ok expr rest =>
    rw [hread] at h
    refine ⟨expr, rest, hread, ?_⟩
    cases hemit : expr.normalize.toSql
      (Scope.root documentColumn rowColumn) with
    | error unbound =>
      simp only [hemit, Except.mapError] at h
      cases h
    | ok emitted =>
      simp only [hemit, Except.mapError, Except.ok.injEq] at h
      rw [h]

/-- The text behind a fragment has tokens, and the fragment is what they are
compiled to. -/
theorem compile_eq_ok
    {text : String} {options : Options} {fragment : Fragment}
    (h : compile text options = .ok fragment) :
    ∃ tokens, tokenize text = .ok tokens ∧
      compileTokens ⟨tokens,
        Text.byteLength text.toList⟩ options.maxHeight options.documentColumn
        options.rowColumn = .ok fragment := by
  rw [compile_eq_compileTokens] at h
  cases hlength : checkLength text options with
  | error failure =>
    rw [hlength] at h
    cases h
  | ok checked =>
    cases htokens : tokenize text with
    | error error =>
      rw [hlength, htokens] at h
      cases h
    | ok tokens =>
      rw [hlength, htokens] at h
      exact ⟨tokens, rfl, h⟩

/-- A text that is compiled is read, and its SQL is that of the normal form of
its tree. -/
theorem exists_tree_of_compile_eq_ok {text : String} {options : Options}
    {fragment : Fragment} (h : compile text options = .ok fragment) :
    ∃ tree, readExpr text options.maxHeight = .ok tree ∧
      parse text options = .ok tree.normalize ∧
      tree.normalize.toSql
        (Scope.root options.documentColumn options.rowColumn) =
          .ok fragment := by
  unfold compile at h
  unfold parse at h ⊢
  cases hlength : checkLength text options with
  | error failure =>
    rw [hlength] at h
    cases h
  | ok checked =>
    cases hread : readExpr text options.maxHeight with
    | error failure =>
      rw [hlength, hread] at h
      cases h
    | ok tree =>
      simp only [hlength, hread, bind, Except.bind, pure, Except.pure] at h
      refine ⟨tree, rfl, rfl, ?_⟩
      cases hemit : tree.normalize.toSql
        (Scope.root options.documentColumn options.rowColumn) with
      | error unbound =>
        rw [hemit] at h
        cases h
      | ok emitted =>
        rw [hemit] at h
        cases h
        rfl

/-- Compiling tokens commutes with the replacement of literals. -/
theorem compileTokens_mapLiterals
    (f : Literal → Literal) (stream : TokenStream) (maxHeight : Nat)
    (documentColumn rowColumn : String) :
    compileTokens (stream.mapLiterals f) maxHeight documentColumn rowColumn =
      (compileTokens stream maxHeight documentColumn rowColumn).map
        (Fragment.mapParams f) := by
  have hread : (Reading.complete maxHeight).run (stream.mapLiterals f) =
      Reading.mapResult f (JsonExpr.mapLiterals f)
        ((Reading.complete maxHeight).run stream) :=
    Reading.Carries.complete maxHeight stream
  unfold compileTokens
  rw [hread]
  cases (Reading.complete maxHeight).run stream with
  | error error rest => rfl
  | ok expr rest =>
    change ((expr.mapLiterals f).normalize.toSql _).mapError Failure.unbound =
      ((expr.normalize.toSql _).mapError Failure.unbound).map _
    rw [JsonExpr.normalize_mapLiterals, JsonExpr.toSql_mapLiterals]
    cases expr.normalize.toSql (Scope.root documentColumn rowColumn) <;> rfl

/-- Two tokens that differ in the value of a literal at most. -/
def Token.Alike (first second : Token) : Prop :=
  first = second ∨ ∃ value value',
    first = .literal value ∧ second = .literal value'

/-- Two tokens at the same place that differ in the value of a literal at
most. -/
def PlacedToken.Alike (first second : PlacedToken) : Prop :=
  first.offset = second.offset ∧ first.token.Alike second.token

theorem PlacedToken.Alike.mapLiteral_const_eq
    {first second : PlacedToken} (h : first.Alike second) (blank : Literal) :
    first.mapLiteral (fun _ => blank) = second.mapLiteral (fun _ => blank) := by
  obtain ⟨offset, token⟩ := first
  obtain ⟨offset', token'⟩ := second
  obtain ⟨hoffset, htoken⟩ := h
  rcases htoken with htoken | ⟨value, value', hvalue, hvalue'⟩
  · simp only at hoffset htoken
    rw [hoffset, htoken]
  · simp only at hoffset hvalue hvalue'
    rw [hoffset, hvalue, hvalue']
    rfl

theorem map_mapLiteral_const_eq
    {first second : List PlacedToken}
    (h : List.Forall₂ PlacedToken.Alike first second) (blank : Literal) :
    first.map (PlacedToken.mapLiteral fun _ => blank) =
      second.map (PlacedToken.mapLiteral fun _ => blank) := by
  induction h with
  | nil => rfl
  | cons hhead _ ih =>
    rw [List.map_cons, List.map_cons, hhead.mapLiteral_const_eq blank, ih]

/-- Two results with the same image under a map of parameters have the same
text and as many parameters, or are the same failure. -/
theorem sql_eq_of_map_mapParams_eq
    {f : Literal → Literal} {first second : Except Failure Fragment}
    (h : first.map (Fragment.mapParams f) = second.map (Fragment.mapParams f)) :
    (∃ failure, first = .error failure ∧ second = .error failure) ∨
      ∃ fragment fragment', first = .ok fragment ∧ second = .ok fragment' ∧
        fragment.sql = fragment'.sql ∧
          fragment.params.length = fragment'.params.length := by
  cases first with
  | error failure =>
    cases second with
    | error failure' => exact Or.inl ⟨failure, rfl, h.symm⟩
    | ok fragment' => cases h
  | ok fragment =>
    cases second with
    | error failure' => cases h
    | ok fragment' =>
      have hfragment : fragment.mapParams f = fragment'.mapParams f :=
        Except.ok.inj h
      have hsql := congrArg Fragment.sql hfragment
      have hparams := congrArg (fun image => image.params.length) hfragment
      simp only [Fragment.mapParams, List.length_map] at hsql hparams
      exact Or.inr ⟨fragment, fragment', rfl, rfl, hsql, hparams⟩

/-- Token lists that are alike become SQL with the same text and as many
parameters, or fail with the same failure, which fixes the kind, the message
and the position of the diagnostic. -/
theorem compileTokens_eq_of_alike
    {first second : List PlacedToken}
    (h : List.Forall₂ PlacedToken.Alike first second) (stop maxHeight : Nat)
    (documentColumn rowColumn : String) :
    (∃ failure,
      compileTokens ⟨first, stop⟩ maxHeight documentColumn rowColumn =
        .error failure ∧
        compileTokens ⟨second, stop⟩ maxHeight documentColumn rowColumn =
          .error failure) ∨
      ∃ fragment fragment',
        compileTokens ⟨first, stop⟩ maxHeight documentColumn rowColumn =
          .ok fragment ∧
          compileTokens ⟨second, stop⟩ maxHeight documentColumn rowColumn =
            .ok fragment' ∧
          fragment.sql = fragment'.sql ∧
            fragment.params.length = fragment'.params.length := by
  let blank : Literal := .integer 0
  apply sql_eq_of_map_mapParams_eq (f := fun _ => blank)
  rw [← compileTokens_mapLiterals, ← compileTokens_mapLiterals]
  unfold TokenStream.mapLiterals
  rw [map_mapLiteral_const_eq h blank]

/-- The tokens of `_ == "a"` and of `_ == 1`. -/
theorem compileTokens_eq_of_alike_comparison :
    let start : List PlacedToken := [⟨0, .name "_"⟩, ⟨2, .operator .equal⟩]
    let first := start ++ [⟨5, .literal (.text "a")⟩]
    let second := start ++ [⟨5, .literal (.integer 1)⟩]
    List.Forall₂ PlacedToken.Alike first second ∧
      ((∃ failure, compileTokens ⟨first, 8⟩ 128 "data" "records.id" =
        .error failure ∧
        compileTokens ⟨second, 8⟩ 128 "data" "records.id" = .error failure) ∨
        ∃ fragment fragment',
          compileTokens ⟨first, 8⟩ 128 "data" "records.id" = .ok fragment ∧
          compileTokens ⟨second, 8⟩ 128 "data" "records.id" = .ok fragment' ∧
          fragment.sql = fragment'.sql ∧
            fragment.params.length = fragment'.params.length) := by
  intro start first second
  have halike : List.Forall₂ PlacedToken.Alike first second :=
    .cons ⟨rfl, Or.inl rfl⟩ (.cons ⟨rfl, Or.inl rfl⟩
      (.cons ⟨rfl, Or.inr ⟨.text "a", .integer 1, rfl, rfl⟩⟩ .nil))
  exact ⟨halike, compileTokens_eq_of_alike halike 8 128 "data" "records.id"⟩

end DocFilter
