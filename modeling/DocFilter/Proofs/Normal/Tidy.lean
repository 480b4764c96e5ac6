import DocFilter.Proofs.Grammar.Kept
import DocFilter.Proofs.Lexemes.Splitting
import DocFilter.Proofs.Syntax.Paths

/-!
# Tidy expressions

An expression is tidy if every path in it has steps, all of them with names for
labels, and if no coercion in it stands on top of its opposite.  An expression
that is read is tidy, because a step is read from a dot and a name.  Its normal
form is tidy too: paths are joined, and where a coercion is taken off, what is
uncovered is tidy already.
-/

namespace DocFilter

mutual

/-- An expression for a JSON value is tidy. -/
def JsonExpr.IsTidy : JsonExpr → Prop
  | .name _ => True
  | .path object labels =>
    object.IsTidy ∧ labels ≠ [] ∧ ∀ label ∈ labels, IsName label
  | .item object key => object.IsTidy ∧ key.IsTidy
  | .array elements => JsonExpr.AreTidy elements
  | .ofScalar value => (∀ inner, value ≠ .ofJson inner) ∧ value.IsTidy

/-- Some expressions for JSON values are tidy. -/
def JsonExpr.AreTidy : List JsonExpr → Prop
  | [] => True
  | element :: others => element.IsTidy ∧ JsonExpr.AreTidy others

/-- An expression for a scalar is tidy. -/
def ScalarExpr.IsTidy : ScalarExpr → Prop
  | .literal _ => True
  | .matching _ subject pattern => subject.IsTidy ∧ pattern.IsTidy
  | .length object => object.IsTidy
  | .includes collection needle => collection.IsTidy ∧ needle.IsTidy
  | .quantified _ collection _ condition =>
    collection.IsTidy ∧ condition.IsTidy
  | .unary _ operand => operand.IsTidy
  | .binary _ left right => left.IsTidy ∧ right.IsTidy
  | .ofJson value => (∀ inner, value ≠ .ofScalar inner) ∧ value.IsTidy

end

theorem JsonExpr.areTidy_iff {elements : List JsonExpr} :
    JsonExpr.AreTidy elements ↔ ∀ element ∈ elements, element.IsTidy := by
  induction elements with
  | nil => simp [JsonExpr.AreTidy]
  | cons element others ih =>
    rw [JsonExpr.AreTidy, ih, List.forall_mem_cons]

/-! ## Coercions and steps -/

theorem JsonExpr.IsTidy.asScalar {value : JsonExpr} (h : value.IsTidy) :
    value.asScalar.IsTidy := by
  cases value with
  | ofScalar inner => exact h.2
  | name | path | item | array => exact ⟨by simp, h⟩

theorem ScalarExpr.IsTidy.asJson {value : ScalarExpr} (h : value.IsTidy) :
    value.asJson.IsTidy := by
  cases value with
  | ofJson inner => exact h.2
  | _ => exact ⟨by simp, h⟩

theorem JsonExpr.IsTidy.descend {object : JsonExpr} (h : object.IsTidy)
    {labels : List String} (hne : labels ≠ [])
    (hlabels : ∀ label ∈ labels, IsName label) :
    (object.descend labels).IsTidy := by
  cases object with
  | path inner before =>
    obtain ⟨hinner, -, hbefore⟩ := h
    exact ⟨hinner, by simp [hne], List.forall_mem_append.mpr ⟨hbefore, hlabels⟩⟩
  | name | item | array | ofScalar => exact ⟨h, hne, hlabels⟩

/-! ## Normal forms -/

mutual

/-- The normal form of a tidy expression is tidy. -/
theorem JsonExpr.isTidy_normalize (expr : JsonExpr) (h : expr.IsTidy) :
    expr.normalize.IsTidy := by
  cases expr with
  | name text => exact trivial
  | path object labels =>
    exact (object.isTidy_normalize h.1).descend h.2.1 h.2.2
  | item object key =>
    exact ⟨object.isTidy_normalize h.1, key.isTidy_normalize h.2⟩
  | array elements => exact JsonExpr.areTidy_normalizeAll elements h
  | ofScalar value => exact (value.isTidy_normalize h.2).asJson

theorem JsonExpr.areTidy_normalizeAll (elements : List JsonExpr)
    (h : JsonExpr.AreTidy elements) :
    JsonExpr.AreTidy (JsonExpr.normalizeAll elements) := by
  cases elements with
  | nil => exact trivial
  | cons element others =>
    exact ⟨element.isTidy_normalize h.1,
      JsonExpr.areTidy_normalizeAll others h.2⟩

/-- The normal form of a tidy expression is tidy. -/
theorem ScalarExpr.isTidy_normalize (expr : ScalarExpr) (h : expr.IsTidy) :
    expr.normalize.IsTidy := by
  cases expr with
  | literal value => exact trivial
  | matching style subject pattern =>
    exact ⟨subject.isTidy_normalize h.1, pattern.isTidy_normalize h.2⟩
  | length object => exact object.isTidy_normalize h
  | includes collection needle =>
    exact ⟨collection.isTidy_normalize h.1,
      needle.isTidy_normalize h.2⟩
  | quantified quantifier collection element condition =>
    exact ⟨collection.isTidy_normalize h.1,
      condition.isTidy_normalize h.2⟩
  | unary op operand => exact operand.isTidy_normalize h
  | binary op left right =>
    exact ⟨left.isTidy_normalize h.1, right.isTidy_normalize h.2⟩
  | ofJson value => exact (value.isTidy_normalize h.2).asScalar

end

/-! ## Expressions that are read -/

/-- The rules of the grammar make tidy trees, if the labels of steps are
names. -/
theorem isKeptAmong_isTidy : Grammar.IsKeptAmong IsName JsonExpr.IsTidy where
  literal _ := ⟨by simp, trivial⟩
  name _ := trivial
  array h := JsonExpr.areTidy_iff.mpr h
  matching _ _ _ hsubject hpattern :=
    ⟨by simp, hsubject.asScalar, hpattern.asScalar⟩
  path hlabel _ h := ⟨h, by simp, by simpa using hlabel⟩
  length h := ⟨by simp, h⟩
  item hobject hkey := ⟨hobject, hkey.asScalar⟩
  includes hcollection hneedle := ⟨by simp, hcollection, hneedle.asScalar⟩
  quantified _ _ _ _ hcollection hcondition :=
    ⟨by simp, hcollection, hcondition.asScalar⟩
  unary _ _ h := ⟨by simp, h.asScalar⟩
  binary _ _ _ hleft hright := ⟨by simp, hleft.asScalar, hright.asScalar⟩

/-- The names among the tokens of a text are spelled as names. -/
theorem AreTokens.namesAre {offset : Nat} {cs : List Char}
    {tokens : List PlacedToken} (h : AreTokens offset cs tokens) :
    Grammar.NamesAre IsName (tokens.map PlacedToken.token) := by
  rw [Grammar.NamesAre, List.forall_mem_map]
  intro placed hplaced text htext
  obtain ⟨written, rest, hlexeme⟩ := h.exists_isLexeme placed hplaced
  rw [htext] at hlexeme
  exact hlexeme.isName

/-- An expression that is read from a text is tidy. -/
theorem JsonExpr.isTidy_of_readExpr_eq_ok {text : String} {maxHeight : Nat}
    {expr : JsonExpr} (h : readExpr text maxHeight = .ok expr) :
    expr.IsTidy := by
  obtain ⟨tokens, rest, htokens, hread⟩ :=
    Grammar.exists_tokens_of_readExpr_eq_ok h
  have hnames := (tokenize_eq_ok_iff.mp htokens).namesAre
  exact isKeptAmong_isTidy.of_complete_eq_ok hnames hread

end DocFilter
