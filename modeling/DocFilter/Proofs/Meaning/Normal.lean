import DocFilter.Proofs.Grammar.Kept
import DocFilter.Proofs.Meaning.Interpretation
import Mathlib.Data.List.Basic

/-!
# The meaning of the normal form

An expression and its normal form stand for the same value.  Where the normal
form takes two opposite coercions off, this takes an interpretation in which
they cancel.  In an expression that is read no two opposite coercions stand on
top of each other, and then the interpretation does not matter: bringing parts
into normal form does not uncover a coercion either.
-/

namespace DocFilter

/-! ## Coercions that do not stack -/

mutual

/-- Nowhere in an expression for a JSON value do two opposite coercions stand
on top of each other. -/
def JsonExpr.IsUnstacked : JsonExpr → Prop
  | .name _ => True
  | .path object _ => object.IsUnstacked
  | .item object key => object.IsUnstacked ∧ key.IsUnstacked
  | .array elements => JsonExpr.AreUnstacked elements
  | .ofScalar value => (∀ inner, value ≠ .ofJson inner) ∧ value.IsUnstacked

/-- Nowhere in some expressions for JSON values do two opposite coercions
stand on top of each other. -/
def JsonExpr.AreUnstacked : List JsonExpr → Prop
  | [] => True
  | element :: others => element.IsUnstacked ∧ JsonExpr.AreUnstacked others

/-- Nowhere in an expression for a scalar do two opposite coercions stand on
top of each other. -/
def ScalarExpr.IsUnstacked : ScalarExpr → Prop
  | .literal _ => True
  | .matching _ subject pattern => subject.IsUnstacked ∧ pattern.IsUnstacked
  | .length object => object.IsUnstacked
  | .includes collection needle => collection.IsUnstacked ∧ needle.IsUnstacked
  | .quantified _ collection _ condition =>
    collection.IsUnstacked ∧ condition.IsUnstacked
  | .unary _ operand => operand.IsUnstacked
  | .binary _ left right => left.IsUnstacked ∧ right.IsUnstacked
  | .ofJson value => (∀ inner, value ≠ .ofScalar inner) ∧ value.IsUnstacked

end

theorem JsonExpr.areUnstacked_iff {elements : List JsonExpr} :
    JsonExpr.AreUnstacked elements ↔
      ∀ element ∈ elements, element.IsUnstacked := by
  induction elements with
  | nil => simp [JsonExpr.AreUnstacked]
  | cons element others ih =>
    rw [JsonExpr.AreUnstacked, ih, List.forall_mem_cons]

/-- A coercion is taken off where its opposite would stand on top of it. -/
theorem JsonExpr.IsUnstacked.asScalar {value : JsonExpr}
    (h : value.IsUnstacked) : value.asScalar.IsUnstacked := by
  cases value with
  | ofScalar inner => exact h.2
  | name | path | item | array => exact ⟨by simp, h⟩

/-- The rules of the grammar do not stack coercions. -/
theorem isKept_isUnstacked : Grammar.IsKept JsonExpr.IsUnstacked where
  literal _ := ⟨by simp, trivial⟩
  name _ := trivial
  array h := JsonExpr.areUnstacked_iff.mpr h
  matching _ _ _ hsubject hpattern :=
    ⟨by simp, hsubject.asScalar, hpattern.asScalar⟩
  path _ _ h := h
  length h := ⟨by simp, h⟩
  item hobject hkey := ⟨hobject, hkey.asScalar⟩
  includes hcollection hneedle := ⟨by simp, hcollection, hneedle.asScalar⟩
  quantified _ _ _ _ hcollection hcondition :=
    ⟨by simp, hcollection, hcondition.asScalar⟩
  unary _ _ h := ⟨by simp, h.asScalar⟩
  binary _ _ _ hleft hright := ⟨by simp, hleft.asScalar, hright.asScalar⟩

/-! ## Normal forms -/

/-- Steps never end in a coercion. -/
theorem JsonExpr.descend_ne_ofScalar
    (object : JsonExpr) (labels : List String) (inner : ScalarExpr) :
    object.descend labels ≠ .ofScalar inner := by
  cases object <;> simp [JsonExpr.descend]

/-- Only a coercion, which can take its opposite off, is replaced by what
stands in it. -/
theorem JsonExpr.normalize_ne_ofScalar
    {value : JsonExpr} (h : ∀ inner, value ≠ .ofScalar inner)
    (inner : ScalarExpr) : value.normalize ≠ .ofScalar inner := by
  cases value with
  | ofScalar value => exact absurd rfl (h value)
  | path object labels =>
    rw [JsonExpr.normalize]
    exact JsonExpr.descend_ne_ofScalar _ _ _
  | name | item | array => simp [JsonExpr.normalize]

theorem ScalarExpr.normalize_ne_ofJson
    {value : ScalarExpr} (h : ∀ inner, value ≠ .ofJson inner)
    (inner : JsonExpr) : value.normalize ≠ .ofJson inner := by
  cases value with
  | ofJson value => exact absurd rfl (h value)
  | _ => simp [ScalarExpr.normalize]

variable {meaning : Interpretation}

mutual

/-- The normal form stands for the same JSON value, if the coercions cancel or
none of them stands on top of its opposite. -/
theorem JsonExpr.denote_normalize_of
    (expr : JsonExpr) (h : meaning.CoercionsCancel ∨ expr.IsUnstacked)
    (values : String → meaning.Value) :
    expr.normalize.denote meaning values = expr.denote meaning values := by
  cases expr with
  | name text => rw [JsonExpr.normalize]
  | path object labels =>
    rw [JsonExpr.normalize, JsonExpr.denote_descend, JsonExpr.denote,
      object.denote_normalize_of h]
  | item object key =>
    rw [JsonExpr.normalize, JsonExpr.denote, JsonExpr.denote,
      object.denote_normalize_of (h.imp_right And.left),
      key.denote_normalize_of (h.imp_right And.right)]
  | array elements =>
    rw [JsonExpr.normalize, JsonExpr.denote, JsonExpr.denote,
      JsonExpr.denoteAll_normalizeAll_of elements h]
  | ofScalar value =>
    have hvalue := h.imp_right fun h => ScalarExpr.normalize_ne_ofJson h.1
    rw [JsonExpr.normalize, ScalarExpr.denote_asJson hvalue, JsonExpr.denote,
      value.denote_normalize_of (h.imp_right And.right)]

theorem JsonExpr.denoteAll_normalizeAll_of
    (elements : List JsonExpr)
    (h : meaning.CoercionsCancel ∨ JsonExpr.AreUnstacked elements)
    (values : String → meaning.Value) :
    JsonExpr.denoteAll meaning (JsonExpr.normalizeAll elements) values =
      JsonExpr.denoteAll meaning elements values := by
  cases elements with
  | nil => rw [JsonExpr.normalizeAll]
  | cons element others =>
    rw [JsonExpr.normalizeAll, JsonExpr.denoteAll, JsonExpr.denoteAll,
      element.denote_normalize_of (h.imp_right And.left),
      JsonExpr.denoteAll_normalizeAll_of others (h.imp_right And.right)]

/-- The normal form stands for the same scalar, if the coercions cancel or none
of them stands on top of its opposite. -/
theorem ScalarExpr.denote_normalize_of
    (expr : ScalarExpr) (h : meaning.CoercionsCancel ∨ expr.IsUnstacked)
    (values : String → meaning.Value) :
    expr.normalize.denote meaning values = expr.denote meaning values := by
  cases expr with
  | literal value => rw [ScalarExpr.normalize]
  | matching style subject pattern =>
    rw [ScalarExpr.normalize, ScalarExpr.denote, ScalarExpr.denote,
      subject.denote_normalize_of (h.imp_right And.left),
      pattern.denote_normalize_of (h.imp_right And.right)]
  | length object =>
    rw [ScalarExpr.normalize, ScalarExpr.denote, ScalarExpr.denote,
      object.denote_normalize_of h]
  | includes collection needle =>
    rw [ScalarExpr.normalize, ScalarExpr.denote, ScalarExpr.denote,
      collection.denote_normalize_of (h.imp_right And.left),
      needle.denote_normalize_of (h.imp_right And.right)]
  | quantified quantifier collection element condition =>
    have hcondition (value : meaning.Value) :=
      condition.denote_normalize_of (h.imp_right And.right)
        (Function.update values element value)
    rw [ScalarExpr.normalize, ScalarExpr.denote, ScalarExpr.denote,
      collection.denote_normalize_of (h.imp_right And.left), funext hcondition]
  | unary op operand =>
    rw [ScalarExpr.normalize, ScalarExpr.denote, ScalarExpr.denote,
      operand.denote_normalize_of h]
  | binary op left right =>
    rw [ScalarExpr.normalize, ScalarExpr.denote, ScalarExpr.denote,
      left.denote_normalize_of (h.imp_right And.left),
      right.denote_normalize_of (h.imp_right And.right)]
  | ofJson value =>
    have hvalue := h.imp_right fun h => JsonExpr.normalize_ne_ofScalar h.1
    rw [ScalarExpr.normalize, JsonExpr.denote_asScalar hvalue,
      ScalarExpr.denote,
      value.denote_normalize_of (h.imp_right And.right)]

end

/-- In every interpretation, an expression that is read from tokens or from a
text stands for the same value as its normal form, whatever the names are bound
to.  If the two coercions cancel, so does every expression of either sort. -/
theorem denote_normalize_eq (meaning : Interpretation) :
    (∀ (room : Nat) (stream rest : TokenStream) (expr : JsonExpr),
      Reading.complete room stream = .ok expr rest →
        ∀ values, expr.normalize.denote meaning values =
          expr.denote meaning values) ∧
    (∀ (text : String) (maxHeight : Nat) (expr : JsonExpr),
      readExpr text maxHeight = .ok expr →
        ∀ values, expr.normalize.denote meaning values =
          expr.denote meaning values) ∧
    (meaning.CoercionsCancel →
      (∀ (expr : JsonExpr) values, expr.normalize.denote meaning values =
        expr.denote meaning values) ∧
      ∀ (expr : ScalarExpr) values, expr.normalize.denote meaning values =
        expr.denote meaning values) := by
  refine ⟨?_, ?_, ?_⟩
  · intro room stream rest expr hread
    have hunstacked := isKept_isUnstacked.of_complete_eq_ok hread
    exact expr.denote_normalize_of (Or.inr hunstacked)
  · intro text maxHeight expr hread
    have hunstacked := isKept_isUnstacked.of_readExpr_eq_ok hread
    exact expr.denote_normalize_of (Or.inr hunstacked)
  · intro hcancel
    constructor
    · intro expr
      exact expr.denote_normalize_of (Or.inl hcancel)
    · intro expr
      exact expr.denote_normalize_of (Or.inl hcancel)

/-- Expressions stand for spellings of themselves.  How a coercion is spelled,
given its name and what it is applied to, is left open. -/
def Interpretation.spelling (coercion : String → String → String) :
    Interpretation where
  Json := String
  Scalar := String
  Value := String
  name := id
  property object label := object ++ "." ++ label
  item object key := object ++ "[" ++ key ++ "]"
  array elements := "[" ++ ",".intercalate elements ++ "]"
  ofScalar := coercion "json"
  literal _ := "?"
  matching style subject pattern :=
    style.name ++ "(" ++ subject ++ "," ++ pattern ++ ")"
  length object := object ++ ".length"
  includes collection needle := collection ++ ".includes(" ++ needle ++ ")"
  quantified quantifier collection condition :=
    collection ++ "." ++ quantifier.name ++ "(" ++ condition "element" ++ ")"
  unary op operand := op.sqlOpening ++ operand ++ ")"
  binary op left right := "(" ++ left ++ op.symbol ++ right ++ ")"
  ofJson := coercion "scalar"

/-- The meaning of `(_.a).b == 1` with coercions that do not cancel, and that
of two opposite coercions around a path, with coercions that do. -/
theorem denote_normalize_eq_spelling :
    let text := "(_.a).b == 1"
    let tokens : List PlacedToken :=
      [⟨0, .openParen⟩, ⟨1, .name "_"⟩, ⟨2, .dot⟩, ⟨3, .name "a"⟩,
        ⟨4, .closeParen⟩, ⟨5, .dot⟩, ⟨6, .name "b"⟩, ⟨8, .operator .equal⟩,
        ⟨11, .literal (.integer 1)⟩]
    let expr : JsonExpr :=
      .ofScalar (.binary .equal
        (.ofJson (.path (.path (.name "_") ["a"]) ["b"]))
        (.literal (.integer 1)))
    let spelled :=
      Interpretation.spelling fun name value => name ++ "(" ++ value ++ ")"
    let bare := Interpretation.spelling fun _ value => value
    let stacked : ScalarExpr :=
      .ofJson (.ofScalar (.ofJson (.path (.path (.name "_") ["a"]) ["b"])))
    Reading.complete 128 ⟨tokens, 12⟩ = .ok expr ⟨[], 12⟩ ∧
      readExpr text 128 = .ok expr ∧ bare.CoercionsCancel ∧
      expr.normalize.denote spelled id = expr.denote spelled id ∧
      expr.normalize.denote spelled (fun _ => "data") =
        expr.denote spelled (fun _ => "data") ∧
      (JsonExpr.ofScalar stacked).normalize.denote bare id =
        (JsonExpr.ofScalar stacked).denote bare id ∧
      stacked.normalize.denote bare id = stacked.denote bare id := by
  intro text tokens expr spelled bare stacked
  have hcomplete : Reading.complete 128 ⟨tokens, 12⟩ = .ok expr ⟨[], 12⟩ := rfl
  have htokens : tokenize text = .ok tokens := by decide +kernel
  have hread : readExpr text 128 = .ok expr := by
    unfold readExpr readTokens
    rw [htokens]
    rfl
  have hcancel : bare.CoercionsCancel := ⟨fun _ => rfl, fun _ => rfl⟩
  obtain ⟨htokens', htexts, -⟩ := denote_normalize_eq spelled
  obtain ⟨-, -, hall⟩ := denote_normalize_eq bare
  obtain ⟨hjson, hscalar⟩ := hall hcancel
  exact ⟨hcomplete, hread, hcancel,
    htokens' 128 ⟨tokens, 12⟩ ⟨[], 12⟩ expr hcomplete id,
    htexts text 128 expr hread (fun _ => "data"),
    hjson (.ofScalar stacked) id, hscalar stacked id⟩

end DocFilter
