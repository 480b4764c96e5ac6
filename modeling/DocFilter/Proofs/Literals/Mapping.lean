import DocFilter.Expr.Normal
import DocFilter.Expr.Reading
import DocFilter.Sql.Emit

/-!
# Replacing literals

A function on literals can be applied to every literal of a token list, of an
expression or of the parameters of a fragment.  This file defines these maps,
and shows that building, normalizing and emitting expressions commute with
them.  The text of a fragment has no literals in it, so the map of a fragment
keeps the text.
-/

namespace DocFilter

/-! ## Tokens -/

/-- A token with its literal replaced, if it is one. -/
def Token.mapLiteral (f : Literal → Literal) : Token → Token
  | .literal value => .literal (f value)
  | token => token

/-- A placed token with its literal replaced. -/
def PlacedToken.mapLiteral (f : Literal → Literal) (placed : PlacedToken) :
    PlacedToken :=
  ⟨placed.offset, placed.token.mapLiteral f⟩

/-- A stream with all its literals replaced. -/
def TokenStream.mapLiterals (f : Literal → Literal) (stream : TokenStream) :
    TokenStream :=
  ⟨stream.tokens.map (PlacedToken.mapLiteral f), stream.stop⟩

/-! ## Expressions -/

mutual

/-- An expression for a JSON value with all its literals replaced. -/
def JsonExpr.mapLiterals (f : Literal → Literal) : JsonExpr → JsonExpr
  | .name text => .name text
  | .path object labels => .path (object.mapLiterals f) labels
  | .item object key => .item (object.mapLiterals f) (key.mapLiterals f)
  | .array elements => .array (JsonExpr.mapLiteralsAll f elements)
  | .ofScalar value => .ofScalar (value.mapLiterals f)

/-- Some expressions for JSON values with all their literals replaced. -/
def JsonExpr.mapLiteralsAll (f : Literal → Literal) :
    List JsonExpr → List JsonExpr
  | [] => []
  | element :: others =>
    element.mapLiterals f :: JsonExpr.mapLiteralsAll f others

/-- An expression for a scalar with all its literals replaced. -/
def ScalarExpr.mapLiterals (f : Literal → Literal) : ScalarExpr → ScalarExpr
  | .literal value => .literal (f value)
  | .matching style subject pattern =>
    .matching style (subject.mapLiterals f) (pattern.mapLiterals f)
  | .length object => .length (object.mapLiterals f)
  | .includes collection needle =>
    .includes (collection.mapLiterals f) (needle.mapLiterals f)
  | .quantified quantifier collection element condition =>
    .quantified quantifier (collection.mapLiterals f) element
      (condition.mapLiterals f)
  | .unary op operand => .unary op (operand.mapLiterals f)
  | .binary op left right =>
    .binary op (left.mapLiterals f) (right.mapLiterals f)
  | .ofJson value => .ofJson (value.mapLiterals f)

end

/-- An operand with all its literals replaced. -/
def Operand.mapLiterals (f : Literal → Literal) (operand : Operand) : Operand :=
  ⟨operand.expr.mapLiterals f, operand.height⟩

/-- An argument with all its literals replaced. -/
def Argument.mapLiterals (f : Literal → Literal) : Argument → Argument
  | .plain body => .plain (body.mapLiterals f)
  | .arrow element body => .arrow element (body.mapLiterals f)

/-- A fragment with all its parameters replaced. -/
def Fragment.mapParams (f : Literal → Literal) (fragment : Fragment) :
    Fragment :=
  ⟨fragment.sql, fragment.params.map f⟩

section

variable (f : Literal → Literal)

theorem JsonExpr.mapLiteralsAll_eq_map
    (elements : List JsonExpr) :
    JsonExpr.mapLiteralsAll f elements =
      elements.map (JsonExpr.mapLiterals f) := by
  induction elements with
  | nil => rfl
  | cons element others ih => rw [JsonExpr.mapLiteralsAll, ih, List.map_cons]

@[simp] theorem Argument.height_mapLiterals (argument : Argument) :
    (argument.mapLiterals f).height = argument.height := by
  cases argument <;> rfl

@[simp] theorem Argument.map_height_mapLiterals (arguments : List Argument) :
    (arguments.map (Argument.mapLiterals f)).map Argument.height =
      arguments.map Argument.height := by
  rw [List.map_map]
  exact List.map_congr_left fun argument _ =>
    Argument.height_mapLiterals f argument

/-! ## Coercions and normal forms -/

theorem ScalarExpr.asJson_mapLiterals (value : ScalarExpr) :
    (value.mapLiterals f).asJson = value.asJson.mapLiterals f := by
  cases value <;> simp only [ScalarExpr.mapLiterals, ScalarExpr.asJson,
    JsonExpr.mapLiterals]

theorem JsonExpr.asScalar_mapLiterals (value : JsonExpr) :
    (value.mapLiterals f).asScalar = value.asScalar.mapLiterals f := by
  cases value <;> simp only [JsonExpr.mapLiterals, JsonExpr.asScalar,
    ScalarExpr.mapLiterals]

theorem JsonExpr.descend_mapLiterals
    (object : JsonExpr) (labels : List String) :
    (object.mapLiterals f).descend labels =
    (object.descend labels).mapLiterals f := by
  cases object <;> simp only [JsonExpr.mapLiterals, JsonExpr.descend]

mutual

/-- The normal form does not depend on the literals. -/
theorem JsonExpr.normalize_mapLiterals :
    ∀ expr : JsonExpr, (expr.mapLiterals f).normalize =
      expr.normalize.mapLiterals f
  | .name _ => rfl
  | .path object labels => by
    have hobject := JsonExpr.normalize_mapLiterals object
    simp only [JsonExpr.mapLiterals, JsonExpr.normalize]
    rw [hobject, JsonExpr.descend_mapLiterals]
  | .item object key => by
    have hobject := JsonExpr.normalize_mapLiterals object
    have hkey := ScalarExpr.normalize_mapLiterals key
    simp only [JsonExpr.mapLiterals, JsonExpr.normalize, hobject, hkey]
  | .array elements => by
    have helements := JsonExpr.normalizeAll_mapLiteralsAll elements
    simp only [JsonExpr.mapLiterals, JsonExpr.normalize, helements]
  | .ofScalar value => by
    have hvalue := ScalarExpr.normalize_mapLiterals value
    simp only [JsonExpr.mapLiterals, JsonExpr.normalize]
    rw [hvalue, ScalarExpr.asJson_mapLiterals]

theorem JsonExpr.normalizeAll_mapLiteralsAll :
    ∀ elements : List JsonExpr,
      JsonExpr.normalizeAll (JsonExpr.mapLiteralsAll f elements) =
        JsonExpr.mapLiteralsAll f (JsonExpr.normalizeAll elements)
  | [] => rfl
  | element :: others => by
    have helement := JsonExpr.normalize_mapLiterals element
    have hothers := JsonExpr.normalizeAll_mapLiteralsAll others
    simp only [JsonExpr.mapLiteralsAll, JsonExpr.normalizeAll, helement,
      hothers]

theorem ScalarExpr.normalize_mapLiterals :
    ∀ expr : ScalarExpr,
      (expr.mapLiterals f).normalize = expr.normalize.mapLiterals f
  | .literal _ => rfl
  | .matching _ subject pattern => by
    have hsubject := ScalarExpr.normalize_mapLiterals subject
    have hpattern := ScalarExpr.normalize_mapLiterals pattern
    simp only [ScalarExpr.mapLiterals, ScalarExpr.normalize, hsubject, hpattern]
  | .length object => by
    have hobject := JsonExpr.normalize_mapLiterals object
    simp only [ScalarExpr.mapLiterals, ScalarExpr.normalize, hobject]
  | .includes collection needle => by
    have hcollection := JsonExpr.normalize_mapLiterals collection
    have hneedle := ScalarExpr.normalize_mapLiterals needle
    simp only [ScalarExpr.mapLiterals, ScalarExpr.normalize, hcollection,
      hneedle]
  | .quantified _ collection _ condition => by
    have hcollection := JsonExpr.normalize_mapLiterals collection
    have hcondition := ScalarExpr.normalize_mapLiterals condition
    simp only [ScalarExpr.mapLiterals, ScalarExpr.normalize, hcollection,
      hcondition]
  | .unary _ operand => by
    have hoperand := ScalarExpr.normalize_mapLiterals operand
    simp only [ScalarExpr.mapLiterals, ScalarExpr.normalize, hoperand]
  | .binary _ left right => by
    have hleft := ScalarExpr.normalize_mapLiterals left
    have hright := ScalarExpr.normalize_mapLiterals right
    simp only [ScalarExpr.mapLiterals, ScalarExpr.normalize, hleft, hright]
  | .ofJson value => by
    have hvalue := JsonExpr.normalize_mapLiterals value
    simp only [ScalarExpr.mapLiterals, ScalarExpr.normalize]
    rw [hvalue, JsonExpr.asScalar_mapLiterals]

end

end

end DocFilter
