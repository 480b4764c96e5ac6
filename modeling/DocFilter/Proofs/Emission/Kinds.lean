import DocFilter.Proofs.Emission.Rows
import DocFilter.Proofs.Normal.Tidy

/-!
# What the SQL of an expression tells about it

The first words of a row, the name of a call or the operator in parentheses say
what form of expression a row or a term comes from.  An operand is passed over
as a whole, because it can start with the words `NOT` and `EXISTS` itself.
-/

namespace DocFilter

open Sql

/-! ## Kinds of expressions -/

/-- The forms of expressions for a JSON value. -/
inductive JsonKind where
  | name
  | path
  | item
  | array
  | ofScalar

/-- The form of an expression for a JSON value. -/
def JsonExpr.kind : JsonExpr → JsonKind
  | name _ => .name
  | path _ _ => .path
  | item _ _ => .item
  | array _ => .array
  | ofScalar _ => .ofScalar

/-- The forms of expressions for a scalar, with their operators. -/
inductive ScalarKind where
  | literal
  | matching (style : PatternStyle)
  | length
  | includes
  | quantified (quantifier : Quantifier)
  | unary (op : UnaryOp)
  | binary (op : BinaryOp)
  | ofJson

/-- The form of an expression for a scalar. -/
def ScalarExpr.kind : ScalarExpr → ScalarKind
  | literal _ => .literal
  | matching style _ _ => .matching style
  | length _ => .length
  | includes _ _ => .includes
  | quantified quantifier _ _ _ => .quantified quantifier
  | unary op _ => .unary op
  | binary op _ _ => .binary op
  | ofJson _ => .ofJson

namespace Sql

/-! ## Operands -/

/-- A word that is a column has a point in it, and it is not in quotes. -/
def IsColumn (text : String) : Prop :=
  '.' ∈ text.toList ∧ text.toList.head? ≠ some '\''

theorem isColumn_row : IsColumn "records.id" := by
  constructor <;> decide

theorem isColumn_value (depth : Nat) :
    IsColumn (elementAlias depth ++ ".value") := by
  unfold elementAlias Scope.aliasName
  constructor
  · simp
  · simp

/-- The shapes of rows that are the SQL of a scalar. -/
inductive IsOperand : List Term → Prop
  | placeholder (literal : Literal) : IsOperand [.placeholder literal]
  | column {text : String} (h : IsColumn text) : IsOperand [.word text]
  | call (name : String) (rows : List (List Term)) :
    IsOperand [.call name rows]
  | exists (rows : List (List Term)) :
    IsOperand [.word "EXISTS", .call "" rows]
  | notExists (rows : List (List Term)) :
    IsOperand [.word "NOT", .word "EXISTS", .call "" rows]

/-- The shapes of terms that are the SQL of a JSON value as JSON. -/
inductive IsJson : Term → Prop
  | document : IsJson (.word "data")
  | call (name : String) (rows : List (List Term)) : IsJson (.call name rows)

/-- The shapes of terms that are the SQL of a JSON value as a scalar. -/
inductive IsScalar : Term → Prop
  | column {text : String} (h : IsColumn text) : IsScalar (.word text)
  | member {object : Term} (h : IsJson object) (path : String) :
    IsScalar (.enclosed [object, .arrow .scalar, .word path])

theorem IsScalar.isOperand {term : Term} (h : IsScalar term) :
    IsOperand [term] := by
  cases h with
  | column h => exact .column h
  | member h path => exact .call _ _

/-- The number of terms of the operand that a row starts with. -/
def operandLength : List Term → Nat
  | .word "NOT" :: .word "EXISTS" :: _ => 3
  | .word "EXISTS" :: _ => 2
  | _ => 1

theorem IsColumn.ne {text word : String} (h : IsColumn text)
    (hword : '.' ∉ word.toList) : text ≠ word := by
  rintro rfl
  exact hword h.1

theorem operandLength_append {row : List Term} (h : IsOperand row)
    (rest : List Term) : operandLength (row ++ rest) = row.length := by
  cases h with
  | @column text h =>
    have hnot : text ≠ "NOT" := h.ne (by decide)
    have hexists : text ≠ "EXISTS" := h.ne (by decide)
    simp [operandLength, hnot, hexists]
  | placeholder | call | «exists» | notExists => rfl

/-- An operand in front of other terms is told apart from them. -/
theorem IsOperand.eq_of_append_eq {row row' rest rest' : List Term}
    (h : IsOperand row) (h' : IsOperand row')
    (heq : row ++ rest = row' ++ rest') : row = row' ∧ rest = rest' := by
  apply List.append_inj heq
  rw [← operandLength_append h rest, heq, operandLength_append h']

/-! ## Reading the kind of a scalar -/

/-- The operator that a word stands for. -/
def binaryOp? (text : String) : Option BinaryOp :=
  [.equal, .notEqual, .less, .greater, .lessEqual, .greaterEqual, .and,
    .or].find? fun op => op.sql == text

theorem binaryOp?_sql (op : BinaryOp) : binaryOp? op.sql = some op := by
  cases op <;> decide

theorem IsColumn.binaryOp?_eq_none {text : String} (h : IsColumn text) :
    binaryOp? text = none := by
  rw [binaryOp?, List.find?_eq_none]
  intro op _ heq
  have hsql : '.' ∉ op.sql.toList := by cases op <;> decide
  exact h.ne hsql (beq_iff_eq.mp heq).symm

/-- The kind of a call. -/
def callKind (name : String) : ScalarKind :=
  if name = "like" then .matching .like
  else if name = "glob" then .matching .glob
  else if name = "lower" then .unary .lower
  else if name = "upper" then .unary .upper
  else .ofJson

/-- The kind of what stands in parentheses without an operator between its
operands. -/
def leadKind : List Term → ScalarKind
  | .word "NOT" :: _ => .unary .not
  | .word "-" :: _ => .unary .minus
  | .word "SELECT" :: _ => .length
  | _ => .ofJson

/-- The kind of what stands in parentheses. -/
def enclosedKind (row : List Term) : ScalarKind :=
  match row.drop (operandLength row) with
  | .word text :: _ => ((binaryOp? text).map .binary).getD (leadKind row)
  | _ => leadKind row

/-- The kind of a test for elements, given its condition. -/
def testKind : List Term → ScalarKind
  | _ :: .word "=" :: _ => .includes
  | _ => .quantified .any

/-- The kind of a row. -/
def rowKind : List Term → ScalarKind
  | [.placeholder _] => .literal
  | [.call "" [row]] => enclosedKind row
  | [.call name _] => callKind name
  | [.word "EXISTS", .call _ [row]] => testKind (row.drop 7)
  | .word "NOT" :: _ => .quantified .all
  | _ => .ofJson

theorem rowKind_column {text : String} (h : IsColumn text) :
    rowKind [.word text] = .ofJson := by
  have hnot : text ≠ "NOT" := h.ne (by decide)
  simp [rowKind, hnot]

theorem IsScalar.rowKind_eq {term : Term} (h : IsScalar term) :
    rowKind [term] = .ofJson := by
  cases h with
  | column h => exact rowKind_column h
  | member h path => cases h <;> rfl

theorem enclosedKind_binary {left : List Term} (h : IsOperand left)
    (op : BinaryOp) (right : List Term) :
    enclosedKind (left ++ .word op.sql :: right) = .binary op := by
  unfold enclosedKind
  rw [operandLength_append h, List.drop_left]
  simp [binaryOp?_sql]

theorem enclosedKind_not {operand : List Term} (h : IsOperand operand) :
    enclosedKind (.word "NOT" :: operand) = .unary .not := by
  cases h with
  | @column text h =>
    have hexists : text ≠ "EXISTS" := h.ne (by decide)
    simp [enclosedKind, operandLength, hexists, h.binaryOp?_eq_none, leadKind]
  | placeholder | call | «exists» | notExists => rfl

theorem enclosedKind_minus {operand : List Term} (h : IsOperand operand) :
    enclosedKind (.word "-" :: operand) = .unary .minus := by
  cases h with
  | column h =>
    simp [enclosedKind, operandLength, h.binaryOp?_eq_none, leadKind]
  | placeholder | call | «exists» | notExists => rfl

theorem testKind_operand {condition : List Term} (h : IsOperand condition) :
    testKind condition = .quantified .any := by
  cases h <;> rfl

end Sql

open Sql

theorem JsonExpr.isJson_term {value : JsonExpr} {elements : List String}
    {term : Term} (h : value.term .json elements = .ok term) :
    IsJson term := by
  cases value with
  | name text =>
    obtain ⟨referent, -, rfl⟩ := JsonExpr.term_name_eq_ok.mp h
    cases referent with
    | document => exact .document
    | row | element depth => exact .call _ _
  | path object labels =>
    obtain ⟨inner, -, rfl⟩ := JsonExpr.term_path_eq_ok.mp h
    exact .call _ _
  | item object key =>
    obtain ⟨inner, -, place, -, rfl⟩ := JsonExpr.term_item_eq_ok.mp h
    exact .call _ _
  | array items =>
    obtain ⟨inners, -, rfl⟩ := JsonExpr.term_array_eq_ok.mp h
    exact .call _ _
  | ofScalar inner =>
    obtain ⟨row, -, rfl⟩ := JsonExpr.term_ofScalar_eq_ok.mp h
    exact .call _ _

theorem JsonExpr.isScalar_term {value : JsonExpr} {elements : List String}
    {term : Term} (h : value.term .scalar elements = .ok term) :
    IsScalar term := by
  cases value with
  | name text =>
    obtain ⟨referent, -, rfl⟩ := JsonExpr.term_name_eq_ok.mp h
    cases referent with
    | document => exact .member .document _
    | row => exact .column isColumn_row
    | element depth => exact .column (isColumn_value depth)
  | path object labels =>
    obtain ⟨inner, hinner, rfl⟩ := JsonExpr.term_path_eq_ok.mp h
    exact .member (JsonExpr.isJson_term hinner) _
  | item object key =>
    obtain ⟨inner, -, place, -, rfl⟩ := JsonExpr.term_item_eq_ok.mp h
    exact .member (.call _ _) _
  | array items =>
    obtain ⟨inners, -, rfl⟩ := JsonExpr.term_array_eq_ok.mp h
    exact .member (.call _ _) _
  | ofScalar inner =>
    obtain ⟨row, -, rfl⟩ := JsonExpr.term_ofScalar_eq_ok.mp h
    exact .member (.call _ _) _

/-- The row of a scalar is an operand. -/
theorem ScalarExpr.isOperand_row {expr : ScalarExpr} {elements : List String}
    {row : List Term} (h : expr.row elements = .ok row) : IsOperand row := by
  cases expr with
  | literal value =>
    obtain rfl := ScalarExpr.row_literal_eq_ok.mp h
    exact .placeholder value
  | matching style subject pattern =>
    obtain ⟨first, -, second, -, rfl⟩ := ScalarExpr.row_matching_eq_ok.mp h
    exact .call _ _
  | length object =>
    obtain ⟨inner, -, rfl⟩ := ScalarExpr.row_length_eq_ok.mp h
    exact .call _ _
  | includes collection needle =>
    obtain ⟨inner, -, sought, -, rfl⟩ := ScalarExpr.row_includes_eq_ok.mp h
    exact .exists _
  | quantified quantifier collection element condition =>
    obtain ⟨inner, -, tested, -, rfl⟩ := ScalarExpr.row_quantified_eq_ok.mp h
    cases quantifier with
    | any => exact .exists _
    | all => exact .notExists _
  | unary op operand =>
    obtain ⟨inner, -, rfl⟩ := ScalarExpr.row_unary_eq_ok.mp h
    cases op <;> exact .call _ _
  | binary op left right =>
    obtain ⟨first, -, second, -, rfl⟩ := ScalarExpr.row_binary_eq_ok.mp h
    exact .call _ _
  | ofJson value =>
    obtain ⟨term, hterm, rfl⟩ := ScalarExpr.row_ofJson_eq_ok.mp h
    exact (JsonExpr.isScalar_term hterm).isOperand

/-- The kind of a scalar is read from its row. -/
theorem ScalarExpr.rowKind_row {expr : ScalarExpr} {elements : List String}
    {row : List Term} (h : expr.row elements = .ok row) :
    rowKind row = expr.kind := by
  cases expr with
  | literal value =>
    obtain rfl := ScalarExpr.row_literal_eq_ok.mp h
    rfl
  | matching style subject pattern =>
    obtain ⟨first, -, second, -, rfl⟩ := ScalarExpr.row_matching_eq_ok.mp h
    cases style <;> rfl
  | length object =>
    obtain ⟨inner, -, rfl⟩ := ScalarExpr.row_length_eq_ok.mp h
    rfl
  | includes collection needle =>
    obtain ⟨inner, -, sought, -, rfl⟩ := ScalarExpr.row_includes_eq_ok.mp h
    rfl
  | quantified quantifier collection element condition =>
    obtain ⟨inner, -, tested, htested, rfl⟩ :=
      ScalarExpr.row_quantified_eq_ok.mp h
    cases quantifier with
    | any => exact testKind_operand (ScalarExpr.isOperand_row htested)
    | all => rfl
  | unary op operand =>
    obtain ⟨inner, hinner, rfl⟩ := ScalarExpr.row_unary_eq_ok.mp h
    have hoperand := ScalarExpr.isOperand_row hinner
    cases op with
    | not => exact enclosedKind_not hoperand
    | minus => exact enclosedKind_minus hoperand
    | lower | upper => rfl
  | binary op left right =>
    obtain ⟨first, hfirst, second, -, rfl⟩ := ScalarExpr.row_binary_eq_ok.mp h
    exact enclosedKind_binary (ScalarExpr.isOperand_row hfirst) op second
  | ofJson value =>
    obtain ⟨term, hterm, rfl⟩ := ScalarExpr.row_ofJson_eq_ok.mp h
    exact (JsonExpr.isScalar_term hterm).rowKind_eq

namespace Sql

/-! ## Reading the kind of a JSON value -/

/-- The kind of a term for JSON.  A path is in quotes and a key is not; the row
is a column, and another scalar is not. -/
def jsonKind : Term → JsonKind
  | .call "json_array" _ => .array
  | .call "json_quote" [[.word _]] => .name
  | .call "json_quote" _ => .ofScalar
  | .call "" [[_, _, .word text]] =>
    if text.toList.head? = some '\'' then .path else .item
  | .call "" _ => .item
  | _ => .name

/-- The kind of a term for JSON that is turned into a sort. -/
def termKind : ValueSort → Term → JsonKind
  | .json, term => jsonKind term
  | .scalar, .call _ [[inner, _, .word text]] =>
    if text = "'$'" then jsonKind inner else .path
  | .scalar, _ => .name

theorem termKind_ofJson (sort : ValueSort) (term : Term) :
    termKind sort (.ofJson sort term) = jsonKind term := by
  cases sort <;> rfl

theorem termKind_path (sort : ValueSort) (object : Term) {labels : List String}
    (hne : labels ≠ []) (hlabels : ∀ label ∈ labels, IsName label) :
    termKind sort
        (.enclosed [object, .arrow sort, .word (quotedPath labels)]) =
      .path := by
  cases sort with
  | json =>
    have hquote : (quotedPath labels).toList.head? = some '\'' := by
      rw [toList_quotedPath hlabels]
      rfl
    exact if_pos hquote
  | scalar => exact if_neg (quotedPath_ne_root hlabels hne)

theorem jsonKind_item (object : Term) {key : List Term} (h : IsOperand key) :
    jsonKind (.enclosed (object :: .arrow .json :: key)) = .item := by
  cases h with
  | column h => exact if_neg h.2
  | placeholder | call | «exists» | notExists => rfl

theorem termKind_referent (referent : Referent) (sort : ValueSort) :
    termKind sort (.referent referent sort) = .name := by
  cases referent <;> cases sort <;> rfl

end Sql

theorem ScalarExpr.jsonKind_quote {value : ScalarExpr}
    (hne : ∀ inner, value ≠ .ofJson inner) {elements : List String}
    {row : List Term} (h : value.row elements = .ok row) :
    jsonKind (.call "json_quote" [row]) = .ofScalar := by
  have hkind := ScalarExpr.rowKind_row h
  cases ScalarExpr.isOperand_row h with
  | column hcolumn =>
    rw [rowKind_column hcolumn] at hkind
    cases value with
    | ofJson inner => exact absurd rfl (hne inner)
    | _ => cases hkind
  | placeholder | call | «exists» | notExists => rfl

/-- The kind of a JSON value is read from its term. -/
theorem JsonExpr.termKind_term {expr : JsonExpr} (htidy : expr.IsTidy)
    {sort : ValueSort} {elements : List String} {term : Term}
    (h : expr.term sort elements = .ok term) :
    termKind sort term = expr.kind := by
  cases expr with
  | name text =>
    obtain ⟨referent, -, rfl⟩ := JsonExpr.term_name_eq_ok.mp h
    exact termKind_referent referent sort
  | path object labels =>
    obtain ⟨inner, -, rfl⟩ := JsonExpr.term_path_eq_ok.mp h
    exact termKind_path sort inner htidy.2.1 htidy.2.2
  | item object key =>
    obtain ⟨inner, -, place, hplace, rfl⟩ := JsonExpr.term_item_eq_ok.mp h
    rw [termKind_ofJson]
    exact jsonKind_item inner (ScalarExpr.isOperand_row hplace)
  | array items =>
    obtain ⟨inners, -, rfl⟩ := JsonExpr.term_array_eq_ok.mp h
    exact termKind_ofJson sort _
  | ofScalar value =>
    obtain ⟨row, hrow, rfl⟩ := JsonExpr.term_ofScalar_eq_ok.mp h
    rw [termKind_ofJson]
    exact ScalarExpr.jsonKind_quote htidy.1 hrow

end DocFilter
