import DocFilter.Filter
import DocFilter.Proofs.Emission.Closed
import DocFilter.Proofs.Emission.Site
import DocFilter.Proofs.Syntax.Precedence

/-!
# The operands of comparisons

The SQL of a comparison is a text in parentheses.  By the precedence of SQL,
the operands in it are those that were emitted, unless the left one is a test
of every element: such a test starts with `NOT`, which binds less tight than a
comparison, and nothing keeps the two apart.  Every other form of SQL is a
name, a placeholder, a text in parentheses, a call, or an `EXISTS` with its
subquery, and stays in one piece.
-/

namespace DocFilter

open Sql

/-! ## Bound names -/

/-- The texts of a bound name are closed, and the scalar one is an operand. -/
structure Binding.IsSound (binding : Binding) : Prop where
  isClosed : binding.IsClosed
  scalar : ReadsAsOperand binding.scalar.toList

theorem Binding.isSound_document {column : String}
    (h : Sql.IsClosed column.toList) :
    (Binding.document column).IsSound := by
  have htext : (Binding.document column).scalar.toList =
      [] ++ '(' :: ((column.toList ++ " ->> '$'".toList) ++ [')']) := by
    simp [Binding.document]
  have hinner : Sql.IsClosed (column.toList ++ " ->> '$'".toList) :=
    h.append (by decide)
  constructor
  · exact Binding.isClosed_document h
  · rw [htext]
    exact readsAsOperand_call (by simp) hinner

theorem Binding.isSound_column {name : String}
    (h : ReadsAsOperand name.toList) :
    (Binding.column name).IsSound :=
  ⟨Binding.isClosed_column h.isClosed, h⟩

/-- An alias is a name. -/
theorem isNameChar_of_mem_aliasName {scope : Scope} {c : Char}
    (h : c ∈ scope.aliasName.toList) : isNameChar c := by
  unfold Scope.aliasName at h
  rw [String.toList_append] at h
  rcases List.mem_append.mp h with hword | hnumber
  · exact List.all_eq_true.mp
      (by decide : "json_".toList.all isNameChar) c hword
  · have hdigit := Decimal.isDigit_of_mem_toString hnumber
    simp [isNameChar, Char.isAlphanum, hdigit]

/-- The value of an element is a name with a point in it. -/
theorem Binding.isSound_element (scope : Scope) :
    (Binding.element scope.aliasName).IsSound := by
  have htext : (Binding.element scope.aliasName).scalar.toList =
      scope.aliasName.toList ++ ".value".toList := by
    simp [Binding.element]
  have hname :
      ∀ c ∈ scope.aliasName.toList ++ ".value".toList, isNameChar c := by
    intro c hc
    rcases List.mem_append.mp hc with halias | hvalue
    · exact isNameChar_of_mem_aliasName halias
    · exact List.all_eq_true.mp
        (by decide : ".value".toList.all isNameChar) c hvalue
  have hpoint : '.' ∈ scope.aliasName.toList ++ ".value".toList :=
    List.mem_append_right _ (by decide)
  have hoperand := isOperand_name (List.ne_nil_of_mem hpoint) hname
  constructor
  · exact Binding.isClosed_element (isClosed_aliasName scope)
  · rw [htext]
    exact readsAsOperand_of_isOperand hoperand hpoint (Or.inr rfl)

/-- Every binding of a scope has closed texts and an operand. -/
abbrev Scope.IsSound (scope : Scope) : Prop := scope.All Binding.IsSound

theorem Scope.IsSound.isClosed {scope : Scope} (h : scope.IsSound) :
    scope.IsClosed :=
  fun entry hentry => (h entry hentry).isClosed

theorem Scope.IsSound.element {scope : Scope} (h : scope.IsSound)
    (name : String) :
    (scope.element name).IsSound :=
  Scope.All.element h (Binding.isSound_element scope) name

theorem Scope.isSound_root
    {documentColumn rowColumn : String}
    (hdocument : Sql.IsClosed documentColumn.toList)
    (hrow : ReadsAsOperand rowColumn.toList) :
    (Scope.root documentColumn rowColumn).IsSound :=
  Scope.All.root (Binding.isSound_document hdocument)
    (Binding.isSound_column hrow)

/-! ## Fragments -/

namespace Sql

theorem readsAsOperand_ofJson {fragment : Fragment} (h : fragment.IsClosed) :
    ReadsAsOperand (ValueSort.scalar.ofJson fragment).sql.toList := by
  have htext : (ValueSort.scalar.ofJson fragment).sql.toList =
      [] ++ '(' :: ((fragment.sql.toList ++ " ->> '$'".toList) ++ [')']) := by
    simp [ValueSort.ofJson]
  have hinner : IsClosed (fragment.sql.toList ++ " ->> '$'".toList) :=
    Leads.append h (by decide)
  rw [htext]
  exact readsAsOperand_call (by simp) hinner

theorem readsAsOperand_lengthOf {object : Fragment} (h : object.IsClosed) :
    ReadsAsOperand (lengthOf object).sql.toList := by
  let texts :=
    "SELECT CASE json_type(length_arg) WHEN 'text' THEN length(length_arg ->> '$') "
  let others :=
    "WHEN 'array' THEN json_array_length(length_arg) ELSE (length_arg ->> '$.length') END FROM (SELECT "
  have hopening :
      "(SELECT CASE json_type(length_arg) WHEN 'text' THEN length(length_arg ->> '$') ".toList =
        '(' :: texts.toList := by decide +kernel
  have hclosing : " AS length_arg))".toList =
      " AS length_arg)".toList ++ [')'] := by decide
  have htext : (lengthOf object).sql.toList =
      [] ++ '(' :: ((texts.toList ++
        (others.toList ++ object.sql.toList ++ " AS length_arg)".toList)) ++
        [')']) := by
    simp only [lengthOf, Fragment.sql_append, Fragment.sql_ofText,
      String.toList_append, List.append_assoc, hopening, hclosing,
      List.nil_append, List.cons_append]
    rfl
  have htexts : IsClosed texts.toList := by decide +kernel
  have hsubquery : IsClosed
      (others.toList ++ object.sql.toList ++ " AS length_arg)".toList) :=
    Leads.enclose (by decide +kernel : Leads 0 1 others.toList) h (by decide)
  rw [htext]
  exact readsAsOperand_call (by simp) (htexts.append hsubquery)

/-- The start of a subquery, up to its alias. -/
theorem isClosed_source {collection : Fragment} (h : collection.IsClosed) :
    IsClosed ("SELECT 1 FROM json_each(".toList ++ collection.sql.toList ++
      ") AS ".toList) :=
  Leads.enclose (by decide : Leads 0 1 "SELECT 1 FROM json_each(".toList) h
    (by decide)

theorem readsAsOperand_any
    (scope : Scope) {collection condition : Fragment}
    (hcollection : collection.IsClosed) (hcondition : condition.IsClosed) :
    ReadsAsOperand (elementTest scope.aliasName .any collection
      condition).sql.toList := by
  have htext :
      (elementTest scope.aliasName .any collection condition).sql.toList =
      "EXISTS ".toList ++ '(' ::
        (("SELECT 1 FROM json_each(".toList ++ collection.sql.toList ++
        ") AS ".toList ++ (scope.aliasName.toList ++
          (" WHERE ".toList ++ condition.sql.toList))) ++
          [')']) := by
    simp [elementTest]
  have hsource := isClosed_source hcollection
  have hwhere : IsClosed (" WHERE ".toList ++ condition.sql.toList) :=
    Leads.append (by decide) hcondition
  rw [htext]
  exact readsAsOperand_exists
    (hsource.append ((isClosed_aliasName scope).append hwhere))

/-- The test of every element is a `NOT` before an operand. -/
theorem readsAsOperand_all
    (scope : Scope) {collection condition : Fragment}
    (hcollection : collection.IsClosed) (hcondition : condition.IsClosed) :
    ∃ query, ReadsAsOperand query ∧
      (elementTest scope.aliasName .all collection condition).sql.toList =
        "NOT ".toList ++ query := by
  have htext :
      (elementTest scope.aliasName .all collection condition).sql.toList =
      "NOT ".toList ++ ("EXISTS ".toList ++ '(' ::
        (("SELECT 1 FROM json_each(".toList ++
        collection.sql.toList ++ ") AS ".toList ++ (scope.aliasName.toList ++
          (" WHERE NOT (".toList ++ condition.sql.toList ++
            ")".toList))) ++ [')'])) := by
    simp [elementTest]
  have hsource := isClosed_source hcollection
  have hwhere : IsClosed
      (" WHERE NOT (".toList ++ condition.sql.toList ++ ")".toList) :=
    Leads.enclose (by decide : Leads 0 1 " WHERE NOT (".toList) hcondition
      (by decide)
  exact ⟨_, readsAsOperand_exists
    (hsource.append ((isClosed_aliasName scope).append hwhere)), htext⟩

/-- A unary operation opens a parenthesis, with a name before it or a sign
behind it. -/
theorem exists_opening (op : UnaryOp) :
    ∃ name sign, op.sqlOpening.toList = name ++ '(' :: sign ∧
      (∀ c ∈ name, isNameChar c) ∧
      IsClosed sign := by
  cases op with
  | not => exact ⟨[], "NOT ".toList, by decide, by simp, by decide⟩
  | minus => exact ⟨[], "- ".toList, by decide, by simp, by decide⟩
  | lower =>
    exact ⟨"lower".toList, [], by decide,
      List.all_eq_true.mp (by decide), by decide⟩
  | upper =>
    exact ⟨"upper".toList, [], by decide,
      List.all_eq_true.mp (by decide), by decide⟩

theorem readsAsOperand_unary (op : UnaryOp) {operand : Fragment}
    (h : operand.IsClosed) :
    ReadsAsOperand (op.sqlOpening ++ operand ++ ")" : Fragment).sql.toList := by
  obtain ⟨name, sign, hopening, hname, hsign⟩ := exists_opening op
  have htext : (op.sqlOpening ++ operand ++ ")" : Fragment).sql.toList =
      name ++ '(' :: ((sign ++ operand.sql.toList) ++ [')']) := by
    simp [hopening]
  rw [htext]
  exact readsAsOperand_call hname (hsign.append h)

/-- What stands inside the parentheses of an operator and its operands. -/
def binaryText (op : BinaryOp) (left right : Fragment) : List Char :=
  left.sql.toList ++ ' ' :: (op.sql.toList ++ ' ' :: right.sql.toList)

theorem toList_binary (op : BinaryOp) (left right : Fragment) :
    ("(" ++ left ++ (" " ++ op.sql ++ " ") ++ right ++
      ")" : Fragment).sql.toList =
      '(' :: (binaryText op left right ++ [')']) := by
  simp [binaryText]

theorem isClosed_binaryText
    (op : BinaryOp) {left right : Fragment} (hleft : left.IsClosed)
    (hright : right.IsClosed) :
    IsClosed (binaryText op left right) := by
  have hop : IsClosed (" ".toList ++ op.sql.toList ++ " ".toList) := by
    cases op <;> decide
  have htext : binaryText op left right =
      left.sql.toList ++ (" ".toList ++ op.sql.toList ++ " ".toList) ++
        right.sql.toList := by
    simp [binaryText]
  rw [htext]
  exact (Leads.append hleft hop).append hright

end Sql

/-! ## Expressions -/

/-- The expression is a test of every element. -/
def ScalarExpr.IsEvery (expr : ScalarExpr) : Prop :=
  ∃ collection element condition,
    expr = .quantified .all collection element condition

/-- The scalar of a JSON value is an operand. -/
theorem JsonExpr.readsAsOperand_emit
    {expr : JsonExpr} {scope : Scope} (hscope : scope.IsSound)
    {fragment : Fragment}
    (h : expr.emit .scalar scope = .ok fragment) :
    ReadsAsOperand fragment.sql.toList := by
  have hclosed := hscope.isClosed
  cases expr with
  | name text =>
    obtain ⟨binding, hbinding, rfl⟩ := JsonExpr.emit_name_eq_ok.mp h
    exact (hscope.lookup? hbinding).scalar
  | path object labels =>
    obtain ⟨inner, hinner, rfl⟩ := JsonExpr.emit_path_eq_ok.mp h
    have hobject : Sql.IsClosed inner.sql.toList :=
      JsonExpr.isClosed_emit hclosed hinner
    have hpath : Sql.IsClosed (" ->> ".toList ++ (quotedPath labels).toList) :=
      Leads.append (by decide) (isClosed_quotedPath labels)
    have htext :
        ("(" ++ inner ++ ValueSort.scalar.arrow ++ quotedPath labels ++ ")" :
          Fragment).sql.toList =
        [] ++ '(' :: ((inner.sql.toList ++
          (" ->> ".toList ++ (quotedPath labels).toList)) ++ [')']) := by
      simp [ValueSort.arrow]
    rw [htext]
    exact readsAsOperand_call (by simp) (hobject.append hpath)
  | item object key =>
    obtain ⟨inner, hinner, place, hplace, rfl⟩ := JsonExpr.emit_item_eq_ok.mp h
    have hjson : (JsonExpr.item object key).emit .json scope = .ok _ :=
      JsonExpr.emit_item_eq_ok.mpr ⟨inner, hinner, place, hplace, rfl⟩
    exact readsAsOperand_ofJson (JsonExpr.isClosed_emit hclosed hjson)
  | array elements =>
    obtain ⟨fragments, hfragments, rfl⟩ := JsonExpr.emit_array_eq_ok.mp h
    have hjson : (JsonExpr.array elements).emit .json scope = .ok _ :=
      JsonExpr.emit_array_eq_ok.mpr ⟨fragments, hfragments, rfl⟩
    exact readsAsOperand_ofJson (JsonExpr.isClosed_emit hclosed hjson)
  | ofScalar value =>
    obtain ⟨inner, hinner, rfl⟩ := JsonExpr.emit_ofScalar_eq_ok.mp h
    have hjson : (JsonExpr.ofScalar value).emit .json scope = .ok _ :=
      JsonExpr.emit_ofScalar_eq_ok.mpr ⟨inner, hinner, rfl⟩
    exact readsAsOperand_ofJson (JsonExpr.isClosed_emit hclosed hjson)

/-- The SQL of a scalar is an operand, unless it is a test of every
element. -/
theorem ScalarExpr.readsAsOperand_emit
    {expr : ScalarExpr} {scope : Scope} (hscope : scope.IsSound)
    {fragment : Fragment} (h : expr.emit scope = .ok fragment)
    (hevery : ¬expr.IsEvery) :
    ReadsAsOperand fragment.sql.toList := by
  have hclosed := hscope.isClosed
  cases expr with
  | literal value =>
    obtain rfl := ScalarExpr.emit_literal_eq_ok.mp h
    exact (by decide +kernel : ReadsAsOperand "?".toList)
  | matching style subject pattern =>
    obtain ⟨first, hfirst, second, hsecond, rfl⟩ :=
      ScalarExpr.emit_matching_eq_ok.mp h
    have hpattern : Sql.IsClosed first.sql.toList :=
      ScalarExpr.isClosed_emit hclosed hfirst
    have hsubject : Sql.IsClosed (", ".toList ++ second.sql.toList) :=
      Leads.append (by decide) (ScalarExpr.isClosed_emit hclosed hsecond)
    have hname : ∀ c ∈ style.name.toList, isNameChar c := by
      apply List.all_eq_true.mp
      cases style <;> decide
    have htext : (style.name ++ "(" ++ first ++ ", " ++ second ++
        ")" : Fragment).sql.toList =
        style.name.toList ++ '(' ::
          ((first.sql.toList ++ (", ".toList ++ second.sql.toList)) ++
          [')']) := by
      simp
    rw [htext]
    exact readsAsOperand_call hname (hpattern.append hsubject)
  | length object =>
    obtain ⟨inner, hinner, rfl⟩ := ScalarExpr.emit_length_eq_ok.mp h
    exact readsAsOperand_lengthOf (JsonExpr.isClosed_emit hclosed hinner)
  | includes collection needle =>
    obtain ⟨inner, hinner, sought, hsought, rfl⟩ :=
      ScalarExpr.emit_includes_eq_ok.mp h
    have hcollection := JsonExpr.isClosed_emit hclosed hinner
    have hneedle := ScalarExpr.isClosed_emit hclosed hsought
    have halias : Fragment.IsClosed scope.aliasName := isClosed_aliasName scope
    have hvalue := halias.append (by decide : Fragment.IsClosed ".value = ")
    exact readsAsOperand_any scope hcollection (hvalue.append hneedle)
  | quantified quantifier collection element condition =>
    obtain ⟨inner, hinner, test, htest, rfl⟩ :=
      ScalarExpr.emit_quantified_eq_ok.mp h
    have hcollection := JsonExpr.isClosed_emit hclosed hinner
    have hcondition := ScalarExpr.isClosed_emit (hclosed.element element) htest
    cases quantifier with
    | any => exact readsAsOperand_any scope hcollection hcondition
    | all => exact absurd ⟨collection, element, condition, rfl⟩ hevery
  | unary op operand =>
    obtain ⟨inner, hinner, rfl⟩ := ScalarExpr.emit_unary_eq_ok.mp h
    exact readsAsOperand_unary op (ScalarExpr.isClosed_emit hclosed hinner)
  | binary op left right =>
    obtain ⟨first, hfirst, second, hsecond, rfl⟩ :=
      ScalarExpr.emit_binary_eq_ok.mp h
    have hleft := ScalarExpr.isClosed_emit hclosed hfirst
    have hright := ScalarExpr.isClosed_emit hclosed hsecond
    have hnone : ∀ c ∈ ([] : List Char), isNameChar c := by simp
    rw [toList_binary]
    exact readsAsOperand_call hnone (isClosed_binaryText op hleft hright)
  | ofJson value =>
    exact JsonExpr.readsAsOperand_emit hscope
      (ScalarExpr.emit_ofJson_eq_ok.mp h)

/-- The SQL of a test of every element is a `NOT` before an operand. -/
theorem ScalarExpr.exists_query_emit
    {expr : ScalarExpr} {scope : Scope} (hscope : scope.IsSound)
    {fragment : Fragment} (h : expr.emit scope = .ok fragment)
    (hevery : expr.IsEvery) :
    ∃ query, ReadsAsOperand query ∧
      fragment.sql.toList = "NOT ".toList ++ query := by
  obtain ⟨collection, element, condition, rfl⟩ := hevery
  obtain ⟨inner, hinner, test, htest, rfl⟩ :=
    ScalarExpr.emit_quantified_eq_ok.mp h
  have hclosed := hscope.isClosed
  exact readsAsOperand_all scope (JsonExpr.isClosed_emit hclosed hinner)
    (ScalarExpr.isClosed_emit (hclosed.element element) htest)

/-! ## Comparisons -/

/-- The SQL of an operator is read as the operator between two operands with
the emitted texts. -/
def ReadsAs (op : BinaryOp) (fragment left right : Fragment) : Prop :=
  ∃ before after, read? fragment.sql =
    some (.operator (.binary op) before after) ∧
    before.text = left.sql.toList ∧ after.text = right.sql.toList

/-- How the words of a scalar's SQL are grouped: as an operand, or as `NOT`
and an operand. -/
theorem ScalarExpr.textWords?_emit
    {expr : ScalarExpr} {scope : Scope} (hscope : scope.IsSound)
    {fragment : Fragment} (h : expr.emit scope = .ok fragment) :
    textWords? fragment.sql.toList = some [.operand fragment.sql.toList] ∨
      ∃ query, fragment.sql.toList = "NOT ".toList ++ query ∧
        textWords? fragment.sql.toList = some [.not, .operand query] := by
  by_cases hevery : expr.IsEvery
  · obtain ⟨query, hquery, htext⟩ := exists_query_emit hscope h hevery
    right
    refine ⟨query, htext, ?_⟩
    rw [htext]
    exact textWords?_not hquery.words
  · exact Or.inl (readsAsOperand_emit hscope h hevery).words

theorem read?_binary
    {op : BinaryOp} {left right : Fragment} (hleft : left.IsClosed)
    (hright : right.IsClosed) {words words' : List Word}
    (hwords : textWords? left.sql.toList = some words)
    (hwords' : textWords? right.sql.toList = some words') {fragment : Fragment}
    (hfragment : "(" ++ left ++ (" " ++ op.sql ++ " ") ++ right ++ ")" =
      fragment) :
    read? fragment.sql =
      groupOperand [] (words ++ .operator (.binary op) :: words') := by
  have htext : fragment.sql.toList =
      '(' :: (binaryText op left right ++ [')']) := by
    rw [← hfragment]
    exact toList_binary op left right
  have hoperator : textWords? (binaryText op left right) =
      some (words ++ .operator (.binary op) :: words') :=
    textWords?_operator (.binary op) hleft hwords hwords'
  unfold read?
  rw [htext, inside?_enclosed (isClosed_binaryText op hleft hright)]
  change (textWords? (binaryText op left right)).bind (groupOperand []) = _
  rw [hoperator]
  rfl

/-- A left operand that is no test of every element keeps its text, and so
does the right one. -/
theorem readsAs_of_not_isEvery
    {op : BinaryOp} {left right : ScalarExpr} {scope : Scope}
    (hscope : scope.IsSound) {first second fragment : Fragment}
    (hfirst : left.emit scope = .ok first)
    (hsecond : right.emit scope = .ok second)
    (hfragment : "(" ++ first ++ (" " ++ op.sql ++ " ") ++ second ++ ")" =
      fragment)
    (hevery : ¬left.IsEvery) : ReadsAs op fragment first second := by
  have hleft := ScalarExpr.readsAsOperand_emit hscope hfirst hevery
  have hright := ScalarExpr.isClosed_emit hscope.isClosed hsecond
  rcases ScalarExpr.textWords?_emit hscope hsecond with
    hwords | ⟨query, htext, hwords⟩
  · refine ⟨.operand first.sql.toList, .operand second.sql.toList, ?_, rfl, rfl⟩
    rw [read?_binary hleft.isClosed hright hleft.words hwords hfragment]
    exact groupOperand_operand _ _ _
  · refine ⟨.operand first.sql.toList, .not (.operand query), ?_, rfl,
      htext.symm⟩
    rw [read?_binary hleft.isClosed hright hleft.words hwords hfragment]
    exact groupOperand_not_right _ _ _

/-- The SQL of an operator is read as a negation: the `NOT` that the left text
starts with takes in the operator and the right operand. -/
def ReadsAsNegation (op : BinaryOp) (fragment left right : Fragment) : Prop :=
  ∃ query after, left.sql.toList = "NOT ".toList ++ query ∧
    read? fragment.sql =
      some (.not (.operator (.binary op) (.operand query) after)) ∧
    after.text = right.sql.toList

theorem ReadsAsNegation.not_readsAs
    {op : BinaryOp} {fragment left right : Fragment}
    (h : ReadsAsNegation op fragment left right) :
    ¬ReadsAs op fragment left right := by
  rintro ⟨before, after, hread, -, -⟩
  obtain ⟨query, after', -, hread', -⟩ := h
  rw [hread] at hread'
  cases hread'

/-- A comparison with a test of every element on its left is read as a
negation. -/
theorem readsAsNegation_of_isEvery
    {op : BinaryOp} (hop : op.tier = .comparison) {left right : ScalarExpr}
    {scope : Scope} (hscope : scope.IsSound) {first second fragment : Fragment}
    (hfirst : left.emit scope = .ok first)
    (hsecond : right.emit scope = .ok second)
    (hfragment : "(" ++ first ++ (" " ++ op.sql ++ " ") ++ second ++ ")" =
      fragment)
    (hevery : left.IsEvery) : ReadsAsNegation op fragment first second := by
  have hleft := ScalarExpr.isClosed_emit hscope.isClosed hfirst
  have hright := ScalarExpr.isClosed_emit hscope.isClosed hsecond
  have hstrength : notStrength < (Operator.binary op).strength := by
    cases op <;> first | decide | cases hop
  obtain ⟨query, hquery, htext⟩ :=
    ScalarExpr.exists_query_emit hscope hfirst hevery
  have hnot : textWords? first.sql.toList = some [.not, .operand query] := by
    rw [htext]
    exact textWords?_not hquery.words
  rcases ScalarExpr.textWords?_emit hscope hsecond with
    hwords | ⟨query', htext', hwords⟩
  · refine ⟨query, .operand second.sql.toList, htext, ?_, rfl⟩
    rw [read?_binary hleft hright hnot hwords hfragment]
    exact groupOperand_not_left _ _ hstrength
  · refine ⟨query, .not (.operand query'), htext, ?_, htext'.symm⟩
    rw [read?_binary hleft hright hnot hwords hfragment]
    exact groupOperand_not_both _ _ hstrength

/-- Wherever a comparison stands in an expression, its SQL is read as the
comparison of the texts that were emitted for its operands, exactly if the
left operand is no test of every element.  If it is one, the whole is read as
a negation. -/
theorem comparison_readsAs_iff
    {documentColumn rowColumn : String}
    (hdocument : Sql.IsClosed documentColumn.toList)
    (hrow : ReadsAsOperand rowColumn.toList) {expr : JsonExpr} {op : BinaryOp}
    {left right : ScalarExpr} {scope : Scope}
    (hsite : Site.Within (.scalar (.binary op left right) scope)
      (.json expr (Scope.root documentColumn rowColumn)))
    (hop : op.tier = .comparison) {fragment : Fragment}
    (h : (ScalarExpr.binary op left right).emit scope = .ok fragment) :
    ∃ first second, left.emit scope = .ok first ∧
      right.emit scope = .ok second ∧
      (ReadsAs op fragment first second ↔ ¬left.IsEvery) ∧
      (ReadsAsNegation op fragment first second ↔ left.IsEvery) := by
  have hscope : scope.IsSound :=
    hsite.scope (P := Scope.IsSound)
      (fun _ element hscope => hscope.element element)
      (Scope.isSound_root hdocument hrow)
  obtain ⟨first, hfirst, second, hsecond, hfragment⟩ :=
    ScalarExpr.emit_binary_eq_ok.mp h
  have hkept := readsAs_of_not_isEvery hscope hfirst hsecond hfragment
  have hnegated :=
    readsAsNegation_of_isEvery hop hscope hfirst hsecond hfragment
  refine ⟨first, second, hfirst, hsecond, ⟨?_, hkept⟩, ⟨?_, hnegated⟩⟩
  · intro hreads hevery
    exact (hnegated hevery).not_readsAs hreads
  · intro hreads
    by_contra hevery
    exact hreads.not_readsAs (hkept hevery)

/-- The test that every tag is one. -/
def everyTagIsOne : ScalarExpr :=
  .quantified .all (.path (.name "_") ["tags"]) "t"
    (.binary .equal (.ofJson (.name "t")) (.literal (.integer 1)))

/-- The SQL of a comparison of that test with two. -/
def everyTagIsOneSql : Fragment where
  sql := "(NOT EXISTS (SELECT 1 FROM json_each((data -> '$.tags')) AS json_1 " ++
    "WHERE NOT ((json_1.value = ?))) = ?)"
  params := [.integer 1, .integer 2]

/-- The condition at this comparison. -/
theorem comparison_readsAs_iff_everyTagIsOne :
    let comparison :=
      ScalarExpr.binary .equal everyTagIsOne (.literal (.integer 2))
    let scope := Scope.root "data" "records.id"
    Sql.IsClosed "data".toList ∧ ReadsAsOperand "records.id".toList ∧
      Site.Within (.scalar comparison scope)
        (.json (.ofScalar comparison) scope) ∧
      BinaryOp.equal.tier = .comparison ∧
        comparison.emit scope = .ok everyTagIsOneSql ∧
      ∃ first second, everyTagIsOne.emit scope = .ok first ∧
        (ScalarExpr.literal (.integer 2)).emit scope = .ok second ∧
        (ReadsAs .equal everyTagIsOneSql first second ↔
          ¬everyTagIsOne.IsEvery) ∧
        (ReadsAsNegation .equal everyTagIsOneSql first second ↔
          everyTagIsOne.IsEvery) := by
  intro comparison scope
  have hdocument : Sql.IsClosed "data".toList := by decide
  have hrow : ReadsAsOperand "records.id".toList := by decide +kernel
  have hsite : Site.Within (.scalar comparison scope)
      (.json (.ofScalar comparison) scope) :=
    .part List.mem_cons_self (.refl _)
  have hemit : comparison.emit scope = .ok everyTagIsOneSql := by decide +kernel
  exact ⟨hdocument, hrow, hsite, rfl, hemit,
    comparison_readsAs_iff hdocument hrow hsite rfl hemit⟩

/-- This comparison is what a text is parsed to, and its SQL is not read as a
comparison. -/
theorem not_readsAs_everyTagIsOne :
    parse "_.tags.every(t => t == 1) == 2" default =
        .ok (.ofScalar (.binary .equal everyTagIsOne (.literal (.integer 2)))) ∧
      compile "_.tags.every(t => t == 1) == 2" default = .ok everyTagIsOneSql ∧
      ∀ first second, ¬ReadsAs .equal everyTagIsOneSql first second := by
  let tokens : List PlacedToken :=
    [⟨0, .name "_"⟩, ⟨1, .dot⟩, ⟨2, .name "tags"⟩, ⟨6, .dot⟩,
      ⟨7, .name "every"⟩, ⟨12, .openParen⟩, ⟨13, .name "t"⟩, ⟨15, .arrow⟩,
      ⟨18, .name "t"⟩, ⟨20, .operator .equal⟩, ⟨23, .literal (.integer 1)⟩,
      ⟨24, .closeParen⟩, ⟨26, .operator .equal⟩, ⟨29, .literal (.integer 2)⟩]
  have hlength : checkLength "_.tags.every(t => t == 1) == 2" default =
      .ok () := by decide +kernel
  have htokens : tokenize "_.tags.every(t => t == 1) == 2" = .ok tokens := by
    decide +kernel
  let query := "EXISTS (SELECT 1 FROM json_each((data -> '$.tags')) " ++
    "AS json_1 WHERE NOT ((json_1.value = ?)))"
  have hquery : read? everyTagIsOneSql.sql =
      some (.not (.operator (.binary .equal) (.operand query.toList)
        (.operand ['?']))) := by
    decide +kernel
  refine ⟨?_, by decide +kernel, ?_⟩
  · unfold parse readExpr readTokens
    rw [hlength, htokens]
    rfl
  · rintro first second ⟨before, after, hread, -, -⟩
    rw [hread] at hquery
    cases hquery

end DocFilter
