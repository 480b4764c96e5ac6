import DocFilter.Proofs.Emission.Closed
import DocFilter.Proofs.Literals.Independence
import DocFilter.Proofs.Literals.Order
import DocFilter.Proofs.Normal.Tidy
import DocFilter.Proofs.Syntax.Outside

/-!
# Question marks

Emission writes one question mark for each parameter.  No fixed text and no
alias has one, and neither has a path of names.  So whoever counts question
marks counts parameters, whether or not quoted texts are skipped: it only takes
columns without them.
-/

namespace DocFilter

/-! ## Fragments -/

/-- The number of question marks in the text of a fragment, those in quoted
texts included. -/
def Fragment.marks (fragment : Fragment) : Nat :=
  fragment.sql.toList.count '?'

/-- A fragment has as many question marks as parameters. -/
def Fragment.IsMarked (fragment : Fragment) : Prop :=
  fragment.marks = fragment.params.length

namespace Fragment

theorem marks_append (first second : Fragment) :
    (first ++ second).marks = first.marks + second.marks := by
  rw [marks, sql_append, String.toList_append, List.count_append]
  rfl

theorem marks_ofText_eq_zero {text : String} (h : '?' ∉ text.toList) :
    (ofText text).marks = 0 :=
  List.count_eq_zero.mpr h

theorem isMarked_placeholder (value : Literal) :
    (placeholder value).IsMarked := by
  change "?".toList.count '?' = 1
  decide

theorem isMarked_ofText {text : String} (h : '?' ∉ text.toList) :
    (ofText text).IsMarked :=
  marks_ofText_eq_zero h

theorem IsMarked.append {first second : Fragment} (hfirst : first.IsMarked)
    (hsecond : second.IsMarked) : (first ++ second).IsMarked := by
  rw [IsMarked, marks_append, params_append, List.length_append, hfirst,
    hsecond]

/-- A fragment between two fixed texts. -/
theorem IsMarked.enclose {opening closing : String} {fragment : Fragment}
    (h : fragment.IsMarked) (hopening : '?' ∉ opening.toList)
    (hclosing : '?' ∉ closing.toList) :
    (opening ++ fragment ++ closing : Fragment).IsMarked :=
  ((isMarked_ofText hopening).append h).append (isMarked_ofText hclosing)

/-- Two fragments with fixed texts around them and between them. -/
theorem IsMarked.enclose₂ {opening middle closing : String}
    {first second : Fragment} (hfirst : first.IsMarked)
    (hsecond : second.IsMarked) (hopening : '?' ∉ opening.toList)
    (hmiddle : '?' ∉ middle.toList) (hclosing : '?' ∉ closing.toList) :
    (opening ++ first ++ middle ++ second ++ closing : Fragment).IsMarked :=
  ((((isMarked_ofText hopening).append hfirst).append
    (isMarked_ofText hmiddle)).append hsecond).append
      (isMarked_ofText hclosing)

theorem IsMarked.ofJson {fragment : Fragment} (h : fragment.IsMarked)
    (sort : ValueSort) : (sort.ofJson fragment).IsMarked := by
  cases sort with
  | json => exact h
  | scalar => exact h.enclose (by decide) (by decide)

end Fragment

namespace Sql

theorem questionMark_notMem_aliasName (scope : Scope) :
    '?' ∉ scope.aliasName.toList :=
  (joins_aliasName scope 0).2

theorem questionMark_notMem_quotedPath {labels : List String}
    (h : ∀ label ∈ labels, IsName label) :
    '?' ∉ (quotedPath labels).toList := by
  rw [toList_quotedPath h]
  intro hmem
  have hsteps : '?' ∈ steps labels := by simpa using hmem
  rcases mem_steps h hsteps with hpoint | hquote | hmark
  · exact absurd hpoint (by decide)
  · exact absurd hquote (by decide)
  · exact hmark (by decide)

theorem isMarked_elementTest (scope : Scope) (quantifier : Quantifier)
    {collection condition : Fragment} (hcollection : collection.IsMarked)
    (hcondition : condition.IsMarked) :
    (elementTest scope.aliasName quantifier collection
      condition).IsMarked := by
  have halias := Fragment.isMarked_ofText (questionMark_notMem_aliasName scope)
  cases quantifier with
  | any =>
    have hsource := hcollection.enclose
      (by decide : '?' ∉ "EXISTS (SELECT 1 FROM json_each(".toList)
      (by decide : '?' ∉ ") AS ".toList)
    exact (((hsource.append halias).append (Fragment.isMarked_ofText
      (by decide : '?' ∉ " WHERE ".toList))).append hcondition).append
        (Fragment.isMarked_ofText (by decide : '?' ∉ ")".toList))
  | all =>
    have hsource := hcollection.enclose
      (by decide : '?' ∉ "NOT EXISTS (SELECT 1 FROM json_each(".toList)
      (by decide : '?' ∉ ") AS ".toList)
    exact (((hsource.append halias).append (Fragment.isMarked_ofText
      (by decide : '?' ∉ " WHERE NOT (".toList))).append hcondition).append
        (Fragment.isMarked_ofText (by decide : '?' ∉ "))".toList))

theorem isMarked_membershipTest (scope : Scope)
    {collection needle : Fragment} (hcollection : collection.IsMarked)
    (hneedle : needle.IsMarked) :
    (membershipTest scope.aliasName collection needle).IsMarked := by
  have halias := Fragment.isMarked_ofText (questionMark_notMem_aliasName scope)
  have hvalue := halias.append
    (Fragment.isMarked_ofText (by decide : '?' ∉ ".value = ".toList))
  exact isMarked_elementTest scope .any hcollection (hvalue.append hneedle)

theorem isMarked_lengthOf {object : Fragment} (h : object.IsMarked) :
    (lengthOf object).IsMarked :=
  ((Fragment.isMarked_ofText (by decide +kernel : '?' ∉
    "(SELECT CASE json_type(length_arg) WHEN 'text' THEN length(length_arg ->> '$') ".toList)).append
    (Fragment.isMarked_ofText (by decide +kernel : '?' ∉
      "WHEN 'array' THEN json_array_length(length_arg) ELSE (length_arg ->> '$.length') END FROM (SELECT ".toList))
    |>.append h).append (Fragment.isMarked_ofText (by decide))

theorem isMarked_commaSeparated {fragments : List Fragment}
    (h : ∀ fragment ∈ fragments, fragment.IsMarked) :
    (commaSeparated fragments).IsMarked := by
  induction fragments with
  | nil => rfl
  | cons fragment others ih =>
    obtain ⟨hfragment, hothers⟩ := List.forall_mem_cons.mp h
    cases others with
    | nil => exact hfragment
    | cons next others =>
      exact (hfragment.append (Fragment.isMarked_ofText (by decide))).append
        (ih hothers)

end Sql

/-! ## Expressions -/

/-- No binding of a scope has a question mark in its texts. -/
abbrev Scope.IsUnmarked (scope : Scope) : Prop :=
  scope.All fun binding => ∀ sort, '?' ∉ (binding.sql sort).toList

theorem Scope.IsUnmarked.element {scope : Scope} (h : scope.IsUnmarked)
    (name : String) : (scope.element name).IsUnmarked :=
  Scope.All.element h (fun sort => (Sql.joins_element scope sort).2) name

theorem Scope.isUnmarked_root {documentColumn rowColumn : String}
    (hdocument : '?' ∉ documentColumn.toList)
    (hrow : '?' ∉ rowColumn.toList) :
    (Scope.root documentColumn rowColumn).IsUnmarked := by
  apply Scope.All.root <;> intro sort <;> cases sort <;>
    simp [Binding.sql, Binding.document, Binding.column, String.toList_append,
      hdocument, hrow]

mutual

/-- The SQL of a tidy expression for a JSON value has a question mark for each
parameter. -/
theorem JsonExpr.isMarked_emit
    {expr : JsonExpr} (htidy : expr.IsTidy) {sort : ValueSort} {scope : Scope}
    (hscope : scope.IsUnmarked) {fragment : Fragment}
    (h : expr.emit sort scope = .ok fragment) : fragment.IsMarked := by
  cases expr with
  | name text =>
    obtain ⟨binding, hbinding, rfl⟩ := JsonExpr.emit_name_eq_ok.mp h
    exact Fragment.isMarked_ofText (hscope.lookup? hbinding sort)
  | path object labels =>
    obtain ⟨inner, hinner, rfl⟩ := JsonExpr.emit_path_eq_ok.mp h
    obtain ⟨hobject, -, hlabels⟩ := htidy
    have harrow : '?' ∉ sort.arrow.toList := by cases sort <;> decide
    have hpath := Fragment.isMarked_ofText
      (Sql.questionMark_notMem_quotedPath hlabels)
    exact (JsonExpr.isMarked_emit hobject hscope hinner).enclose₂ hpath
      (by decide) harrow (by decide)
  | item object key =>
    obtain ⟨inner, hinner, place, hplace, rfl⟩ := JsonExpr.emit_item_eq_ok.mp h
    have hobject := JsonExpr.isMarked_emit htidy.1 hscope hinner
    have hkey := ScalarExpr.isMarked_emit htidy.2 hscope hplace
    exact (hobject.enclose₂ hkey (by decide) (by decide) (by decide)).ofJson
      sort
  | array elements =>
    obtain ⟨fragments, hfragments, rfl⟩ := JsonExpr.emit_array_eq_ok.mp h
    have helements := Sql.isMarked_commaSeparated
      (JsonExpr.isMarked_emitAll htidy hscope hfragments)
    exact (helements.enclose (by decide) (by decide)).ofJson sort
  | ofScalar value =>
    obtain ⟨inner, hinner, rfl⟩ := JsonExpr.emit_ofScalar_eq_ok.mp h
    have hvalue := ScalarExpr.isMarked_emit htidy.2 hscope hinner
    exact (hvalue.enclose (by decide) (by decide)).ofJson sort

theorem JsonExpr.isMarked_emitAll
    {elements : List JsonExpr} (htidy : JsonExpr.AreTidy elements)
    {scope : Scope} (hscope : scope.IsUnmarked) {fragments : List Fragment}
    (h : JsonExpr.emitAll elements scope = .ok fragments) :
    ∀ fragment ∈ fragments, fragment.IsMarked := by
  cases elements with
  | nil =>
    obtain rfl := JsonExpr.emitAll_nil_eq_ok.mp h
    exact List.forall_mem_nil _
  | cons element others =>
    obtain ⟨first, hfirst, later, hlater, rfl⟩ :=
      JsonExpr.emitAll_cons_eq_ok.mp h
    exact List.forall_mem_cons.mpr
      ⟨JsonExpr.isMarked_emit htidy.1 hscope hfirst,
        JsonExpr.isMarked_emitAll htidy.2 hscope hlater⟩

/-- The SQL of a tidy expression for a scalar has a question mark for each
parameter. -/
theorem ScalarExpr.isMarked_emit
    {expr : ScalarExpr} (htidy : expr.IsTidy) {scope : Scope}
    (hscope : scope.IsUnmarked) {fragment : Fragment}
    (h : expr.emit scope = .ok fragment) : fragment.IsMarked := by
  cases expr with
  | literal value =>
    obtain rfl := ScalarExpr.emit_literal_eq_ok.mp h
    exact Fragment.isMarked_placeholder value
  | matching style subject pattern =>
    obtain ⟨first, hfirst, second, hsecond, rfl⟩ :=
      ScalarExpr.emit_matching_eq_ok.mp h
    have hpattern := ScalarExpr.isMarked_emit htidy.2 hscope hfirst
    have hsubject := ScalarExpr.isMarked_emit htidy.1 hscope hsecond
    have hname : Fragment.IsMarked style.name :=
      Fragment.isMarked_ofText (by cases style <;> decide)
    have hopening := hname.append
      (Fragment.isMarked_ofText (by decide : '?' ∉ "(".toList))
    have hcomma := (hopening.append hpattern).append
      (Fragment.isMarked_ofText (by decide : '?' ∉ ", ".toList))
    exact (hcomma.append hsubject).append
      (Fragment.isMarked_ofText (by decide))
  | length object =>
    obtain ⟨inner, hinner, rfl⟩ := ScalarExpr.emit_length_eq_ok.mp h
    exact Sql.isMarked_lengthOf (JsonExpr.isMarked_emit htidy hscope hinner)
  | includes collection needle =>
    obtain ⟨inner, hinner, sought, hsought, rfl⟩ :=
      ScalarExpr.emit_includes_eq_ok.mp h
    exact Sql.isMarked_membershipTest scope
      (JsonExpr.isMarked_emit htidy.1 hscope hinner)
      (ScalarExpr.isMarked_emit htidy.2 hscope hsought)
  | quantified quantifier collection element condition =>
    obtain ⟨inner, hinner, test, htest, rfl⟩ :=
      ScalarExpr.emit_quantified_eq_ok.mp h
    exact Sql.isMarked_elementTest scope quantifier
      (JsonExpr.isMarked_emit htidy.1 hscope hinner)
      (ScalarExpr.isMarked_emit htidy.2 (hscope.element element) htest)
  | unary op operand =>
    obtain ⟨inner, hinner, rfl⟩ := ScalarExpr.emit_unary_eq_ok.mp h
    have hoperand : operand.IsTidy := htidy
    have hopening : '?' ∉ op.sqlOpening.toList := by cases op <;> decide
    exact (ScalarExpr.isMarked_emit hoperand hscope hinner).enclose hopening
      (by decide)
  | binary op left right =>
    obtain ⟨first, hfirst, second, hsecond, rfl⟩ :=
      ScalarExpr.emit_binary_eq_ok.mp h
    have hleft := ScalarExpr.isMarked_emit htidy.1 hscope hfirst
    have hright := ScalarExpr.isMarked_emit htidy.2 hscope hsecond
    have hop : '?' ∉ (" " ++ op.sql ++ " ").toList := by cases op <;> decide
    exact hleft.enclose₂ hright (by decide) hop (by decide)
  | ofJson value =>
    exact JsonExpr.isMarked_emit htidy.2 hscope
      (ScalarExpr.emit_ofJson_eq_ok.mp h)

end

/-- An expression that is compiled has a question mark for each parameter. -/
theorem isMarked_of_compile_eq_ok {text : String} {options : Options}
    (hdocument : '?' ∉ options.documentColumn.toList)
    (hrow : '?' ∉ options.rowColumn.toList) {fragment : Fragment}
    (h : compile text options = .ok fragment) : fragment.IsMarked := by
  obtain ⟨tree, hread, -, hsql⟩ := exists_tree_of_compile_eq_ok h
  have htidy := tree.isTidy_normalize (JsonExpr.isTidy_of_readExpr_eq_ok hread)
  exact ScalarExpr.isMarked_emit htidy.asScalar
    (Scope.isUnmarked_root hdocument hrow) hsql

/-! ## Placeholders -/

/-- Every quoted text of a fragment is closed, and outside of them it has one
placeholder for each parameter. -/
structure Fragment.IsPlaced (fragment : Fragment) : Prop where
  closed : Sql.endsQuoted false fragment.sql.toList = false
  count : Sql.placeholders fragment.sql.toList = fragment.params.length

namespace Fragment

theorem isPlaced_ofText {text : String}
    (hclosed : Sql.endsQuoted false text.toList = false)
    (h : '?' ∉ text.toList) : (ofText text).IsPlaced :=
  ⟨hclosed, Sql.placeholders_eq_zero h⟩

theorem IsPlaced.append {first second : Fragment} (hfirst : first.IsPlaced)
    (hsecond : second.IsPlaced) : (first ++ second).IsPlaced := by
  constructor
  · rw [sql_append, String.toList_append, Sql.endsQuoted_append,
      hfirst.closed, hsecond.closed]
  · rw [Sql.placeholders, sql_append, String.toList_append,
      Sql.outside_append, hfirst.closed, List.count_append, params_append,
      List.length_append, ← hfirst.count, ← hsecond.count]
    rfl

/-- Parentheses do not matter for placeholders. -/
theorem isKept_isPlaced : IsKept fun _ _ fragment => fragment.IsPlaced where
  fixed h := isPlaced_ofText h.1.endsQuoted_eq h.2
  placeholder _ :=
    ⟨(by decide : Sql.endsQuoted false "?".toList = false),
      (by decide : Sql.placeholders "?".toList = 1)⟩
  path labels :=
    ⟨(Sql.isClosed_quotedPath labels).endsQuoted_eq,
      Sql.placeholders_quotedPath labels⟩
  append hfirst hsecond := hfirst.append hsecond
  within h _ := h

end Fragment

theorem Scope.isPlaced_root {documentColumn rowColumn : String}
    (hdocument : '?' ∉ documentColumn.toList ∧ '\'' ∉ documentColumn.toList)
    (hrow : '?' ∉ rowColumn.toList ∧ '\'' ∉ rowColumn.toList) :
    (Scope.root documentColumn rowColumn).Keeps
      fun _ _ fragment => fragment.IsPlaced := by
  have hcolumn {column : String}
      (h : '?' ∉ column.toList ∧ '\'' ∉ column.toList) :
      (Fragment.ofText column).IsPlaced :=
    Fragment.isPlaced_ofText (Sql.endsQuoted_eq_of_notMem h.2 false) h.1
  have hopening : (Fragment.ofText "(").IsPlaced :=
    Fragment.isPlaced_ofText (by decide) (by decide)
  have hclosing : (Fragment.ofText " ->> '$')").IsPlaced :=
    Fragment.isPlaced_ofText (by decide) (by decide)
  have hquote : (Fragment.ofText "json_quote(").IsPlaced :=
    Fragment.isPlaced_ofText (by decide) (by decide)
  have hquoted : (Fragment.ofText ")").IsPlaced :=
    Fragment.isPlaced_ofText (by decide) (by decide)
  apply Scope.All.root <;> intro sort <;> cases sort
  · exact hcolumn hdocument
  · exact (hopening.append (hcolumn hdocument)).append hclosing
  · exact (hquote.append (hcolumn hrow)).append hquoted
  · exact hcolumn hrow

/-- An expression that is compiled closes its quoted texts, and has a
placeholder for each parameter outside of them. -/
theorem isPlaced_of_compile_eq_ok {text : String} {options : Options}
    (hdocument : '?' ∉ options.documentColumn.toList ∧
      '\'' ∉ options.documentColumn.toList)
    (hrow : '?' ∉ options.rowColumn.toList ∧
      '\'' ∉ options.rowColumn.toList)
    {fragment : Fragment} (h : compile text options = .ok fragment) :
    fragment.IsPlaced := by
  obtain ⟨tree, -, -, hsql⟩ := exists_tree_of_compile_eq_ok h
  exact ScalarExpr.emit_keeps Fragment.isKept_isPlaced
    (Scope.isPlaced_root hdocument hrow) hsql

end DocFilter
