import DocFilter.Proofs.Decimal.Spelling
import DocFilter.Proofs.Emission.Inversion
import DocFilter.Proofs.Syntax.Scan

/-!
# Emitted SQL is closed

Emission puts fragments between fixed texts, and of a fixed text only the
number of parentheses that it opens or closes matters.  A property of fragments
that this keeps holds of everything that is emitted; the induction on the
expression is done once, for all such properties.  The first of them is to
close the parentheses and the quoted texts that a fragment opens.
-/

namespace DocFilter

/-! ## Bound names -/

/-- Both texts of a bound name are closed. -/
structure Binding.IsClosed (binding : Binding) : Prop where
  json : Sql.IsClosed binding.json.toList
  scalar : Sql.IsClosed binding.scalar.toList

theorem Binding.IsClosed.sql {binding : Binding} (h : binding.IsClosed)
    (sort : ValueSort) :
    Sql.IsClosed (binding.sql sort).toList := by
  cases sort with
  | json => exact h.json
  | scalar => exact h.scalar

/-- Every binding of a scope has a property, hidden ones included. -/
def Scope.All (P : Binding → Prop) (scope : Scope) : Prop :=
  ∀ entry ∈ scope.bindings, P entry.2

theorem Scope.All.lookup?
    {P : Binding → Prop} {scope : Scope} (h : scope.All P) {name : String}
    {binding : Binding}
    (hlookup : scope.lookup? name = some binding) : P binding := by
  obtain ⟨before, after, hbindings, -⟩ := List.lookup_eq_some_iff.mp hlookup
  have hmem : (name, binding) ∈ scope.bindings := by
    rw [hbindings]
    simp
  exact h (name, binding) hmem

theorem Scope.All.element
    {P : Binding → Prop} {scope : Scope} (h : scope.All P)
    (hP : P (.element scope.aliasName))
    (name : String) : (scope.element name).All P := by
  intro entry hentry
  rcases List.mem_cons.mp hentry with rfl | hentry
  · exact hP
  · exact h entry hentry

theorem Scope.All.root
    {P : Binding → Prop} {documentColumn rowColumn : String}
    (hdocument : P (.document documentColumn)) (hrow : P (.column rowColumn)) :
    (Scope.root documentColumn rowColumn).All P := by
  intro entry hentry
  rcases List.mem_cons.mp hentry with rfl | hentry
  · exact hdocument
  · rcases List.mem_cons.mp hentry with rfl | hentry
    · exact hrow
    · cases hentry

/-! ## Fragments -/

/-- The text of a fragment leads from one number of open parentheses to
another. -/
abbrev Fragment.Leads (before after : Nat) (fragment : Fragment) : Prop :=
  Sql.Leads before after fragment.sql.toList

/-- The text of a fragment is closed. -/
abbrev Fragment.IsClosed (fragment : Fragment) : Prop := fragment.Leads 0 0

theorem Fragment.Leads.append
    {before middle after : Nat} {first second : Fragment}
    (hfirst : first.Leads before middle)
    (hsecond : second.Leads middle after) :
    (first ++ second).Leads before after := by
  unfold Fragment.Leads
  rw [Fragment.sql_append, String.toList_append]
  exact Sql.Leads.append hfirst hsecond

namespace Sql

/-- The digits of a number have no meaning to a scan. -/
theorem isClosed_toString (n : Nat) : IsClosed (toString n).toList := by
  apply Leads.of_plain
  intro c hc
  have hdigit := Decimal.isDigit_of_mem_toString hc
  refine ⟨?_, ?_, ?_⟩ <;>
    · rintro rfl
      exact absurd hdigit (by decide)

theorem isClosed_aliasName (scope : Scope) :
    IsClosed scope.aliasName.toList := by
  unfold Scope.aliasName
  rw [String.toList_append]
  exact Leads.append (by decide) (isClosed_toString (scope.depth + 1))

end Sql

theorem Binding.isClosed_document {column : String}
    (h : Sql.IsClosed column.toList) :
    (Binding.document column).IsClosed := by
  constructor
  · exact h
  · unfold Binding.document
    rw [String.toList_append, String.toList_append]
    exact Sql.Leads.enclose (by decide : Sql.Leads 0 1 "(".toList) h (by decide)

theorem Binding.isClosed_column {name : String} (h : Sql.IsClosed name.toList) :
    (Binding.column name).IsClosed := by
  constructor
  · unfold Binding.column
    rw [String.toList_append, String.toList_append]
    exact Sql.Leads.enclose (by decide : Sql.Leads 0 1 "json_quote(".toList) h
      (by decide)
  · exact h

theorem Binding.isClosed_element {aliasName : String}
    (h : Sql.IsClosed aliasName.toList) :
    (Binding.element aliasName).IsClosed := by
  constructor
  · unfold Binding.element
    simp only [String.toList_append]
    have htype :=
      Sql.Leads.append (by decide : Sql.Leads 0 1 "IIF(".toList) (h.within 1)
    have htest := htype.append
      (by decide : Sql.Leads 1 1 ".type IN ('object', 'array'), ".toList)
    have hvalue := (htest.append (h.within 1)).append
      (by decide : Sql.Leads 1 2 ".value, json_quote(".toList)
    exact (hvalue.append (h.within 2)).append (by decide)
  · unfold Binding.element
    rw [String.toList_append]
    exact h.append (by decide)

/-- Both texts of every binding of a scope are closed. -/
abbrev Scope.IsClosed (scope : Scope) : Prop := scope.All Binding.IsClosed

theorem Scope.IsClosed.element {scope : Scope} (h : scope.IsClosed)
    (name : String) :
    (scope.element name).IsClosed :=
  Scope.All.element h (Binding.isClosed_element
    (Sql.isClosed_aliasName scope)) name

/-! ## Properties that emission keeps -/

/-- Fixed SQL: a text without placeholders that leads from one number of open
parentheses to another. -/
def Sql.Joins (before after : Nat) (cs : List Char) : Prop :=
  Sql.Leads before after cs ∧ '?' ∉ cs

instance (before after : Nat) (cs : List Char) :
    Decidable (Sql.Joins before after cs) :=
  inferInstanceAs (Decidable (_ ∧ _))

/-- A property of fragments that holds of everything emission starts from, and
stays when fragments are put together.  It may depend on the numbers of open
parentheses before and behind the fragment. -/
structure Fragment.IsKept (K : Nat → Nat → Fragment → Prop) : Prop where
  fixed {before after : Nat} {text : String}
    (h : Sql.Joins before after text.toList) : K before after text
  placeholder (value : Literal) : K 0 0 (.placeholder value)
  path (labels : List String) : K 0 0 (Sql.quotedPath labels)
  append {before middle after : Nat} {first second : Fragment}
    (hfirst : K before middle first) (hsecond : K middle after second) :
    K before after (first ++ second)
  within {fragment : Fragment} (h : K 0 0 fragment) (depth : Nat) :
    K depth depth fragment

namespace Sql

theorem joins_aliasName (scope : Scope) (depth : Nat) :
    Joins depth depth scope.aliasName.toList := by
  refine ⟨(isClosed_aliasName scope).within depth, ?_⟩
  unfold Scope.aliasName
  rw [String.toList_append, List.mem_append]
  rintro (hword | hnumber)
  · exact absurd hword (by decide)
  · exact absurd (Decimal.isDigit_of_mem_toString hnumber) (by decide)

theorem joins_element (scope : Scope) (sort : ValueSort) :
    Joins 0 0 ((Binding.element scope.aliasName).sql sort).toList := by
  have hclosed := Binding.isClosed_element (isClosed_aliasName scope)
  have halias : '?' ∉ scope.aliasName.toList := (joins_aliasName scope 0).2
  refine ⟨hclosed.sql sort, ?_⟩
  cases sort <;>
    simp [Binding.sql, Binding.element, String.toList_append, halias]

end Sql

namespace Fragment.IsKept

variable {K : Nat → Nat → Fragment → Prop}

/-- A fragment between two fixed texts, the first of which opens what the
second one closes. -/
theorem enclose
    (hK : IsKept K) {opening closing : String} {fragment : Fragment}
    {depth : Nat} (hopening : Sql.Joins 0 depth opening.toList)
    (h : K 0 0 fragment) (hclosing : Sql.Joins depth 0 closing.toList) :
    K 0 0 (opening ++ fragment ++ closing) :=
  hK.append (hK.append (hK.fixed hopening) (hK.within h depth))
    (hK.fixed hclosing)

/-- Two fragments with fixed texts around them and between them. -/
theorem enclose₂
    (hK : IsKept K) {opening middle closing : String}
    {first second : Fragment} {depth depth' : Nat}
    (hopening : Sql.Joins 0 depth opening.toList) (hfirst : K 0 0 first)
    (hmiddle : Sql.Joins depth depth' middle.toList) (hsecond : K 0 0 second)
    (hclosing : Sql.Joins depth' 0 closing.toList) :
    K 0 0 (opening ++ first ++ middle ++ second ++ closing) := by
  have hbefore := hK.append (hK.fixed hopening) (hK.within hfirst depth)
  have hbetween := hK.append hbefore (hK.fixed hmiddle)
  exact hK.append (hK.append hbetween (hK.within hsecond depth'))
    (hK.fixed hclosing)

theorem ofJson
    (hK : IsKept K) {fragment : Fragment} (h : K 0 0 fragment)
    (sort : ValueSort) : K 0 0 (sort.ofJson fragment) := by
  cases sort with
  | json => exact h
  | scalar =>
    exact hK.enclose (by decide : Sql.Joins 0 1 "(".toList) h (by decide)

theorem elementTest
    (hK : IsKept K) (scope : Scope) (quantifier : Quantifier)
    {collection condition : Fragment} (hcollection : K 0 0 collection)
    (hcondition : K 0 0 condition) :
    K 0 0 (Sql.elementTest scope.aliasName quantifier collection
      condition) := by
  have halias : K 1 1 scope.aliasName := hK.fixed (Sql.joins_aliasName scope 1)
  cases quantifier with
  | any =>
    have hopening : K 0 2 "EXISTS (SELECT 1 FROM json_each(" :=
      hK.fixed (by decide)
    have hsource := hK.append hopening (hK.within hcollection 2)
    have has := hK.append hsource (hK.fixed (by decide : Sql.Joins 2 1
      ") AS ".toList))
    have hwhere := hK.append (hK.append has halias)
      (hK.fixed (by decide : Sql.Joins 1 1 " WHERE ".toList))
    exact hK.append (hK.append hwhere (hK.within hcondition 1))
      (hK.fixed (by decide : Sql.Joins 1 0 ")".toList))
  | all =>
    have hopening : K 0 2 "NOT EXISTS (SELECT 1 FROM json_each(" :=
      hK.fixed (by decide)
    have hsource := hK.append hopening (hK.within hcollection 2)
    have has := hK.append hsource (hK.fixed (by decide : Sql.Joins 2 1
      ") AS ".toList))
    have hwhere := hK.append (hK.append has halias)
      (hK.fixed (by decide : Sql.Joins 1 2 " WHERE NOT (".toList))
    exact hK.append (hK.append hwhere (hK.within hcondition 2))
      (hK.fixed (by decide : Sql.Joins 2 0 "))".toList))

theorem membershipTest
    (hK : IsKept K) (scope : Scope) {collection needle : Fragment}
    (hcollection : K 0 0 collection) (hneedle : K 0 0 needle) :
    K 0 0 (Sql.membershipTest scope.aliasName collection needle) := by
  have halias : K 0 0 scope.aliasName := hK.fixed (Sql.joins_aliasName scope 0)
  have hvalue := hK.append halias
    (hK.fixed (by decide : Sql.Joins 0 0 ".value = ".toList))
  exact hK.elementTest scope .any hcollection (hK.append hvalue hneedle)

theorem lengthOf
    (hK : IsKept K) {object : Fragment} (h : K 0 0 object) :
    K 0 0 (Sql.lengthOf object) := by
  have htype : K 0 1
      "(SELECT CASE json_type(length_arg) WHEN 'text' THEN length(length_arg ->> '$') " :=
    hK.fixed (by decide +kernel)
  have harray := hK.append htype (hK.fixed (by decide +kernel : Sql.Joins 1 2
    "WHEN 'array' THEN json_array_length(length_arg) ELSE (length_arg ->> '$.length') END FROM (SELECT ".toList))
  exact hK.append (hK.append harray (hK.within h 2))
    (hK.fixed (by decide : Sql.Joins 2 0 " AS length_arg))".toList))

theorem commaSeparated
    (hK : IsKept K) {fragments : List Fragment}
    (h : ∀ fragment ∈ fragments, K 0 0 fragment) :
    K 0 0 (Sql.commaSeparated fragments) := by
  induction fragments with
  | nil => exact hK.fixed (by decide : Sql.Joins 0 0 "".toList)
  | cons fragment others ih =>
    obtain ⟨hfragment, hothers⟩ := List.forall_mem_cons.mp h
    cases others with
    | nil => exact hfragment
    | cons next others =>
      exact hK.append (hK.append hfragment
        (hK.fixed (by decide : Sql.Joins 0 0 ", ".toList))) (ih hothers)

end Fragment.IsKept

/-- Both texts of every binding of a scope have a property. -/
abbrev Scope.Keeps (K : Nat → Nat → Fragment → Prop) (scope : Scope) : Prop :=
  scope.All fun binding => ∀ sort, K 0 0 (binding.sql sort)

theorem Scope.Keeps.element
    {K : Nat → Nat → Fragment → Prop} {scope : Scope} (h : scope.Keeps K)
    (hK : Fragment.IsKept K) (name : String) :
    (scope.element name).Keeps K :=
  Scope.All.element h
    (fun sort => hK.fixed (Sql.joins_element scope sort)) name

/-! ## Expressions -/

variable {K : Nat → Nat → Fragment → Prop}

mutual

/-- A property that emission keeps holds of the SQL of every expression for a
JSON value. -/
theorem JsonExpr.emit_keeps
    (hK : Fragment.IsKept K) {expr : JsonExpr} {sort : ValueSort}
    {scope : Scope} (hscope : scope.Keeps K) {fragment : Fragment}
    (h : expr.emit sort scope = .ok fragment) : K 0 0 fragment := by
  cases expr with
  | name text =>
    obtain ⟨binding, hbinding, rfl⟩ := JsonExpr.emit_name_eq_ok.mp h
    exact hscope.lookup? hbinding sort
  | path object labels =>
    obtain ⟨inner, hinner, rfl⟩ := JsonExpr.emit_path_eq_ok.mp h
    have hobject := JsonExpr.emit_keeps hK hscope hinner
    have harrow : Sql.Joins 1 1 sort.arrow.toList := by cases sort <;> decide
    exact hK.enclose₂ (by decide : Sql.Joins 0 1 "(".toList) hobject harrow
      (hK.path labels) (by decide)
  | item object key =>
    obtain ⟨inner, hinner, place, hplace, rfl⟩ := JsonExpr.emit_item_eq_ok.mp h
    have hobject := JsonExpr.emit_keeps hK hscope hinner
    have hkey := ScalarExpr.emit_keeps hK hscope hplace
    have hitem := hK.enclose₂ (by decide : Sql.Joins 0 1 "(".toList) hobject
      (by decide : Sql.Joins 1 1 " -> ".toList) hkey
      (by decide : Sql.Joins 1 0 ")".toList)
    exact hK.ofJson hitem sort
  | array elements =>
    obtain ⟨fragments, hfragments, rfl⟩ := JsonExpr.emit_array_eq_ok.mp h
    have helements :=
      hK.commaSeparated (JsonExpr.emitAll_keeps hK hscope hfragments)
    have harray := hK.enclose (by decide : Sql.Joins 0 1 "json_array(".toList)
      helements (by decide : Sql.Joins 1 0 ")".toList)
    exact hK.ofJson harray sort
  | ofScalar value =>
    obtain ⟨inner, hinner, rfl⟩ := JsonExpr.emit_ofScalar_eq_ok.mp h
    have hvalue := ScalarExpr.emit_keeps hK hscope hinner
    have hquoted := hK.enclose (by decide : Sql.Joins 0 1 "json_quote(".toList)
      hvalue (by decide : Sql.Joins 1 0 ")".toList)
    exact hK.ofJson hquoted sort

theorem JsonExpr.emitAll_keeps
    (hK : Fragment.IsKept K) {elements : List JsonExpr} {scope : Scope}
    (hscope : scope.Keeps K)
    {fragments : List Fragment}
    (h : JsonExpr.emitAll elements scope = .ok fragments) :
    ∀ fragment ∈ fragments, K 0 0 fragment := by
  cases elements with
  | nil =>
    obtain rfl := JsonExpr.emitAll_nil_eq_ok.mp h
    exact List.forall_mem_nil _
  | cons element others =>
    obtain ⟨first, hfirst, later, hlater, rfl⟩ :=
      JsonExpr.emitAll_cons_eq_ok.mp h
    have hothers := JsonExpr.emitAll_keeps hK hscope hlater
    exact List.forall_mem_cons.mpr
      ⟨JsonExpr.emit_keeps hK hscope hfirst, hothers⟩

/-- A property that emission keeps holds of the SQL of every expression for a
scalar. -/
theorem ScalarExpr.emit_keeps
    (hK : Fragment.IsKept K) {expr : ScalarExpr} {scope : Scope}
    (hscope : scope.Keeps K) {fragment : Fragment}
    (h : expr.emit scope = .ok fragment) :
    K 0 0 fragment := by
  cases expr with
  | literal value =>
    obtain rfl := ScalarExpr.emit_literal_eq_ok.mp h
    exact hK.placeholder value
  | matching style subject pattern =>
    obtain ⟨first, hfirst, second, hsecond, rfl⟩ :=
      ScalarExpr.emit_matching_eq_ok.mp h
    have hpattern := ScalarExpr.emit_keeps hK hscope hfirst
    have hsubject := ScalarExpr.emit_keeps hK hscope hsecond
    have hname : Sql.Joins 0 0 style.name.toList := by cases style <;> decide
    have hopening := hK.append (hK.fixed hname)
      (hK.fixed (by decide : Sql.Joins 0 1 "(".toList))
    have hcomma := hK.append (hK.append hopening (hK.within hpattern 1))
      (hK.fixed (by decide : Sql.Joins 1 1 ", ".toList))
    exact hK.append (hK.append hcomma (hK.within hsubject 1))
      (hK.fixed (by decide : Sql.Joins 1 0 ")".toList))
  | length object =>
    obtain ⟨inner, hinner, rfl⟩ := ScalarExpr.emit_length_eq_ok.mp h
    exact hK.lengthOf (JsonExpr.emit_keeps hK hscope hinner)
  | includes collection needle =>
    obtain ⟨inner, hinner, sought, hsought, rfl⟩ :=
      ScalarExpr.emit_includes_eq_ok.mp h
    exact hK.membershipTest scope (JsonExpr.emit_keeps hK hscope hinner)
      (ScalarExpr.emit_keeps hK hscope hsought)
  | quantified quantifier collection element condition =>
    obtain ⟨inner, hinner, test, htest, rfl⟩ :=
      ScalarExpr.emit_quantified_eq_ok.mp h
    exact hK.elementTest scope quantifier (JsonExpr.emit_keeps hK hscope hinner)
      (ScalarExpr.emit_keeps hK (hscope.element hK element) htest)
  | unary op operand =>
    obtain ⟨inner, hinner, rfl⟩ := ScalarExpr.emit_unary_eq_ok.mp h
    have hopening : Sql.Joins 0 1 op.sqlOpening.toList := by cases op <;> decide
    have hoperand := ScalarExpr.emit_keeps hK hscope hinner
    exact hK.enclose hopening hoperand (by decide)
  | binary op left right =>
    obtain ⟨first, hfirst, second, hsecond, rfl⟩ :=
      ScalarExpr.emit_binary_eq_ok.mp h
    have hleft := ScalarExpr.emit_keeps hK hscope hfirst
    have hright := ScalarExpr.emit_keeps hK hscope hsecond
    have hop : Sql.Joins 1 1 (" " ++ op.sql ++ " ").toList := by
      cases op <;> decide
    exact hK.enclose₂ (by decide : Sql.Joins 0 1 "(".toList) hleft hop hright
      (by decide)
  | ofJson value =>
    exact JsonExpr.emit_keeps hK hscope (ScalarExpr.emit_ofJson_eq_ok.mp h)

end

/-! ## Closed SQL -/

/-- Leading from one number of open parentheses to another is a property that
emission keeps. -/
theorem Fragment.isKept_leads : Fragment.IsKept Fragment.Leads where
  fixed h := h.1
  placeholder _ := (by decide : Sql.IsClosed "?".toList)
  path labels := Sql.isClosed_quotedPath labels
  append hfirst hsecond := hfirst.append hsecond
  within h depth := Sql.Leads.within h depth

theorem Scope.IsClosed.keeps {scope : Scope} (h : scope.IsClosed) :
    scope.Keeps Fragment.Leads :=
  fun entry hentry => (h entry hentry).sql

/-- The SQL of an expression for a JSON value is closed. -/
theorem JsonExpr.isClosed_emit
    {expr : JsonExpr} {sort : ValueSort} {scope : Scope}
    (hscope : scope.IsClosed)
    {fragment : Fragment} (h : expr.emit sort scope = .ok fragment) :
    fragment.IsClosed :=
  JsonExpr.emit_keeps Fragment.isKept_leads hscope.keeps h

/-- The SQL of an expression for a scalar is closed. -/
theorem ScalarExpr.isClosed_emit
    {expr : ScalarExpr} {scope : Scope} (hscope : scope.IsClosed)
    {fragment : Fragment} (h : expr.emit scope = .ok fragment) :
    fragment.IsClosed :=
  ScalarExpr.emit_keeps Fragment.isKept_leads hscope.keeps h

end DocFilter
