import DocFilter.Proofs.Emission.Closed
import DocFilter.Proofs.Emission.Rows
import DocFilter.Proofs.Normal.Tidy
import DocFilter.Proofs.Scoping.Assembly

/-!
# The SQL of rows

What is emitted for a tidy expression is the SQL of its term or its row, and
this can be read back.  There is one statement for each form of SQL, which says
that the form keeps this, and the expressions follow by induction.
-/

namespace DocFilter

open Sql

/-! ## The SQL of terms and rows -/

theorem Fragment.ofText_append (first second : String) :
    ofText (first ++ second) = ofText first ++ ofText second := rfl

@[simp] theorem Fragment.empty_append (fragment : Fragment) :
    "" ++ fragment = fragment := by
  rw [Fragment.mk.injEq]
  simp

namespace Sql

theorem isWord_aliasName_append (scope : Scope) {suffix : String}
    (h : ∀ symbol ∈ Symbol.ofText suffix, symbol.isWord) :
    IsWord (scope.aliasName ++ suffix) := by
  unfold Scope.aliasName
  constructor
  · intro hempty
    have htoList := congrArg String.toList hempty
    simp at htoList
  · intro symbol hsymbol
    obtain ⟨c, hc, rfl⟩ := Symbol.mem_ofText.mp hsymbol
    rw [String.toList_append, String.toList_append, List.mem_append,
      List.mem_append] at hc
    rcases hc with (hword | hnumber) | hsuffix
    · have hjson : ("json_".toList.all fun c => (Symbol.char c).isWord) =
          true := by decide
      exact List.all_eq_true.mp hjson c hword
    · have hdigit := Decimal.isDigit_of_mem_toString hnumber
      have hmarks : (Symbol.marks.all fun mark => !mark.isDigit) = true := rfl
      refine decide_eq_true fun hmark => ?_
      have hother := List.all_eq_true.mp hmarks c hmark
      rw [hdigit] at hother
      cases hother
    · exact h _ (Symbol.mem_ofText.mpr ⟨c, hsuffix, rfl⟩)

theorem isWord_aliasName (scope : Scope) : IsWord scope.aliasName := by
  have h := isWord_aliasName_append scope
    (by decide : ∀ symbol ∈ Symbol.ofText "", symbol.isWord)
  rwa [String.append_empty] at h

/-- A term that can be read back and its SQL. -/
structure Term.Shows (term : Term) (fragment : Fragment) : Prop where
  isReadable : term.IsReadable
  fragment_eq : term.fragment = fragment

/-- A row that can be read back and its SQL. -/
structure RowShows (row : List Term) (fragment : Fragment) : Prop where
  ne_nil : row ≠ []
  isReadable : ∀ term ∈ row, term.IsReadable
  fragment_eq : Term.fragmentOfRow row = fragment

/-- Rows with the same SQL are the same. -/
theorem RowShows.unique {row row' : List Term} {fragment : Fragment}
    (h : RowShows row fragment) (h' : RowShows row' fragment) : row = row' :=
  Term.eq_of_fragmentOfRow_eq h.ne_nil h'.ne_nil h.isReadable h'.isReadable
    (h.fragment_eq.trans h'.fragment_eq.symm)

/-! ### Rows that are put together -/

section

variable {term : Term} {row row' : List Term} {fragment fragment' : Fragment}

theorem RowShows.of_eq (h : RowShows row fragment)
    (heq : fragment = fragment') : RowShows row fragment' := heq ▸ h

theorem RowShows.cons (h : term.Shows fragment)
    (hrow : RowShows row fragment') :
    RowShows (term :: row) (fragment ++ (" " ++ fragment')) where
  ne_nil := by simp
  isReadable := List.forall_mem_cons.mpr ⟨h.isReadable, hrow.isReadable⟩
  fragment_eq := by
    rw [Term.fragmentOfRow_cons term hrow.ne_nil, h.fragment_eq,
      hrow.fragment_eq]

theorem RowShows.append (h : RowShows row fragment)
    (h' : RowShows row' fragment') :
    RowShows (row ++ row') (fragment ++ (" " ++ fragment')) where
  ne_nil := by simp [h.ne_nil]
  isReadable := List.forall_mem_append.mpr ⟨h.isReadable, h'.isReadable⟩
  fragment_eq := by
    rw [Term.fragmentOfRow_append h.ne_nil h'.ne_nil, h.fragment_eq,
      h'.fragment_eq]

end

namespace Term

theorem Shows.row {term : Term} {fragment : Fragment}
    (h : term.Shows fragment) : RowShows [term] fragment where
  ne_nil := by simp
  isReadable := by simpa using h.isReadable
  fragment_eq := h.fragment_eq

@[simp] theorem isReadable_word_iff {text : String} :
    (word text).IsReadable ↔ IsWord text := by
  constructor
  · intro h
    cases h with
    | word h => exact h
  · exact .word

@[simp] theorem isReadable_call_iff {name : String}
    {rows : List (List Term)} :
    (call name rows).IsReadable ↔
      (∀ symbol ∈ Symbol.ofText name, symbol.isWord) ∧
        (∀ row ∈ rows, row ≠ []) ∧
          ∀ row ∈ rows, ∀ term ∈ row, term.IsReadable := by
  constructor
  · intro h
    cases h with
    | call hname hne h => exact ⟨hname, hne, h⟩
  · rintro ⟨hname, hne, h⟩
    exact .call hname hne h

section

variable {term : Term} {row row' : List Term} {fragment fragment' : Fragment}

theorem Shows.of_eq (h : term.Shows fragment) (heq : fragment = fragment') :
    term.Shows fragment' := heq ▸ h

theorem shows_word {text : String} (h : IsWord text) :
    (word text).Shows text :=
  ⟨.word h, fragment_word text⟩

theorem shows_arrow (sort : ValueSort) :
    (arrow sort).Shows (arrow sort).fragment := by
  cases sort <;> exact shows_word (by decide)

theorem shows_call {name : String}
    (hname : ∀ symbol ∈ Symbol.ofText name, symbol.isWord)
    (h : RowShows row fragment) :
    (call name [row]).Shows (name ++ ("(" ++ (fragment ++ ")"))) := by
  constructor
  · exact .call hname (List.forall_mem_singleton.mpr h.ne_nil)
      (List.forall_mem_singleton.mpr h.isReadable)
  · simp [h.fragment_eq]

theorem shows_enclosed (h : RowShows row fragment) :
    (enclosed row).Shows ("(" ++ (fragment ++ ")")) :=
  (shows_call (by decide) h).of_eq (Fragment.empty_append _)

/-! ### Forms -/

theorem shows_ofJson (h : term.Shows fragment) (sort : ValueSort) :
    (ofJson sort term).Shows (sort.ofJson fragment) := by
  cases sort with
  | json => exact h
  | scalar =>
    have hroot := shows_word (by decide : IsWord "'$'")
    have hrow := RowShows.cons h (.cons (shows_arrow .scalar) hroot.row)
    have hclosing : (" ->> '$')" : Fragment) =
        " " ++ ((arrow .scalar).fragment ++ (" " ++ ("'$'" ++ ")"))) := rfl
    exact (shows_enclosed hrow).of_eq (by simp [ValueSort.ofJson, hclosing])

theorem shows_path (h : term.Shows fragment) (sort : ValueSort)
    {labels : List String} (hlabels : ∀ label ∈ labels, IsName label) :
    (enclosed [term, arrow sort, word (quotedPath labels)]).Shows
      ("(" ++ fragment ++ sort.arrow ++ quotedPath labels ++ ")") := by
  have hpath := shows_word
    (isReadable_word_iff.mp (isReadable_quotedPath hlabels))
  have hrow := RowShows.cons h (.cons (shows_arrow sort) hpath.row)
  have harrow : (sort.arrow : Fragment) =
      " " ++ ((arrow sort).fragment ++ " ") := by cases sort <;> rfl
  exact (shows_enclosed hrow).of_eq (by simp [harrow])

theorem shows_item (h : term.Shows fragment) (hrow : RowShows row fragment') :
    (enclosed (term :: arrow .json :: row)).Shows
      ("(" ++ fragment ++ " -> " ++ fragment' ++ ")") := by
  have hrows := RowShows.cons h (.cons (shows_arrow .json) hrow)
  have harrow : (" -> " : Fragment) =
      " " ++ ((arrow .json).fragment ++ " ") := rfl
  exact (shows_enclosed hrows).of_eq (by simp [harrow])

theorem shows_quote (h : RowShows row fragment) :
    (call "json_quote" [row]).Shows ("json_quote(" ++ fragment ++ ")") := by
  have hopening : ("json_quote(" : Fragment) = "json_quote" ++ "(" := rfl
  exact (shows_call (by decide) h).of_eq (by simp [hopening])

theorem shows_matching (style : PatternStyle) (h : RowShows row fragment)
    (h' : RowShows row' fragment') :
    (call style.name [row, row']).Shows
      (style.name ++ "(" ++ fragment ++ ", " ++ fragment' ++ ")") := by
  constructor
  · have hname : ∀ symbol ∈ Symbol.ofText style.name, symbol.isWord := by
      cases style <;> decide
    simpa [h.ne_nil, h'.ne_nil] using
      ⟨hname, h.isReadable, h'.isReadable⟩
  · simp [h.fragment_eq, h'.fragment_eq]

theorem shows_lengthOf (h : term.Shows fragment) :
    (lengthOf term).Shows (Sql.lengthOf fragment) := by
  have hwords : RowShows lengthWords (fragmentOfRow lengthWords) :=
    ⟨by decide, by simp +decide [lengthWords, enclosed, arrow], rfl⟩
  have hargument := RowShows.cons (shows_word (by decide : IsWord "SELECT"))
    (.cons h (.cons (shows_word (by decide : IsWord "AS"))
      (shows_word (by decide : IsWord "length_arg")).row))
  let opening : Fragment :=
    "(" ++ (fragmentOfRow lengthWords ++ (" " ++ ("(" ++ ("SELECT" ++ " "))))
  let closing : Fragment :=
    " " ++ ("AS" ++ (" " ++ ("length_arg" ++ (")" ++ ")"))))
  have hparts : Sql.lengthOf fragment = opening ++ fragment ++ closing :=
    congrArg₂ (fun opening closing : Fragment =>
      opening ++ fragment ++ closing) (by decide +kernel) rfl
  refine (shows_enclosed
    (hwords.append (shows_enclosed hargument).row)).of_eq ?_
  simp [hparts, opening, closing]

theorem rowShows_test {aliasName : String} (halias : IsWord aliasName)
    (h : term.Shows fragment) (hrow : RowShows row fragment') :
    RowShows (test aliasName term row)
      (Sql.elementTest aliasName .any fragment fragment') := by
  have hcollection := shows_call
    (by decide : ∀ symbol ∈ Symbol.ofText "json_each", symbol.isWord) h.row
  have hselect : RowShows [word "SELECT", word "1", word "FROM"]
      (fragmentOfRow [word "SELECT", word "1", word "FROM"]) :=
    ⟨by decide, by simp +decide, rfl⟩
  have hrows := hselect.append (.cons hcollection
    (.cons (shows_word (by decide : IsWord "AS"))
      (.cons (shows_word halias)
        (.cons (shows_word (by decide : IsWord "WHERE")) hrow))))
  have hopening : ("EXISTS (SELECT 1 FROM json_each(" : Fragment) =
      "EXISTS" ++ (" " ++ ("(" ++
        (fragmentOfRow [word "SELECT", word "1", word "FROM"] ++
          (" " ++ ("json_each" ++ "("))))) := rfl
  have has : (") AS " : Fragment) = ")" ++ (" " ++ ("AS" ++ " ")) := rfl
  have hwhere : (" WHERE " : Fragment) = " " ++ ("WHERE" ++ " ") := rfl
  refine RowShows.of_eq (.cons (shows_word (by decide : IsWord "EXISTS"))
    (shows_enclosed hrows).row) ?_
  simp [Sql.elementTest, hopening, has, hwhere]

theorem rowShows_elementTest {aliasName : String} (halias : IsWord aliasName)
    (h : term.Shows fragment) (hrow : RowShows row fragment')
    (quantifier : Quantifier) :
    RowShows (elementTest aliasName term row quantifier)
      (Sql.elementTest aliasName quantifier fragment fragment') := by
  have hnot := shows_word (by decide : IsWord "NOT")
  cases quantifier with
  | any => exact rowShows_test halias h hrow
  | all =>
    have hcondition : RowShows [word "NOT", enclosed row]
        ("NOT (" ++ fragment' ++ ")") := by
      have hopening : ("NOT (" : Fragment) = "NOT" ++ (" " ++ "(") := rfl
      exact (RowShows.cons hnot (shows_enclosed hrow).row).of_eq
        (by simp [hopening])
    have hopening : ("NOT " : Fragment) = "NOT" ++ " " := rfl
    exact (RowShows.cons hnot (rowShows_test halias h hcondition)).of_eq
      (by simp [Sql.elementTest_all, hopening])

theorem rowShows_membershipTest (scope : Scope) (h : term.Shows fragment)
    (hrow : RowShows row fragment') :
    RowShows (membershipTest scope.aliasName term row)
      (Sql.membershipTest scope.aliasName fragment fragment') := by
  have hvalue := isWord_aliasName_append scope
    (by decide : ∀ symbol ∈ Symbol.ofText ".value", symbol.isWord)
  have hneedle : RowShows
      (word (scope.aliasName ++ ".value") :: word "=" :: row)
      (scope.aliasName ++ ".value = " ++ fragment') := by
    have hequals : (".value = " : Fragment) =
        ".value" ++ (" " ++ ("=" ++ " ")) := rfl
    exact (RowShows.cons (shows_word hvalue)
      (.cons (shows_word (by decide : IsWord "=")) hrow)).of_eq
        (by simp [hequals, Fragment.ofText_append])
  exact rowShows_test (isWord_aliasName scope) h hneedle

theorem shows_unary (op : UnaryOp) (h : RowShows row fragment) :
    (unary op row).Shows (op.sqlOpening ++ fragment ++ ")") := by
  cases op with
  | not =>
    have hopening : (UnaryOp.not.sqlOpening : Fragment) =
        "(" ++ ("NOT" ++ " ") := rfl
    have hrow := RowShows.cons (shows_word (by decide : IsWord "NOT")) h
    exact (shows_enclosed hrow).of_eq (by simp [hopening])
  | minus =>
    have hopening : (UnaryOp.minus.sqlOpening : Fragment) =
        "(" ++ ("-" ++ " ") := rfl
    have hrow := RowShows.cons (shows_word (by decide : IsWord "-")) h
    exact (shows_enclosed hrow).of_eq (by simp [hopening])
  | lower =>
    have hopening : (UnaryOp.lower.sqlOpening : Fragment) =
        "lower" ++ "(" := rfl
    exact (shows_call (by decide) h).of_eq (by simp [hopening])
  | upper =>
    have hopening : (UnaryOp.upper.sqlOpening : Fragment) =
        "upper" ++ "(" := rfl
    exact (shows_call (by decide) h).of_eq (by simp [hopening])

theorem shows_binary (op : BinaryOp) (h : RowShows row fragment)
    (h' : RowShows row' fragment') :
    (binary op row row').Shows
      ("(" ++ fragment ++ (" " ++ op.sql ++ " ") ++ fragment' ++ ")") := by
  have hop : IsWord op.sql := by cases op <;> decide
  exact (shows_enclosed (h.append (.cons (shows_word hop) h'))).of_eq (by simp)

theorem shows_referent (referent : Referent) (sort : ValueSort) :
    (Term.referent referent sort).Shows (referent.binding.sql sort) := by
  cases referent with
  | document =>
    have hdata := shows_word (by decide : IsWord "data")
    have hbinding : ((Binding.document "data").sql sort : Fragment) =
        sort.ofJson "data" := by cases sort <;> rfl
    rw [Referent.binding, hbinding]
    exact shows_ofJson hdata sort
  | row =>
    cases sort with
    | json =>
      constructor
      · simp +decide [Term.referent]
      · rfl
    | scalar => exact shows_word (by decide)
  | element depth =>
    have hvalue : IsWord (elementAlias depth ++ ".value") :=
      isWord_aliasName_append _ (by decide)
    have htype : IsWord (elementAlias depth ++ ".type") :=
      isWord_aliasName_append _ (by decide)
    cases sort with
    | json =>
      constructor
      · simp +decide [Term.referent, hvalue, htype]
      · have hopening : ("IIF(" : Fragment) = "IIF" ++ "(" := rfl
        have hkinds : (".type IN ('object', 'array'), " : Fragment) =
            ".type" ++ (" " ++ ("IN" ++ (" " ++
              ((call "" [[word "'object'"], [word "'array'"]]).fragment ++
                ", ")))) := rfl
        have hquote : (".value, json_quote(" : Fragment) =
            ".value" ++ (", " ++ ("json_quote" ++ "(")) := rfl
        have hclosing : (".value))" : Fragment) = ".value" ++ (")" ++ ")") :=
          rfl
        simp [Term.referent, Referent.binding, Binding.sql, Binding.element,
          Fragment.ofText_append, hopening, hkinds, hquote, hclosing]
    | scalar => exact shows_word hvalue

theorem forall_isReadable_of_shows {terms : List Term}
    {fragments : List Fragment} (h : List.Forall₂ Shows terms fragments) :
    ∀ term ∈ terms, term.IsReadable := by
  induction h with
  | nil => exact List.forall_mem_nil _
  | cons hterm _ ih => exact List.forall_mem_cons.mpr ⟨hterm.isReadable, ih⟩

theorem fragmentOfRows_map_singleton {terms : List Term}
    {fragments : List Fragment} (h : List.Forall₂ Shows terms fragments) :
    fragmentOfRows (terms.map fun term => [term]) =
      commaSeparated fragments := by
  induction h with
  | nil => decide
  | @cons term fragment terms fragments hterm hterms ih =>
    cases hterms with
    | nil => exact hterm.fragment_eq
    | cons hnext hothers =>
      rw [List.map_cons, fragmentOfRows_cons _ (by simp), ih,
        fragmentOfRow_singleton, hterm.fragment_eq]
      exact (Fragment.append_assoc _ _ _).symm

theorem shows_array {terms : List Term} {fragments : List Fragment}
    (h : List.Forall₂ Shows terms fragments) :
    (call "json_array" (terms.map fun term => [term])).Shows
      ("json_array(" ++ commaSeparated fragments ++ ")") := by
  have hopening : ("json_array(" : Fragment) = "json_array" ++ "(" := rfl
  constructor
  · simpa +decide using forall_isReadable_of_shows h
  · simp [fragmentOfRows_map_singleton h, hopening]

end

end Term

end Sql

/-! ## Expressions -/

mutual

/-- What is emitted for a tidy expression for a JSON value is the SQL of its
term. -/
theorem JsonExpr.exists_term_of_emit_eq_ok (expr : JsonExpr)
    (htidy : expr.IsTidy) {sort : ValueSort} {elements : List String}
    {fragment : Fragment}
    (h : expr.emit sort (Scope.under elements) = .ok fragment) :
    ∃ term, expr.term sort elements = .ok term ∧ term.Shows fragment := by
  cases expr with
  | name text =>
    obtain ⟨binding, hlookup, rfl⟩ := JsonExpr.emit_name_eq_ok.mp h
    rw [Scope.lookup?_under] at hlookup
    obtain ⟨referent, hreferent, rfl⟩ := Option.map_eq_some_iff.mp hlookup
    exact ⟨_, JsonExpr.term_name_eq_ok.mpr ⟨referent, hreferent, rfl⟩,
      Term.shows_referent referent sort⟩
  | path object labels =>
    obtain ⟨inner, hinner, rfl⟩ := JsonExpr.emit_path_eq_ok.mp h
    obtain ⟨term, hterm, hshows⟩ :=
      object.exists_term_of_emit_eq_ok htidy.1 hinner
    exact ⟨_, JsonExpr.term_path_eq_ok.mpr ⟨term, hterm, rfl⟩,
      Term.shows_path hshows sort htidy.2.2⟩
  | item object key =>
    obtain ⟨inner, hinner, place, hplace, rfl⟩ := JsonExpr.emit_item_eq_ok.mp h
    obtain ⟨term, hterm, hshows⟩ :=
      object.exists_term_of_emit_eq_ok htidy.1 hinner
    obtain ⟨row, hrow, hshows'⟩ := key.exists_row_of_emit_eq_ok htidy.2 hplace
    exact ⟨_, JsonExpr.term_item_eq_ok.mpr ⟨term, hterm, row, hrow, rfl⟩,
      Term.shows_ofJson (Term.shows_item hshows hshows') sort⟩
  | array items =>
    obtain ⟨inners, hinners, rfl⟩ := JsonExpr.emit_array_eq_ok.mp h
    obtain ⟨terms, hterms, hshows⟩ :=
      JsonExpr.exists_terms_of_emitAll_eq_ok items htidy hinners
    exact ⟨_, JsonExpr.term_array_eq_ok.mpr ⟨terms, hterms, rfl⟩,
      Term.shows_ofJson (Term.shows_array hshows) sort⟩
  | ofScalar value =>
    obtain ⟨inner, hinner, rfl⟩ := JsonExpr.emit_ofScalar_eq_ok.mp h
    obtain ⟨row, hrow, hshows⟩ := value.exists_row_of_emit_eq_ok htidy.2 hinner
    exact ⟨_, JsonExpr.term_ofScalar_eq_ok.mpr ⟨row, hrow, rfl⟩,
      Term.shows_ofJson (Term.shows_quote hshows) sort⟩

theorem JsonExpr.exists_terms_of_emitAll_eq_ok (items : List JsonExpr)
    (htidy : JsonExpr.AreTidy items) {elements : List String}
    {fragments : List Fragment}
    (h : JsonExpr.emitAll items (Scope.under elements) = .ok fragments) :
    ∃ terms, JsonExpr.terms items elements = .ok terms ∧
      List.Forall₂ Term.Shows terms fragments := by
  cases items with
  | nil =>
    obtain rfl := JsonExpr.emitAll_nil_eq_ok.mp h
    exact ⟨[], JsonExpr.terms_nil_eq_ok.mpr rfl, .nil⟩
  | cons item others =>
    obtain ⟨first, hfirst, later, hlater, rfl⟩ :=
      JsonExpr.emitAll_cons_eq_ok.mp h
    obtain ⟨term, hterm, hshows⟩ :=
      item.exists_term_of_emit_eq_ok htidy.1 hfirst
    obtain ⟨terms, hterms, hshows'⟩ :=
      JsonExpr.exists_terms_of_emitAll_eq_ok others htidy.2 hlater
    exact ⟨term :: terms,
      JsonExpr.terms_cons_eq_ok.mpr ⟨term, hterm, terms, hterms, rfl⟩,
      .cons hshows hshows'⟩

/-- What is emitted for a tidy expression for a scalar is the SQL of its row. -/
theorem ScalarExpr.exists_row_of_emit_eq_ok (expr : ScalarExpr)
    (htidy : expr.IsTidy) {elements : List String} {fragment : Fragment}
    (h : expr.emit (Scope.under elements) = .ok fragment) :
    ∃ row, expr.row elements = .ok row ∧ RowShows row fragment := by
  cases expr with
  | literal value =>
    obtain rfl := ScalarExpr.emit_literal_eq_ok.mp h
    exact ⟨_, ScalarExpr.row_literal_eq_ok.mpr rfl,
      Term.Shows.row ⟨.placeholder value, Term.fragment_placeholder value⟩⟩
  | matching style subject pattern =>
    obtain ⟨first, hfirst, second, hsecond, rfl⟩ :=
      ScalarExpr.emit_matching_eq_ok.mp h
    obtain ⟨row, hrow, hshows⟩ :=
      pattern.exists_row_of_emit_eq_ok htidy.2 hfirst
    obtain ⟨row', hrow', hshows'⟩ :=
      subject.exists_row_of_emit_eq_ok htidy.1 hsecond
    exact ⟨_, ScalarExpr.row_matching_eq_ok.mpr ⟨row, hrow, row', hrow', rfl⟩,
      (Term.shows_matching style hshows hshows').row⟩
  | length object =>
    obtain ⟨inner, hinner, rfl⟩ := ScalarExpr.emit_length_eq_ok.mp h
    obtain ⟨term, hterm, hshows⟩ :=
      object.exists_term_of_emit_eq_ok htidy hinner
    exact ⟨_, ScalarExpr.row_length_eq_ok.mpr ⟨term, hterm, rfl⟩,
      (Term.shows_lengthOf hshows).row⟩
  | includes collection needle =>
    obtain ⟨inner, hinner, sought, hsought, rfl⟩ :=
      ScalarExpr.emit_includes_eq_ok.mp h
    obtain ⟨term, hterm, hshows⟩ :=
      collection.exists_term_of_emit_eq_ok htidy.1 hinner
    obtain ⟨row, hrow, hshows'⟩ :=
      needle.exists_row_of_emit_eq_ok htidy.2 hsought
    refine ⟨_, ScalarExpr.row_includes_eq_ok.mpr
      ⟨term, hterm, row, hrow, rfl⟩, ?_⟩
    rw [← Scope.aliasName_under]
    exact Term.rowShows_membershipTest _ hshows hshows'
  | quantified quantifier collection element condition =>
    obtain ⟨inner, hinner, tested, htested, rfl⟩ :=
      ScalarExpr.emit_quantified_eq_ok.mp h
    obtain ⟨term, hterm, hshows⟩ :=
      collection.exists_term_of_emit_eq_ok htidy.1 hinner
    have hinside : condition.emit (Scope.under (element :: elements)) =
        .ok tested := htested
    obtain ⟨row, hrow, hshows'⟩ :=
      condition.exists_row_of_emit_eq_ok htidy.2 hinside
    refine ⟨_, ScalarExpr.row_quantified_eq_ok.mpr
      ⟨term, hterm, row, hrow, rfl⟩, ?_⟩
    rw [← Scope.aliasName_under]
    exact Term.rowShows_elementTest (isWord_aliasName _) hshows hshows'
      quantifier
  | unary op operand =>
    obtain ⟨inner, hinner, rfl⟩ := ScalarExpr.emit_unary_eq_ok.mp h
    obtain ⟨row, hrow, hshows⟩ := operand.exists_row_of_emit_eq_ok htidy hinner
    exact ⟨_, ScalarExpr.row_unary_eq_ok.mpr ⟨row, hrow, rfl⟩,
      (Term.shows_unary op hshows).row⟩
  | binary op left right =>
    obtain ⟨first, hfirst, second, hsecond, rfl⟩ :=
      ScalarExpr.emit_binary_eq_ok.mp h
    obtain ⟨row, hrow, hshows⟩ := left.exists_row_of_emit_eq_ok htidy.1 hfirst
    obtain ⟨row', hrow', hshows'⟩ :=
      right.exists_row_of_emit_eq_ok htidy.2 hsecond
    exact ⟨_, ScalarExpr.row_binary_eq_ok.mpr ⟨row, hrow, row', hrow', rfl⟩,
      (Term.shows_binary op hshows hshows').row⟩
  | ofJson value =>
    obtain ⟨term, hterm, hshows⟩ := value.exists_term_of_emit_eq_ok htidy.2
      (ScalarExpr.emit_ofJson_eq_ok.mp h)
    exact ⟨_, ScalarExpr.row_ofJson_eq_ok.mpr ⟨term, hterm, rfl⟩, hshows.row⟩

end

end DocFilter
