import DocFilter.Proofs.Scoping.Assembly
import DocFilter.Proofs.Scoping.FreeNames
import Mathlib.Data.List.Forall2

/-!
# References are not captured

A reference to an element is spelled with the alias of a subquery, and SQL
takes an alias to mean the innermost subquery around the reference that
declares it.  Aliases are numbered by the conditions around a subquery, so a
needle does not advance the number and an alias can be declared again inside
another subquery with the same alias.  Still no subquery inside a condition
declares the alias that its element is spelled with.
-/

namespace DocFilter

/-! ## Names in expressions -/

/-- A name in an expression, with the sort of SQL that it is emitted as and the
enclosures around it, the innermost one first. -/
structure Occurrence where
  name : String
  sort : ValueSort
  around : List Enclosure
deriving DecidableEq

mutual

/-- The names in an expression for a JSON value, in the order of emission. -/
def JsonExpr.occurrences :
    JsonExpr → ValueSort → List Enclosure → List Occurrence
  | .name text, sort, around => [⟨text, sort, around⟩]
  | .path object _, _, around => object.occurrences .json around
  | .item object key, _, around =>
    object.occurrences .json around ++ key.occurrences around
  | .array elements, _, around => JsonExpr.occurrencesAll elements around
  | .ofScalar value, _, around => value.occurrences around

/-- The names in some expressions for JSON values. -/
def JsonExpr.occurrencesAll : List JsonExpr → List Enclosure → List Occurrence
  | [], _ => []
  | element :: others, around =>
    element.occurrences .json around ++ JsonExpr.occurrencesAll others around

/-- The names in an expression for a scalar, in the order of emission. -/
def ScalarExpr.occurrences : ScalarExpr → List Enclosure → List Occurrence
  | .literal _, _ => []
  | .matching _ subject pattern, around =>
    pattern.occurrences around ++ subject.occurrences around
  | .length object, around => object.occurrences .json around
  | .includes collection needle, around =>
    collection.occurrences .json around ++
      needle.occurrences (.needle :: around)
  | .quantified _ collection element condition, around =>
    collection.occurrences .json around ++
      condition.occurrences (.condition element :: around)
  | .unary _ operand, around => operand.occurrences around
  | .binary _ left right, around =>
    left.occurrences around ++ right.occurrences around
  | .ofJson value, around => value.occurrences .scalar around

end

/-! ## References in assemblies -/

/-- The text that stands for a name in SQL, and the subqueries whose tests it
stands in, the innermost one first, each with its alias. -/
structure Reference where
  sql : String
  around : List (Enclosure × String)
deriving DecidableEq

namespace Assembly

/-- The references in an assembly, from left to right. -/
def references : Assembly → List (Enclosure × String) → List Reference
  | text _, _ => []
  | placeholder _, _ => []
  | reference sql, around => [⟨sql, around⟩]
  | beside first second, around =>
    first.references around ++ second.references around
  | length object, around => object.references around
  | subquery enclosure aliasName collection test, around =>
    collection.references around ++
      test.references ((enclosure, aliasName) :: around)

variable {around : List (Enclosure × String)}

@[simp] theorem references_text (sql : String) :
    (text sql).references around = [] := rfl

@[simp] theorem references_append (first second : Assembly) :
    (first ++ second).references around =
      first.references around ++ second.references around := rfl

@[simp] theorem references_ofJson (sort : ValueSort) (assembly : Assembly) :
    (ofJson sort assembly).references around = assembly.references around := by
  cases sort <;> simp [ofJson]

@[simp] theorem references_commaSeparated (assemblies : List Assembly) :
    (commaSeparated assemblies).references around =
      assemblies.flatMap fun assembly => assembly.references around := by
  induction assemblies with
  | nil => rfl
  | cons assembly others ih =>
    cases others with
    | nil => simp [commaSeparated]
    | cons next others => simp [commaSeparated, ih]

@[simp] theorem references_elementTest (aliasName element : String)
    (quantifier : Quantifier) (collection condition : Assembly) :
    (elementTest aliasName element quantifier collection condition).references
        around =
      collection.references around ++
        condition.references ((.condition element, aliasName) :: around) := by
  cases quantifier <;> simp [elementTest, references]

@[simp] theorem references_membershipTest
    (aliasName : String) (collection needle : Assembly) :
    (membershipTest aliasName collection needle).references around =
      collection.references around ++
        needle.references ((.needle, aliasName) :: around) := by
  simp [membershipTest, references]

end Assembly

/-! ## Scopes inside enclosures -/

namespace Scope

/-- The scope inside some enclosures, the innermost one first.  Only conditions
bind a name; a needle is emitted in the scope around its subquery. -/
def within (scope : Scope) : List Enclosure → Scope
  | [] => scope
  | .condition element :: outer => (scope.within outer).element element
  | .needle :: outer => scope.within outer

/-- The subqueries of some enclosures with their aliases. -/
def subqueries (scope : Scope) : List Enclosure → List (Enclosure × String)
  | [] => []
  | enclosure :: outer =>
    (enclosure, (scope.within outer).aliasName) :: scope.subqueries outer

/-- A reference stands in the subqueries of the enclosures around a name, and
its text is the one that the scope inside of them has for the name. -/
structure Refers (scope : Scope) (occurrence : Occurrence)
    (reference : Reference) : Prop where
  around_eq : reference.around = scope.subqueries occurrence.around
  sql_eq : ∃ binding,
    (scope.within occurrence.around).lookup? occurrence.name = some binding ∧
      reference.sql = binding.sql occurrence.sort

end Scope

mutual

/-- The references of an assembly are those of the names in the expression, one
for each of them and in the same order. -/
theorem JsonExpr.refers_of_assemble_eq_ok
    {expr : JsonExpr} {sort : ValueSort} {scope : Scope}
    {around : List Enclosure} {assembly : Assembly}
    (h : expr.assemble sort (scope.within around) = .ok assembly) :
    List.Forall₂ scope.Refers (expr.occurrences sort around)
      (assembly.references (scope.subqueries around)) := by
  cases expr with
  | name text =>
    rw [JsonExpr.assemble] at h
    cases hlookup : (scope.within around).lookup? text with
    | none =>
      rw [hlookup] at h
      cases h
    | some binding =>
      rw [hlookup] at h
      cases h
      exact .cons ⟨rfl, binding, hlookup, rfl⟩ .nil
  | path object labels =>
    rw [JsonExpr.assemble] at h
    obtain ⟨inner, hinner, rfl⟩ := emission_map_eq_ok.mp h
    rw [JsonExpr.occurrences]
    simpa using JsonExpr.refers_of_assemble_eq_ok hinner
  | item object key =>
    rw [JsonExpr.assemble] at h
    obtain ⟨inner, hinner, place, hplace, rfl⟩ := emission_map₂_eq_ok.mp h
    rw [JsonExpr.occurrences]
    simpa using List.rel_append (JsonExpr.refers_of_assemble_eq_ok hinner)
      (ScalarExpr.refers_of_assemble_eq_ok hplace)
  | array elements =>
    rw [JsonExpr.assemble] at h
    obtain ⟨assemblies, hassemblies, rfl⟩ := emission_map_eq_ok.mp h
    rw [JsonExpr.occurrences]
    simpa using JsonExpr.refers_of_assembleAll_eq_ok hassemblies
  | ofScalar value =>
    rw [JsonExpr.assemble] at h
    obtain ⟨inner, hinner, rfl⟩ := emission_map_eq_ok.mp h
    rw [JsonExpr.occurrences]
    simpa using ScalarExpr.refers_of_assemble_eq_ok hinner

theorem JsonExpr.refers_of_assembleAll_eq_ok
    {elements : List JsonExpr} {scope : Scope} {around : List Enclosure}
    {assemblies : List Assembly}
    (h : JsonExpr.assembleAll elements (scope.within around) =
      .ok assemblies) :
    List.Forall₂ scope.Refers (JsonExpr.occurrencesAll elements around)
      (assemblies.flatMap fun assembly =>
        assembly.references (scope.subqueries around)) := by
  cases elements with
  | nil =>
    rw [JsonExpr.assembleAll] at h
    cases h
    exact .nil
  | cons element others =>
    rw [JsonExpr.assembleAll] at h
    obtain ⟨first, hfirst, later, hlater, rfl⟩ := emission_map₂_eq_ok.mp h
    rw [JsonExpr.occurrencesAll, List.flatMap_cons]
    exact List.rel_append (JsonExpr.refers_of_assemble_eq_ok hfirst)
      (JsonExpr.refers_of_assembleAll_eq_ok hlater)

/-- The references of an assembly are those of the names in the expression, one
for each of them and in the same order. -/
theorem ScalarExpr.refers_of_assemble_eq_ok
    {expr : ScalarExpr} {scope : Scope} {around : List Enclosure}
    {assembly : Assembly}
    (h : expr.assemble (scope.within around) = .ok assembly) :
    List.Forall₂ scope.Refers (expr.occurrences around)
      (assembly.references (scope.subqueries around)) := by
  cases expr with
  | literal value =>
    cases h
    exact .nil
  | matching style subject pattern =>
    rw [ScalarExpr.assemble] at h
    obtain ⟨first, hfirst, second, hsecond, rfl⟩ := emission_map₂_eq_ok.mp h
    rw [ScalarExpr.occurrences]
    simpa using List.rel_append (ScalarExpr.refers_of_assemble_eq_ok hfirst)
      (ScalarExpr.refers_of_assemble_eq_ok hsecond)
  | length object =>
    rw [ScalarExpr.assemble] at h
    obtain ⟨inner, hinner, rfl⟩ := emission_map_eq_ok.mp h
    rw [ScalarExpr.occurrences, Assembly.references]
    exact JsonExpr.refers_of_assemble_eq_ok hinner
  | includes collection needle =>
    rw [ScalarExpr.assemble] at h
    obtain ⟨inner, hinner, sought, hsought, rfl⟩ := emission_map₂_eq_ok.mp h
    -- The scope inside a needle is the one around it, so `hsought` is about the
    -- enclosures with the needle among them.
    have hneedle : List.Forall₂ scope.Refers
        (needle.occurrences (.needle :: around))
        (sought.references (scope.subqueries (.needle :: around))) :=
      ScalarExpr.refers_of_assemble_eq_ok hsought
    rw [ScalarExpr.occurrences, Assembly.references_membershipTest]
    exact List.rel_append (JsonExpr.refers_of_assemble_eq_ok hinner) hneedle
  | quantified quantifier collection element condition =>
    rw [ScalarExpr.assemble] at h
    obtain ⟨inner, hinner, test, htest, rfl⟩ := emission_map₂_eq_ok.mp h
    have hcondition : List.Forall₂ scope.Refers
        (condition.occurrences (.condition element :: around))
        (test.references (scope.subqueries (.condition element :: around))) :=
      ScalarExpr.refers_of_assemble_eq_ok htest
    rw [ScalarExpr.occurrences, Assembly.references_elementTest]
    exact List.rel_append (JsonExpr.refers_of_assemble_eq_ok hinner) hcondition
  | unary op operand =>
    rw [ScalarExpr.assemble] at h
    obtain ⟨inner, hinner, rfl⟩ := emission_map_eq_ok.mp h
    rw [ScalarExpr.occurrences]
    simpa using ScalarExpr.refers_of_assemble_eq_ok hinner
  | binary op left right =>
    rw [ScalarExpr.assemble] at h
    obtain ⟨first, hfirst, second, hsecond, rfl⟩ := emission_map₂_eq_ok.mp h
    rw [ScalarExpr.occurrences]
    simpa using List.rel_append (ScalarExpr.refers_of_assemble_eq_ok hfirst)
      (ScalarExpr.refers_of_assemble_eq_ok hsecond)
  | ofJson value =>
    rw [ScalarExpr.assemble] at h
    exact JsonExpr.refers_of_assemble_eq_ok h

end

/-! ## Aliases -/

/-- Whether an enclosure is a condition, and not a needle. -/
def Enclosure.isCondition : Enclosure → Bool
  | condition _ => true
  | needle => false

namespace Scope

/-- Subqueries with equal aliases have equally many conditions around. -/
theorem depth_eq_of_aliasName_eq {scope scope' : Scope}
    (h : scope.aliasName = scope'.aliasName) : scope.depth = scope'.depth := by
  have hrepr : (scope.depth + 1).repr = (scope'.depth + 1).repr :=
    (String.append_right_inj "json_").mp h
  have hdigits :
      Nat.toDigits 10 (scope.depth + 1) = Nat.toDigits 10 (scope'.depth + 1) :=
    by rw [← Nat.toList_repr, ← Nat.toList_repr, hrepr]
  have hnumbers := congrArg (Nat.ofDigitChars 10 · 0) hdigits
  simpa [Nat.ofDigitChars_toDigits] using hnumbers

theorem within_append (scope : Scope) (inner outer : List Enclosure) :
    scope.within (inner ++ outer) = (scope.within outer).within inner := by
  induction inner with
  | nil => rfl
  | cons enclosure others ih =>
    cases enclosure with
    | condition element =>
      rw [List.cons_append, within, within, ih]
    | needle => rw [List.cons_append, within, within, ih]

theorem subqueries_append (scope : Scope) (inner outer : List Enclosure) :
    scope.subqueries (inner ++ outer) =
      (scope.within outer).subqueries inner ++ scope.subqueries outer := by
  induction inner with
  | nil => rfl
  | cons enclosure others ih =>
    rw [List.cons_append, subqueries, subqueries, ih, within_append,
      List.cons_append]

@[simp] theorem map_fst_subqueries (scope : Scope) (around : List Enclosure) :
    (scope.subqueries around).map Prod.fst = around := by
  induction around with
  | nil => rfl
  | cons enclosure outer ih => rw [subqueries, List.map_cons, ih]

/-- The depth counts the conditions and leaves out the needles. -/
theorem depth_within (scope : Scope) (around : List Enclosure) :
    (scope.within around).depth =
      scope.depth + around.countP Enclosure.isCondition := by
  induction around with
  | nil => rfl
  | cons enclosure outer ih =>
    cases enclosure with
    | condition element =>
      rw [List.countP_cons_of_pos rfl, ← Nat.add_assoc, ← ih]
      rfl
    | needle =>
      rw [List.countP_cons_of_neg (by simp [Enclosure.isCondition]), ← ih]
      rfl

/-- In a whole expression, the number of an alias is one more than the number of
conditions around the subquery. -/
theorem aliasName_within_root
    {documentColumn rowColumn : String} (around : List Enclosure) :
    ((root documentColumn rowColumn).within around).aliasName =
      "json_" ++ toString (around.countP Enclosure.isCondition + 1) := by
  have hdepth : (root documentColumn rowColumn).depth = 0 := rfl
  rw [aliasName, depth_within, hdepth, Nat.zero_add]

/-- The subqueries of some enclosures are numbered from the depth on. -/
theorem exists_depth_le_of_mem_subqueries {scope : Scope} {around : List Enclosure}
    {subquery : Enclosure × String} (h : subquery ∈ scope.subqueries around) :
    ∃ inner : Scope, subquery.2 = inner.aliasName ∧
      scope.depth ≤ inner.depth := by
  induction around with
  | nil => cases h
  | cons enclosure outer ih =>
    rcases List.mem_cons.mp h with rfl | h
    · refine ⟨scope.within outer, rfl, ?_⟩
      rw [depth_within]
      exact Nat.le_add_right _ _
    · exact ih h

/-- No subquery inside a condition declares the alias that the element of the
condition is spelled with. -/
theorem aliasName_ne_of_mem_subqueries
    {scope : Scope} {element : String} {around : List Enclosure}
    {subquery : Enclosure × String}
    (h : subquery ∈ (scope.element element).subqueries around) :
    subquery.2 ≠ scope.aliasName := by
  obtain ⟨inner, halias, hdepth⟩ := exists_depth_le_of_mem_subqueries h
  intro heq
  -- The scope of the condition is already one deeper than that of its alias.
  have hsame := depth_eq_of_aliasName_eq (halias.symm.trans heq)
  rw [hsame] at hdepth
  exact Nat.not_succ_le_self scope.depth hdepth

/-- A name that no condition around is on means what it means outside. -/
theorem lookup?_within_of_notMem
    {scope : Scope} {name : String} {around : List Enclosure}
    (h : .condition name ∉ around) :
    (scope.within around).lookup? name = scope.lookup? name := by
  induction around with
  | nil => rfl
  | cons enclosure outer ih =>
    obtain ⟨hne, houter⟩ := not_or.mp (List.mem_cons.not.mp h)
    cases enclosure with
    | condition element =>
      have hname : name ≠ element := fun heq => hne (congrArg _ heq)
      rw [within, lookup?_element, if_neg hname]
      exact ih houter
    | needle => exact ih houter

/-- A name means the element of the innermost condition on it. -/
theorem lookup?_within_condition
    {scope : Scope} {name : String} {inner outer : List Enclosure}
    (h : .condition name ∉ inner) :
    (scope.within (inner ++ .condition name :: outer)).lookup? name =
      some (.element (scope.within outer).aliasName) := by
  rw [within_append, lookup?_within_of_notMem h, within, lookup?_element,
    if_pos rfl]

end Scope

/-! ## SQL of whole expressions -/

/-- How a name is spelled in the SQL of a whole expression.  If a condition on
the name is around it, then it is spelled with the alias that the subquery of
the innermost one declares, whose number is one more than the number of
conditions around that one, and no subquery between the reference and that one
declares the alias again.  All other names are those of the document and the
row. -/
structure Reference.IsUncaptured (documentColumn rowColumn : String)
    (occurrence : Occurrence) (reference : Reference) : Prop where
  bound {inner outer : List Enclosure}
    (haround : occurrence.around =
      inner ++ .condition occurrence.name :: outer)
    (hinner : .condition occurrence.name ∉ inner) :
    let aliasName :=
      "json_" ++ toString (outer.countP Enclosure.isCondition + 1)
    reference.sql = (Binding.element aliasName).sql occurrence.sort ∧
      ∃ between beyond,
        reference.around =
          between ++ (.condition occurrence.name, aliasName) :: beyond ∧
        between.map Prod.fst = inner ∧ beyond.map Prod.fst = outer ∧
        ∀ subquery ∈ between, subquery.2 ≠ aliasName
  free (haround : .condition occurrence.name ∉ occurrence.around) :
    reference.around.map Prod.fst = occurrence.around ∧
      (occurrence.name = "_" ∧
          reference.sql =
            (Binding.document documentColumn).sql occurrence.sort ∨
        occurrence.name = "id" ∧
          reference.sql = (Binding.column rowColumn).sql occurrence.sort)

theorem Scope.Refers.isUncaptured
    {documentColumn rowColumn : String} {occurrence : Occurrence}
    {reference : Reference}
    (h : (Scope.root documentColumn rowColumn).Refers occurrence reference) :
    reference.IsUncaptured documentColumn rowColumn occurrence := by
  obtain ⟨haround', binding, hlookup, hsql⟩ := h
  constructor
  · intro inner outer haround hinner aliasName
    have halias :
        ((Scope.root documentColumn rowColumn).within outer).aliasName =
          aliasName :=
      Scope.aliasName_within_root outer
    rw [haround, Scope.lookup?_within_condition hinner, halias] at hlookup
    cases hlookup
    -- The subqueries around the reference, split at that of the condition.
    have hsplit := haround'
    rw [haround, Scope.subqueries_append, Scope.subqueries, halias] at hsplit
    refine ⟨hsql, _, _, hsplit, Scope.map_fst_subqueries _ inner,
      Scope.map_fst_subqueries _ outer, ?_⟩
    intro subquery hsubquery
    rw [← halias]
    exact Scope.aliasName_ne_of_mem_subqueries hsubquery
  · intro haround
    rw [Scope.lookup?_within_of_notMem haround] at hlookup
    refine ⟨by rw [haround', Scope.map_fst_subqueries], ?_⟩
    rw [Scope.lookup?_root] at hlookup
    split_ifs at hlookup with hdocument hrow
    · cases hlookup
      exact Or.inl ⟨hdocument, hsql⟩
    · cases hlookup
      exact Or.inr ⟨hrow, hsql⟩

/-- An assembly has one reference for each of some names, in their order, and
none of them is captured. -/
def Assembly.IsUncaptured (documentColumn rowColumn : String)
    (occurrences : List Occurrence) (assembly : Assembly) : Prop :=
  List.Forall₂ (Reference.IsUncaptured documentColumn rowColumn) occurrences
    (assembly.references [])

/-- The SQL of a whole expression of either sort has one reference for each name
in the expression, and none of them is captured: the alias that a reference is
spelled with means the subquery of the innermost condition on the name, and a
name without such a condition is that of the document or the row. -/
theorem isUncaptured_of_emit_eq_ok
    {documentColumn rowColumn : String} {fragment : Fragment} :
    let scope := Scope.root documentColumn rowColumn
    (∀ (expr : JsonExpr) (sort : ValueSort),
      expr.emit sort scope = .ok fragment →
        ∃ assembly, expr.assemble sort scope = .ok assembly ∧
          assembly.fragment = fragment ∧
          assembly.IsUncaptured documentColumn rowColumn
            (expr.occurrences sort [])) ∧
    (∀ expr : ScalarExpr, expr.emit scope = .ok fragment →
      ∃ assembly, expr.assemble scope = .ok assembly ∧
        assembly.fragment = fragment ∧
        assembly.IsUncaptured documentColumn rowColumn
          (expr.occurrences [])) ∧
    ∀ expr : JsonExpr, expr.toSql scope = .ok fragment →
      ∃ assembly, expr.asScalar.assemble scope = .ok assembly ∧
        assembly.fragment = fragment ∧
        assembly.IsUncaptured documentColumn rowColumn
          (expr.asScalar.occurrences []) := by
  intro scope
  have hscalar (expr : ScalarExpr) (h : expr.emit scope = .ok fragment) :
      ∃ assembly, expr.assemble scope = .ok assembly ∧
        assembly.fragment = fragment ∧
        assembly.IsUncaptured documentColumn rowColumn
          (expr.occurrences []) := by
    rw [expr.emit_eq_map_assemble] at h
    obtain ⟨assembly, hassembly, hfragment⟩ := exists_of_map_eq_ok h
    have hrefers : List.Forall₂ scope.Refers (expr.occurrences [])
        (assembly.references (scope.subqueries [])) :=
      ScalarExpr.refers_of_assemble_eq_ok hassembly
    exact ⟨assembly, hassembly, hfragment,
      hrefers.imp fun _ _ h => h.isUncaptured⟩
  refine ⟨?_, hscalar, fun expr => hscalar expr.asScalar⟩
  intro expr sort h
  rw [expr.emit_eq_map_assemble] at h
  obtain ⟨assembly, hassembly, hfragment⟩ := exists_of_map_eq_ok h
  have hrefers : List.Forall₂ scope.Refers (expr.occurrences sort [])
      (assembly.references (scope.subqueries [])) :=
    JsonExpr.refers_of_assemble_eq_ok hassembly
  exact ⟨assembly, hassembly, hfragment,
    hrefers.imp fun _ _ h => h.isUncaptured⟩

/-- The inner `t` is the element of the quantifier in the needle, which has the
same alias as the membership test around it.  The outer `t` is spelled with the
alias of the first subquery, in a collection inside of it. -/
theorem isUncaptured_of_emit_eq_ok_needle :
    let expr : ScalarExpr :=
      .quantified .any (.path (.name "_") ["a"]) "t"
        (.includes (.name "t")
          (.quantified .all (.path (.name "_") ["b"]) "t"
            (.binary .equal (.ofJson (.name "t")) (.ofJson (.name "id")))))
    let scope := Scope.root "data" "records.id"
    let fragment : Fragment :=
      ⟨"EXISTS (SELECT 1 FROM json_each((data -> '$.a')) AS json_1 WHERE " ++
        "EXISTS (SELECT 1 FROM json_each(IIF(json_1.type IN ('object', " ++
        "'array'), json_1.value, json_quote(json_1.value))) AS json_2 " ++
        "WHERE json_2.value = NOT EXISTS (SELECT 1 FROM json_each(" ++
        "(data -> '$.b')) AS json_2 WHERE NOT ((json_2.value = records.id)))))",
        []⟩
    let first : Enclosure := .condition "t"
    let inner : List Enclosure := [.condition "t", .needle, .condition "t"]
    expr.emit scope = .ok fragment ∧
      expr.occurrences [] =
        [⟨"_", .json, []⟩, ⟨"t", .json, [first]⟩,
          ⟨"_", .json, [.needle, first]⟩, ⟨"t", .scalar, inner⟩,
          ⟨"id", .scalar, inner⟩] ∧
      ∃ assembly, expr.assemble scope = .ok assembly ∧
        assembly.fragment = fragment ∧
        assembly.IsUncaptured "data" "records.id" (expr.occurrences []) := by
  intro expr scope fragment first inner
  have hemit : expr.emit scope = .ok fragment := by decide +kernel
  obtain ⟨-, hscalar, -⟩ := isUncaptured_of_emit_eq_ok
  exact ⟨hemit, rfl, hscalar expr hemit⟩

end DocFilter
