import DocFilter.Proofs.Scoping.Aliases

/-!
# Where names and aliases stand in the text

An assembly says which references it has, and which subqueries there are around
each of them.  The text of the SQL says the same: a reference stands in it letter
by letter, inside the tests of those subqueries, and each subquery is written out
with its alias.  So what holds of the aliases of an assembly holds of those that
can be seen in the text.
-/

namespace DocFilter

/-- The text of a subquery: an alias for the elements of a collection, and a test
in which the alias is declared. -/
def Sql.subqueryText (aliasName collection test : String) : String :=
  "EXISTS (SELECT 1 FROM json_each(" ++ collection ++ ") AS " ++ aliasName ++
    " WHERE " ++ test ++ ")"

theorem Sql.toList_subqueryText (aliasName collection test : String) :
    (subqueryText aliasName collection test).toList =
      ("EXISTS (SELECT 1 FROM json_each(" ++ collection ++ ") AS " ++
        aliasName ++ " WHERE ").toList ++ test.toList ++ ")".toList := by
  unfold subqueryText
  simp only [String.toList_append]

/-- A text stands in SQL, inside the tests of subqueries with these aliases, the
innermost one first. -/
inductive StandsIn (text : String) : List String → String → Prop
  | here : StandsIn text [] text
  | behind (before : String) {aliases : List String} {sql : String}
    (h : StandsIn text aliases sql) : StandsIn text aliases (before ++ sql)
  | before {aliases : List String} {sql : String}
    (h : StandsIn text aliases sql) (behind : String) :
      StandsIn text aliases (sql ++ behind)
  | test (aliasName collection : String) {aliases : List String} {sql : String}
    (h : StandsIn text aliases sql) :
      StandsIn text (aliases ++ [aliasName])
        (Sql.subqueryText aliasName collection sql)

namespace StandsIn

variable {text sql : String} {aliases : List String}

theorem isInfix (h : StandsIn text aliases sql) :
    text.toList <:+: sql.toList := by
  induction h with
  | here => exact List.infix_refl _
  | behind before _ ih =>
    rw [String.toList_append]
    exact ih.trans (List.suffix_append _ _).isInfix
  | before _ behind ih =>
    rw [String.toList_append]
    exact ih.trans (List.prefix_append _ _).isInfix
  | test aliasName collection _ ih =>
    rw [Sql.toList_subqueryText]
    exact ih.trans (List.infix_append _ _ _)

/-- The collection of a subquery stands outside of its test. -/
theorem collection (h : StandsIn text aliases sql) (aliasName test : String) :
    StandsIn text aliases (Sql.subqueryText aliasName sql test) :=
  (((((h.behind _).before _).before _).before _).before _).before _

end StandsIn

/-! ## Assemblies -/

namespace Assembly

/-- A text stands in the SQL of an assembly with some subqueries around it.  The
last ones of them are around the assembly as a whole. -/
def Shows (assembly : Assembly) (text : String)
    (outer around : List (Enclosure × String)) : Prop :=
  ∃ inner, outer = inner ++ around ∧
    StandsIn text (inner.map Prod.snd) assembly.fragment.sql

namespace Shows

variable {assembly : Assembly} {text : String}
  {outer around : List (Enclosure × String)}

theorem self (assembly : Assembly) (around : List (Enclosure × String)) :
    assembly.Shows assembly.fragment.sql around around :=
  ⟨[], rfl, .here⟩

theorem first (h : assembly.Shows text outer around) (second : Assembly) :
    (beside assembly second).Shows text outer around := by
  obtain ⟨inner, houter, hstands⟩ := h
  exact ⟨inner, houter, hstands.before _⟩

theorem second (first : Assembly) (h : assembly.Shows text outer around) :
    (beside first assembly).Shows text outer around := by
  obtain ⟨inner, houter, hstands⟩ := h
  exact ⟨inner, houter, hstands.behind _⟩

theorem length (h : assembly.Shows text outer around) :
    (length assembly).Shows text outer around := by
  obtain ⟨inner, houter, hstands⟩ := h
  exact ⟨inner, houter, (hstands.behind _).before _⟩

theorem collection (h : assembly.Shows text outer around)
    (enclosure : Enclosure) (aliasName : String) (test : Assembly) :
    (subquery enclosure aliasName assembly test).Shows text outer around := by
  obtain ⟨inner, houter, hstands⟩ := h
  exact ⟨inner, houter, hstands.collection aliasName test.fragment.sql⟩

theorem test {enclosure : Enclosure} {aliasName : String}
    (collection : Assembly)
    (h : assembly.Shows text outer ((enclosure, aliasName) :: around)) :
    (subquery enclosure aliasName collection assembly).Shows text outer
      around := by
  obtain ⟨inner, houter, hstands⟩ := h
  refine ⟨inner ++ [(enclosure, aliasName)], ?_, ?_⟩
  · rw [houter, List.append_assoc, List.singleton_append]
  · rw [List.map_append]
    exact hstands.test aliasName collection.fragment.sql

end Shows

/-- A reference stands in the text, inside the tests of the subqueries that the
assembly has around it. -/
theorem shows_of_mem_references {assembly : Assembly}
    {around : List (Enclosure × String)} {reference : Reference}
    (h : reference ∈ assembly.references around) :
    assembly.Shows reference.sql reference.around around := by
  induction assembly generalizing around with
  | text | placeholder => cases h
  | reference sql =>
    obtain rfl := List.mem_singleton.mp h
    exact .self (.reference sql) around
  | beside first second ihFirst ihSecond =>
    rcases List.mem_append.mp h with hfirst | hsecond
    · exact (ihFirst hfirst).first second
    · exact .second first (ihSecond hsecond)
  | length object ih => exact (ih h).length
  | subquery enclosure aliasName collection test ihCollection ihTest =>
    rcases List.mem_append.mp h with hcollection | htest
    · exact (ihCollection hcollection).collection enclosure aliasName test
    · exact .test collection (ihTest htest)

/-- A subquery is written out in the text with its alias, inside the tests of
the subqueries that the assembly has around it. -/
theorem shows_of_mem_nestings {assembly : Assembly}
    {outer around : List (Enclosure × String)} {subquery : Enclosure × String}
    (h : subquery :: outer ∈ assembly.nestings around) :
    ∃ collection test,
      assembly.Shows (Sql.subqueryText subquery.2 collection test) outer
        around := by
  induction assembly generalizing around with
  | text | placeholder | reference => cases h
  | beside first second ihFirst ihSecond =>
    rcases List.mem_append.mp h with hfirst | hsecond
    · obtain ⟨collection, test, hshows⟩ := ihFirst hfirst
      exact ⟨collection, test, hshows.first second⟩
    · obtain ⟨collection, test, hshows⟩ := ihSecond hsecond
      exact ⟨collection, test, .second first hshows⟩
  | length object ih =>
    obtain ⟨collection, test, hshows⟩ := ih h
    exact ⟨collection, test, hshows.length⟩
  | subquery enclosure aliasName source condition ihSource ihCondition =>
    rcases List.mem_append.mp h with hsource | hbehind
    · obtain ⟨collection, test, hshows⟩ := ihSource hsource
      exact ⟨collection, test, hshows.collection enclosure aliasName condition⟩
    · rcases List.mem_cons.mp hbehind with heq | hcondition
      · cases heq
        exact ⟨source.fragment.sql, condition.fragment.sql, .self _ _⟩
      · obtain ⟨collection, test, hshows⟩ := ihCondition hcondition
        exact ⟨collection, test, .test source hshows⟩

end Assembly

/-! ## Emitted SQL -/

/-- A name has a meaning inside its enclosures, and the text of this meaning
stands in the SQL, inside the tests of their subqueries. -/
def Occurrence.StandsIn (scope : Scope) (sql : String)
    (occurrence : Occurrence) : Prop :=
  ∃ binding,
    (scope.within occurrence.around).lookup? occurrence.name = some binding ∧
      DocFilter.StandsIn (binding.sql occurrence.sort)
        ((scope.subqueries occurrence.around).map Prod.snd) sql

theorem Scope.Refers.standsIn
    {scope : Scope} {occurrence : Occurrence} {reference : Reference}
    {assembly : Assembly} (h : scope.Refers occurrence reference)
    (hreference : reference ∈ assembly.references []) :
    occurrence.StandsIn scope assembly.fragment.sql := by
  obtain ⟨haround, binding, hlookup, hsql⟩ := h
  obtain ⟨inner, hinner, hstands⟩ :=
    Assembly.shows_of_mem_references hreference
  -- There is nothing around the assembly as a whole.
  rw [List.append_nil] at hinner
  refine ⟨binding, hlookup, ?_⟩
  rw [← hsql, ← haround, hinner]
  exact hstands

/-- If an assembly has a reference for each of some names, then all of them
stand in its text. -/
theorem Assembly.standsIn_of_refers
    {scope : Scope} {occurrences : List Occurrence} {assembly : Assembly}
    (h : List.Forall₂ scope.Refers occurrences (assembly.references [])) :
    ∀ occurrence ∈ occurrences,
      occurrence.StandsIn scope assembly.fragment.sql := by
  intro occurrence hoccurrence
  obtain ⟨i, hi, rfl⟩ := List.getElem_of_mem hoccurrence
  have hi' : i < (assembly.references []).length := h.length_eq ▸ hi
  have hrefers : scope.Refers occurrences[i] (assembly.references [])[i] :=
    h.get hi hi'
  exact hrefers.standsIn (List.getElem_mem hi')

/-- Every name in an expression stands in the emitted SQL, in the text that it
has in its scope and inside the tests of the subqueries around it, each of which
is written out with its alias. -/
theorem JsonExpr.standsIn_of_emit_eq_ok
    {expr : JsonExpr} {sort : ValueSort} {scope : Scope} {fragment : Fragment}
    (h : expr.emit sort scope = .ok fragment) :
    ∀ occurrence ∈ expr.occurrences sort [],
      occurrence.StandsIn scope fragment.sql := by
  rw [expr.emit_eq_map_assemble] at h
  obtain ⟨assembly, hassembly, rfl⟩ := exists_of_map_eq_ok h
  have hrefers : List.Forall₂ scope.Refers (expr.occurrences sort [])
      (assembly.references (scope.subqueries [])) :=
    JsonExpr.refers_of_assemble_eq_ok hassembly
  exact Assembly.standsIn_of_refers hrefers

/-- Every name in an expression stands in the emitted SQL, in the text that it
has in its scope and inside the tests of the subqueries around it, each of which
is written out with its alias. -/
theorem ScalarExpr.standsIn_of_emit_eq_ok
    {expr : ScalarExpr} {scope : Scope} {fragment : Fragment}
    (h : expr.emit scope = .ok fragment) :
    ∀ occurrence ∈ expr.occurrences [],
      occurrence.StandsIn scope fragment.sql := by
  rw [expr.emit_eq_map_assemble] at h
  obtain ⟨assembly, hassembly, rfl⟩ := exists_of_map_eq_ok h
  have hrefers : List.Forall₂ scope.Refers (expr.occurrences [])
      (assembly.references (scope.subqueries [])) :=
    ScalarExpr.refers_of_assemble_eq_ok hassembly
  exact Assembly.standsIn_of_refers hrefers

end DocFilter
