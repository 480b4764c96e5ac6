import DocFilter.Proofs.Literals.Independence
import DocFilter.Proofs.Scoping.Capture

/-!
# Subqueries inside subqueries

In the test of a subquery stand other subqueries.  The alias of a subquery is
numbered by the conditions around it, so it differs from the alias of any
subquery whose condition it stands in.  A needle does not count: a subquery in
a needle declares the alias of the membership test once more, and so does one
in a needle inside of it.  The aliases of two subqueries, one inside the test
of the other, are equal if and only if there are only needles on the way.
-/

namespace DocFilter

/-! ## Subqueries of an assembly -/

namespace Assembly

/-- The subqueries in an assembly, from left to right.  Each one comes with
those whose tests it stands in, the innermost one first. -/
def nestings :
    Assembly → List (Enclosure × String) → List (List (Enclosure × String))
  | text _, _ => []
  | placeholder _, _ => []
  | reference _, _ => []
  | beside first second, around =>
    first.nestings around ++ second.nestings around
  | length object, around => object.nestings around
  | subquery enclosure aliasName collection test, around =>
    collection.nestings around ++
      ((enclosure, aliasName) :: around) ::
        test.nestings ((enclosure, aliasName) :: around)

variable {around : List (Enclosure × String)}

@[simp] theorem nestings_text (sql : String) :
    (text sql).nestings around = [] := rfl

@[simp] theorem nestings_append (first second : Assembly) :
    (first ++ second).nestings around =
      first.nestings around ++ second.nestings around := rfl

@[simp] theorem nestings_ofJson (sort : ValueSort) (assembly : Assembly) :
    (ofJson sort assembly).nestings around = assembly.nestings around := by
  cases sort <;> simp [ofJson]

@[simp] theorem nestings_commaSeparated (assemblies : List Assembly) :
    (commaSeparated assemblies).nestings around =
      assemblies.flatMap fun assembly => assembly.nestings around := by
  induction assemblies with
  | nil => rfl
  | cons assembly others ih =>
    cases others with
    | nil => simp [commaSeparated]
    | cons next others => simp [commaSeparated, ih]

@[simp] theorem nestings_elementTest (aliasName element : String)
    (quantifier : Quantifier) (collection condition : Assembly) :
    (elementTest aliasName element quantifier collection condition).nestings
        around =
      collection.nestings around ++
        ((.condition element, aliasName) :: around) ::
          condition.nestings ((.condition element, aliasName) :: around) := by
  cases quantifier <;> simp [elementTest, nestings]

@[simp] theorem nestings_membershipTest
    (aliasName : String) (collection needle : Assembly) :
    (membershipTest aliasName collection needle).nestings around =
      collection.nestings around ++
        ((.needle, aliasName) :: around) ::
          needle.nestings ((.needle, aliasName) :: around) := by
  simp [membershipTest, nestings]

end Assembly

/-! ## Subqueries of an expression -/

/-- Subqueries in each other are those of some enclosures. -/
def Scope.Nests (scope : Scope) (nesting : List (Enclosure × String)) : Prop :=
  ∃ around, nesting = scope.subqueries around

mutual

/-- The subqueries in an assembled expression stand in each other as its
enclosures do. -/
theorem JsonExpr.nests_of_assemble_eq_ok
    {expr : JsonExpr} {sort : ValueSort} {scope : Scope}
    {around : List Enclosure} {assembly : Assembly}
    (h : expr.assemble sort (scope.within around) = .ok assembly) :
    ∀ nesting ∈ assembly.nestings (scope.subqueries around),
      scope.Nests nesting := by
  cases expr with
  | name text =>
    rw [JsonExpr.assemble] at h
    cases hlookup : (scope.within around).lookup? text with
    | none =>
      rw [hlookup] at h
      cases h
    | some binding =>
      rw [hlookup] at h
      cases h
      exact List.forall_mem_nil _
  | path object labels =>
    rw [JsonExpr.assemble] at h
    obtain ⟨inner, hinner, rfl⟩ := emission_map_eq_ok.mp h
    simpa using JsonExpr.nests_of_assemble_eq_ok hinner
  | item object key =>
    rw [JsonExpr.assemble] at h
    obtain ⟨inner, hinner, place, hplace, rfl⟩ := emission_map₂_eq_ok.mp h
    simpa using List.forall_mem_append.mpr
      ⟨JsonExpr.nests_of_assemble_eq_ok hinner,
        ScalarExpr.nests_of_assemble_eq_ok hplace⟩
  | array elements =>
    rw [JsonExpr.assemble] at h
    obtain ⟨assemblies, hassemblies, rfl⟩ := emission_map_eq_ok.mp h
    simpa using JsonExpr.nests_of_assembleAll_eq_ok hassemblies
  | ofScalar value =>
    rw [JsonExpr.assemble] at h
    obtain ⟨inner, hinner, rfl⟩ := emission_map_eq_ok.mp h
    simpa using ScalarExpr.nests_of_assemble_eq_ok hinner

theorem JsonExpr.nests_of_assembleAll_eq_ok
    {elements : List JsonExpr} {scope : Scope} {around : List Enclosure}
    {assemblies : List Assembly}
    (h : JsonExpr.assembleAll elements (scope.within around) =
      .ok assemblies) :
    ∀ nesting ∈ assemblies.flatMap fun assembly =>
        assembly.nestings (scope.subqueries around),
      scope.Nests nesting := by
  cases elements with
  | nil =>
    rw [JsonExpr.assembleAll] at h
    cases h
    exact List.forall_mem_nil _
  | cons element others =>
    rw [JsonExpr.assembleAll] at h
    obtain ⟨first, hfirst, later, hlater, rfl⟩ := emission_map₂_eq_ok.mp h
    rw [List.flatMap_cons]
    exact List.forall_mem_append.mpr
      ⟨JsonExpr.nests_of_assemble_eq_ok hfirst,
        JsonExpr.nests_of_assembleAll_eq_ok hlater⟩

/-- The subqueries in an assembled expression stand in each other as its
enclosures do. -/
theorem ScalarExpr.nests_of_assemble_eq_ok
    {expr : ScalarExpr} {scope : Scope} {around : List Enclosure}
    {assembly : Assembly}
    (h : expr.assemble (scope.within around) = .ok assembly) :
    ∀ nesting ∈ assembly.nestings (scope.subqueries around),
      scope.Nests nesting := by
  cases expr with
  | literal value =>
    cases h
    exact List.forall_mem_nil _
  | matching style subject pattern =>
    rw [ScalarExpr.assemble] at h
    obtain ⟨first, hfirst, second, hsecond, rfl⟩ := emission_map₂_eq_ok.mp h
    simpa using List.forall_mem_append.mpr
      ⟨ScalarExpr.nests_of_assemble_eq_ok hfirst,
        ScalarExpr.nests_of_assemble_eq_ok hsecond⟩
  | length object =>
    rw [ScalarExpr.assemble] at h
    obtain ⟨inner, hinner, rfl⟩ := emission_map_eq_ok.mp h
    rw [Assembly.nestings]
    exact JsonExpr.nests_of_assemble_eq_ok hinner
  | includes collection needle =>
    rw [ScalarExpr.assemble] at h
    obtain ⟨inner, hinner, sought, hsought, rfl⟩ := emission_map₂_eq_ok.mp h
    have hneedle : ∀ nesting ∈
        sought.nestings (scope.subqueries (.needle :: around)),
        scope.Nests nesting :=
      ScalarExpr.nests_of_assemble_eq_ok hsought
    rw [Assembly.nestings_membershipTest]
    exact List.forall_mem_append.mpr
      ⟨JsonExpr.nests_of_assemble_eq_ok hinner,
        List.forall_mem_cons.mpr ⟨⟨.needle :: around, rfl⟩, hneedle⟩⟩
  | quantified quantifier collection element condition =>
    rw [ScalarExpr.assemble] at h
    obtain ⟨inner, hinner, test, htest, rfl⟩ := emission_map₂_eq_ok.mp h
    have hcondition : ∀ nesting ∈
        test.nestings (scope.subqueries (.condition element :: around)),
        scope.Nests nesting :=
      ScalarExpr.nests_of_assemble_eq_ok htest
    rw [Assembly.nestings_elementTest]
    exact List.forall_mem_append.mpr
      ⟨JsonExpr.nests_of_assemble_eq_ok hinner,
        List.forall_mem_cons.mpr
          ⟨⟨.condition element :: around, rfl⟩, hcondition⟩⟩
  | unary op operand =>
    rw [ScalarExpr.assemble] at h
    obtain ⟨inner, hinner, rfl⟩ := emission_map_eq_ok.mp h
    simpa using ScalarExpr.nests_of_assemble_eq_ok hinner
  | binary op left right =>
    rw [ScalarExpr.assemble] at h
    obtain ⟨first, hfirst, second, hsecond, rfl⟩ := emission_map₂_eq_ok.mp h
    simpa using List.forall_mem_append.mpr
      ⟨ScalarExpr.nests_of_assemble_eq_ok hfirst,
        ScalarExpr.nests_of_assemble_eq_ok hsecond⟩
  | ofJson value =>
    rw [ScalarExpr.assemble] at h
    exact JsonExpr.nests_of_assemble_eq_ok h

end

/-! ## Aliases of subqueries in each other -/

namespace Scope

/-- A scope inside some enclosures has the same alias if and only if none of
them is a condition. -/
theorem aliasName_within_eq_iff {scope : Scope} {between : List Enclosure} :
    (scope.within between).aliasName = scope.aliasName ↔
      ∀ enclosure ∈ between, enclosure = .needle := by
  have hcount : between.countP Enclosure.isCondition = 0 ↔
      ∀ enclosure ∈ between, enclosure = .needle := by
    rw [List.countP_eq_zero]
    refine forall₂_congr fun enclosure _ => ?_
    cases enclosure <;> simp [Enclosure.isCondition]
  rw [← hcount]
  constructor
  · intro heq
    have hdepth := depth_eq_of_aliasName_eq heq
    rw [depth_within] at hdepth
    omega
  · intro hzero
    rw [aliasName, aliasName, depth_within, hzero, Nat.add_zero]

/-- A subquery has the alias of the scope inside those that it stands in. -/
theorem alias_eq_of_subqueries_eq {scope : Scope} {around : List Enclosure}
    {between beyond : List (Enclosure × String)} {outer : Enclosure × String}
    (h : scope.subqueries around = between ++ outer :: beyond) :
    outer.2 = (scope.within (beyond.map Prod.fst)).aliasName := by
  have haround := scope.map_fst_subqueries around
  rw [h, List.map_append, List.map_cons] at haround
  rw [← haround, subqueries_append, subqueries] at h
  have hlength : ((scope.within (outer.1 :: beyond.map Prod.fst)).subqueries
      (between.map Prod.fst)).length = between.length := by
    rw [← List.length_map, map_fst_subqueries, List.length_map]
  obtain ⟨-, hbehind⟩ := List.append_inj h hlength
  exact (congrArg Prod.snd (List.cons.inj hbehind).1).symm

/-- Of two subqueries in each other, the inner one declares the alias of the
outer one again if and only if only needles enclose it there. -/
theorem Nests.alias_eq_iff {scope : Scope}
    {between beyond : List (Enclosure × String)}
    {inner outer : Enclosure × String}
    (h : scope.Nests (inner :: (between ++ outer :: beyond))) :
    inner.2 = outer.2 ↔ ∀ subquery ∈ outer :: between,
      subquery.1 = .needle := by
  obtain ⟨around, h⟩ := h
  have hatInner :
      scope.subqueries around = [] ++ inner :: (between ++ outer :: beyond) :=
    h.symm
  have hatOuter :
      scope.subqueries around = (inner :: between) ++ outer :: beyond := h.symm
  have hinner := alias_eq_of_subqueries_eq hatInner
  have houter := alias_eq_of_subqueries_eq hatOuter
  rw [List.append_cons, List.map_append, within_append] at hinner
  rw [hinner, houter, aliasName_within_eq_iff, List.forall_mem_map,
    List.forall_mem_append, List.forall_mem_singleton, List.forall_mem_cons,
    and_comm]

end Scope

/-! ## SQL of whole expressions -/

/-- Of two subqueries in the SQL of a text, one inside the test of the other,
the inner one declares the alias of the outer one again if and only if only
needles enclose it there. -/
theorem alias_eq_iff_of_compile_eq_ok {text : String} {options : Options}
    {fragment : Fragment} (h : compile text options = .ok fragment) :
    ∃ expr assembly, parse text options = .ok expr ∧
      expr.asScalar.assemble
        (.root options.documentColumn options.rowColumn) = .ok assembly ∧
      assembly.fragment = fragment ∧
      ∀ inner between outer beyond,
        inner :: (between ++ outer :: beyond) ∈ assembly.nestings [] →
          (inner.2 = outer.2 ↔
            ∀ subquery ∈ outer :: between, subquery.1 = .needle) := by
  obtain ⟨tree, -, hparse, hemit⟩ := exists_tree_of_compile_eq_ok h
  rw [JsonExpr.toSql, ScalarExpr.emit_eq_map_assemble] at hemit
  obtain ⟨assembly, hassembly, hfragment⟩ := exists_of_map_eq_ok hemit
  refine ⟨_, assembly, hparse, hassembly, hfragment, ?_⟩
  intro inner between outer beyond hnesting
  let scope := Scope.root options.documentColumn options.rowColumn
  have hnests : ∀ nesting ∈ assembly.nestings (scope.subqueries []),
      scope.Nests nesting :=
    ScalarExpr.nests_of_assemble_eq_ok hassembly
  exact (hnests _ hnesting).alias_eq_iff

/-- The membership test in the needle has the alias of the one around it, and
not the alias of the quantifier. -/
theorem alias_eq_iff_of_compile_eq_ok_needle :
    let text := "_.a.some(t => t.b.includes(_.c.includes(1)))"
    let fragment : Fragment :=
      ⟨"EXISTS (SELECT 1 FROM json_each((data -> '$.a')) AS json_1 WHERE " ++
        "EXISTS (SELECT 1 FROM json_each((IIF(json_1.type IN ('object', " ++
        "'array'), json_1.value, json_quote(json_1.value)) -> '$.b')) AS " ++
        "json_2 WHERE json_2.value = EXISTS (SELECT 1 FROM json_each(" ++
        "(data -> '$.c')) AS json_2 WHERE json_2.value = ?)))", [.integer 1]⟩
    compile text default = .ok fragment ∧
      ∃ expr assembly, parse text default = .ok expr ∧
        expr.asScalar.assemble (.root "data" "records.id") = .ok assembly ∧
        assembly.fragment = fragment ∧
        ∀ inner between outer beyond,
          inner :: (between ++ outer :: beyond) ∈ assembly.nestings [] →
            (inner.2 = outer.2 ↔
              ∀ subquery ∈ outer :: between, subquery.1 = .needle) := by
  intro text fragment
  have h : compile text default = .ok fragment := by decide +kernel
  exact ⟨h, alias_eq_iff_of_compile_eq_ok h⟩

/-- Subqueries in each other can have the same alias: here a membership test is
in the needle of another one. -/
theorem aliases_collide_needle :
    let text := "_.a.includes(_.b.includes(1))"
    let expr : JsonExpr :=
      .ofScalar (.includes (.path (.name "_") ["a"])
        (.includes (.path (.name "_") ["b"]) (.literal (.integer 1))))
    let fragment : Fragment :=
      ⟨"EXISTS (SELECT 1 FROM json_each((data -> '$.a')) AS json_1 " ++
        "WHERE json_1.value = EXISTS (SELECT 1 FROM json_each(" ++
        "(data -> '$.b')) AS json_1 WHERE json_1.value = ?))", [.integer 1]⟩
    parse text default = .ok expr ∧ compile text default = .ok fragment ∧
      ∃ assembly,
        expr.asScalar.assemble (.root "data" "records.id") = .ok assembly ∧
          assembly.fragment = fragment ∧
          ¬∀ nesting ∈ assembly.nestings [], (nesting.map Prod.snd).Nodup := by
  let tokens : List PlacedToken :=
    [⟨0, .name "_"⟩, ⟨1, .dot⟩, ⟨2, .name "a"⟩, ⟨3, .dot⟩,
      ⟨4, .name "includes"⟩, ⟨12, .openParen⟩, ⟨13, .name "_"⟩, ⟨14, .dot⟩,
      ⟨15, .name "b"⟩, ⟨16, .dot⟩, ⟨17, .name "includes"⟩, ⟨25, .openParen⟩,
      ⟨26, .literal (.integer 1)⟩, ⟨27, .closeParen⟩, ⟨28, .closeParen⟩]
  have hlength : checkLength "_.a.includes(_.b.includes(1))" default =
      .ok () := by decide +kernel
  have htokens : tokenize "_.a.includes(_.b.includes(1))" = .ok tokens := by
    decide +kernel
  intro text expr fragment
  refine ⟨?_, by decide +kernel, _, rfl, by decide +kernel, ?_⟩
  · unfold parse readExpr readTokens
    rw [hlength, htokens]
    rfl
  · decide +kernel

end DocFilter
