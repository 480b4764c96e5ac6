import DocFilter.Proofs.Emission.Closed
import DocFilter.Proofs.Height.Branch
import DocFilter.Proofs.Literals.Order
import DocFilter.Proofs.Syntax.Labels
import Mathlib.Algebra.Ring.Nat

/-!
# The length of emitted SQL

Every form of expression puts the SQL of its parts between fixed texts, and it
does so once for each part.  What a node adds to the SQL of its parts is thus
bounded, but for the labels of its path, and the whole SQL is no longer than
the nodes of the expression together allow.

Names have the longest texts of their own: an element of a collection is spelled
with its alias three times, and the number in the alias is no greater than the
number of tests that nest around it.
-/

namespace DocFilter

open Text

/-! ## Nodes -/

mutual

/-- An expression for a JSON value and all expressions in it. -/
def JsonExpr.nodes : JsonExpr → List Node
  | .name text => [.json (.name text)]
  | .path object labels => .json (.path object labels) :: object.nodes
  | .item object key => .json (.item object key) :: (object.nodes ++ key.nodes)
  | .array elements => .json (.array elements) :: JsonExpr.nodesAll elements
  | .ofScalar value => .json (.ofScalar value) :: value.nodes

/-- Some expressions for JSON values and all expressions in them. -/
def JsonExpr.nodesAll : List JsonExpr → List Node
  | [] => []
  | element :: others => element.nodes ++ JsonExpr.nodesAll others

/-- An expression for a scalar and all expressions in it. -/
def ScalarExpr.nodes : ScalarExpr → List Node
  | .literal value => [.scalar (.literal value)]
  | .matching style subject pattern =>
    .scalar (.matching style subject pattern) ::
      (subject.nodes ++ pattern.nodes)
  | .length object => .scalar (.length object) :: object.nodes
  | .includes collection needle =>
    .scalar (.includes collection needle) :: (collection.nodes ++ needle.nodes)
  | .quantified quantifier collection element condition =>
    .scalar (.quantified quantifier collection element condition) ::
      (collection.nodes ++ condition.nodes)
  | .unary op operand => .scalar (.unary op operand) :: operand.nodes
  | .binary op left right =>
    .scalar (.binary op left right) :: (left.nodes ++ right.nodes)
  | .ofJson value => .scalar (.ofJson value) :: value.nodes

end

mutual

/-- How deep the tests for elements of collections nest. -/
def JsonExpr.nesting : JsonExpr → Nat
  | .name _ => 0
  | .path object _ => object.nesting
  | .item object key => max object.nesting key.nesting
  | .array elements => JsonExpr.nestingAll elements
  | .ofScalar value => value.nesting

/-- How deep the tests in some expressions nest. -/
def JsonExpr.nestingAll : List JsonExpr → Nat
  | [] => 0
  | element :: others => max element.nesting (JsonExpr.nestingAll others)

/-- How deep the tests in an expression for a scalar nest. -/
def ScalarExpr.nesting : ScalarExpr → Nat
  | .literal _ => 0
  | .matching _ subject pattern => max subject.nesting pattern.nesting
  | .length object => object.nesting
  | .includes collection needle => max collection.nesting needle.nesting + 1
  | .quantified _ collection _ condition =>
    max collection.nesting condition.nesting + 1
  | .unary _ operand => operand.nesting
  | .binary _ left right => max left.nesting right.nesting
  | .ofJson value => value.nesting

end

/-- The labels that a node adds. -/
def Node.labels : Node → List String
  | .json (.path _ labels) => labels
  | _ => []

/-- Whether a node is a literal. -/
def Node.isLiteral : Node → Bool
  | .scalar (.literal _) => true
  | _ => false

/-! ## Literals -/

mutual

/-- Every literal gets a placeholder. -/
theorem JsonExpr.length_placeholders (expr : JsonExpr) :
    expr.placeholders.length = expr.nodes.countP Node.isLiteral := by
  cases expr with
  | name text => rfl
  | path object labels =>
    have hobject := object.length_placeholders
    simp [JsonExpr.placeholders, JsonExpr.nodes, Node.isLiteral, hobject]
  | item object key =>
    have hobject := object.length_placeholders
    have hkey := key.length_placeholders
    simp [JsonExpr.placeholders, JsonExpr.nodes, Node.isLiteral, hobject, hkey]
  | array elements =>
    have helements := JsonExpr.length_placeholdersAll elements
    simp [JsonExpr.placeholders, JsonExpr.nodes, Node.isLiteral, helements]
  | ofScalar value =>
    have hvalue := value.length_placeholders
    simp [JsonExpr.placeholders, JsonExpr.nodes, Node.isLiteral, hvalue]

theorem JsonExpr.length_placeholdersAll (elements : List JsonExpr) :
    (JsonExpr.placeholdersAll elements).length =
      (JsonExpr.nodesAll elements).countP Node.isLiteral := by
  cases elements with
  | nil => rfl
  | cons element others =>
    have helement := element.length_placeholders
    have hothers := JsonExpr.length_placeholdersAll others
    simp [JsonExpr.placeholdersAll, JsonExpr.nodesAll, helement, hothers]

theorem ScalarExpr.length_placeholders (expr : ScalarExpr) :
    expr.placeholders.length = expr.nodes.countP Node.isLiteral := by
  cases expr with
  | literal value => rfl
  | matching style subject pattern =>
    have hsubject := subject.length_placeholders
    have hpattern := pattern.length_placeholders
    simp [ScalarExpr.placeholders, ScalarExpr.nodes, Node.isLiteral, hsubject,
      hpattern, Nat.add_comm]
  | length object =>
    have hobject := object.length_placeholders
    simp [ScalarExpr.placeholders, ScalarExpr.nodes, Node.isLiteral, hobject]
  | includes collection needle =>
    have hcollection := collection.length_placeholders
    have hneedle := needle.length_placeholders
    simp [ScalarExpr.placeholders, ScalarExpr.nodes, Node.isLiteral,
      hcollection, hneedle]
  | quantified quantifier collection element condition =>
    have hcollection := collection.length_placeholders
    have hcondition := condition.length_placeholders
    simp [ScalarExpr.placeholders, ScalarExpr.nodes, Node.isLiteral,
      hcollection, hcondition]
  | unary op operand =>
    have hoperand := operand.length_placeholders
    simp [ScalarExpr.placeholders, ScalarExpr.nodes, Node.isLiteral, hoperand]
  | binary op left right =>
    have hleft := left.length_placeholders
    have hright := right.length_placeholders
    simp [ScalarExpr.placeholders, ScalarExpr.nodes, Node.isLiteral, hleft,
      hright]
  | ofJson value =>
    have hvalue := value.length_placeholders
    simp [ScalarExpr.placeholders, ScalarExpr.nodes, Node.isLiteral, hvalue]

end

/-! ## Lengths of fragments -/

/-- The number of bytes of the text of a fragment. -/
def Fragment.size (fragment : Fragment) : Nat :=
  byteLength fragment.sql.toList

@[simp] theorem Text.byteLength_openParen : byteLength "(".toList = 1 := rfl

@[simp] theorem Text.byteLength_closeParen : byteLength ")".toList = 1 := rfl

@[simp] theorem Fragment.size_ofText (sql : String) :
    (Fragment.ofText sql).size = byteLength sql.toList := rfl

@[simp] theorem Fragment.size_append (first second : Fragment) :
    (first ++ second).size = first.size + second.size := by
  rw [Fragment.size, Fragment.sql_append, String.toList_append,
    byteLength_append]
  rfl

/-- Some labels in a path, with the point before each of them and the quotes
around it.  Single quotes are doubled, and double quotes are not. -/
def labelsAllowance (labels : List String) : Nat :=
  2 * (labels.map fun label => byteLength label.toList).sum + 3 * labels.length

namespace Sql

theorem byteLength_doubled_le (cs : List Char) :
    byteLength (doubled cs) ≤ 2 * byteLength cs := by
  induction cs with
  | nil => exact Nat.le_refl 0
  | cons c cs ih =>
    have hfirst : byteLength (if c = '\'' then ['\'', '\''] else [c]) ≤
        2 * c.utf8Size := by
      split_ifs with hquote
      · subst hquote
        decide
      · change c.utf8Size + 0 ≤ 2 * c.utf8Size
        omega
    rw [doubled_cons, byteLength_append]
    change _ + byteLength (doubled cs) ≤ 2 * (c.utf8Size + byteLength cs)
    omega

theorem byteLength_doubled_label_le (cs : List Char) :
    byteLength (doubled (label cs)) ≤ 2 * byteLength cs + 2 := by
  have hdoubled := byteLength_doubled_le cs
  unfold label
  split_ifs
  · omega
  · have hquoted : doubled ('"' :: cs ++ ['"']) =
        ['"'] ++ doubled cs ++ ['"'] :=
      doubled_append ('"' :: cs) ['"']
    have hquote : byteLength ['"'] = 1 := rfl
    rw [hquoted, byteLength_append, byteLength_append]
    omega

theorem byteLength_doubled_steps_le (labels : List String) :
    byteLength (doubled (steps labels)) ≤ labelsAllowance labels := by
  induction labels with
  | nil => exact Nat.le_refl 0
  | cons text others ih =>
    have hlabel := byteLength_doubled_label_le text.toList
    have hstep : doubled ('.' :: (label text.toList ++ steps others)) =
        ['.'] ++ doubled (label text.toList ++ steps others) := rfl
    have hpoint : byteLength ['.'] = 1 := rfl
    rw [steps_cons, hstep, byteLength_append, doubled_append,
      byteLength_append]
    simp only [labelsAllowance, List.map_cons, List.sum_cons,
      List.length_cons] at ih ⊢
    omega

/-- A path is no longer than its labels allow. -/
theorem byteLength_quotedPath_le (labels : List String) :
    byteLength (quotedPath labels).toList ≤ labelsAllowance labels + 3 := by
  have hsteps := byteLength_doubled_steps_le labels
  have hpath : (quotedPath labels).toList =
      ['\'', '$'] ++ doubled (steps labels) ++ ['\''] := by
    rw [quotedPath, String.toList_ofList]
    rfl
  have hopening : byteLength ['\'', '$'] = 2 := rfl
  have hclosing : byteLength ['\''] = 1 := rfl
  rw [hpath, byteLength_append, byteLength_append]
  omega

/-- The elements of an array, each with a comma and a blank. -/
theorem size_commaSeparated_le (fragments : List Fragment) :
    (commaSeparated fragments).size ≤
      (fragments.map fun fragment => fragment.size + 2).sum := by
  induction fragments with
  | nil => exact Nat.le_refl 0
  | cons fragment others ih =>
    cases others with
    | nil =>
      change fragment.size ≤ fragment.size + 2 + 0
      omega
    | cons next others =>
      have hcomma : byteLength ", ".toList = 2 := rfl
      simp only [commaSeparated, Fragment.size_append, Fragment.size_ofText,
        List.map_cons, List.sum_cons] at ih ⊢
      omega

/-- A test for elements names its subquery once. -/
theorem size_elementTest_le (aliasName : String) (quantifier : Quantifier)
    (collection condition : Fragment) :
    (elementTest aliasName quantifier collection condition).size ≤
      collection.size + condition.size + byteLength aliasName.toList + 55 := by
  cases quantifier with
  | any =>
    have hexists : byteLength "EXISTS (SELECT 1 FROM json_each(".toList = 32 :=
      rfl
    have has : byteLength ") AS ".toList = 5 := rfl
    have hwhere : byteLength " WHERE ".toList = 7 := rfl
    simp only [elementTest, Fragment.size_append, Fragment.size_ofText,
      byteLength_closeParen]
    omega
  | all =>
    have hexists :
        byteLength "NOT EXISTS (SELECT 1 FROM json_each(".toList = 36 := rfl
    have has : byteLength ") AS ".toList = 5 := rfl
    have hwhere : byteLength " WHERE NOT (".toList = 12 := rfl
    have hclosing : byteLength "))".toList = 2 := rfl
    simp only [elementTest, Fragment.size_append, Fragment.size_ofText]
    omega

/-- A membership test names its subquery twice. -/
theorem size_membershipTest_le (aliasName : String)
    (collection needle : Fragment) :
    (membershipTest aliasName collection needle).size ≤
      collection.size + needle.size + 2 * byteLength aliasName.toList + 64 := by
  have htest := size_elementTest_le aliasName .any collection
    (aliasName ++ ".value = " ++ needle)
  have hvalue : byteLength ".value = ".toList = 9 := rfl
  simp only [Fragment.size_append, Fragment.size_ofText] at htest
  unfold membershipTest
  omega

theorem size_lengthOf (object : Fragment) :
    (lengthOf object).size = object.size + 193 := by
  have htype : byteLength
      "(SELECT CASE json_type(length_arg) WHEN 'text' THEN length(length_arg ->> '$') ".toList =
        79 := by decide +kernel
  have harray : byteLength
      "WHEN 'array' THEN json_array_length(length_arg) ELSE (length_arg ->> '$.length') END FROM (SELECT ".toList =
        98 := by decide +kernel
  have hclosing : byteLength " AS length_arg))".toList = 16 := rfl
  simp only [lengthOf, Fragment.size_append, Fragment.size_ofText, htype,
    harray, hclosing]
  omega

end Sql

theorem ValueSort.size_ofJson_le (sort : ValueSort) (fragment : Fragment) :
    (sort.ofJson fragment).size ≤ fragment.size + 10 := by
  cases sort with
  | json => exact Nat.le_add_right _ _
  | scalar =>
    have hclosing : byteLength " ->> '$')".toList = 9 := rfl
    simp only [ofJson, Fragment.size_append, Fragment.size_ofText,
      byteLength_openParen]
    omega

/-! ## Scopes -/

/-- The number of decimal digits of a number. -/
def decimalWidth (n : Nat) : Nat := (toString n).length

theorem decimalWidth_mono {m n : Nat} (h : m ≤ n) :
    decimalWidth m ≤ decimalWidth n := by
  have hpos : 0 < decimalWidth n := Nat.length_repr_pos
  have hn : n < 10 ^ decimalWidth n :=
    (Nat.length_repr_le_iff hpos).mp (Nat.le_refl _)
  exact (Nat.length_repr_le_iff hpos).mpr (Nat.lt_of_le_of_lt h hn)

theorem Text.byteLength_of_forall_isDigit {cs : List Char}
    (h : ∀ c ∈ cs, c.isDigit = true) : byteLength cs = cs.length := by
  induction cs with
  | nil => rfl
  | cons c cs ih =>
    obtain ⟨hc, hcs⟩ := List.forall_mem_cons.mp h
    have hle : c.val ≤ 127 :=
      UInt32.le_iff_toNat_le.mpr
        (Nat.le_trans (toNat_of_isDigit hc).2 (by decide))
    change c.utf8Size + byteLength cs = cs.length + 1
    rw [ih hcs, Char.utf8Size_eq_one_iff.mpr hle, Nat.add_comm]

/-- An alias has five letters and a number. -/
theorem Scope.byteLength_aliasName (scope : Scope) :
    byteLength scope.aliasName.toList =
      5 + decimalWidth (scope.depth + 1) := by
  have hword : byteLength "json_".toList = 5 := rfl
  rw [Scope.aliasName, String.toList_append, byteLength_append, hword,
    byteLength_of_forall_isDigit fun c => Decimal.isDigit_of_mem_toString]
  rfl

/-- Both texts of a bound name leave room for a comma and a blank within some
number of bytes. -/
def Binding.FitsIn (bytes : Nat) (binding : Binding) : Prop :=
  ∀ sort, byteLength (binding.sql sort).toList + 2 ≤ bytes

theorem Binding.fitsIn_document (column : String) :
    (Binding.document column).FitsIn (byteLength column.toList + 12) := by
  have hclosing : byteLength " ->> '$')".toList = 9 := rfl
  intro sort
  cases sort <;>
    simp only [Binding.sql, Binding.document, String.toList_append,
      byteLength_append, byteLength_openParen] <;> omega

theorem Binding.fitsIn_column (name : String) :
    (Binding.column name).FitsIn (byteLength name.toList + 14) := by
  have hopening : byteLength "json_quote(".toList = 11 := rfl
  intro sort
  cases sort <;>
    simp only [Binding.sql, Binding.column, String.toList_append,
      byteLength_append, byteLength_closeParen] <;> omega

/-- An element is spelled with its alias three times. -/
theorem Binding.fitsIn_element (aliasName : String) :
    (Binding.element aliasName).FitsIn
      (3 * byteLength aliasName.toList + 64) := by
  have hopening : byteLength "IIF(".toList = 4 := rfl
  have htype : byteLength ".type IN ('object', 'array'), ".toList = 30 := rfl
  have hquote : byteLength ".value, json_quote(".toList = 19 := rfl
  have hclosing : byteLength ".value))".toList = 8 := rfl
  have hvalue : byteLength ".value".toList = 6 := rfl
  intro sort
  cases sort <;>
    simp only [Binding.sql, Binding.element, String.toList_append,
      byteLength_append] <;> omega

theorem Binding.FitsIn.of_le {bytes bytes' : Nat} {binding : Binding}
    (h : binding.FitsIn bytes) (hle : bytes ≤ bytes') :
    binding.FitsIn bytes' :=
  fun sort => Nat.le_trans (h sort) hle

/-! ## Expressions -/

/-- What some nodes allow: a number of bytes each, and the room for the labels
of paths. -/
def allowance (bytes : Nat) (nodes : List Node) : Nat :=
  bytes * nodes.length + labelsAllowance (nodes.flatMap Node.labels)

theorem labelsAllowance_append (labels others : List String) :
    labelsAllowance (labels ++ others) =
      labelsAllowance labels + labelsAllowance others := by
  simp only [labelsAllowance, List.map_append, List.sum_append,
    List.length_append]
  omega

theorem allowance_cons (bytes : Nat) (node : Node) (nodes : List Node) :
    allowance bytes (node :: nodes) =
      bytes + labelsAllowance node.labels + allowance bytes nodes := by
  simp only [allowance, List.length_cons, List.flatMap_cons,
    labelsAllowance_append, Nat.mul_add, Nat.mul_one]
  omega

theorem allowance_append (bytes : Nat) (nodes others : List Node) :
    allowance bytes (nodes ++ others) =
      allowance bytes nodes + allowance bytes others := by
  simp only [allowance, List.length_append, List.flatMap_append,
    labelsAllowance_append, Nat.mul_add]
  omega

/-- In a scope there is room for tests that nest to a depth: every bound name
fits in a number of bytes, and so does every element of those tests. -/
structure Scope.HasRoom (bytes nesting : Nat) (scope : Scope) : Prop where
  fitsIn : scope.All (Binding.FitsIn bytes)
  width_le : 256 + 3 * decimalWidth (scope.depth + nesting) ≤ bytes

namespace Scope.HasRoom

variable {bytes nesting nesting' : Nat} {scope : Scope}

theorem of_le (h : scope.HasRoom bytes nesting) (hle : nesting' ≤ nesting) :
    scope.HasRoom bytes nesting' := by
  have hwidth : decimalWidth (scope.depth + nesting') ≤
      decimalWidth (scope.depth + nesting) :=
    decimalWidth_mono (Nat.add_le_add_left hle _)
  have hroom := h.width_le
  exact ⟨h.fitsIn, by omega⟩

theorem left (h : scope.HasRoom bytes (max nesting nesting')) :
    scope.HasRoom bytes nesting :=
  h.of_le (Nat.le_max_left _ _)

theorem right (h : scope.HasRoom bytes (max nesting nesting')) :
    scope.HasRoom bytes nesting' :=
  h.of_le (Nat.le_max_right _ _)

/-- The alias of a test fits. -/
theorem byteLength_aliasName_le (h : scope.HasRoom bytes (nesting + 1)) :
    3 * byteLength scope.aliasName.toList + 241 ≤ bytes := by
  have hwidth : decimalWidth (scope.depth + 1) ≤
      decimalWidth (scope.depth + (nesting + 1)) :=
    decimalWidth_mono (by omega)
  have hroom := h.width_le
  rw [scope.byteLength_aliasName]
  omega

/-- Inside a test there is room for one test less. -/
theorem element (h : scope.HasRoom bytes (nesting + 1)) (name : String) :
    (scope.element name).HasRoom bytes nesting := by
  have halias := h.byteLength_aliasName_le
  have hfits : (Binding.element scope.aliasName).FitsIn bytes :=
    (Binding.fitsIn_element _).of_le (by omega)
  have hdepth : (scope.element name).depth + nesting =
      scope.depth + (nesting + 1) := by
    change scope.depth + 1 + nesting = _
    omega
  refine ⟨Scope.All.element h.fitsIn hfits name, ?_⟩
  rw [hdepth]
  exact h.width_le

end Scope.HasRoom

variable {bytes : Nat}

mutual

/-- The SQL of an expression for a JSON value is two bytes shorter than its
nodes allow, so a comma and a blank can stand behind it. -/
theorem JsonExpr.size_emit_le {expr : JsonExpr} {sort : ValueSort}
    {scope : Scope} (hroom : scope.HasRoom bytes expr.nesting)
    {fragment : Fragment} (h : expr.emit sort scope = .ok fragment) :
    fragment.size + 2 ≤ allowance bytes expr.nodes := by
  have hbytes := hroom.width_le
  cases expr with
  | name text =>
    obtain ⟨binding, hbinding, rfl⟩ := JsonExpr.emit_name_eq_ok.mp h
    have hfits := hroom.fitsIn.lookup? hbinding sort
    simp only [JsonExpr.nodes, allowance_cons, Fragment.size_ofText]
    omega
  | path object labels =>
    obtain ⟨inner, hinner, rfl⟩ := JsonExpr.emit_path_eq_ok.mp h
    have hroom : scope.HasRoom bytes object.nesting := hroom
    have hobject := JsonExpr.size_emit_le hroom hinner
    have hlabels := Sql.byteLength_quotedPath_le labels
    have harrow : byteLength sort.arrow.toList ≤ 5 := by cases sort <;> decide
    simp only [JsonExpr.nodes, allowance_cons, Node.labels,
      Fragment.size_append, Fragment.size_ofText, byteLength_openParen,
      byteLength_closeParen]
    omega
  | item object key =>
    obtain ⟨inner, hinner, place, hplace, rfl⟩ := JsonExpr.emit_item_eq_ok.mp h
    have hobject := JsonExpr.size_emit_le hroom.left hinner
    have hkey := ScalarExpr.size_emit_le hroom.right hplace
    have hsort := sort.size_ofJson_le ("(" ++ inner ++ " -> " ++ place ++ ")")
    have harrow : byteLength " -> ".toList = 4 := rfl
    simp only [JsonExpr.nodes, allowance_cons, allowance_append,
      Fragment.size_append, Fragment.size_ofText, byteLength_openParen,
      byteLength_closeParen] at hsort ⊢
    omega
  | array elements =>
    obtain ⟨fragments, hfragments, rfl⟩ := JsonExpr.emit_array_eq_ok.mp h
    have helements := JsonExpr.size_emitAll_le hroom hfragments
    have hcommas := Sql.size_commaSeparated_le fragments
    have hsort := sort.size_ofJson_le
      ("json_array(" ++ Sql.commaSeparated fragments ++ ")")
    have hopening : byteLength "json_array(".toList = 11 := rfl
    simp only [JsonExpr.nodes, allowance_cons, Fragment.size_append,
      Fragment.size_ofText, byteLength_closeParen] at hsort ⊢
    omega
  | ofScalar value =>
    obtain ⟨inner, hinner, rfl⟩ := JsonExpr.emit_ofScalar_eq_ok.mp h
    have hvalue := ScalarExpr.size_emit_le hroom hinner
    have hsort := sort.size_ofJson_le ("json_quote(" ++ inner ++ ")")
    have hopening : byteLength "json_quote(".toList = 11 := rfl
    simp only [JsonExpr.nodes, allowance_cons, Fragment.size_append,
      Fragment.size_ofText, byteLength_closeParen] at hsort ⊢
    omega

theorem JsonExpr.size_emitAll_le {elements : List JsonExpr} {scope : Scope}
    (hroom : scope.HasRoom bytes (JsonExpr.nestingAll elements))
    {fragments : List Fragment}
    (h : JsonExpr.emitAll elements scope = .ok fragments) :
    (fragments.map fun fragment => fragment.size + 2).sum ≤
      allowance bytes (JsonExpr.nodesAll elements) := by
  cases elements with
  | nil =>
    obtain rfl := JsonExpr.emitAll_nil_eq_ok.mp h
    exact Nat.zero_le _
  | cons element others =>
    obtain ⟨first, hfirst, later, hlater, rfl⟩ :=
      JsonExpr.emitAll_cons_eq_ok.mp h
    have helement := JsonExpr.size_emit_le hroom.left hfirst
    have hothers := JsonExpr.size_emitAll_le hroom.right hlater
    rw [List.map_cons, List.sum_cons, JsonExpr.nodesAll, allowance_append]
    exact Nat.add_le_add helement hothers

/-- The SQL of an expression for a scalar is two bytes shorter than its nodes
allow. -/
theorem ScalarExpr.size_emit_le {expr : ScalarExpr} {scope : Scope}
    (hroom : scope.HasRoom bytes expr.nesting) {fragment : Fragment}
    (h : expr.emit scope = .ok fragment) :
    fragment.size + 2 ≤ allowance bytes expr.nodes := by
  have hbytes := hroom.width_le
  cases expr with
  | literal value =>
    obtain rfl := ScalarExpr.emit_literal_eq_ok.mp h
    have hplaceholder : (Fragment.placeholder value).size = 1 :=
      (rfl : byteLength "?".toList = 1)
    simp only [ScalarExpr.nodes, allowance_cons]
    omega
  | matching style subject pattern =>
    obtain ⟨first, hfirst, second, hsecond, rfl⟩ :=
      ScalarExpr.emit_matching_eq_ok.mp h
    have hpattern := ScalarExpr.size_emit_le hroom.right hfirst
    have hsubject := ScalarExpr.size_emit_le hroom.left hsecond
    have hname : byteLength style.name.toList = 4 := by cases style <;> rfl
    have hcomma : byteLength ", ".toList = 2 := rfl
    simp only [ScalarExpr.nodes, allowance_cons, allowance_append,
      Fragment.size_append, Fragment.size_ofText, byteLength_openParen,
      byteLength_closeParen]
    omega
  | length object =>
    obtain ⟨inner, hinner, rfl⟩ := ScalarExpr.emit_length_eq_ok.mp h
    have hobject := JsonExpr.size_emit_le hroom hinner
    rw [ScalarExpr.nodes, allowance_cons, Sql.size_lengthOf]
    omega
  | includes collection needle =>
    obtain ⟨inner, hinner, sought, hsought, rfl⟩ :=
      ScalarExpr.emit_includes_eq_ok.mp h
    have hparts := hroom.of_le (Nat.le_succ _)
    have hcollection := JsonExpr.size_emit_le hparts.left hinner
    have hneedle := ScalarExpr.size_emit_le hparts.right hsought
    have halias := hroom.byteLength_aliasName_le
    have htest := Sql.size_membershipTest_le scope.aliasName inner sought
    rw [ScalarExpr.nodes, allowance_cons, allowance_append]
    omega
  | quantified quantifier collection element condition =>
    obtain ⟨inner, hinner, test, htest, rfl⟩ :=
      ScalarExpr.emit_quantified_eq_ok.mp h
    have hparts := hroom.of_le (Nat.le_succ _)
    have hcollection := JsonExpr.size_emit_le hparts.left hinner
    have hcondition :=
      ScalarExpr.size_emit_le (hroom.element element).right htest
    have halias := hroom.byteLength_aliasName_le
    have htests :=
      Sql.size_elementTest_le scope.aliasName quantifier inner test
    rw [ScalarExpr.nodes, allowance_cons, allowance_append]
    omega
  | unary op operand =>
    obtain ⟨inner, hinner, rfl⟩ := ScalarExpr.emit_unary_eq_ok.mp h
    have hroom : scope.HasRoom bytes operand.nesting := hroom
    have hoperand := ScalarExpr.size_emit_le hroom hinner
    have hopening : byteLength op.sqlOpening.toList ≤ 6 := by
      cases op <;> decide
    simp only [ScalarExpr.nodes, allowance_cons, Fragment.size_append,
      Fragment.size_ofText, byteLength_closeParen]
    omega
  | binary op left right =>
    obtain ⟨first, hfirst, second, hsecond, rfl⟩ :=
      ScalarExpr.emit_binary_eq_ok.mp h
    have hleft := ScalarExpr.size_emit_le hroom.left hfirst
    have hright := ScalarExpr.size_emit_le hroom.right hsecond
    have hblank : byteLength " ".toList = 1 := rfl
    have hop : byteLength op.sql.toList ≤ 3 := by cases op <;> decide
    simp only [ScalarExpr.nodes, allowance_cons, allowance_append,
      Fragment.size_append, Fragment.size_ofText, byteLength_openParen,
      byteLength_closeParen]
    omega
  | ofJson value =>
    have hvalue :=
      JsonExpr.size_emit_le hroom (ScalarExpr.emit_ofJson_eq_ok.mp h)
    rw [ScalarExpr.nodes, allowance_cons]
    omega

end

/-- The SQL of an expression is no longer than its nodes allow.  Every node adds
a fixed number of bytes at most, a column or an alias, and the labels of its
path, so lengths, tests for elements and computed keys never multiply the SQL of
their parts.  There is one value for each literal. -/
theorem size_toSql_le {expr : JsonExpr} {documentColumn rowColumn : String}
    {columnBytes nesting : Nat}
    (hdocument : byteLength documentColumn.toList ≤ columnBytes)
    (hrow : byteLength rowColumn.toList ≤ columnBytes)
    (hnesting : expr.nesting ≤ nesting) {fragment : Fragment}
    (h : expr.toSql (.root documentColumn rowColumn) = .ok fragment) :
    let labels := expr.nodes.flatMap Node.labels
    byteLength fragment.sql.toList ≤
        (256 + columnBytes + 3 * (toString nesting).length) *
            expr.nodes.length +
          2 * (labels.map fun label => byteLength label.toList).sum +
          3 * labels.length ∧
      fragment.params.length = expr.nodes.countP Node.isLiteral := by
  intro labels
  let bytes := 256 + columnBytes + 3 * decimalWidth nesting
  have hfits : (Scope.root documentColumn rowColumn).All
      (Binding.FitsIn bytes) :=
    Scope.All.root ((Binding.fitsIn_document documentColumn).of_le (by omega))
      ((Binding.fitsIn_column rowColumn).of_le (by omega))
  have hdepth : (Scope.root documentColumn rowColumn).depth + expr.nesting =
      expr.nesting := Nat.zero_add _
  have hwidth := decimalWidth_mono hnesting
  have hroom : (Scope.root documentColumn rowColumn).HasRoom bytes
      expr.nesting := ⟨hfits, by rw [hdepth]; omega⟩
  have hsize : fragment.size + 2 ≤ allowance bytes expr.nodes := by
    cases expr with
    | ofScalar value =>
      have hvalue : fragment.size + 2 ≤ allowance bytes value.nodes :=
        ScalarExpr.size_emit_le hroom h
      rw [JsonExpr.nodes, allowance_cons]
      omega
    | name | path | item | array => exact JsonExpr.size_emit_le hroom h
  constructor
  · simp only [allowance, labelsAllowance, Fragment.size] at hsize
    have hlabels : labels = expr.nodes.flatMap Node.labels := rfl
    rw [← hlabels] at hsize
    change _ ≤ bytes * _ + _ + _
    omega
  · rw [ScalarExpr.params_emit h, JsonExpr.placeholders_asScalar,
      expr.length_placeholders]

/-- A test in the condition of another one, the length of a length, a computed
key and a label with a quote. -/
theorem size_toSql_le_nested :
    let key : ScalarExpr := .length (.ofScalar (.length (.name "t")))
    let test : ScalarExpr :=
      .includes (.item (.name "t") key) (.literal (.integer 1))
    let expr : JsonExpr :=
      .ofScalar (.quantified .all (.path (.name "_") ["it's", "b"]) "t" test)
    let element := "IIF(json_1.type IN ('object', 'array'), json_1.value, " ++
      "json_quote(json_1.value))"
    let length (object : String) :=
      "(SELECT CASE json_type(length_arg) WHEN 'text' THEN " ++
      "length(length_arg ->> '$') WHEN 'array' THEN " ++
      "json_array_length(length_arg) ELSE (length_arg ->> '$.length') END " ++
      "FROM (SELECT " ++ object ++ " AS length_arg))"
    let fragment : Fragment :=
      ⟨"NOT EXISTS (SELECT 1 FROM json_each((data -> '$.\"it''s\".b')) AS json_1 " ++
        "WHERE NOT (EXISTS (SELECT 1 FROM json_each((" ++ element ++ " -> " ++
        length ("json_quote(" ++ length element ++ ")") ++
        ")) AS json_2 WHERE json_2.value = ?)))", [.integer 1]⟩
    byteLength "data".toList ≤ 10 ∧ byteLength "records.id".toList ≤ 10 ∧
      expr.nesting ≤ 2 ∧
      expr.toSql (.root "data" "records.id") = .ok fragment ∧
      byteLength fragment.sql.toList ≤
        (256 + 10 + 3 * 1) * 12 + 2 * 5 + 3 * 2 ∧
      fragment.params.length = 1 := by
  intro key test expr element length fragment
  have hsql : expr.toSql (.root "data" "records.id") = .ok fragment := by
    decide +kernel
  have hnesting : expr.nesting ≤ 2 := by decide +kernel
  have hdocument : byteLength "data".toList ≤ 10 := by decide
  have hrow : byteLength "records.id".toList ≤ 10 := by decide
  exact ⟨hdocument, hrow, hnesting, hsql,
    size_toSql_le hdocument hrow hnesting hsql⟩

end DocFilter
