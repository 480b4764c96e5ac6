import DocFilter.Proofs.Emission.Kinds
import DocFilter.Proofs.Emission.Shown
import DocFilter.Proofs.Scoping.Capture
import DocFilter.Proofs.Scoping.Renaming

/-!
# Reading an expression back from its SQL

Tidy expressions with the same SQL differ in the names of elements only.
-/

namespace DocFilter

open Sql

/-! ## Names -/

theorem referent?_depth_lt {elements : List String} {name : String}
    {depth : Nat} (h : referent? elements name = some (.element depth)) :
    depth < elements.length := by
  induction elements with
  | nil =>
    rw [referent?] at h
    split_ifs at h
    · cases h
    · cases h
  | cons element outer ih =>
    rw [referent?] at h
    split_ifs at h
    · cases h
      exact Nat.lt_succ_self _
    · exact Nat.lt_succ_of_lt (ih h)

theorem elementAlias_append_ne (depth : Nat) (suffix : String) :
    elementAlias depth ++ suffix ≠ "records.id" := by
  intro h
  have htoList := congrArg String.toList h
  unfold elementAlias Scope.aliasName at htoList
  simp at htoList

/-- A bound name is known by its spelling. -/
theorem Sql.Term.referent_injective (sort : ValueSort) :
    Function.Injective fun referent => Term.referent referent sort := by
  have helement {depth depth' : Nat} {suffix : String}
      (h : elementAlias depth ++ suffix = elementAlias depth' ++ suffix) :
      depth = depth' :=
    Scope.depth_eq_of_aliasName_eq ((String.append_left_inj suffix).mp h)
  intro referent referent' h
  cases referent with
  | document =>
    cases referent' with
    | document => rfl
    | row | element => cases sort <;> cases h
  | row =>
    cases referent' with
    | document => cases sort <;> cases h
    | row => rfl
    | element depth =>
      cases sort with
      | json => simp [Term.referent] at h
      | scalar =>
        exact absurd (Term.word.inj h).symm (elementAlias_append_ne depth _)
  | element depth =>
    cases referent' with
    | document => cases sort <;> cases h
    | row =>
      cases sort with
      | json => simp [Term.referent] at h
      | scalar =>
        exact absurd (Term.word.inj h) (elementAlias_append_ne depth _)
    | element depth' =>
      cases sort with
      | json =>
        simp only [Term.referent, Term.call.injEq, List.cons.injEq,
          Term.word.injEq] at h
        rw [helement h.2.1.1]
      | scalar => rw [helement (Term.word.inj h)]

/-- Names that stand for the same match under the elements around them. -/
theorem ElementPairs.match_of_referent?_eq {pairs : ElementPairs}
    {name other : String} {referent : Referent}
    (h : referent? (pairs.map Prod.fst) name = some referent)
    (h' : referent? (pairs.map Prod.snd) other = some referent) :
    pairs.Match name other := by
  induction pairs with
  | nil =>
    simp only [List.map_nil, referent?] at h h'
    rw [Match]
    split_ifs at h h' with hname hother hother hname hother hother
    · rw [hname, hother]
    · cases h.trans h'.symm
    · cases h.trans h'.symm
    · rw [hname, hother]
  | cons pair outer ih =>
    obtain ⟨element, element'⟩ := pair
    simp only [List.map_cons, referent?, List.length_map] at h h'
    split_ifs at h h' with hname hother hother
    · exact Or.inl ⟨hname, hother⟩
    · cases h
      have hlt := referent?_depth_lt h'
      simp at hlt
    · cases h'
      have hlt := referent?_depth_lt h
      simp at hlt
    · exact Or.inr ⟨hname, hother, ih h h'⟩

/-! ## Parts of terms -/

namespace Sql.Term

theorem enclosed_injective : Function.Injective enclosed := by
  intro row row' h
  simpa [enclosed] using h

theorem ofJson_injective (sort : ValueSort) :
    Function.Injective (ofJson sort) := by
  intro term term' h
  cases sort with
  | json => exact h
  | scalar =>
    have hrow := enclosed_injective h
    simpa using hrow

theorem lengthOf_injective : Function.Injective lengthOf := by
  intro object object' h
  have hrow := List.append_cancel_left (enclosed_injective h)
  simpa [enclosed] using hrow

theorem test_injective {aliasName : String} {collection collection' : Term}
    {condition condition' : List Term}
    (h : test aliasName collection condition =
      test aliasName collection' condition') :
    collection = collection' ∧ condition = condition' := by
  simpa [test, enclosed] using h

theorem elementTest_injective {aliasName : String}
    {collection collection' : Term} {condition condition' : List Term}
    {quantifier : Quantifier}
    (h : elementTest aliasName collection condition quantifier =
      elementTest aliasName collection' condition' quantifier) :
    collection = collection' ∧ condition = condition' := by
  cases quantifier with
  | any => exact test_injective h
  | all =>
    obtain ⟨hcollection, hcondition⟩ := test_injective (List.cons.inj h).2
    exact ⟨hcollection, by simpa [enclosed] using hcondition⟩

theorem membershipTest_injective {aliasName : String}
    {collection collection' : Term} {needle needle' : List Term}
    (h : membershipTest aliasName collection needle =
      membershipTest aliasName collection' needle') :
    collection = collection' ∧ needle = needle' := by
  obtain ⟨hcollection, hneedle⟩ := test_injective h
  exact ⟨hcollection, by simpa using hneedle⟩

theorem unary_injective (op : UnaryOp) : Function.Injective (unary op) := by
  intro operand operand' h
  cases op <;> simpa [unary, enclosed] using h

theorem binary_injective {op : BinaryOp} {left left' right right' : List Term}
    (hleft : IsOperand left) (hleft' : IsOperand left')
    (h : binary op left right = binary op left' right') :
    left = left' ∧ right = right' := by
  obtain ⟨hlefts, hrights⟩ :=
    hleft.eq_of_append_eq hleft' (enclosed_injective h)
  exact ⟨hlefts, (List.cons.inj hrights).2⟩

end Sql.Term

/-! ## Expressions -/

mutual

/-- Tidy expressions for a JSON value with the same term differ in the names of
elements only. -/
theorem JsonExpr.isRenamed_of_term_eq {pairs : ElementPairs} (expr : JsonExpr)
    {other : JsonExpr} (htidy : expr.IsTidy) (htidy' : other.IsTidy)
    {sort : ValueSort} {term : Term}
    (h : expr.term sort (pairs.map Prod.fst) = .ok term)
    (h' : other.term sort (pairs.map Prod.snd) = .ok term) :
    expr.IsRenamed pairs other := by
  have hkind : expr.kind = other.kind :=
    (JsonExpr.termKind_term htidy h).symm.trans
      (JsonExpr.termKind_term htidy' h')
  cases expr with
  | name text =>
    cases other with
    | name text' =>
      obtain ⟨referent, hreferent, rfl⟩ := JsonExpr.term_name_eq_ok.mp h
      obtain ⟨referent', hreferent', heq⟩ := JsonExpr.term_name_eq_ok.mp h'
      obtain rfl := Term.referent_injective sort heq
      exact .name (ElementPairs.match_of_referent?_eq hreferent hreferent')
    | _ => cases hkind
  | path object labels =>
    cases other with
    | path object' labels' =>
      obtain ⟨inner, hinner, rfl⟩ := JsonExpr.term_path_eq_ok.mp h
      obtain ⟨inner', hinner', heq⟩ := JsonExpr.term_path_eq_ok.mp h'
      have hparts :
          inner' = inner ∧ quotedPath labels' = quotedPath labels := by
        simpa using Term.enclosed_injective heq
      obtain ⟨rfl, hpath⟩ := hparts
      obtain rfl := eq_of_quotedPath_eq htidy'.2.2 htidy.2.2 hpath
      exact .path
        (object.isRenamed_of_term_eq htidy.1 htidy'.1 hinner hinner') labels'
    | _ => cases hkind
  | item object key =>
    cases other with
    | item object' key' =>
      obtain ⟨inner, hinner, place, hplace, rfl⟩ :=
        JsonExpr.term_item_eq_ok.mp h
      obtain ⟨inner', hinner', place', hplace', heq⟩ :=
        JsonExpr.term_item_eq_ok.mp h'
      have hparts : inner' = inner ∧ place' = place := by
        simpa using Term.enclosed_injective (Term.ofJson_injective sort heq)
      obtain ⟨rfl, rfl⟩ := hparts
      exact .item (object.isRenamed_of_term_eq htidy.1 htidy'.1 hinner hinner')
        (key.isRenamed_of_row_eq htidy.2 htidy'.2 hplace hplace')
    | _ => cases hkind
  | array items =>
    cases other with
    | array items' =>
      obtain ⟨inners, hinners, rfl⟩ := JsonExpr.term_array_eq_ok.mp h
      obtain ⟨inners', hinners', heq⟩ := JsonExpr.term_array_eq_ok.mp h'
      have hparts : inners' = inners := by
        have hrows := (Term.call.inj (Term.ofJson_injective sort heq)).2
        have hsingle : Function.Injective fun term : Term => [term] :=
          fun _ _ => List.singleton_inj.mp
        exact List.map_injective_iff.mpr hsingle hrows
      obtain rfl := hparts
      exact .array
        (JsonExpr.areRenamed_of_terms_eq items htidy htidy' hinners hinners')
    | _ => cases hkind
  | ofScalar value =>
    cases other with
    | ofScalar value' =>
      obtain ⟨inner, hinner, rfl⟩ := JsonExpr.term_ofScalar_eq_ok.mp h
      obtain ⟨inner', hinner', heq⟩ := JsonExpr.term_ofScalar_eq_ok.mp h'
      have hparts : inner' = inner := by
        simpa using Term.ofJson_injective sort heq
      obtain rfl := hparts
      exact .ofScalar
        (value.isRenamed_of_row_eq htidy.2 htidy'.2 hinner hinner')
    | _ => cases hkind

theorem JsonExpr.areRenamed_of_terms_eq {pairs : ElementPairs}
    (items : List JsonExpr) {others : List JsonExpr}
    (htidy : JsonExpr.AreTidy items) (htidy' : JsonExpr.AreTidy others)
    {inners : List Term}
    (h : JsonExpr.terms items (pairs.map Prod.fst) = .ok inners)
    (h' : JsonExpr.terms others (pairs.map Prod.snd) = .ok inners) :
    JsonExpr.AreRenamed pairs items others := by
  cases items with
  | nil =>
    obtain rfl := JsonExpr.terms_nil_eq_ok.mp h
    cases others with
    | nil => exact .nil
    | cons item' others =>
      obtain ⟨first, -, later, -, heq⟩ := JsonExpr.terms_cons_eq_ok.mp h'
      cases heq
  | cons item items =>
    obtain ⟨first, hfirst, later, hlater, rfl⟩ :=
      JsonExpr.terms_cons_eq_ok.mp h
    cases others with
    | nil => cases JsonExpr.terms_nil_eq_ok.mp h'
    | cons item' others =>
      obtain ⟨first', hfirst', later', hlater', heq⟩ :=
        JsonExpr.terms_cons_eq_ok.mp h'
      obtain ⟨rfl, rfl⟩ := List.cons.inj heq
      exact .cons (item.isRenamed_of_term_eq htidy.1 htidy'.1 hfirst hfirst')
        (JsonExpr.areRenamed_of_terms_eq items htidy.2 htidy'.2 hlater hlater')

/-- Tidy expressions for a scalar with the same row differ in the names of
elements only. -/
theorem ScalarExpr.isRenamed_of_row_eq {pairs : ElementPairs}
    (expr : ScalarExpr) {other : ScalarExpr} (htidy : expr.IsTidy)
    (htidy' : other.IsTidy) {row : List Term}
    (h : expr.row (pairs.map Prod.fst) = .ok row)
    (h' : other.row (pairs.map Prod.snd) = .ok row) :
    expr.IsRenamed pairs other := by
  have hkind : expr.kind = other.kind :=
    (ScalarExpr.rowKind_row h).symm.trans (ScalarExpr.rowKind_row h')
  cases expr with
  | literal value =>
    cases other with
    | literal value' =>
      obtain rfl := ScalarExpr.row_literal_eq_ok.mp h
      cases ScalarExpr.row_literal_eq_ok.mp h'
      exact .literal value
    | _ => cases hkind
  | matching style subject pattern =>
    cases other with
    | matching style' subject' pattern' =>
      obtain rfl := ScalarKind.matching.inj hkind
      obtain ⟨first, hfirst, second, hsecond, rfl⟩ :=
        ScalarExpr.row_matching_eq_ok.mp h
      obtain ⟨first', hfirst', second', hsecond', heq⟩ :=
        ScalarExpr.row_matching_eq_ok.mp h'
      have hparts : first' = first ∧ second' = second := by simpa using heq
      obtain ⟨rfl, rfl⟩ := hparts
      exact .matching style
        (subject.isRenamed_of_row_eq htidy.1 htidy'.1 hsecond hsecond')
        (pattern.isRenamed_of_row_eq htidy.2 htidy'.2 hfirst hfirst')
    | _ => cases hkind
  | length object =>
    cases other with
    | length object' =>
      obtain ⟨inner, hinner, rfl⟩ := ScalarExpr.row_length_eq_ok.mp h
      obtain ⟨inner', hinner', heq⟩ := ScalarExpr.row_length_eq_ok.mp h'
      obtain rfl := Term.lengthOf_injective (List.singleton_inj.mp heq)
      exact .length (object.isRenamed_of_term_eq htidy htidy' hinner hinner')
    | _ => cases hkind
  | includes collection needle =>
    cases other with
    | includes collection' needle' =>
      obtain ⟨inner, hinner, sought, hsought, rfl⟩ :=
        ScalarExpr.row_includes_eq_ok.mp h
      obtain ⟨inner', hinner', sought', hsought', heq⟩ :=
        ScalarExpr.row_includes_eq_ok.mp h'
      rw [List.length_map, List.length_map] at heq
      obtain ⟨rfl, rfl⟩ := Term.membershipTest_injective heq
      exact .includes
        (collection.isRenamed_of_term_eq htidy.1 htidy'.1 hinner hinner')
        (needle.isRenamed_of_row_eq htidy.2 htidy'.2 hsought hsought')
    | _ => cases hkind
  | quantified quantifier collection element condition =>
    cases other with
    | quantified quantifier' collection' element' condition' =>
      obtain rfl := ScalarKind.quantified.inj hkind
      obtain ⟨inner, hinner, tested, htested, rfl⟩ :=
        ScalarExpr.row_quantified_eq_ok.mp h
      obtain ⟨inner', hinner', tested', htested', heq⟩ :=
        ScalarExpr.row_quantified_eq_ok.mp h'
      rw [List.length_map, List.length_map] at heq
      obtain ⟨rfl, rfl⟩ := Term.elementTest_injective heq
      -- Inside the test there is one more pair of elements around.
      have hcondition : condition.IsRenamed ((element, element') :: pairs)
          condition' :=
        condition.isRenamed_of_row_eq htidy.2 htidy'.2 htested htested'
      exact .quantified quantifier element element'
        (collection.isRenamed_of_term_eq htidy.1 htidy'.1 hinner hinner')
        hcondition
    | _ => cases hkind
  | unary op operand =>
    cases other with
    | unary op' operand' =>
      obtain rfl := ScalarKind.unary.inj hkind
      obtain ⟨inner, hinner, rfl⟩ := ScalarExpr.row_unary_eq_ok.mp h
      obtain ⟨inner', hinner', heq⟩ := ScalarExpr.row_unary_eq_ok.mp h'
      obtain rfl := Term.unary_injective op (List.singleton_inj.mp heq)
      exact .unary op (operand.isRenamed_of_row_eq htidy htidy' hinner hinner')
    | _ => cases hkind
  | binary op left right =>
    cases other with
    | binary op' left' right' =>
      obtain rfl := ScalarKind.binary.inj hkind
      obtain ⟨first, hfirst, second, hsecond, rfl⟩ :=
        ScalarExpr.row_binary_eq_ok.mp h
      obtain ⟨first', hfirst', second', hsecond', heq⟩ :=
        ScalarExpr.row_binary_eq_ok.mp h'
      obtain ⟨rfl, rfl⟩ := Term.binary_injective
        (ScalarExpr.isOperand_row hfirst') (ScalarExpr.isOperand_row hfirst)
        (List.singleton_inj.mp heq)
      exact .binary op
        (left.isRenamed_of_row_eq htidy.1 htidy'.1 hfirst hfirst')
        (right.isRenamed_of_row_eq htidy.2 htidy'.2 hsecond hsecond')
    | _ => cases hkind
  | ofJson value =>
    cases other with
    | ofJson value' =>
      obtain ⟨inner, hinner, rfl⟩ := ScalarExpr.row_ofJson_eq_ok.mp h
      obtain ⟨inner', hinner', heq⟩ := ScalarExpr.row_ofJson_eq_ok.mp h'
      obtain rfl := List.singleton_inj.mp heq
      exact .ofJson
        (value.isRenamed_of_term_eq htidy.2 htidy'.2 hinner hinner')
    | _ => cases hkind

end

end DocFilter
