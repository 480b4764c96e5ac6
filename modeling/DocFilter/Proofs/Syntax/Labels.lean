import DocFilter.Proofs.Lexemes.Scanning
import DocFilter.Sql.Path

/-!
# Labels of paths

A path is read back in two steps.  First the quotes around the SQL text are
taken off, which ends at the first quote that is not one of a pair.  Then the
labels are read one by one: a label that starts with a double quote runs to the
next double quote, and any other one runs to the next point or bracket.

The labels that a path was written with come out of this if none of them has a
double quote, and so paths with different labels are different.
-/

namespace DocFilter.Sql

open Text

/-! ## Quoted texts -/

/-- Every single quote is one of a pair. -/
inductive IsDoubled : List Char → Prop
  | nil : IsDoubled []
  | plain {c : Char} {cs : List Char} (hc : c ≠ '\'') (h : IsDoubled cs) :
    IsDoubled (c :: cs)
  | pair {cs : List Char} (h : IsDoubled cs) : IsDoubled ('\'' :: '\'' :: cs)

theorem isDoubled_doubled (cs : List Char) : IsDoubled (doubled cs) := by
  induction cs with
  | nil => exact .nil
  | cons c cs ih =>
    rw [doubled_cons]
    split_ifs with hquote
    · exact .pair ih
    · exact .plain hquote ih

/-- What an SQL text says, up to the quote that closes it, and what stands
behind it. -/
def unquotedRest? : List Char → Option (List Char × List Char)
  | [] => none
  | [c] => if c = '\'' then some ([], []) else none
  | c :: d :: cs =>
    if c ≠ '\'' then
      (unquotedRest? (d :: cs)).map fun (text, rest) => (c :: text, rest)
    else if d = '\'' then
      (unquotedRest? cs).map fun (text, rest) => ('\'' :: text, rest)
    else some ([], d :: cs)

/-- What the SQL text says that the characters start with, and what stands
behind it. -/
def unquoted? : List Char → Option (List Char × List Char)
  | [] => none
  | c :: cs => if c = '\'' then unquotedRest? cs else none

theorem unquotedRest?_cons {c : Char} (hc : c ≠ '\'') (cs : List Char) :
    unquotedRest? (c :: cs) =
      (unquotedRest? cs).map fun (text, rest) => (c :: text, rest) := by
  cases cs with
  | nil => simp [unquotedRest?, hc]
  | cons d cs => simp [unquotedRest?, hc]

/-- A quoted text is read back, wherever no other quote stands behind it. -/
theorem unquoted?_quoted_append (cs : List Char) {rest : List Char}
    (hrest : StopsAt (· == '\'') rest) :
    unquoted? (quoted cs ++ rest) = some (cs, rest) := by
  have hclose : unquotedRest? ('\'' :: rest) = some ([], rest) := by
    cases rest with
    | nil => rfl
    | cons c rest =>
      have hc : c ≠ '\'' := by simpa using hrest c rfl
      simp [unquotedRest?, hc]
  have hbody : unquotedRest? (doubled cs ++ '\'' :: rest) = some (cs, rest) := by
    induction cs with
    | nil => exact hclose
    | cons c cs ih =>
      rw [doubled_cons, List.append_assoc]
      split_ifs with hquote
      · rw [hquote]
        exact congrArg (Option.map _) ih
      · rw [List.singleton_append, unquotedRest?_cons hquote]
        exact congrArg (Option.map _) ih
  rw [quoted, List.cons_append, List.append_assoc]
  exact hbody

/-! ## Labels -/

/-- Whether a character goes on with a label that has no quotes around it. -/
def isInLabel (c : Char) : Bool := c != '.' && c != '['

/-- Whether a character goes on with a label that has quotes around it. -/
def isInQuotedLabel (c : Char) : Bool := c != '"'

/-- The label that the characters start with, and what stands behind it. -/
def label? : List Char → Option (List Char × List Char)
  | [] => some ([], [])
  | c :: cs =>
    if c = '"' then
      match cs.dropWhile isInQuotedLabel with
      | [] => none
      | _ :: rest => some (cs.takeWhile isInQuotedLabel, rest)
    else some ((c :: cs).takeWhile isInLabel, (c :: cs).dropWhile isInLabel)

/-- Behind a label there are no more characters than before it. -/
theorem length_le_of_label? {cs label rest : List Char}
    (h : label? cs = some (label, rest)) : rest.length ≤ cs.length := by
  cases cs with
  | nil =>
    cases h
    exact Nat.le_refl _
  | cons c cs =>
    rw [label?] at h
    split_ifs at h with hquote
    · have hdrop : (cs.dropWhile isInQuotedLabel).length ≤ cs.length :=
        (List.dropWhile_suffix isInQuotedLabel).length_le
      cases hbehind : cs.dropWhile isInQuotedLabel with
      | nil =>
        rw [hbehind] at h
        cases h
      | cons d others =>
        rw [hbehind] at h hdrop
        cases h
        simp only [List.length_cons] at hdrop ⊢
        omega
    · cases h
      exact (List.dropWhile_suffix isInLabel).length_le

/-- The labels of steps, each of which has a point in front. -/
def labels? : List Char → Option (List String)
  | [] => some []
  | c :: cs =>
    if c = '.' then
      match h : label? cs with
      | none => none
      | some (label, rest) =>
        have := length_le_of_label? h
        (labels? rest).map fun labels => String.ofList label :: labels
    else none
termination_by cs => cs.length

/-- The labels of a path. -/
def labelsOfPath? : List Char → Option (List String)
  | [] => none
  | c :: cs => if c = '$' then labels? cs else none

/-- The labels of the path that an SQL text says, if it is one text and nothing
else. -/
def labelsOfText? (text : String) : Option (List String) :=
  match unquoted? text.toList with
  | some (path, []) => labelsOfPath? path
  | _ => none

/-! ### Reading labels -/

theorem isInLabel_of_isPlainLabel {cs : List Char} (h : isPlainLabel cs) :
    ∀ c ∈ cs, isInLabel c = true := by
  intro c hc
  rw [isPlainLabel, Bool.and_eq_true, List.all_eq_true] at h
  have hplain := h.2 c hc
  rw [isInLabel, Bool.and_eq_true, bne_iff_ne, bne_iff_ne]
  constructor
  · rintro rfl
    exact absurd hplain (by decide +kernel)
  · rintro rfl
    exact absurd hplain (by decide +kernel)

/-- A label is read back in front of another step and at the end. -/
theorem label?_label_append {cs rest : List Char} (hcs : '"' ∉ cs)
    (hrest : StopsAt isInLabel rest) :
    label? (label cs ++ rest) = some (cs, rest) := by
  unfold label
  split_ifs with hplain
  · have hall := isInLabel_of_isPlainLabel hplain
    cases cs with
    | nil => cases hplain
    | cons c cs =>
      have hc : c ≠ '"' := fun heq => hcs (heq ▸ List.mem_cons_self)
      have htake := takeWhile_append_of_stopsAt hall hrest
      have hdrop := dropWhile_append_of_stopsAt hall hrest
      rw [List.cons_append] at htake hdrop ⊢
      rw [label?, if_neg hc, htake, hdrop]
  · have hall : ∀ c ∈ cs, isInQuotedLabel c = true := by
      intro c hc
      rw [isInQuotedLabel, bne_iff_ne]
      rintro rfl
      exact hcs hc
    have hquote : StopsAt isInQuotedLabel ('"' :: rest) := stopsAt_cons rfl rest
    rw [List.cons_append, List.cons_append, List.append_assoc,
      List.singleton_append, label?, if_pos rfl,
      takeWhile_append_of_stopsAt hall hquote,
      dropWhile_append_of_stopsAt hall hquote]

theorem labels?_step {cs label rest : List Char}
    (h : label? cs = some (label, rest)) :
    labels? ('.' :: cs) =
      (labels? rest).map fun labels => String.ofList label :: labels := by
  rw [labels?, if_pos rfl]
  split
  · rename_i hnone
    rw [hnone] at h
    cases h
  · rename_i label' rest' hsome
    rw [h] at hsome
    cases hsome
    rfl

/-- A step ends a label that stands before it. -/
theorem stopsAt_steps (labels : List String) :
    StopsAt isInLabel (steps labels) := by
  cases labels with
  | nil => exact stopsAt_nil _
  | cons text labels => exact stopsAt_cons rfl _

/-- The labels of steps are read back if they have no double quotes. -/
theorem labels?_steps {labels : List String}
    (h : ∀ text ∈ labels, '"' ∉ text.toList) :
    labels? (steps labels) = some labels := by
  induction labels with
  | nil => rw [steps, List.flatMap_nil, labels?]
  | cons text labels ih =>
    rw [List.forall_mem_cons] at h
    rw [steps_cons, labels?_step (label?_label_append h.1 (stopsAt_steps labels)),
      ih h.2, Option.map_some, String.ofList_toList]

/-- The labels of a path are read back from its SQL text if they have no double
quotes. -/
theorem labelsOfText?_quotedPath {labels : List String}
    (h : ∀ text ∈ labels, '"' ∉ text.toList) :
    labelsOfText? (quotedPath labels) = some labels := by
  have htext := unquoted?_quoted_append (path labels) (stopsAt_nil _)
  rw [List.append_nil] at htext
  rw [labelsOfText?, quotedPath, String.toList_ofList, htext]
  exact labels?_steps h

/-- Paths are different if their labels are, as long as no label has a double
quote. -/
theorem quotedPath_inj {labels labels' : List String}
    (h : ∀ text ∈ labels, '"' ∉ text.toList)
    (h' : ∀ text ∈ labels', '"' ∉ text.toList) :
    quotedPath labels = quotedPath labels' ↔ labels = labels' := by
  constructor
  · intro heq
    have hread := labelsOfText?_quotedPath h
    rw [heq, labelsOfText?_quotedPath h'] at hread
    exact (Option.some.inj hread).symm
  · rintro rfl
    rfl

end DocFilter.Sql
