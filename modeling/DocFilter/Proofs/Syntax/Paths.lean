import DocFilter.Proofs.Syntax.Labels
import DocFilter.Proofs.Syntax.Terms
import DocFilter.Text.NamePart
import DocFilter.Text.NameStart

/-!
# Reading paths back

A label that is a name has none of the marks that a path is written with, and
so a path of names says what its labels are.  The quotes around it have nothing
to escape, and it is one word of SQL.

Other labels may have marks of paths in them.  A path of such labels is still
one text of SQL, and as long as they have no double quotes it says what they
are, too.
-/

namespace DocFilter

open Text

/-! ## Names -/

/-- The text is a name as it can stand in an expression. -/
def IsName (text : String) : Prop :=
  ∃ c cs, text.toList = c :: cs ∧ isNameStart c = true ∧
    ∀ part ∈ cs, isNamePart part = true

/-- The marks that paths are written with, and those that end a word of SQL. -/
def pathMarks : List Char := ['\'', '"', '.'] ++ Sql.Symbol.marks

theorem IsName.notMem_pathMarks {text : String} (h : IsName text) {c : Char}
    (hc : c ∈ text.toList) : c ∉ pathMarks := by
  have hmarks : (pathMarks.all fun mark =>
      !isNameStart mark && !isNamePart mark) = true := by decide +kernel
  intro hmark
  have hneither := List.all_eq_true.mp hmarks c hmark
  rw [Bool.and_eq_true, Bool.not_eq_true', Bool.not_eq_true'] at hneither
  obtain ⟨hstart, hpart⟩ := hneither
  obtain ⟨first, cs, htext, hfirst, hcs⟩ := h
  rw [htext] at hc
  rcases List.mem_cons.mp hc with rfl | hmem
  · rw [hfirst] at hstart
    cases hstart
  · rw [hcs c hmem] at hpart
    cases hpart

theorem IsName.notMem_doubleQuote {text : String} (h : IsName text) :
    '"' ∉ text.toList :=
  fun hmem => h.notMem_pathMarks hmem (by decide)

/-- A name that is scanned is spelled as a name. -/
theorem IsLexeme.isName {written rest : List Char} {text : String}
    (h : IsLexeme written (.name text) rest) : IsName text := by
  cases h with
  | symbol hsymbol => exact hsymbol.elim
  | name hstart hparts hrest =>
    exact ⟨_, _, String.toList_ofList, hstart, hparts⟩

theorem IsName.of_token_eq_ok {cursor cursor' : Cursor} {text : String}
    (h : Scan.token cursor = .ok (.name text) cursor') : IsName text := by
  obtain ⟨gap, hgap, hmove, hstops⟩ := cursor.exists_gap
  rw [← Scan.token_dropBlanks, Scan.token_eq_ok_iff hstops] at h
  rcases h with ⟨hend, -, -⟩ | ⟨written, hlexeme, -⟩
  · cases hend
  · exact hlexeme.isName

namespace Sql

/-! ## Labels -/

theorem mem_label {cs : List Char} {c : Char} (h : c ∈ label cs) :
    c ∈ cs ∨ c = '"' := by
  unfold label at h
  split_ifs at h
  · exact Or.inl h
  · simpa [or_comm] using h

/-! ## Paths -/

/-- Without single quotes there is nothing to escape. -/
theorem quoted_eq {cs : List Char} (h : '\'' ∉ cs) :
    quoted cs = '\'' :: cs ++ ['\''] := by
  have hdoubled : doubled cs = cs := by
    induction cs with
    | nil => rfl
    | cons c cs ih =>
      rw [List.mem_cons, not_or] at h
      rw [doubled_cons, if_neg (Ne.symm h.1), ih h.2]
      rfl
  rw [quoted, hdoubled]
  rfl

section

variable {labels : List String} (h : ∀ text ∈ labels, IsName text)

include h

theorem mem_steps {c : Char} (hc : c ∈ steps labels) :
    c = '.' ∨ c = '"' ∨ c ∉ pathMarks := by
  obtain ⟨text, htext, hmem⟩ := List.mem_flatMap.mp hc
  rcases List.mem_cons.mp hmem with hpoint | hlabel
  · exact Or.inl hpoint
  · rcases mem_label hlabel with hname | hquote
    · exact Or.inr (Or.inr ((h text htext).notMem_pathMarks hname))
    · exact Or.inr (Or.inl hquote)

theorem toList_quotedPath :
    (quotedPath labels).toList = '\'' :: '$' :: (steps labels ++ ['\'']) := by
  have hquote : '\'' ∉ path labels := by
    intro hmem
    rcases List.mem_cons.mp hmem with hdollar | hsteps
    · exact absurd hdollar (by decide)
    · rcases mem_steps h hsteps with hpoint | hquote | hmark
      · exact absurd hpoint (by decide)
      · exact absurd hquote (by decide)
      · exact hmark (by decide)
  rw [quotedPath, String.toList_ofList, quoted_eq hquote]
  rfl

/-- A path of names is one word. -/
theorem isReadable_quotedPath : (Term.word (quotedPath labels)).IsReadable := by
  refine .word ⟨?_, ?_⟩
  · intro hempty
    have htoList := toList_quotedPath h
    rw [hempty] at htoList
    cases htoList
  · intro symbol hsymbol
    obtain ⟨c, hc, rfl⟩ := Symbol.mem_ofText.mp hsymbol
    rw [toList_quotedPath h, List.mem_cons, List.mem_cons, List.mem_append,
      List.mem_singleton] at hc
    have hsteps (hmem : c ∈ steps labels) : (Symbol.char c).isWord := by
      rcases mem_steps h hmem with rfl | rfl | hmark
      · decide
      · decide
      · exact decide_eq_true fun hmarks =>
          hmark (List.mem_append_right _ hmarks)
    rcases hc with rfl | rfl | hmem | rfl
    · decide
    · decide
    · exact hsteps hmem
    · decide

end

/-- Paths of names with the same text are the same. -/
theorem eq_of_quotedPath_eq {labels labels' : List String}
    (h : ∀ text ∈ labels, IsName text) (h' : ∀ text ∈ labels', IsName text)
    (heq : quotedPath labels = quotedPath labels') : labels = labels' :=
  (quotedPath_inj (fun text htext => (h text htext).notMem_doubleQuote)
    fun text htext => (h' text htext).notMem_doubleQuote).mp heq

/-- A path that has steps is not the path to the root. -/
theorem quotedPath_ne_root {labels : List String}
    (h : ∀ text ∈ labels, IsName text) (hne : labels ≠ []) :
    quotedPath labels ≠ "'$'" := by
  intro heq
  have hroot : quotedPath [] = "'$'" := by decide
  exact hne
    (eq_of_quotedPath_eq h (List.forall_mem_nil _) (heq.trans hroot.symm))

/-! ### What a path says -/

/-- A path is one SQL text, in which every single quote is doubled, and which
ends where no other quote stands behind it.  If the labels have no double
quotes, it says what they are, and names that are scanned have none. -/
theorem quotedPath_isFaithful :
    (∀ labels, ∃ inner,
      (quotedPath labels).toList = '\'' :: (inner ++ ['\'']) ∧
        IsDoubled inner) ∧
    (∀ labels rest, StopsAt (· == '\'') rest →
      unquoted? ((quotedPath labels).toList ++ rest) =
        some (path labels, rest)) ∧
    (∀ labels, (∀ text ∈ labels, '"' ∉ text.toList) →
      labelsOfText? (quotedPath labels) = some labels ∧
        ∀ labels', (∀ text ∈ labels', '"' ∉ text.toList) →
          labels' ≠ labels → quotedPath labels' ≠ quotedPath labels) ∧
    ∀ cursor text cursor', Scan.token cursor = .ok (.name text) cursor' →
      '"' ∉ text.toList := by
  refine ⟨?_, ?_, ?_, ?_⟩
  · intro labels
    refine ⟨doubled (path labels), ?_, isDoubled_doubled _⟩
    rw [quotedPath, String.toList_ofList, quoted]
  · intro labels rest hrest
    rw [quotedPath, String.toList_ofList]
    exact unquoted?_quoted_append (path labels) hrest
  · intro labels h
    refine ⟨labelsOfText?_quotedPath h, ?_⟩
    intro labels' h' hne heq
    exact hne ((quotedPath_inj h' h).mp heq)
  · intro cursor text cursor' h
    exact (IsName.of_token_eq_ok h).notMem_doubleQuote

/-- A label may be empty or have marks of paths in it, and a point in a label is
no step. -/
theorem quotedPath_isFaithful_awkwardLabels :
    unquoted? ((quotedPath ["it's"]).toList ++ [')']) =
      some (path ["it's"], [')']) ∧
    labelsOfText? (quotedPath ["it's", "", "a.b[0]", "$x"]) =
      some ["it's", "", "a.b[0]", "$x"] ∧
    quotedPath ["a", "b"] ≠ quotedPath ["a.b"] ∧
    '"' ∉ "été".toList := by
  obtain ⟨-, hends, hreads, hscanned⟩ := quotedPath_isFaithful
  refine ⟨hends _ _ (stopsAt_cons rfl _), (hreads _ (by decide)).1,
    (hreads _ (by decide)).2 _ (by decide) (by decide), ?_⟩
  exact hscanned (.atStart "été") "été" ⟨5, []⟩ rfl

/-- A label with double quotes can pass for two labels. -/
example : quotedPath ["x y\".\"z w"] = quotedPath ["x y", "z w"] := by decide

end Sql

end DocFilter
