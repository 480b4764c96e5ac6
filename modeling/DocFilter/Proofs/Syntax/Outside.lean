import DocFilter.Proofs.Syntax.Scan
import Mathlib.Data.List.Basic

/-!
# SQL outside of quoted texts

What stands outside of the quoted texts of an SQL text decides how its
parentheses are balanced and how many placeholders it has.  A quoted text goes
on behind a doubled quote.  A scan that takes a doubled quote for the end of
one quoted text and the start of another one sees the same characters outside,
and it can be continued behind every piece of SQL.
-/

namespace DocFilter.Sql

/-! ## Quoted texts -/

mutual

/-- The characters of an SQL text outside of its quoted texts.  There are none
if a quoted text is not closed. -/
def outside? : List Char → Option (List Char)
  | [] => some []
  | c :: cs =>
    if c = '\'' then outsideOfRest? cs else (outside? cs).map fun ds => c :: ds

/-- The same behind the opening quote of a quoted text.  Two quotes stand for
one in the quoted text, and a single quote closes it. -/
def outsideOfRest? : List Char → Option (List Char)
  | [] => none
  | [c] => if c = '\'' then some [] else none
  | c :: d :: cs =>
    if c ≠ '\'' then outsideOfRest? (d :: cs)
    else if d = '\'' then outsideOfRest? cs
    else outside? (d :: cs)

end

/-- The characters outside of quoted texts, if every quote opens or closes. -/
def outside : Bool → List Char → List Char
  | _, [] => []
  | isQuoted, c :: cs =>
    if c = '\'' then outside (!isQuoted) cs
    else if isQuoted then outside true cs
    else c :: outside false cs

/-- Whether a quoted text is open at the end. -/
def endsQuoted : Bool → List Char → Bool
  | isQuoted, [] => isQuoted
  | isQuoted, c :: cs =>
    endsQuoted (if c = '\'' then !isQuoted else isQuoted) cs

theorem outside_append (isQuoted : Bool) (cs ds : List Char) :
    outside isQuoted (cs ++ ds) =
      outside isQuoted cs ++ outside (endsQuoted isQuoted cs) ds := by
  induction cs generalizing isQuoted with
  | nil => rfl
  | cons c cs ih =>
    simp only [List.cons_append, outside, endsQuoted, ih]
    split_ifs with hquote hopen
    · rfl
    · rw [hopen]
    · rw [Bool.eq_false_iff.mpr hopen, List.cons_append]

theorem endsQuoted_append (isQuoted : Bool) (cs ds : List Char) :
    endsQuoted isQuoted (cs ++ ds) =
      endsQuoted (endsQuoted isQuoted cs) ds := by
  induction cs generalizing isQuoted with
  | nil => rfl
  | cons c cs ih => rw [List.cons_append, endsQuoted, endsQuoted, ih]

/-- Without quotes, nothing is opened or closed. -/
theorem endsQuoted_eq_of_notMem {cs : List Char} (h : '\'' ∉ cs)
    (isQuoted : Bool) : endsQuoted isQuoted cs = isQuoted := by
  induction cs with
  | nil => rfl
  | cons c cs ih =>
    rw [List.mem_cons, not_or] at h
    rw [endsQuoted, if_neg (Ne.symm h.1), ih h.2]

mutual

/-- A doubled quote closes a quoted text and opens it again, with nothing
between. -/
theorem outside?_eq (cs : List Char) :
    outside? cs =
      if endsQuoted false cs then none else some (outside false cs) := by
  cases cs with
  | nil => rfl
  | cons c cs =>
    by_cases hquote : c = '\''
    · simpa [outside?, outside, endsQuoted, hquote] using outsideOfRest?_eq cs
    · simp only [outside?, outside, endsQuoted, hquote, if_false,
        outside?_eq cs, Bool.false_eq_true]
      split_ifs <;> rfl

theorem outsideOfRest?_eq (cs : List Char) :
    outsideOfRest? cs =
      if endsQuoted true cs then none else some (outside true cs) := by
  match cs with
  | [] => rfl
  | [c] => by_cases hquote : c = '\'' <;>
      simp [outsideOfRest?, outside, endsQuoted, hquote]
  | c :: d :: cs =>
    by_cases hquote : c = '\''
    · by_cases hdouble : d = '\''
      · simpa [outsideOfRest?, outside, endsQuoted, hquote, hdouble] using
          outsideOfRest?_eq cs
      · have hrest := outside?_eq (d :: cs)
        rw [outsideOfRest?, if_neg (not_not.mpr hquote), if_neg hdouble, hrest]
        simp [outside, endsQuoted, hquote]
    · have hrest := outsideOfRest?_eq (d :: cs)
      rw [outsideOfRest?, if_pos hquote, hrest]
      simp [outside, endsQuoted, hquote]

end

/-! ## Parentheses -/

/-- The parentheses lead from one number of open ones to another, and nowhere
on the way is one closed that is not open. -/
structure Nests (before after : Nat) (cs : List Char) : Prop where
  total : before + cs.count '(' = after + cs.count ')'
  part_le (part : List Char) (hpart : part <+: cs) :
    part.count ')' ≤ before + part.count '('

theorem nests_nil {before after : Nat} :
    Nests before after [] ↔ before = after := by
  constructor
  · intro h
    exact h.total
  · rintro rfl
    refine ⟨rfl, ?_⟩
    intro part hpart
    rw [List.prefix_nil.mp hpart]
    exact Nat.zero_le _

theorem not_nests_zero_close {after : Nat} {cs : List Char} :
    ¬Nests 0 after (')' :: cs) := by
  intro h
  have hfirst := h.part_le [')'] (List.prefix_append [')'] cs)
  simp at hfirst

theorem count_cons_eq (c d : Char) (cs : List Char) :
    (c :: cs).count d = [c].count d + cs.count d := by
  rw [← List.count_append, List.singleton_append]

/-- A character moves the number of open parentheses. -/
theorem nests_cons
    {before middle after : Nat} {c : Char} {cs : List Char}
    (h : before + [c].count '(' = middle + [c].count ')') :
    Nests before after (c :: cs) ↔ Nests middle after cs := by
  constructor
  · rintro ⟨htotal, hparts⟩
    rw [count_cons_eq c '(' cs, count_cons_eq c ')' cs] at htotal
    refine ⟨by omega, ?_⟩
    intro part hpart
    have hmore := hparts (c :: part) ((List.prefix_cons_inj c).mpr hpart)
    rw [count_cons_eq c '(' part, count_cons_eq c ')' part] at hmore
    omega
  · rintro ⟨htotal, hparts⟩
    constructor
    · rw [count_cons_eq c '(' cs, count_cons_eq c ')' cs]
      omega
    · intro part hpart
      rcases List.prefix_cons_iff.mp hpart with rfl | ⟨rest, rfl, hrest⟩
      · exact Nat.zero_le _
      · have hmore := hparts rest hrest
        rw [count_cons_eq c '(' rest, count_cons_eq c ')' rest]
        omega

/-- What a scan counts are the parentheses outside of quoted texts. -/
theorem scan_eq_some_iff
    {before after : Nat} {isQuoted endQuoted : Bool} {cs : List Char} :
    Place.scan ⟨before, isQuoted⟩ cs = some ⟨after, endQuoted⟩ ↔
      endsQuoted isQuoted cs = endQuoted ∧
        Nests before after (outside isQuoted cs) := by
  induction cs generalizing before isQuoted with
  | nil =>
    rw [Place.scan, outside, nests_nil, endsQuoted, Option.some.injEq,
      Place.mk.injEq, and_comm]
  | cons c cs ih =>
    rw [Place.scan_cons_eq_some]
    by_cases hquote : c = '\''
    · simp [Place.step, outside, endsQuoted, hquote, ih]
    · cases isQuoted with
      | true => simp [Place.step, outside, endsQuoted, hquote, ih]
      | false =>
        simp only [Place.step, outside, endsQuoted, hquote, if_false,
          Bool.false_eq_true]
        by_cases hopen : c = '('
        · have hstep : before + [c].count '(' =
              (before + 1) + [c].count ')' := by simp [hopen]
          rw [nests_cons hstep]
          simp [hopen, ih]
        · by_cases hclose : c = ')'
          · cases before with
            | zero => simp [hclose, not_nests_zero_close]
            | succ before =>
              have hstep : before + 1 + [c].count '(' =
                  before + [c].count ')' := by simp [hclose]
              rw [nests_cons hstep]
              simp [hclose, ih]
          · have hstep : before + [c].count '(' =
                before + [c].count ')' := by simp [hopen, hclose]
            rw [nests_cons hstep]
            simp [hopen, hclose, ih]

theorem Leads.endsQuoted_eq {before after : Nat} {cs : List Char}
    (h : Leads before after cs) : endsQuoted false cs = false :=
  (scan_eq_some_iff.mp h).1

/-! ## Placeholders -/

/-- The number of placeholders of an SQL text. -/
def placeholders (cs : List Char) : Nat := (outside false cs).count '?'

theorem placeholders_append
    {before after : Nat} {cs : List Char} (h : Leads before after cs)
    (ds : List Char) :
    placeholders (cs ++ ds) = placeholders cs + placeholders ds := by
  rw [placeholders, outside_append, h.endsQuoted_eq, List.count_append]
  rfl

theorem outside_sublist (isQuoted : Bool) (cs : List Char) :
    (outside isQuoted cs).Sublist cs := by
  induction cs generalizing isQuoted with
  | nil => exact List.Sublist.slnil
  | cons c cs ih =>
    rw [outside]
    split_ifs
    · exact (ih _).cons c
    · exact (ih true).cons c
    · exact (ih false).cons_cons c

theorem placeholders_eq_zero {cs : List Char} (h : '?' ∉ cs) :
    placeholders cs = 0 := by
  apply List.count_eq_zero.mpr
  intro hmem
  exact h ((outside_sublist false cs).subset hmem)

theorem outside_doubled (cs ds : List Char) :
    outside true (doubled cs ++ ds) = outside true ds := by
  induction cs with
  | nil => rfl
  | cons c cs ih =>
    rw [doubled_cons, List.append_assoc]
    by_cases hquote : c = '\'' <;> simpa [outside, hquote] using ih

/-- Nothing of a quoted text is outside of it. -/
theorem outside_quoted (cs : List Char) : outside false (quoted cs) = [] := by
  change outside true (doubled cs ++ ['\'']) = []
  rw [outside_doubled]
  rfl

theorem placeholders_quotedPath (labels : List String) :
    placeholders (quotedPath labels).toList = 0 := by
  rw [quotedPath, String.toList_ofList, placeholders, outside_quoted]
  rfl

/-! ## Complete pieces of SQL -/

/-- Every quoted text of a piece of SQL is closed, its parentheses are balanced
outside of quoted texts, and it has this many placeholders there. -/
def IsComplete (cs : List Char) (count : Nat) : Prop :=
  ∃ plain, outside? cs = some plain ∧ Nests 0 0 plain ∧
    plain.count '?' = count

theorem isComplete_iff {cs : List Char} {count : Nat} :
    IsComplete cs count ↔ IsClosed cs ∧ placeholders cs = count := by
  unfold IsComplete IsClosed Leads
  rw [outside?_eq, scan_eq_some_iff, and_assoc]
  cases endsQuoted false cs with
  | true => simp
  | false => simp [placeholders]

instance (cs : List Char) (count : Nat) : Decidable (IsComplete cs count) :=
  decidable_of_iff _ isComplete_iff.symm

end DocFilter.Sql
