import DocFilter.Sql.Path

/-!
# Scanning SQL

SQL is scanned from left to right.  A single quote opens or closes a quoted
text, so that a doubled quote inside a quoted text closes it and opens it
again, and outside of quoted texts the open parentheses are counted.  A piece
of SQL moves such a scan from one number of open parentheses to another;
whatever parentheses are open around it stay open.
-/

namespace DocFilter.Sql

/-- Where a scan stands: how many parentheses are open, and whether a quoted
text is open. -/
structure Place where
  depth : Nat
  isQuoted : Bool
deriving DecidableEq

namespace Place

/-- Outside of all parentheses and quoted texts. -/
def outside : Place := ⟨0, false⟩

/-- The place behind a character.  There is none behind a closing parenthesis
that closes nothing. -/
def step (place : Place) (c : Char) : Option Place :=
  if c = '\'' then some ⟨place.depth, !place.isQuoted⟩
  else if place.isQuoted then some place
  else if c = '(' then some ⟨place.depth + 1, false⟩
  else if c = ')' then
    match place.depth with
    | 0 => none
    | depth + 1 => some ⟨depth, false⟩
  else some place

/-- The place behind some characters. -/
def scan : Place → List Char → Option Place
  | place, [] => some place
  | place, c :: cs => do
    let place ← place.step c
    place.scan cs

/-- The place that is reached when more parentheses are open around. -/
def under (place : Place) (depth : Nat) : Place :=
  ⟨place.depth + depth, place.isQuoted⟩

theorem scan_cons_eq_some {place next : Place} {c : Char} {cs : List Char} :
    place.scan (c :: cs) = some next ↔
      ∃ middle, place.step c = some middle ∧ middle.scan cs = some next :=
  Option.bind_eq_some_iff

theorem scan_append (place : Place) (cs ds : List Char) :
    place.scan (cs ++ ds) = (place.scan cs).bind fun middle =>
      middle.scan ds := by
  induction cs generalizing place with
  | nil => rfl
  | cons c cs ih =>
    cases hstep : place.step c with
    | none => simp [scan, hstep]
    | some middle => simpa [scan, hstep] using ih middle

/-- A step does not depend on the parentheses around. -/
theorem step_under {place next : Place} {c : Char}
    (h : place.step c = some next) (depth : Nat) :
    (place.under depth).step c = some (next.under depth) := by
  obtain ⟨inner, isQuoted⟩ := place
  unfold step under at *
  by_cases hquote : c = '\''
  · rw [if_pos hquote] at h ⊢
    cases h
    rfl
  · rw [if_neg hquote] at h ⊢
    cases isQuoted with
    | true =>
      cases h
      rfl
    | false =>
      by_cases hopen : c = '('
      · simp only [if_pos hopen, Bool.false_eq_true, if_false] at h ⊢
        cases h
        rw [Nat.add_right_comm]
      · by_cases hclose : c = ')'
        · simp only [if_neg hopen, if_pos hclose, Bool.false_eq_true,
            if_false] at h ⊢
          cases inner with
          | zero => cases h
          | succ inner =>
            cases h
            rw [Nat.add_right_comm]
        · simp only [if_neg hopen, if_neg hclose, Bool.false_eq_true,
            if_false] at h ⊢
          cases h
          rfl

theorem scan_under {place next : Place} {cs : List Char}
    (h : place.scan cs = some next) (depth : Nat) :
    (place.under depth).scan cs = some (next.under depth) := by
  induction cs generalizing place with
  | nil =>
    cases h
    rfl
  | cons c cs ih =>
    obtain ⟨middle, hstep, hscan⟩ := scan_cons_eq_some.mp h
    exact scan_cons_eq_some.mpr ⟨_, step_under hstep depth, ih hscan⟩

end Place

/-! ## Pieces of SQL -/

/-- A piece of SQL leads from one number of open parentheses to another, and
leaves no quoted text open. -/
def Leads (before after : Nat) (cs : List Char) : Prop :=
  Place.scan ⟨before, false⟩ cs = some ⟨after, false⟩

instance (before after : Nat) (cs : List Char) :
    Decidable (Leads before after cs) :=
  inferInstanceAs (Decidable (_ = _))

/-- A piece of SQL closes every parenthesis and every quoted text that it
opens, and nothing else. -/
abbrev IsClosed (cs : List Char) : Prop := Leads 0 0 cs

namespace Leads

variable {before middle after : Nat} {cs ds : List Char}

theorem append (hcs : Leads before middle cs) (hds : Leads middle after ds) :
    Leads before after (cs ++ ds) := by
  unfold Leads at *
  rw [Place.scan_append, hcs]
  exact hds

/-- More parentheses can be open around. -/
theorem under (hcs : Leads before after cs) (depth : Nat) :
    Leads (before + depth) (after + depth) cs :=
  Place.scan_under hcs depth

/-- A closed piece of SQL can stand anywhere. -/
theorem within (hcs : IsClosed cs) (depth : Nat) : Leads depth depth cs := by
  have hunder := hcs.under depth
  rwa [Nat.zero_add] at hunder

/-- A closed piece of SQL can stand between an opening and its closing. -/
theorem enclose
    {opening closing : List Char} {depth : Nat}
    (hopening : Leads 0 depth opening) (hcs : IsClosed cs)
    (hclosing : Leads depth after closing) :
    Leads 0 after (opening ++ cs ++ closing) :=
  (hopening.append (hcs.within depth)).append hclosing

/-- Characters that have no meaning to a scan change nothing. -/
theorem of_plain (h : ∀ c ∈ cs, c ≠ '\'' ∧ c ≠ '(' ∧ c ≠ ')') :
    IsClosed cs := by
  induction cs with
  | nil => rfl
  | cons c cs ih =>
    have hc := h c List.mem_cons_self
    have hcs := ih fun d hd => h d (List.mem_cons_of_mem c hd)
    refine Place.scan_cons_eq_some.mpr ⟨⟨0, false⟩, ?_, hcs⟩
    simp [Place.step, hc.1, hc.2.1, hc.2.2]

end Leads

/-! ## Quoted texts -/

/-- Inside a quoted text every quote is doubled, so the text goes on behind
the characters. -/
theorem scan_doubled (cs : List Char) :
    Place.scan ⟨0, true⟩ (doubled cs) = some ⟨0, true⟩ := by
  induction cs with
  | nil => rfl
  | cons c cs ih =>
    rw [doubled_cons, Place.scan_append]
    by_cases hquote : c = '\''
    · rw [if_pos hquote]
      exact ih
    · have hstep : Place.scan ⟨0, true⟩ [c] = some ⟨0, true⟩ := by
        simp [Place.scan, Place.step, hquote]
      rw [if_neg hquote, hstep]
      exact ih

theorem isClosed_quoted (cs : List Char) : IsClosed (quoted cs) := by
  change Place.scan ⟨0, true⟩ (doubled cs ++ ['\'']) = some ⟨0, false⟩
  rw [Place.scan_append, scan_doubled]
  rfl

theorem isClosed_quotedPath (labels : List String) :
    IsClosed (quotedPath labels).toList := by
  rw [quotedPath, String.toList_ofList]
  exact isClosed_quoted _

end DocFilter.Sql
