import DocFilter.Proofs.Guarded.Reading
import DocFilter.Proofs.Height.Fitting

/-!
# The limit on heights bounds every walk over a tree

An expression is read with a limit on its height.  No branch of the tree that
is read has more nodes than the limit, apart from coercions, and none has more
than twice as many with them.  The same holds of the normal form, so every walk
over either tree stays that shallow.  The reader itself is no deeper in calls
for operands than the limit.
-/

namespace DocFilter

/-- The branches of a tree are short, and not much longer with coercions. -/
def HasShortBranches (bound : Nat) (expr : JsonExpr) : Prop :=
  ∀ branch, IsBranch (.json expr) branch →
    branch.countP (fun node => !node.isCoercion) ≤ bound ∧
      branch.length ≤ 2 * bound

theorem hasShortBranches_of_depth_le {bound : Nat} {expr : JsonExpr}
    (hzero : expr.depth 0 ≤ bound) (hone : expr.depth 1 ≤ 2 * bound) :
    HasShortBranches bound expr := by
  intro branch hbranch
  constructor
  · exact Nat.le_trans hbranch.countP_le hzero
  · exact Nat.le_trans hbranch.length_le hone

namespace Fits

variable {height : Nat} {expr : JsonExpr}

theorem hasShortBranches (h : Fits height expr) : HasShortBranches height expr :=
  hasShortBranches_of_depth_le h.depth_zero_le h.depth_one_le

/-- A normal form is no deeper, so it fits as well. -/
theorem hasShortBranches_normalize (h : Fits height expr) :
    HasShortBranches height expr.normalize :=
  hasShortBranches_of_depth_le
    (Nat.le_trans (expr.depth_normalize_le 0) h.depth_zero_le)
    (Nat.le_trans (expr.depth_normalize_le 1) h.depth_one_le)

end Fits

/-- What is read fits into the room that it is read with. -/
theorem fits_of_complete_eq_ok
    {room : Nat} {stream rest : TokenStream} {expr : JsonExpr}
    (h : Reading.complete room stream = .ok expr rest) : Fits room expr := by
  obtain ⟨phrase, -, htree, hheight⟩ := Reading.derivation_of_complete h
  have hfits : Fits (phrase.heightOver 0) expr :=
    Grammar.fits_of_tree?_eq_some htree
  exact hfits.mono hheight

/-- Whatever is read with a limit has short branches, before and after it is
brought into normal form.  The reader that counts its own calls reads the same,
and at no time are more calls for operands active than the limit. -/
theorem complete_bounds_height {maxHeight : Nat} {stream rest : TokenStream}
    {expr : JsonExpr}
    (h : Reading.complete maxHeight stream = .ok expr rest) :
    HasShortBranches maxHeight expr ∧
      HasShortBranches maxHeight expr.normalize ∧
      ∃ count, Counting.complete maxHeight (Count.start stream) =
          .ok expr count ∧
        count.stream = rest ∧ count.mostActive ≤ maxHeight := by
  have hfits := fits_of_complete_eq_ok h
  have hfollows := complete_follows maxHeight stream
  rw [h] at hfollows
  obtain ⟨expr', count, hcount, rfl, hrest, hactive⟩ := hfollows.exists_ok
  exact ⟨hfits.hasShortBranches, hfits.hasShortBranches_normalize, count, hcount,
    hrest, hactive⟩

/-- A sign, a name and a property take three levels. -/
theorem complete_bounds_height_signedProperty :
    let stream : TokenStream :=
      ⟨[⟨0, .exclamation⟩, ⟨1, .name "_"⟩, ⟨2, .dot⟩, ⟨3, .name "a"⟩], 4⟩
    let expr : JsonExpr :=
      .ofScalar (.unary .not (.ofJson (.path (.name "_") ["a"])))
    Reading.complete 3 stream = .ok expr ⟨[], 4⟩ ∧
      HasShortBranches 3 expr ∧ HasShortBranches 3 expr.normalize ∧
      ∃ count, Counting.complete 3 (Count.start stream) = .ok expr count ∧
        count.stream = ⟨[], 4⟩ ∧ count.mostActive ≤ 3 := by
  have hread : Reading.complete 3
      ⟨[⟨0, .exclamation⟩, ⟨1, .name "_"⟩, ⟨2, .dot⟩, ⟨3, .name "a"⟩], 4⟩ =
      .ok (.ofScalar (.unary .not (.ofJson (.path (.name "_") ["a"]))))
        ⟨[], 4⟩ := rfl
  exact ⟨hread, complete_bounds_height hread⟩

end DocFilter
