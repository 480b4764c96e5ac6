import DocFilter.Proofs.Grammar.Inversion
import Mathlib.Data.List.Forall2

/-!
# Objects and suffixes

A suffix makes a node of an object.  The object is what the tokens before the
suffix stand for on their own, back to the atom that they start with, and with
the tokens of the suffix they stand for the node.
-/

namespace DocFilter.Grammar

/-! ## Phrases in a row -/

/-- Phrases and their trees. -/
abbrev HaveTrees {part : Category} (phrases : List (Phrase part))
    (trees : List part.Tree) : Prop :=
  List.Forall₂ (fun phrase tree => phrase.tree? = some tree) phrases trees

namespace Phrase

variable {part : Category}

/-- Some phrases as one. -/
def ofList : List (Phrase part) → Phrase (.many part)
  | [] => .nil
  | phrase :: others => .cons phrase (ofList others)

theorem tokens_ofList (phrases : List (Phrase part)) :
    (ofList phrases).tokens = phrases.flatMap tokens := by
  induction phrases with
  | nil => rw [ofList, tokens, List.flatMap_nil]
  | cons phrase others ih => rw [ofList, tokens, ih, List.flatMap_cons]

theorem tree?_ofList {phrases : List (Phrase part)} {trees : List part.Tree}
    (h : HaveTrees phrases trees) : (ofList phrases).tree? = some trees := by
  induction h with
  | nil => rw [ofList, tree?]
  | cons hphrase _ ih =>
    exact tree?_cons_eq_some.mpr ⟨_, hphrase, _, ih, rfl⟩

end Phrase

/-! ## Atoms with suffixes -/

/-- The tokens are those of an expression with this tree. -/
def Derives (tokens : List Token) (expr : JsonExpr) : Prop :=
  ∃ phrase : Phrase .expression,
    phrase.tokens = tokens ∧ phrase.tree? = some expr

/-- The tokens are those of an atom and some suffixes, and these are the steps
from the tree of the atom to this one. -/
def DerivesAccessor (tokens : List Token) (expr : JsonExpr) : Prop :=
  ∃ (atom : Phrase (.value .atom)) (suffixes : List (Phrase .suffix))
    (first : JsonExpr) (steps : List (JsonExpr → Option JsonExpr)),
    tokens = atom.tokens ++ suffixes.flatMap Phrase.tokens ∧
      atom.tree? = some first ∧ HaveTrees suffixes steps ∧
        steps.foldlM (fun object step => step object) first = some expr

namespace DerivesAccessor

variable {tokens : List Token} {object : JsonExpr}

theorem atom {phrase : Phrase (.value .atom)} (h : phrase.tree? = some object) :
    DerivesAccessor phrase.tokens object :=
  ⟨phrase, [], object, [], (List.append_nil _).symm, h, .nil, rfl⟩

/-- One more suffix goes on from what the atom and the suffixes before it stand
for. -/
theorem append (h : DerivesAccessor tokens object) {suffix : Phrase .suffix}
    {step : JsonExpr → Option JsonExpr} (hsuffix : suffix.tree? = some step)
    {result : JsonExpr} (hresult : step object = some result) :
    DerivesAccessor (tokens ++ suffix.tokens) result := by
  obtain ⟨atom, suffixes, first, steps, rfl, hfirst, hsteps, hobject⟩ := h
  refine ⟨atom, suffixes ++ [suffix], first, steps ++ [step], ?_, hfirst,
    List.rel_append hsteps (.cons hsuffix .nil), ?_⟩
  · rw [List.append_assoc, List.flatMap_append, List.flatMap_singleton]
  · rw [List.foldlM_append, hobject]
    simpa using hresult

/-- An atom with suffixes is an expression. -/
theorem derives (h : DerivesAccessor tokens object) : Derives tokens object := by
  obtain ⟨atom, suffixes, first, steps, rfl, hfirst, hsteps, hobject⟩ := h
  let accessor : Phrase (.value .negated) := .accessor atom (.ofList suffixes)
  let comparison : Phrase (.value (.chain .comparison)) := .chain accessor .nil
  have haccessor : accessor.tree? = some object :=
    Phrase.tree?_accessor_eq_some.mpr
      ⟨first, hfirst, steps, Phrase.tree?_ofList hsteps, hobject⟩
  have hcomparison : comparison.tree? = some object :=
    Phrase.tree?_chain_eq_some.mpr
      ⟨object, haccessor, [], by rw [Phrase.tree?], rfl⟩
  refine ⟨.chain comparison .nil, ?_, Phrase.tree?_chain_eq_some.mpr
    ⟨object, hcomparison, [], by rw [Phrase.tree?], rfl⟩⟩
  rw [← Phrase.tokens_ofList]
  simp [Phrase.tokens, comparison, accessor]

end DerivesAccessor

/-! ## Sources -/

/-- Among the tokens are those of an object with the tokens of a suffix behind
them, which make this node of it. -/
def IsSourced (tokens : List Token) (object : JsonExpr) (suffix : List Token)
    (result : JsonExpr) : Prop :=
  ∃ before slice after, tokens = before ++ (slice ++ (suffix ++ after)) ∧
    Derives slice object ∧ Derives (slice ++ suffix) result

theorem IsSourced.mem {tokens suffix : List Token} {object result : JsonExpr}
    (h : IsSourced tokens object suffix result) {token : Token}
    (hmem : token ∈ suffix) : token ∈ tokens := by
  obtain ⟨before, slice, after, rfl, -, -⟩ := h
  simp [hmem]

end DocFilter.Grammar
