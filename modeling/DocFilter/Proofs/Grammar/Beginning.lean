import DocFilter.Proofs.Grammar.Phrase
import Mathlib.Data.List.Basic

/-!
# Beginnings of phrases

Tokens can be continued to a phrase of a kind, or they cannot.  Whether the
calls in the phrase keep to the tables does not matter.
-/

namespace DocFilter.Grammar

/-- There is a phrase of every kind. -/
theorem Phrase.exists_phrase (category : Category) : Nonempty (Phrase category) := by
  have atom : Phrase (.value .atom) := .name ""
  have negated : Phrase (.value .negated) := .accessor atom .nil
  have comparison : Phrase (.value (.chain .comparison)) := .chain negated .nil
  have expression : Phrase .expression := .chain comparison .nil
  induction category with
  | value level =>
    cases level with
    | chain tier =>
      cases tier with
      | logical => exact ⟨expression⟩
      | comparison => exact ⟨comparison⟩
    | negated => exact ⟨negated⟩
    | atom => exact ⟨atom⟩
  | link tier =>
    cases tier with
    | logical => exact ⟨.link .and rfl comparison⟩
    | comparison => exact ⟨.link .equal rfl negated⟩
  | suffix => exact ⟨.property ""⟩
  | argument => exact ⟨.plain expression⟩
  | items => exact ⟨.noItems⟩
  | next _ ih => exact ih.map .next
  | many => exact ⟨.nil⟩

/-- The tokens can be continued to a phrase of a kind. -/
def Begins (category : Category) (tokens : List Token) : Prop :=
  ∃ phrase : Phrase category, tokens <+: phrase.tokens

namespace Begins

variable {category outer : Category} {tokens : List Token}

theorem nil (category : Category) : Begins category [] := by
  obtain ⟨phrase⟩ := Phrase.exists_phrase category
  exact ⟨phrase, List.nil_prefix⟩

theorem of_isPrefix {shorter : List Token} (h : Begins category tokens)
    (hshorter : shorter <+: tokens) : Begins category shorter := by
  obtain ⟨phrase, hphrase⟩ := h
  exact ⟨phrase, hshorter.trans hphrase⟩

/-- What begins a part of a phrase begins the phrase, behind the tokens that
stand before this part. -/
theorem within (h : Begins category tokens)
    (build : Phrase category → Phrase outer) (before after : List Token)
    (hbuild : ∀ phrase, (build phrase).tokens =
      before ++ (phrase.tokens ++ after)) :
    Begins outer (before ++ tokens) := by
  obtain ⟨phrase, hphrase⟩ := h
  refine ⟨build phrase, ?_⟩
  rw [hbuild, List.prefix_append_right_inj]
  exact hphrase.trans (List.prefix_append _ _)

end Begins

end DocFilter.Grammar
