import DocFilter.Proofs.Grammar.Phrase

/-!
# The shape of phrases

Facts about derivations that hold by induction on their structure: how the
height of a phrase depends on what lies below it, that an expression is no
higher than it is long, and which tokens a phrase can start with.
-/

namespace DocFilter.Grammar

/-! ## Heights -/

/-- Phrases of these kinds stand beside what lies below them, and are not put
on top of it. -/
def Category.Beside : Category → Prop
  | .value _ | .argument => True
  | .link _ | .suffix => False
  | .items item => item.Beside
  | .next item => item.Beside
  | .many part => part.Beside

/-- The tokens of a kind of phrase that are surely not needed for its
height. -/
def Category.spare : Category → Nat
  | .value .atom => 1
  | _ => 0

namespace Phrase

theorem le_heightOver {category : Category} (phrase : Phrase category)
    (below : Nat) :
    below ≤ phrase.heightOver below := by
  induction phrase generalizing below with
  | chain | signed | accessor => exact Nat.le_max_left _ _
  | link _ _ _ ih | method _ _ ih | key _ ih =>
    exact Nat.le_succ_of_le (ih below)
  | property => exact Nat.le_succ below
  | literal | name | noItems | nil => exact Nat.le_refl below
  | call _ _ ih | group _ ih | array _ ih | plain _ ih | arrow _ _ ih
  | next _ ih =>
    exact ih below
  | items first others ihFirst ihOthers | cons first others ihFirst ihOthers =>
    exact Nat.le_trans (ihFirst below) (ihOthers _)

/-- Beside something else, the greater height counts. -/
theorem heightOver_eq_max
    {category : Category} (phrase : Phrase category) (h : category.Beside)
    (below : Nat) :
    phrase.heightOver below = max below phrase.height := by
  unfold height
  induction phrase generalizing below with
  | chain | signed | accessor => simp only [heightOver, Nat.zero_max]
  | link | property | method | key => exact h.elim
  | literal | name | noItems | nil => exact (Nat.max_zero below).symm
  | call _ _ ih | group _ ih | array _ ih | plain _ ih | arrow _ _ ih =>
    exact ih trivial below
  | next _ ih => exact ih h below
  | items first others ihFirst ihOthers | cons first others ihFirst ihOthers =>
    have hfirst := ihFirst h below
    have hothers := ihOthers h (first.heightOver below)
    have hothers' := ihOthers h (first.heightOver 0)
    simp only [heightOver]
    omega

/-- Each level of a phrase takes a token, and an atom has a token to spare. -/
theorem heightOver_add_spare_le
    {category : Category} (phrase : Phrase category) (below : Nat) :
    phrase.heightOver below + category.spare ≤
      below + phrase.tokens.length := by
  induction phrase generalizing below with
  | chain first links ihFirst ihLinks =>
    have hfirst := ihFirst 0
    have hlinks := ihLinks (first.heightOver 0)
    simp only [heightOver, tokens, Category.spare,
      List.length_append] at hlinks ⊢
    omega
  | link op htier operand ih =>
    have hoperand := ih below
    simp only [heightOver, tokens, Category.spare,
      List.length_cons] at hoperand ⊢
    omega
  | signed sign operand ih =>
    have hoperand := ih 0
    simp only [heightOver, tokens, Category.spare,
      List.length_cons] at hoperand ⊢
    omega
  | accessor atom suffixes ihAtom ihSuffixes =>
    have hatom := ihAtom 0
    have hsuffixes := ihSuffixes (atom.heightOver 0)
    simp only [heightOver, tokens, Category.spare,
      List.length_append] at hatom hsuffixes ⊢
    omega
  | property | literal | name | noItems | nil =>
    simp only [heightOver, tokens, Category.spare, List.length_cons,
      List.length_nil]
    omega
  | method _ _ ih | key _ ih | call _ _ ih | group _ ih | array _ ih =>
    have hinner := ih below
    simp only [heightOver, tokens, Category.spare, List.length_cons,
      List.length_append, List.length_nil] at hinner ⊢
    omega
  | plain _ ih | arrow _ _ ih =>
    have hbody := ih below
    simp only [heightOver, tokens, Category.spare, List.length_cons] at hbody ⊢
    omega
  | next phrase ih =>
    have hphrase := ih below
    simp only [heightOver, tokens, Category.spare, List.length_cons]
    omega
  | items first others ihFirst ihOthers | cons first others ihFirst ihOthers =>
    have hfirst := ihFirst below
    have hothers := ihOthers (first.heightOver below)
    simp only [heightOver, tokens, Category.spare,
      List.length_append] at hothers ⊢
    omega

theorem height_le_length {category : Category} (phrase : Phrase category) :
    phrase.height ≤ phrase.tokens.length := by
  have h := heightOver_add_spare_le phrase 0
  rw [height]
  omega

end Phrase

/-! ## First tokens -/

/-- The tokens that an atom can start with. -/
inductive StartsAtom : Token → Prop
  | literal (value : Literal) : StartsAtom (.literal value)
  | name (text : String) : StartsAtom (.name text)
  | openParen : StartsAtom .openParen
  | openBracket : StartsAtom .openBracket

/-- The tokens that an operand can start with. -/
inductive StartsOperand : Token → Prop
  | atom {token : Token} (h : StartsAtom token) : StartsOperand token
  | sign (sign : Sign) : StartsOperand sign.token

/-- Some tokens start with a name and an arrow, as an arrow in the arguments
of a call does. -/
def StartsArrow : List Token → Prop
  | .name _ :: .arrow :: _ => True
  | _ => False

/-- The tokens that a phrase of a kind can start with, where this is of
use. -/
def Category.Starts : Category → Token → Prop
  | .value .atom => StartsAtom
  | .value _ | .argument => StartsOperand
  | _ => fun _ => True

theorem Category.Starts.startsOperand
    {tier : Tier} {token : Token}
    (h : (Category.value (.operand tier)).Starts token) :
    StartsOperand token := by
  cases tier <;> exact h

namespace Phrase

theorem exists_first_token {level : Level} (phrase : Phrase (.value level)) :
    ∃ token others, phrase.tokens = token :: others ∧
      (Category.value level).Starts token := by
  generalize hcategory : Category.value level = category at phrase
  induction phrase generalizing level with
  | chain first links ih =>
    obtain ⟨token, others, htokens, hstarts⟩ := ih rfl
    cases hcategory
    refine ⟨token, others ++ links.tokens, ?_, hstarts.startsOperand⟩
    rw [tokens, htokens]
    rfl
  | signed sign operand =>
    cases hcategory
    exact ⟨sign.token, operand.tokens, rfl, .sign sign⟩
  | accessor atom suffixes ih =>
    obtain ⟨token, others, htokens, hstarts⟩ := ih rfl
    cases hcategory
    refine ⟨token, others ++ suffixes.tokens, ?_, .atom hstarts⟩
    rw [tokens, htokens]
    rfl
  | literal value =>
    cases hcategory
    exact ⟨_, _, rfl, .literal value⟩
  | name text =>
    cases hcategory
    exact ⟨_, _, rfl, .name text⟩
  | call callee =>
    cases hcategory
    exact ⟨_, _, rfl, .name callee⟩
  | group =>
    cases hcategory
    exact ⟨_, _, rfl, .openParen⟩
  | array =>
    cases hcategory
    exact ⟨_, _, rfl, .openBracket⟩
  | _ => cases hcategory

theorem head?_links_append_ne_arrow
    {tier : Tier} (links : Phrase (.many (.link tier))) {rest : List Token}
    (hrest : rest.head? ≠ some .arrow) :
    (links.tokens ++ rest).head? ≠ some .arrow := by
  cases links with
  | nil => exact hrest
  | cons first others =>
    cases first
    simp [tokens]

theorem head?_suffixes_append_ne_arrow
    (suffixes : Phrase (.many .suffix)) {rest : List Token}
    (hrest : rest.head? ≠ some .arrow) :
    (suffixes.tokens ++ rest).head? ≠ some .arrow := by
  cases suffixes with
  | nil => exact hrest
  | cons first others => cases first <;> simp [tokens]

/-- An expression is never taken for an arrow. -/
theorem not_startsArrow
    {level : Level} (phrase : Phrase (.value level)) {rest : List Token}
    (hrest : rest.head? ≠ some .arrow) :
    ¬StartsArrow (phrase.tokens ++ rest) := by
  generalize hcategory : Category.value level = category at phrase
  induction phrase generalizing level rest with
  | chain first links ih =>
    rw [tokens, List.append_assoc]
    exact ih (head?_links_append_ne_arrow links hrest) rfl
  | signed sign operand => cases sign <;> exact id
  | accessor atom suffixes ih =>
    rw [tokens, List.append_assoc]
    exact ih (head?_suffixes_append_ne_arrow suffixes hrest) rfl
  | name text =>
    cases rest with
    | nil => exact id
    | cons token others =>
      intro h
      cases token with
      | arrow => exact hrest rfl
      | _ => exact h
  | literal | call | group | array => exact id
  | _ => cases hcategory

end Phrase

end DocFilter.Grammar
