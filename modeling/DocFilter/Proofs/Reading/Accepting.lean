import DocFilter.Proofs.Reading.Taking

/-!
# What a reader accepts

`Accepts reader tokens value ends` says that the reader takes just these
tokens, wherever they are placed and whatever stands behind them, as long as
the next token satisfies `ends`.  The condition on the next token is what a
greedy reader needs in order to stop.  It is stated here for the single steps
that larger readers are put together from.
-/

namespace DocFilter.Reading

variable {α : Type}

/-- The token behind some tokens, which stand before `next`. -/
def following (tokens : List Token) (next : Option Token) : Option Token :=
  tokens.head?.or next

@[simp] theorem following_nil (next : Option Token) :
    following [] next = next := rfl

@[simp] theorem following_cons (token : Token) (others : List Token)
    (next : Option Token) :
    following (token :: others) next = some token := rfl

/-- The reader takes these tokens and returns the value, if the next token
satisfies `ends`. -/
def Accepts
    (reader : Reading α) (tokens : List Token) (value : α)
    (ends : Option Token → Prop) : Prop :=
  ∀ (placed rest : List PlacedToken) (stop : Nat),
    placed.map PlacedToken.token = tokens →
      ends (rest.head?.map PlacedToken.token) →
      reader ⟨placed ++ rest, stop⟩ = .ok value ⟨rest, stop⟩

theorem head?_placed_append
    {placed : List PlacedToken} {tokens : List Token}
    (h : placed.map PlacedToken.token = tokens) (rest : List PlacedToken) :
    (placed ++ rest).head?.map PlacedToken.token =
      following tokens (rest.head?.map PlacedToken.token) := by
  subst h
  cases placed <;> rfl

namespace Accepts

variable {reader : Reading α} {tokens : List Token} {value : α}
  {ends : Option Token → Prop}

theorem pure (value : α) (ends : Option Token → Prop) :
    Accepts (Pure.pure value) [] value ends := by
  intro placed rest stop hplaced _
  rw [List.map_eq_nil_iff.mp hplaced]
  rfl

theorem next? (token : Token) (ends : Option Token → Prop) :
    Accepts Reading.next? [token] (some token) ends := by
  intro placed rest stop hplaced _
  obtain ⟨first, others, rfl, hfirst, hothers⟩ :=
    List.map_eq_cons_iff.mp hplaced
  rw [List.map_eq_nil_iff.mp hothers, ← hfirst]
  rfl

theorem accept (token : Token) (ends : Option Token → Prop) :
    Accepts (Reading.accept token) [token] true ends := by
  intro placed rest stop hplaced _
  obtain ⟨first, others, rfl, hfirst, hothers⟩ :=
    List.map_eq_cons_iff.mp hplaced
  rw [List.map_eq_nil_iff.mp hothers]
  change (if some first.token = some token then
    (do modify TokenStream.tail; return true : Reading Bool) else _) _ = _
  rw [if_pos (congrArg some hfirst)]
  rfl

theorem accept_false (token : Token) :
    Accepts (Reading.accept token) [] false fun next => next ≠ some token := by
  intro placed rest stop hplaced hrest
  rw [List.map_eq_nil_iff.mp hplaced]
  cases rest with
  | nil => rfl
  | cons first others =>
    change (if some first.token = some token then
      (do modify TokenStream.tail; return true : Reading Bool) else _) _ = _
    have hfirst : some first.token ≠ some token := hrest
    rw [if_neg hfirst]
    rfl

theorem acceptSome
    {meaning : Token → Option α} {token : Token}
    (h : meaning token = some value) (ends : Option Token → Prop) :
    Accepts (Reading.acceptSome meaning) [token] (some value) ends := by
  intro placed rest stop hplaced _
  obtain ⟨first, others, rfl, hfirst, hothers⟩ :=
    List.map_eq_cons_iff.mp hplaced
  rw [List.map_eq_nil_iff.mp hothers]
  exact acceptSome_of_eq_some (hfirst ▸ h) rest stop

theorem acceptSome_none (meaning : Token → Option α) :
    Accepts (Reading.acceptSome meaning) [] none fun next =>
      next.bind meaning = none := by
  intro placed rest stop hplaced hrest
  rw [List.map_eq_nil_iff.mp hplaced]
  cases rest with
  | nil => rfl
  | cons first others => exact acceptSome_of_eq_none hrest others stop

end Accepts

end DocFilter.Reading
