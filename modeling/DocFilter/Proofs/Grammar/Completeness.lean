import DocFilter.Proofs.Grammar.Passing

/-!
# What the grammar derives is read

A phrase that has a tree and fits in the room is taken just as it is, and its
tree and its height are returned.  With as much room as there are tokens, an
expression is therefore read exactly if the grammar derives it.
-/

namespace DocFilter.Reading

open Grammar

/-- A phrase that has a tree and fits in the room is read. -/
def IsRead {level : Level} (phrase : Phrase (.value level)) : Prop :=
  ∀ tree room, phrase.tree? = some tree → phrase.height ≤ room →
    Accepts (readerOf level room) phrase.tokens ⟨tree, phrase.height⟩ level.Ends

/-- A phrase that has a tree is not refused. -/
theorem isRead {level : Level} (phrase : Phrase (.value level)) :
    IsRead phrase := by
  intro tree room htree hroom placed rest stop hplaced hends
  rcases isPassed phrase room hroom placed rest stop hplaced hends with
    ⟨⟨expr, height⟩, ⟨hexpr, hheight⟩, hread⟩ | ⟨hnone, -⟩
  · cases htree.symm.trans hexpr
    cases hheight
    exact hread
  · cases htree.symm.trans hnone

/-- All the tokens of a phrase are read as its tree, if the phrase fits in the
room. -/
theorem complete_of_derivation
    {room : Nat} {stream : TokenStream} {expr : JsonExpr}
    (phrase : Phrase .expression)
    (htokens : phrase.tokens = stream.tokens.map PlacedToken.token)
    (htree : phrase.tree? = some expr) (hroom : phrase.height ≤ room) :
    complete room stream = .ok expr ⟨[], stream.stop⟩ := by
  rcases complete_of_tokens_eq phrase htokens hroom with
    ⟨expr', htree', hread⟩ | ⟨hnone, -⟩
  · cases htree.symm.trans htree'
    exact hread
  · cases htree.symm.trans hnone

/-- All derivations of the same tokens have the same tree. -/
theorem tree_eq_of_tokens_eq
    {first second : Phrase .expression} (htokens : first.tokens = second.tokens)
    {tree tree' : JsonExpr} (htree : first.tree? = some tree)
    (htree' : second.tree? = some tree') :
    tree = tree' := by
  let stream : TokenStream := ⟨first.tokens.map (PlacedToken.mk 0), 0⟩
  have hstream : first.tokens = stream.tokens.map PlacedToken.token := by
    rw [List.map_map]
    exact (List.map_id' first.tokens).symm
  have hread := complete_of_derivation first hstream htree
    (Nat.le_max_left first.height second.height)
  have hread' :=
    complete_of_derivation second (htokens.symm.trans hstream) htree'
    (Nat.le_max_right first.height second.height)
  cases hread.symm.trans hread'
  rfl

/-- With as much room as there are tokens, an expression is read from them
exactly if the grammar derives them with that expression as the tree. -/
theorem complete_eq_ok_iff_derivation
    {room : Nat} {stream : TokenStream} (hroom : stream.tokens.length ≤ room)
    (expr : JsonExpr) :
    (∃ rest, complete room stream = .ok expr rest) ↔
      ∃ phrase : Phrase .expression,
        phrase.tokens = stream.tokens.map PlacedToken.token ∧
          phrase.tree? = some expr := by
  constructor
  · rintro ⟨rest, hread⟩
    obtain ⟨phrase, htokens, htree, -⟩ := derivation_of_complete hread
    exact ⟨phrase, htokens, htree⟩
  · rintro ⟨phrase, htokens, htree⟩
    have hheight : phrase.height ≤ room := by
      calc phrase.height
        _ ≤ phrase.tokens.length := phrase.height_le_length
        _ = stream.tokens.length := by rw [htokens, List.length_map]
        _ ≤ room := hroom
    exact ⟨⟨[], stream.stop⟩,
      complete_of_derivation phrase htokens htree hheight⟩

/-- The tokens of `like(a, "b")` are read, and the grammar derives them. -/
theorem derivation_like :
    let stream : TokenStream :=
      ⟨[⟨0, .name "like"⟩, ⟨4, .openParen⟩, ⟨5, .name "a"⟩, ⟨6, .comma⟩,
        ⟨8, .literal (.text "b")⟩, ⟨11, .closeParen⟩], 12⟩
    let expr : JsonExpr :=
      .ofScalar (.matching .like (.ofJson (.name "a")) (.literal (.text "b")))
    stream.tokens.length ≤ 6 ∧ (∃ rest, complete 6 stream = .ok expr rest) ∧
      ((∃ rest, complete 6 stream = .ok expr rest) ↔
        ∃ phrase : Phrase .expression,
          phrase.tokens = stream.tokens.map PlacedToken.token ∧
            phrase.tree? = some expr) := by
  intro stream expr
  have hroom : stream.tokens.length ≤ 6 := by decide
  have hread : ∃ rest, complete 6 stream = .ok expr rest := ⟨_, rfl⟩
  exact ⟨hroom, hread, complete_eq_ok_iff_derivation hroom expr⟩

end DocFilter.Reading
