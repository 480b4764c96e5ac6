import DocFilter.Proofs.Reading.Accepting

/-!
# What a reader takes or refuses

A sentence of the grammar is read, unless a call in it does not keep to the
tables.  `Passes reader tokens returns refused ends` says that the reader takes
just these tokens and returns a value that satisfies `returns`, or that it stops
at a call, which can only be if `refused` holds.  As for `Accepts`, the tokens
may be placed anywhere, and the next token satisfies `ends`.  Readers are put
together by sequencing: the first one has to stop at what the second one starts
with.
-/

namespace DocFilter.Reading

variable {α β : Type}

/-- The reader takes these tokens and returns a value with the property, or it
stops at a call in them. -/
def Passes (reader : Reading α) (tokens : List Token) (returns : α → Prop)
    (refused : Prop) (ends : Option Token → Prop) : Prop :=
  ∀ (placed rest : List PlacedToken) (stop : Nat),
    placed.map PlacedToken.token = tokens →
      ends (rest.head?.map PlacedToken.token) →
      (∃ value, returns value ∧
        reader ⟨placed ++ rest, stop⟩ = .ok value ⟨rest, stop⟩) ∨
      (refused ∧ ∃ fault position rest',
        reader ⟨placed ++ rest, stop⟩ = .error ⟨.call fault, position⟩ rest')

theorem Accepts.passes {reader : Reading α} {tokens : List Token} {value : α}
    {ends : Option Token → Prop} (h : Accepts reader tokens value ends)
    {returns : α → Prop} (hvalue : returns value) (refused : Prop) :
    Passes reader tokens returns refused ends :=
  fun placed rest stop hplaced hends =>
    Or.inl ⟨value, hvalue, h placed rest stop hplaced hends⟩

namespace Passes

variable {reader : Reading α} {tokens others : List Token} {value : α}
  {returns : α → Prop} {returns' : β → Prop} {refused refused' : Prop}
  {ends ends' : Option Token → Prop} {next : α → Reading β}

theorem mono (h : Passes reader tokens returns refused ends)
    (hends : ∀ token, ends' token → ends token) :
    Passes reader tokens returns refused ends' :=
  fun placed rest stop hplaced hrest =>
    h placed rest stop hplaced (hends _ hrest)

theorem imp {returns' : α → Prop}
    (h : Passes reader tokens returns refused ends)
    (hreturns : ∀ value, returns value → returns' value)
    (hrefused : refused → refused') :
    Passes reader tokens returns' refused' ends :=
  fun placed rest stop hplaced hrest =>
    (h placed rest stop hplaced hrest).imp
      (fun ⟨value, hvalue, hok⟩ => ⟨value, hreturns value hvalue, hok⟩)
      (And.imp_left hrefused)

theorem pure {returns : α → Prop} (hvalue : returns value) (refused : Prop)
    (ends : Option Token → Prop) :
    Passes (Pure.pure value) [] returns refused ends :=
  (Accepts.pure value ends).passes hvalue refused

/-- A sequence is refused where one of its parts is. -/
theorem bind (h : Passes reader tokens returns refused ends)
    (hnext : ∀ value, returns value →
      Passes (next value) others returns' refused' ends')
    (hends : ∀ token, ends' token → ends (following others token))
    (hrefused : refused → refused') :
    Passes (reader >>= next) (tokens ++ others) returns' refused' ends' := by
  intro placed rest stop hplaced hrest
  obtain ⟨placed₁, placed₂, rfl, hplaced₁, hplaced₂⟩ :=
    List.map_eq_append_iff.mp hplaced
  rw [List.append_assoc]
  rcases h placed₁ (placed₂ ++ rest) stop hplaced₁
      (by rw [head?_placed_append hplaced₂]; exact hends _ hrest) with
    ⟨value, hvalue, hok⟩ | ⟨hcall, fault, position, rest', herror⟩
  · rw [bind_of_eq_ok hok]
    exact hnext value hvalue placed₂ rest stop hplaced₂ hrest
  · rw [bind_of_eq_error herror]
    exact Or.inr ⟨hrefused hcall, fault, position, rest', rfl⟩

/-- Behind a reader that stops before every token. -/
theorem seq (hreader : ∀ ends, Accepts reader tokens value ends)
    (hnext : Passes (next value) others returns' refused ends) :
    Passes (reader >>= next) (tokens ++ others) returns' refused ends := by
  apply ((hreader fun _ => True).passes rfl refused).bind
  · intro _ hvalue
    exact hvalue ▸ hnext
  · exact fun _ _ => trivial
  · exact id

/-- Behind a reader that takes nothing in front of these tokens. -/
theorem seq_nil (hreader : Accepts reader [] value ends)
    (hnext : Passes (next value) tokens returns' refused ends')
    (hends : ∀ token, ends' token → ends (following tokens token)) :
    Passes (reader >>= next) tokens returns' refused ends' := by
  rw [← List.nil_append tokens]
  apply (hreader.passes rfl refused).bind _ hends id
  intro _ hvalue
  exact hvalue ▸ hnext

/-- What follows takes no token, so the first reader takes all of them. -/
theorem bind_nil (h : Passes reader tokens returns refused ends)
    (hnext : ∀ value, returns value →
      Passes (next value) [] returns' refused' ends)
    (hrefused : refused → refused') :
    Passes (reader >>= next) tokens returns' refused' ends := by
  have hboth : Passes (reader >>= next) (tokens ++ []) returns' refused' ends :=
    h.bind hnext (fun _ hends => hends) hrefused
  rwa [List.append_nil] at hboth

/-- What is made of the value takes no token. -/
theorem map (h : Passes reader tokens returns refused ends) (build : α → β)
    (hbuild : ∀ value, returns value → returns' (build value))
    (hrefused : refused → refused') :
    Passes (do return build (← reader)) tokens returns' refused' ends :=
  h.bind_nil (fun value hvalue => pure (hbuild value hvalue) _ ends) hrefused

/-- The value of a reader can be looked at without taking a token. -/
theorem get_bind {next : TokenStream → Reading β}
    (hnext : ∀ stream : TokenStream, tokens.length ≤ stream.tokens.length →
      Passes (next stream) tokens returns' refused ends) :
    Passes (MonadState.get >>= next) tokens returns' refused ends := by
  intro placed rest stop hplaced hrest
  refine hnext ⟨placed ++ rest, stop⟩ ?_ placed rest stop hplaced hrest
  have hlength := congrArg List.length hplaced
  simp only [List.length_map, List.length_append] at hlength ⊢
  omega

theorem position_bind {next : Nat → Reading β}
    (hnext : ∀ position, Passes (next position) tokens returns' refused ends) :
    Passes (position >>= next) tokens returns' refused ends :=
  fun placed rest stop => hnext _ placed rest stop

end Passes

end DocFilter.Reading
