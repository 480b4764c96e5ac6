import DocFilter.Proofs.Grammar.Beginning
import DocFilter.Proofs.Grammar.Passing
import DocFilter.Proofs.Reading.Looping
import DocFilter.Proofs.Reading.Retracing

/-!
# Where readers fail

Where a reader fails, the tokens before the one that is wrong begin a phrase of
the kind that it reads, and it fails in the same way on all streams that agree
up to this token.  There is one statement for each rule of the grammar.

A reader that has more room than there are tokens never runs out of it: every
level of what it reads has taken a token.
-/

namespace DocFilter.Reading

open Grammar

variable {α : Type} {n room : Nat}

/-! ## Heights and lengths -/

theorem Represents.height_le_length {category : Category}
    {tree : α → category.Tree} {height : α → Nat} {tokens : List Token} {value : α}
    (h : Represents category tree height room tokens value) :
    height value ≤ tokens.length := by
  obtain ⟨-, phrase, rfl, -, hheight⟩ := h
  calc height value
    _ = phrase.height := ((hheight 0).trans (Nat.zero_max _)).symm
    _ ≤ phrase.tokens.length := phrase.height_le_length

theorem IsOperand.ne_nil {level : Level} {tokens : List Token} {operand : Operand}
    (h : IsOperand level room tokens operand) : tokens ≠ [] := by
  obtain ⟨-, phrase, rfl, -⟩ := h
  obtain ⟨token, others, htokens, -⟩ := phrase.exists_first_token
  rw [htokens]
  exact List.cons_ne_nil token others

/-- A suffix is put on top of its object, and takes tokens for what it adds. -/
theorem IsSuffix.height_le {object result : Operand} {tokens : List Token}
    (h : IsSuffix object result tokens) :
    result.height ≤ object.height + tokens.length := by
  obtain ⟨suffix, step, rfl, -, -, hheight⟩ := h
  have hle := suffix.heightOver_add_spare_le object.height
  rw [hheight]
  omega

/-! ## Beginnings -/

/-- The tokens begin a phrase of a kind.  If there are none, the next token is
no name: a reader of values takes every name that it starts with. -/
def Blocks (category : Category) (before : List Token) (next : Option Token) :
    Prop :=
  Begins category before ∧ (before = [] → ∀ text, next ≠ some (.name text))

theorem Blocks.of_ne_nil {category : Category} {before : List Token}
    (h : Begins category before) (hne : before ≠ []) (next : Option Token) :
    Blocks category before next :=
  ⟨h, fun hnil => absurd hnil hne⟩

/-- What begins a first part begins the whole. -/
theorem Blocks.first {category outer : Category} {before : List Token}
    {next : Option Token} (h : Blocks category before next)
    (build : Phrase category → Phrase outer) (after : List Token)
    (hbuild : ∀ phrase, (build phrase).tokens = phrase.tokens ++ after) :
    Blocks outer before next :=
  ⟨h.1.within build [] after hbuild, h.2⟩

/-! ## Chains -/

section

variable {tier : Tier} {operand : Reading Operand}
  (htakes : Takes operand (IsOperand (.operand tier) room))

include htakes

theorem retraces_links
    (hoperand : Retraces n (Blocks (.value (.operand tier))) operand)
    (left : Operand) (hleft : left.height + n ≤ room) :
    Retraces n (fun before _ => Begins (.many (.link tier)) before)
      (links tier operand room left) := by
  induction n using Nat.strongRecOn generalizing left with
  | ind n ih =>
    rw [links_eq tier room htakes]
    apply (Retraces.acceptSome _).bind (Takes.acceptSome _) fun _ _ => id
    intro found before hfound hlength
    cases found with
    | none => exact Retraces.pure left
    | some op =>
      obtain ⟨token, rfl, hop⟩ := hfound
      obtain ⟨rfl, htier⟩ := operator?_eq_some hop
      rw [List.length_singleton] at hlength ⊢
      apply (hoperand.mono (Nat.sub_le n 1) fun _ _ => id).bind htakes
      · intro before _ hbefore
        exact hbefore.1.within (fun phrase => .cons (.link op htier phrase) .nil)
          [.operator op] [] fun phrase => by simp [Phrase.tokens]
      · intro right tokens hright hlength'
        have hheight : right.height ≤ tokens.length := hright.height_le_length
        have hjoined : (joined op left right).height =
            max left.height right.height + 1 := rfl
        rw [within_of_le (by omega), pure_bind]
        obtain ⟨-, phrase, rfl, -⟩ := hright
        apply (ih (n - 1 - phrase.tokens.length) (by omega)
          (hoperand.mono (by omega) fun _ _ => id) _ (by omega)).mono
          (Nat.le_refl _)
        intro before _ hbefore
        exact hbefore.within (.cons (.link op htier phrase) ·)
          (.operator op :: phrase.tokens) [] fun links => by simp [Phrase.tokens]

theorem retraces_chain
    (hoperand : Retraces n (Blocks (.value (.operand tier))) operand)
    (hroom : n ≤ room) :
    Retraces n (Blocks (.value (.chain tier))) (chain tier operand room) := by
  rw [chain_eq]
  apply hoperand.bind htakes
  · intro before next hbefore
    exact hbefore.first (.chain · .nil) [] fun phrase => rfl
  · intro first tokens hfirst hlength
    have hheight : first.height ≤ tokens.length := hfirst.height_le_length
    have hne := hfirst.ne_nil
    apply (retraces_links htakes (hoperand.mono (Nat.sub_le n _) fun _ _ => id)
      first (by omega)).mono (Nat.le_refl _)
    intro before next hbefore
    obtain ⟨-, phrase, rfl, -⟩ := hfirst
    refine .of_ne_nil ?_ (by simp [hne]) next
    exact hbefore.within (.chain phrase ·) phrase.tokens [] fun links => by
      simp [Phrase.tokens]

end

theorem retraces_expressionOf {negated : Reading Operand}
    (htakes : Takes negated (IsOperand .negated room))
    (hnegated : Retraces n (Blocks (.value .negated)) negated) (hroom : n ≤ room) :
    Retraces n (Blocks .expression) (expressionOf negated room) :=
  @retraces_chain n room .logical _ (takes_chain htakes)
    (@retraces_chain n room .comparison _ htakes hnegated hroom) hroom

/-! ## Lists of items -/

section

variable {category : Category} {tree : α → category.Tree} {height : α → Nat}
  {item : Reading α} (htakes : Takes item (Represents category tree height room))
  (close : Token) {unclosed : SyntaxFault} (hunclosed : unclosed.IsAtToken)

include htakes hunclosed

theorem retraces_furtherItems
    (hitem : Retraces n (fun before _ => Begins category before) item)
    (values : List α) :
    Retraces n (fun before _ => Begins (.many (.next category)) before)
      (furtherItems item close unclosed values) := by
  induction n using Nat.strongRecOn generalizing values with
  | ind n ih =>
    rw [furtherItems_eq close unclosed htakes]
    apply Retraces.position_next?_bind
    · exact ⟨.nil _, unclosed, hunclosed, fun stop => ⟨⟨[], stop⟩, rfl⟩⟩
    · intro start token hlength
      dsimp only
      by_cases hcomma : token = .comma
      · subst hcomma
        left
        rw [if_pos rfl]
        apply (hitem.mono (Nat.sub_le n 1) fun _ _ => id).bind htakes
        · intro before _ hbefore
          exact hbefore.within (fun phrase => .cons (.next phrase) .nil)
            [.comma] [] fun phrase => by simp [Phrase.tokens]
        · intro value tokens hvalue hlength'
          obtain ⟨-, phrase, rfl, -⟩ := hvalue
          apply (ih (n - 1 - phrase.tokens.length) (by omega)
            (hitem.mono (by omega) fun _ _ => id) _).mono (Nat.le_refl _)
          intro before _ hbefore
          exact hbefore.within (.cons (.next phrase) ·)
            (.comma :: phrase.tokens) [] fun others => by simp [Phrase.tokens]
      · simp only [if_neg hcomma]
        by_cases hclose : token = close
        · left
          rw [if_pos hclose]
          exact Retraces.pure _
        · right
          refine ⟨.nil _, unclosed, hunclosed, fun start => ?_⟩
          rw [if_neg hclose]

theorem retraces_items {atEnd : SyntaxFault} (hatEnd : atEnd.IsAtToken)
    (hitem : Retraces n (fun before _ => Begins category before) item) :
    Retraces n (fun before _ => Begins (.items category) before)
      (items item close atEnd unclosed) := by
  apply Retraces.peek?.bind Takes.peek? fun _ _ => id
  intro found before hbefore hlength
  subst hbefore
  cases found with
  | none => exact Retraces.fail hatEnd fun _ => .nil _
  | some token =>
    dsimp only
    by_cases hclose : token = close
    · rw [if_pos hclose]
      apply Retraces.tail.bind Takes.tail fun _ _ => id
      exact fun _ _ _ _ => Retraces.pure []
    · rw [if_neg hclose]
      apply (hitem.mono (Nat.le_refl n) fun _ _ => id).bind htakes
      · intro before _ hbefore
        exact hbefore.within (.items · .nil) [] [] fun phrase => by
          simp [Phrase.tokens]
      · intro value tokens hvalue hlength'
        obtain ⟨-, phrase, rfl, -⟩ := hvalue
        apply (retraces_furtherItems htakes close hunclosed
          (hitem.mono (Nat.sub_le n _) fun _ _ => id) [value]).mono
          (Nat.le_refl _)
        intro before _ hbefore
        exact hbefore.within (.items phrase ·) phrase.tokens [] fun others => by
          simp [Phrase.tokens]

end

/-! ## Arguments and elements -/

theorem startsArrow_congr {first second : Token} {others others' : List Token}
    (h : StartsArrow (first :: second :: others)) :
    StartsArrow (first :: second :: others') := by
  cases first with
  | name element =>
    cases second with
    | arrow => trivial
    | _ => exact h.elim
  | _ => exact h.elim

/-- Whether an argument is an arrow is settled by the same tokens: an argument
that is none has a first token, and the second one is looked at in both
streams. -/
theorem startsArrow_of_alike {taken : List PlacedToken} {rest rest' : TokenStream}
    (halike : rest'.Alike rest)
    (hfirst : taken = [] → ∀ text,
      rest.tokens.head?.map PlacedToken.token ≠ some (.name text))
    (h : StartsArrow ((rest'.prepend taken).tokens.map PlacedToken.token)) :
    StartsArrow ((rest.prepend taken).tokens.map PlacedToken.token) := by
  obtain ⟨_ | ⟨placed, others⟩, stop⟩ := rest
  · rwa [halike.eq_nil] at h
  · obtain ⟨others', stop', rfl⟩ := halike.exists_eq_cons
    rcases taken with _ | ⟨⟨offset, token⟩, _ | ⟨second, taken⟩⟩
    · obtain ⟨offset, token⟩ := placed
      cases token with
      | name text => exact absurd rfl (hfirst rfl text)
      | _ => exact h.elim
    · exact startsArrow_congr h
    · exact startsArrow_congr h

theorem exists_of_startsArrow {stream : TokenStream}
    (h : StartsArrow (stream.tokens.map PlacedToken.token)) :
    ∃ offset element offset' others,
      stream.tokens = ⟨offset, .name element⟩ :: ⟨offset', .arrow⟩ :: others := by
  obtain ⟨tokens, stop⟩ := stream
  rcases tokens with _ | ⟨⟨offset, token⟩, _ | ⟨⟨offset', token'⟩, others⟩⟩
  · exact h.elim
  · cases token <;> exact h.elim
  · cases token with
    | name element =>
      cases token' with
      | arrow => exact ⟨offset, element, offset', others, rfl⟩
      | _ => exact h.elim
    | _ => exact h.elim

section

variable {expression : Reading Operand}
  (htakes : Takes expression (IsOperand (.chain .logical) room))

include htakes

theorem retraces_body (hexpression : Retraces n (Blocks .expression) expression)
    (build : Operand → Argument) :
    Retraces n (Blocks .expression) (do return build (← expression)) := by
  apply hexpression.bind htakes fun _ _ => id
  exact fun _ _ _ _ => Retraces.pure _

theorem retraces_argument
    (hexpression : Retraces n (Blocks .expression) expression) :
    Retraces n (fun before _ => Begins .argument before)
      (argument expression) where
  ok stream value rest hstream hok := by
    by_cases harrow : StartsArrow (stream.tokens.map PlacedToken.token)
    · obtain ⟨offset, element, offset', others, htokens⟩ :=
        exists_of_startsArrow harrow
      obtain ⟨tokens, stop⟩ := stream
      cases htokens
      have hlength : others.length + 2 ≤ n := hstream
      obtain ⟨taken, hsplit, hretrace⟩ :=
        (retraces_body htakes hexpression (.arrow element)).ok ⟨others, stop⟩
          value rest (by simp only; omega) hok
      refine ⟨⟨offset, .name element⟩ :: ⟨offset', .arrow⟩ :: taken, ?_,
        fun rest' halike hrest' => ?_⟩
      · obtain ⟨rfl, rfl⟩ := TokenStream.mk.inj hsplit
        rfl
      · rw [TokenStream.length_prepend, List.length_cons, List.length_cons]
          at hrest'
        have htail := TokenStream.length_prepend taken rest'
        exact hretrace rest' halike (by omega)
    · rw [argument_eq_of_not_startsArrow _ _ harrow] at hok
      obtain ⟨taken, rfl, hretrace⟩ :=
        (retraces_body htakes hexpression .plain).ok stream value rest hstream hok
      -- An expression has a first token.
      obtain ⟨body, middle, hbody, hpure⟩ := bind_eq_ok_iff.mp hok
      obtain ⟨rfl, rfl⟩ := pure_eq_ok_iff.mp hpure
      have hne := (htakes.of_prepend hbody).ne_nil
      refine ⟨taken, rfl, fun rest' halike hrest' => ?_⟩
      rw [argument_eq_of_not_startsArrow]
      · exact hretrace rest' halike hrest'
      · exact fun h => harrow (startsArrow_of_alike halike
          (fun hnil => absurd (congrArg _ hnil) hne) h)
  error stream error rest hstream herror hfault := by
    by_cases harrow : StartsArrow (stream.tokens.map PlacedToken.token)
    · obtain ⟨offset, element, offset', others, htokens⟩ :=
        exists_of_startsArrow harrow
      obtain ⟨tokens, stop⟩ := stream
      cases htokens
      have hlength : others.length + 2 ≤ n := hstream
      obtain ⟨before, after, hsplit, hbefore, hdeep, hplace, hretrace⟩ :=
        (retraces_body htakes hexpression (.arrow element)).error
          ⟨others, stop⟩ error rest (by simp only; omega) herror hfault
      refine ⟨⟨offset, .name element⟩ :: ⟨offset', .arrow⟩ :: before, after, ?_,
        ?_, hdeep, hplace, fun after' halike hafter' => ?_⟩
      · obtain ⟨rfl, rfl⟩ := TokenStream.mk.inj hsplit
        rfl
      · exact hbefore.1.within (.arrow element) [.name element, .arrow] []
          fun phrase => by simp [Phrase.tokens]
      · rw [TokenStream.length_prepend, List.length_cons, List.length_cons]
          at hafter'
        have htail := TokenStream.length_prepend before after'
        exact hretrace after' halike (by omega)
    · rw [argument_eq_of_not_startsArrow _ _ harrow] at herror
      obtain ⟨before, after, rfl, hbefore, hdeep, hplace, hretrace⟩ :=
        (retraces_body htakes hexpression .plain).error stream error rest
          hstream herror hfault
      refine ⟨before, after, rfl, ?_, hdeep, hplace,
        fun after' halike hafter' => ?_⟩
      · exact hbefore.1.within .plain [] [] fun phrase => by
          simp [Phrase.tokens]
      · rw [argument_eq_of_not_startsArrow]
        · exact hretrace after' halike hafter'
        · exact fun h => harrow (startsArrow_of_alike halike
            (fun hnil => hbefore.2 (by rw [hnil]; rfl)) h)

theorem retraces_arguments
    (hexpression : Retraces n (Blocks .expression) expression) :
    Retraces n (fun before _ => Begins (.items .argument) before)
      (arguments expression) :=
  retraces_items (takes_argument htakes) .closeParen ⟨by simp, by simp⟩
    ⟨by simp, by simp⟩ (retraces_argument htakes hexpression)

theorem retraces_elements
    (hexpression : Retraces n (Blocks .expression) expression) :
    Retraces n (fun before _ => Begins (.items .expression) before)
      (elements expression) :=
  retraces_items htakes .closeBracket ⟨by simp, by simp⟩ ⟨by simp, by simp⟩
    (hexpression.mono (Nat.le_refl n) fun _ _ hbefore => hbefore.1)

/-! ## Atoms -/

/-- The arguments of a call, and what is made of them. -/
theorem retraces_call {Q : List Token → Option Token → Prop}
    (hexpression : Retraces n (Blocks .expression) expression)
    (hQ : ∀ before next, Begins (.items .argument) before → Q before next)
    (start : Nat) (call : List Argument → Except CallFault JsonExpr)
    (height : List Argument → Nat) :
    Retraces n Q (do
      let arguments ← arguments expression
      let expr ← checked start (call arguments)
      return (⟨expr, height arguments⟩ : Operand)) := by
  apply (retraces_arguments htakes hexpression).bind (takes_arguments htakes) hQ
  intro values tokens _ _
  cases hcall : call values with
  | ok expr => exact Retraces.pure _
  | error fault =>
    exact Retraces.failAt (.call fault) id start

/-- Behind the first token of an atom, every expression has fewer tokens. -/
theorem retraces_atom
    (hexpression : ∀ m < n, Retraces m (Blocks .expression) expression) :
    Retraces n (Blocks (.value .atom)) (atom expression) := by
  apply Retraces.position_next?_bind
  · exact ⟨⟨.nil _, fun _ _ h => nomatch h⟩, .endOfExpression,
      ⟨by simp, by simp⟩, fun stop => ⟨⟨[], stop⟩, rfl⟩⟩
  intro start token hlength
  have hunexpected (h : ∀ text, token ≠ .name text) :
      Blocks (.value .atom) [] (some token) ∧
        ∃ fault : SyntaxFault, fault.IsAtToken ∧ ∀ start,
          (failAt (.unexpectedToken token) start : Reading Operand) =
            failAt fault start :=
    ⟨⟨.nil _, fun _ text => mt Option.some.inj (h text)⟩,
      .unexpectedToken token, ⟨by simp, by simp⟩, fun _ => rfl⟩
  have hinner := hexpression (n - 1) (by omega)
  cases token with
  | literal value => exact Or.inl (Retraces.pure _)
  | name text =>
    left
    apply (Retraces.accept .openParen).bind (Takes.accept .openParen)
      fun _ _ => id
    intro called _ hcalled _
    subst hcalled
    cases called with
    | false => exact Retraces.pure _
    | true =>
      refine retraces_call htakes (hinner.mono (Nat.sub_le _ 1) fun _ _ => id)
        (fun before next hbefore => .of_ne_nil ?_ (by simp) next) start
        (Call.function text) fun values =>
          greatest (values.map Argument.height)
      exact hbefore.within (.call text ·) [.name text, .openParen] [.closeParen]
        fun arguments => by simp [Phrase.tokens]
  | openParen =>
    left
    apply hinner.bind htakes
    · intro before next hbefore
      refine .of_ne_nil ?_ (by simp) next
      exact hbefore.1.within .group [.openParen] [.closeParen] fun phrase => by
        simp [Phrase.tokens]
    · intro value tokens _ _
      apply Retraces.next?.bind Takes.next? fun _ _ => id
      intro close _ _ _
      by_cases hclose : close = some .closeParen
      · rw [if_pos hclose]
        exact Retraces.pure _
      · rw [if_neg hclose]
        exact Retraces.failAt .unclosedGroup id start
  | openBracket =>
    left
    apply (retraces_elements htakes hinner).bind (takes_elements htakes)
    · intro before next hbefore
      refine .of_ne_nil ?_ (by simp) next
      exact hbefore.within .array [.openBracket] [.closeBracket] fun phrase => by
        simp [Phrase.tokens]
    · exact fun _ _ _ _ => Retraces.pure _
  | _ => exact Or.inr (hunexpected (by simp))

/-! ## Suffixes -/

theorem retraces_member
    (hexpression : ∀ m < n, Retraces m (Blocks .expression) expression)
    (object : Operand) :
    Retraces n (fun before _ => Begins .suffix (.dot :: before))
      (member expression object) := by
  have hdot : Begins .suffix [.dot] :=
    ⟨.property "", List.prefix_append [Token.dot] [Token.name ""]⟩
  apply Retraces.position_next?_bind
  · exact ⟨hdot, .missingName, ⟨by simp, by simp⟩,
      fun stop => ⟨⟨[], stop⟩, rfl⟩⟩
  intro start token hlength
  cases token with
  | name text =>
    left
    apply (Retraces.accept .openParen).bind (Takes.accept .openParen)
      fun _ _ => id
    intro called _ hcalled _
    subst hcalled
    cases called with
    | false =>
      by_cases hlength : text = "length"
      · simp only [Bool.false_eq_true, if_false, if_pos hlength]
        exact Retraces.pure _
      · simp only [Bool.false_eq_true, if_false, if_neg hlength]
        exact Retraces.pure _
    | true =>
      refine retraces_call htakes ((hexpression (n - 1) (by omega)).mono
          (Nat.sub_le _ 1) fun _ _ => id)
        (fun before next hbefore => ?_) start (Call.method object.expr text)
        fun values => max object.height
          (greatest (values.map Argument.height)) + 1
      exact hbefore.within (.method text ·) [.dot, .name text, .openParen]
        [.closeParen] fun arguments => by simp [Phrase.tokens]
  | _ =>
    exact Or.inr ⟨hdot, .missingName, ⟨by simp, by simp⟩, fun _ => rfl⟩

omit htakes in
/-- A missing bracket is reported behind the token that stands in its place. -/
theorem retraces_closeBracket {Q : List Token → Option Token → Prop}
    (hQ : ∀ next, Q [] next) (value : Operand) :
    Retraces n Q (do
      if (← next?) = some .closeBracket then return value
      else fail .missingBracket) where
  ok stream result rest _ hok := by
    obtain ⟨found, middle, hfound, hresult⟩ := bind_eq_ok_iff.mp hok
    by_cases hclose : found = some .closeBracket
    · rw [if_pos hclose] at hresult
      obtain ⟨rfl, rfl⟩ := pure_eq_ok_iff.mp hresult
      obtain ⟨_ | ⟨⟨offset, token⟩, others⟩, stop⟩ := stream
      · cases hfound.symm.trans rfl
        cases hclose
      · cases hfound
        cases hclose
        exact ⟨[⟨offset, .closeBracket⟩], rfl, fun _ _ _ => rfl⟩
    · rw [if_neg hclose] at hresult
      cases hresult
  error stream error rest _ herror _ := by
    have hfails (found : Option Token) (stream rest : TokenStream)
        (hfound : next? stream = .ok found rest)
        (hclose : found ≠ some .closeBracket) :
        (do
          if (← next?) = some .closeBracket then return value
          else fail .missingBracket : Reading Operand) stream =
            .error ⟨.missingBracket, rest.position⟩ rest := by
      rw [bind_of_eq_ok hfound, if_neg hclose]
      rfl
    obtain ⟨_ | ⟨⟨offset, token⟩, others⟩, stop⟩ := stream
    · have hat := hfails none ⟨[], stop⟩ _ rfl (by simp)
      cases herror.symm.trans hat
      refine ⟨[], ⟨[], stop⟩, rfl, hQ _, by simp, rfl, fun after' halike _ => ?_⟩
      rw [halike.eq_nil]
      exact ⟨_, hat⟩
    · by_cases hclose : token = .closeBracket
      · subst hclose
        cases herror
      · have hclose' := mt Option.some.inj hclose
        have hat := hfails (some token) ⟨⟨offset, token⟩ :: others, stop⟩ _ rfl
          hclose'
        cases herror.symm.trans hat
        refine ⟨[], ⟨⟨offset, token⟩ :: others, stop⟩, rfl, hQ _, by simp, rfl,
          fun after' halike _ => ?_⟩
        obtain ⟨others', stop', rfl⟩ := halike.exists_eq_cons
        exact ⟨_, hfails (some token) ⟨_ :: others', stop'⟩ _ rfl hclose'⟩

theorem retraces_key
    (hexpression : Retraces n (Blocks .expression) expression)
    (object : Operand) :
    Retraces n (fun before _ => Begins .suffix (.openBracket :: before))
      (key expression object) := by
  apply hexpression.bind htakes
  · intro before _ hbefore
    exact hbefore.1.within .key [.openBracket] [.closeBracket] fun phrase => by
      simp [Phrase.tokens]
  · intro inner tokens hinner hlength
    obtain ⟨-, phrase, rfl, -⟩ := hinner
    apply retraces_closeBracket
    intro _
    refine ⟨.key phrase, ?_⟩
    simp [Phrase.tokens]

/-- Behind a suffix there is room for what the tokens behind it may add. -/
theorem retraces_furtherSuffixes
    (hexpression : ∀ m < n, Retraces m (Blocks .expression) expression)
    (object : Operand) (hobject : object.height + n ≤ room) :
    Retraces n (fun before _ => Begins (.many .suffix) before)
      (furtherSuffixes expression room object) := by
  induction n using Nat.strongRecOn generalizing object with
  | ind n ih =>
    rw [furtherSuffixes_eq room htakes]
    have hnext {reader : Reading Operand} {token : Token} (hlength : 1 ≤ n)
        (hreader : Retraces (n - 1)
          (fun before _ => Begins .suffix (token :: before)) reader)
        (hsuffix : Takes reader fun tokens result =>
          IsSuffix object result (token :: tokens)) :
        Retraces (n - 1)
          (fun before _ => Begins (.many .suffix) (token :: before))
          (do
            let result ← reader
            furtherSuffixes expression room (← within room result)) := by
      apply hreader.bind hsuffix
      · intro before _ hbefore
        exact hbefore.within (.cons · .nil) [] [] fun suffix => by
          simp [Phrase.tokens]
      · intro result tokens hresult hlength'
        have hheight := hresult.height_le
        rw [List.length_cons] at hheight
        rw [within_of_le (by omega), pure_bind]
        obtain ⟨suffix, -, htokens, -⟩ := hresult
        apply (ih (n - 1 - tokens.length) (by omega)
          (fun m hm => hexpression m (by omega)) result (by omega)).mono
          (Nat.le_refl _)
        intro before _ hbefore
        exact hbefore.within (.cons suffix ·) (token :: tokens) [] fun suffixes =>
          by simp [Phrase.tokens, htokens]
    apply (Retraces.accept .dot).bind (Takes.accept .dot) fun _ _ => id
    intro dotted _ hdotted hlength
    subst hdotted
    cases dotted with
    | true =>
      exact hnext hlength
        (retraces_member htakes (fun m hm => hexpression m (by omega)) object)
        (takes_member htakes object)
    | false =>
      apply (Retraces.accept .openBracket).bind (Takes.accept .openBracket)
        fun _ _ => id
      intro bracketed _ hbracketed hlength'
      subst hbracketed
      cases bracketed with
      | true =>
        exact hnext hlength'
          (retraces_key htakes (hexpression (n - 1) (by
            simp only [if_true, List.length_singleton] at hlength'
            omega)) object)
          (takes_key htakes object)
      | false => exact Retraces.pure object

theorem retraces_accessor
    (hexpression : ∀ m < n, Retraces m (Blocks .expression) expression)
    (hroom : n ≤ room) :
    Retraces n (Blocks (.value .negated)) (accessor expression room) := by
  rw [accessor_eq]
  apply (retraces_atom htakes hexpression).bind (takes_atom htakes)
  · intro before next hbefore
    exact hbefore.first (.accessor · .nil) [] fun phrase => rfl
  · intro first tokens hfirst hlength
    have hheight : first.height ≤ tokens.length := hfirst.height_le_length
    have hne := hfirst.ne_nil
    apply (retraces_furtherSuffixes htakes
      (fun m hm => hexpression m (by omega)) first (by omega)).mono
      (Nat.le_refl _)
    intro before next hbefore
    obtain ⟨-, phrase, rfl, -⟩ := hfirst
    refine .of_ne_nil ?_ (by simp [hne]) next
    exact hbefore.within (.accessor phrase ·) phrase.tokens [] fun suffixes =>
      by simp [Phrase.tokens]

end

/-! ## Expressions -/

theorem retraces_negated (hroom : n < room) :
    Retraces n (Blocks (.value .negated)) (negated room) := by
  induction room generalizing n with
  | zero => exact absurd hroom (Nat.not_lt_zero n)
  | succ room ih =>
    apply (Retraces.acceptSome _).bind (Takes.acceptSome _) fun _ _ => id
    intro found before hfound hlength
    cases found with
    | none =>
      subst hfound
      have hexpression : ∀ m < n,
          Retraces m (Blocks .expression) (expressionOf (negated room) room) :=
        fun m hm => retraces_expressionOf (takes_negated room)
          (ih (by omega)) (by omega)
      apply (retraces_accessor (takes_expressionOf (takes_negated room))
        hexpression (Nat.le_of_lt_succ hroom)).bind
        (takes_accessor (takes_expressionOf (takes_negated room)))
        fun _ _ => id
      exact fun _ _ _ _ => Retraces.pure _
    | some op =>
      obtain ⟨token, rfl, hop⟩ := hfound
      obtain ⟨sign, rfl, -⟩ := prefixOp?_eq_some hop
      rw [List.length_singleton] at hlength ⊢
      apply (ih (n := n - 1) (by omega)).bind (takes_negated room)
      · intro before next hbefore
        refine .of_ne_nil ?_ (by simp) next
        exact hbefore.1.within (.signed sign) [sign.token] [] fun phrase => by
          simp [Phrase.tokens]
      · exact fun _ _ _ _ => Retraces.pure _

/-- Whether there are tokens left is settled by the next one. -/
theorem retraces_isEmpty {Q : List Token → Option Token → Prop}
    (hQ : ∀ next, Q [] next) (expr : JsonExpr) :
    Retraces n Q (do
      if (← get).tokens.isEmpty then return expr
      else fail .trailingTokens) where
  ok stream value rest _ hok := by
    obtain ⟨_ | ⟨placed, others⟩, stop⟩ := stream
    · cases hok
      refine ⟨[], rfl, fun rest' halike _ => ?_⟩
      rw [halike.eq_nil]
      rfl
    · cases hok
  error stream error rest _ herror _ := by
    obtain ⟨_ | ⟨placed, others⟩, stop⟩ := stream
    · cases herror
    · cases herror
      refine ⟨[], ⟨placed :: others, stop⟩, rfl, hQ _, by simp, rfl,
        fun after' halike _ => ?_⟩
      obtain ⟨others', stop', rfl⟩ := halike.exists_eq_cons
      exact ⟨_, rfl⟩

theorem retraces_complete (hroom : n < room) :
    Retraces n (fun before _ => Begins .expression before) (complete room) := by
  apply ((retraces_expressionOf (takes_negated room) (retraces_negated hroom)
    (Nat.le_of_lt hroom)).bind (takes_expressionOf (takes_negated room))
    (fun _ _ => id) fun _ _ _ _ => Retraces.pure _).bind
    (takes_expression room) fun _ _ hbefore => hbefore.1
  intro expr tokens hexpr _
  obtain ⟨phrase, rfl, -⟩ := hexpr
  apply retraces_isEmpty
  intro _
  exact ⟨phrase, by simp⟩

end DocFilter.Reading
