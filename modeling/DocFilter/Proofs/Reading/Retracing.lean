import DocFilter.Proofs.Reading.Taking

/-!
# Readers on streams that agree

A reader looks at one token after the other and never further than it has to.
What it does is therefore settled by the tokens up to the one that it stops at.
If it succeeds, it takes the same tokens of every stream that starts with them
and goes on with the same next token.  If it fails, it fails in the same way on
every stream that agrees up to the token that is wrong.
-/

namespace DocFilter

/-! ## Streams -/

/-- The stream with some tokens put back before it. -/
def TokenStream.prepend (taken : List PlacedToken) (rest : TokenStream) :
    TokenStream :=
  ⟨taken ++ rest.tokens, rest.stop⟩

/-- The next token is the same, and stands at the same place. -/
structure TokenStream.Alike (first second : TokenStream) : Prop where
  head?_eq : first.tokens.head? = second.tokens.head?
  position_eq : first.position = second.position

namespace TokenStream

variable {rest rest' : TokenStream}

theorem length_prepend (taken : List PlacedToken) (rest : TokenStream) :
    (rest.prepend taken).tokens.length = taken.length + rest.tokens.length :=
  List.length_append

theorem prepend_prepend (before taken : List PlacedToken) (rest : TokenStream) :
    (rest.prepend taken).prepend before = rest.prepend (before ++ taken) := by
  simp only [prepend, List.append_assoc]

theorem Alike.prepend (h : rest'.Alike rest) (taken : List PlacedToken) :
    (rest'.prepend taken).Alike (rest.prepend taken) := by
  cases taken with
  | nil => exact h
  | cons placed others => exact ⟨rfl, rfl⟩

theorem Alike.eq_nil {stop : Nat} (h : rest.Alike ⟨[], stop⟩) :
    rest = ⟨[], stop⟩ := by
  obtain ⟨tokens, stop'⟩ := rest
  obtain ⟨hhead, hposition⟩ := h
  cases tokens with
  | nil =>
    cases hposition
    rfl
  | cons placed others => cases hhead

theorem Alike.exists_eq_cons {placed : PlacedToken} {others : List PlacedToken}
    {stop : Nat} (h : rest.Alike ⟨placed :: others, stop⟩) :
    ∃ others' stop', rest = ⟨placed :: others', stop'⟩ := by
  obtain ⟨tokens, stop'⟩ := rest
  cases tokens with
  | nil => cases h.head?_eq
  | cons first others' =>
    cases h.head?_eq
    exact ⟨others', stop', rfl⟩

end TokenStream

/-! ## Faults -/

/-- The fault is neither that of a call nor that of a group, which is reported
where the group is opened. -/
def SyntaxFault.IsPlain : SyntaxFault → Prop
  | .call _ | .unclosedGroup => False
  | _ => True

/-- Where a fault is reported, if `rest` starts with the token that is wrong.  A
missing bracket is reported behind this token. -/
def SyntaxFault.place (fault : SyntaxFault) (rest : TokenStream) : Nat :=
  if fault = .missingBracket then rest.tail.position else rest.position

/-- The fault is reported at the token that is wrong, and it is not the fault of
a limit. -/
structure SyntaxFault.IsAtToken (fault : SyntaxFault) : Prop where
  ne_tooDeep : fault ≠ .tooDeep
  ne_missingBracket : fault ≠ .missingBracket

theorem SyntaxFault.IsAtToken.place_eq {fault : SyntaxFault} (h : fault.IsAtToken)
    (rest : TokenStream) : fault.place rest = rest.position :=
  if_neg h.ne_missingBracket

namespace Reading

variable {α β : Type} {n : Nat}

/-- What a reader takes is known when it is known where it stops. -/
theorem Takes.of_prepend {reader : Reading α} {P : List Token → α → Prop}
    (h : Takes reader P) {taken : List PlacedToken} {rest : TokenStream}
    {value : α} (hok : reader (rest.prepend taken) = .ok value rest) :
    P (taken.map PlacedToken.token) value := by
  obtain ⟨taken', hsplit, hP⟩ := h _ value rest hok
  have htaken : taken = taken' :=
    List.append_cancel_right (congrArg TokenStream.tokens hsplit)
  rwa [htaken]

theorem Takes.peek? : Takes Reading.peek? fun tokens _ => tokens = [] := by
  rintro ⟨_ | ⟨placed, others⟩, stop⟩ found rest hok
  · cases hok
    exact ⟨[], rfl, rfl⟩
  · cases hok
    exact ⟨[], rfl, rfl⟩

theorem Takes.tail :
    Takes (modify TokenStream.tail : Reading Unit) fun _ _ => True := by
  rintro ⟨_ | ⟨placed, others⟩, stop⟩ value rest hok
  · cases hok
    exact ⟨[], rfl, trivial⟩
  · cases hok
    exact ⟨[placed], rfl, trivial⟩

/-! ## Two runs -/

/-- On streams of at most `n` tokens, what the reader does is settled by the
tokens up to the one that it stops at.  Where it fails, `Q` holds of the tokens
before the one that is wrong, and of this one. -/
structure Retraces (n : Nat) (Q : List Token → Option Token → Prop)
    (reader : Reading α) : Prop where
  ok : ∀ stream value rest, stream.tokens.length ≤ n →
    reader stream = .ok value rest →
      ∃ taken, stream = TokenStream.prepend taken rest ∧
        ∀ rest' : TokenStream, rest'.Alike rest →
          (rest'.prepend taken).tokens.length ≤ n →
            reader (rest'.prepend taken) = .ok value rest'
  error : ∀ stream error rest, stream.tokens.length ≤ n →
    reader stream = .error error rest → error.fault.IsPlain →
      ∃ before after, stream = TokenStream.prepend before after ∧
        Q (before.map PlacedToken.token)
          (after.tokens.head?.map PlacedToken.token) ∧
        error.fault ≠ .tooDeep ∧ error.position = error.fault.place after ∧
        ∀ after' : TokenStream, after'.Alike after →
          (after'.prepend before).tokens.length ≤ n →
            ∃ rest', reader (after'.prepend before) =
              .error ⟨error.fault, error.fault.place after'⟩ rest'

namespace Retraces

variable {Q Q' : List Token → Option Token → Prop} {P : List Token → α → Prop}
  {reader : Reading α}

theorem mono (h : Retraces n Q' reader) {m : Nat} (hm : m ≤ n)
    (hQ : ∀ before next, Q' before next → Q before next) :
    Retraces m Q reader where
  ok stream value rest hstream hok := by
    obtain ⟨taken, hsplit, hretrace⟩ :=
      h.ok stream value rest (Nat.le_trans hstream hm) hok
    exact ⟨taken, hsplit, fun rest' halike hrest' =>
      hretrace rest' halike (Nat.le_trans hrest' hm)⟩
  error stream error rest hstream herror hfault := by
    obtain ⟨before, after, hsplit, hbefore, hdeep, hplace, hretrace⟩ :=
      h.error stream error rest (Nat.le_trans hstream hm) herror hfault
    exact ⟨before, after, hsplit, hQ _ _ hbefore, hdeep, hplace,
      fun after' halike hafter' =>
        hretrace after' halike (Nat.le_trans hafter' hm)⟩

theorem pure (value : α) : Retraces n Q (Pure.pure value) where
  ok stream value' rest _ hok := by
    obtain ⟨rfl, rfl⟩ := pure_eq_ok_iff.mp hok
    exact ⟨[], rfl, fun _ _ _ => rfl⟩
  error _ _ _ _ herror := nomatch herror

/-- The second reader has the tokens that the first one does not take. -/
theorem bind {next : α → Reading β} (h : Retraces n Q' reader)
    (htakes : Takes reader P) (hQ : ∀ before next, Q' before next → Q before next)
    (hnext : ∀ value before, P before value → before.length ≤ n →
      Retraces (n - before.length) (fun after => Q (before ++ after))
        (next value)) :
    Retraces n Q (reader >>= next) where
  ok stream result rest hstream hok := by
    obtain ⟨value, middle, hvalue, hresult⟩ := bind_eq_ok_iff.mp hok
    obtain ⟨taken, rfl, hretrace⟩ := h.ok stream value middle hstream hvalue
    have hlength := TokenStream.length_prepend taken middle
    have hsecond := hnext value _ (htakes.of_prepend hvalue)
      (by rw [List.length_map]; omega)
    rw [List.length_map] at hsecond
    obtain ⟨taken', rfl, hretrace'⟩ :=
      hsecond.ok middle result rest (by omega) hresult
    refine ⟨taken ++ taken', TokenStream.prepend_prepend _ _ _, ?_⟩
    intro rest' halike hrest'
    have hlength' := TokenStream.length_prepend taken (rest'.prepend taken')
    rw [← TokenStream.prepend_prepend] at hrest' ⊢
    rw [bind_of_eq_ok (hretrace _ (halike.prepend taken') hrest')]
    exact hretrace' rest' halike (by omega)
  error stream error rest hstream herror hfault := by
    cases hfirst : reader stream with
    | error error' middle =>
      rw [bind_of_eq_error hfirst] at herror
      cases herror
      obtain ⟨before, after, hsplit, hbefore, hdeep, hplace, hretrace⟩ :=
        h.error stream error rest hstream hfirst hfault
      refine ⟨before, after, hsplit, hQ _ _ hbefore, hdeep, hplace, ?_⟩
      intro after' halike hafter'
      obtain ⟨rest', herror'⟩ := hretrace after' halike hafter'
      exact ⟨rest', bind_of_eq_error herror'⟩
    | ok value middle =>
      rw [bind_of_eq_ok hfirst] at herror
      obtain ⟨taken, rfl, hretrace⟩ := h.ok stream value middle hstream hfirst
      have hlength := TokenStream.length_prepend taken middle
      have hsecond := hnext value _ (htakes.of_prepend hfirst)
        (by rw [List.length_map]; omega)
      rw [List.length_map] at hsecond
      obtain ⟨before, after, rfl, hbefore, hdeep, hplace, hretrace'⟩ :=
        hsecond.error middle error rest (by omega) herror hfault
      refine ⟨taken ++ before, after, TokenStream.prepend_prepend _ _ _, ?_,
        hdeep, hplace, ?_⟩
      · rw [List.map_append]
        exact hbefore
      intro after' halike hafter'
      have hlength' := TokenStream.length_prepend taken (after'.prepend before)
      rw [← TokenStream.prepend_prepend] at hafter' ⊢
      rw [bind_of_eq_ok (hretrace _ (halike.prepend before) hafter')]
      exact hretrace' after' halike (by omega)

/-- Nothing is said about a fault that is not plain. -/
theorem failAt (fault : SyntaxFault) (h : ¬fault.IsPlain) (position : Nat) :
    Retraces n Q (Reading.failAt fault position : Reading α) where
  ok _ _ _ _ hok := nomatch hok
  error _ _ _ _ herror hfault := by
    cases herror
    exact absurd hfault h

/-- A fault at the next token. -/
theorem fail {fault : SyntaxFault} (h : fault.IsAtToken) (hQ : ∀ next, Q [] next) :
    Retraces n Q (Reading.fail fault : Reading α) where
  ok _ _ _ _ hok := nomatch hok
  error stream error rest _ herror _ := by
    cases herror
    refine ⟨[], stream, rfl, hQ _, h.ne_tooDeep, (h.place_eq stream).symm, ?_⟩
    intro after' _ _
    refine ⟨after', ?_⟩
    rw [h.place_eq]
    rfl

/-! ### Single steps -/

/-- A step that succeeds on every stream. -/
theorem of_total (hok : ∀ stream : TokenStream, ∃ value taken rest,
      stream = TokenStream.prepend taken rest ∧
        reader stream = .ok value rest ∧
        ∀ rest' : TokenStream, rest'.Alike rest →
          reader (rest'.prepend taken) = .ok value rest') :
    Retraces n Q reader where
  ok stream value rest _ hvalue := by
    obtain ⟨value', taken, rest', hsplit, hvalue', hretrace⟩ := hok stream
    cases hvalue.symm.trans hvalue'
    exact ⟨taken, hsplit, fun rest' halike _ => hretrace rest' halike⟩
  error stream error rest _ herror := by
    obtain ⟨value, taken, rest', -, hvalue, -⟩ := hok stream
    cases herror.symm.trans hvalue

/-- A step that looks at the next token, and takes it or leaves it. -/
theorem of_head (value? : Option Token → α) (takes : Token → Bool)
    (hnil : ∀ stop, reader ⟨[], stop⟩ = .ok (value? none) ⟨[], stop⟩)
    (hcons : ∀ placed others stop, reader ⟨placed :: others, stop⟩ =
      .ok (value? (some placed.token))
        (if takes placed.token then ⟨others, stop⟩ else ⟨placed :: others, stop⟩)) :
    Retraces n Q reader := by
  apply of_total
  rintro ⟨_ | ⟨placed, others⟩, stop⟩
  · refine ⟨value? none, [], ⟨[], stop⟩, rfl, hnil stop, fun rest' halike => ?_⟩
    rw [halike.eq_nil]
    exact hnil stop
  · have htoken := hcons placed others stop
    by_cases htakes : takes placed.token = true
    · rw [if_pos htakes] at htoken
      refine ⟨_, [placed], ⟨others, stop⟩, rfl, htoken, fun rest' _ => ?_⟩
      have htoken' := hcons placed rest'.tokens rest'.stop
      rwa [if_pos htakes] at htoken'
    · rw [if_neg htakes] at htoken
      refine ⟨_, [], ⟨placed :: others, stop⟩, rfl, htoken, fun rest' halike => ?_⟩
      obtain ⟨others', stop', rfl⟩ := halike.exists_eq_cons
      have htoken' := hcons placed others' stop'
      rwa [if_neg htakes] at htoken'

theorem peek? : Retraces n Q Reading.peek? :=
  of_head id (fun _ => false) (fun _ => rfl)
    fun _ _ _ => rfl

theorem next? : Retraces n Q Reading.next? :=
  of_head id (fun _ => true) (fun _ => rfl)
    fun _ _ _ => rfl

theorem tail : Retraces n Q (modify TokenStream.tail) :=
  of_head (fun _ => ()) (fun _ => true) (fun _ => rfl)
    fun _ _ _ => rfl

theorem accept (token : Token) :
    Retraces n Q (Reading.accept token) := by
  apply of_head (fun found => decide (found = some token))
    fun found => decide (found = token)
  · exact fun _ => rfl
  · intro placed others stop
    change (if some placed.token = some token then
      (do modify TokenStream.tail; return true : Reading Bool)
      else Pure.pure false) ⟨placed :: others, stop⟩ = _
    by_cases htoken : placed.token = token
    · simp only [htoken]
      rfl
    · simp only [Option.some.injEq, htoken]
      rfl

theorem acceptSome (meaning : Token → Option α) :
    Retraces n Q (Reading.acceptSome meaning) := by
  apply of_head (fun found => found.bind meaning)
    fun found => (meaning found).isSome
  · exact fun _ => rfl
  · intro placed others stop
    rw [Option.bind_some]
    cases hmeaning : meaning placed.token with
    | none => exact acceptSome_of_eq_none hmeaning others stop
    | some value => exact acceptSome_of_eq_some hmeaning others stop

/-- A token is taken and looked at.  If it is wrong, the fault is reported where
it stood, and otherwise another reader has the tokens behind it. -/
theorem position_next?_bind {next : Nat → Option Token → Reading α}
    (hnone : Q [] none ∧ ∃ fault : SyntaxFault, fault.IsAtToken ∧
      ∀ stop, ∃ rest, next stop none ⟨[], stop⟩ = .error ⟨fault, stop⟩ rest)
    (hsome : ∀ start token, 1 ≤ n →
      Retraces (n - 1) (fun after => Q (token :: after))
        (next start (some token)) ∨
      (Q [] (some token) ∧ ∃ fault : SyntaxFault, fault.IsAtToken ∧
        ∀ start, next start (some token) = Reading.failAt fault start)) :
    Retraces n Q (Reading.position >>= fun start =>
      Reading.next? >>= next start) where
  ok stream value rest hstream hok := by
    obtain ⟨_ | ⟨placed, others⟩, stop⟩ := stream
    · obtain ⟨-, fault, -, hfails⟩ := hnone
      obtain ⟨rest', herror⟩ := hfails stop
      cases hok.symm.trans herror
    · have hlength : others.length + 1 ≤ n := hstream
      rcases hsome placed.offset placed.token (by omega) with
        hnext | ⟨-, fault, -, hfails⟩
      · obtain ⟨taken, hsplit, hretrace⟩ :=
          hnext.ok ⟨others, stop⟩ value rest (by simp only; omega) hok
        refine ⟨placed :: taken, ?_, fun rest' halike hrest' => ?_⟩
        · obtain ⟨rfl, rfl⟩ := TokenStream.mk.inj hsplit
          rfl
        · rw [TokenStream.length_prepend, List.length_cons] at hrest'
          have htail := TokenStream.length_prepend taken rest'
          exact hretrace rest' halike (by omega)
      · change next placed.offset (some placed.token) ⟨others, stop⟩ = _ at hok
        rw [hfails] at hok
        cases hok
  error stream error rest hstream herror hfault := by
    obtain ⟨_ | ⟨placed, others⟩, stop⟩ := stream
    · obtain ⟨hQ, fault, hat, hfails⟩ := hnone
      obtain ⟨rest', herror'⟩ := hfails stop
      cases herror.symm.trans herror'
      refine ⟨[], ⟨[], stop⟩, rfl, hQ, hat.ne_tooDeep,
        (hat.place_eq ⟨[], stop⟩).symm, ?_⟩
      intro after' halike _
      rw [halike.eq_nil, hat.place_eq]
      exact hfails stop
    · have hlength : others.length + 1 ≤ n := hstream
      rcases hsome placed.offset placed.token (by omega) with
        hnext | ⟨hQ, fault, hat, hfails⟩
      · obtain ⟨before, after, hsplit, hbefore, hdeep, hplace, hretrace⟩ :=
          hnext.error ⟨others, stop⟩ error rest (by simp only; omega) herror
            hfault
        refine ⟨placed :: before, after, ?_, hbefore, hdeep, hplace, ?_⟩
        · obtain ⟨rfl, rfl⟩ := TokenStream.mk.inj hsplit
          rfl
        · intro after' halike hafter'
          rw [TokenStream.length_prepend, List.length_cons] at hafter'
          have htail := TokenStream.length_prepend before after'
          exact hretrace after' halike (by omega)
      · change next placed.offset (some placed.token) ⟨others, stop⟩ = _
          at herror
        rw [hfails] at herror
        cases herror
        refine ⟨[], ⟨placed :: others, stop⟩, rfl, hQ, hat.ne_tooDeep,
          (hat.place_eq ⟨placed :: others, stop⟩).symm, ?_⟩
        intro after' halike _
        obtain ⟨others', stop', rfl⟩ := halike.exists_eq_cons
        rw [hat.place_eq]
        refine ⟨⟨others', stop'⟩, ?_⟩
        change next placed.offset (some placed.token) ⟨others', stop'⟩ = _
        rw [hfails]
        rfl

end Retraces

end Reading

end DocFilter
