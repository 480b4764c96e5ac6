import DocFilter.Proofs.Guarded.Reading

/-!
# What is left behind an error

A reader with counters that fails leaves the same tokens as the reader that
returns heights, and these are the last ones of those that it was given.  The
levels that it has entered are left, and none of its calls is active.  Only the
deepest level that was reached stays noted: what was being measured is never
measured to its end.  So the counters can be used again, wherever the error was
met.
-/

namespace DocFilter

open Reading

variable {α β α' β' : Type} {S : Nat → Prop} {maxDepth depth : Nat}

/-! ## Tokens -/

/-- The stream is what is left of another one behind some of its tokens. -/
def TokenStream.IsBehind (rest stream : TokenStream) : Prop :=
  ∃ count ≤ stream.tokens.length,
    rest = ⟨stream.tokens.drop count, stream.stop⟩

theorem TokenStream.IsBehind.refl (stream : TokenStream) :
    stream.IsBehind stream :=
  ⟨0, Nat.zero_le _, rfl⟩

theorem TokenStream.IsBehind.trans {rest middle stream : TokenStream}
    (h : rest.IsBehind middle) (h' : middle.IsBehind stream) :
    rest.IsBehind stream := by
  obtain ⟨count', hcount', rfl⟩ := h'
  obtain ⟨count, hcount, rfl⟩ := h
  simp only [List.length_drop] at hcount
  exact ⟨count' + count, by omega, by rw [List.drop_drop]⟩

theorem TokenStream.isBehind_tail (stream : TokenStream) :
    stream.tail.IsBehind stream := by
  obtain ⟨_ | ⟨placed, others⟩, stop⟩ := stream
  · exact .refl _
  · exact ⟨1, by simp, rfl⟩

/-- A reader of tokens leaves the last ones of its tokens, also when it
fails. -/
def Leaves (reader : Reading α) : Prop :=
  ∀ stream, (left (reader stream)).IsBehind stream

namespace Leaves

theorem failAt (fault : SyntaxFault) (position : Nat) :
    Leaves (Reading.failAt fault position : Reading α) :=
  TokenStream.IsBehind.refl

theorem position : Leaves Reading.position :=
  TokenStream.IsBehind.refl

theorem tail : Leaves (modify TokenStream.tail) :=
  TokenStream.isBehind_tail

theorem tail_tail : Leaves (modify fun stream => stream.tail.tail) :=
  fun stream => stream.tail.isBehind_tail.trans stream.isBehind_tail

theorem peek? : Leaves Reading.peek? := by
  rintro ⟨tokens, stop⟩
  cases tokens <;> exact .refl _

theorem next? : Leaves Reading.next? := by
  rintro ⟨tokens, stop⟩
  cases tokens <;> exact TokenStream.isBehind_tail _

theorem acceptSome (meaning : Token → Option α) :
    Leaves (Reading.acceptSome meaning) := by
  rintro ⟨tokens, stop⟩
  cases tokens with
  | nil => exact .refl _
  | cons placed others =>
    cases hmeaning : meaning placed.token with
    | none =>
      rw [acceptSome_of_eq_none hmeaning]
      exact .refl _
    | some value =>
      rw [acceptSome_of_eq_some hmeaning]
      exact TokenStream.isBehind_tail ⟨placed :: others, stop⟩

theorem accept (token : Token) : Leaves (Reading.accept token) := by
  rintro ⟨tokens, stop⟩
  cases tokens with
  | nil => exact .refl _
  | cons placed others =>
    have haccept : Reading.accept token ⟨placed :: others, stop⟩ =
        (if some placed.token = some token then
          (do modify TokenStream.tail; return true : Reading Bool)
        else Pure.pure false) ⟨placed :: others, stop⟩ := rfl
    rw [haccept]
    split_ifs
    · exact TokenStream.isBehind_tail ⟨placed :: others, stop⟩
    · exact .refl _

theorem checked (position : Nat) (result : Except CallFault JsonExpr) :
    Leaves (Reading.checked position result) := by
  cases result with
  | ok expr => exact TokenStream.IsBehind.refl
  | error fault => exact failAt (.call fault) position

end Leaves

/-! ## Counters -/

/-- Between two steps, or behind an error: all levels are left but `depth` many,
and as many calls are active. -/
structure Count.Settled (depth : Nat) (stream : TokenStream) (count : Count) :
    Prop where
  stream_eq : count.stream = stream
  depth_eq : count.depth = depth
  active_eq : count.active = depth

theorem Count.At.settled {peak : Nat} {stream : TokenStream} {count : Count}
    (h : count.At S maxDepth depth peak stream) : count.Settled depth stream :=
  ⟨h.stream_eq, h.depth_eq, h.active_eq⟩

/-- The two readers leave the same tokens, which are the last ones of those that
they were given, and the counters are settled, however the readers end. -/
def Recovers (S : Nat → Prop) (maxDepth depth : Nat) (reading : Reading α)
    (counting : Counting β) : Prop :=
  ∀ peak stream count, depth ≤ peak →
    Count.At S maxDepth depth peak stream count →
      (left (reading stream)).IsBehind stream ∧
        (left (counting count)).Settled depth (left (reading stream))

namespace Recovers

variable {reading : Reading α} {counting : Counting β}
  {P : α → β → Nat → Prop}

theorem pure (value : α) (value' : β) :
    Recovers S maxDepth depth (Pure.pure value) (Pure.pure value') :=
  fun _ _ _ _ hcount => ⟨.refl _, hcount.settled⟩

/-- That the counters follow the heights shows where the second reader
starts. -/
theorem bind {next : α → Reading α'} {next' : β → Counting β'}
    (h : Recovers S maxDepth depth reading counting)
    (htracks : Tracks S maxDepth depth reading counting P)
    (hnext : ∀ value value' height, P value value' height →
      Recovers S maxDepth depth (next value) (next' value')) :
    Recovers S maxDepth depth (reading >>= next) (counting >>= next') := by
  intro peak stream count hpeak hcount
  have hfirst := h peak stream count hpeak hcount
  have hfollows := htracks peak stream count hpeak hcount
  cases hreading : reading stream with
  | error error rest =>
    rw [hreading] at hfirst hfollows
    obtain ⟨-, count', hcounting⟩ := hfollows.exists_error
    rw [hcounting] at hfirst
    rw [bind_of_eq_error hreading, bind_of_eq_error hcounting]
    exact hfirst
  | ok value middle =>
    rw [hreading] at hfirst hfollows
    obtain ⟨value', count', hcounting, height, hvalue, hmiddle⟩ :=
      hfollows.exists_ok
    have hpeak' : depth ≤ max peak (depth + height) := by omega
    have hsecond :=
      hnext value value' height hvalue _ middle count' hpeak' hmiddle
    rw [bind_of_eq_ok hreading, bind_of_eq_ok hcounting]
    exact ⟨hsecond.1.trans hfirst.1, hsecond.2⟩

theorem lift {reader : Reading α} (h : Leaves reader) :
    Recovers S maxDepth depth reader (Counting.lift reader) := by
  rintro peak stream count - ⟨rfl, -, hdepth, -, hactive, -⟩
  refine ⟨h count.stream, ?_⟩
  unfold Counting.lift
  cases reader count.stream <;> exact ⟨rfl, hdepth, hactive⟩

theorem lift_bind {reader : Reading α} {R : α → Prop} (h : Leaves reader)
    (hstays : Stays S reader R) {next : α → Reading α'}
    {next' : α → Counting β'}
    (hnext : ∀ value, R value →
      Recovers S maxDepth depth (next value) (next' value)) :
    Recovers S maxDepth depth (reader >>= next)
      (Counting.lift reader >>= next') := by
  apply (lift h).bind (Tracks.lift hstays)
  rintro _ value _ ⟨rfl, -, hvalue⟩
  exact hnext value hvalue

theorem get_bind {next : TokenStream → Reading α'} {next' : Count → Counting β'}
    (hnext : ∀ count : Count, count.depth = depth →
      Recovers S maxDepth depth (next count.stream) (next' count)) :
    Recovers S maxDepth depth (MonadState.get >>= next)
      (MonadState.get >>= next') := by
  intro peak stream count hpeak hcount
  obtain rfl := hcount.stream_eq
  exact hnext count hcount.depth_eq peak count.stream count hpeak hcount

theorem failAt (fault : SyntaxFault) (position : Nat) :
    Recovers S maxDepth depth (Reading.failAt fault position : Reading α)
      (Counting.lift (Reading.failAt fault position) : Counting β) :=
  fun _ _ _ _ hcount => ⟨.refl _, hcount.settled⟩

theorem fail (fault : SyntaxFault) :
    Recovers S maxDepth depth (Reading.fail fault : Reading α)
      (Counting.lift (Reading.fail fault) : Counting β) := by
  intro peak stream count _ hcount
  obtain rfl := hcount.stream_eq
  exact ⟨.refl _, hcount.settled⟩

/-! ### Levels -/

theorem measure (h : Recovers S maxDepth depth reading counting) :
    Recovers S maxDepth depth reading (Counting.measure counting) := by
  rintro peak stream count hpeak
    ⟨hstream, hwithin, hdepth, -, hactive, hmost⟩
  have hentered : Count.At S maxDepth depth depth stream
      { count with peak := count.depth } :=
    ⟨hstream, hwithin, hdepth, hdepth, hactive, hmost⟩
  obtain ⟨hbehind, hsettled⟩ := h depth stream _ (Nat.le_refl depth) hentered
  refine ⟨hbehind, ?_⟩
  rw [Counting.measure_eq]
  generalize counting { count with peak := count.depth } = result at hsettled ⊢
  cases result with
  | error halt after => exact hsettled
  | ok value after =>
    dsimp only
    split_ifs
    · exact hsettled
    · exact ⟨hsettled.stream_eq, hsettled.depth_eq, hsettled.active_eq⟩

theorem within {room level : Nat} (operand : Operand) :
    Recovers S maxDepth depth (Reading.within room operand)
      (Counting.reach maxDepth level) := by
  intro peak stream count _ hcount
  have hleft : left (Reading.within room operand stream) = stream := by
    unfold Reading.within
    split_ifs <;> rfl
  rw [hleft, Counting.reach, get_bind_eq]
  refine ⟨.refl _, ?_⟩
  obtain rfl := hcount.stream_eq
  split_ifs
  · exact hcount.settled
  · exact ⟨rfl, hcount.depth_eq, hcount.active_eq⟩

theorem within_bind {room : Nat} (hroom : room + depth = maxDepth)
    {operand : Operand} {next : Operand → Reading α'} {next' : Counting β'}
    (hnext : Recovers S maxDepth depth (next operand) next') :
    Recovers S maxDepth depth (Reading.within room operand >>= next)
      (do
        Counting.reach maxDepth ((← MonadState.get).depth + operand.height)
        next') := by
  have hreach : Recovers S maxDepth depth (Reading.within room operand >>= next)
      (do Counting.reach maxDepth (depth + operand.height); next') := by
    apply (within operand).bind (Tracks.within hroom operand)
    rintro _ _ _ ⟨rfl, -⟩
    exact hnext
  intro peak stream count hpeak hcount
  rw [get_bind_eq, hcount.depth_eq]
  exact hreach peak stream count hpeak hcount

/-- However a call ends, the level that it has entered is left. -/
theorem call (hdepth : depth < maxDepth)
    (h : Recovers S maxDepth (depth + 1) reading counting) :
    Recovers S maxDepth depth reading
      (Counting.call do Counting.descend maxDepth; counting) := by
  intro peak stream count hpeak hcount
  have hroom : count.depth < maxDepth := by rwa [hcount.depth_eq]
  obtain ⟨hbehind, hsettled⟩ :=
    h _ stream _ (Nat.le_max_right peak _) (hcount.entered hdepth)
  refine ⟨hbehind, ?_⟩
  rw [Counting.call, Counting.descend_bind_eq hroom]
  generalize counting count.entered = result at hsettled ⊢
  cases result <;>
    exact ⟨hsettled.stream_eq, hcount.depth_eq, hcount.active_eq⟩

/-- Where no level is left, a call leaves everything as it was. -/
theorem call_of_le (hdepth : maxDepth ≤ depth) :
    Recovers S maxDepth depth (Reading.fail .tooDeep : Reading α)
      (Counting.call do Counting.descend maxDepth; counting) := by
  intro peak stream count _ hcount
  have hroom : maxDepth ≤ count.enterCall.depth :=
    Nat.le_trans hdepth (Nat.le_of_eq hcount.depth_eq.symm)
  have hbody : (do Counting.descend maxDepth; counting) count.enterCall =
      .error (.fault ⟨.tooDeep, count.enterCall.stream.position⟩)
        count.enterCall := by
    apply bind_of_eq_error
    rw [Counting.descend_eq, if_pos hroom]
  rw [Counting.call, hbody]
  exact ⟨.refl _, hcount.stream_eq, hcount.depth_eq, hcount.active_eq⟩

end Recovers

/-! ## Lists and chains -/

section

variable {bare : α → β} {height : α → Nat} {item : Reading α}
  {item' : Counting β}
  (htracks : Tracks S maxDepth depth item item' (Reads bare height))
  (hitem : Recovers S maxDepth depth item item')

include htracks hitem

theorem recovers_itemsAfter (close : Token) (unclosed : SyntaxFault)
    (turns : List PlacedToken) (before : List α) :
    Recovers S maxDepth depth (itemsAfter item close unclosed turns before)
      (Counting.itemsAfter item' close unclosed turns (before.map bare)) := by
  induction turns generalizing before with
  | nil => exact Recovers.fail unclosed
  | cons turn turns ih =>
    apply Recovers.lift_bind Leaves.position Stays.position
    intro position _
    apply Recovers.lift_bind Leaves.next? Stays.next?
    intro found _
    cases found with
    | none => exact Recovers.failAt unclosed position
    | some token =>
      dsimp only
      by_cases hcomma : token = .comma
      · rw [if_pos hcomma, if_pos hcomma]
        apply hitem.bind htracks
        rintro value _ _ ⟨rfl, -⟩
        exact ih (value :: before)
      · rw [if_neg hcomma, if_neg hcomma]
        split_ifs
        · exact Recovers.pure _ _
        · exact Recovers.failAt unclosed position

theorem recovers_items (close : Token) (atEnd unclosed : SyntaxFault) :
    Recovers S maxDepth depth (items item close atEnd unclosed)
      (Counting.items item' close atEnd unclosed) := by
  apply Recovers.lift_bind Leaves.peek? Stays.peek?
  intro found _
  cases found with
  | none => exact Recovers.fail atEnd
  | some token =>
    dsimp only
    by_cases hclose : token = close
    · rw [if_pos hclose, if_pos hclose]
      exact Recovers.lift_bind Leaves.tail Stays.tail fun _ _ =>
        Recovers.pure _ _
    · rw [if_neg hclose, if_neg hclose]
      apply hitem.bind htracks
      rintro first _ _ ⟨rfl, -⟩
      apply Recovers.get_bind
      intro count _
      exact recovers_itemsAfter htracks hitem close unclosed _ [first]

end

section

variable {room : Nat} (hroom : room + depth = maxDepth)
  {operand : Reading Operand} {operand' : Counting JsonExpr}
  (htracks : TracksOperand S maxDepth depth operand operand')
  (hoperand : Recovers S maxDepth depth operand operand')

include hroom htracks hoperand

theorem recovers_chainAfter (tier : Tier) (turns : List PlacedToken)
    (leftmost : Operand) :
    Recovers S maxDepth depth (chainAfter tier operand room turns leftmost)
      (Counting.chainAfter maxDepth tier operand' turns leftmost.expr
        leftmost.height) := by
  induction turns generalizing leftmost with
  | nil => exact Recovers.pure _ _
  | cons turn turns ih =>
    apply Recovers.lift_bind (Leaves.acceptSome _) (Stays.acceptSome _)
    intro found _
    cases found with
    | none => exact Recovers.pure _ _
    | some op =>
      apply hoperand.measure.bind htracks.measure
      rintro right ⟨_, _⟩ _ ⟨⟨rfl, rfl⟩, rfl⟩
      exact Recovers.within_bind hroom (ih (joined op leftmost right))

theorem recovers_chain (tier : Tier) :
    Recovers S maxDepth depth (chain tier operand room)
      (Counting.chain maxDepth tier operand') := by
  apply hoperand.measure.bind htracks.measure
  rintro first ⟨_, _⟩ _ ⟨⟨rfl, rfl⟩, rfl⟩
  apply Recovers.get_bind
  intro count _
  exact recovers_chainAfter hroom htracks hoperand tier count.stream.tokens first

theorem recovers_expressionOf :
    Recovers S maxDepth depth (expressionOf operand room)
      (Counting.expressionOf maxDepth operand') :=
  recovers_chain hroom (tracks_chain hroom .comparison htracks)
    (recovers_chain hroom htracks hoperand .comparison) .logical

end

/-! ## Atoms and suffixes -/

section

variable {expression : Reading Operand} {expression' : Counting JsonExpr}
  (htracks : TracksOperand S maxDepth depth expression expression')
  (hexpression : Recovers S maxDepth depth expression expression')

include htracks hexpression

theorem recovers_argument :
    Recovers S maxDepth depth (argument expression)
      (Counting.argument expression') := by
  have hplain : Recovers S maxDepth depth
      (do return Argument.plain (← expression))
      (do return Argument.plain ⟨← expression', 0⟩) :=
    hexpression.bind htracks fun _ _ _ _ => Recovers.pure _ _
  apply Recovers.get_bind
  intro count _
  generalize count.stream.tokens = tokens
  rcases tokens with _ | ⟨⟨_, token⟩, _ | ⟨⟨_, token'⟩, others⟩⟩
  · exact hplain
  · cases token <;> exact hplain
  · cases token with
    | name element =>
      cases token' with
      | arrow =>
        apply Recovers.lift_bind Leaves.tail_tail Stays.tail_tail
        intro _ _
        exact hexpression.bind htracks fun _ _ _ _ => Recovers.pure _ _
      | _ => exact hplain
    | _ => exact hplain

theorem recovers_arguments :
    Recovers S maxDepth depth (arguments expression)
      (Counting.arguments expression') :=
  recovers_items (tracks_argument htracks)
    (recovers_argument htracks hexpression) .closeParen .endInArguments
    .unclosedArguments

theorem recovers_atom :
    Recovers S maxDepth depth (atom expression) (Counting.atom expression') := by
  apply Recovers.lift_bind Leaves.position Stays.position
  intro start hstart
  apply Recovers.lift_bind Leaves.next? Stays.next?
  intro found _
  cases found with
  | none => exact Recovers.fail .endOfExpression
  | some token =>
    cases token with
    | literal value => exact Recovers.pure _ _
    | name text =>
      apply Recovers.lift_bind (Leaves.accept .openParen) (Stays.accept .openParen)
      intro called _
      cases called with
      | false => exact Recovers.pure _ _
      | true =>
        apply (recovers_arguments htracks hexpression).bind
          (tracks_arguments htracks)
        rintro values _ _ ⟨rfl, -⟩
        rw [Call.function_bare, ← bind_pure (Counting.lift _)]
        exact Recovers.lift_bind (Leaves.checked start _)
          (Stays.checked hstart _) fun _ _ => Recovers.pure _ _
    | openParen =>
      apply hexpression.bind htracks
      rintro inner _ _ ⟨rfl, -⟩
      apply Recovers.lift_bind Leaves.next? Stays.next?
      intro close _
      split_ifs
      · exact Recovers.pure _ _
      · exact Recovers.failAt .unclosedGroup start
    | openBracket =>
      have hitems := recovers_items htracks hexpression .closeBracket .endInArray
        .unclosedArray
      exact hitems.bind (tracks_items htracks .closeBracket .endInArray
        .unclosedArray) fun _ _ _ _ => Recovers.pure _ _
    | _ => exact Recovers.failAt _ start

theorem recovers_member (object : Operand) :
    Recovers S maxDepth depth (member expression object)
      (Counting.member expression' object.expr object.height) := by
  apply Recovers.lift_bind Leaves.position Stays.position
  intro start hstart
  apply Recovers.lift_bind Leaves.next? Stays.next?
  intro found _
  cases found with
  | none => exact Recovers.failAt .missingName start
  | some token =>
    cases token with
    | name text =>
      apply Recovers.lift_bind (Leaves.accept .openParen) (Stays.accept .openParen)
      intro called _
      cases called with
      | true =>
        apply (recovers_arguments htracks hexpression).measure.bind
          (tracks_arguments htracks).measure
        rintro values ⟨_, _⟩ _ ⟨⟨rfl, rfl⟩, rfl⟩
        dsimp only
        rw [Call.method_bare]
        exact Recovers.lift_bind (Leaves.checked start _)
          (Stays.checked hstart _) fun _ _ => Recovers.pure _ _
      | false =>
        by_cases hlength : text = "length"
        · simp only [Bool.false_eq_true, if_false, if_pos hlength]
          exact Recovers.pure _ _
        · simp only [Bool.false_eq_true, if_false, if_neg hlength]
          exact Recovers.pure _ _
    | _ => exact Recovers.failAt .missingName start

theorem recovers_key (object : Operand) :
    Recovers S maxDepth depth (key expression object)
      (Counting.key expression' object.expr object.height) := by
  apply hexpression.measure.bind htracks.measure
  rintro inner ⟨_, _⟩ _ ⟨⟨rfl, rfl⟩, rfl⟩
  apply Recovers.lift_bind Leaves.next? Stays.next?
  intro close _
  split_ifs
  · exact Recovers.pure _ _
  · exact Recovers.fail .missingBracket

variable {room : Nat} (hroom : room + depth = maxDepth)

include hroom

theorem recovers_suffixes (turns : List PlacedToken) (object : Operand) :
    Recovers S maxDepth depth (suffixes expression room turns object)
      (Counting.suffixes maxDepth expression' turns object.expr
        object.height) := by
  induction turns generalizing object with
  | nil => exact Recovers.pure _ _
  | cons turn turns ih =>
    have hnext {reading : Reading Operand} {counting : Counting Operand}
        (hsuffix : Recovers S maxDepth depth reading counting)
        (htracks : TracksSuffix S maxDepth depth object reading counting) :
        Recovers S maxDepth depth
          (do
            let next ← reading
            suffixes expression room turns (← within room next))
          (do
            let below ← counting
            Counting.reach maxDepth ((← get).depth + (below.height + 1))
            Counting.suffixes maxDepth expression' turns below.expr
              (below.height + 1)) := by
      apply hsuffix.bind htracks
      rintro next below _ ⟨hexpr, hheight, -, -⟩
      rw [hexpr, hheight]
      exact Recovers.within_bind hroom (ih next)
    apply Recovers.lift_bind (Leaves.accept .dot) (Stays.accept .dot)
    intro dotted _
    cases dotted with
    | true =>
      exact hnext (recovers_member htracks hexpression object)
        (tracks_member htracks object)
    | false =>
      apply Recovers.lift_bind (Leaves.accept .openBracket)
        (Stays.accept .openBracket)
      intro bracketed _
      cases bracketed with
      | true =>
        exact hnext (recovers_key htracks hexpression object)
          (tracks_key htracks object)
      | false => exact Recovers.pure _ _

theorem recovers_accessor :
    Recovers S maxDepth depth (accessor expression room)
      (Counting.accessor maxDepth expression') := by
  apply (recovers_atom htracks hexpression).measure.bind
    (tracks_atom htracks).measure
  rintro first ⟨_, _⟩ _ ⟨⟨rfl, rfl⟩, rfl⟩
  apply Recovers.get_bind
  intro count _
  exact recovers_suffixes htracks hexpression hroom count.stream.tokens first

end

/-! ## Expressions -/

theorem recovers_operandOf {room : Nat} (hroom : room + depth = maxDepth)
    {counting : Counting JsonExpr}
    (htracks : TracksOperand S maxDepth depth (negated room) counting)
    (hnegated : Recovers S maxDepth depth (negated room) counting) :
    Recovers S maxDepth depth (negated (room + 1))
      (Counting.operandOf maxDepth counting) := by
  apply Recovers.lift_bind (Leaves.acceptSome _) (Stays.acceptSome _)
  intro found _
  cases found with
  | some op => exact hnegated.bind htracks fun _ _ _ _ => Recovers.pure _ _
  | none =>
    have hexpression := tracks_expressionOf hroom htracks
    have haccessor := recovers_accessor hexpression
      (recovers_expressionOf hroom htracks hnegated) hroom
    dsimp only
    rw [← bind_pure (Counting.accessor _ _)]
    exact haccessor.bind (tracks_accessor hroom hexpression) fun _ _ _ _ =>
      Recovers.pure _ _

theorem recovers_negated (room : Nat) {depth : Nat}
    (hroom : room + depth = maxDepth) :
    Recovers S maxDepth depth (negated room)
      (Counting.negated maxDepth (room + 1)) := by
  induction room generalizing depth with
  | zero => exact Recovers.call_of_le (by omega)
  | succ room ih =>
    have hinside : room + (depth + 1) = maxDepth := by omega
    exact (recovers_operandOf hinside (tracks_negated room hinside)
      (ih hinside)).call (by omega)

/-- A reader of expressions recovers from every error. -/
theorem recovers_expression (maxDepth : Nat) :
    Recovers S maxDepth 0 (expression maxDepth)
      (Counting.expression maxDepth) := by
  have hroom : maxDepth + 0 = maxDepth := Nat.add_zero maxDepth
  have hnegated := @tracks_negated S maxDepth maxDepth 0 hroom
  rw [← bind_pure (Counting.expression maxDepth)]
  exact (recovers_expressionOf hroom hnegated (recovers_negated maxDepth hroom)).bind
    (tracks_expressionOf hroom hnegated) fun _ _ _ _ => Recovers.pure _ _

theorem recovers_complete (maxDepth : Nat) :
    Recovers S maxDepth 0 (complete maxDepth) (Counting.complete maxDepth) := by
  apply (recovers_expression maxDepth).bind (tracks_expression maxDepth)
  rintro expr _ _ rfl
  apply Recovers.get_bind
  intro count _
  split_ifs
  · exact Recovers.pure _ _
  · exact Recovers.fail .trailingTokens

end DocFilter
