import DocFilter.Proofs.Grammar.Soundness
import DocFilter.Proofs.Guarded.Counting

/-!
# The counters follow the heights

A reader with counters ends like the reader that returns heights.  While it
reads, the deepest level that it has reached is the number of levels entered
and the height of what is being read, so the difference is this height and is
never negative.  There are never more active calls than levels may be entered,
and every error stands at a token or at the end of the text.
-/

namespace DocFilter

open Reading

variable {α β α' β' : Type} {S : Nat → Prop} {maxDepth depth : Nat}

/-! ## Positions -/

/-- All positions that a stream can report satisfy `S`. -/
structure TokenStream.Within (stream : TokenStream) (S : Nat → Prop) :
    Prop where
  offset : ∀ placed ∈ stream.tokens, S placed.offset
  stop : S stream.stop

theorem TokenStream.Within.position {stream : TokenStream}
    (h : stream.Within S) : S stream.position := by
  obtain ⟨tokens, stop⟩ := stream
  cases tokens with
  | nil => exact h.stop
  | cons placed others => exact h.offset placed List.mem_cons_self

theorem TokenStream.Within.tail {stream : TokenStream} (h : stream.Within S) :
    stream.tail.Within S where
  offset placed hplaced := h.offset placed (List.mem_of_mem_tail hplaced)
  stop := h.stop

/-- A reader of tokens reports only positions that satisfy `S`, and leaves only
such positions.  Its value satisfies `R`. -/
def Stays (S : Nat → Prop) (reader : Reading α) (R : α → Prop) : Prop :=
  ∀ stream : TokenStream, stream.Within S →
    match reader stream with
    | .ok value rest => rest.Within S ∧ R value
    | .error error _ => S error.position

namespace Stays

theorem failAt {position : Nat} (h : S position) (fault : SyntaxFault)
    (R : α → Prop) : Stays S (Reading.failAt fault position) R :=
  fun _ _ => h

theorem position : Stays S Reading.position S :=
  fun _ h => ⟨h, h.position⟩

theorem tail : Stays S (modify TokenStream.tail) fun _ => True :=
  fun _ h => ⟨h.tail, trivial⟩

theorem tail_tail :
    Stays S (modify fun stream => stream.tail.tail) fun _ => True :=
  fun _ h => ⟨h.tail.tail, trivial⟩

theorem peek? : Stays S Reading.peek? fun _ => True := by
  rintro ⟨tokens, stop⟩ h
  cases tokens <;> exact ⟨h, trivial⟩

theorem next? : Stays S Reading.next? fun _ => True := by
  rintro ⟨tokens, stop⟩ h
  cases tokens <;> exact ⟨h.tail, trivial⟩

theorem acceptSome (meaning : Token → Option α) :
    Stays S (Reading.acceptSome meaning) fun _ => True := by
  rintro ⟨tokens, stop⟩ h
  cases tokens with
  | nil => exact ⟨h, trivial⟩
  | cons placed others =>
    cases hmeaning : meaning placed.token with
    | none =>
      rw [acceptSome_of_eq_none hmeaning]
      exact ⟨h, trivial⟩
    | some value =>
      rw [acceptSome_of_eq_some hmeaning]
      exact ⟨h.tail, trivial⟩

theorem accept (token : Token) :
    Stays S (Reading.accept token) fun _ => True := by
  rintro ⟨tokens, stop⟩ h
  cases tokens with
  | nil => exact ⟨h, trivial⟩
  | cons placed others =>
    have haccept : Reading.accept token ⟨placed :: others, stop⟩ =
        (if some placed.token = some token then
          (do modify TokenStream.tail; return true : Reading Bool)
        else Pure.pure false) ⟨placed :: others, stop⟩ := rfl
    rw [haccept]
    split_ifs
    · exact ⟨h.tail, trivial⟩
    · exact ⟨h, trivial⟩

theorem checked {position : Nat} (h : S position)
    (result : Except CallFault JsonExpr) :
    Stays S (Reading.checked position result) fun _ => True := by
  cases result with
  | ok expr => exact fun _ hstream => ⟨hstream, trivial⟩
  | error fault => exact failAt h (.call fault) _

end Stays

/-! ## Counters -/

namespace Counting

theorem descend_eq (maxDepth : Nat) (count : Count) :
    descend maxDepth count =
      if maxDepth ≤ count.depth then
        .error (.fault ⟨.tooDeep, count.stream.position⟩) count
      else
        .ok () { count with
          depth := count.depth + 1
          peak := max count.peak (count.depth + 1) } := by
  rw [descend, get_bind_eq]
  split_ifs <;> rfl

theorem measure_eq (counting : Counting α) (count : Count) :
    measure counting count =
      match counting { count with peak := count.depth } with
      | .ok value after =>
        if after.peak < after.depth then .error .defect after
        else .ok (value, after.peak - after.depth)
          { after with peak := max after.peak count.peak }
      | .error halt after => .error halt after := by
  rw [measure, get_bind_eq, modify_bind_eq]
  cases hresult : counting { count with peak := count.depth } with
  | ok value after =>
    rw [bind_of_eq_ok hresult, get_bind_eq]
    dsimp only
    split_ifs <;> rfl
  | error halt after => rw [bind_of_eq_error hresult]

end Counting

/-- The counters between two steps: as many calls are active as levels have
been entered, and never have been more than levels may be entered. -/
structure Count.At (S : Nat → Prop) (maxDepth depth peak : Nat)
    (stream : TokenStream) (count : Count) : Prop where
  stream_eq : count.stream = stream
  within : stream.Within S
  depth_eq : count.depth = depth
  peak_eq : count.peak = peak
  active_eq : count.active = depth
  mostActive_le : count.mostActive ≤ maxDepth

/-- The counters on the level that a call enters. -/
def Count.entered (count : Count) : Count :=
  { count.enterCall with
    depth := count.depth + 1
    peak := max count.peak (count.depth + 1) }

theorem Count.At.entered {peak : Nat} {stream : TokenStream} {count : Count}
    (h : count.At S maxDepth depth peak stream) (hdepth : depth < maxDepth) :
    count.entered.At S maxDepth (depth + 1) (max peak (depth + 1)) stream := by
  refine ⟨h.stream_eq, h.within, congrArg (· + 1) h.depth_eq, ?_,
    congrArg (· + 1) h.active_eq, ?_⟩
  · rw [← h.peak_eq, ← h.depth_eq]
    rfl
  · have hactive := h.active_eq
    exact Nat.max_le.mpr ⟨h.mostActive_le, by omega⟩

/-- Where a level is left, a call is made on it. -/
theorem Counting.descend_bind_eq {count : Count} (h : count.depth < maxDepth)
    (counting : Counting β) :
    (do descend maxDepth; counting) count.enterCall = counting count.entered := by
  have hroom : ¬maxDepth ≤ count.enterCall.depth := Nat.not_le.mpr h
  apply bind_of_eq_ok
  rw [Counting.descend_eq, if_neg hroom]
  rfl

/-- The reader with counters ends like the other one.  Where they return, `P`
relates the values and the height that has been reached above the levels
entered. -/
def Tracks (S : Nat → Prop) (maxDepth depth : Nat) (reading : Reading α)
    (counting : Counting β) (P : α → β → Nat → Prop) : Prop :=
  ∀ peak stream count, depth ≤ peak →
    Count.At S maxDepth depth peak stream count →
      Follows (fun error => S error.position)
        (fun value rest value' count' => ∃ height, P value value' height ∧
          Count.At S maxDepth depth (max peak (depth + height)) rest count')
        (reading stream) (counting count)

namespace Tracks

variable {reading : Reading α} {counting : Counting β}
  {P : α → β → Nat → Prop} {Q : α' → β' → Nat → Prop}

theorem mono {P' : α → β → Nat → Prop}
    (h : Tracks S maxDepth depth reading counting P)
    (hP : ∀ value value' height, P value value' height →
      P' value value' height) :
    Tracks S maxDepth depth reading counting P' := by
  intro peak stream count hpeak hcount
  apply (h peak stream count hpeak hcount).mono
  rintro value rest value' count' ⟨height, hvalue, hrest⟩
  exact ⟨height, hP _ _ _ hvalue, hrest⟩

theorem pure {value : α'} {value' : β'} (h : Q value value' 0) :
    Tracks S maxDepth depth (Pure.pure value) (Pure.pure value') Q := by
  intro peak stream count hpeak hcount
  refine .ok ⟨0, h, ?_⟩
  rw [Nat.add_zero, Nat.max_eq_left hpeak]
  exact hcount

/-- The greater height of two readers counts. -/
theorem bind {next : α → Reading α'} {next' : β → Counting β'}
    (h : Tracks S maxDepth depth reading counting P)
    (hnext : ∀ value value' height, P value value' height →
      Tracks S maxDepth depth (next value) (next' value')
        fun result result' height' => Q result result' (max height height')) :
    Tracks S maxDepth depth (reading >>= next) (counting >>= next') Q := by
  intro peak stream count hpeak hcount
  apply (h peak stream count hpeak hcount).bind
  rintro value middle value' count' ⟨height, hvalue, hmiddle⟩
  have hpeak' : depth ≤ max peak (depth + height) := by omega
  apply (hnext value value' height hvalue _ middle count' hpeak' hmiddle).mono
  rintro result rest result' count'' ⟨height', hresult, hrest⟩
  refine ⟨max height height', hresult, ?_⟩
  -- The second reader starts at the peak of the first one and only raises it.
  have hmax : max (max peak (depth + height)) (depth + height') =
      max peak (depth + max height height') := by omega
  rwa [hmax] at hrest

/-- A reader of tokens reaches no height. -/
theorem lift {reader : Reading α} {R : α → Prop} (h : Stays S reader R) :
    Tracks S maxDepth depth reader (Counting.lift reader)
      fun value value' height => value' = value ∧ height = 0 ∧ R value := by
  rintro peak stream count hpeak
    ⟨rfl, hwithin, hdepth, hpeakEq, hactive, hmost⟩
  have hstays := h count.stream hwithin
  unfold Counting.lift
  generalize reader count.stream = result at hstays ⊢
  cases result with
  | ok value rest =>
    refine .ok ⟨0, ⟨rfl, rfl, hstays.2⟩, rfl, hstays.1, hdepth, ?_, hactive,
      hmost⟩
    rw [Nat.add_zero, Nat.max_eq_left hpeak]
    exact hpeakEq
  | error error rest => exact .error hstays

theorem lift_bind {reader : Reading α} {R : α → Prop} (h : Stays S reader R)
    {next : α → Reading α'} {next' : α → Counting β'}
    (hnext : ∀ value, R value →
      Tracks S maxDepth depth (next value) (next' value) Q) :
    Tracks S maxDepth depth (reader >>= next) (Counting.lift reader >>= next')
      Q := by
  apply (lift h).bind
  rintro _ value _ ⟨rfl, rfl, hvalue⟩
  apply (hnext value hvalue).mono
  intro result result' height hresult
  rwa [Nat.zero_max]

/-- What is left of the tokens and the levels entered can be looked at. -/
theorem get_bind {next : TokenStream → Reading α'} {next' : Count → Counting β'}
    (hnext : ∀ count : Count, count.depth = depth →
      Tracks S maxDepth depth (next count.stream) (next' count) Q) :
    Tracks S maxDepth depth (MonadState.get >>= next)
      (MonadState.get >>= next') Q := by
  intro peak stream count hpeak hcount
  obtain rfl := hcount.stream_eq
  exact hnext count hcount.depth_eq peak count.stream count hpeak hcount

theorem failAt {position : Nat} (h : S position) (fault : SyntaxFault) :
    Tracks S maxDepth depth (Reading.failAt fault position)
      (Counting.lift (Reading.failAt fault position)) Q :=
  fun _ _ _ _ _ => .error h

theorem fail (fault : SyntaxFault) :
    Tracks S maxDepth depth (Reading.fail fault)
      (Counting.lift (Reading.fail fault)) Q := by
  rintro peak stream count - ⟨rfl, hwithin, -⟩
  exact .error hwithin.position

/-! ### Levels -/

/-- What is measured has the height that it reaches. -/
theorem measure (h : Tracks S maxDepth depth reading counting P) :
    Tracks S maxDepth depth reading (Counting.measure counting)
      fun value measured height =>
        P value measured.1 height ∧ measured.2 = height := by
  rintro peak stream count hpeak
    ⟨hstream, hwithin, hdepth, hpeakEq, hactive, hmost⟩
  have hentered : Count.At S maxDepth depth depth stream
      { count with peak := count.depth } :=
    ⟨hstream, hwithin, hdepth, hdepth, hactive, hmost⟩
  have hfollows := h depth stream _ (Nat.le_refl depth) hentered
  rw [Counting.measure_eq]
  generalize reading stream = result at hfollows ⊢
  generalize counting { count with peak := count.depth } = result' at hfollows ⊢
  cases hfollows with
  | error herror => exact .error herror
  | @ok value rest value' after hvalue =>
    obtain ⟨height, hvalue, hafter⟩ := hvalue
    have hheight : after.peak = after.depth + height := by
      rw [hafter.peak_eq, hafter.depth_eq]
      omega
    have hdefect : ¬after.peak < after.depth := by omega
    have hsub : after.peak - after.depth = height := by omega
    simp only [if_neg hdefect, hsub]
    refine .ok ⟨height, ⟨hvalue, rfl⟩, hafter.stream_eq, hafter.within,
      hafter.depth_eq, ?_, hafter.active_eq, hafter.mostActive_le⟩
    rw [hheight, hafter.depth_eq, hpeakEq, Nat.max_comm]

/-- To reach a level is to have room for it. -/
theorem within {room : Nat} (hroom : room + depth = maxDepth)
    (operand : Operand) :
    Tracks S maxDepth depth (Reading.within room operand)
      (Counting.reach maxDepth (depth + operand.height))
      fun result _ height => result = operand ∧ height = operand.height := by
  rintro peak stream count hpeak
    ⟨rfl, hwithin, hdepth, hpeakEq, hactive, hmost⟩
  rw [Counting.reach, get_bind_eq]
  by_cases hheight : operand.height ≤ room
  · have hlevel : ¬maxDepth < depth + operand.height := by omega
    rw [Reading.within, if_pos hheight, if_neg hlevel]
    refine .ok ⟨operand.height, ⟨rfl, rfl⟩, rfl, hwithin, hdepth, ?_, hactive,
      hmost⟩
    rw [hpeakEq]
  · have hlevel : maxDepth < depth + operand.height := by omega
    rw [Reading.within, if_neg hheight, if_pos hlevel]
    exact .error hwithin.position

theorem within_bind {room : Nat} (hroom : room + depth = maxDepth)
    {operand : Operand} {next : Operand → Reading α'} {next' : Counting β'}
    (hnext : Tracks S maxDepth depth (next operand) next'
      fun result result' height =>
        Q result result' (max operand.height height)) :
    Tracks S maxDepth depth (Reading.within room operand >>= next)
      (do
        Counting.reach maxDepth ((← MonadState.get).depth + operand.height)
        next') Q := by
  have hreach : Tracks S maxDepth depth (Reading.within room operand >>= next)
      (do Counting.reach maxDepth (depth + operand.height); next') Q := by
    apply (within hroom operand).bind
    rintro _ _ _ ⟨rfl, rfl⟩
    exact hnext
  intro peak stream count hpeak hcount
  rw [get_bind_eq, hcount.depth_eq]
  exact hreach peak stream count hpeak hcount

/-- A call enters a level, and what it returns is one level higher. -/
theorem call (hdepth : depth < maxDepth)
    (h : Tracks S maxDepth (depth + 1) reading counting P) :
    Tracks S maxDepth depth reading
      (Counting.call do Counting.descend maxDepth; counting)
      fun value value' height =>
        ∃ inner, P value value' inner ∧ height = inner + 1 := by
  intro peak stream count hpeak hcount
  have hroom : count.depth < maxDepth := by rwa [hcount.depth_eq]
  have hfollows := h _ stream _ (Nat.le_max_right peak _) (hcount.entered hdepth)
  rw [Counting.call, Counting.descend_bind_eq hroom]
  generalize reading stream = result at hfollows ⊢
  generalize counting count.entered = result' at hfollows ⊢
  cases hfollows with
  | error herror => exact .error herror
  | @ok value rest value' after hvalue =>
    obtain ⟨height, hvalue, hafter⟩ := hvalue
    refine .ok ⟨height + 1, ⟨height, hvalue, rfl⟩, hafter.stream_eq,
      hafter.within, hcount.depth_eq, ?_, hcount.active_eq,
      hafter.mostActive_le⟩
    -- The level is left again, but the peak stays.
    change after.peak = _
    rw [hafter.peak_eq]
    omega

end Tracks

/-! ## Values and heights -/

/-- The value is what is left of the other one without its height, which is the
height that has been reached. -/
def Reads (bare : α → β) (height : α → Nat) (value : α) (value' : β)
    (reached : Nat) : Prop :=
  value' = bare value ∧ reached = height value

theorem Tracks.reads_bind {bare : α → β} {height : α → Nat}
    {reading : Reading α} {counting : Counting β}
    {next : α → Reading α'} {next' : β → Counting β'} {Q : α' → β' → Nat → Prop}
    (h : Tracks S maxDepth depth reading counting (Reads bare height))
    (hnext : ∀ value, Tracks S maxDepth depth (next value) (next' (bare value))
      fun result result' reached => Q result result' (max (height value) reached)) :
    Tracks S maxDepth depth (reading >>= next) (counting >>= next') Q := by
  apply h.bind
  rintro value _ _ ⟨rfl, rfl⟩
  exact hnext value

/-- Readers of operands with and without counters. -/
abbrev TracksOperand (S : Nat → Prop) (maxDepth depth : Nat)
    (reading : Reading Operand) (counting : Counting JsonExpr) : Prop :=
  Tracks S maxDepth depth reading counting
    (Reads Operand.expr Operand.height)

/-- An argument without its height. -/
def Argument.bare : Argument → Argument
  | .plain body => .plain ⟨body.expr, 0⟩
  | .arrow element body => .arrow element ⟨body.expr, 0⟩

theorem Call.scalar_bare (argument : Argument) :
    scalar argument.bare = scalar argument := by
  cases argument <;> rfl

/-- The heights of arguments do not matter to a call. -/
theorem Call.function_bare (name : String) (arguments : List Argument) :
    function name (arguments.map Argument.bare) = function name arguments := by
  have hmatching (style : PatternStyle) :
      matching style (arguments.map Argument.bare) = matching style arguments := by
    rcases arguments with _ | ⟨subject, _ | ⟨pattern, _ | ⟨third, others⟩⟩⟩
    · rfl
    · rfl
    · simp only [List.map_cons, List.map_nil, matching, scalar_bare]
    · rfl
  rw [function, hmatching, hmatching, List.length_map]
  rfl

theorem Call.method_bare (object : JsonExpr) (name : String)
    (arguments : List Argument) :
    method object name (arguments.map Argument.bare) =
      method object name arguments := by
  have hrecase (op : UnaryOp) (callee : Callee) :
      recase op callee object (arguments.map Argument.bare) =
        recase op callee object arguments := by
    cases arguments <;> rfl
  have hincludes : includes object (arguments.map Argument.bare) =
      includes object arguments := by
    rcases arguments with _ | ⟨needle, _ | ⟨second, others⟩⟩
    · rfl
    · simp only [List.map_cons, List.map_nil, includes, scalar_bare]
    · rfl
  have hquantified (quantifier : Quantifier) :
      quantified quantifier object (arguments.map Argument.bare) =
        quantified quantifier object arguments := by
    rcases arguments with _ | ⟨argument, _ | ⟨second, others⟩⟩
    · rfl
    · cases argument <;> rfl
    · cases argument <;> rfl
  rw [method, hrecase, hrecase, hincludes, hquantified, hquantified]
  rfl

/-! ## Lists of items -/

section

variable {bare : α → β} {height : α → Nat}

@[simp] theorem greatestOf_nil : greatestOf height [] = 0 := rfl

@[simp] theorem greatestOf_cons (value : α) (values : List α) :
    greatestOf height (value :: values) =
      max (height value) (greatestOf height values) :=
  greatest_cons (height value) (values.map height)

theorem greatestOf_append (before after : List α) :
    greatestOf height (before ++ after) =
      max (greatestOf height before) (greatestOf height after) := by
  induction before with
  | nil => simp
  | cons value before ih =>
    rw [List.cons_append, greatestOf_cons, greatestOf_cons, ih, Nat.max_assoc]

theorem greatestOf_reverse (values : List α) :
    greatestOf height values.reverse = greatestOf height values := by
  induction values with
  | nil => rfl
  | cons value values ih =>
    rw [List.reverse_cons, greatestOf_append, ih, greatestOf_cons,
      greatestOf_cons, greatestOf_nil, Nat.max_zero, Nat.max_comm]

theorem tracks_itemsAfter {item : Reading α} {item' : Counting β}
    (hitem : Tracks S maxDepth depth item item' (Reads bare height))
    (close : Token) (unclosed : SyntaxFault) (turns : List PlacedToken)
    (before : List α) :
    Tracks S maxDepth depth (itemsAfter item close unclosed turns before)
      (Counting.itemsAfter item' close unclosed turns (before.map bare))
      fun values values' reached => values' = values.map bare ∧
        max (greatestOf height before) reached = greatestOf height values := by
  induction turns generalizing before with
  | nil => exact Tracks.fail unclosed
  | cons turn turns ih =>
    apply Tracks.lift_bind Stays.position
    intro position hposition
    apply Tracks.lift_bind Stays.next?
    intro found _
    cases found with
    | none => exact Tracks.failAt hposition unclosed
    | some token =>
      dsimp only
      by_cases hcomma : token = .comma
      · rw [if_pos hcomma, if_pos hcomma]
        apply hitem.reads_bind
        intro value
        apply (ih (value :: before)).mono
        rintro values _ reached ⟨rfl, hreached⟩
        rw [greatestOf_cons] at hreached
        exact ⟨rfl, by omega⟩
      · rw [if_neg hcomma, if_neg hcomma]
        by_cases hclose : token = close
        · rw [if_pos hclose, if_pos hclose]
          refine Tracks.pure ⟨List.map_reverse.symm, ?_⟩
          rw [greatestOf_reverse, Nat.max_zero]
        · rw [if_neg hclose, if_neg hclose]
          exact Tracks.failAt hposition unclosed

theorem tracks_items {item : Reading α} {item' : Counting β}
    (hitem : Tracks S maxDepth depth item item' (Reads bare height))
    (close : Token) (atEnd unclosed : SyntaxFault) :
    Tracks S maxDepth depth (items item close atEnd unclosed)
      (Counting.items item' close atEnd unclosed)
      (Reads (List.map bare) (greatestOf height)) := by
  apply Tracks.lift_bind Stays.peek?
  intro found _
  cases found with
  | none => exact Tracks.fail atEnd
  | some token =>
    dsimp only
    by_cases hclose : token = close
    · rw [if_pos hclose, if_pos hclose]
      exact Tracks.lift_bind Stays.tail fun _ _ => Tracks.pure ⟨rfl, rfl⟩
    · rw [if_neg hclose, if_neg hclose]
      apply hitem.reads_bind
      intro first
      apply Tracks.get_bind
      intro count _
      apply (tracks_itemsAfter hitem close unclosed _ [first]).mono
      rintro values _ reached ⟨rfl, hreached⟩
      rw [greatestOf_cons, greatestOf_nil, Nat.max_zero] at hreached
      exact ⟨rfl, hreached⟩

end

/-! ## Chains -/

section

variable {room : Nat} {operand : Reading Operand}
  {operand' : Counting JsonExpr}

theorem tracks_chainAfter (hroom : room + depth = maxDepth) (tier : Tier)
    (hoperand : TracksOperand S maxDepth depth operand operand')
    (turns : List PlacedToken) (left : Operand) :
    Tracks S maxDepth depth (chainAfter tier operand room turns left)
      (Counting.chainAfter maxDepth tier operand' turns left.expr left.height)
      fun result expr reached => expr = result.expr ∧
        max left.height reached = result.height := by
  induction turns generalizing left with
  | nil => exact Tracks.pure ⟨rfl, Nat.max_zero _⟩
  | cons turn turns ih =>
    apply Tracks.lift_bind (Stays.acceptSome _)
    intro found _
    cases found with
    | none => exact Tracks.pure ⟨rfl, Nat.max_zero _⟩
    | some op =>
      apply hoperand.measure.bind
      rintro right ⟨_, _⟩ _ ⟨⟨rfl, rfl⟩, rfl⟩
      apply Tracks.within_bind hroom
      apply (ih (joined op left right)).mono
      rintro result _ reached ⟨rfl, hreached⟩
      refine ⟨rfl, ?_⟩
      have hjoined : (joined op left right).height =
          max left.height right.height + 1 := rfl
      omega

theorem tracks_chain (hroom : room + depth = maxDepth) (tier : Tier)
    (hoperand : TracksOperand S maxDepth depth operand operand') :
    TracksOperand S maxDepth depth (chain tier operand room)
      (Counting.chain maxDepth tier operand') := by
  apply hoperand.measure.bind
  rintro first ⟨_, _⟩ _ ⟨⟨rfl, rfl⟩, rfl⟩
  apply Tracks.get_bind
  intro count _
  exact tracks_chainAfter hroom tier hoperand count.stream.tokens first

theorem tracks_expressionOf (hroom : room + depth = maxDepth)
    (hoperand : TracksOperand S maxDepth depth operand operand') :
    TracksOperand S maxDepth depth (expressionOf operand room)
      (Counting.expressionOf maxDepth operand') :=
  tracks_chain hroom .logical (tracks_chain hroom .comparison hoperand)

end

/-! ## Atoms and suffixes -/

section

variable {expression : Reading Operand} {expression' : Counting JsonExpr}

theorem tracks_argument
    (hexpression : TracksOperand S maxDepth depth expression expression') :
    Tracks S maxDepth depth (argument expression)
      (Counting.argument expression')
      (Reads Argument.bare Argument.height) := by
  have hplain : Tracks S maxDepth depth (do return .plain (← expression))
      (do return .plain ⟨← expression', 0⟩)
      (Reads Argument.bare Argument.height) := by
    apply hexpression.reads_bind
    intro body
    exact Tracks.pure ⟨rfl, Nat.max_zero _⟩
  apply Tracks.get_bind
  intro count _
  generalize count.stream.tokens = tokens
  rcases tokens with _ | ⟨⟨_, token⟩, _ | ⟨⟨_, token'⟩, others⟩⟩
  · exact hplain
  · cases token <;> exact hplain
  · cases token with
    | name element =>
      cases token' with
      | arrow =>
        apply Tracks.lift_bind Stays.tail_tail
        intro _ _
        apply hexpression.reads_bind
        intro body
        exact Tracks.pure ⟨rfl, Nat.max_zero _⟩
      | _ => exact hplain
    | _ => exact hplain

theorem tracks_arguments
    (hexpression : TracksOperand S maxDepth depth expression expression') :
    Tracks S maxDepth depth (arguments expression)
      (Counting.arguments expression')
      (Reads (List.map Argument.bare) (greatestOf Argument.height)) :=
  tracks_items (tracks_argument hexpression) .closeParen .endInArguments
    .unclosedArguments

theorem tracks_atom
    (hexpression : TracksOperand S maxDepth depth expression expression') :
    TracksOperand S maxDepth depth (atom expression)
      (Counting.atom expression') := by
  apply Tracks.lift_bind Stays.position
  intro start hstart
  apply Tracks.lift_bind Stays.next?
  intro found _
  cases found with
  | none => exact Tracks.fail .endOfExpression
  | some token =>
    cases token with
    | literal value => exact Tracks.pure ⟨rfl, rfl⟩
    | name text =>
      apply Tracks.lift_bind (Stays.accept .openParen)
      intro called _
      cases called with
      | false => exact Tracks.pure ⟨rfl, rfl⟩
      | true =>
        apply (tracks_arguments hexpression).reads_bind
        intro values
        rw [Call.function_bare, ← bind_pure (Counting.lift _)]
        apply Tracks.lift_bind (Stays.checked hstart _)
        intro expr _
        exact Tracks.pure ⟨rfl, Nat.max_zero _⟩
    | openParen =>
      apply hexpression.reads_bind
      intro inner
      apply Tracks.lift_bind Stays.next?
      intro close _
      by_cases hclose : close = some .closeParen
      · rw [if_pos hclose, if_pos hclose]
        exact Tracks.pure ⟨rfl, Nat.max_zero _⟩
      · rw [if_neg hclose, if_neg hclose]
        exact Tracks.failAt hstart .unclosedGroup
    | openBracket =>
      have helements := tracks_items hexpression .closeBracket .endInArray
        .unclosedArray
      apply helements.reads_bind
      intro values
      exact Tracks.pure ⟨rfl, Nat.max_zero _⟩
    | _ => exact Tracks.failAt hstart _

/-- A suffix is put on top of its object and of what stands in it. -/
abbrev TracksSuffix (S : Nat → Prop) (maxDepth depth : Nat) (object : Operand)
    (reading : Reading Operand) (counting : Counting Operand) : Prop :=
  Tracks S maxDepth depth reading counting fun result below reached =>
    below.expr = result.expr ∧ below.height + 1 = result.height ∧
      reached ≤ below.height ∧ object.height ≤ below.height

theorem tracks_member
    (hexpression : TracksOperand S maxDepth depth expression expression')
    (object : Operand) :
    TracksSuffix S maxDepth depth object (member expression object)
      (Counting.member expression' object.expr object.height) := by
  apply Tracks.lift_bind Stays.position
  intro start hstart
  apply Tracks.lift_bind Stays.next?
  intro found _
  cases found with
  | none => exact Tracks.failAt hstart .missingName
  | some token =>
    cases token with
    | name text =>
      apply Tracks.lift_bind (Stays.accept .openParen)
      intro called _
      cases called with
      | true =>
        apply (tracks_arguments hexpression).measure.bind
        rintro values ⟨_, _⟩ _ ⟨⟨rfl, rfl⟩, rfl⟩
        dsimp only
        rw [Call.method_bare]
        apply Tracks.lift_bind (Stays.checked hstart _)
        intro expr _
        refine Tracks.pure ⟨rfl, rfl, ?_, Nat.le_max_left _ _⟩
        rw [Nat.max_zero]
        exact Nat.le_max_right _ _
      | false =>
        by_cases hlength : text = "length"
        · simp only [Bool.false_eq_true, if_false, if_pos hlength]
          exact Tracks.pure ⟨rfl, rfl, Nat.zero_le _, Nat.le_refl _⟩
        · simp only [Bool.false_eq_true, if_false, if_neg hlength]
          exact Tracks.pure ⟨rfl, rfl, Nat.zero_le _, Nat.le_refl _⟩
    | _ => exact Tracks.failAt hstart .missingName

theorem tracks_key
    (hexpression : TracksOperand S maxDepth depth expression expression')
    (object : Operand) :
    TracksSuffix S maxDepth depth object (key expression object)
      (Counting.key expression' object.expr object.height) := by
  apply hexpression.measure.bind
  rintro inner ⟨_, _⟩ _ ⟨⟨rfl, rfl⟩, rfl⟩
  apply Tracks.lift_bind Stays.next?
  intro close _
  by_cases hclose : close = some .closeBracket
  · rw [if_pos hclose, if_pos hclose]
    refine Tracks.pure ⟨rfl, rfl, ?_, Nat.le_max_left _ _⟩
    rw [Nat.max_zero]
    exact Nat.le_max_right _ _
  · rw [if_neg hclose, if_neg hclose]
    exact Tracks.fail .missingBracket

variable {room : Nat}

theorem tracks_suffixes (hroom : room + depth = maxDepth)
    (hexpression : TracksOperand S maxDepth depth expression expression')
    (turns : List PlacedToken) (object : Operand) :
    Tracks S maxDepth depth (suffixes expression room turns object)
      (Counting.suffixes maxDepth expression' turns object.expr object.height)
      fun result expr reached => expr = result.expr ∧
        max object.height reached = result.height := by
  induction turns generalizing object with
  | nil => exact Tracks.pure ⟨rfl, Nat.max_zero _⟩
  | cons turn turns ih =>
    have hnext {reading : Reading Operand} {counting : Counting Operand}
        (hsuffix : TracksSuffix S maxDepth depth object reading counting) :
        Tracks S maxDepth depth
          (do
            let next ← reading
            suffixes expression room turns (← within room next))
          (do
            let below ← counting
            Counting.reach maxDepth ((← get).depth + (below.height + 1))
            Counting.suffixes maxDepth expression' turns below.expr
              (below.height + 1))
          fun result expr reached => expr = result.expr ∧
            max object.height reached = result.height := by
      apply hsuffix.bind
      rintro next below reached ⟨hexpr, hheight, hreached, hobject⟩
      rw [hexpr, hheight]
      apply Tracks.within_bind hroom
      apply (ih next).mono
      rintro result _ reached' ⟨rfl, hreached'⟩
      exact ⟨rfl, by omega⟩
    apply Tracks.lift_bind (Stays.accept .dot)
    intro dotted _
    cases dotted with
    | true => exact hnext (tracks_member hexpression object)
    | false =>
      apply Tracks.lift_bind (Stays.accept .openBracket)
      intro bracketed _
      cases bracketed with
      | true => exact hnext (tracks_key hexpression object)
      | false => exact Tracks.pure ⟨rfl, Nat.max_zero _⟩

theorem tracks_accessor (hroom : room + depth = maxDepth)
    (hexpression : TracksOperand S maxDepth depth expression expression') :
    TracksOperand S maxDepth depth (accessor expression room)
      (Counting.accessor maxDepth expression') := by
  apply (tracks_atom hexpression).measure.bind
  rintro first ⟨_, _⟩ _ ⟨⟨rfl, rfl⟩, rfl⟩
  apply Tracks.get_bind
  intro count _
  exact tracks_suffixes hroom hexpression count.stream.tokens first

end

/-! ## Expressions -/

/-- Where no level is left, a call fails. -/
theorem tracks_call_of_le {counting : Counting JsonExpr}
    (hdepth : maxDepth ≤ depth) :
    TracksOperand S maxDepth depth (fail .tooDeep)
      (Counting.call do Counting.descend maxDepth; counting) := by
  rintro peak stream count - ⟨rfl, hwithin, hdepthEq, -⟩
  have hroom : maxDepth ≤ count.enterCall.depth :=
    Nat.le_trans hdepth (Nat.le_of_eq hdepthEq.symm)
  have hbody : (do Counting.descend maxDepth; counting) count.enterCall =
      .error (.fault ⟨.tooDeep, count.enterCall.stream.position⟩)
        count.enterCall := by
    apply bind_of_eq_error
    rw [Counting.descend_eq, if_pos hroom]
  rw [Counting.call, hbody]
  exact .error hwithin.position

/-- Within its level, an operand is one level less high. -/
theorem tracks_operandOf {room : Nat} (hroom : room + depth = maxDepth)
    {counting : Counting JsonExpr}
    (hnegated : TracksOperand S maxDepth depth (negated room) counting) :
    Tracks S maxDepth depth (negated (room + 1))
      (Counting.operandOf maxDepth counting)
      fun result expr reached =>
        expr = result.expr ∧ reached + 1 = result.height := by
  apply Tracks.lift_bind (Stays.acceptSome _)
  intro found _
  cases found with
  | some op =>
    apply hnegated.reads_bind
    intro operand
    exact Tracks.pure ⟨rfl, by rw [Nat.max_zero]⟩
  | none =>
    have haccessor := tracks_accessor hroom (tracks_expressionOf hroom hnegated)
    dsimp only
    rw [← bind_pure (Counting.accessor _ _)]
    apply haccessor.reads_bind
    intro operand
    exact Tracks.pure ⟨rfl, by rw [Nat.max_zero]⟩

/-- With as many calls to go as there is room, and one more that fails, no
call is missing. -/
theorem tracks_negated (room : Nat) {depth : Nat}
    (hroom : room + depth = maxDepth) :
    TracksOperand S maxDepth depth (negated room)
      (Counting.negated maxDepth (room + 1)) := by
  -- Every call enters a level, so the room shrinks while the depth grows.
  induction room generalizing depth with
  | zero => exact tracks_call_of_le (by omega)
  | succ room ih =>
    have hinside : room + (depth + 1) = maxDepth := by omega
    apply ((tracks_operandOf hinside (ih hinside)).call (by omega)).mono
    rintro result expr reached ⟨inner, ⟨rfl, hinner⟩, rfl⟩
    exact ⟨rfl, hinner⟩

/-- The counters follow the reading of an expression. -/
theorem tracks_expression (maxDepth : Nat) :
    Tracks S maxDepth 0 (expression maxDepth) (Counting.expression maxDepth)
      fun expr expr' _ => expr' = expr := by
  have hexpression : TracksOperand S maxDepth 0
      (expressionOf (negated maxDepth) maxDepth)
      (Counting.expression maxDepth) :=
    tracks_expressionOf (Nat.add_zero maxDepth)
      (tracks_negated maxDepth (Nat.add_zero maxDepth))
  rw [← bind_pure (Counting.expression maxDepth)]
  apply hexpression.reads_bind
  intro operand
  exact Tracks.pure rfl

/-- The counters follow a complete reading. -/
theorem tracks_complete (maxDepth : Nat) :
    Tracks S maxDepth 0 (complete maxDepth) (Counting.complete maxDepth)
      fun expr expr' _ => expr' = expr := by
  apply (tracks_expression maxDepth).bind
  rintro expr _ _ rfl
  apply Tracks.get_bind
  intro count _
  split_ifs
  · exact Tracks.pure rfl
  · exact Tracks.fail .trailingTokens

/-- The reader with counters ends like the other one, and reports every error
at a token or at the end of the text.  It meets no defect, and never more calls
are active than levels may be entered, as long as it succeeds. -/
theorem complete_follows (maxDepth : Nat) (stream : TokenStream) :
    Follows
      (fun error => error.position ∈ stream.tokens.map PlacedToken.offset ∨
        error.position = stream.stop)
      (fun expr rest expr' count => expr' = expr ∧ count.stream = rest ∧
        count.mostActive ≤ maxDepth)
      (complete maxDepth stream)
      (Counting.complete maxDepth (Count.start stream)) := by
  have hwithin : stream.Within fun position =>
      position ∈ stream.tokens.map PlacedToken.offset ∨
        position = stream.stop :=
    ⟨fun placed hplaced => Or.inl (List.mem_map_of_mem hplaced), Or.inr rfl⟩
  have hstart : Count.At _ maxDepth 0 0 stream (Count.start stream) :=
    ⟨rfl, hwithin, rfl, rfl, rfl, Nat.zero_le maxDepth⟩
  apply (tracks_complete maxDepth 0 stream _ (Nat.le_refl 0) hstart).mono
  rintro expr rest expr' count ⟨_, rfl, hcount⟩
  exact ⟨rfl, hcount.stream_eq, hcount.mostActive_le⟩

end DocFilter
