import DocFilter.Proofs.Literals.Emission
import Mathlib.Tactic.SplitIfs

/-!
# Reading and literals

No reader looks at the value of a literal.  This is stated as a commutation: a
reader that is run on a stream with its literals replaced takes as many tokens
as before, and returns the replaced value or the very same error.  Readers are
put together from a few steps, so the commutation is shown for these steps and
for sequencing, and then for one rule of the grammar after the other.
-/

namespace DocFilter.Reading

variable {f : Literal → Literal} {α β : Type}

/-- A result with the literals of its value and of the tokens left
replaced. -/
def mapResult (f : Literal → Literal) (act : α → β) :
    EStateM.Result SyntaxError TokenStream α →
      EStateM.Result SyntaxError TokenStream β
  | .ok value stream => .ok (act value) (stream.mapLiterals f)
  | .error error stream => .error error (stream.mapLiterals f)

/-- On replaced literals, `image` does what `reader` does, and `act` replaces
the value. -/
def Carries (f : Literal → Literal) (act : α → β) (reader : Reading α)
    (image : Reading β) : Prop :=
  ∀ stream : TokenStream,
    image (stream.mapLiterals f) = mapResult f act (reader stream)

/-! ## Sequencing and single steps -/

theorem Carries.pure
    {act : α → β} {value : α} {image : β} (h : image = act value) :
    Carries f act (Pure.pure value) (Pure.pure image) := by
  intro stream
  rw [h]
  rfl

theorem Carries.bind
    {γ δ : Type} {act : α → β} {act' : γ → δ}
    {reader : Reading α} {image : Reading β}
    {next : α → Reading γ} {next' : β → Reading δ}
    (hreader : Carries f act reader image)
    (hnext : ∀ value, Carries f act' (next value) (next' (act value))) :
    Carries f act' (reader >>= next) (image >>= next') := by
  intro stream
  change EStateM.bind image next' _ =
    mapResult f act' (EStateM.bind reader next _)
  unfold EStateM.bind
  rw [hreader stream]
  cases reader stream with
  | ok value rest => exact hnext value rest
  | error error rest => rfl

theorem Carries.failAt
    {act : α → β} (fault : SyntaxFault) (position : Nat) :
    Carries f act (failAt fault position) (failAt fault position) :=
  fun _ => rfl

theorem position_mapLiterals (stream : TokenStream) :
    (stream.mapLiterals f).position = stream.position := by
  obtain ⟨tokens, stop⟩ := stream
  cases tokens <;> rfl

theorem tail_mapLiterals (stream : TokenStream) :
    (stream.mapLiterals f).tail = stream.tail.mapLiterals f := by
  obtain ⟨tokens, stop⟩ := stream
  cases tokens <;> rfl

theorem Carries.get :
    Carries f (TokenStream.mapLiterals f)
      (MonadState.get : Reading TokenStream) MonadState.get :=
  fun _ => rfl

theorem Carries.position : Carries f id position position := by
  intro stream
  change EStateM.Result.ok _ _ = EStateM.Result.ok _ _
  rw [position_mapLiterals]
  rfl

theorem Carries.modify_tail :
    Carries f id (modify TokenStream.tail : Reading Unit)
      (modify TokenStream.tail) := by
  intro stream
  change EStateM.Result.ok _ _ = EStateM.Result.ok _ _
  rw [tail_mapLiterals]

theorem Carries.fail {act : α → β} (fault : SyntaxFault) :
    Carries f act (fail fault) (fail fault) :=
  Carries.position.bind fun position => Carries.failAt fault position

theorem Carries.peek? :
    Carries f (Option.map (Token.mapLiteral f)) peek? peek? := by
  intro stream
  obtain ⟨tokens, stop⟩ := stream
  cases tokens <;> rfl

theorem Carries.next? :
    Carries f (Option.map (Token.mapLiteral f)) next? next? :=
  Carries.peek?.bind fun _ => Carries.modify_tail.bind fun _ => Carries.pure rfl

/-! ## Steps that compare tokens -/

/-- Replacing literals does not make a token equal to one that is no
literal. -/
theorem mapLiteral_eq_iff
    {token : Token} (htoken : ∀ value, token ≠ .literal value) (found : Token) :
    found.mapLiteral f = token ↔ found = token := by
  cases found with
  | literal value =>
    have hfound := htoken value
    have himage := htoken (f value)
    simp [Token.mapLiteral, Ne.symm hfound, Ne.symm himage]
  | _ => simp [Token.mapLiteral]

theorem map_mapLiteral_eq_some_iff
    {token : Token} (htoken : ∀ value, token ≠ .literal value)
    (found : Option Token) :
    found.map (Token.mapLiteral f) = some token ↔ found = some token := by
  cases found with
  | none => simp
  | some found => simp [mapLiteral_eq_iff htoken]

/-- A test for a token that is no literal comes out the same. -/
theorem Carries.ite_eq_some
    {act : α → β} {token : Token} (htoken : ∀ value, token ≠ .literal value)
    (found : Option Token) {reader other : Reading α}
    {image otherImage : Reading β} (hreader : Carries f act reader image)
    (hother : Carries f act other otherImage) :
    Carries f act (if found = some token then reader else other)
      (if found.map (Token.mapLiteral f) =
        some token then image else otherImage) := by
  by_cases hfound : found = some token
  · rw [if_pos hfound,
      if_pos ((map_mapLiteral_eq_some_iff htoken found).mpr hfound)]
    exact hreader
  · rw [if_neg hfound,
      if_neg (mt (map_mapLiteral_eq_some_iff htoken found).mp hfound)]
    exact hother

theorem Carries.accept
    {token : Token} (htoken : ∀ value, token ≠ .literal value) :
    Carries f id (accept token) (accept token) := by
  apply Carries.peek?.bind
  intro found
  apply Carries.ite_eq_some htoken
  · exact Carries.modify_tail.bind fun _ => Carries.pure rfl
  · exact Carries.pure rfl

theorem Carries.acceptSome
    {meaning : Token → Option α}
    (hmeaning : ∀ token, meaning (token.mapLiteral f) = meaning token) :
    Carries f id (acceptSome meaning) (acceptSome meaning) := by
  apply Carries.peek?.bind
  intro found
  have hfound : (found.map (Token.mapLiteral f)).bind meaning =
      found.bind meaning := by
    cases found with
    | none => rfl
    | some token => exact hmeaning token
  rw [hfound]
  cases found.bind meaning with
  | none => exact Carries.pure rfl
  | some value => exact Carries.modify_tail.bind fun _ => Carries.pure rfl

theorem operator?_mapLiteral (tier : Tier) (token : Token) :
    (token.mapLiteral f).operator? tier = token.operator? tier := by
  cases token <;> rfl

theorem prefixOp?_mapLiteral (token : Token) :
    (token.mapLiteral f).prefixOp? = token.prefixOp? := by
  cases token <;> rfl

/-! ## Lists of items -/

theorem Carries.itemsAfter
    {act : α → β} {item : Reading α} {image : Reading β}
    (hitem : Carries f act item image) {close : Token}
    (hclose : ∀ value, close ≠ .literal value) (unclosed : SyntaxFault)
    (turns : List PlacedToken) (before : List α) :
    Carries f (List.map act) (itemsAfter item close unclosed turns before)
      (itemsAfter image close unclosed (turns.map (PlacedToken.mapLiteral f))
        (before.map act)) := by
  induction turns generalizing before with
  | nil => exact Carries.fail unclosed
  | cons turn turns ih =>
    apply Carries.position.bind
    intro position
    apply Carries.next?.bind
    intro found
    cases found with
    | none => exact Carries.failAt unclosed position
    | some token =>
      have hcommaToken : ∀ value, Token.comma ≠ .literal value := by simp
      simp only [Option.map_some, mapLiteral_eq_iff hcommaToken,
        mapLiteral_eq_iff hclose]
      by_cases hcomma : token = .comma
      · rw [if_pos hcomma, if_pos hcomma]
        exact hitem.bind fun value => ih (value :: before)
      · rw [if_neg hcomma, if_neg hcomma]
        by_cases htoken : token = close
        · rw [if_pos htoken, if_pos htoken]
          exact Carries.pure (List.map_reverse).symm
        · rw [if_neg htoken, if_neg htoken]
          exact Carries.failAt unclosed position

theorem Carries.items
    {act : α → β} {item : Reading α} {image : Reading β}
    (hitem : Carries f act item image) {close : Token}
    (hclose : ∀ value, close ≠ .literal value) (atEnd unclosed : SyntaxFault) :
    Carries f (List.map act) (items item close atEnd unclosed)
      (items image close atEnd unclosed) := by
  apply Carries.peek?.bind
  intro found
  cases found with
  | none => exact Carries.fail atEnd
  | some token =>
    simp only [Option.map_some, mapLiteral_eq_iff hclose]
    by_cases htoken : token = close
    · rw [if_pos htoken, if_pos htoken]
      exact Carries.modify_tail.bind fun _ => Carries.pure rfl
    · rw [if_neg htoken, if_neg htoken]
      apply hitem.bind
      intro first
      apply Carries.get.bind
      intro stream
      exact Carries.itemsAfter hitem hclose unclosed stream.tokens [first]

/-! ## Calls -/

section

variable (f)

theorem scalar_mapLiterals (argument : Argument) :
    Call.scalar (argument.mapLiterals f) =
      (Call.scalar argument).map (ScalarExpr.mapLiterals f) := by
  cases argument with
  | plain body =>
    exact congrArg Except.ok (JsonExpr.asScalar_mapLiterals f body.expr)
  | arrow element body => rfl

theorem matching_mapLiterals (style : PatternStyle)
    (arguments : List Argument) :
    Call.matching style (arguments.map (Argument.mapLiterals f)) =
      (Call.matching style arguments).map (ScalarExpr.mapLiterals f) := by
  rcases arguments with _ | ⟨subject, _ | ⟨pattern, _ | ⟨third, others⟩⟩⟩
  · rfl
  · rfl
  · simp only [List.map_cons, List.map_nil, Call.matching, scalar_mapLiterals]
    refine bind_map_eq (fun _ => ?_) _
    refine bind_map_eq (fun _ => ?_) _
    rfl
  · rfl

theorem recase_mapLiterals
    (op : UnaryOp) (callee : Callee) (object : JsonExpr)
    (arguments : List Argument) :
    Call.recase op callee (object.mapLiterals f)
      (arguments.map (Argument.mapLiterals f)) =
      (Call.recase op callee object arguments).map
        (ScalarExpr.mapLiterals f) := by
  cases arguments with
  | nil =>
    simp only [List.map_nil, Call.recase, JsonExpr.asScalar_mapLiterals]
    rfl
  | cons first others => rfl

theorem includes_mapLiterals (object : JsonExpr) (arguments : List Argument) :
    Call.includes (object.mapLiterals f)
      (arguments.map (Argument.mapLiterals f)) =
      (Call.includes object arguments).map (ScalarExpr.mapLiterals f) := by
  rcases arguments with _ | ⟨needle, _ | ⟨second, others⟩⟩
  · rfl
  · simp only [List.map_cons, List.map_nil, Call.includes, scalar_mapLiterals]
    refine bind_map_eq (fun _ => ?_) _
    rfl
  · rfl

theorem quantified_mapLiterals
    (quantifier : Quantifier) (object : JsonExpr) (arguments : List Argument) :
    Call.quantified quantifier (object.mapLiterals f)
      (arguments.map (Argument.mapLiterals f)) =
      (Call.quantified quantifier object arguments).map
        (ScalarExpr.mapLiterals f) := by
  rcases arguments with _ | ⟨argument, _ | ⟨second, others⟩⟩
  · rfl
  · cases argument with
    | plain body => rfl
    | arrow element body =>
      exact congrArg (fun condition => Except.ok
        (ScalarExpr.quantified quantifier
          (object.mapLiterals f) element condition))
        (JsonExpr.asScalar_mapLiterals f body.expr)
  · cases argument <;> rfl

theorem map_asJson_mapLiterals (result : Except CallFault ScalarExpr) :
    ScalarExpr.asJson <$> result.map (ScalarExpr.mapLiterals f) =
      (ScalarExpr.asJson <$> result).map (JsonExpr.mapLiterals f) := by
  cases result with
  | error fault => rfl
  | ok value => exact congrArg Except.ok (ScalarExpr.asJson_mapLiterals f value)

theorem function_mapLiterals (name : String) (arguments : List Argument) :
    Call.function name (arguments.map (Argument.mapLiterals f)) =
      (Call.function name arguments).map (JsonExpr.mapLiterals f) := by
  unfold Call.function
  rw [← map_asJson_mapLiterals, matching_mapLiterals, matching_mapLiterals,
    List.length_map]
  congr 1
  split_ifs <;> rfl

theorem method_mapLiterals (object : JsonExpr) (name : String)
    (arguments : List Argument) :
    Call.method (object.mapLiterals f) name
      (arguments.map (Argument.mapLiterals f)) =
      (Call.method object name arguments).map (JsonExpr.mapLiterals f) := by
  unfold Call.method
  rw [← map_asJson_mapLiterals, recase_mapLiterals, recase_mapLiterals,
    includes_mapLiterals, quantified_mapLiterals, quantified_mapLiterals]
  congr 1
  split_ifs <;> rfl

end

/-! ## The rules of the grammar -/

theorem Carries.checked
    (position : Nat) {result image : Except CallFault JsonExpr}
    (h : image = result.map (JsonExpr.mapLiterals f)) :
    Carries f (JsonExpr.mapLiterals f) (checked position result)
      (checked position image) := by
  rw [h]
  cases result with
  | ok expr => exact Carries.pure rfl
  | error fault => exact Carries.failAt (.call fault) position

theorem Carries.within (room : Nat) (operand : Operand) :
    Carries f (Operand.mapLiterals f) (within room operand)
      (within room (operand.mapLiterals f)) := by
  by_cases hroom : operand.height ≤ room
  · rw [Reading.within, Reading.within, if_pos hroom,
      if_pos (show (operand.mapLiterals f).height ≤ room from hroom)]
    exact Carries.pure rfl
  · rw [Reading.within, Reading.within, if_neg hroom,
      if_neg (show ¬(operand.mapLiterals f).height ≤ room from hroom)]
    exact Carries.fail .tooDeep

theorem joined_mapLiterals (op : BinaryOp) (left right : Operand) :
    joined op (left.mapLiterals f) (right.mapLiterals f) =
      (joined op left right).mapLiterals f := by
  simp only [joined, Operand.mapLiterals, JsonExpr.asScalar_mapLiterals,
    ← ScalarExpr.asJson_mapLiterals, ScalarExpr.mapLiterals]

theorem Carries.chainAfter
    (tier : Tier) {operand image : Reading Operand}
    (hoperand : Carries f (Operand.mapLiterals f) operand image) (room : Nat)
    (turns : List PlacedToken) (left : Operand) :
    Carries f (Operand.mapLiterals f) (chainAfter tier operand room turns left)
      (chainAfter tier image room (turns.map (PlacedToken.mapLiteral f))
        (left.mapLiterals f)) := by
  induction turns generalizing left with
  | nil => exact Carries.pure rfl
  | cons turn turns ih =>
    apply (Carries.acceptSome (operator?_mapLiteral tier)).bind
    intro found
    cases found with
    | none => exact Carries.pure rfl
    | some op =>
      apply hoperand.bind
      intro right
      rw [joined_mapLiterals]
      exact (Carries.within room (joined op left right)).bind fun next =>
        ih next

theorem Carries.chain
    (tier : Tier) {operand image : Reading Operand}
    (hoperand : Carries f (Operand.mapLiterals f) operand image) (room : Nat) :
    Carries f (Operand.mapLiterals f) (chain tier operand room)
      (chain tier image room) :=
  hoperand.bind fun first => Carries.get.bind fun stream =>
    Carries.chainAfter tier hoperand room stream.tokens first

theorem Carries.argument
    {expression image : Reading Operand}
    (hexpression : Carries f (Operand.mapLiterals f) expression image) :
    Carries f (Argument.mapLiterals f) (argument expression)
      (argument image) := by
  have hplain : Carries f (Argument.mapLiterals f)
      (do return .plain (← expression)) (do return .plain (← image)) :=
    hexpression.bind fun _ => Carries.pure rfl
  apply Carries.get.bind
  intro stream
  obtain ⟨tokens, stop⟩ := stream
  -- Only a name with an arrow behind it starts an arrow, and neither of the
  -- two is a literal.
  rcases tokens with _ | ⟨⟨offset, token⟩, _ | ⟨⟨offset', token'⟩, others⟩⟩
  · exact hplain
  · cases token <;> exact hplain
  · cases token with
    | name element =>
      cases token' with
      | arrow =>
        have htail : Carries f id
            (modify fun stream => stream.tail.tail : Reading Unit)
            (modify fun stream => stream.tail.tail) := by
          intro stream
          change EStateM.Result.ok () (stream.mapLiterals f).tail.tail =
            EStateM.Result.ok () (stream.tail.tail.mapLiterals f)
          rw [tail_mapLiterals, tail_mapLiterals]
        exact htail.bind fun _ => hexpression.bind fun _ => Carries.pure rfl
      | _ => exact hplain
    | _ => exact hplain

theorem Carries.arguments
    {expression image : Reading Operand}
    (hexpression : Carries f (Operand.mapLiterals f) expression image) :
    Carries f (List.map (Argument.mapLiterals f)) (arguments expression)
      (arguments image) :=
  Carries.items (Carries.argument hexpression)
    (by simp) .endInArguments .unclosedArguments

theorem Carries.elements
    {expression image : Reading Operand}
    (hexpression : Carries f (Operand.mapLiterals f) expression image) :
    Carries f (List.map (Operand.mapLiterals f)) (elements expression)
      (elements image) :=
  Carries.items hexpression (by simp) .endInArray .unclosedArray

theorem array_mapLiterals (elements : List Operand) :
    (⟨.array ((elements.map (Operand.mapLiterals f)).map Operand.expr),
        greatest ((elements.map (Operand.mapLiterals f)).map
          Operand.height)⟩ : Operand) =
      (⟨.array (elements.map Operand.expr),
        greatest (elements.map Operand.height)⟩ :
        Operand).mapLiterals f := by
  simp only [Operand.mapLiterals, JsonExpr.mapLiterals,
    JsonExpr.mapLiteralsAll_eq_map, List.map_map]
  rfl

theorem Carries.atom
    {expression image : Reading Operand}
    (hexpression : Carries f (Operand.mapLiterals f) expression image) :
    Carries f (Operand.mapLiterals f) (atom expression) (atom image) := by
  apply Carries.position.bind
  intro start
  apply Carries.next?.bind
  intro found
  cases found with
  | none => exact Carries.fail .endOfExpression
  | some token =>
    cases token with
    | literal value => exact Carries.pure rfl
    | name text =>
      apply (Carries.accept (by simp)).bind
      intro called
      cases called with
      | false => exact Carries.pure rfl
      | true =>
        apply (Carries.arguments hexpression).bind
        intro arguments
        refine (Carries.checked start
          (function_mapLiterals f text arguments)).bind fun expr => ?_
        exact Carries.pure (by rw [Argument.map_height_mapLiterals]; rfl)
    | openParen =>
      apply hexpression.bind
      intro inner
      apply Carries.next?.bind
      intro close
      apply Carries.ite_eq_some (by simp)
      · exact Carries.pure rfl
      · exact Carries.failAt .unclosedGroup start
    | openBracket =>
      exact (Carries.elements hexpression).bind fun elements =>
        Carries.pure (array_mapLiterals elements)
    | _ => exact Carries.failAt _ start

theorem Carries.member
    {expression image : Reading Operand}
    (hexpression : Carries f (Operand.mapLiterals f) expression image)
    (object : Operand) :
    Carries f (Operand.mapLiterals f) (member expression object)
      (member image (object.mapLiterals f)) := by
  apply Carries.position.bind
  intro start
  apply Carries.next?.bind
  intro found
  cases found with
  | none => exact Carries.failAt .missingName start
  | some token =>
    cases token with
    | name text =>
      apply (Carries.accept (by simp)).bind
      intro called
      cases called with
      | true =>
        apply (Carries.arguments hexpression).bind
        intro arguments
        apply (Carries.checked start
          (method_mapLiterals f object.expr text arguments)).bind
        intro expr
        exact Carries.pure (by rw [Argument.map_height_mapLiterals]; rfl)
      | false =>
        by_cases hlength : text = "length"
        · simp only [Bool.false_eq_true, if_false, if_pos hlength]
          exact Carries.pure rfl
        · simp only [Bool.false_eq_true, if_false, if_neg hlength]
          exact Carries.pure rfl
    | _ => exact Carries.failAt .missingName start

theorem Carries.key
    {expression image : Reading Operand}
    (hexpression : Carries f (Operand.mapLiterals f) expression image)
    (object : Operand) :
    Carries f (Operand.mapLiterals f) (key expression object)
      (key image (object.mapLiterals f)) := by
  apply hexpression.bind
  intro key
  apply Carries.next?.bind
  intro close
  apply Carries.ite_eq_some (by simp)
  · apply Carries.pure
    simp only [Operand.mapLiterals, JsonExpr.asScalar_mapLiterals,
      JsonExpr.mapLiterals]
  · exact Carries.fail .missingBracket

theorem Carries.suffixes
    {expression image : Reading Operand}
    (hexpression : Carries f (Operand.mapLiterals f) expression image)
    (room : Nat) (turns : List PlacedToken) (object : Operand) :
    Carries f (Operand.mapLiterals f) (suffixes expression room turns object)
      (suffixes image room (turns.map (PlacedToken.mapLiteral f))
        (object.mapLiterals f)) := by
  induction turns generalizing object with
  | nil => exact Carries.pure rfl
  | cons turn turns ih =>
    apply (Carries.accept (by simp)).bind
    intro dotted
    cases dotted with
    | true =>
      apply (Carries.member hexpression object).bind
      intro next
      exact (Carries.within room next).bind fun next => ih next
    | false =>
      apply (Carries.accept (by simp)).bind
      intro bracketed
      cases bracketed with
      | true =>
        apply (Carries.key hexpression object).bind
        intro next
        exact (Carries.within room next).bind fun next => ih next
      | false => exact Carries.pure rfl

theorem Carries.accessor
    {expression image : Reading Operand}
    (hexpression : Carries f (Operand.mapLiterals f) expression image)
    (room : Nat) :
    Carries f (Operand.mapLiterals f) (accessor expression room)
      (accessor image room) :=
  (Carries.atom hexpression).bind fun first => Carries.get.bind fun stream =>
    Carries.suffixes hexpression room stream.tokens first

theorem Carries.expressionOf
    {negated image : Reading Operand}
    (hnegated : Carries f (Operand.mapLiterals f) negated image) (room : Nat) :
    Carries f (Operand.mapLiterals f) (expressionOf negated room)
      (expressionOf image room) :=
  Carries.chain .logical (Carries.chain .comparison hnegated room) room

theorem prefixed_mapLiterals (op : UnaryOp) (operand : Operand) :
    (⟨(ScalarExpr.unary op (operand.mapLiterals f).expr.asScalar).asJson,
        (operand.mapLiterals f).height + 1⟩ : Operand) =
      (⟨(ScalarExpr.unary op operand.expr.asScalar).asJson,
        operand.height + 1⟩ :
        Operand).mapLiterals f := by
  simp only [Operand.mapLiterals, JsonExpr.asScalar_mapLiterals,
    ← ScalarExpr.asJson_mapLiterals, ScalarExpr.mapLiterals]

theorem Carries.negated (room : Nat) :
    Carries f (Operand.mapLiterals f) (negated room) (negated room) := by
  induction room with
  | zero => exact Carries.fail .tooDeep
  | succ room ih =>
    apply (Carries.acceptSome prefixOp?_mapLiteral).bind
    intro found
    cases found with
    | some op =>
      exact ih.bind fun operand =>
        Carries.pure (prefixed_mapLiterals op operand)
    | none =>
      exact (Carries.accessor (Carries.expressionOf ih room) room).bind
        fun operand =>
        Carries.pure rfl

theorem Carries.expression (room : Nat) :
    Carries f (JsonExpr.mapLiterals f) (expression room) (expression room) :=
  (Carries.expressionOf (Carries.negated room) room).bind fun _ =>
    Carries.pure rfl

/-- Reading a whole expression commutes with the replacement of literals. -/
theorem Carries.complete (room : Nat) :
    Carries f (JsonExpr.mapLiterals f) (complete room) (complete room) := by
  apply (Carries.expression room).bind
  intro expr
  apply Carries.get.bind
  intro stream
  obtain ⟨tokens, stop⟩ := stream
  cases tokens with
  | nil => exact Carries.pure rfl
  | cons token others => exact Carries.fail .trailingTokens

end DocFilter.Reading
