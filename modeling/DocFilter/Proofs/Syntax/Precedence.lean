import DocFilter.Operator
import DocFilter.Proofs.Syntax.Scan
import DocFilter.Sql.Scope
import Mathlib.Tactic.SplitIfs

/-!
# Reading SQL by the precedence of its operators

A text in parentheses is split into words at the blanks that stand outside of
inner parentheses and of quoted texts.  The words are operators, `NOT`, and
operands, and they are grouped with a stack of what is waiting for its right
operand.  From loose to tight the operators are `OR`, `AND`, the prefix `NOT`,
the tests for equality, the comparisons of order, and the arrows; operators of
one strength group to the left.

The reading is cautious.  Where a word is neither an operator nor surely an
operand, and where two operands stand next to each other, the text is not read
at all.
-/

namespace DocFilter.Sql

/-! ## Operators -/

/-- The operators of SQL that stand between two operands. -/
inductive Operator where
  | binary (op : BinaryOp)
  | extract (sort : ValueSort)
deriving DecidableEq

namespace Operator

/-- The word for an operator. -/
def word : Operator → String
  | .binary op => op.sql
  | .extract .json => "->"
  | .extract .scalar => "->>"

/-- How tight an operator binds. -/
def strength : Operator → Nat
  | .binary .or => 1
  | .binary .and => 2
  | .binary .equal | .binary .notEqual => 4
  | .binary .less | .binary .lessEqual => 5
  | .binary .greater | .binary .greaterEqual => 5
  | .extract _ => 6

/-- The operators. -/
def all : List Operator :=
  [.binary .or, .binary .and, .binary .equal, .binary .notEqual, .binary .less,
    .binary .lessEqual,
    .binary .greater, .binary .greaterEqual, .extract .json, .extract .scalar]

/-- The operator that a word stands for. -/
def ofWord? (word : List Char) : Option Operator :=
  all.find? fun op => op.word.toList == word

end Operator

/-- How tight the prefix `NOT` binds. -/
def notStrength : Nat := 3

/-! ## Groupings -/

/-- How a text is grouped. -/
inductive Grouping where
  | operand (text : List Char)
  | not (inner : Grouping)
  | operator (op : Operator) (left right : Grouping)
deriving DecidableEq

/-- The text that is grouped. -/
def Grouping.text : Grouping → List Char
  | .operand text => text
  | .not inner => "NOT ".toList ++ inner.text
  | .operator op left right =>
    left.text ++ " ".toList ++ op.word.toList ++ " ".toList ++ right.text

/-- What waits for its right operand. -/
inductive Waiting where
  | not
  | operator (op : Operator) (left : Grouping)

/-- How tight something that waits binds its right operand. -/
def Waiting.strength : Waiting → Nat
  | .not => notStrength
  | .operator op _ => op.strength

/-- What waits, with its right operand. -/
def Waiting.complete : Waiting → Grouping → Grouping
  | .not, right => .not right
  | .operator op left, right => .operator op left right

/-- Completes what binds at least as tight as an operator that follows. -/
def settle (strength : Nat) : List Waiting → Grouping → List Waiting × Grouping
  | [], current => ([], current)
  | waiting :: others, current =>
    if strength ≤ waiting.strength then
      settle strength others (waiting.complete current)
    else (waiting :: others, current)

/-- What the words of a text stand for. -/
inductive Word where
  | operand (text : List Char)
  | not
  | operator (op : Operator)
deriving DecidableEq

mutual

/-- Groups words where an operand has to start. -/
def groupOperand (stack : List Waiting) : List Word → Option Grouping
  | .not :: words => groupOperand (.not :: stack) words
  | .operand text :: words => groupOperator stack (.operand text) words
  | _ => none

/-- Groups words behind an operand. -/
def groupOperator (stack : List Waiting) (current : Grouping) :
    List Word → Option Grouping
  | [] => some (settle 0 stack current).2
  | .operator op :: words =>
    let (stack, left) := settle op.strength stack current
    groupOperand (.operator op left :: stack) words
  | _ => none

end

/-! ## Words -/

/-- Splits a text at the blanks outside, given the place and the part before
it in the same word. -/
def splitFrom (place : Place) (word : List Char) : List Char → List (List Char)
  | [] => [word]
  | c :: cs =>
    if place = .outside ∧ c = ' ' then word :: splitFrom place [] cs
    else
      match place.step c with
      | none => [word ++ c :: cs]
      | some place => splitFrom place (word ++ [c]) cs

/-- Splits a text at the blanks outside. -/
def split (text : List Char) : List (List Char) := splitFrom .outside [] text

/-- The characters outside of parentheses and quoted texts. -/
def exposed (place : Place) : List Char → List Char
  | [] => []
  | c :: cs =>
    match place.step c with
    | none => c :: cs
    | some next =>
      if place = .outside ∧
        next = .outside then c :: exposed next cs else exposed next cs

/-- The characters of names, with points between them, and of placeholders. -/
def isNameChar (c : Char) : Bool :=
  c.isAlphanum || c == '_' || c == '$' || c == '.' || c == '?' || 0x80 ≤ c.toNat

/-- A word is surely an operand: a name, a placeholder, a quoted text, or a
text in parentheses, which a name can stand before. -/
def isOperand (word : List Char) : Bool :=
  !word.isEmpty && Place.outside.scan word == some .outside &&
    (exposed .outside word).all isNameChar

/-- What a word stands for. -/
def word? (word : List Char) : Option Word :=
  if word = "NOT".toList then some .not
  else
    match Operator.ofWord? word with
    | some op => some (.operator op)
    | none => if isOperand word then some (.operand word) else none

/-- What some words stand for.  `EXISTS` and the subquery behind it form an
operand. -/
def words? : List (List Char) → Option (List Word)
  | [] => some []
  | text :: texts =>
    if text = "EXISTS".toList then
      match texts with
      | [] => none
      | query :: texts =>
        if query.head? = some '(' ∧ isOperand query then do
          let words ← words? texts
          return .operand (text ++ ' ' :: query) :: words
        else none
    else do
      let word ← word? text
      let words ← words? texts
      return word :: words

theorem words?_cons_of_ne {text : List Char} (h : text ≠ "EXISTS".toList)
    (texts : List (List Char)) :
    words? (text :: texts) = do
      let word ← word? text
      let words ← words? texts
      return word :: words := by
  cases texts <;> simp only [words?, if_neg h]

theorem words?_exists
    {query : List Char} (h : query.head? = some '(' ∧ isOperand query)
    (texts : List (List Char)) :
    words? ("EXISTS".toList :: query :: texts) = do
      let words ← words? texts
      return .operand ("EXISTS".toList ++ ' ' :: query) :: words := by
  rw [words?, if_pos rfl, if_pos h]

/-- Groups a text by the precedence of its operators. -/
def group? (text : List Char) : Option Grouping := do
  let words ← words? (split text)
  groupOperand [] words

/-- The text inside a pair of parentheses. -/
def inside? : List Char → Option (List Char)
  | '(' :: text =>
    if text.getLast? = some ')' ∧ IsClosed text.dropLast then
      some text.dropLast
    else none
  | _ => none

/-- Groups what stands inside a pair of parentheses. -/
def read? (sql : String) : Option Grouping := do
  let text ← inside? sql.toList
  group? text

/-! ## Splitting -/

/-- A blank behind a closed text separates its words from those that
follow. -/
theorem splitFrom_append
    {place : Place} {cs : List Char} (h : place.scan cs = some .outside)
    (word rest : List Char) :
    splitFrom place word (cs ++ ' ' :: rest) =
      splitFrom place word cs ++ split rest := by
  induction cs generalizing place word with
  | nil =>
    cases h
    rfl
  | cons c cs ih =>
    obtain ⟨middle, hstep, hscan⟩ := Place.scan_cons_eq_some.mp h
    rw [List.cons_append, splitFrom, splitFrom]
    by_cases hblank : place = .outside ∧ c = ' '
    · rw [if_pos hblank, if_pos hblank]
      obtain ⟨rfl, rfl⟩ := hblank
      cases hstep
      rw [ih hscan, List.cons_append]
    · rw [if_neg hblank, if_neg hblank, hstep]
      exact ih hscan (word ++ [c])

theorem split_append {cs : List Char} (h : IsClosed cs) (rest : List Char) :
    split (cs ++ ' ' :: rest) = split cs ++ split rest :=
  splitFrom_append h [] rest

/-- A text without a blank outside is a single word. -/
theorem splitFrom_eq_singleton
    {place next : Place} {cs : List Char} (hscan : place.scan cs = some next)
    (hblank : ' ' ∉ exposed place cs) (word : List Char) :
    splitFrom place word cs = [word ++ cs] := by
  induction cs generalizing place word with
  | nil => rw [splitFrom, List.append_nil]
  | cons c cs ih =>
    obtain ⟨middle, hstep, hscan⟩ := Place.scan_cons_eq_some.mp hscan
    rw [exposed, hstep] at hblank
    have hne : ¬(place = .outside ∧ c = ' ') := by
      rintro ⟨rfl, rfl⟩
      cases hstep
      exact hblank List.mem_cons_self
    have hcs : ' ' ∉ exposed middle cs := by
      intro hmem
      apply hblank
      dsimp only
      split_ifs
      · exact List.mem_cons_of_mem c hmem
      · exact hmem
    rw [splitFrom, if_neg hne, hstep]
    exact (ih hscan hcs (word ++ [c])).trans (by rw [List.append_assoc]; rfl)

/-! ## Exposed characters -/

theorem exposed_append
    {place next : Place} {cs : List Char} (h : place.scan cs = some next)
    (ds : List Char) :
    exposed place (cs ++ ds) = exposed place cs ++ exposed next ds := by
  induction cs generalizing place with
  | nil =>
    cases h
    rfl
  | cons c cs ih =>
    obtain ⟨middle, hstep, hscan⟩ := Place.scan_cons_eq_some.mp h
    rw [List.cons_append, exposed, exposed, hstep]
    dsimp only
    rw [ih hscan]
    split_ifs <;> rfl

/-- Nothing is exposed where a parenthesis is open around. -/
theorem exposed_under
    {place next : Place} {cs : List Char} (h : place.scan cs = some next)
    (depth : Nat) :
    exposed (place.under (depth + 1)) cs = [] := by
  induction cs generalizing place with
  | nil => rfl
  | cons c cs ih =>
    obtain ⟨middle, hstep, hscan⟩ := Place.scan_cons_eq_some.mp h
    have hne : place.under (depth + 1) ≠ .outside := by
      intro heq
      have hdepth : place.depth + (depth + 1) = 0 := congrArg Place.depth heq
      omega
    rw [exposed, Place.step_under hstep]
    dsimp only
    rw [if_neg fun heq => hne heq.1]
    exact ih hscan

/-- A text in parentheses exposes nothing. -/
theorem exposed_enclosed {cs : List Char} (h : IsClosed cs) :
    exposed .outside ('(' :: (cs ++ [')'])) = [] := by
  have hscan : Place.scan ⟨1, false⟩ cs = some ⟨1, false⟩ := h.within 1
  have hinner : exposed ⟨1, false⟩ cs = [] := exposed_under h 0
  change exposed ⟨1, false⟩ (cs ++ [')']) = []
  rw [exposed_append hscan, hinner]
  rfl

theorem isClosed_enclosed {cs : List Char} (h : IsClosed cs) :
    IsClosed ('(' :: (cs ++ [')'])) :=
  Leads.enclose (by decide : Leads 0 1 "(".toList) h
    (by decide : Leads 1 0 ")".toList)

theorem not_special_of_isNameChar {c : Char} (h : isNameChar c) :
    c ≠ '\'' ∧ c ≠ '(' ∧ c ≠ ')' := by
  refine ⟨?_, ?_, ?_⟩ <;>
    · rintro rfl
      exact absurd h (by decide)

theorem exposed_of_isNameChar {cs : List Char} (h : ∀ c ∈ cs, isNameChar c) :
    exposed .outside cs = cs := by
  induction cs with
  | nil => rfl
  | cons c cs ih =>
    obtain ⟨hquote, hopen, hclose⟩ :=
      not_special_of_isNameChar (h c List.mem_cons_self)
    have hstep : Place.outside.step c = some .outside := by
      simp [Place.step, Place.outside, hquote, hopen, hclose]
    have hcs := ih fun d hd => h d (List.mem_cons_of_mem c hd)
    rw [exposed, hstep]
    dsimp only
    rw [if_pos ⟨rfl, rfl⟩, hcs]

theorem isClosed_of_isNameChar {cs : List Char} (h : ∀ c ∈ cs, isNameChar c) :
    IsClosed cs :=
  Leads.of_plain fun c hc => not_special_of_isNameChar (h c hc)

/-- The call of a function exposes its name. -/
theorem exposed_call
    {name inner : List Char} (hname : ∀ c ∈ name, isNameChar c)
    (hinner : IsClosed inner) :
    exposed .outside (name ++ '(' :: (inner ++ [')'])) = name := by
  have hplace : Place.outside.scan name = some .outside :=
    isClosed_of_isNameChar hname
  rw [exposed_append hplace, exposed_of_isNameChar hname,
    exposed_enclosed hinner, List.append_nil]

/-! ## Operands -/

theorem isOperand_iff {text : List Char} :
    isOperand text ↔
      text ≠ [] ∧ IsClosed text ∧ ∀ c ∈ exposed .outside text,
        isNameChar c := by
  simp [isOperand, Leads, Place.outside, and_assoc]

/-- A text in parentheses is an operand, and so is the call of a function. -/
theorem isOperand_call
    {name inner : List Char} (hname : ∀ c ∈ name, isNameChar c)
    (hinner : IsClosed inner) :
    isOperand (name ++ '(' :: (inner ++ [')'])) := by
  refine isOperand_iff.mpr ⟨by simp, ?_, ?_⟩
  · exact (isClosed_of_isNameChar hname).append (isClosed_enclosed hinner)
  · rw [exposed_call hname hinner]
    exact hname

theorem isOperand_name {name : List Char} (hne : name ≠ [])
    (hname : ∀ c ∈ name, isNameChar c) :
    isOperand name := by
  refine isOperand_iff.mpr ⟨hne, isClosed_of_isNameChar hname, ?_⟩
  rw [exposed_of_isNameChar hname]
  exact hname

/-- No keyword and no operator has a parenthesis or a point in it. -/
theorem not_keyword_of_mem {text : List Char} {c : Char} (hmem : c ∈ text)
    (hc : c = '(' ∨ c = '.') :
    text ≠ "NOT".toList ∧ text ≠ "EXISTS".toList ∧
      Operator.ofWord? text = none := by
  refine ⟨?_, ?_, ?_⟩
  · rintro rfl
    rcases hc with rfl | rfl <;> exact absurd hmem (by decide)
  · rintro rfl
    rcases hc with rfl | rfl <;> exact absurd hmem (by decide)
  · apply List.find?_eq_none.mpr
    intro op hop heq
    have htext : op.word.toList = text := by simpa using heq
    have hopen : ∀ op ∈ Operator.all, '(' ∉ op.word.toList := by decide
    have hpoint : ∀ op ∈ Operator.all, '.' ∉ op.word.toList := by decide
    rw [← htext] at hmem
    rcases hc with rfl | rfl
    · exact hopen op hop hmem
    · exact hpoint op hop hmem

/-- What the words of a text stand for. -/
def textWords? (text : List Char) : Option (List Word) := words? (split text)

/-- A closed text that is read as a single operand. -/
structure ReadsAsOperand (text : List Char) : Prop where
  isClosed : IsClosed text
  words : textWords? text = some [.operand text]

instance (text : List Char) : Decidable (ReadsAsOperand text) :=
  decidable_of_iff (IsClosed text ∧ textWords? text = some [.operand text])
    ⟨fun h => ⟨h.1, h.2⟩, fun h => ⟨h.isClosed, h.words⟩⟩

theorem split_of_isOperand {text : List Char} (h : isOperand text) :
    split text = [text] := by
  obtain ⟨-, hclosed, hexposed⟩ := isOperand_iff.mp h
  have hblank : ' ' ∉ exposed .outside text := by
    intro hmem
    exact absurd (hexposed ' ' hmem) (by decide)
  exact splitFrom_eq_singleton hclosed hblank []

theorem readsAsOperand_of_isOperand
    {text : List Char} (h : isOperand text) {c : Char} (hmem : c ∈ text)
    (hc : c = '(' ∨ c = '.') :
    ReadsAsOperand text := by
  obtain ⟨hnot, hexists, hoperator⟩ := not_keyword_of_mem hmem hc
  refine ⟨(isOperand_iff.mp h).2.1, ?_⟩
  have hword : word? text = some (.operand text) := by
    rw [word?, if_neg hnot, hoperator]
    exact if_pos h
  rw [textWords?, split_of_isOperand h, words?_cons_of_ne hexists, hword]
  rfl

/-- The call of a function is an operand.  Without a name it is a text in
parentheses. -/
theorem readsAsOperand_call
    {name inner : List Char} (hname : ∀ c ∈ name, isNameChar c)
    (hinner : IsClosed inner) :
    ReadsAsOperand (name ++ '(' :: (inner ++ [')'])) := by
  have hmem : '(' ∈ name ++ '(' :: (inner ++ [')']) := by simp
  exact readsAsOperand_of_isOperand (isOperand_call hname hinner) hmem
    (Or.inl rfl)

/-- `EXISTS` forms an operand together with the subquery in parentheses. -/
theorem readsAsOperand_exists {inner : List Char} (hinner : IsClosed inner) :
    ReadsAsOperand ("EXISTS ".toList ++ '(' :: (inner ++ [')'])) := by
  have hnone : ∀ c ∈ ([] : List Char), isNameChar c := by simp
  have hsplit : split ("EXISTS".toList ++ ' ' :: ('(' :: (inner ++ [')']))) =
      ["EXISTS".toList, '(' :: (inner ++ [')'])] := by
    rw [split_append (by decide)]
    exact congrArg (["EXISTS".toList] ++ ·)
      (split_of_isOperand (isOperand_call hnone hinner))
  have hclosed : IsClosed "EXISTS ".toList := by decide
  have hoperand : isOperand ('(' :: (inner ++ [')'])) :=
    isOperand_call hnone hinner
  constructor
  · exact hclosed.append (isClosed_enclosed hinner)
  · change words? (split ("EXISTS".toList ++ ' ' :: '(' :: (inner ++ [')']))) = _
    rw [hsplit, words?_exists ⟨rfl, hoperand⟩]
    rfl

/-- Behind `NOT` an operand is still an operand. -/
theorem textWords?_not
    {text : List Char} {words : List Word} (h : textWords? text = some words) :
    textWords? ("NOT ".toList ++ text) = some (.not :: words) := by
  have hsplit : split ("NOT".toList ++ ' ' :: text) =
      "NOT".toList :: split text :=
    split_append (by decide) text
  change words? (split ("NOT".toList ++ ' ' :: text)) = _
  unfold textWords? at h
  rw [hsplit, words?_cons_of_ne (by decide), h]
  rfl

/-! ## Texts with an operator -/

theorem words?_append
    {texts others : List (List Char)} {words words' : List Word}
    (htexts : words? texts = some words)
    (hothers : words? others = some words') :
    words? (texts ++ others) = some (words ++ words') := by
  induction texts using words?.induct generalizing words with
  | case1 =>
    cases htexts
    exact hothers
  | case2 => simp [words?] at htexts
  | case3 query texts hquery ih =>
    rw [words?_exists hquery] at htexts
    obtain ⟨later, hlater, htexts⟩ := Option.bind_eq_some_iff.mp htexts
    cases htexts
    rw [List.cons_append, List.cons_append, words?_exists hquery, ih hlater]
    rfl
  | case4 query texts hquery =>
    rw [words?, if_pos rfl, if_neg hquery] at htexts
    cases htexts
  | case5 text texts hexists ih =>
    rw [words?_cons_of_ne hexists] at htexts
    obtain ⟨word, hword, htexts⟩ := Option.bind_eq_some_iff.mp htexts
    obtain ⟨later, hlater, htexts⟩ := Option.bind_eq_some_iff.mp htexts
    cases htexts
    rw [List.cons_append, words?_cons_of_ne hexists, hword, ih hlater]
    rfl

theorem textWords?_operator
    {left right : List Char} {words words' : List Word} (op : Operator)
    (hclosed : IsClosed left) (hleft : textWords? left = some words)
    (hright : textWords? right = some words') :
    textWords? (left ++ ' ' :: (op.word.toList ++ ' ' :: right)) =
      some (words ++ .operator op :: words') := by
  have hword : IsClosed op.word.toList := by
    cases op with
    | binary op => cases op <;> decide
    | extract sort => cases sort <;> decide
  have hop : words? (split op.word.toList) = some [.operator op] := by
    cases op with
    | binary op => cases op <;> decide
    | extract sort => cases sort <;> decide
  have hsplit : split (left ++ ' ' :: (op.word.toList ++ ' ' :: right)) =
      split left ++ (split op.word.toList ++ split right) := by
    rw [split_append hclosed, split_append hword]
  unfold textWords? at *
  rw [hsplit]
  exact words?_append hleft (words?_append hop hright)

/-! ## Readings -/

theorem groupOperand_operand (left right : List Char) (op : Operator) :
    groupOperand [] [.operand left, .operator op, .operand right] =
      some (.operator op (.operand left) (.operand right)) := by
  simp [groupOperand, groupOperator, settle, Waiting.complete]

/-- A `NOT` on the right belongs to the right operand. -/
theorem groupOperand_not_right (left right : List Char) (op : Operator) :
    groupOperand [] [.operand left, .operator op, .not, .operand right] =
      some (.operator op (.operand left) (.not (.operand right))) := by
  simp [groupOperand, groupOperator, settle, Waiting.complete]

/-- A `NOT` on the left takes in an operator that binds tighter, with whatever
is on its right. -/
theorem groupOperand_not_left
    (left right : List Char) {op : Operator} (h : notStrength < op.strength) :
    groupOperand [] [.not, .operand left, .operator op, .operand right] =
      some (.not (.operator op (.operand left) (.operand right))) := by
  have hle : ¬op.strength ≤ notStrength := Nat.not_le.mpr h
  simp [groupOperand, groupOperator, settle, Waiting.complete,
    Waiting.strength, hle]

theorem groupOperand_not_both
    (left right : List Char) {op : Operator} (h : notStrength < op.strength) :
    groupOperand [] [.not, .operand left, .operator op, .not, .operand right] =
      some (.not (.operator op (.operand left) (.not (.operand right)))) := by
  have hle : ¬op.strength ≤ notStrength := Nat.not_le.mpr h
  simp [groupOperand, groupOperator, settle, Waiting.complete,
    Waiting.strength, hle]

theorem inside?_enclosed {text : List Char} (h : IsClosed text) :
    inside? ('(' :: (text ++ [')'])) = some text := by
  rw [inside?, List.getLast?_concat, List.dropLast_concat, if_pos ⟨rfl, h⟩]

end DocFilter.Sql
