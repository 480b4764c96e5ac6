import DocFilter.Proofs.Json.Numbers
import DocFilter.Proofs.Json.Texts
import Mathlib

/-!
# Reading fragments back

A fragment is written in two layouts that differ in the white space between
their tokens only, and both are read back as the same value: its text, and its
parameters in order.  The spelling of a parameter tells its kind.
-/

namespace DocFilter

/-! ## Parameters -/

/-- The kinds of literals. -/
inductive Literal.Kind where
  | text
  | integer
  | real
deriving DecidableEq

/-- The kind of a literal. -/
def Literal.kind : Literal → Kind
  | .text _ => .text
  | .integer _ => .integer
  | .real _ => .real

namespace Json

/-- The characters that only a number that is not an integer has. -/
def realMarks : List Char := ['.', 'e', 'E']

/-- What a literal is in JSON: a text is the same text, an integer is a number
of the same value without a point and an exponent, and a real number is a
number with one of them. -/
inductive IsShown : Literal → Value → Prop
  | text (value : String) : IsShown (.text value) (.text value)
  | integer {value : Int64} {spelling : String}
    (h : ∀ c ∈ realMarks, c ∉ spelling.toList)
    (hvalue : spelling.toInt? = some value.toInt) :
    IsShown (.integer value) (.number spelling)
  | real {value : Binary64} {spelling : String}
    (h : ∃ c ∈ realMarks, c ∈ spelling.toList) :
    IsShown (.real value) (.number spelling)

/-- A value does not show literals of two kinds. -/
theorem IsShown.kind_eq {first second : Literal} {value : Value}
    (h : IsShown first value) (h' : IsShown second value) :
    first.kind = second.kind := by
  cases h with
  | text =>
    cases h'
    rfl
  | integer h =>
    cases h' with
    | integer => rfl
    | real h' =>
      obtain ⟨c, hc, hmem⟩ := h'
      exact absurd hmem (h c hc)
  | real h =>
    cases h' with
    | integer h' =>
      obtain ⟨c, hc, hmem⟩ := h
      exact absurd hmem (h' c hc)
    | real => rfl

theorem map_kind_eq {first second : List Literal} {values : List Value}
    (h : List.Forall₂ IsShown first values)
    (h' : List.Forall₂ IsShown second values) :
    first.map Literal.kind = second.map Literal.kind := by
  induction h generalizing second with
  | nil =>
    cases h'
    rfl
  | cons hfirst _ ih =>
    cases h' with
    | cons hsecond hothers =>
      rw [List.map_cons, List.map_cons, hfirst.kind_eq hsecond, ih hothers]

/-- A literal as a value of JSON. -/
def Value.ofLiteral : Literal → Value
  | .text value => .text value
  | .integer value => .number (toString value.toInt)
  | .real value => .number (Decimal.jsonLayout.write value)

/-- The literal is not a number without digits. -/
def IsFinite (value : Literal) : Prop :=
  ∀ x, value = .real x → x.isFinite = true

/-- A literal is written as a text or as a number. -/
theorem literal_cases {value : Literal} (h : IsFinite value) :
    (∃ string, literal value = text string ∧
        Value.ofLiteral value = .text string) ∨
      ∃ number : Number, (literal value).toList = number.written ∧
        Value.ofLiteral value = .number (String.ofList number.written) := by
  cases value with
  | text value => exact Or.inl ⟨value, rfl, rfl⟩
  | integer value =>
    have hwritten := Number.written_ofInt value.toInt
    refine Or.inr ⟨.ofInt value.toInt, hwritten.symm, ?_⟩
    rw [hwritten, String.ofList_toList]
    rfl
  | real value =>
    obtain ⟨number, -, hwritten⟩ := exists_number_write
      (rfl : Decimal.jsonLayout.hasPointZero = true) (h value rfl)
    refine Or.inr ⟨number, hwritten.symm, ?_⟩
    rw [hwritten, String.ofList_toList]
    rfl

theorem isShown_ofLiteral {value : Literal} (h : IsFinite value) :
    IsShown value (.ofLiteral value) := by
  cases value with
  | text value => exact .text value
  | integer value =>
    have hmarks : (realMarks.all fun c => !isNumberStart c) = true := by decide
    refine .integer ?_ (Int.toInt?_repr value.toInt)
    intro c hc hmem
    have hstart : isNumberStart c = true := by
      rw [Decimal.toList_toString] at hmem
      rcases List.mem_append.mp hmem with hsign | hdigit
      · split_ifs at hsign
        · obtain rfl := List.mem_singleton.mp hsign
          rfl
        · cases hsign
      · rw [isNumberStart, Decimal.isDigit_of_mem_toDigits c hdigit, Bool.true_or]
    have hmark := List.all_eq_true.mp hmarks c hc
    rw [hstart] at hmark
    cases hmark
  | real value =>
    obtain ⟨number, hreal, hwritten⟩ := exists_number_write
      (rfl : Decimal.jsonLayout.hasPointZero = true) (h value rfl)
    refine .real ?_
    rw [← hwritten]
    exact hreal.exists_mem

/-! ## Values without parts -/

/-- White space. -/
abbrev Gap := { cs : List Char // cs.all isGap = true }

/-- No white space. -/
def Gap.none : Gap := ⟨[], rfl⟩

theorem Gap.none_append (cs : List Char) : Gap.none.val ++ cs = cs := rfl

theorem Gap.isGap_of_mem (gap : Gap) : ∀ c ∈ gap.val, isGap c = true :=
  List.all_eq_true.mp gap.property

/-- A character is no white space if it is of another kind. -/
theorem isGap_eq_false {p : Char → Bool} {c : Char} (hc : p c = true)
    (hp : ([' ', '\t', '\n', '\r'].all fun mark => !p mark) = true) :
    isGap c = false := by
  rw [Bool.eq_false_iff]
  intro hgap
  have hmem : c ∈ [' ', '\t', '\n', '\r'] := by
    simpa [isGap, or_assoc] using hgap
  have hmark := List.all_eq_true.mp hp c hmem
  rw [hc] at hmark
  cases hmark

theorem dropGap_append (gap : Gap) {cs : List Char} (hcs : StopsAt isGap cs) :
    dropGap (gap.val ++ cs) = cs :=
  dropWhile_append_of_stopsAt gap.isGap_of_mem hcs

theorem value?_scalar (gap : Gap) {c : Char} (hc : isGap c = false)
    (hbracket : c ≠ '[') (hbrace : c ≠ '\x7b') (cs : List Char) (depth : Nat) :
    value? (depth + 1) (gap.val ++ c :: cs) =
      (((text? (c :: cs)).map fun (value, cs) => (.text value, cs))
        <|> keyword? (c :: cs) <|> number? (c :: cs)) := by
  rw [value?, dropGap_append gap (stopsAt_cons hc cs)]
  split
  next heq => exact absurd (List.cons.inj heq).1 hbracket
  next heq => exact absurd (List.cons.inj heq).1 hbrace
  next => rfl

/-- A text is a value. -/
theorem value?_text (gap : Gap) (value : String) (rest : List Char)
    (depth : Nat) :
    value? (depth + 1) (gap.val ++ ((text value).toList ++ rest)) =
      some (.text value, rest) := by
  have htext := text?_text value rest
  rw [toList_text_append] at htext ⊢
  rw [value?_scalar gap rfl (by decide) (by decide), htext]
  rfl

/-- A number is a value, if nothing stands behind it that it could go on
with. -/
theorem value?_number (gap : Gap) (number : Number) {rest : List Char}
    (hrest : StopsAt isNumberPart rest) (depth : Nat) :
    value? (depth + 1) (gap.val ++ (number.written ++ rest)) =
      some (.number (String.ofList number.written), rest) := by
  obtain ⟨c, cs, hwritten, hc⟩ := number.exists_eq_cons
  have hnumber := number?_written number hrest
  have hne {mark : Char} (hmark : isNumberStart mark = false) : c ≠ mark := by
    rintro rfl
    rw [hc] at hmark
    cases hmark
  have hn : 'n' ≠ c := (hne rfl).symm
  have ht : 't' ≠ c := (hne rfl).symm
  have hf : 'f' ≠ c := (hne rfl).symm
  have hquote : c ≠ '"' := hne rfl
  have hkeyword : keyword? (c :: (cs ++ rest)) = none := by
    simp [keyword?, keywords, hn, ht, hf]
  have htext : text? (c :: (cs ++ rest)) = none := by
    simp [text?, guard, hquote]
  rw [hwritten, List.cons_append] at hnumber ⊢
  rw [value?_scalar gap (isGap_eq_false hc (by decide)) (hne rfl) (hne rfl),
    htext, hkeyword, hnumber]
  rfl

/-- What is read of a literal, if nothing stands behind it that a number could
go on with. -/
theorem value?_literal (gap : Gap) {value : Literal} (h : IsFinite value)
    {rest : List Char} (hrest : StopsAt isNumberPart rest) (depth : Nat) :
    value? (depth + 1) (gap.val ++ ((literal value).toList ++ rest)) =
      some (.ofLiteral value, rest) := by
  rcases literal_cases h with ⟨string, hwritten, hvalue⟩ |
    ⟨number, hwritten, hvalue⟩
  · rw [hwritten, hvalue, value?_text]
  · rw [hwritten, hvalue, value?_number gap number hrest]

theorem squeeze_literal {value : Literal} (h : IsFinite value)
    (rest : List Char) :
    squeeze ((literal value).toList ++ rest) =
      (literal value).toList ++ squeeze rest := by
  rcases literal_cases h with ⟨string, hwritten, -⟩ | ⟨number, hwritten, -⟩
  · rw [hwritten, squeeze_text]
  · rw [hwritten]
    apply squeeze_append
    intro c hc
    have hchar := number.isNumberChar_of_mem hc
    refine ⟨?_, isGap_eq_false hchar (by decide)⟩
    rintro rfl
    cases hchar

/-- A literal does not start with a closing bracket or with white space. -/
theorem exists_literal_eq_cons {value : Literal} (h : IsFinite value) :
    ∃ c cs, (literal value).toList = c :: cs ∧ isGap c = false ∧ c ≠ ']' := by
  rcases literal_cases h with ⟨string, hwritten, -⟩ | ⟨number, hwritten, -⟩
  · have htext := toList_text_append string []
    rw [List.append_nil] at htext
    rw [hwritten, htext]
    exact ⟨'"', _, rfl, rfl, by decide⟩
  · obtain ⟨c, cs, hcons, hc⟩ := number.exists_eq_cons
    refine ⟨c, cs, hwritten.trans hcons, isGap_eq_false hc (by decide), ?_⟩
    rintro rfl
    cases hc

/-! ## Layouts -/

/-- The white space in a layout: before a member of the object, behind a colon,
before an item of the array, before the closing bracket and before the closing
brace. -/
structure Gaps where
  member : Gap
  value : Gap
  item : Gap
  bracket : Gap
  brace : Gap

namespace Gaps

/-- No white space at all. -/
def compact : Gaps := ⟨.none, .none, .none, .none, .none⟩

/-- Each member and each item on a line of its own. -/
def pretty : Gaps where
  member := ⟨['\n', ' ', ' '], rfl⟩
  value := ⟨[' '], rfl⟩
  item := ⟨['\n', ' ', ' ', ' ', ' '], rfl⟩
  bracket := ⟨['\n', ' ', ' '], rfl⟩
  brace := ⟨['\n'], rfl⟩

variable (gaps : Gaps)

/-- The literals behind the first one, and the closing bracket. -/
def others : List Literal → List Char
  | [] => gaps.bracket.val ++ [']']
  | value :: values =>
    ',' :: (gaps.item.val ++ ((literal value).toList ++ others values))

/-- Some literals as an array. -/
def array : List Literal → List Char
  | [] => ['[', ']']
  | value :: values =>
    '[' :: (gaps.item.val ++ ((literal value).toList ++ gaps.others values))

/-- A fragment as an object with two members. -/
def object (fragment : Fragment) : List Char :=
  let sql := (text fragment.sql).toList
  let params := gaps.array fragment.params
  '\x7b' :: (gaps.member.val ++ ((text "sql").toList ++ ':' ::
    (gaps.value.val ++ (sql ++ ',' ::
      (gaps.member.val ++ ((text "params").toList ++ ':' ::
        (gaps.value.val ++ (params ++ (gaps.brace.val ++ ['\x7d'])))))))))

theorem others_eq (value : Literal) (values : List Literal) :
    (literal value).toList ++ gaps.others values =
      (',' :: gaps.item.val).intercalate
          ((value :: values).map fun value => (literal value).toList) ++
        (gaps.bracket.val ++ [']']) := by
  induction values generalizing value with
  | nil => rw [List.map_singleton, List.intercalate_singleton, others]
  | cons next values ih =>
    rw [List.map_cons, List.map_cons, List.intercalate_cons_cons, others, ih,
      List.append_assoc, List.append_assoc]
    rfl

end Gaps

theorem toList_array_compact (params : List Literal) :
    Gaps.compact.array params =
      '[' :: ((",".intercalate (params.map literal)).toList ++ [']']) := by
  cases params with
  | nil => rfl
  | cons value values =>
    have hothers := Gaps.others_eq .compact value values
    rw [Gaps.array, hothers, String.toList_intercalate, List.map_map]
    rfl

theorem toList_paramLines (params : List Literal) :
    (Fragment.paramLines params).toList = Gaps.pretty.array params := by
  cases params with
  | nil => rfl
  | cons value values =>
    have hothers := Gaps.others_eq .pretty value values
    have hopening : "[\n    ".toList = '[' :: Gaps.pretty.item.val := rfl
    have hcomma : ",\n    ".toList = ',' :: Gaps.pretty.item.val := rfl
    have hclosing : "\n  ]".toList = Gaps.pretty.bracket.val ++ [']'] := rfl
    have hlines : Fragment.paramLines (value :: values) = "[\n    " ++
        ",\n    ".intercalate ((value :: values).map literal) ++ "\n  ]" := rfl
    rw [Gaps.array, hothers, hlines]
    simp only [String.toList_append, String.toList_intercalate, List.map_map,
      hopening, hcomma, hclosing, List.append_assoc, List.cons_append]
    rfl

theorem toList_toJson (fragment : Fragment) :
    fragment.toJson.toList = Gaps.compact.object fragment := by
  have hsql : "\x7b\"sql\":".toList =
      '\x7b' :: ((text "sql").toList ++ [':']) := by decide +kernel
  have hparams : ",\"params\":[".toList =
      ',' :: ((text "params").toList ++ [':', '[']) := by decide +kernel
  have hclosing : "]\x7d".toList = [']', '\x7d'] := rfl
  rw [Gaps.object, toList_array_compact, Fragment.toJson]
  simp only [String.toList_append, hsql, hparams, hclosing]
  simp [Gaps.compact, Gap.none]

theorem toList_toPrettyJson (fragment : Fragment) :
    fragment.toPrettyJson.toList = Gaps.pretty.object fragment := by
  have hsql : "\x7b\n  \"sql\": ".toList =
      '\x7b' :: (Gaps.pretty.member.val ++ ((text "sql").toList ++
        ':' :: Gaps.pretty.value.val)) := by
    decide +kernel
  have hparams : ",\n  \"params\": ".toList =
      ',' :: (Gaps.pretty.member.val ++ ((text "params").toList ++
        ':' :: Gaps.pretty.value.val)) := by
    decide +kernel
  have hclosing : "\n\x7d".toList = Gaps.pretty.brace.val ++ ['\x7d'] := rfl
  simp only [Gaps.object, Fragment.toPrettyJson, String.toList_append, hsql,
    hparams, hclosing, toList_paramLines, List.append_assoc, List.cons_append]

/-! ## Reading layouts -/

theorem dropGap_append_cons (gap : Gap) {c : Char} (hc : isGap c = false)
    (rest : List Char) : dropGap (gap.val ++ c :: rest) = c :: rest :=
  dropGap_append gap (stopsAt_cons hc rest)

theorem dropGap_cons {c : Char} (hc : isGap c = false) (rest : List Char) :
    dropGap (c :: rest) = c :: rest :=
  dropGap_append_cons .none hc rest

variable (gaps : Gaps)

theorem others_nil_append (rest : List Char) :
    gaps.others [] ++ rest = gaps.bracket.val ++ ']' :: rest :=
  List.append_assoc _ _ _

theorem others_cons_append (value : Literal) (values : List Literal)
    (rest : List Char) :
    gaps.others (value :: values) ++ rest =
      ',' :: (gaps.item.val ++
        ((literal value).toList ++ (gaps.others values ++ rest))) := by
  simp [Gaps.others]

theorem array_cons_append (value : Literal) (values : List Literal)
    (rest : List Char) :
    gaps.array (value :: values) ++ rest =
      '[' :: (gaps.item.val ++
        ((literal value).toList ++ (gaps.others values ++ rest))) := by
  simp [Gaps.array]

/-- A number cannot go on with what stands behind a literal in an array. -/
theorem stopsAt_others (values : List Literal) (rest : List Char) :
    StopsAt isNumberPart (gaps.others values ++ rest) := by
  cases values with
  | cons value values => exact stopsAt_cons rfl _
  | nil =>
    rw [others_nil_append]
    rcases hgap : gaps.bracket.val with _ | ⟨c, cs⟩
    · exact stopsAt_cons rfl _
    · have hc : isGap c = true := by
        apply gaps.bracket.isGap_of_mem
        rw [hgap]
        exact List.mem_cons_self
      apply stopsAt_cons
      rw [Bool.eq_false_iff]
      intro hpart
      rw [isGap_eq_false hpart (by decide)] at hc
      cases hc

/-- The literals of an array are read back, in order. -/
theorem items?_others (gap : Gap) {value : Literal} {values : List Literal}
    (h : ∀ literal ∈ value :: values, IsFinite literal) (rest : List Char)
    {depth : Nat} (hdepth : values.length + 2 ≤ depth) :
    items? depth (gap.val ++
        ((literal value).toList ++ (gaps.others values ++ rest))) =
      some ((value :: values).map Value.ofLiteral, rest) := by
  -- By induction on the literals behind the first one, each of which takes up
  -- a level of the depth.
  induction values generalizing gap value depth with
  | nil =>
    obtain ⟨depth, rfl⟩ := Nat.exists_eq_add_of_le' hdepth
    have hvalue := value?_literal gap (h value List.mem_cons_self)
      (stopsAt_others gaps [] rest) depth
    rw [others_nil_append] at hvalue ⊢
    change items? (depth + 1 + 1) _ = _
    rw [items?, hvalue]
    simp only [Option.bind_eq_bind, Option.bind_some]
    rw [dropGap_append_cons gaps.bracket rfl]
    rfl
  | cons next values ih =>
    obtain ⟨depth, rfl⟩ := Nat.exists_eq_add_of_le' hdepth
    obtain ⟨hfirst, hothers⟩ := List.forall_mem_cons.mp h
    have hvalue := value?_literal gap hfirst
      (stopsAt_others gaps (next :: values) rest) (depth + values.length + 1)
    have hrest := ih gaps.item hothers (Nat.le_add_left _ depth)
    change items? (depth + values.length + 1 + 1) _ = _ at hrest
    rw [others_cons_append] at hvalue ⊢
    change items? (depth + values.length + 1 + 1 + 1) _ = _
    rw [items?, hvalue]
    simp only [Option.bind_eq_bind, Option.bind_some]
    rw [dropGap_cons rfl]
    simp only [hrest, Option.bind_some]
    rfl

/-- An array of literals is read back. -/
theorem value?_array (gap : Gap) {params : List Literal}
    (h : ∀ value ∈ params, IsFinite value) (rest : List Char) {depth : Nat}
    (hdepth : params.length + 2 ≤ depth) :
    value? depth (gap.val ++ (gaps.array params ++ rest)) =
      some (.array (params.map Value.ofLiteral), rest) := by
  obtain ⟨depth, rfl⟩ := Nat.exists_eq_add_of_le' hdepth
  cases params with
  | nil =>
    change value? (depth + 1 + 1) (gap.val ++ '[' :: ']' :: rest) = _
    rw [value?, dropGap_append_cons gap rfl]
    rfl
  | cons value values =>
    obtain ⟨c, cs, hliteral, hgap, hbracket⟩ :=
      exists_literal_eq_cons (h value List.mem_cons_self)
    have hitems := items?_others gaps .none h rest
      (Nat.le_add_left (values.length + 2) depth)
    have hdrop : dropGap (gaps.item.val ++ ((literal value).toList ++
        (gaps.others values ++ rest))) =
        Gap.none.val ++
          ((literal value).toList ++ (gaps.others values ++ rest)) := by
      rw [hliteral]
      exact dropGap_append_cons gaps.item hgap _
    change value? (depth + (values.length + 2) + 1) _ = _
    rw [array_cons_append, value?, dropGap_append_cons gap rfl]
    simp only
    rw [hdrop]
    split
    next heq =>
      rw [hliteral] at heq
      exact absurd (List.cons.inj heq).1 hbracket
    next =>
      rw [hitems]
      rfl

theorem dropGap_text (gap : Gap) (value : String) (rest : List Char) :
    dropGap (gap.val ++ ((text value).toList ++ rest)) =
      (text value).toList ++ rest := by
  rw [toList_text_append]
  exact dropGap_append_cons gap rfl _

/-- A member of an object is read behind its name and its colon. -/
theorem members?_eq (gap : Gap) (name : String) {written rest : List Char}
    {value : Value} {depth : Nat}
    (hvalue : value? depth written = some (value, rest)) :
    members? (depth + 1)
        (gap.val ++ ((text name).toList ++ ':' :: written)) =
      match dropGap rest with
      | ',' :: cs => do
        let (others, cs) ← members? depth cs
        return ((name, value) :: others, cs)
      | '\x7d' :: cs => some ([(name, value)], cs)
      | _ => none := by
  have hname := text?_text name (':' :: written)
  have hcolon : dropGap (':' :: written) = ':' :: written :=
    dropGap_cons rfl written
  rw [members?, dropGap_text, hname]
  simp only [Option.bind_eq_bind, Option.bind_some, hcolon, hvalue]
  rfl

theorem members?_singleton (gap brace : Gap) (name : String)
    {written rest : List Char} {value : Value} {depth : Nat}
    (hvalue : value? depth written =
      some (value, brace.val ++ '\x7d' :: rest)) :
    members? (depth + 1)
        (gap.val ++ ((text name).toList ++ ':' :: written)) =
      some ([(name, value)], rest) := by
  rw [members?_eq gap name hvalue, dropGap_append_cons brace rfl]
  rfl

theorem members?_cons (gap : Gap) (name : String)
    {written behind rest : List Char} {value : Value}
    {others : List (String × Value)} {depth : Nat}
    (hvalue : value? depth written = some (value, ',' :: behind))
    (hothers : members? depth behind = some (others, rest)) :
    members? (depth + 1)
        (gap.val ++ ((text name).toList ++ ':' :: written)) =
      some ((name, value) :: others, rest) := by
  have hcomma : dropGap (',' :: behind) = ',' :: behind :=
    dropGap_cons rfl behind
  rw [members?_eq gap name hvalue, hcomma]
  simp only [hothers, Option.bind_eq_bind, Option.bind_some]
  rfl

/-- What a fragment is read back as. -/
def Value.ofFragment (fragment : Fragment) : Value :=
  .object [("sql", .text fragment.sql),
    ("params", .array (fragment.params.map Value.ofLiteral))]

/-- A fragment is read back, whatever the white space is. -/
theorem value?_object {fragment : Fragment}
    (h : ∀ value ∈ fragment.params, IsFinite value) {depth : Nat}
    (hdepth : fragment.params.length + 2 ≤ depth) :
    value? (depth + 3) (gaps.object fragment) =
      some (.ofFragment fragment, []) := by
  have hparams := members?_singleton gaps.member gaps.brace "params"
    (value?_array gaps gaps.value h (gaps.brace.val ++ ['\x7d']) hdepth)
  have hmembers := members?_cons .none "sql"
    (value?_text gaps.value fragment.sql _ depth) hparams
  rw [Gap.none_append] at hmembers
  rw [Gaps.object, value?, dropGap_cons rfl]
  simp only
  rw [dropGap_text]
  -- What stands behind the opening brace is a quote and no closing brace.
  split
  next heq =>
    rw [toList_text_append] at heq
    exact absurd (List.cons.inj heq).1 (by decide)
  next =>
    change (members? (depth + 1 + 1) _).bind _ = _
    rw [hmembers]
    rfl

theorem length_lt_object (fragment : Fragment) :
    fragment.params.length + 2 < (gaps.object fragment).length := by
  have hothers (values : List Literal) :
      values.length < (gaps.others values).length := by
    induction values with
    | nil => simp [Gaps.others]
    | cons value values ih =>
      simp only [Gaps.others, List.length_cons, List.length_append]
      omega
  have harray :
      fragment.params.length < (gaps.array fragment.params).length := by
    cases fragment.params with
    | nil => exact Nat.zero_lt_succ 1
    | cons value values =>
      have hvalues := hothers values
      simp only [Gaps.array, List.length_cons, List.length_append]
      omega
  simp only [Gaps.object, List.length_cons, List.length_append]
  omega

/-- A fragment is read back from its layouts. -/
theorem read?_of_toList_eq {fragment : Fragment}
    (h : ∀ value ∈ fragment.params, IsFinite value) {string : String}
    (hstring : string.toList = gaps.object fragment) :
    read? string = some (.ofFragment fragment) := by
  have hlength := length_lt_object gaps fragment
  rw [← hstring, String.length_toList] at hlength
  have hdepth : fragment.params.length + 2 ≤ 2 * string.length - 2 := by omega
  have hturns : 2 * string.length + 1 = 2 * string.length - 2 + 3 := by omega
  rw [read?, hturns, hstring, value?_object gaps h hdepth]
  rfl

/-! ## Layouts without white space -/

theorem squeeze_others {values : List Literal}
    (h : ∀ value ∈ values, IsFinite value) (rest : List Char) :
    squeeze (gaps.others values ++ rest) =
      Gaps.compact.others values ++ squeeze rest := by
  induction values with
  | nil =>
    rw [others_nil_append, others_nil_append,
      squeeze_gap gaps.bracket.isGap_of_mem, squeeze_cons (by decide) rfl]
    rfl
  | cons value values ih =>
    obtain ⟨hvalue, hvalues⟩ := List.forall_mem_cons.mp h
    rw [others_cons_append, others_cons_append, squeeze_cons (by decide) rfl,
      squeeze_gap gaps.item.isGap_of_mem, squeeze_literal hvalue, ih hvalues]
    rfl

theorem squeeze_array {params : List Literal}
    (h : ∀ value ∈ params, IsFinite value) (rest : List Char) :
    squeeze (gaps.array params ++ rest) =
      Gaps.compact.array params ++ squeeze rest := by
  cases params with
  | nil =>
    change squeeze ('[' :: ']' :: rest) = '[' :: ']' :: squeeze rest
    rw [squeeze_cons (by decide) rfl, squeeze_cons (by decide) rfl]
  | cons value values =>
    obtain ⟨hvalue, hvalues⟩ := List.forall_mem_cons.mp h
    rw [array_cons_append, array_cons_append, squeeze_cons (by decide) rfl,
      squeeze_gap gaps.item.isGap_of_mem, squeeze_literal hvalue,
      squeeze_others gaps hvalues]
    rfl

/-- A fragment without the white space between its tokens. -/
theorem squeeze_object {fragment : Fragment}
    (h : ∀ value ∈ fragment.params, IsFinite value) :
    squeeze (gaps.object fragment) = Gaps.compact.object fragment := by
  have hmember (rest : List Char) :
      squeeze (gaps.member.val ++ rest) = squeeze rest :=
    squeeze_gap gaps.member.isGap_of_mem rest
  have hvalue (rest : List Char) :
      squeeze (gaps.value.val ++ rest) = squeeze rest :=
    squeeze_gap gaps.value.isGap_of_mem rest
  have hbrace : squeeze (gaps.brace.val ++ ['\x7d']) = ['\x7d'] := by
    rw [squeeze_gap gaps.brace.isGap_of_mem, squeeze_cons (by decide) rfl]
    rfl
  rw [Gaps.object, squeeze_cons (by decide) rfl, hmember, squeeze_text,
    squeeze_cons (by decide) rfl, hvalue, squeeze_text,
    squeeze_cons (by decide) rfl, hmember, squeeze_text,
    squeeze_cons (by decide) rfl, hvalue, squeeze_array gaps h, hbrace]
  simp only [Gaps.object, Gaps.compact, Gap.none_append]

end Json

/-! ## Both layouts -/

namespace Fragment

/-- Both layouts of a fragment are JSON, and both stand for an object with the
text of the fragment and with its parameters, whose kinds can be told from the
items.  They differ in the white space between their tokens only. -/
structure ReadsBack (fragment : Fragment) (items : List Json.Value) :
    Prop where
  toJson : Json.read? fragment.toJson =
    some (.object [("sql", .text fragment.sql), ("params", .array items)])
  toPrettyJson : Json.read? fragment.toPrettyJson =
    some (.object [("sql", .text fragment.sql), ("params", .array items)])
  params : List.Forall₂ Json.IsShown fragment.params items
  kinds : ∀ others, List.Forall₂ Json.IsShown others items →
    others.map Literal.kind = fragment.params.map Literal.kind
  squeeze : Json.squeeze fragment.toPrettyJson.toList = fragment.toJson.toList

/-- A fragment is read back from both its layouts, whatever characters its
texts have, if none of its real numbers is infinite or no number. -/
theorem exists_readsBack (fragment : Fragment)
    (h : ∀ value ∈ fragment.params, Json.IsFinite value) :
    ∃ items, fragment.ReadsBack items := by
  have hshown : List.Forall₂ Json.IsShown fragment.params
      (fragment.params.map Json.Value.ofLiteral) := by
    rw [List.forall₂_map_right_iff, List.forall₂_same]
    exact fun value hvalue => Json.isShown_ofLiteral (h value hvalue)
  refine ⟨fragment.params.map Json.Value.ofLiteral, ?_⟩
  exact {
    toJson := Json.read?_of_toList_eq .compact h
      (Json.toList_toJson fragment)
    toPrettyJson := Json.read?_of_toList_eq .pretty h
      (Json.toList_toPrettyJson fragment)
    params := hshown
    kinds := fun others hothers => Json.map_kind_eq hothers hshown
    squeeze := by
      rw [Json.toList_toPrettyJson, Json.toList_toJson,
        Json.squeeze_object .pretty h] }

/-- Control characters, quotes and a character beyond sixteen bits, a negative
integer and a half. -/
theorem exists_readsBack_mixed :
    let params : List Literal :=
      [.text "\x00\"\\", .integer (-5), .real ⟨0x3fe0000000000000⟩]
    (∀ value ∈ params, Json.IsFinite value) ∧
      ∃ items, (Fragment.mk "a = ?\n𝄞" params).ReadsBack items := by
  intro params
  have hfinite : ∀ value ∈ params, Json.IsFinite value := by
    simp only [params, List.forall_mem_cons]
    refine ⟨?_, ?_, ?_, List.forall_mem_nil _⟩ <;> rintro x ⟨⟩
    rfl
  exact ⟨hfinite, exists_readsBack _ hfinite⟩

/-- The layout on one line. -/
example : toJson ⟨"a = ?\n𝄞",
    [.text "\x00\"\\", .integer (-5), .real ⟨0x3fe0000000000000⟩]⟩ =
      "\x7b\"sql\":\"a = ?\\n𝄞\"," ++
        "\"params\":[\"\\u0000\\\"\\\\\",-5,0.5]\x7d" := by
  decide +kernel

end Fragment

end DocFilter
