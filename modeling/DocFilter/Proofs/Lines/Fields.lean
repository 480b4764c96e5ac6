import DocFilter.Program.Command
import DocFilter.Proofs.Decimal.Spelling
import DocFilter.Proofs.Lexemes.Gaps
import DocFilter.Proofs.Lines.Quoted
import DocFilter.Proofs.Syntax.Paths
import Mathlib.Data.List.Forall2

/-!
# Token listings

The listing of a text has one line for each of its tokens.  A line has no line
break in it and splits at its tabs into an offset, a kind and, for a literal or
a name, how that is shown.  The offsets are places in the text and ascend from
line to line, and what shows a name or a text tells which one it is.
-/

namespace DocFilter

open Text

/-! ## Fields -/

/-- The fields of a line, which tabs set apart. -/
def Line.fields (line : String) : List (List Char) := line.toList.splitOn '\t'

/-- The offset that a line starts with. -/
def Line.offset (line : String) : Nat :=
  Literal.digitsValue ((fields line).headD [])

/-- The characters are the decimal digits of a number, without leading
zeros. -/
def IsDecimal (digits : List Char) (n : Nat) : Prop :=
  IsWhole digits ∧ Literal.digitsValue digits = n

/-- The text that a field shows in quotes, or else the name that it is. -/
def Token.readWord? : List Char → Option Token
  | '"' :: cs =>
    match readQuoted? .between cs with
    | some (value, []) => some (.literal (.text (String.ofList value)))
    | _ => none
  | cs => some (.name (String.ofList cs))

/-- The fields show a token: a symbol has two of them, and a literal or a name
a third one.  Names and texts are read back from their third field alone, and
so no two of them are shown alike. -/
inductive AreFields : PlacedToken → List (List Char) → Prop
  | symbol {offset : Nat} {token : Token} {digits : List Char}
    (hoffset : IsDecimal digits offset) (h : token.IsSymbol) :
    AreFields ⟨offset, token⟩ [digits, token.kind.toList]
  | number {offset : Nat} {value : Literal} {digits : List Char}
    (hoffset : IsDecimal digits offset) (h : ∀ text, value ≠ .text text) :
    AreFields ⟨offset, .literal value⟩
      [digits, "NUMBER_LITERAL".toList, value.shown.toList]
  | text {offset : Nat} {value : String} {digits : List Char}
    (hoffset : IsDecimal digits offset)
    (h : Token.readWord? (quoted value).toList =
      some (.literal (.text value))) :
    AreFields ⟨offset, .literal (.text value)⟩
      [digits, "STRING_LITERAL".toList, (quoted value).toList]
  | name {offset : Nat} {text : String} {digits : List Char}
    (hoffset : IsDecimal digits offset)
    (h : Token.readWord? text.toList = some (.name text)) :
    AreFields ⟨offset, .name text⟩
      [digits, "IDENTIFIER".toList, text.toList]

/-- The lines are a listing of the tokens of a text. -/
structure IsListing (text : String) (tokens : List PlacedToken)
    (lines : List String) : Prop where
  length_eq : lines.length = tokens.length
  notMem_lineBreak : ∀ line ∈ lines, '\n' ∉ line.toList ∧ '\r' ∉ line.toList
  areFields : List.Forall₂ (fun placed line => AreFields placed (Line.fields line))
    tokens lines
  offsets : (lines.map Line.offset).Pairwise (· < ·)
  /-- The offsets count the bytes before the tokens. -/
  isSplit : IsSplit [] text.toList tokens

/-! ## Reading words back -/

theorem Token.readWord?_quoted (value : String) :
    readWord? (quoted value).toList = some (.literal (.text value)) := by
  rw [toList_quoted, readWord?, readQuoted?_flatMap]
  simp only [String.ofList_toList]

theorem IsName.readWord?_eq {text : String} (h : IsName text) :
    Token.readWord? text.toList = some (.name text) := by
  have hquote := h.notMem_doubleQuote
  unfold Token.readWord?
  split
  next heq =>
    rw [heq] at hquote
    exact absurd List.mem_cons_self hquote
  next => rw [String.ofList_toList]

/-! ## Characters of fields -/

/-- The characters that set lines and fields apart. -/
def separators : List Char := ['\t', '\n', '\r']

/-- The characters stand in one field. -/
def IsField (cs : List Char) : Prop := ∀ c ∈ cs, c ∉ separators

instance (cs : List Char) : Decidable (IsField cs) :=
  decidable_of_iff ((cs.all fun c => !separators.contains c) = true)
    (by simp [IsField])

/-- A class of characters without separators makes fields. -/
theorem isField_of_all {p : Char → Bool}
    (hp : (separators.all fun c => !p c) = true) {cs : List Char}
    (h : cs.all p = true) : IsField cs := by
  intro c hc hseparator
  have hnot := List.all_eq_true.mp hp c hseparator
  rw [List.all_eq_true.mp h c hc] at hnot
  exact Bool.false_ne_true hnot

theorem isField_quoted (value : String) : IsField (quoted value).toList := by
  apply isField_of_all (p := fun c => !isObscure c) (by decide +kernel)
  rw [List.all_eq_true]
  intro c hc
  rw [isObscure_eq_false_of_mem_quoted value c hc, Bool.not_false]

theorem IsName.isField {text : String} (h : IsName text) :
    IsField text.toList := by
  obtain ⟨first, cs, htext, hfirst, hcs⟩ := h
  apply isField_of_all (p := fun c => !isBlank c) (by decide)
  rw [htext, List.all_eq_true, List.forall_mem_cons]
  constructor
  · rw [isBlank_eq_false_of_isNameStart hfirst, Bool.not_false]
  · intro c hc
    by_contra hblank
    rw [Bool.not_eq_true, Bool.not_eq_false'] at hblank
    have hpart := isNamePart_eq_false_of_isBlank hblank
    rw [hcs c hc] at hpart
    exact Bool.noConfusion hpart

/-! ## Numbers -/

/-- The characters of numbers in a listing. -/
def isNumberMark (c : Char) : Bool := c.isDigit || c == '.' || c == '-'

theorem isField_of_all_isNumberMark {cs : List Char}
    (h : cs.all isNumberMark = true) : IsField cs :=
  isField_of_all (by decide) h

theorem all_isNumberMark_of_forall_isDigit {cs : List Char}
    (h : ∀ c ∈ cs, c.isDigit = true) : cs.all isNumberMark = true := by
  rw [List.all_eq_true]
  intro c hc
  rw [isNumberMark, h c hc]
  rfl

theorem all_isNumberMark_plain (layout : Decimal.Layout) (exponent : Int)
    {digits : String} (hdigits : ∀ c ∈ digits.toList, c.isDigit = true) :
    (layout.plain digits exponent).toList.all isNumberMark = true := by
  have hpart {cs : List Char} (h : cs ⊆ digits.toList) :
      cs.all isNumberMark = true :=
    all_isNumberMark_of_forall_isDigit fun c hc => hdigits c (h hc)
  have hall := hpart (List.Subset.refl _)
  have hzeros (count : Nat) :
      (Decimal.zeros count).toList.all isNumberMark = true := by
    rw [Decimal.zeros, String.toList_ofList, List.all_replicate]
    split_ifs <;> rfl
  have hend : (if layout.hasPointZero then ".0" else "").toList.all
      isNumberMark = true := by
    split_ifs <;> decide
  have hpoint : ".".toList.all isNumberMark = true := by decide
  have hfront : "0.".toList.all isNumberMark = true := by decide
  rw [Decimal.Layout.plain]
  by_cases hinteger : 0 ≤ exponent
  · simp only [if_pos hinteger, String.toList_append, List.all_append, hall,
      hzeros, hend, Bool.and_self]
  · by_cases hinside : 0 < (digits.length : Int) + exponent
    · simp only [if_neg hinteger, if_pos hinside, String.toList_append,
        String.toList_ofList, List.all_append, hpart (List.take_subset _ _),
        hpart (List.drop_subset _ _), hpoint, Bool.and_self]
    · simp only [if_neg hinteger, if_neg hinside, String.toList_append,
        List.all_append, hfront, hzeros, hall, Bool.and_self]

/-- In a token list a number has no exponent. -/
theorem all_isNumberMark_magnitude (x : Binary64) :
    (Decimal.tokenLayout.magnitude x).toList.all isNumberMark = true := by
  have hplain (leading : Int) : Decimal.tokenLayout.isPlain leading = true := rfl
  rw [Decimal.Layout.magnitude]
  by_cases hzero : x.isZero = true
  · rw [if_pos hzero]
    rfl
  · simp only [if_neg hzero, hplain, if_true]
    exact all_isNumberMark_plain _ _ fun c => Decimal.isDigit_of_mem_toString

theorem isField_write (x : Binary64) :
    IsField (Decimal.tokenLayout.write x).toList := by
  have hsign : (if x.isNegative then "-" else "").toList.all isNumberMark =
      true := by
    split_ifs <;> decide
  rw [Decimal.Layout.write]
  by_cases hnan : x.isNaN = true
  · rw [if_pos hnan]
    decide
  by_cases hinfinite : x.isInfinite = true
  · rw [if_neg hnan, if_pos hinfinite]
    split_ifs <;> decide
  apply isField_of_all_isNumberMark
  rw [if_neg hnan, if_neg hinfinite, String.toList_append, List.all_append,
    hsign, all_isNumberMark_magnitude, Bool.and_self]

theorem isField_toString (n : Int) : IsField (toString n).toList := by
  have hsign : (if n < 0 then ['-'] else []).all isNumberMark = true := by
    split_ifs <;> decide
  have hdigits : (Nat.toDigits 10 n.natAbs).all isNumberMark = true :=
    all_isNumberMark_of_forall_isDigit Decimal.isDigit_of_mem_toDigits
  apply isField_of_all_isNumberMark
  rw [Decimal.toList_toString, List.all_append, hsign, hdigits, Bool.and_self]

/-! ## Parts of a line -/

theorem isField_shown (value : Literal) : IsField value.shown.toList := by
  cases value with
  | text value => exact isField_quoted value
  | integer value => exact isField_toString value.toInt
  | real value => exact isField_write value

theorem isField_kind (token : Token) : IsField token.kind.toList := by
  unfold Token.kind
  split <;> decide

/-! ## Lines -/

/-- The fields that a line is made of. -/
def PlacedToken.fields (placed : PlacedToken) : List (List Char) :=
  (toString placed.offset).toList :: placed.token.kind.toList ::
    match placed.token with
    | .literal _ | .name _ => [placed.token.shown.toList]
    | _ => []

theorem PlacedToken.toList_line (placed : PlacedToken) :
    placed.line.toList = ['\t'].intercalate placed.fields := by
  obtain ⟨offset, token⟩ := placed
  cases token <;> simp [line, fields, String.toList_append, List.intercalate]

/-- A line splits into its fields, if none of them has a tab. -/
theorem PlacedToken.fields_line {placed : PlacedToken}
    (h : ∀ field ∈ placed.fields, IsField field) :
    Line.fields placed.line = placed.fields := by
  rw [Line.fields, toList_line]
  apply List.splitOn_intercalate
  · intro field hfield htab
    exact h field hfield '\t' htab (by decide)
  · exact List.cons_ne_nil _ _

theorem notMem_intercalate {c separator : Char} (hne : c ≠ separator)
    {fields : List (List Char)} (h : ∀ field ∈ fields, c ∉ field) :
    c ∉ [separator].intercalate fields := by
  induction fields with
  | nil => exact List.not_mem_nil
  | cons field others ih =>
    obtain ⟨hfield, hothers⟩ := List.forall_mem_cons.mp h
    by_cases hnil : others = []
    · rw [hnil, List.intercalate_singleton]
      exact hfield
    · rw [List.intercalate_cons_of_ne_nil hnil, List.mem_append,
        List.mem_append, List.mem_singleton]
      rintro ((hmem | hseparator) | hmem)
      · exact hfield hmem
      · exact hne hseparator
      · exact ih hothers hmem

/-- A separator other than the tab is not in a line. -/
theorem PlacedToken.notMem_line {placed : PlacedToken}
    (h : ∀ field ∈ placed.fields, IsField field) {c : Char}
    (hc : c ∈ separators) (hne : c ≠ '\t') : c ∉ placed.line.toList := by
  rw [toList_line]
  exact notMem_intercalate hne fun field hfield hmem =>
    h field hfield c hmem hc

theorem isDecimal_toString (n : Nat) : IsDecimal (toString n).toList n := by
  have hdigits : (toString n).toList = Nat.toDigits 10 n := Nat.toList_repr
  rw [hdigits]
  exact ⟨Decimal.isWhole_toDigits n, Nat.ofDigitChars_ten_toDigits⟩

theorem isField_offset (n : Nat) : IsField (toString n).toList :=
  isField_of_all_isNumberMark <| all_isNumberMark_of_forall_isDigit
    fun _ hc => Decimal.isDigit_of_mem_toString hc

section

variable {written rest : List Char} {token : Token}
  (h : IsLexeme written token rest) (offset : Nat)

include h

/-- What shows a token that is scanned has no separators. -/
theorem IsLexeme.isField_fields :
    ∀ field ∈ PlacedToken.fields ⟨offset, token⟩, IsField field := by
  have hthird : ∀ field ∈ (match token with
      | .literal _ | .name _ => [token.shown.toList]
      | _ => []), IsField field := by
    split
    next value => exact List.forall_mem_singleton.mpr (isField_shown value)
    next text => exact List.forall_mem_singleton.mpr h.isName.isField
    next => exact List.forall_mem_nil _
  rw [PlacedToken.fields, List.forall_mem_cons, List.forall_mem_cons]
  exact ⟨isField_offset offset, isField_kind token, hthird⟩

/-- What a token that is scanned is shown with shows that token. -/
theorem IsLexeme.areFields_fields :
    AreFields ⟨offset, token⟩ (PlacedToken.fields ⟨offset, token⟩) := by
  have hoffset := isDecimal_toString offset
  cases token with
  | literal value =>
    cases value with
    | text value => exact .text hoffset (Token.readWord?_quoted value)
    | integer value => exact .number hoffset fun text => Literal.noConfusion
    | real value => exact .number hoffset fun text => Literal.noConfusion
  | name text => exact .name hoffset h.isName.readWord?_eq
  | endOfText => exact absurd rfl h.ne_endOfText
  | _ => exact .symbol hoffset trivial

end

theorem AreFields.digitsValue_headD {placed : PlacedToken}
    {fields : List (List Char)} (h : AreFields placed fields) :
    Literal.digitsValue (fields.headD []) = placed.offset := by
  cases h with
  | symbol hoffset => exact hoffset.2
  | number hoffset => exact hoffset.2
  | text hoffset => exact hoffset.2
  | name hoffset => exact hoffset.2

/-! ## Listings -/

theorem tokenLines_eq_ok_iff {text : String} {lines : List String} :
    Program.tokenLines text = .ok lines ↔
      ∃ tokens, tokenize text = .ok tokens ∧
        tokens.map PlacedToken.line = lines := by
  unfold Program.tokenLines
  cases tokenize text <;> simp [Except.mapError]

/-- What is printed for a text is a listing of its tokens, whatever characters
the names and texts in it have. -/
theorem isListing_of_tokenLines_eq_ok {text : String} {lines : List String}
    (h : Program.tokenLines text = .ok lines) :
    ∃ tokens, tokenize text = .ok tokens ∧ IsListing text tokens lines := by
  obtain ⟨tokens, htokens, rfl⟩ := tokenLines_eq_ok_iff.mp h
  have hare := tokenize_eq_ok_iff.mp htokens
  have hfields : ∀ placed ∈ tokens, ∀ field ∈ placed.fields, IsField field := by
    intro placed hplaced
    obtain ⟨written, rest, hlexeme⟩ := hare.exists_isLexeme placed hplaced
    exact hlexeme.isField_fields placed.offset
  have hshown : ∀ placed ∈ tokens, AreFields placed (Line.fields placed.line) := by
    intro placed hplaced
    obtain ⟨written, rest, hlexeme⟩ := hare.exists_isLexeme placed hplaced
    rw [PlacedToken.fields_line (hfields placed hplaced)]
    exact hlexeme.areFields_fields placed.offset
  have hoffsets : (tokens.map PlacedToken.line).map Line.offset =
      tokens.map PlacedToken.offset := by
    rw [List.map_map]
    exact List.map_congr_left fun placed hplaced =>
      (hshown placed hplaced).digitsValue_headD
  refine ⟨tokens, htokens, ?_⟩
  exact {
    length_eq := List.length_map _
    notMem_lineBreak := by
      intro line hline
      obtain ⟨placed, hplaced, rfl⟩ := List.mem_map.mp hline
      have hin := hfields placed hplaced
      exact ⟨PlacedToken.notMem_line hin (by decide) (by decide),
        PlacedToken.notMem_line hin (by decide) (by decide)⟩
    areFields := by
      rw [List.forall₂_map_right_iff, List.forall₂_same]
      exact hshown
    offsets := by
      rw [hoffsets, List.pairwise_map]
      exact hare.pairwise_lt.2
    isSplit := hare.isSplit rfl }

/-- A name of two bytes, and a text with a tab, a line break and a space that
cannot be seen. -/
theorem isListing_of_tokenLines_eq_ok_controls :
    let text := "_.é[\"\t\n\\u200b'\"] >= 1.50"
    let lines :=
      ["0\tIDENTIFIER\t_", "1\tDOT", "2\tIDENTIFIER\té", "4\tOPEN_BRACKET",
        "5\tSTRING_LITERAL\t\"\\t\\n\\u\x7b200b\x7d'\"", "16\tCLOSE_BRACKET",
        "18\tOP_GTE", "21\tNUMBER_LITERAL\t1.5"]
    Program.tokenLines text = .ok lines ∧
      ∃ tokens, tokenize text = .ok tokens ∧ IsListing text tokens lines := by
  intro text lines
  have hlines : Program.tokenLines text = .ok lines := by decide +kernel
  exact ⟨hlines, isListing_of_tokenLines_eq_ok hlines⟩

end DocFilter
