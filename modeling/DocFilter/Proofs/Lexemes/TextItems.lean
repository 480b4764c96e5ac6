import DocFilter.Proofs.Lexemes.Splitting

/-!
# Writing texts

Between its quotes a text is written in items, and each item stands for one
character: a character for itself, a letter behind a backslash, a code unit in
four hexadecimal digits, or two code units for the halves of a pair.  A row of
items is read as the characters that it stands for, and nothing else is read as
a text.  Since every character is one code unit or a pair of them, every text
can be written.
-/

namespace DocFilter

open Text

/-! ## Code units -/

/-- A hexadecimal digit, which is a capital letter or a small one from ten
on. -/
structure HexDigit where
  value : Fin 16
  isCapital : Bool

/-- The character that a digit is written with. -/
def HexDigit.char (digit : HexDigit) : Char :=
  if digit.isCapital then (Nat.digitChar digit.value).toUpper
  else Nat.digitChar digit.value

/-- Sixteen bits in four hexadecimal digits. -/
structure CodeUnit where
  first : HexDigit
  second : HexDigit
  third : HexDigit
  fourth : HexDigit

namespace CodeUnit

/-- The characters that a code unit is written with. -/
def written (unit : CodeUnit) : List Char :=
  [unit.first.char, unit.second.char, unit.third.char, unit.fourth.char]

/-- The number that a code unit is. -/
def value (unit : CodeUnit) : Nat :=
  ((unit.first.value * 16 + unit.second.value) * 16 + unit.third.value) * 16 +
    unit.fourth.value

/-- The code unit is the first half of a pair. -/
def IsHigh (unit : CodeUnit) : Prop := 0xD800 ≤ unit.value ∧ unit.value < 0xDC00

/-- The code unit is the second half of a pair. -/
def IsLow (unit : CodeUnit) : Prop := 0xDC00 ≤ unit.value ∧ unit.value < 0xE000

/-- The number of the character that the two halves of a pair stand for. -/
def join (high low : CodeUnit) : Nat :=
  0x10000 + (high.value - 0xD800) * 0x400 + (low.value - 0xDC00)

/-- A number of sixteen bits, in small letters. -/
def ofNat (n : Nat) : CodeUnit :=
  let digit (n : Nat) : HexDigit := ⟨Fin.ofNat 16 n, false⟩
  ⟨digit (n / 4096), digit (n / 256), digit (n / 16), digit n⟩

theorem value_ofNat {n : Nat} (h : n < 0x10000) : (ofNat n).value = n := by
  simp only [ofNat, value, Fin.val_ofNat]
  omega

theorem value_lt (unit : CodeUnit) : unit.value < 0x10000 := by
  have hfirst := unit.first.value.isLt
  have hsecond := unit.second.value.isLt
  have hthird := unit.third.value.isLt
  have hfourth := unit.fourth.value.isLt
  unfold value
  omega

end CodeUnit

/-! ## Items -/

/-- The letters that stand for a character behind a backslash. -/
def shortEscapes : List (Char × Char) :=
  [('"', '"'), ('\'', '\''), ('\\', '\\'), ('b', '\x08'), ('f', '\x0c'),
    ('n', '\n'), ('r', '\r'), ('t', '\t')]

/-- What stands for a character between the quotes of a text. -/
inductive TextItem where
  | plain (c : Char)
  | short (letter value : Char) (mem : (letter, value) ∈ shortEscapes)
  | codeUnit (unit : CodeUnit) (not_high : ¬unit.IsHigh) (not_low : ¬unit.IsLow)
  | pair (high low : CodeUnit) (isHigh : high.IsHigh) (isLow : low.IsLow)

namespace TextItem

/-- The characters that an item is written with. -/
def written : TextItem → List Char
  | plain c => [c]
  | short letter _ _ => ['\\', letter]
  | codeUnit unit _ _ => '\\' :: 'u' :: unit.written
  | pair high low _ _ =>
    '\\' :: 'u' :: high.written ++ '\\' :: 'u' :: low.written

/-- The number of the character that an item stands for. -/
def codePoint : TextItem → Nat
  | plain c => c.toNat
  | short _ value _ => value.toNat
  | codeUnit unit _ _ => unit.value
  | pair high low _ _ => high.join low

/-- The character that an item stands for. -/
def char (item : TextItem) : Char := Char.ofNat item.codePoint

/-- An item can stand between two quotes of a kind.  Only a quote of this kind
and a backslash cannot stand for themselves. -/
def FitsIn (quote : Char) : TextItem → Prop
  | plain c => c ≠ quote ∧ c ≠ '\\'
  | _ => True

/-- An item has the number of a character, so it stands for the character with
this number. -/
theorem toNat_char (item : TextItem) : item.char.toNat = item.codePoint := by
  have hvalid : item.codePoint.isValidChar := by
    cases item with
    | plain c => exact c.valid
    | short letter value => exact value.valid
    | codeUnit unit hhigh hlow =>
      have hlt := unit.value_lt
      simp only [CodeUnit.IsHigh, CodeUnit.IsLow] at hhigh hlow
      simp only [codePoint, Nat.isValidChar]
      omega
    | pair high low hhigh hlow =>
      simp only [CodeUnit.IsHigh, CodeUnit.IsLow] at hhigh hlow
      simp only [codePoint, Nat.isValidChar]
      unfold CodeUnit.join
      omega
  rw [char, Char.ofNat, dif_pos hvalid]
  rfl

end TextItem

/-! ## Reading items -/

theorem Scan.escaped?_eq_some_iff {letter value : Char} :
    escaped? letter = some value ↔ (letter, value) ∈ shortEscapes := by
  constructor
  · intro h
    unfold escaped? at h
    split at h <;> cases h <;> decide
  · intro h
    simp only [shortEscapes, List.mem_cons, Prod.mk.injEq, List.not_mem_nil,
      or_false] at h
    rcases h with ⟨rfl, rfl⟩ | ⟨rfl, rfl⟩ | ⟨rfl, rfl⟩ | ⟨rfl, rfl⟩ |
      ⟨rfl, rfl⟩ | ⟨rfl, rfl⟩ | ⟨rfl, rfl⟩ | ⟨rfl, rfl⟩ <;> rfl

theorem HexDigit.hexDigit?_char (digit : HexDigit) :
    Scan.hexDigit? digit.char = some digit.value.val := by
  have hall : ∀ (value : Fin 16) (isCapital : Bool),
      Scan.hexDigit? (HexDigit.mk value isCapital).char = some value.val := by
    decide
  exact hall digit.value digit.isCapital

/-- What is taken for a digit is one. -/
theorem Scan.exists_hexDigit {c : Char} {n : Nat} (h : hexDigit? c = some n) :
    ∃ digit : HexDigit, digit.char = c ∧ digit.value.val = n := by
  -- Each range of characters is counted from its first one.
  have hrange {low high : Char} {value : Nat} {isCapital : Bool}
      (hlow : low ≤ c) (hhigh : c ≤ high)
      (hall : ∀ n ≤ high.toNat - low.toNat, ∃ hlt : n + value < 16,
        (HexDigit.mk ⟨n + value, hlt⟩ isCapital).char =
          Char.ofNat (low.toNat + n)) :
      ∃ digit : HexDigit, digit.char = c ∧
        digit.value.val = c.toNat - low.toNat + value := by
    have hlow' : low.toNat ≤ c.toNat := hlow
    have hhigh' : c.toNat ≤ high.toNat := hhigh
    obtain ⟨hlt, hchar⟩ := hall (c.toNat - low.toNat) (by omega)
    rw [Nat.add_sub_cancel' hlow', Char.ofNat_toNat] at hchar
    exact ⟨_, hchar, rfl⟩
  unfold hexDigit? at h
  split at h
  next hdigit =>
    cases h
    exact @hrange '0' '9' 0 false hdigit.1 hdigit.2 (by decide)
  split at h
  next hsmall =>
    cases h
    exact @hrange 'a' 'f' 10 false hsmall.1 hsmall.2 (by decide)
  split at h
  next hcapital =>
    cases h
    exact @hrange 'A' 'F' 10 true hcapital.1 hcapital.2 (by decide)
  next => cases h

theorem CodeUnit.codeUnit?_written (unit : CodeUnit) :
    Scan.codeUnit? unit.written = some unit.value := by
  simp only [written, Scan.codeUnit?, HexDigit.hexDigit?_char,
    Option.pure_def, Option.bind_eq_bind, Option.bind_some, value,
    Option.some.injEq]
  omega

/-- Four characters that are taken for a code unit are one. -/
theorem Scan.exists_codeUnit {digits : List Char} {n : Nat}
    (hlength : digits.length = 4) (h : codeUnit? digits = some n) :
    ∃ unit : CodeUnit, unit.written = digits ∧ unit.value = n := by
  obtain ⟨a, b, c, d, rfl⟩ : ∃ a b c d, digits = [a, b, c, d] := by
    rcases digits with _ | ⟨a, _ | ⟨b, _ | ⟨c, _ | ⟨d, _ | ⟨e, digits⟩⟩⟩⟩⟩ <;>
      simp at hlength
    exact ⟨a, b, c, d, rfl⟩
  simp only [codeUnit?, Option.pure_def, Option.bind_eq_bind,
    Option.bind_eq_some_iff, Option.some.injEq] at h
  obtain ⟨w, hw, x, hx, y, hy, z, hz, rfl⟩ := h
  obtain ⟨first, rfl, rfl⟩ := exists_hexDigit hw
  obtain ⟨second, rfl, rfl⟩ := exists_hexDigit hx
  obtain ⟨third, rfl, rfl⟩ := exists_hexDigit hy
  obtain ⟨fourth, rfl, rfl⟩ := exists_hexDigit hz
  refine ⟨⟨first, second, third, fourth⟩, rfl, ?_⟩
  simp only [CodeUnit.value]
  omega

theorem CodeUnit.isHigh_iff (unit : CodeUnit) :
    unit.IsHigh ↔ Scan.isHighHalf unit.value = true := by
  simp [IsHigh, Scan.isHighHalf]

theorem CodeUnit.isLow_iff (unit : CodeUnit) :
    unit.IsLow ↔ Scan.isLowHalf unit.value = true := by
  simp [IsLow, Scan.isLowHalf]

/-- Every escape is an item, and it fits in quotes of either kind. -/
theorem IsEscape.exists_item {written : List Char} {value : Char}
    (h : IsEscape written value) :
    ∃ item : TextItem, (∀ quote, item.FitsIn quote) ∧
      item.written = written ∧ item.char = value := by
  cases h with
  | @single letter value hletter =>
    exact ⟨.short letter value (Scan.escaped?_eq_some_iff.mp hletter),
      fun _ => trivial, rfl, Char.ofNat_toNat value⟩
  | unit hlength hdigits hhigh hlow =>
    obtain ⟨unit, rfl, rfl⟩ := Scan.exists_codeUnit hlength hdigits
    have hhigh' : ¬unit.IsHigh := by
      rw [unit.isHigh_iff, hhigh]
      decide
    have hlow' : ¬unit.IsLow := by
      rw [unit.isLow_iff, hlow]
      decide
    exact ⟨.codeUnit unit hhigh' hlow', fun _ => trivial, rfl, rfl⟩
  | pair hlength hdigits hhigh hlength' hdigits' hlow =>
    obtain ⟨high, rfl, rfl⟩ := Scan.exists_codeUnit hlength hdigits
    obtain ⟨low, rfl, rfl⟩ := Scan.exists_codeUnit hlength' hdigits'
    exact ⟨.pair high low (high.isHigh_iff.mpr hhigh) (low.isLow_iff.mpr hlow),
      fun _ => trivial, rfl, rfl⟩

/-- An item that fits in the quotes is read before the others. -/
theorem TextItem.isContent_cons {quote : Char} {item : TextItem}
    (h : item.FitsIn quote) {written value : List Char}
    (others : IsContent quote written value) :
    IsContent quote (item.written ++ written) (item.char :: value) := by
  cases item with
  | plain c =>
    rw [char, codePoint, Char.ofNat_toNat]
    exact .plain h.1 h.2 others
  | short letter value hmem =>
    rw [char, codePoint, Char.ofNat_toNat]
    exact .escape (.single (Scan.escaped?_eq_some_iff.mpr hmem)) others
  | codeUnit unit hhigh hlow =>
    rw [unit.isHigh_iff, Bool.not_eq_true] at hhigh
    rw [unit.isLow_iff, Bool.not_eq_true] at hlow
    exact .escape (.unit rfl unit.codeUnit?_written hhigh hlow) others
  | pair high low hhigh hlow =>
    exact .escape (.pair rfl high.codeUnit?_written (high.isHigh_iff.mp hhigh)
      rfl low.codeUnit?_written (low.isLow_iff.mp hlow)) others

/-- What can stand between two quotes is a row of items that fit there. -/
theorem isContent_iff_exists_items {quote : Char} {written value : List Char} :
    IsContent quote written value ↔
      ∃ items : List TextItem, (∀ item ∈ items, item.FitsIn quote) ∧
        items.flatMap TextItem.written = written ∧
        items.map TextItem.char = value := by
  constructor
  · intro h
    induction h with
    | nil => exact ⟨[], List.forall_mem_nil _, rfl, rfl⟩
    | @plain c _ _ hquote hbackslash _ ih =>
      obtain ⟨items, hitems, rfl, rfl⟩ := ih
      refine ⟨.plain c :: items,
        List.forall_mem_cons.mpr ⟨⟨hquote, hbackslash⟩, hitems⟩, rfl, ?_⟩
      rw [List.map_cons, TextItem.char, TextItem.codePoint, Char.ofNat_toNat]
    | escape first _ ih =>
      obtain ⟨items, hitems, rfl, rfl⟩ := ih
      obtain ⟨item, hitem, rfl, rfl⟩ := first.exists_item
      exact ⟨item :: items, List.forall_mem_cons.mpr ⟨hitem quote, hitems⟩,
        rfl, rfl⟩
  · rintro ⟨items, hitems, rfl, rfl⟩
    induction items with
    | nil => exact .nil
    | cons item items ih =>
      obtain ⟨hitem, hitems⟩ := List.forall_mem_cons.mp hitems
      exact item.isContent_cons hitem (ih hitems)

/-! ## Texts in quotes -/

/-- A row of items between two quotes. -/
def quotedItems (quote : Char) (items : List TextItem) : List Char :=
  quote :: items.flatMap TextItem.written ++ [quote]

/-- The characters that a row of items stands for. -/
def TextItem.text (items : List TextItem) : String :=
  String.ofList (items.map TextItem.char)

theorem Literal.ofDigits?_ne_text (whole fraction : List Char)
    (value : String) : ofDigits? whole fraction ≠ some (.text value) := by
  unfold ofDigits?
  dsimp only
  split_ifs <;> simp

/-- The lexemes of a text are the rows of items between two quotes. -/
theorem isLexeme_text_iff {written rest : List Char} {value : String} :
    IsLexeme written (.literal (.text value)) rest ↔
      ∃ quote items, (quote = '"' ∨ quote = '\'') ∧
        (∀ item ∈ items, TextItem.FitsIn quote item) ∧
        written = quotedItems quote items ∧ value = TextItem.text items := by
  constructor
  · intro h
    cases h with
    | symbol hsymbol => exact hsymbol.elim
    | text hquote hcontent =>
      obtain ⟨items, hitems, rfl, rfl⟩ := isContent_iff_exists_items.mp hcontent
      exact ⟨_, items, hquote, hitems, rfl, rfl⟩
    | number hnumber =>
      cases hnumber with
      | whole _ hvalue => exact absurd hvalue (Literal.ofDigits?_ne_text _ _ _)
      | fraction _ _ _ hvalue =>
        exact absurd hvalue (Literal.ofDigits?_ne_text _ _ _)
  · rintro ⟨quote, items, hquote, hitems, rfl, rfl⟩
    exact .text hquote (isContent_iff_exists_items.mpr ⟨items, hitems, rfl, rfl⟩)

/-! ## Writing every text -/

/-- The code units of a character in UTF-16. -/
def utf16Units (c : Char) : List Nat :=
  if c.toNat < 0x10000 then [c.toNat]
  else [0xD800 + (c.toNat - 0x10000) / 0x400,
    0xDC00 + (c.toNat - 0x10000) % 0x400]

/-- A text in the code units of its characters. -/
def writtenInUnits (value : String) : List Char :=
  value.toList.flatMap fun c =>
    (utf16Units c).flatMap fun unit => '\\' :: 'u' :: (CodeUnit.ofNat unit).written

/-- A character is one code unit, or the two halves of a pair. -/
theorem exists_item_of_char (c : Char) :
    ∃ item : TextItem, (∀ quote, item.FitsIn quote) ∧
      item.written = (utf16Units c).flatMap
        (fun unit => '\\' :: 'u' :: (CodeUnit.ofNat unit).written) ∧
      item.char = c := by
  have hvalid : c.toNat.isValidChar := c.valid
  rw [Nat.isValidChar] at hvalid
  have hchar {item : TextItem} (h : item.codePoint = c.toNat) : item.char = c :=
    Char.toNat_inj.mp (item.toNat_char.trans h)
  unfold utf16Units
  by_cases hsmall : c.toNat < 0x10000
  · have hvalue := CodeUnit.value_ofNat hsmall
    rw [if_pos hsmall]
    refine ⟨.codeUnit (.ofNat c.toNat) ?_ ?_, fun _ => trivial, rfl, hchar hvalue⟩
    · simp only [CodeUnit.IsHigh, hvalue]
      omega
    · simp only [CodeUnit.IsLow, hvalue]
      omega
  · have hhigh := @CodeUnit.value_ofNat
      (0xD800 + (c.toNat - 0x10000) / 0x400) (by omega)
    have hlow := @CodeUnit.value_ofNat
      (0xDC00 + (c.toNat - 0x10000) % 0x400) (by omega)
    rw [if_neg hsmall]
    refine ⟨.pair (.ofNat (0xD800 + (c.toNat - 0x10000) / 0x400))
      (.ofNat (0xDC00 + (c.toNat - 0x10000) % 0x400)) ?_ ?_, fun _ => trivial,
      rfl, hchar ?_⟩
    · simp only [CodeUnit.IsHigh, hhigh]
      omega
    · simp only [CodeUnit.IsLow, hlow]
      omega
    · simp only [TextItem.codePoint]
      unfold CodeUnit.join
      omega

theorem exists_items_writtenInUnits (value : String) :
    ∃ items : List TextItem, (∀ item ∈ items, ∀ quote, item.FitsIn quote) ∧
      items.flatMap TextItem.written = writtenInUnits value ∧
      TextItem.text items = value := by
  have hitems (cs : List Char) : ∃ items : List TextItem,
      (∀ item ∈ items, ∀ quote, item.FitsIn quote) ∧
      items.flatMap TextItem.written = cs.flatMap (fun c =>
        (utf16Units c).flatMap fun unit =>
          '\\' :: 'u' :: (CodeUnit.ofNat unit).written) ∧
      items.map TextItem.char = cs := by
    induction cs with
    | nil => exact ⟨[], List.forall_mem_nil _, rfl, rfl⟩
    | cons c cs ih =>
      obtain ⟨item, hitem, hwritten, hchar⟩ := exists_item_of_char c
      obtain ⟨items, hfits, hitems, hchars⟩ := ih
      refine ⟨item :: items, List.forall_mem_cons.mpr ⟨hitem, hfits⟩, ?_, ?_⟩
      · rw [List.flatMap_cons, List.flatMap_cons, hwritten, hitems]
      · rw [List.map_cons, hchar, hchars]
  obtain ⟨items, hfits, hwritten, hchars⟩ := hitems value.toList
  refine ⟨items, hfits, hwritten, ?_⟩
  rw [TextItem.text, hchars, String.ofList_toList]

/-- Between two quotes, a row of items that fit there is read as the characters
that it stands for, whatever stands behind. -/
theorem Scan.token_quotedItems {quote : Char} (hquote : quote = '"' ∨ quote = '\'')
    {items : List TextItem} (hitems : ∀ item ∈ items, item.FitsIn quote)
    {cursor cursor' : Cursor}
    (hmove : cursor.MovesOver (quotedItems quote items) cursor') :
    Scan.token cursor = .ok (.literal (.text (TextItem.text items))) cursor' := by
  have hlexeme : IsLexeme (quotedItems quote items)
      (.literal (.text (TextItem.text items))) cursor'.rest :=
    isLexeme_text_iff.mpr ⟨quote, items, hquote, hitems, rfl, rfl⟩
  have hstops : StopsAt isBlank cursor.rest := by
    rw [hmove.rest_eq]
    exact hlexeme.stopsAt_isBlank
  exact (token_eq_ok_iff hstops).mpr (Or.inr ⟨_, hlexeme, hmove⟩)

/-- Between two quotes of a kind every row of items that fit there is read as
the characters that it stands for, and the cursor then stands behind the closing
quote.  What is read as a text is, behind white space, such a row.  Every text
can be written in code units and is read back unchanged. -/
theorem token_text_iff_items :
    (∀ (quote : Char) (items : List TextItem) (cursor cursor' : Cursor),
      (quote = '"' ∨ quote = '\'') → (∀ item ∈ items, item.FitsIn quote) →
        cursor.MovesOver (quotedItems quote items) cursor' →
          Scan.token cursor =
            .ok (.literal (.text (TextItem.text items))) cursor') ∧
      (∀ (cursor cursor' : Cursor) (value : String),
        Scan.token cursor = .ok (.literal (.text value)) cursor' →
          ∃ gap quote items, (∀ c ∈ gap, isBlank c = true) ∧
            (quote = '"' ∨ quote = '\'') ∧
            (∀ item ∈ items, TextItem.FitsIn quote item) ∧
            value = TextItem.text items ∧
            cursor.MovesOver (gap ++ quotedItems quote items) cursor') ∧
      ∀ (value : String) (quote : Char) (cursor cursor' : Cursor),
        (quote = '"' ∨ quote = '\'') →
          cursor.MovesOver (quote :: writtenInUnits value ++ [quote]) cursor' →
            Scan.token cursor = .ok (.literal (.text value)) cursor' := by
  refine ⟨?_, ?_, ?_⟩
  · intro quote items cursor cursor' hquote hitems hmove
    exact Scan.token_quotedItems hquote hitems hmove
  · intro cursor cursor' value htoken
    obtain ⟨gap, hgap, hmove, hstops⟩ := cursor.exists_gap
    rw [← Scan.token_dropBlanks] at htoken
    rcases (Scan.token_eq_ok_iff hstops).mp htoken with
      ⟨hend, -⟩ | ⟨written, hlexeme, hmove'⟩
    · cases hend
    · obtain ⟨quote, items, hquote, hitems, rfl, rfl⟩ :=
        isLexeme_text_iff.mp hlexeme
      exact ⟨gap, quote, items, hgap, hquote, hitems, rfl, hmove.trans hmove'⟩
  · intro value quote cursor cursor' hquote hmove
    obtain ⟨items, hitems, hwritten, rfl⟩ := exists_items_writtenInUnits value
    rw [← hwritten] at hmove
    exact Scan.token_quotedItems hquote (fun item hitem => hitems item hitem quote)
      hmove

/-- A letter of two bytes, a quote behind a backslash, and the two halves of a
pair in digits of both kinds. -/
theorem token_text_iff_items_pair :
    let items : List TextItem :=
      [.plain 'é', .short '\'' '\'' (by decide),
        .pair ⟨⟨0xD, true⟩, ⟨8, false⟩, ⟨3, false⟩, ⟨0xD, false⟩⟩
          (.ofNat 0xDE00) ⟨by decide, by decide⟩ ⟨by decide, by decide⟩]
    let cursor := Cursor.atStart "'é\\'\\uD83d\\ude00'x"
    (∀ item ∈ items, TextItem.FitsIn '\'' item) ∧
      TextItem.text items = "é'😀" ∧
      cursor.MovesOver (quotedItems '\'' items) ⟨18, ['x']⟩ ∧
      Scan.token cursor = .ok (.literal (.text "é'😀")) ⟨18, ['x']⟩ ∧
      ∃ gap quote items', (∀ c ∈ gap, isBlank c = true) ∧
        (quote = '"' ∨ quote = '\'') ∧
        (∀ item ∈ items', TextItem.FitsIn quote item) ∧
        "é'😀" = TextItem.text items' ∧
        cursor.MovesOver (gap ++ quotedItems quote items') ⟨18, ['x']⟩ := by
  intro items cursor
  have hitems : ∀ item ∈ items, TextItem.FitsIn '\'' item := by
    simp only [items, List.forall_mem_cons, TextItem.FitsIn]
    exact ⟨by decide, trivial, trivial, List.forall_mem_nil _⟩
  have htext : TextItem.text items = "é'😀" := by decide
  have hmove : cursor.MovesOver (quotedItems '\'' items) ⟨18, ['x']⟩ :=
    ⟨by decide, by decide⟩
  obtain ⟨hread, hwritten, -⟩ := token_text_iff_items
  have htoken := hread '\'' items cursor ⟨18, ['x']⟩ (Or.inr rfl) hitems hmove
  rw [htext] at htoken
  exact ⟨hitems, htext, hmove, htoken, hwritten cursor _ _ htoken⟩

end DocFilter
