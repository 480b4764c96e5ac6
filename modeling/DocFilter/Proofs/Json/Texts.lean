import DocFilter.Proofs.Json.Reader
import DocFilter.Proofs.Lexemes.Scanning

/-!
# Texts in JSON

A text is escaped so that it can be read back, whatever its characters are, and
so that white space between tokens can be told from white space in a text.
-/

namespace DocFilter.Json

/-! ## Escapes -/

theorem length_unitDigits {n : Nat} (hn : n < 0x20) :
    (unitDigits n).length = 4 := by
  have hall : ∀ n < 0x20, (unitDigits n).length = 4 := by decide +kernel
  exact hall n hn

theorem codeUnit?_unitDigits {n : Nat} (hn : n < 0x20) :
    Scan.codeUnit? (unitDigits n) = some n := by
  have hall : ∀ n < 0x20, Scan.codeUnit? (unitDigits n) = some n := by
    decide +kernel
  exact hall n hn

theorem escape?_unitDigits {n : Nat} (hn : n < 0x20) (rest : List Char) :
    escape? ('u' :: (unitDigits n ++ rest)) = some (Char.ofNat n, rest) := by
  have hhigh : Scan.isHighHalf n = false := by
    have hall : ∀ n < 0x20, Scan.isHighHalf n = false := by decide
    exact hall n hn
  have hlow : Scan.isLowHalf n = false := by
    have hall : ∀ n < 0x20, Scan.isLowHalf n = false := by decide
    exact hall n hn
  have hdrop : (unitDigits n ++ rest).drop 4 = rest := by
    rw [← length_unitDigits hn, List.drop_left]
  simp only [escape?, Scan.codeUnit?_append (length_unitDigits hn),
    codeUnit?_unitDigits hn, Option.bind_eq_bind, Option.bind_some, hhigh,
    hlow, hdrop]
  rfl

/-- A character is read back from how it stands in a text. -/
theorem character?_escaped (c : Char) (rest : List Char) :
    character? (escaped c ++ rest) = some (c, rest) := by
  unfold escaped
  split_ifs with hmark hb hf hn hr ht hcontrol
  · rcases hmark with rfl | rfl <;> rfl
  · rw [hb]; rfl
  · rw [hf]; rfl
  · rw [hn]; rfl
  · rw [hr]; rfl
  · rw [ht]; rfl
  · have hescape := escape?_unitDigits hcontrol rest
    rw [Char.ofNat_toNat] at hescape
    exact hescape
  · rw [not_or] at hmark
    change character? (c :: rest) = _
    unfold character?
    split
    next heq => exact absurd (List.cons.inj heq).1 hmark.2
    next heq =>
      obtain ⟨rfl, rfl⟩ := List.cons.inj heq
      rw [if_neg (not_or.mpr ⟨hmark.1, hcontrol⟩)]
    next heq => cases heq

theorem head?_escaped_ne (c : Char) (rest : List Char) :
    (escaped c ++ rest).head? ≠ some '"' := by
  unfold escaped
  split_ifs with hmark <;> simp_all

/-! ## Texts -/

theorem textRest?_escaped (cs rest : List Char) {turns : Nat}
    (hturns : cs.length < turns) :
    textRest? turns (cs.flatMap escaped ++ '"' :: rest) = some (cs, rest) := by
  induction cs generalizing turns with
  | nil =>
    obtain ⟨turns, rfl⟩ := Nat.exists_eq_add_one_of_ne_zero
      (Nat.ne_of_gt (Nat.zero_lt_of_lt hturns))
    rfl
  | cons c cs ih =>
    obtain ⟨turns, rfl⟩ := Nat.exists_eq_add_one_of_ne_zero
      (Nat.ne_of_gt (Nat.zero_lt_of_lt hturns))
    have hothers := ih (Nat.lt_of_succ_lt_succ hturns)
    rw [List.flatMap_cons, List.append_assoc, textRest?,
      if_neg (head?_escaped_ne c _), character?_escaped]
    simp only [Option.bind_eq_bind, Option.bind_some, hothers]
    rfl

theorem toList_text_append (value : String) (rest : List Char) :
    (text value).toList ++ rest =
      '"' :: (value.toList.flatMap escaped ++ '"' :: rest) := by
  simp [text, String.toList_append]

theorem length_le_flatMap_escaped (cs : List Char) :
    cs.length ≤ (cs.flatMap escaped).length := by
  have hpos (c : Char) : 1 ≤ (escaped c).length := by
    unfold escaped
    split_ifs <;> simp
  induction cs with
  | nil => exact Nat.zero_le _
  | cons c cs ih =>
    have hc := hpos c
    rw [List.flatMap_cons, List.length_append, List.length_cons]
    omega

/-- A text is read back. -/
theorem text?_text (value : String) (rest : List Char) :
    text? ((text value).toList ++ rest) = some (value, rest) := by
  have hlength : value.toList.length <
      ('"' :: (value.toList.flatMap escaped ++ '"' :: rest)).length := by
    have hle := length_le_flatMap_escaped value.toList
    rw [List.length_cons, List.length_append]
    omega
  rw [toList_text_append, text?, List.drop_one, List.tail_cons,
    textRest?_escaped value.toList rest hlength]
  simp [guard]

/-! ## White space -/

mutual

/-- The text without the white space between its tokens. -/
def squeeze : List Char → List Char
  | [] => []
  | c :: cs =>
    if c = '"' then c :: squeezeText cs
    else if isGap c then squeeze cs
    else c :: squeeze cs

/-- The same from behind the opening quote of a text in it. -/
def squeezeText : List Char → List Char
  | [] => []
  | [c] => [c]
  | c :: d :: cs =>
    if c = '\\' then c :: d :: squeezeText cs
    else if c = '"' then c :: squeeze (d :: cs)
    else c :: squeezeText (d :: cs)

end

theorem squeeze_gap {gap : List Char} (h : ∀ c ∈ gap, isGap c = true)
    (rest : List Char) : squeeze (gap ++ rest) = squeeze rest := by
  induction gap with
  | nil => rfl
  | cons c gap ih =>
    obtain ⟨hc, hgap⟩ := List.forall_mem_cons.mp h
    have hquote : c ≠ '"' := by
      rintro rfl
      cases hc
    rw [List.cons_append, squeeze, if_neg hquote, if_pos hc, ih hgap]

theorem squeeze_cons {c : Char} (hquote : c ≠ '"') (hgap : isGap c = false)
    (rest : List Char) : squeeze (c :: rest) = c :: squeeze rest := by
  rw [squeeze, if_neg hquote, hgap, if_neg Bool.false_ne_true]

/-- Characters that are neither quotes nor white space stay. -/
theorem squeeze_append {cs : List Char}
    (h : ∀ c ∈ cs, c ≠ '"' ∧ isGap c = false) (rest : List Char) :
    squeeze (cs ++ rest) = cs ++ squeeze rest := by
  induction cs with
  | nil => rfl
  | cons c cs ih =>
    obtain ⟨⟨hquote, hgap⟩, hcs⟩ := List.forall_mem_cons.mp h
    rw [List.cons_append, squeeze_cons hquote hgap, ih hcs, List.cons_append]

theorem squeezeText_escape (c : Char) (rest : List Char) :
    squeezeText ('\\' :: c :: rest) = '\\' :: c :: squeezeText rest := by
  rw [squeezeText, if_pos rfl]

theorem squeezeText_cons {c : Char} (hbackslash : c ≠ '\\')
    (hquote : c ≠ '"') (rest : List Char) :
    squeezeText (c :: rest) = c :: squeezeText rest := by
  cases rest with
  | nil => rw [squeezeText, squeezeText]
  | cons d rest => rw [squeezeText, if_neg hbackslash, if_neg hquote]

theorem squeezeText_quote (rest : List Char) :
    squeezeText ('"' :: rest) = '"' :: squeeze rest := by
  cases rest with
  | nil => rw [squeezeText, squeeze]
  | cons d rest => rw [squeezeText, if_neg (by decide), if_pos rfl]

theorem squeezeText_unitDigits {n : Nat} (hn : n < 0x20) (rest : List Char) :
    squeezeText (unitDigits n ++ rest) = unitDigits n ++ squeezeText rest := by
  have hall : ∀ n < 0x20,
      ((unitDigits n).all fun c => c != '\\' && c != '"') = true := by
    decide +kernel
  have hdigits := hall n hn
  generalize unitDigits n = digits at hdigits ⊢
  induction digits with
  | nil => rfl
  | cons c digits ih =>
    rw [List.all_cons, Bool.and_eq_true, Bool.and_eq_true, bne_iff_ne,
      bne_iff_ne] at hdigits
    obtain ⟨⟨hbackslash, hquote⟩, hothers⟩ := hdigits
    rw [List.cons_append, squeezeText_cons hbackslash hquote, ih hothers,
      List.cons_append]

theorem squeezeText_escaped (c : Char) (rest : List Char) :
    squeezeText (escaped c ++ rest) = escaped c ++ squeezeText rest := by
  unfold escaped
  split_ifs with hmark hb hf hn hr ht hcontrol
  · exact squeezeText_escape c rest
  · exact squeezeText_escape 'b' rest
  · exact squeezeText_escape 'f' rest
  · exact squeezeText_escape 'n' rest
  · exact squeezeText_escape 'r' rest
  · exact squeezeText_escape 't' rest
  · rw [List.append_assoc, List.append_assoc]
    change squeezeText ('\\' :: 'u' :: (unitDigits c.toNat ++ rest)) = _
    rw [squeezeText_escape, squeezeText_unitDigits hcontrol]
    rfl
  · rw [not_or] at hmark
    exact squeezeText_cons hmark.2 hmark.1 rest

/-- The white space in a text stays. -/
theorem squeeze_text (value : String) (rest : List Char) :
    squeeze ((text value).toList ++ rest) =
      (text value).toList ++ squeeze rest := by
  have hcontent (cs : List Char) :
      squeezeText (cs.flatMap escaped ++ '"' :: rest) =
        cs.flatMap escaped ++ '"' :: squeeze rest := by
    induction cs with
    | nil => exact squeezeText_quote rest
    | cons c cs ih =>
      rw [List.flatMap_cons, List.append_assoc, squeezeText_escaped, ih,
        List.append_assoc]
  rw [toList_text_append, toList_text_append, squeeze, if_pos rfl,
    hcontent value.toList]

end DocFilter.Json
