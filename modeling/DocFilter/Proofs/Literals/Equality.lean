import DocFilter.Proofs.Lexemes.Splitting
import DocFilter.Proofs.Literals.Source

/-!
# Equality of parameters

Numbers are compared by value, and so two zeros with different signs are equal
and a pattern that is no number does not even equal itself.  A text spells
neither: every number that it spells is finite and has no sign.  Hence the
parameters of a compiled text are equal to others only if they are the same.
-/

namespace DocFilter

/-! ## Numbers -/

namespace Binary64

/-- A number without a sign. -/
def IsPlain (x : Binary64) : Prop := x.isNegative = false ∧ x.isNaN = false

theorem isPlain_ofRatio {num den : Nat}
    (h : (ofRatio num den).isFinite = true) : (ofRatio num den).IsPlain := by
  constructor
  · unfold ofRatio isNegative
    split_ifs with hzero
    · decide
    · have hle : min (roundedPattern num den) infinityPattern ≤
          infinityPattern := Nat.min_le_right _ _
      have hpattern : infinityPattern < Nat.pow 2 63 := by decide
      rw [decide_eq_false_iff_not, UInt64.toNat_ofNat']
      have := Nat.mod_le (min (roundedPattern num den) infinityPattern) (2 ^ 64)
      omega
  · rw [isNaN, decide_eq_false_iff_not, Nat.not_lt]
    exact Nat.le_of_lt (decide_eq_true_iff.mp h)

theorem equals_iff {x y : Binary64} (hx : x.IsPlain) (hy : y.IsPlain) :
    x.equals y = true ↔ x = y := by
  have hpattern {x : Binary64} (hx : x.IsPlain) : x.pattern = x.bits.toNat := by
    have hlt := of_decide_eq_false hx.1
    exact Nat.mod_eq_of_lt (Nat.lt_of_not_le hlt)
  have hzero : (x.isZero && y.isZero) = true → x.bits = y.bits := by
    unfold isZero
    rw [hpattern hx, hpattern hy, Bool.and_eq_true, beq_iff_eq, beq_iff_eq]
    rintro ⟨hx, hy⟩
    exact UInt64.toNat_inj.mp (hx.trans hy.symm)
  have hbits : x = y ↔ x.bits = y.bits := by
    rw [Binary64.mk.injEq]
  rw [hbits, equals, hx.2, hy.2]
  simp only [Bool.not_false, Bool.true_and, Bool.or_eq_true, beq_iff_eq]
  exact ⟨fun h => h.elim id hzero, Or.inl⟩

end Binary64

/-! ## Literals -/

namespace Literal

/-- If the literal is a real number, it has no sign. -/
def IsPlain : Literal → Prop
  | .real x => x.IsPlain
  | _ => True

theorem isPlain_ofDigits? {whole fraction : List Char} {value : Literal}
    (h : ofDigits? whole fraction = some value) : value.IsPlain := by
  unfold ofDigits? at h
  simp only at h
  split_ifs at h with hinteger hfinite
  · cases h
    exact trivial
  · cases h
    exact Binary64.isPlain_ofRatio hfinite

theorem equals_iff {value other : Literal} (h : value.IsPlain)
    (h' : other.IsPlain) : value.equals other = true ↔ value = other := by
  cases value with
  | text s => cases other <;> simp [equals]
  | integer n => cases other <;> simp [equals]
  | real x =>
    cases other with
    | text | integer => simp [equals]
    | real y =>
      rw [Literal.real.injEq]
      exact Binary64.equals_iff h h'

end Literal

theorem IsNumber.isPlain {written rest : List Char} {value : Literal}
    (h : IsNumber written value rest) : value.IsPlain := by
  cases h with
  | whole _ hvalue => exact Literal.isPlain_ofDigits? hvalue
  | fraction _ _ _ hvalue => exact Literal.isPlain_ofDigits? hvalue

theorem IsLexeme.isPlain {written rest : List Char} {value : Literal}
    (h : IsLexeme written (.literal value) rest) : value.IsPlain := by
  cases h with
  | symbol hsymbol => exact hsymbol.elim
  | text hquote hcontent => exact trivial
  | number hnumber => exact hnumber.isPlain

/-! ## Parameters -/

/-- The literals among the tokens of a text are plain. -/
theorem AreTokens.isPlain {offset : Nat} {cs : List Char}
    {tokens : List PlacedToken} (h : AreTokens offset cs tokens) :
    ∀ value ∈ literals (tokens.map PlacedToken.token), value.IsPlain := by
  induction h with
  | nil hgap => exact List.forall_mem_nil _
  | @cons offset gap written rest token others hgap hlexeme hothers ih =>
    rw [List.map_cons, literals_cons, List.forall_mem_append]
    refine ⟨?_, ih⟩
    cases token with
    | literal value => exact List.forall_mem_singleton.mpr hlexeme.isPlain
    | _ => exact List.forall_mem_nil _

/-- The parameters of a compiled text are plain. -/
theorem isPlain_of_compile_eq_ok {text : String} {options : Options}
    {fragment : Fragment} (h : compile text options = .ok fragment) :
    ∀ value ∈ fragment.params, value.IsPlain := by
  obtain ⟨tokens, htokens, hcompile⟩ := compile_eq_ok h
  obtain ⟨expr, rest, hread, hemit⟩ := compileTokens_eq_ok hcompile
  obtain ⟨phrase, hphrase, htree, -⟩ := Reading.derivation_of_complete hread
  have hparams : fragment.params = literals phrase.exchanged.tokens := by
    rw [ScalarExpr.params_emit hemit, JsonExpr.placeholders_asScalar,
      JsonExpr.placeholders_normalize]
    exact phrase.keepsLiterals _ htree
  have hperm := phrase.exchanged_tokens_perm.filterMap Token.literal?
  have hplain := (tokenize_eq_ok_iff.mp htokens).isPlain
  rw [← hphrase] at hplain
  rw [hparams]
  exact fun value hvalue => hplain value (hperm.mem_iff.mp hvalue)

/-- Plain parameters are equal to others only if they are the same. -/
theorem Fragment.equals_iff {fragment fragment' : Fragment}
    (h : ∀ value ∈ fragment.params, value.IsPlain)
    (h' : ∀ value ∈ fragment'.params, value.IsPlain) :
    fragment.equals fragment' = true ↔ fragment = fragment' := by
  have hparams {params params' : List Literal}
      (h : ∀ value ∈ params, value.IsPlain)
      (h' : ∀ value ∈ params', value.IsPlain) :
      (params.length = params'.length ∧
        ∀ pair ∈ params.zip params', pair.1.equals pair.2 = true) ↔
        params = params' := by
    induction params generalizing params' with
    | nil => cases params' <;> simp
    | cons value params ih =>
      cases params' with
      | nil => simp
      | cons value' params' =>
        rw [List.forall_mem_cons] at h h'
        rw [List.zip_cons_cons, List.forall_mem_cons, List.cons.injEq,
          ← ih h.2 h'.2, Literal.equals_iff h.1 h'.1, List.length_cons,
          List.length_cons, Nat.add_right_cancel_iff]
        exact and_left_comm
  rw [Fragment.mk.injEq, ← hparams h h']
  simp [Fragment.equals, and_assoc]

end DocFilter
