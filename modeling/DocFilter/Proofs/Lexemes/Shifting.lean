import DocFilter.Proofs.Reading.Sequencing
import DocFilter.Token.Scan
import Mathlib.Tactic.SplitIfs

/-!
# Scanning further on

The bytes before a cursor are counted and not looked at.  A scan of the same
characters from a cursor that stands some bytes further on stops after the same
characters, with the same result, and only the positions in it are greater by as
many bytes.
-/

namespace DocFilter

open Text

/-- The same characters, some bytes further on. -/
def Text.Cursor.shift (bytes : Nat) (cursor : Cursor) : Cursor :=
  ⟨cursor.offset + bytes, cursor.rest⟩

/-- The same token, some bytes further on. -/
def PlacedToken.shift (bytes : Nat) (placed : PlacedToken) : PlacedToken :=
  ⟨placed.offset + bytes, placed.token⟩

/-- The same fault, some bytes further on. -/
def LexicalError.shift (bytes : Nat) (error : LexicalError) : LexicalError :=
  ⟨error.fault, error.position + bytes⟩

theorem Text.Cursor.shift_drop (bytes count : Nat) (cursor : Cursor) :
    (cursor.shift bytes).drop count = (cursor.drop count).shift bytes :=
  congrArg (Cursor.mk · _) (Nat.add_right_comm _ _ _)

namespace Scan

variable {bytes : Nat} {α β γ δ : Type}

/-- A result with its positions some bytes further on, where `act` moves those
in the value. -/
def shiftResult (bytes : Nat) (act : α → β) :
    EStateM.Result LexicalError Cursor α → EStateM.Result LexicalError Cursor β
  | .ok value cursor => .ok (act value) (cursor.shift bytes)
  | .error error cursor => .error (error.shift bytes) (cursor.shift bytes)

theorem left_shiftResult (bytes : Nat) (act : α → β)
    (result : EStateM.Result LexicalError Cursor α) :
    left (shiftResult bytes act result) = (left result).shift bytes := by
  cases result <;> rfl

/-- Some bytes further on, `image` does what `scan` does. -/
def Shifts (bytes : Nat) (act : α → β) (scan : Scan α) (image : Scan β) : Prop :=
  ∀ cursor : Cursor,
    image (cursor.shift bytes) = shiftResult bytes act (scan cursor)

/-! ## Sequencing and single steps -/

theorem Shifts.pure {act : α → β} {value : α} {image : β} (h : image = act value) :
    Shifts bytes act (Pure.pure value) (Pure.pure image) := by
  intro cursor
  rw [h]
  rfl

theorem Shifts.bind {act : α → β} {act' : γ → δ} {scan : Scan α} {image : Scan β}
    {next : α → Scan γ} {next' : β → Scan δ} (hscan : Shifts bytes act scan image)
    (hnext : ∀ value, Shifts bytes act' (next value) (next' (act value))) :
    Shifts bytes act' (scan >>= next) (image >>= next') := by
  intro cursor
  have himage := hscan cursor
  cases hresult : scan cursor with
  | ok value middle =>
    rw [hresult] at himage
    rw [bind_of_eq_ok hresult, bind_of_eq_ok himage]
    exact hnext value middle
  | error error middle =>
    rw [hresult] at himage
    rw [bind_of_eq_error hresult, bind_of_eq_error himage]
    rfl

theorem Shifts.fail {act : α → β} (fault : LexicalFault) {place place' : Nat}
    (h : place' = place + bytes) :
    Shifts bytes act (fail fault place) (fail fault place') := by
  intro cursor
  rw [h]
  rfl

theorem Shifts.position : Shifts bytes (· + bytes) position position :=
  fun _ => rfl

theorem Shifts.skip (count : Nat) : Shifts bytes id (skip count) (skip count) :=
  fun cursor => congrArg (EStateM.Result.ok ()) (cursor.shift_drop bytes count)

theorem Shifts.dropBlanks :
    Shifts bytes id (modify Cursor.dropBlanks : Scan Unit)
      (modify Cursor.dropBlanks) :=
  fun cursor => congrArg (EStateM.Result.ok ()) (cursor.shift_drop bytes _)

/-- A step that is chosen by the characters at the cursor. -/
theorem Shifts.get_bind {act : α → β} {next : Cursor → Scan α}
    {image : Cursor → Scan β}
    (h : ∀ cursor, Shifts bytes act (next cursor) (image (cursor.shift bytes))) :
    Shifts bytes act (get >>= next) (get >>= image) :=
  fun cursor => h cursor cursor

theorem Shifts.next? : Shifts bytes id next? next? := by
  unfold Scan.next?
  apply Shifts.get_bind
  intro cursor
  exact (Shifts.skip 1).bind fun _ => Shifts.pure rfl

theorem Shifts.ite {act : α → β} (p : Prop) [Decidable p] {scan other : Scan α}
    {image otherImage : Scan β} (hscan : p → Shifts bytes act scan image)
    (hother : ¬p → Shifts bytes act other otherImage) :
    Shifts bytes act (if p then scan else other)
      (if p then image else otherImage) := by
  by_cases hp : p
  · rw [if_pos hp, if_pos hp]
    exact hscan hp
  · rw [if_neg hp, if_neg hp]
    exact hother hp

/-! ## Texts -/

theorem shifts_codeUnit (backslash : Nat) :
    Shifts bytes id (codeUnit backslash) (codeUnit (backslash + bytes)) := by
  unfold codeUnit
  apply Shifts.get_bind
  intro cursor
  simp only [Cursor.shift]
  cases codeUnit? cursor.rest with
  | none => exact Shifts.fail _ rfl
  | some unit => exact (Shifts.skip 4).bind fun _ => Shifts.pure rfl

theorem shifts_codePoint (backslash : Nat) :
    Shifts bytes id (codePoint backslash) (codePoint (backslash + bytes)) := by
  unfold codePoint
  apply (shifts_codeUnit backslash).bind
  intro unit
  simp only [id_eq]
  refine Shifts.ite _ (fun _ => ?_) fun _ => Shifts.ite _ (fun _ => ?_) fun _ => ?_
  · apply Shifts.get_bind
    intro cursor
    simp only [Cursor.shift]
    split
    · apply (Shifts.skip 2).bind
      intro _
      apply (shifts_codeUnit backslash).bind
      intro low
      refine Shifts.ite _ (fun _ => Shifts.pure ?_) fun _ => Shifts.fail _ rfl
      rw [id_eq, id_eq]
    · exact Shifts.fail _ rfl
  · exact Shifts.fail _ rfl
  · exact Shifts.pure rfl

theorem shifts_escape (opening : Nat) :
    Shifts bytes id (escape opening) (escape (opening + bytes)) := by
  apply Shifts.position.bind
  intro backslash
  apply (Shifts.skip 1).bind
  intro _
  apply Shifts.next?.bind
  intro c
  simp only [id_eq]
  split
  · exact Shifts.fail _ rfl
  · exact shifts_codePoint backslash
  · split
    · exact Shifts.pure rfl
    · exact Shifts.fail _ rfl

theorem shifts_textBody (opening : Nat) (quote : Char) (turns : List Char)
    (before : String) :
    Shifts bytes id (textBody opening quote turns before)
      (textBody (opening + bytes) quote turns before) := by
  induction turns generalizing before with
  | nil => exact Shifts.fail _ rfl
  | cons turn turns ih =>
    unfold textBody
    apply Shifts.get_bind
    intro cursor
    simp only [Cursor.shift, Cursor.peek?, Cursor.peekNth?]
    split
    · exact Shifts.fail _ rfl
    · refine Shifts.ite _ (fun _ => ?_) fun _ => Shifts.ite _ (fun _ => ?_) fun _ => ?_
      · exact (Shifts.skip 1).bind fun _ => Shifts.pure rfl
      · exact (shifts_escape opening).bind fun x => ih _
      · exact (Shifts.skip 1).bind fun _ => ih _

theorem shifts_text (quote : Char) : Shifts bytes id (text quote) (text quote) := by
  apply Shifts.position.bind
  intro opening
  apply (Shifts.skip 1).bind
  intro _
  apply Shifts.get_bind
  intro cursor
  exact (shifts_textBody opening quote cursor.rest "").bind fun _ => Shifts.pure rfl

/-! ## Tokens -/

theorem shifts_number : Shifts bytes id number number := by
  apply Shifts.position.bind
  intro start
  apply Shifts.get_bind
  intro cursor
  apply (Shifts.skip _).bind
  intro _
  simp only [Cursor.shift]
  split
  · exact Shifts.pure rfl
  · exact Shifts.fail _ rfl

theorem shifts_name : Shifts bytes id name name := by
  apply Shifts.get_bind
  intro cursor
  exact (Shifts.skip _).bind fun _ => Shifts.pure rfl

theorem shifts_word (c : Char) : Shifts bytes id (word c) (word c) := by
  apply Shifts.position.bind
  intro start
  refine Shifts.ite _ (fun _ => shifts_text c) fun _ =>
    Shifts.ite _ (fun _ => shifts_number) fun _ =>
    Shifts.ite _ (fun _ => shifts_name) fun _ =>
    Shifts.ite _ (fun _ => Shifts.fail _ rfl) fun _ =>
    Shifts.ite _ (fun _ => ?_) fun _ => Shifts.fail _ rfl
  exact (Shifts.skip 1).bind fun _ => Shifts.fail _ rfl

theorem shifts_token : Shifts bytes id token token := by
  apply Shifts.dropBlanks.bind
  intro _
  apply Shifts.get_bind
  intro cursor
  simp only [Cursor.shift]
  split
  · exact (Shifts.skip _).bind fun _ => Shifts.pure rfl
  · split
    · exact Shifts.pure rfl
    · exact shifts_word _

/-- The next token is the same some bytes further on, and only its place and
that of a fault are moved. -/
theorem shifts_placedToken :
    Shifts bytes (PlacedToken.shift bytes) placedToken placedToken := by
  apply Shifts.dropBlanks.bind
  intro _
  apply Shifts.position.bind
  intro offset
  exact shifts_token.bind fun _ => Shifts.pure rfl

end Scan

end DocFilter
