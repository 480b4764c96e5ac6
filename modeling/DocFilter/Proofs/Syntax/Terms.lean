import DocFilter.Sql.Fragment
import Mathlib.Data.List.Basic

/-!
# Terms of SQL

A term is a word, a placeholder, or a name with parentheses behind it.  In the
parentheses stand rows of terms, with commas between the rows and blanks
between the terms of a row; the name can be missing.

Terms are what a text of SQL says before the words in it are given a meaning.
A text can be read as a row of terms in one way only, whatever follows it, as
long as this does not go on with the last term.
-/

namespace DocFilter

@[simp] theorem Fragment.append_assoc (first second third : Fragment) :
    first ++ second ++ third = first ++ (second ++ third) := by
  rw [Fragment.mk.injEq]
  simp [String.append_assoc]

namespace Sql

/-- The longest part in front whose elements have a property is told apart from
what follows it. -/
theorem eq_of_append_eq {α : Type} {p : α → Bool}
    {first first' rest rest' : List α} (hfirst : ∀ a ∈ first, p a)
    (hfirst' : ∀ a ∈ first', p a) (hrest : ∀ a ∈ rest.head?, p a = false)
    (hrest' : ∀ a ∈ rest'.head?, p a = false)
    (h : first ++ rest = first' ++ rest') :
    first = first' ∧ rest = rest' := by
  have hspan {first rest : List α} (hfirst : ∀ a ∈ first, p a)
      (hrest : ∀ a ∈ rest.head?, p a = false) :
      (first ++ rest).takeWhile p = first := by
    rw [List.takeWhile_append_of_pos hfirst]
    cases rest with
    | nil => simp
    | cons a rest => simp [hrest a rfl]
  have hfirsts : first = first' := by
    rw [← hspan hfirst hrest, h, hspan hfirst' hrest']
  subst hfirsts
  exact ⟨rfl, List.append_cancel_left h⟩

/-! ## Symbols -/

/-- A character of a text, or a placeholder with its value. -/
inductive Symbol where
  | char (c : Char)
  | value (literal : Literal)
deriving DecidableEq

namespace Symbol

/-- The character that is shown for a symbol. -/
def shown : Symbol → Char
  | char c => c
  | value _ => '?'

/-- The value of a placeholder. -/
def literal? : Symbol → Option Literal
  | char _ => none
  | value literal => some literal

/-- The symbols of a text without placeholders. -/
def ofText (text : String) : List Symbol := text.toList.map char

theorem ofText_injective : Function.Injective ofText := by
  intro text text' h
  have hchar : Function.Injective char := fun _ _ => char.inj
  exact String.toList_injective (List.map_injective_iff.mpr hchar h)

/-- The fragment that symbols make up. -/
def join (symbols : List Symbol) : Fragment :=
  ⟨String.ofList (symbols.map shown), symbols.filterMap literal?⟩

theorem join_append (first second : List Symbol) :
    join (first ++ second) = join first ++ join second := by
  rw [Fragment.mk.injEq]
  simp [join, String.ofList_append]

theorem join_ofText (text : String) : join (ofText text) = .ofText text := by
  have hshown : shown ∘ char = id := rfl
  simp [join, ofText, Fragment.ofText, hshown, literal?]

theorem mem_ofText {text : String} {symbol : Symbol} :
    symbol ∈ ofText text ↔ ∃ c ∈ text.toList, char c = symbol :=
  List.mem_map

/-- A question mark stands for a placeholder only, so a fragment says which
symbols it is made up of. -/
theorem eq_of_join_eq {first second : List Symbol}
    (hfirst : char '?' ∉ first) (hsecond : char '?' ∉ second)
    (h : join first = join second) : first = second := by
  rw [join, join, Fragment.mk.injEq, String.ofList_inj] at h
  induction first generalizing second with
  | nil => exact (List.map_eq_nil_iff.mp h.1.symm).symm
  | cons symbol first ih =>
    cases second with
    | nil => exact absurd h.1 (by simp)
    | cons symbol' second =>
      rw [List.mem_cons, not_or] at hfirst hsecond
      obtain ⟨⟨hshown, hrest⟩, hvalues⟩ :
          (symbol.shown = symbol'.shown ∧
            first.map shown = second.map shown) ∧ _ :=
        ⟨List.cons.inj h.1, h.2⟩
      cases symbol with
      | char c =>
        cases symbol' with
        | char c' =>
          have hc : c = c' := hshown
          rw [hc, ih hfirst.2 hsecond.2 ⟨hrest, hvalues⟩]
        | value literal' =>
          have hc : c = '?' := hshown
          exact absurd (congrArg char hc.symm) hfirst.1
      | value literal =>
        cases symbol' with
        | char c' =>
          have hc : '?' = c' := hshown
          exact absurd (congrArg char hc) hsecond.1
        | value literal' =>
          obtain ⟨hliteral, hvalues⟩ := List.cons.inj hvalues
          rw [hliteral, ih hfirst.2 hsecond.2 ⟨hrest, hvalues⟩]

/-! ### Words -/

/-- The characters that end a word. -/
def marks : List Char := ['?', ' ', ',', '(', ')']

/-- Whether a symbol can stand in a word. -/
def isWord : Symbol → Bool
  | char c => c ∉ marks
  | value _ => false

/-- Symbols do not go on with a word. -/
def EndsWord (symbols : List Symbol) : Prop :=
  ∀ symbol ∈ symbols.head?, symbol.isWord = false

end Symbol

/-- The text can be a word. -/
def IsWord (text : String) : Prop :=
  text ≠ "" ∧ ∀ symbol ∈ Symbol.ofText text, symbol.isWord

instance (text : String) : Decidable (IsWord text) :=
  inferInstanceAs (Decidable (_ ∧ _))

/-! ## Terms -/

/-- A word, a placeholder, or a name with rows of terms in parentheses. -/
inductive Term where
  | word (text : String)
  | placeholder (literal : Literal)
  | call (name : String) (rows : List (List Term))

namespace Term

mutual

/-- The symbols of a term. -/
def symbols : Term → List Symbol
  | word text => Symbol.ofText text
  | placeholder literal => [.value literal]
  | call name rows =>
    Symbol.ofText name ++ .char '(' :: (symbolsOfRows rows ++ [.char ')'])

/-- The symbols of a row, with blanks between the terms. -/
def symbolsOfRow : List Term → List Symbol
  | [] => []
  | [term] => term.symbols
  | term :: next :: others =>
    term.symbols ++ .char ' ' :: symbolsOfRow (next :: others)

/-- The symbols of some rows, with commas between them. -/
def symbolsOfRows : List (List Term) → List Symbol
  | [] => []
  | [row] => symbolsOfRow row
  | row :: next :: others =>
    symbolsOfRow row ++ .char ',' :: .char ' ' ::
      symbolsOfRows (next :: others)

end

/-- The words in a term have characters of words only, and no word and no row
is empty. -/
inductive IsReadable : Term → Prop
  | word {text : String} (h : IsWord text) : IsReadable (word text)
  | placeholder (literal : Literal) : IsReadable (placeholder literal)
  | call {name : String} {rows : List (List Term)}
    (hname : ∀ symbol ∈ Symbol.ofText name, symbol.isWord)
    (hne : ∀ row ∈ rows, row ≠ [])
    (h : ∀ row ∈ rows, ∀ term ∈ row, IsReadable term) :
    IsReadable (call name rows)

/-- Symbols do not go on with a term: a blank, a comma or a closing parenthesis
comes next, or nothing. -/
def EndsTerm (symbols : List Symbol) : Prop :=
  ∀ symbol ∈ symbols.head?, symbol ∈ [.char ' ', .char ',', .char ')']

/-- Symbols do not go on with a row: a comma or a closing parenthesis comes
next, or nothing. -/
def EndsRow (symbols : List Symbol) : Prop :=
  ∀ symbol ∈ symbols.head?, symbol ∈ [.char ',', .char ')']

theorem EndsTerm.endsWord {symbols : List Symbol} (h : EndsTerm symbols) :
    Symbol.EndsWord symbols := by
  have hmarks : ∀ symbol ∈ [.char ' ', .char ',', .char ')'],
      Symbol.isWord symbol = false := by decide
  exact fun symbol hsymbol => hmarks symbol (h symbol hsymbol)

theorem EndsRow.endsTerm {symbols : List Symbol} (h : EndsRow symbols) :
    EndsTerm symbols :=
  fun symbol hsymbol => List.mem_cons_of_mem _ (h symbol hsymbol)

/-- What stands behind the first term of a row. -/
def symbolsBehind : List Term → List Symbol
  | [] => []
  | next :: others => .char ' ' :: symbolsOfRow (next :: others)

/-- What stands behind the first one of some rows. -/
def symbolsBehindRow : List (List Term) → List Symbol
  | [] => []
  | next :: others =>
    .char ',' :: .char ' ' :: symbolsOfRows (next :: others)

theorem symbolsOfRow_cons (term : Term) (others : List Term) :
    symbolsOfRow (term :: others) = term.symbols ++ symbolsBehind others := by
  cases others with
  | nil => simp [symbolsOfRow, symbolsBehind]
  | cons next others => simp [symbolsOfRow, symbolsBehind]

theorem symbolsOfRows_cons (row : List Term) (others : List (List Term)) :
    symbolsOfRows (row :: others) =
      symbolsOfRow row ++ symbolsBehindRow others := by
  cases others with
  | nil => simp [symbolsOfRows, symbolsBehindRow]
  | cons next others => simp [symbolsOfRows, symbolsBehindRow]

theorem endsTerm_symbolsBehind_append (others : List Term)
    {rest : List Symbol} (hrest : EndsRow rest) :
    EndsTerm (symbolsBehind others ++ rest) := by
  cases others with
  | nil => exact hrest.endsTerm
  | cons next others =>
    intro symbol hsymbol
    cases hsymbol
    exact List.mem_cons_self

theorem endsRow_symbolsBehindRow_append (others : List (List Term))
    (rest : List Symbol) :
    EndsRow (symbolsBehindRow others ++ .char ')' :: rest) := by
  intro symbol hsymbol
  cases others with
  | nil =>
    cases hsymbol
    decide
  | cons next others =>
    cases hsymbol
    decide

/-! ### Reading -/

/-- The word that a term starts with. -/
def lead : Term → List Symbol
  | word text => Symbol.ofText text
  | placeholder _ => []
  | call name _ => Symbol.ofText name

/-- What stands behind the word that a term starts with. -/
def body : Term → List Symbol
  | word _ => []
  | placeholder literal => [.value literal]
  | call _ rows => .char '(' :: (symbolsOfRows rows ++ [.char ')'])

theorem symbols_eq (term : Term) : term.symbols = term.lead ++ term.body := by
  cases term <;> simp [symbols, lead, body]

theorem IsReadable.isWord_of_mem_lead {term : Term} (h : term.IsReadable) :
    ∀ symbol ∈ term.lead, symbol.isWord := by
  cases h with
  | word h => exact h.2
  | placeholder literal => exact List.forall_mem_nil _
  | call hname _ _ => exact hname

theorem endsWord_body_append (term : Term) {rest : List Symbol}
    (hrest : EndsTerm rest) : Symbol.EndsWord (term.body ++ rest) := by
  cases term with
  | word text => exact hrest.endsWord
  | placeholder literal | call name rows =>
    intro symbol hsymbol
    cases hsymbol
    rfl

/-- A term does not start where another one ends. -/
theorem IsReadable.not_endsTerm {term : Term} (h : term.IsReadable)
    (rest : List Symbol) : ¬EndsTerm (term.symbols ++ rest) := by
  intro hends
  rw [symbols_eq, List.append_assoc] at hends
  cases hlead : term.lead with
  | cons symbol symbols =>
    have hword := h.isWord_of_mem_lead symbol (by simp [hlead])
    rw [hends.endsWord symbol (by simp [hlead])] at hword
    cases hword
  | nil =>
    rw [hlead, List.nil_append] at hends
    cases h with
    | word h =>
      exact h.1 (String.toList_eq_nil_iff.mp (List.map_eq_nil_iff.mp hlead))
    | placeholder literal => exact absurd (hends _ rfl) (by simp)
    | call _ _ _ => exact absurd (hends _ rfl) (by decide)

/-- A row does not start with a closing parenthesis. -/
theorem symbolsOfRows_append_ne {row : List Term} (hne : row ≠ [])
    (h : ∀ term ∈ row, term.IsReadable) (others : List (List Term))
    (rest : List Symbol) {rest' : List Symbol} :
    symbolsOfRows (row :: others) ++ rest ≠ .char ')' :: rest' := by
  cases row with
  | nil => exact absurd rfl hne
  | cons first row =>
    rw [symbolsOfRows_cons, symbolsOfRow_cons, List.append_assoc,
      List.append_assoc]
    intro heq
    apply (List.forall_mem_cons.mp h).1.not_endsTerm
    rw [heq]
    intro symbol hsymbol
    cases hsymbol
    decide

mutual

/-- A term can be read in one way only. -/
theorem eq_of_symbols_append_eq (term : Term) {term' : Term}
    (h : term.IsReadable) (h' : term'.IsReadable) {rest rest' : List Symbol}
    (hrest : EndsTerm rest) (hrest' : EndsTerm rest')
    (heq : term.symbols ++ rest = term'.symbols ++ rest') :
    term = term' ∧ rest = rest' := by
  rw [symbols_eq, symbols_eq, List.append_assoc, List.append_assoc] at heq
  obtain ⟨hlead, hbody⟩ := eq_of_append_eq h.isWord_of_mem_lead
    h'.isWord_of_mem_lead (term.endsWord_body_append hrest)
    (term'.endsWord_body_append hrest') heq
  cases term with
  | word text =>
    cases term' with
    | word text' =>
      rw [Symbol.ofText_injective hlead]
      exact ⟨rfl, hbody⟩
    | placeholder literal' | call name' rows' =>
      rw [show rest = _ from hbody] at hrest
      exact absurd (hrest _ rfl) (by simp)
  | placeholder literal =>
    cases term' with
    | word text' =>
      rw [show rest' = _ from hbody.symm] at hrest'
      exact absurd (hrest' _ rfl) (by simp)
    | placeholder literal' =>
      obtain ⟨hvalue, hrests⟩ := List.cons.inj hbody
      rw [Symbol.value.inj hvalue]
      exact ⟨rfl, hrests⟩
    | call name' rows' => cases hbody
  | call name rows =>
    cases term' with
    | word text' =>
      rw [show rest' = _ from hbody.symm] at hrest'
      exact absurd (hrest' _ rfl) (by simp)
    | placeholder literal' => cases hbody
    | call name' rows' =>
      cases h with
      | call _ hne h =>
        cases h' with
        | call _ hne' h' =>
          rw [body, body, List.cons_append, List.cons_append,
            List.append_assoc, List.append_assoc] at hbody
          obtain ⟨hrows, hrests⟩ := eq_of_symbolsOfRows_append_eq rows hne hne'
            h h' (List.cons.inj hbody).2
          rw [Symbol.ofText_injective hlead, hrows]
          exact ⟨rfl, hrests⟩

/-- A row can be read in one way only. -/
theorem eq_of_symbolsOfRow_append_eq (row : List Term) {row' : List Term}
    (hne : row ≠ []) (hne' : row' ≠ []) (h : ∀ term ∈ row, term.IsReadable)
    (h' : ∀ term ∈ row', term.IsReadable) {rest rest' : List Symbol}
    (hrest : EndsRow rest) (hrest' : EndsRow rest')
    (heq : symbolsOfRow row ++ rest = symbolsOfRow row' ++ rest') :
    row = row' ∧ rest = rest' := by
  cases row with
  | nil => exact absurd rfl hne
  | cons first others =>
    cases row' with
    | nil => exact absurd rfl hne'
    | cons first' others' =>
      obtain ⟨hfirst, hothers⟩ := List.forall_mem_cons.mp h
      obtain ⟨hfirst', hothers'⟩ := List.forall_mem_cons.mp h'
      rw [symbolsOfRow_cons, symbolsOfRow_cons, List.append_assoc,
        List.append_assoc] at heq
      obtain ⟨rfl, hbehind⟩ := first.eq_of_symbols_append_eq hfirst hfirst'
        (endsTerm_symbolsBehind_append others hrest)
        (endsTerm_symbolsBehind_append others' hrest') heq
      cases others with
      | nil =>
        cases others' with
        | nil => exact ⟨rfl, hbehind⟩
        | cons next' others' =>
          rw [show rest = _ from hbehind] at hrest
          exact absurd (hrest _ rfl) (by decide)
      | cons next others =>
        cases others' with
        | nil =>
          rw [show rest' = _ from hbehind.symm] at hrest'
          exact absurd (hrest' _ rfl) (by decide)
        | cons next' others' =>
          obtain ⟨hrow, hrests⟩ := eq_of_symbolsOfRow_append_eq
            (next :: others) (by simp) (by simp) hothers hothers' hrest hrest'
            (List.cons.inj hbehind).2
          rw [hrow]
          exact ⟨rfl, hrests⟩

/-- The rows in parentheses can be read in one way only. -/
theorem eq_of_symbolsOfRows_append_eq (rows : List (List Term))
    {rows' : List (List Term)}
    (hne : ∀ row ∈ rows, row ≠ []) (hne' : ∀ row ∈ rows', row ≠ [])
    (h : ∀ row ∈ rows, ∀ term ∈ row, term.IsReadable)
    (h' : ∀ row ∈ rows', ∀ term ∈ row, term.IsReadable)
    {rest rest' : List Symbol}
    (heq : symbolsOfRows rows ++ .char ')' :: rest =
      symbolsOfRows rows' ++ .char ')' :: rest') :
    rows = rows' ∧ rest = rest' := by
  cases rows with
  | nil =>
    cases rows' with
    | nil => exact ⟨rfl, (List.cons.inj heq).2⟩
    | cons row' others' =>
      rw [List.forall_mem_cons] at hne' h'
      exact absurd heq.symm (symbolsOfRows_append_ne hne'.1 h'.1 _ _)
  | cons row others =>
    rw [List.forall_mem_cons] at hne h
    cases rows' with
    | nil => exact absurd heq (symbolsOfRows_append_ne hne.1 h.1 _ _)
    | cons row' others' =>
      rw [List.forall_mem_cons] at hne' h'
      rw [symbolsOfRows_cons, symbolsOfRows_cons, List.append_assoc,
        List.append_assoc] at heq
      obtain ⟨rfl, hbehind⟩ := eq_of_symbolsOfRow_append_eq row hne.1 hne'.1
        h.1 h'.1 (endsRow_symbolsBehindRow_append others rest)
        (endsRow_symbolsBehindRow_append others' rest') heq
      cases others with
      | nil =>
        cases others' with
        | nil => exact ⟨rfl, (List.cons.inj hbehind).2⟩
        | cons next' others' => cases hbehind
      | cons next others =>
        cases others' with
        | nil => cases hbehind
        | cons next' others' =>
          obtain ⟨hrows, hrests⟩ := eq_of_symbolsOfRows_append_eq
            (next :: others) hne.2 hne'.2 h.2 h'.2
            (List.cons.inj (List.cons.inj hbehind).2).2
          rw [hrows]
          exact ⟨rfl, hrests⟩

end

/-! ### Fragments -/

theorem notMem_of_forall_isWord {symbols : List Symbol}
    (h : ∀ symbol ∈ symbols, symbol.isWord) : .char '?' ∉ symbols :=
  fun hmem => absurd (h _ hmem) (by decide)

mutual

theorem questionMark_notMem_symbols (term : Term) (h : term.IsReadable) :
    .char '?' ∉ term.symbols := by
  cases h with
  | word h => exact notMem_of_forall_isWord h.2
  | placeholder literal => simp [symbols]
  | call hname hne h =>
    have hrows := questionMark_notMem_symbolsOfRows _ h
    simp [symbols, notMem_of_forall_isWord hname, hrows]

theorem questionMark_notMem_symbolsOfRow (row : List Term)
    (h : ∀ term ∈ row, term.IsReadable) :
    .char '?' ∉ symbolsOfRow row := by
  match row with
  | [] => simp [symbolsOfRow]
  | [term] => exact term.questionMark_notMem_symbols (h term (by simp))
  | term :: next :: others =>
    rw [List.forall_mem_cons] at h
    have hterm := term.questionMark_notMem_symbols h.1
    have hothers := questionMark_notMem_symbolsOfRow (next :: others) h.2
    simp [symbolsOfRow, hterm, hothers]

theorem questionMark_notMem_symbolsOfRows (rows : List (List Term))
    (h : ∀ row ∈ rows, ∀ term ∈ row, term.IsReadable) :
    .char '?' ∉ symbolsOfRows rows := by
  match rows with
  | [] => simp [symbolsOfRows]
  | [row] => exact questionMark_notMem_symbolsOfRow row (h row (by simp))
  | row :: next :: others =>
    rw [List.forall_mem_cons] at h
    have hrow := questionMark_notMem_symbolsOfRow row h.1
    have hothers := questionMark_notMem_symbolsOfRows (next :: others) h.2
    simp [symbolsOfRows, hrow, hothers]

end

/-- The SQL of a term. -/
def fragment (term : Term) : Fragment := Symbol.join term.symbols

/-- The SQL of a row. -/
def fragmentOfRow (row : List Term) : Fragment :=
  Symbol.join (symbolsOfRow row)

/-- The SQL of some rows. -/
def fragmentOfRows (rows : List (List Term)) : Fragment :=
  Symbol.join (symbolsOfRows rows)

@[simp] theorem fragment_word (text : String) :
    (word text).fragment = .ofText text :=
  Symbol.join_ofText text

@[simp] theorem fragment_placeholder (literal : Literal) :
    (placeholder literal).fragment = .placeholder literal := rfl

@[simp] theorem fragment_call (name : String) (rows : List (List Term)) :
    (call name rows).fragment =
      name ++ ("(" ++ (fragmentOfRows rows ++ ")")) := by
  have hsymbols : (call name rows).symbols = Symbol.ofText name ++
      (Symbol.ofText "(" ++ (symbolsOfRows rows ++ Symbol.ofText ")")) := by
    rw [symbols]
    rfl
  rw [fragment, hsymbols, Symbol.join_append, Symbol.join_append,
    Symbol.join_append, Symbol.join_ofText, Symbol.join_ofText,
    Symbol.join_ofText, fragmentOfRows]

@[simp] theorem fragmentOfRow_singleton (term : Term) :
    fragmentOfRow [term] = term.fragment := rfl

@[simp] theorem fragmentOfRow_cons (term : Term) {others : List Term}
    (hne : others ≠ []) :
    fragmentOfRow (term :: others) =
      term.fragment ++ (" " ++ fragmentOfRow others) := by
  cases others with
  | nil => exact absurd rfl hne
  | cons next others =>
    have hsymbols : symbolsOfRow (term :: next :: others) =
        term.symbols ++
          (Symbol.ofText " " ++ symbolsOfRow (next :: others)) := by
      rw [symbolsOfRow]
      rfl
    rw [fragmentOfRow, hsymbols, Symbol.join_append, Symbol.join_append,
      Symbol.join_ofText, fragment, fragmentOfRow]

theorem fragmentOfRow_append {row row' : List Term} (hne : row ≠ [])
    (hne' : row' ≠ []) :
    fragmentOfRow (row ++ row') =
      fragmentOfRow row ++ (" " ++ fragmentOfRow row') := by
  induction row with
  | nil => exact absurd rfl hne
  | cons first others ih =>
    cases others with
    | nil => exact fragmentOfRow_cons first hne'
    | cons next others =>
      rw [List.cons_append, fragmentOfRow_cons first (by simp),
        fragmentOfRow_cons first (by simp), ih (by simp),
        Fragment.append_assoc, Fragment.append_assoc]

@[simp] theorem fragmentOfRows_singleton (row : List Term) :
    fragmentOfRows [row] = fragmentOfRow row := rfl

@[simp] theorem fragmentOfRows_cons (row : List Term)
    {others : List (List Term)} (hne : others ≠ []) :
    fragmentOfRows (row :: others) =
      fragmentOfRow row ++ (", " ++ fragmentOfRows others) := by
  cases others with
  | nil => exact absurd rfl hne
  | cons next others =>
    have hsymbols : symbolsOfRows (row :: next :: others) =
        symbolsOfRow row ++
          (Symbol.ofText ", " ++ symbolsOfRows (next :: others)) := by
      rw [symbolsOfRows]
      rfl
    rw [fragmentOfRows, hsymbols, Symbol.join_append, Symbol.join_append,
      Symbol.join_ofText, fragmentOfRow, fragmentOfRows]

/-- Rows with the same SQL are the same. -/
theorem eq_of_fragmentOfRow_eq {row row' : List Term} (hne : row ≠ [])
    (hne' : row' ≠ []) (h : ∀ term ∈ row, term.IsReadable)
    (h' : ∀ term ∈ row', term.IsReadable)
    (heq : fragmentOfRow row = fragmentOfRow row') : row = row' := by
  have hsymbols : symbolsOfRow row = symbolsOfRow row' :=
    Symbol.eq_of_join_eq (questionMark_notMem_symbolsOfRow row h)
      (questionMark_notMem_symbolsOfRow row' h') heq
  have hends : EndsRow [] := fun _ hsymbol => by cases hsymbol
  have happend : symbolsOfRow row ++ [] = symbolsOfRow row' ++ [] := by
    rw [hsymbols]
  exact (eq_of_symbolsOfRow_append_eq row hne hne' h h' hends hends happend).1

end Term

end Sql

end DocFilter
