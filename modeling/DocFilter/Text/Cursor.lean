import DocFilter.Text.Ranges

/-!
# A place in a text

A cursor is what is left of a text together with the number of bytes before it,
in UTF-8.  Every move drops some number of characters, so a cursor never stands
inside a character and never goes back.
-/

namespace DocFilter.Text

/-- The number of bytes that the characters take in UTF-8. -/
def byteLength (cs : List Char) : Nat :=
  cs.foldr (fun c bytes => c.utf8Size + bytes) 0

/-- The longest initial part that fits into a number of bytes. -/
def takeBytes : Nat → List Char → List Char
  | _, [] => []
  | bytes, c :: cs =>
    if c.utf8Size ≤ bytes then c :: takeBytes (bytes - c.utf8Size) cs else []

/-- A place in a text: the bytes before it and the characters from it on. -/
structure Cursor where
  offset : Nat
  rest : List Char
deriving DecidableEq

namespace Cursor

/-- The place before the first character. -/
def atStart (text : String) : Cursor := ⟨0, text.toList⟩

/-- Whether nothing is left. -/
def isAtEnd (cursor : Cursor) : Bool := cursor.rest.isEmpty

/-- The character `n` places further on. -/
def peekNth? (cursor : Cursor) (n : Nat) : Option Char := cursor.rest[n]?

/-- The next character. -/
def peek? (cursor : Cursor) : Option Char := cursor.peekNth? 0

/-- Moves over `n` characters, or to the end if fewer are left. -/
def drop (cursor : Cursor) (n : Nat) : Cursor :=
  ⟨cursor.offset + byteLength (cursor.rest.take n), cursor.rest.drop n⟩

/-- Moves over the characters that fit into a number of bytes. -/
def dropBytes (cursor : Cursor) (bytes : Nat) : Cursor :=
  cursor.drop (takeBytes bytes cursor.rest).length

/-- Moves over the white space that follows. -/
def dropBlanks (cursor : Cursor) : Cursor :=
  cursor.drop (cursor.rest.takeWhile isBlank).length

end Cursor

end DocFilter.Text
