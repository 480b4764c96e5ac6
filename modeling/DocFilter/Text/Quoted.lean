import DocFilter.Text.Combining
import DocFilter.Text.Unprintable

/-!
# Quoted texts

A text in double quotes in which every character can be seen: quotes,
backslashes, characters that have no shape or may be left out, and characters
that would join the one before them are written as escapes.
-/

namespace DocFilter.Text

/-- A code point in hexadecimal digits, lower case and without leading
zeros. -/
def hexadecimal (n : Nat) : List Char := Nat.toDigits 16 n

/-- Whether a character would not be seen as a character of its own. -/
def isObscure (c : Char) : Bool :=
  isCombining c || isIgnorable c || isUnprintable c

/-- A character as it stands in a quoted text. -/
def quotedChar (c : Char) : List Char :=
  if c = '\x00' then ['\\', '0']
  else if c = '\t' then ['\\', 't']
  else if c = '\r' then ['\\', 'r']
  else if c = '\n' then ['\\', 'n']
  else if c = '"' ∨ c = '\\' then ['\\', c]
  else if isObscure c then
    ['\\', 'u', '\x7b'] ++ hexadecimal c.toNat ++ ['\x7d']
  else [c]

/-- A text in double quotes. -/
def quoted (text : String) : String :=
  "\"" ++ String.ofList (text.toList.flatMap quotedChar) ++ "\""

end DocFilter.Text
