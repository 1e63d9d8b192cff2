import PlayServer.Bytes
import PlayServer.Text.Visible

/-!
# Quoted text

A text between quotes, written so that every character of it can be told. Quotes and backslashes
stand behind a backslash; so do the letters for tab, line feed and carriage return, and `0` for the
character of number zero. Any other character that is not visible is written by its number.
-/

namespace PlayServer.Text

/-- What stands behind a backslash for a character. -/
def escapeLetter? (c : Char) : Option Char :=
  if c = '"' || c = '\\' then some c
  else if c = '\t' then some 't'
  else if c = '\n' then some 'n'
  else if c = '\r' then some 'r'
  else if c.toNat = 0 then some '0'
  else none

/-- A character as it stands between quotes. -/
def quoteChar (c : Char) : List Char :=
  match escapeLetter? c with
  | some letter => ['\\', letter]
  | none => if isVisible c then [c] else ("\\u\x7b" ++ hexNumeral 1 c.toNat ++ "\x7d").toList

/-- A text between quotes. -/
def quote (s : String) : String :=
  "\"" ++ String.ofList (s.toList.flatMap quoteChar) ++ "\""

end PlayServer.Text
