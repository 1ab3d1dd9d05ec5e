import ContentSearch.Text.Invisible

/-!
# Quoted texts in reports

A report shows a text between double quotes.  Quotes and backslashes get a
backslash, the common control characters have a letter of their own, and all
other characters that cannot be seen are shown by their code in braces.  An
apostrophe stays as it is.
-/

namespace ContentSearch

namespace Text

/-- The code of a character in lower-case hexadecimal digits and braces. -/
def codeEscape (character : Char) : List Char :=
  '\\' :: 'u' :: '\x7b' :: Nat.toDigits 16 character.toNat ++ ['\x7d']

/-- A character as it stands between the quotes. -/
def quotedCharacter (character : Char) : List Char :=
  match character with
  | '"' => ['\\', '"']
  | '\\' => ['\\', '\\']
  | '\n' => ['\\', 'n']
  | '\r' => ['\\', 'r']
  | '\t' => ['\\', 't']
  | '\x00' => ['\\', '0']
  | _ => if isInvisible character then codeEscape character else [character]

def quoted (text : String) : List Char :=
  '"' :: text.toList.flatMap quotedCharacter ++ ['"']

end Text

end ContentSearch
