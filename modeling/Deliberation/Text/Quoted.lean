import Deliberation.Text.Digit
import Deliberation.Text.Hidden

/-!
# Quoted text for diagnosis

`quoted` writes a string between double quotes with every character that could not be seen spelled
out: the common escapes, a backslash and a double quote behind a backslash, and the code point in
braces for hidden characters.
-/

namespace Deliberation.Text

/-- The spelling of one character inside double quotes. -/
def quotedCharacter (character : Char) : String :=
  match character with
  | '\x00' => "\\0"
  | '\t' => "\\t"
  | '\r' => "\\r"
  | '\n' => "\\n"
  | '"' => "\\\""
  | '\\' => "\\\\"
  | _ =>
    if character.toNat < 0x20 ∨ isHidden character.toNat then
      "\\u\x7b" ++ hexText character.toNat ++ "\x7d"
    else character.toString

/-- A string between double quotes. -/
def quoted (text : String) : String :=
  "\"" ++ String.join (text.toList.map quotedCharacter) ++ "\""

end Deliberation.Text
