import Deliberation.Text.Digit

/-!
# Compact JSON text

Strings are quoted with the two-letter escapes where there is one and `\u00xx` for the other control
characters; everything else, non-ASCII characters included, stands as it is. Objects and arrays are
written without blanks, members in the given order.
-/

namespace Deliberation.Json

open Deliberation.Text

/-- The spelling of one character inside a string. -/
def escaped (character : Char) : List Char :=
  match character with
  | '"' => ['\\', '"']
  | '\\' => ['\\', '\\']
  | '\x08' => ['\\', 'b']
  | '\x0c' => ['\\', 'f']
  | '\n' => ['\\', 'n']
  | '\r' => ['\\', 'r']
  | '\t' => ['\\', 't']
  | _ =>
    if character.toNat < 0x20 then
      ['\\', 'u', '0', '0', hexDigit (character.toNat / 16), hexDigit (character.toNat % 16)]
    else [character]

/-- The characters of a quoted string. -/
def quoteCharacters (text : List Char) : List Char := '"' :: text.flatMap escaped ++ ['"']

/-- A quoted string. -/
def quote (text : String) : String := String.ofList (quoteCharacters text.toList)

/-- Items between brackets. -/
def array (items : List String) : String := "[" ++ String.intercalate "," items ++ "]"

/-- Members between braces; names are quoted, values are written as given. -/
def object (members : List (String × String)) : String :=
  "\x7b" ++ String.intercalate "," (members.map fun (name, value) => quote name ++ ":" ++ value) ++
    "\x7d"

end Deliberation.Json
