/-!
# Slices of texts

Places in a text can be counted in bytes. `slice?` cuts out what stands between two places; a place
within a character is none to cut at.
-/

namespace Deliberation.Text

/-- The number of bytes that characters take. -/
def byteCount : List Char → Nat
  | [] => 0
  | character :: rest => character.utf8Size + byteCount rest

/-- What is left behind a number of bytes, if a character ends there. -/
def dropBytes? : (count : Nat) → List Char → Option (List Char)
  | 0, characters => some characters
  | _ + 1, [] => none
  | count + 1, character :: rest =>
    if character.utf8Size ≤ count + 1 then dropBytes? (count + 1 - character.utf8Size) rest
    else none

/-- What stands in a number of bytes, if a character ends there. -/
def takeBytes? : (count : Nat) → List Char → Option (List Char)
  | 0, _ => some []
  | _ + 1, [] => none
  | count + 1, character :: rest =>
    if character.utf8Size ≤ count + 1 then
      (takeBytes? (count + 1 - character.utf8Size) rest).map (character :: ·)
    else none

/-- What stands between two places. -/
def slice? (start stop : Nat) (characters : List Char) : Option (List Char) := do
  takeBytes? (stop - start) (← dropBytes? start characters)

end Deliberation.Text
