/-!
# Blank characters

The characters with the `White_Space` property, and the trimming of lists of characters by them.
-/

namespace Deliberation.Text

/-- Whether a character has the `White_Space` property. -/
def isBlank (character : Char) : Bool :=
  let code := character.toNat
  (0x09 ≤ code && code ≤ 0x0D) || code == 0x20 || code == 0x85 || code == 0xA0 || code == 0x1680 ||
    (0x2000 ≤ code && code ≤ 0x200A) || code == 0x2028 || code == 0x2029 || code == 0x202F ||
    code == 0x205F || code == 0x3000

/-- Remove blanks from the front. -/
def trimStart (characters : List Char) : List Char := characters.dropWhile isBlank

/-- Remove blanks from both ends. -/
def trim (characters : List Char) : List Char :=
  (trimStart (trimStart characters).reverse).reverse

end Deliberation.Text
