import Deliberation.Text.Slice

/-!
# Positions in a YAML text

A `Cursor` is the rest of a text and its position: the index of the next character, its line and its
column. Indices count bytes, columns count characters. Line breaks are read by `Cursor.lineBreak?`,
which also gives the break as it counts in scalars: a line separator and a paragraph separator stay
what they are, every other break is a line feed. A `Gap` is what stands between two words of a
scalar.
-/

namespace Deliberation.Yaml

/-! ## Characters -/

/-- Whether a character may occur in a text at all. -/
def isPrintable (character : Char) : Bool :=
  let code := character.toNat
  code == 0x09 || code == 0x0A || code == 0x0D || (0x20 ≤ code && code ≤ 0x7E) || code == 0x85 ||
    (0xA0 ≤ code && code ≤ 0xD7FF) || (0xE000 ≤ code && code ≤ 0xFFFD) || 0x10000 ≤ code

/-- The mark that may stand at the start of a line. -/
def byteOrderMark : Char := Char.ofNat 0xFEFF

/-- Whether a character is a space or a tab. -/
def isSpacing (character : Char) : Bool := character == ' ' || character == '\t'

/-- Whether a character ends a line. -/
def isBreak (character : Char) : Bool :=
  character == '\n' || character == '\r' || character.toNat == 0x85 ||
    character.toNat == 0x2028 || character.toNat == 0x2029

/-- Whether a character separates words. -/
def isSeparator (character : Char) : Bool := isSpacing character || isBreak character

/-- Whether a character may stand in the name of an anchor, a directive or a tag handle. -/
def isNameCharacter (character : Char) : Bool :=
  character.isAlphanum || character == '_' || character == '-'

/-- Whether a text is at its end or goes on with a separator. -/
def endsWord (rest : List Char) : Bool := rest.head?.all isSeparator

/-! ## Cursors -/

/-- The rest of a text and where it stands. -/
structure Cursor where
  rest : List Char
  index : Nat
  line : Nat
  column : Nat

namespace Cursor

/-- The start of a text. -/
def start (text : List Char) : Cursor := { rest := text, index := 0, line := 0, column := 0 }

/-- Whether the rest starts with a character. -/
def isAt (cursor : Cursor) (character : Char) : Bool := cursor.rest.head? == some character

/-- Whether the text is at its end. -/
def isAtEnd (cursor : Cursor) : Bool := cursor.rest.isEmpty

/-- Pass over characters that are no line breaks. -/
def skip (cursor : Cursor) (count : Nat) : Cursor :=
  { cursor with
    rest := cursor.rest.drop count
    index := cursor.index + Text.byteCount (cursor.rest.take count)
    column := cursor.column + count }

/-- The characters up to the first that does not satisfy a test, which must hold of no line break. -/
def takeWhile (cursor : Cursor) (test : Char → Bool) : List Char × Cursor :=
  let taken := cursor.rest.takeWhile test
  (taken, cursor.skip taken.length)

/-- Pass over the characters that satisfy a test, which must hold of no line break. -/
def skipWhile (cursor : Cursor) (test : Char → Bool) : Cursor := (cursor.takeWhile test).2

/-- The start of the next line, behind a line break. -/
def nextLine (cursor : Cursor) (lineBreak : List Char) (rest : List Char) : Cursor :=
  { rest, index := cursor.index + Text.byteCount lineBreak, line := cursor.line + 1, column := 0 }

/-- A line break as it counts in scalars, and what follows it. -/
def lineBreak? (cursor : Cursor) : Option (Char × Cursor) :=
  match cursor.rest with
  | '\r' :: '\n' :: rest => some ('\n', cursor.nextLine ['\r', '\n'] rest)
  | character :: rest =>
    if isBreak character then
      some (if character.toNat < 0x100 then '\n' else character, cursor.nextLine [character] rest)
    else none
  | [] => none

/-- Whether a line starts with three times a character as a word of its own. -/
def isAtIndicator (cursor : Cursor) (character : Char) : Bool :=
  cursor.column == 0 && cursor.rest.take 3 == [character, character, character] &&
    endsWord (cursor.rest.drop 3)

/-- Whether a line starts or ends a document here. -/
def isAtDocumentMark (cursor : Cursor) : Bool :=
  cursor.isAtIndicator '-' || cursor.isAtIndicator '.'

end Cursor

/-! ## Gaps -/

/-- What stands between two words: blanks, or line breaks with blanks around them. -/
structure Gap where
  blanks : List Char
  breaks : List Char

namespace Gap

/-- What a gap counts as: blanks as they stand, one line break as a blank, and of several line breaks
all but the first. -/
def text (gap : Gap) : List Char :=
  match gap.breaks with
  | [] => gap.blanks
  | ['\n'] => [' ']
  | '\n' :: more => more
  | breaks => breaks

end Gap

/-- Read line breaks with blanks between them. A tab at a column below `indent` is refused. -/
def breaksFrom : (fuel : Nat) → (indent : Int) → Cursor → Option (List Char × Cursor)
  | 0, _, cursor => some ([], cursor)
  | fuel + 1, indent, cursor =>
    match cursor.lineBreak? with
    | some (first, cursor) => do
      let (more, cursor) ← breaksFrom fuel indent cursor
      some (first :: more, cursor)
    | none =>
      if cursor.isAt ' ' then breaksFrom fuel indent (cursor.skip 1)
      else if cursor.isAt '\t' then
        if (cursor.column : Int) < indent then none else breaksFrom fuel indent (cursor.skip 1)
      else some ([], cursor)

/-- Read a gap. A tab at a column below `indent` is refused unless it stands before the first line
break. -/
def gap (indent : Int) (cursor : Cursor) : Option (Gap × Cursor) :=
  let (blanks, cursor) := cursor.takeWhile isSpacing
  match cursor.lineBreak? with
  | none => some ({ blanks, breaks := [] }, cursor)
  | some (first, cursor) => do
    let (more, cursor) ← breaksFrom cursor.rest.length indent cursor
    some ({ blanks, breaks := first :: more }, cursor)

end Deliberation.Yaml
