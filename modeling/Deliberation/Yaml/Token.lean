import Deliberation.Yaml.Scalar

/-!
# YAML tokens

`Token.ofText?` splits a text into tokens. In block style, the structure follows from indentation:
the reader keeps the columns of the open collections and marks their starts and ends. That something
is the key of a mapping shows only at the colon behind it; so each place where a key might start is
remembered until the line ends, and the marks are put in front of it then.
-/

namespace Deliberation.Yaml

/-- A token. -/
inductive Token where
  | version (major minor : Nat)
  | tagPrefix (handle text : String)
  | documentStart
  | documentEnd
  | blockSequenceStart
  | blockMappingStart
  | blockEnd
  | flowSequenceStart
  | flowSequenceEnd
  | flowMappingStart
  | flowMappingEnd
  | blockEntry
  | flowEntry
  | key
  | value
  | alias (name : String)
  | anchor (name : String)
  | tag (handle suffix : String)
  | scalar (style : Style) (text : String)
  deriving DecidableEq, Inhabited

/-! ## Tags, anchors and directives -/

/-- Read the name of an anchor or of an alias behind its indicator. -/
def anchorName (cursor : Cursor) : Option (String × Cursor) :=
  let (name, cursor) := (cursor.skip 1).takeWhile isNameCharacter
  let follows (character : Char) : Bool :=
    isSeparator character || "?:,]\x7d%@\x60".toList.contains character
  if !name.isEmpty && cursor.rest.head?.all follows then some (String.ofList name, cursor) else none

/-- The handle of a tag: an exclamation mark, name characters, and perhaps another mark. In a
directive the closing mark may be missing only where there is no name. -/
def tagHandle (inDirective : Bool) (cursor : Cursor) : Option (List Char × Cursor) :=
  if !cursor.isAt '!' then none
  else
    let (name, cursor) := (cursor.skip 1).takeWhile isNameCharacter
    if cursor.isAt '!' then some ('!' :: name ++ ['!'], cursor.skip 1)
    else if inDirective && !name.isEmpty then none
    else some ('!' :: name, cursor)

/-- Whether a character may stand in a tag; `bracketed` also allows what separates items. -/
def isTagCharacter (bracketed : Bool) (character : Char) : Bool :=
  isNameCharacter character || ";/?:@&=+$.!~*'()".toList.contains character ||
    (bracketed && ",[]".toList.contains character)

/-- The number of bytes of the character that starts with a byte. -/
def byteWidth? (byte : Nat) : Option Nat :=
  if byte < 0x80 then some 1
  else if 0xC0 ≤ byte && byte < 0xE0 then some 2
  else if 0xE0 ≤ byte && byte < 0xF0 then some 3
  else if 0xF0 ≤ byte && byte < 0xF8 then some 4
  else none

/-- Read a byte written as a percent sign and two digits. -/
def escapedByte : List Char → Option (Nat × List Char)
  | '%' :: high :: low :: rest => do some (← Text.number? 16 [high, low], rest)
  | _ => none

/-- Read further bytes of a character. -/
def trailingBytes : (count : Nat) → List Char → Option (List Nat)
  | 0, _ => some []
  | count + 1, text => do
    let (byte, rest) ← escapedByte text
    if 0x80 ≤ byte && byte < 0xC0 then some (byte :: (← trailingBytes count rest)) else none

/-- Read an escaped character; its bytes stand for it. -/
def escapedCharacter (text : List Char) : Option (List Nat) := do
  let (first, rest) ← escapedByte text
  some (first :: (← trailingBytes ((← byteWidth? first) - 1) rest))

/-- Read the characters of a tag. -/
def tagCharacters (bracketed : Bool) : (fuel : Nat) → Cursor → Option (List Char × Cursor)
  | 0, cursor => some ([], cursor)
  | fuel + 1, cursor =>
    match cursor.rest with
    | '%' :: _ => do
      let bytes ← escapedCharacter cursor.rest
      let (more, cursor) ← tagCharacters bracketed fuel (cursor.skip (3 * bytes.length))
      some (bytes.map Char.ofNat ++ more, cursor)
    | character :: _ =>
      if isTagCharacter bracketed character then do
        let (more, cursor) ← tagCharacters bracketed fuel (cursor.skip 1)
        some (character :: more, cursor)
      else some ([], cursor)
    | [] => some ([], cursor)

/-- Read at least one character of a tag, unless something stands in front. -/
def tagText (bracketed : Bool) (front : List Char) (cursor : Cursor) :
    Option (List Char × Cursor) := do
  let (text, cursor) ← tagCharacters bracketed cursor.rest.length cursor
  if front.isEmpty && text.isEmpty then none else some (front.drop 1 ++ text, cursor)

/-- Read a tag: its handle and its suffix. A tag in angle brackets has no handle. -/
def tagParts (cursor : Cursor) : Option (List Char × List Char × Cursor) :=
  if (cursor.skip 1).isAt '<' then do
    let (suffix, cursor) ← tagText true [] (cursor.skip 2)
    if cursor.isAt '>' then some ([], suffix, cursor.skip 1) else none
  else do
    let (handle, cursor) ← tagHandle false cursor
    if 1 < handle.length && handle.getLast? == some '!' then
      let (suffix, cursor) ← tagText false [] cursor
      some (handle, suffix, cursor)
    else
      let (suffix, cursor) ← tagText false handle cursor
      some (if suffix.isEmpty then ([], ['!'], cursor) else (['!'], suffix, cursor))

/-- Read a tag. A separator has to follow, or a comma within a flow collection. -/
def tagToken (inFlow : Bool) (cursor : Cursor) : Option (Token × Cursor) := do
  let (handle, suffix, cursor) ← tagParts cursor
  if endsWord cursor.rest || (inFlow && cursor.isAt ',') then
    some (.tag (String.ofList handle) (String.ofList suffix), cursor)
  else none

/-- Read a number of at most nine digits. -/
def versionNumber (cursor : Cursor) : Option (Nat × Cursor) :=
  let (digits, cursor) := cursor.takeWhile Char.isDigit
  if digits.isEmpty || 9 < digits.length then none else some (Text.decimal digits, cursor)

/-- Read a directive that names a version. -/
def versionDirective (cursor : Cursor) : Option (Token × Cursor) := do
  let (major, cursor) ← versionNumber (cursor.skipWhile isSpacing)
  if cursor.isAt '.' then
    let (minor, cursor) ← versionNumber (cursor.skip 1)
    some (.version major minor, cursor)
  else none

/-- Read a directive that gives a handle a prefix. -/
def tagDirective (cursor : Cursor) : Option (Token × Cursor) := do
  let (handle, cursor) ← tagHandle true (cursor.skipWhile isSpacing)
  if cursor.rest.head?.any isSpacing then
    let (text, cursor) ← tagText true [] (cursor.skipWhile isSpacing)
    if endsWord cursor.rest then
      some (.tagPrefix (String.ofList handle) (String.ofList text), cursor)
    else none
  else none

/-- Read a directive. -/
def directive (cursor : Cursor) : Option (Token × Cursor) := do
  let (name, cursor) := (cursor.skip 1).takeWhile isNameCharacter
  if !endsWord cursor.rest then none
  else
    let (token, cursor) ←
      match String.ofList name with
      | "YAML" => versionDirective cursor
      | "TAG" => tagDirective cursor
      | _ => none
    some (token, ← finishLine cursor)

/-! ## The state of the reader -/

/-- A place where a key may start: the number of tokens before it, its position, and whether it has
to be a key because it stands at the column of its collection. -/
structure KeyPlace where
  token : Nat
  index : Nat
  line : Nat
  column : Nat
  required : Bool

/-- What the reader keeps. `columns` holds the open block collections, innermost first, and `outer`
the places for keys around the open flow collections. -/
structure Lexer where
  cursor : Cursor
  tokens : Array Token
  columns : List Nat
  place : Option KeyPlace
  outer : List (Option KeyPlace)
  keyAllowed : Bool

namespace Lexer

/-- The reader at the start of a text. -/
def start (text : List Char) : Lexer :=
  { cursor := Cursor.start text, tokens := #[], columns := [], place := none, outer := [],
    keyAllowed := true }

/-- Whether the reader is within a flow collection. -/
def inFlow (lexer : Lexer) : Bool := !lexer.outer.isEmpty

/-- The column of the innermost block collection, or minus one. -/
def indent (lexer : Lexer) : Int := (lexer.columns.head?.map Int.ofNat).getD (-1)

/-- Write a token. -/
def push (lexer : Lexer) (token : Token) : Lexer :=
  { lexer with tokens := lexer.tokens.push token }

/-- Write a token and go on behind it. -/
def emit (lexer : Lexer) (token : Token) (cursor : Cursor) : Lexer :=
  { lexer.push token with cursor }

/-- Write a token of a fixed number of characters. -/
def mark (lexer : Lexer) (token : Token) (width : Nat) : Lexer :=
  lexer.emit token (lexer.cursor.skip width)

/-- Say whether a key may start next. -/
def allowKey (lexer : Lexer) (keyAllowed : Bool) : Lexer := { lexer with keyAllowed }

/-- End the block collections that are indented beyond a column. -/
def unroll (lexer : Lexer) (column : Int) : Lexer :=
  if lexer.inFlow then lexer
  else
    let ended := lexer.columns.takeWhile fun (start : Nat) => column < (start : Int)
    { lexer with
      columns := lexer.columns.drop ended.length
      tokens := lexer.tokens ++ Array.replicate ended.length Token.blockEnd }

/-- Start a block collection at a column beyond that of the innermost one. -/
def roll (lexer : Lexer) (column position : Nat) (token : Token) : Lexer :=
  if !lexer.inFlow && lexer.indent < (column : Int) then
    { lexer with
      columns := column :: lexer.columns
      tokens := lexer.tokens.insertIdxIfInBounds position token }
  else lexer

/-- Give up a place for a key, unless there has to be one. -/
def forget (place : Option KeyPlace) : Option (Option KeyPlace) :=
  if place.any (·.required) then none else some none

/-- Forget the place where a key may start. -/
def dropPlace (lexer : Lexer) : Option Lexer := do
  some { lexer with place := ← forget lexer.place }

/-- Remember that a key may start here, if it may. -/
def savePlace (lexer : Lexer) : Option Lexer :=
  if lexer.keyAllowed then do
    let lexer ← lexer.dropPlace
    let cursor := lexer.cursor
    some
      { lexer with
        place := some
          { token := lexer.tokens.size, index := cursor.index, line := cursor.line,
            column := cursor.column
            required := !lexer.inFlow && lexer.indent == (cursor.column : Int) } }
  else some lexer

/-- Give up a place that lies on an earlier line or too far back. -/
def refresh (cursor : Cursor) (place : Option KeyPlace) : Option (Option KeyPlace) :=
  if place.any fun place => place.line < cursor.line || place.index + 1024 < cursor.index then
    forget place
  else some place

/-- Give up the places that no key can start at any more. -/
def refreshAll (lexer : Lexer) : Option Lexer := do
  some
    { lexer with
      place := ← refresh lexer.cursor lexer.place
      outer := ← lexer.outer.mapM (refresh lexer.cursor) }

/-- Pass over blanks, comments and line breaks. A tab does not count as a blank where a key of a
block mapping may start. -/
def skipSpace (inFlow : Bool) : (fuel : Nat) → (keyAllowed : Bool) → Cursor → Cursor × Bool
  | 0, keyAllowed, cursor => (cursor, keyAllowed)
  | fuel + 1, keyAllowed, cursor =>
    let cursor :=
      if cursor.column == 0 && cursor.isAt byteOrderMark then cursor.skip 1 else cursor
    let cursor := cursor.skipWhile fun character =>
      character == ' ' || ((inFlow || !keyAllowed) && character == '\t')
    let cursor := if cursor.isAt '#' then cursor.skipWhile (!isBreak ·) else cursor
    match cursor.lineBreak? with
    | some (_, cursor) => skipSpace inFlow fuel (keyAllowed || !inFlow) cursor
    | none => (cursor, keyAllowed)

/-- Go to the next token. -/
def toToken (lexer : Lexer) : Lexer :=
  let (cursor, keyAllowed) :=
    skipSpace lexer.inFlow (lexer.cursor.rest.length + 1) lexer.keyAllowed lexer.cursor
  { lexer with cursor, keyAllowed }

/-! ## Reading one token -/

/-- End all block collections before a directive or a document mark. -/
def leaveDocument (lexer : Lexer) : Option Lexer := do
  some ((← (lexer.unroll (-1)).dropPlace).allowKey false)

/-- Start a flow collection. -/
def openFlow (lexer : Lexer) (token : Token) : Option Lexer := do
  let lexer ← lexer.savePlace
  some (({ lexer with place := none, outer := lexer.place :: lexer.outer }.allowKey true).mark token 1)

/-- End a flow collection. -/
def closeFlow (lexer : Lexer) (token : Token) : Option Lexer := do
  let lexer ← lexer.dropPlace
  let lexer :=
    match lexer.outer with
    | place :: outer => { lexer with place, outer }
    | [] => lexer
  some ((lexer.allowKey false).mark token 1)

/-- Start a block collection here, where a key may start. -/
def rollHere (lexer : Lexer) (token : Token) : Option Lexer :=
  if lexer.inFlow then some lexer
  else if lexer.keyAllowed then some (lexer.roll lexer.cursor.column lexer.tokens.size token)
  else none

/-- An entry of a block sequence. -/
def blockEntry (lexer : Lexer) : Option Lexer := do
  let lexer ← (← lexer.rollHere .blockSequenceStart).dropPlace
  some ((lexer.allowKey true).mark .blockEntry 1)

/-- A key with an indicator of its own. -/
def explicitKey (lexer : Lexer) : Option Lexer := do
  let lexer ← (← lexer.rollHere .blockMappingStart).dropPlace
  some ((lexer.allowKey (!lexer.inFlow)).mark .key 1)

/-- The colon before a value. If a key may have started before it, that was a key. -/
def value (lexer : Lexer) : Option Lexer :=
  match lexer.place with
  | some place =>
    let lexer := { lexer with tokens := lexer.tokens.insertIdxIfInBounds place.token .key }
    let lexer := lexer.roll place.column place.token .blockMappingStart
    some (({ lexer with place := none }.allowKey false).mark .value 1)
  | none => do
    let lexer ← lexer.rollHere .blockMappingStart
    some ((lexer.allowKey (!lexer.inFlow)).mark .value 1)

/-- A token that may be the start of a key. -/
def keyStart (lexer : Lexer) (read : Cursor → Option (Token × Cursor)) : Option Lexer := do
  let lexer ← lexer.savePlace
  let (token, cursor) ← read lexer.cursor
  some ((lexer.allowKey false).emit token cursor)

/-- An anchor or an alias. -/
def named (make : String → Token) (cursor : Cursor) : Option (Token × Cursor) :=
  (anchorName cursor).map fun (name, cursor) => (make name, cursor)

/-- A scalar between quotes. -/
def quoted (single : Bool) (cursor : Cursor) : Option (Token × Cursor) :=
  (quotedScalar single cursor).map fun (text, cursor) =>
    (.scalar .quoted (String.ofList text), cursor)

/-- A block scalar. -/
def block (lexer : Lexer) (literal : Bool) : Option Lexer := do
  let lexer ← lexer.dropPlace
  let (text, cursor) ← blockScalar literal lexer.indent lexer.cursor
  some ((lexer.allowKey true).emit
    (.scalar (if literal then .literal else .folded) (String.ofList text)) cursor)

/-- A plain scalar. Behind one that ends with a line, a key may start. -/
def plain (lexer : Lexer) : Option Lexer := do
  let lexer ← lexer.savePlace
  let scalar ← plainScalar lexer.inFlow (lexer.indent + 1) lexer.cursor
  some ((lexer.allowKey scalar.multiline).emit (.scalar .plain (String.ofList scalar.text))
    scalar.cursor)

/-- Whether a plain scalar may start with a character that is followed by the rest. -/
def startsPlain (inFlow : Bool) (first : Char) (rest : List Char) : Bool :=
  let blankNext := rest.head?.any isSpacing
  let indicator := isSeparator first || "-?:,[]\x7b\x7d#&*!|>'\"%@\x60".toList.contains first
  !indicator || (first == '-' && !blankNext) ||
    (!inFlow && (first == '?' || first == ':') && !endsWord rest)

/-- Read the next token, which starts with a character. -/
def token (lexer : Lexer) (first : Char) (rest : List Char) : Option Lexer :=
  let cursor := lexer.cursor
  if cursor.column == 0 && first == '%' then do
    let lexer ← lexer.leaveDocument
    let (token, cursor) ← directive cursor
    some (lexer.emit token cursor)
  else if cursor.isAtIndicator '-' then do some ((← lexer.leaveDocument).mark .documentStart 3)
  else if cursor.isAtIndicator '.' then do some ((← lexer.leaveDocument).mark .documentEnd 3)
  else
    match first with
    | '[' => lexer.openFlow .flowSequenceStart
    | '\x7b' => lexer.openFlow .flowMappingStart
    | ']' => lexer.closeFlow .flowSequenceEnd
    | '\x7d' => lexer.closeFlow .flowMappingEnd
    | ',' => do some (((← lexer.dropPlace).allowKey true).mark .flowEntry 1)
    | '*' => lexer.keyStart (named Token.alias)
    | '&' => lexer.keyStart (named Token.anchor)
    | '!' => lexer.keyStart (tagToken lexer.inFlow)
    | '\'' => lexer.keyStart (quoted true)
    | '"' => lexer.keyStart (quoted false)
    | _ =>
      if first == '-' && endsWord rest then lexer.blockEntry
      else if first == '?' && (lexer.inFlow || endsWord rest) then lexer.explicitKey
      else if first == ':' && (lexer.inFlow || endsWord rest) then lexer.value
      else if first == '|' && !lexer.inFlow then lexer.block true
      else if first == '>' && !lexer.inFlow then lexer.block false
      else if startsPlain lexer.inFlow first rest then lexer.plain
      else none

/-- Read all tokens. Each takes at least one character. -/
def tokens? : (fuel : Nat) → Lexer → Option (List Token)
  | 0, _ => none
  | fuel + 1, lexer => do
    let lexer ← lexer.toToken.refreshAll
    let lexer := lexer.unroll lexer.cursor.column
    match lexer.cursor.rest with
    | [] =>
      let lexer ← lexer.leaveDocument
      some lexer.tokens.toList
    | first :: rest => tokens? fuel (← lexer.token first rest)

end Lexer

/-- The tokens of a text, if it can be split into tokens. -/
def Token.ofText? (text : List Char) : Option (List Token) :=
  if text.all isPrintable then Lexer.tokens? (text.length + 1) (Lexer.start text) else none

end Deliberation.Yaml
