import Deliberation.Text.Digit
import Deliberation.Yaml.Cursor

/-!
# YAML scalars

The three ways to write a scalar: plain, between quotes, or as a block of lines. Each reader starts
at the first character of the scalar and gives its text and what follows it, or nothing if the
scalar is faulty.
-/

namespace Deliberation.Yaml

/-- How a scalar is written, as far as its meaning depends on it. -/
inductive Style where
  | plain
  | quoted
  | literal
  | folded
  deriving DecidableEq, Inhabited

/-! ## Plain scalars -/

/-- Whether a character is one of the indicators of flow collections. -/
def isFlowIndicator (character : Char) : Bool :=
  character == ',' || character == '[' || character == ']' || character == '\x7b' ||
    character == '\x7d'

/-- The next word of a plain scalar. Within a flow collection, a colon before a flow indicator is
refused. -/
def plainWord (inFlow : Bool) : List Char → Option (List Char)
  | [] => some []
  | ':' :: rest =>
    if inFlow && rest.head?.any fun next => isFlowIndicator next || next == '?' then none
    else if endsWord rest then some []
    else (plainWord inFlow rest).map (':' :: ·)
  | character :: rest =>
    if isSeparator character || (inFlow && isFlowIndicator character) then some []
    else (plainWord inFlow rest).map (character :: ·)

/-- A plain scalar that has been read: its text, what follows it, and whether that is on another
line than its last word. -/
structure PlainScalar where
  text : List Char
  cursor : Cursor
  multiline : Bool

/-- Read the words of a plain scalar that are still to come. `gap` stands before the next word. -/
def plainFrom (inFlow : Bool) (indent : Int) :
    (fuel : Nat) → (text gapText : List Char) → (multiline : Bool) → Cursor → Option PlainScalar
  | 0, _, _, _, _ => none
  | fuel + 1, text, gapText, multiline, cursor =>
    if cursor.isAtDocumentMark || cursor.isAt '#' then some { text, cursor, multiline }
    else do
      let word ← plainWord inFlow cursor.rest
      let text := if word.isEmpty then text else text ++ gapText ++ word
      let multiline := multiline && word.isEmpty
      let cursor := cursor.skip word.length
      if cursor.rest.head?.any isSeparator then
        let (space, cursor) ← gap indent cursor
        let multiline := multiline || !space.breaks.isEmpty
        if !inFlow && (cursor.column : Int) < indent then some { text, cursor, multiline }
        else plainFrom inFlow indent fuel text space.text multiline cursor
      else some { text, cursor, multiline }

/-- Read a plain scalar. Outside of flow collections its further lines have to be indented at least
by `indent`. -/
def plainScalar (inFlow : Bool) (indent : Int) (cursor : Cursor) : Option PlainScalar :=
  plainFrom inFlow indent (cursor.rest.length + 1) [] [] false cursor

/-! ## Quoted scalars -/

/-- The character that a letter behind a backslash stands for. -/
def escape? : Char → Option Char
  | '0' => some '\x00'
  | 'a' => some '\x07'
  | 'b' => some '\x08'
  | 't' => some '\t'
  | '\t' => some '\t'
  | 'n' => some '\n'
  | 'v' => some '\x0b'
  | 'f' => some '\x0c'
  | 'r' => some '\r'
  | 'e' => some '\x1b'
  | ' ' => some ' '
  | '"' => some '"'
  | '/' => some '/'
  | '\\' => some '\\'
  | 'N' => some (Char.ofNat 0x85)
  | '_' => some (Char.ofNat 0xA0)
  | 'L' => some (Char.ofNat 0x2028)
  | 'P' => some (Char.ofNat 0x2029)
  | _ => none

/-- The number of digits behind a letter that announces a code point. -/
def codeLength? : Char → Option Nat
  | 'x' => some 2
  | 'u' => some 4
  | 'U' => some 8
  | _ => none

/-- The character with a code point, unless it is a surrogate or too large. -/
def characterOf? (code : Nat) : Option Char :=
  if h : code.isValidChar then some (Char.ofNatAux code h) else none

/-- An escape sequence behind its backslash: the character and the number of characters read. -/
def escapeSequence : List Char → Option (Char × Nat)
  | [] => none
  | letter :: rest =>
    match codeLength? letter with
    | some length => do
      let digits := rest.take length
      if digits.length = length then
        let code ← Text.number? 16 digits
        some (← characterOf? code, length + 1)
      else none
    | none => (escape? letter).map (·, 1)

/-- What a run of characters between quotes comes to. -/
inductive QuotedRun where
  /-- A separator, the closing quote or the end of the text follows. -/
  | word (text : List Char) (cursor : Cursor)
  /-- An escaped line break has been read. -/
  | joined (text : List Char) (cursor : Cursor)

/-- Put a character in front of a run. -/
def QuotedRun.cons (character : Char) : QuotedRun → QuotedRun
  | word text cursor => word (character :: text) cursor
  | joined text cursor => joined (character :: text) cursor

/-- Read characters between quotes up to a separator or the closing quote. -/
def quotedRun (single : Bool) : (fuel : Nat) → Cursor → Option QuotedRun
  | 0, _ => none
  | fuel + 1, cursor =>
    match cursor.rest with
    | [] => some (.word [] cursor)
    | character :: rest =>
      if isSeparator character then some (.word [] cursor)
      else if single then
        if character == '\'' then
          if rest.head? == some '\'' then
            (quotedRun single fuel (cursor.skip 2)).map (·.cons '\'')
          else some (.word [] cursor)
        else (quotedRun single fuel (cursor.skip 1)).map (·.cons character)
      else if character == '"' then some (.word [] cursor)
      else if character == '\\' then
        match (cursor.skip 1).lineBreak? with
        | some (_, cursor) => some (.joined [] cursor)
        | none => do
          let (value, length) ← escapeSequence rest
          some ((← quotedRun single fuel (cursor.skip (length + 1))).cons value)
      else (quotedRun single fuel (cursor.skip 1)).map (·.cons character)

/-- Read a quoted scalar behind its opening quote. -/
def quotedFrom (single : Bool) : (fuel : Nat) → Cursor → Option (List Char × Cursor)
  | 0, _ => none
  | fuel + 1, cursor =>
    let quote := if single then '\'' else '"'
    if cursor.isAtDocumentMark || cursor.isAtEnd then none
    else do
      let run ← quotedRun single (cursor.rest.length + 1) cursor
      match run with
      | .word text cursor =>
        if cursor.isAt quote then some (text, cursor.skip 1)
        else
          let (space, cursor) ← gap (-1) cursor
          let (more, cursor) ← quotedFrom single fuel cursor
          some (text ++ space.text ++ more, cursor)
      | .joined text cursor =>
        if cursor.isAt quote then some (text, cursor.skip 1)
        else
          let (breaks, cursor) ← breaksFrom cursor.rest.length (-1) cursor
          let (more, cursor) ← quotedFrom single fuel cursor
          some (text ++ breaks ++ more, cursor)

/-- Read a quoted scalar. -/
def quotedScalar (single : Bool) (cursor : Cursor) : Option (List Char × Cursor) :=
  quotedFrom single (cursor.rest.length + 1) (cursor.skip 1)

/-! ## Block scalars -/

/-- What happens to the line breaks at the end of a block. -/
inductive Chomping where
  | strip
  | clip
  | keep
  deriving DecidableEq

/-- An optional chomping indicator. -/
def chomping (cursor : Cursor) : Option Chomping × Cursor :=
  if cursor.isAt '+' then (some .keep, cursor.skip 1)
  else if cursor.isAt '-' then (some .strip, cursor.skip 1)
  else (none, cursor)

/-- An optional indentation indicator, which is a digit but not zero. -/
def indentation (cursor : Cursor) : Option (Option Nat × Cursor) :=
  match cursor.rest with
  | digit :: _ =>
    if digit == '0' then none
    else if digit.isDigit then some (some (digit.toNat - 48), cursor.skip 1)
    else some (none, cursor)
  | [] => some (none, cursor)

/-- The indicators of a block in either order. -/
def blockHeader (cursor : Cursor) : Option (Chomping × Option Nat × Cursor) := do
  match chomping cursor with
  | (some chomping, cursor) =>
    let (increment, cursor) ← indentation cursor
    some (chomping, increment, cursor)
  | (none, cursor) =>
    let (increment, cursor) ← indentation cursor
    if increment.isSome then
      let (chomping?, cursor) := chomping cursor
      some (chomping?.getD .clip, increment, cursor)
    else some (.clip, none, cursor)

/-- Pass over blanks and a comment to the end of the line and over the line break. -/
def finishLine (cursor : Cursor) : Option Cursor :=
  let cursor := cursor.skipWhile isSpacing
  let cursor := if cursor.isAt '#' then cursor.skipWhile (!isBreak ·) else cursor
  match cursor.lineBreak? with
  | some (_, cursor) => some cursor
  | none => if cursor.isAtEnd then some cursor else none

/-- Read empty lines of a block. Without a known indentation, all leading spaces are passed over and
the largest column is kept. A tab in the indentation is refused. -/
def blockBreaks (indent : Option Nat) :
    (fuel : Nat) → (largest : Nat) → Cursor → Option (List Char × Nat × Cursor)
  | 0, _, _ => none
  | fuel + 1, largest, cursor =>
    let spaces := (cursor.rest.takeWhile (· == ' ')).length
    let cursor := cursor.skip ((indent.map fun indent => min spaces (indent - cursor.column)).getD spaces)
    let largest := max largest cursor.column
    if cursor.isAt '\t' && indent.all (cursor.column < ·) then none
    else
      match cursor.lineBreak? with
      | none => some ([], largest, cursor)
      | some (first, cursor) => do
        let (more, largest, cursor) ← blockBreaks indent fuel largest cursor
        some (first :: more, largest, cursor)

/-- What joins two lines of a block: the line break behind the first and the breaks of the empty
lines between them. In a folded block a single line feed between lines without leading blanks counts
as a blank, and of several the first is left out. -/
def joinLines (literal : Bool) (leading : Option Char) (breaks : List Char)
    (blankBefore blankAfter : Bool) : List Char :=
  match leading with
  | some '\n' =>
    if !literal && !blankBefore && !blankAfter then
      if breaks.isEmpty then [' '] else breaks
    else '\n' :: breaks
  | some other => other :: breaks
  | none => breaks

/-- Read the lines of a block. -/
def blockLines (literal : Bool) (chomping : Chomping) (indent : Nat) :
    (fuel : Nat) → (text : List Char) → (leading : Option Char) → (breaks : List Char) →
      (blankBefore : Bool) → Cursor → Option (List Char × Cursor)
  | 0, _, _, _, _, _ => none
  | fuel + 1, text, leading, breaks, blankBefore, cursor =>
    if cursor.column == indent && !cursor.isAtEnd then do
      let blankAfter := cursor.rest.head?.any isSpacing
      let text := text ++ joinLines literal leading breaks blankBefore blankAfter
      let (line, cursor) := cursor.takeWhile (!isBreak ·)
      let text := text ++ line
      match cursor.lineBreak? with
      | some (leading, cursor) =>
        let (breaks, _, cursor) ← blockBreaks (some indent) (cursor.rest.length + 1) 0 cursor
        blockLines literal chomping indent fuel text (some leading) breaks blankAfter cursor
      | none =>
        let (breaks, _, cursor) ← blockBreaks (some indent) (cursor.rest.length + 1) 0 cursor
        blockLines literal chomping indent fuel text none breaks blankAfter cursor
    else
      some (text ++
        (if chomping == .strip then [] else leading.toList) ++
        (if chomping == .keep then breaks else []), cursor)

/-- Read a block scalar. `outer` is the indentation of the collection that holds it. -/
def blockScalar (literal : Bool) (outer : Int) (cursor : Cursor) : Option (List Char × Cursor) := do
  let (chomping, increment, cursor) ← blockHeader (cursor.skip 1)
  let cursor ← finishLine cursor
  let known := increment.map fun increment => (max outer 0).toNat + increment
  let (breaks, largest, cursor) ← blockBreaks known (cursor.rest.length + 1) 0 cursor
  let indent := known.getD (max (max largest (outer + 1).toNat) 1)
  blockLines literal chomping indent (cursor.rest.length + 2) [] none breaks false cursor

end Deliberation.Yaml
