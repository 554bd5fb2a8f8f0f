import Deliberation.Text.Alphanumeric
import Deliberation.Text.Blank
import Deliberation.Text.Digit
import Deliberation.Text.Glyph

/-!
# Patterns of field values

`isPattern` tells whether a text is a regular expression: groups, alternatives, repetitions, sets,
escapes and flags. Expressions that need tables of the properties of characters are refused: classes
by property, and where characters count as code points, the short classes, word boundaries and
letters in either case. Where bytes count, expressions that match a part of a character are refused.

A counted repetition needs a closing brace. No text that comes here holds one behind an opening
brace, so an opening brace outside of a set is refused as well.
-/

namespace Deliberation.LogFilter

open Deliberation.Text

/-! ## Reading -/

/-- How an expression is read: whether characters count as code points, whether their case does not
count, and whether blanks and comments are passed over. -/
structure PatternMode where
  codePoints : Bool
  anyCase : Bool
  spaced : Bool

/-- The rest of an expression, how it is read, and the names of the groups before it. -/
structure PatternReader where
  rest : List Char
  mode : PatternMode
  names : List (List Char)

/-- What stands for one character or one place: a character, which may be written as two digits of a
byte; a short class; a place at a word boundary; another place. -/
inductive PatternAtom where
  | literal (value : Char) (asByte : Bool)
  | shortClass (negated : Bool)
  | wordBoundary
  | place

namespace PatternMode

/-- Whether an atom is admitted as an expression. -/
def admits (mode : PatternMode) : PatternAtom → Bool
  | .literal value asByte =>
    if mode.codePoints then !mode.anyCase else !asByte || value.toNat < 0x80
  | .shortClass negated => !mode.codePoints && !negated
  | .wordBoundary => !mode.codePoints
  | .place => true

/-- Whether a character is admitted in a set. -/
def admitsMember (mode : PatternMode) (value : Char) : Bool :=
  if mode.codePoints then !mode.anyCase else value.toNat < 0x80

/-- Whether a named class of a set is admitted. -/
def admitsNamedClass (mode : PatternMode) (negated : Bool) : Bool :=
  if mode.codePoints then !mode.anyCase else !negated

end PatternMode

/-- Pass over blanks and comments. A comment goes to the end of its line. -/
def dropSpace : (comment : Bool) → List Char → List Char
  | _, [] => []
  | true, character :: rest => dropSpace (character != '\n') rest
  | false, character :: rest =>
    if isBlank character then dropSpace false rest
    else if character == '#' then dropSpace true rest
    else character :: rest

namespace PatternReader

/-- Go on with a rest. -/
def withRest (reader : PatternReader) (rest : List Char) : PatternReader := { reader with rest }

/-- Pass over what does not count. -/
def skipSpace (reader : PatternReader) : PatternReader :=
  if reader.mode.spaced then reader.withRest (dropSpace false reader.rest) else reader

/-- The character that a range of a set would end with. A comment in front of it is not passed over
as a whole, but its first character is. -/
def peek? (reader : PatternReader) (rest : List Char) : Option Char :=
  let found :=
    match trimStart rest with
    | '#' :: comment => trimStart comment
    | found => found
  if reader.mode.spaced && !found.isEmpty then found.head? else rest.head?

end PatternReader

/-! ## Escapes -/

/-- The character that so many hexadecimal digits write. -/
def hexCharacter? : (count number : Nat) → PatternReader → Option (Char × PatternReader)
  | 0, number, reader => (Glyph.scalar? 0 number).map (·, reader)
  | count + 1, number, reader =>
    let reader := reader.skipSpace
    match reader.rest with
    | digit :: rest => do
      hexCharacter? count (number * 16 + (← hexValue? digit)) (reader.withRest rest)
    | [] => none

/-- The character that a letter behind a backslash stands for. -/
def controlCharacter? : Char → Option Char
  | 'a' => some '\x07'
  | 'f' => some '\x0c'
  | 't' => some '\t'
  | 'n' => some '\n'
  | 'r' => some '\r'
  | 'v' => some '\x0b'
  | _ => none

/-- What an escape means whose backslash has been read. A mark stands for itself. -/
def escape? (reader : PatternReader) : Option (PatternAtom × PatternReader) :=
  match reader.rest with
  | [] => none
  | letter :: rest =>
    let reader := reader.withRest rest
    let hex (count : Nat) (asByte : Bool) : Option (PatternAtom × PatternReader) :=
      (hexCharacter? count 0 reader).map fun (value, reader) => (.literal value asByte, reader)
    if letter == 'x' then hex 2 true
    else if letter == 'u' then hex 4 false
    else if letter == 'U' then hex 8 false
    else if ['d', 's', 'w'].contains letter then some (.shortClass false, reader)
    else if ['D', 'S', 'W'].contains letter then some (.shortClass true, reader)
    else if ['b', 'B', '<', '>'].contains letter then some (.wordBoundary, reader)
    else if ['A', 'z'].contains letter then some (.place, reader)
    else if letter.toNat < 0x80 && !letter.isAlphanum then some (.literal letter false, reader)
    else (controlCharacter? letter).map fun value => (.literal value false, reader)

/-! ## Sets -/

/-- The names of classes that a set may hold. -/
def classNames : List String :=
  ["alnum", "alpha", "ascii", "blank", "cntrl", "digit", "graph", "lower", "print", "punct",
    "space", "upper", "word", "xdigit"]

/-- A named class, the opening bracket of which has been read: whether it is negated, and what
follows it. -/
def namedClass? : List Char → Option (Bool × List Char)
  | ':' :: rest =>
    let (negated, rest) :=
      match rest with
      | '^' :: rest => (true, rest)
      | rest => (false, rest)
    match rest.span (· != ':') with
    | (name, ':' :: ']' :: rest) =>
      if classNames.contains (String.ofList name) then some (negated, rest) else none
    | _ => none
  | _ => none

/-- A character of a set, or an escape. -/
def member? (reader : PatternReader) : Option (PatternAtom × PatternReader) :=
  match reader.rest with
  | '\\' :: rest => escape? (reader.withRest rest)
  | value :: rest => some (.literal value false, reader.withRest rest)
  | [] => none

/-- Read a member of a set: a range, a character or a short class. -/
def setMember? (reader : PatternReader) : Option PatternReader := do
  let (first, reader) ← member? reader
  let reader := reader.skipSpace
  let alone : Option PatternReader :=
    match first with
    | .literal value _ => if reader.mode.admitsMember value then some reader else none
    | .shortClass negated => if reader.mode.admits (.shortClass negated) then some reader else none
    | _ => none
  match reader.rest with
  | [] => none
  | '-' :: rest =>
    if [some ']', some '-'].contains (reader.peek? rest) then alone
    else
      match first, ← member? (reader.withRest rest).skipSpace with
      | .literal first _, (.literal last _, reader) =>
        if first ≤ last && reader.mode.admitsMember first && reader.mode.admitsMember last then
          some reader
        else none
      | _, _ => none
  | _ => alone

/-- How many parts there are, and how deeply the deepest is nested. -/
structure PatternParts where
  count : Nat
  depth : Nat

namespace PatternParts

/-- No parts. -/
def empty : PatternParts := { count := 0, depth := 0 }

/-- Add a part. -/
def add (parts : PatternParts) (depth : Nat) : PatternParts :=
  { count := parts.count + 1, depth := max parts.depth depth }

/-- How deeply the whole is nested. A single part is the whole. -/
def nesting (parts : PatternParts) : Nat := if parts.count ≤ 1 then parts.depth else parts.depth + 1

end PatternParts

/-- The hyphens that may stand in front of a set, each as a member. -/
def leadingHyphens : (fuel : Nat) → PatternParts → PatternReader → PatternParts × PatternReader
  | 0, parts, reader => (parts, reader)
  | fuel + 1, parts, reader =>
    match reader.rest with
    | '-' :: rest => leadingHyphens fuel (parts.add 0) (reader.withRest rest).skipSpace
    | _ => (parts, reader)

/-- The start of a set, the opening bracket of which has been read: hyphens, or a closing bracket as
the first member. -/
def setStart? (reader : PatternReader) : Option (PatternParts × PatternReader) :=
  let reader := reader.skipSpace
  let (negated, reader) :=
    match reader.rest with
    | '^' :: rest => (true, (reader.withRest rest).skipSpace)
    | _ => (false, reader)
  if negated && !reader.mode.codePoints then none
  else
    let (parts, reader) := leadingHyphens reader.rest.length .empty reader
    if 0 < parts.count && !reader.mode.admitsMember '-' then none
    else
      match parts.count, reader.rest with
      | 0, ']' :: rest =>
        if reader.mode.admitsMember ']' then some (parts.add 0, (reader.withRest rest).skipSpace)
        else none
      | _, _ => some (parts, reader)

/-- Read the rest of a set behind its start and give its nesting. `former` is that of the operands
before the last operator. -/
def setFrom? : (fuel : Nat) → (former : Option Nat) → PatternParts → PatternReader →
    Option (Nat × PatternReader)
  | 0, _, _, _ => none
  | fuel + 1, former, parts, reader =>
    let reader := reader.skipSpace
    let nesting :=
      match former with
      | none => parts.nesting
      | some former => max former parts.nesting + 1
    match reader.rest with
    | [] => none
    | ']' :: rest => some (nesting + 1, reader.withRest rest)
    | '&' :: '&' :: rest | '-' :: '-' :: rest | '~' :: '~' :: rest =>
      setFrom? fuel (some nesting) .empty (reader.withRest rest)
    | '[' :: rest =>
      match namedClass? rest with
      | some (negated, rest) =>
        if reader.mode.admitsNamedClass negated then
          setFrom? fuel former (parts.add 0) (reader.withRest rest)
        else none
      | none => do
        let (inner, reader) ← setStart? (reader.withRest rest)
        let (depth, reader) ← setFrom? fuel none inner reader
        setFrom? fuel former (parts.add depth) reader
    | _ => do setFrom? fuel former (parts.add 0) (← setMember? reader)

/-! ## Groups -/

/-- Change a mode by a flag; other flags than these say nothing about what is admitted. -/
def PatternMode.withFlag (mode : PatternMode) (flag : Char) (value : Bool) : PatternMode :=
  if flag == 'i' then { mode with anyCase := value }
  else if flag == 'u' then { mode with codePoints := value }
  else if flag == 'x' then { mode with spaced := value }
  else mode

/-- Read flags up to a colon or a closing parenthesis. No flag may come twice, and a hyphen, which
turns off the flags behind it, is not the last. -/
def flags? (mode : PatternMode) :
    (done : List Char) → List Char → Option (PatternMode × List Char × List Char)
  | _, [] => none
  | done, flag :: rest =>
    if flag == ':' || flag == ')' then
      if done.head? == some '-' then none else some (mode, done, flag :: rest)
    else if done.contains flag then none
    else if flag == '-' then flags? mode (flag :: done) rest
    else if ['i', 'm', 's', 'U', 'u', 'R', 'x'].contains flag then
      flags? (mode.withFlag flag (!done.contains '-')) (flag :: done) rest
    else none

/-- Whether the name of a group may have a character. -/
def isNameCharacter (first : Bool) (character : Char) : Bool :=
  character == '_' ||
    if first then isAlphabetic character
    else isAlphanumeric character || ['.', '[', ']'].contains character

/-- Read the name of a group. No two groups have the same name. -/
def groupName? (reader : PatternReader) : Option PatternReader :=
  match reader.rest.span (· != '>') with
  | (first :: name, _ :: rest) =>
    if isNameCharacter true first && name.all (isNameCharacter false) &&
        !reader.names.contains (first :: name) then
      some { reader with rest, names := (first :: name) :: reader.names }
    else none
  | _ => none

/-- Read what follows an opening parenthesis: the start of a group, or flags for what comes next. -/
def opening? (reader : PatternReader) : Option (Bool × PatternReader) :=
  let reader := reader.skipSpace
  match reader.rest with
  | '?' :: 'P' :: '<' :: rest | '?' :: '<' :: rest =>
    (groupName? (reader.withRest rest)).map fun reader => (true, reader)
  | '?' :: rest => do
    let (mode, done, rest) ← flags? reader.mode [] rest
    match rest with
    | ':' :: rest => some (true, { reader with rest, mode })
    | rest => if done.isEmpty then none else some (false, { reader with rest := rest.drop 1, mode })
  | _ => some (true, reader)

/-! ## Expressions -/

/-- What one alternative holds so far; `last` is the nesting of its last part, if that can be
repeated. -/
structure PatternBranch where
  parts : PatternParts
  last : Option Nat

namespace PatternBranch

/-- An alternative that holds nothing. -/
def empty : PatternBranch := { parts := .empty, last := none }

/-- Add a part that can be repeated. -/
def add (branch : PatternBranch) (depth : Nat) : PatternBranch :=
  { parts := branch.parts.add depth, last := some depth }

/-- Add flags, which cannot be repeated. -/
def addFlags (branch : PatternBranch) : PatternBranch :=
  { parts := branch.parts.add 0, last := none }

/-- Repeat the last part. -/
def repeated? (branch : PatternBranch) : Option PatternBranch := do
  let depth := (← branch.last) + 1
  some { parts := { branch.parts with depth := max branch.parts.depth depth }, last := some depth }

end PatternBranch

/-- Read one character, escape or place outside of a set. -/
def atom? (reader : PatternReader) : Option PatternReader :=
  match reader.rest with
  | '\x7b' :: _ | [] => none
  | '.' :: rest => if reader.mode.codePoints then some (reader.withRest rest) else none
  | '^' :: rest | '$' :: rest => some (reader.withRest rest)
  | _ => do
    let (atom, rest) ← member? reader
    if reader.mode.admits atom then some rest else none

/-- Read alternatives up to a closing parenthesis or the end and give their nesting. `former` is
that of the finished ones, if there are any. -/
def alternatives? : (fuel : Nat) → (former : Option Nat) → PatternBranch → PatternReader →
    Option (Nat × PatternReader)
  | 0, _, _, _ => none
  | fuel + 1, former, branch, reader =>
    let reader := reader.skipSpace
    let nesting := branch.parts.nesting
    match reader.rest with
    | [] | ')' :: _ =>
      some ((former.map fun former => max former nesting + 1).getD nesting, reader)
    | '|' :: rest =>
      alternatives? fuel (some (max (former.getD 0) nesting)) .empty (reader.withRest rest)
    | '(' :: rest => do
      let (isGroup, inner) ← opening? (reader.withRest rest)
      if isGroup then
        let (depth, closed) ← alternatives? fuel none .empty inner
        match closed.rest with
        | ')' :: rest =>
          let after := { closed with rest, mode := reader.mode }
          alternatives? fuel former (branch.add (depth + 1)) after
        | _ => none
      else alternatives? fuel former branch.addFlags inner
    | '[' :: rest => do
      let (parts, reader) ← setStart? (reader.withRest rest)
      let (depth, reader) ← setFrom? (reader.rest.length + 1) none parts reader
      alternatives? fuel former (branch.add depth) reader
    | first :: rest => do
      if ['?', '*', '+'].contains first then
        let rest := if rest.head? == some '?' then rest.drop 1 else rest
        alternatives? fuel former (← branch.repeated?) (reader.withRest rest)
      else alternatives? fuel former (branch.add 0) (← atom? reader)

/-- The deepest nesting of an expression. -/
def deepestNesting : Nat := 250

/-- Whether a text is a regular expression. -/
def isPattern (text : List Char) : Bool :=
  let mode : PatternMode := { codePoints := true, anyCase := false, spaced := false }
  match alternatives? (text.length + 1) none .empty { rest := text, mode, names := [] } with
  | some (nesting, reader) => reader.rest.isEmpty && nesting ≤ deepestNesting
  | none => false

end Deliberation.LogFilter
