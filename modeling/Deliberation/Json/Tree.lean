import Deliberation.Json.Literal

/-!
# JSON texts as trees

`Document.ofGlyphs` reads a text into a tree, up to the first fault of the grammar, which stands in
the tree where it was met. A decoder that walks the tree in the order of the text therefore reports
the fault that comes first: its own mismatch or the fault in the tree.
-/

namespace Deliberation.Json

open Deliberation.Text

/-- A string that a value or the name of a member writes: its text when it is wanted, and the fault
when it is passed over. -/
structure StringNode where
  text : Except Fault String
  skipped : Option Fault

/-- A value. -/
inductive Tree where
  | null
  | flag (value : Bool)
  /-- A number: when it is wanted, the natural number it writes, if it writes one. -/
  | number (natural : Except Fault (Option Nat)) (skipped : Option Fault)
  | string (node : StringNode)
  /-- Items up to the end, or up to a fault behind the last item. -/
  | array (items : List Tree) (ending : Option Fault)
  /-- Members up to the end, or up to a fault behind the last member. -/
  | object (members : List (StringNode × Tree)) (ending : Option Fault)
  /-- A value that does not follow the grammar. -/
  | broken (fault : Fault)

/-- Whether a glyph is insignificant between values. -/
def isSpace : Glyph → Bool
  | .character value => value == ' ' || value == '\n' || value == '\t' || value == '\r'
  | .stray _ => false

/-- Pass over insignificant glyphs. -/
def skipSpace (glyphs : List Glyph) : List Glyph := glyphs.dropWhile isSpace

/-- The fault of a text that does not go on as expected. -/
def unexpected (rest : List Glyph) : Fault := if rest.isEmpty then .incomplete else .malformed

/-- A fixed word, the first letter of which has been read. -/
def word (value : Tree) : List Char → List Glyph → Tree × Option (List Glyph)
  | [], rest => (value, some rest)
  | _ :: _, [] => (.broken .incomplete, none)
  | expected :: word, glyph :: rest =>
    if glyph = .character expected then Json.word value word rest else (.broken .malformed, none)

/-- A string, the opening quote of which has been read, and what follows it. -/
def stringNode (glyphs : List Glyph) : StringNode × Option (List Glyph) :=
  match afterString glyphs with
  | .ok rest => ({ text := stringText glyphs, skipped := none }, some rest)
  | .error fault => ({ text := stringText glyphs, skipped := some fault }, none)

/-- A number and what follows it. -/
def numberNode (glyphs : List Glyph) : Tree × Option (List Glyph) :=
  let natural :=
    match numeral true glyphs with
    | .ok (numeral, _) =>
      if isOutOfRange numeral then .error .malformed else .ok (naturalOf? numeral)
    | .error fault => .error fault
  match numeral false glyphs with
  | .ok (_, rest) => (.number natural none, some rest)
  | .error fault => (.number natural (some fault), none)

mutual

/-- Read a value: the tree and what follows it, unless the value has a fault. Every nested value
takes at least one glyph, so `fuel` beyond the length of the text is never used up. -/
def value : (fuel : Nat) → List Glyph → Tree × Option (List Glyph)
  | 0, _ => (.broken .incomplete, none)
  | fuel + 1, glyphs =>
    match skipSpace glyphs with
    | [] => (.broken .incomplete, none)
    | .character 'n' :: rest => word .null ['u', 'l', 'l'] rest
    | .character 't' :: rest => word (.flag true) ['r', 'u', 'e'] rest
    | .character 'f' :: rest => word (.flag false) ['a', 'l', 's', 'e'] rest
    | .character '"' :: rest =>
      let (node, rest) := stringNode rest
      (.string node, rest)
    | .character '[' :: rest =>
      match skipSpace rest with
      | .character ']' :: rest => (.array [] none, some rest)
      | [] => (.array [] (some .incomplete), none)
      | rest =>
        let (items, ending, rest) := valuesFrom fuel rest
        (.array items ending, rest)
    | .character '\x7b' :: rest =>
      match skipSpace rest with
      | .character '\x7d' :: rest => (.object [] none, some rest)
      | rest =>
        let (members, ending, rest) := membersFrom fuel rest
        (.object members ending, rest)
    | first :: rest =>
      if isDigit first || first = .character '-' then numberNode (first :: rest)
      else (.broken .malformed, none)

/-- Read items up to the end of their array. -/
def valuesFrom : (fuel : Nat) → List Glyph → List Tree × Option Fault × Option (List Glyph)
  | 0, _ => ([], some .incomplete, none)
  | fuel + 1, glyphs =>
    match value fuel glyphs with
    | (item, none) => ([item], none, none)
    | (item, some rest) =>
      match skipSpace rest with
      | .character ',' :: rest =>
        let (items, ending, rest) := valuesFrom fuel rest
        (item :: items, ending, rest)
      | .character ']' :: rest => ([item], none, some rest)
      | rest => ([item], some (unexpected rest), none)

/-- Read members up to the end of their object. -/
def membersFrom : (fuel : Nat) → List Glyph →
    List (StringNode × Tree) × Option Fault × Option (List Glyph)
  | 0, _ => ([], some .incomplete, none)
  | fuel + 1, glyphs =>
    match skipSpace glyphs with
    | .character '"' :: rest =>
      match stringNode rest with
      | (name, none) => ([(name, .broken .malformed)], none, none)
      | (name, some rest) =>
        match skipSpace rest with
        | .character ':' :: rest =>
          match value fuel rest with
          | (member, none) => ([(name, member)], none, none)
          | (member, some rest) =>
            match skipSpace rest with
            | .character ',' :: rest =>
              let (members, ending, rest) := membersFrom fuel rest
              ((name, member) :: members, ending, rest)
            | .character '\x7d' :: rest => ([(name, member)], none, some rest)
            | rest => ([(name, member)], some (unexpected rest), none)
        | rest => ([(name, .broken (unexpected rest))], none, none)
    | rest => ([], some (unexpected rest), none)

end

/-- A value and whether anything follows it. -/
structure Document where
  root : Tree
  trailing : Bool

/-- Read a text. -/
def Document.ofGlyphs (glyphs : List Glyph) : Document :=
  match value (2 * glyphs.length + 2) glyphs with
  | (root, some rest) => { root, trailing := !(skipSpace rest).isEmpty }
  | (root, none) => { root, trailing := false }

namespace Tree

mutual

/-- The first fault of a value that is passed over. -/
def skip : Tree → Option Fault
  | null => none
  | flag _ => none
  | number _ skipped => skipped
  | string node => node.skipped
  | array items ending => (skipItems items).or ending
  | object members ending => (skipMembers members).or ending
  | broken fault => some fault

/-- The first fault of items that are passed over. -/
def skipItems : List Tree → Option Fault
  | [] => none
  | item :: rest => item.skip.or (skipItems rest)

/-- The first fault of members that are passed over. -/
def skipMembers : List (StringNode × Tree) → Option Fault
  | [] => none
  | (name, member) :: rest => (name.skipped.or member.skip).or (skipMembers rest)

end

/-- The fault of a value that is not of the wanted kind. A literal is read before it is found
wanting. -/
def clash : Tree → Fault
  | broken fault => fault
  | number (.error fault) _ => fault
  | string { text := .error fault, .. } => fault
  | _ => .mismatched

end Tree

end Deliberation.Json
