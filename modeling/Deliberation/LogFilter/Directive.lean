import Deliberation.LogFilter.Level
import Deliberation.LogFilter.Pattern
import Deliberation.Text.Numeral
import Deliberation.Text.Slice

/-!
# Log directives

A directive sets the level of the events whose target starts with its own target: `info`, `target`,
`target=info`. Behind the target brackets may name a span or a field: a directive for a span says
nothing about events outside of spans, one for a field only counts for events with that field.

Blanks in front of a directive shift its parts: the places where parts begin and end are counted
without these blanks, but the parts are cut out of the whole text. So an indented directive seldom
means what it says, and a cut may fall within a character, which leaves no directive at all.
-/

namespace Deliberation

open Deliberation.Text

/-- A directive. -/
structure Directive where
  target : Option String
  level : LogLevel
  withinSpans : Bool
  field : Option String
  deriving DecidableEq, Inhabited

/-- What an event shows to a filter: its target and the names of its fields. -/
structure LogEvent where
  target : String
  fields : List String
  deriving DecidableEq, Inhabited

/-- Why a text gives no directive. -/
inductive DirectiveFault where
  /-- It is none. -/
  | unclear
  /-- A part of it would begin or end within a character. -/
  | torn
  deriving DecidableEq, Inhabited

namespace Directive

/-- A directive for all events of a target. -/
def ofTarget (target : Option String) (level : LogLevel) : Directive :=
  { target, level, withinSpans := false, field := none }

/-- Whether a directive counts for an event outside of spans. -/
def fits (directive : Directive) (event : LogEvent) : Bool :=
  !directive.withinSpans &&
    (directive.target.all fun target => target.toList.isPrefixOf event.target.toList) &&
    directive.field.all event.fields.contains

/-- Whether a directive is at least as specific as another one: it has a longer target, or as long
a target and a field that comes later in the order of texts. -/
def isAtLeast (directive other : Directive) : Bool :=
  let size (directive : Directive) : Nat := (directive.target.map (·.utf8ByteSize + 1)).getD 0
  if size directive = size other then
    match directive.field, other.field with
    | _, none => true
    | none, some _ => false
    | some field, some former => !decide (field < former)
  else size other < size directive

/-! ## Reading -/

/-- The part of a directive between two places. -/
def part (text : List Char) (start stop : Nat) : Except DirectiveFault (List Char) :=
  match slice? start stop text with
  | some part => .ok part
  | none => .error .torn

/-- Whether a target may begin with a character. -/
def startsTarget (character : Char) : Bool :=
  isAlphanumeric character || character == '-' || character == ':' || character == '_'

/-- The level that a text means. -/
def levelOf (characters : List Char) : Except DirectiveFault LogLevel :=
  match LogLevel.ofText? (String.ofList characters) with
  | some level => .ok level
  | none => .error .unclear

/-- Whether a text means a number that has a sign which is no part of a regular expression. -/
def isSignedNumber : List Char → Bool
  | '+' :: rest =>
    ["inf", "infinity", "nan"].contains (String.ofList (rest.map Char.toLower)) ||
      (Numeral.ofUnsigned? false rest).isSome
  | _ => false

/-- The field that a text names, if it stands without a value. A field with a value only counts
within spans, and its value has to be a number or a regular expression. -/
def fieldOf (characters : List Char) : Except DirectiveFault (Option String) :=
  match characters.span (· != '=') with
  | ([], []) => .error .unclear
  | (name, []) => .ok (some (String.ofList name))
  | (_, _ :: rest) =>
    let value := rest.takeWhile (· != '=')
    if isSignedNumber value || LogFilter.isPattern value then .ok none else .error .unclear

/-- Read the level behind an equals sign, which ends at a place. Without any, everything is logged.
What follows brackets is a level or nothing. -/
def levelFrom (text : List Char) (place : Nat) : List Char → Except DirectiveFault LogLevel
  | [] => .ok .trace
  | '=' :: _ => do
    let level ← part text (place + 1) (byteCount text)
    if level.isEmpty then .ok .trace else levelOf level
  | _ => .error .unclear

/-- Read a directive from its opening bracket on, which ends at a place. -/
def fromBracket (text : List Char) (target : Option String) (place : Nat) (rest : List Char) :
    Except DirectiveFault Directive := do
  let (name, rest) := rest.span fun character => character != ']' && character != '\x7b'
  let stop := place + byteCount name
  match rest with
  | ']' :: rest =>
    let _ ← part text place stop
    .ok { target, level := ← levelFrom text (stop + 1) rest, withinSpans := true, field := none }
  | '\x7b' :: rest =>
    let span ← part text place stop
    let place := stop + 1
    let (field, rest) := rest.span (· != '\x7d')
    let stop := place + byteCount field
    match rest with
    | _ :: rest =>
      let field ← fieldOf (← part text place stop)
      match rest with
      | ']' :: rest =>
        let level ← levelFrom text (stop + 2) rest
        .ok { target, level, withinSpans := !span.isEmpty || field.isNone, field }
      | _ => .error .unclear
    | [] => .error .unclear
  | _ => .error .unclear

/-- Read a directive. A lone word that is no level is a target, with the blanks around it. -/
def ofText (text : String) : Except DirectiveFault Directive :=
  let characters := text.toList
  let (head, rest) := (trim characters).span fun character => character != '=' && character != '['
  let stop := byteCount head
  match head, rest with
  | [], '[' :: rest => fromBracket characters none 1 rest
  | [], _ => .error .unclear
  | first :: _, rest =>
    if !startsTarget first then .error .unclear
    else
      match rest with
      | [] =>
        match LogLevel.ofText? text with
        | some level => .ok (ofTarget none level)
        | none => .ok (ofTarget (some text) .trace)
      | '[' :: rest => do
        let target ← part characters 0 stop
        fromBracket characters (some (String.ofList target)) (stop + 1) rest
      | rest => do
        let target ← part characters 0 stop
        .ok (ofTarget (some (String.ofList target)) (← levelFrom characters stop rest))

end Directive

end Deliberation
