import Deliberation.Json.Tree

/-!
# Decoding JSON trees

Decoders for the kinds of values that are read from JSON. A record may be written as an object or as
an array of its fields in order. In an object, members of unknown names are passed over and a known
name must not come twice.
-/

namespace Deliberation.Json

open Deliberation.Text

/-- A decoder for one kind of value. -/
abbrev Decoder (α : Type) := Tree → Except Fault α

/-- Fail if there is a fault. -/
def noFault : Option Fault → Except Fault Unit
  | none => .ok ()
  | some fault => .error fault

/-- The text of a string. -/
def text : Decoder String
  | .string { text := .ok text, .. } => .ok text
  | tree => .error tree.clash

/-- A string that a reader understands. -/
def textAs {α : Type} (read : String → Option α) : Decoder α := fun tree => do
  match read (← text tree) with
  | some value => .ok value
  | none => .error .mismatched

/-- A natural number up to a limit. -/
def natural (limit : Nat) : Decoder Nat
  | .number (.ok (some number)) _ => if number ≤ limit then .ok number else .error .mismatched
  | tree => .error tree.clash

/-- A value or null. -/
def optional {α : Type} (decode : Decoder α) : Decoder (Option α)
  | .null => .ok none
  | tree => (decode tree).map some

/-- An array of values of one kind. -/
def list {α : Type} (decode : Decoder α) : Decoder (List α)
  | .array items ending => do
    let values ← items.mapM decode
    noFault ending
    .ok values
  | tree => .error tree.clash

/-- An object of any names and values of one kind, in the order of the text. -/
def entries {α : Type} (decode : Decoder α) : Decoder (List (String × α))
  | .object members ending => do
    let values ← members.mapM fun (name, member) => do .ok (← name.text, ← decode member)
    noFault ending
    .ok values
  | tree => .error tree.clash

/-- A choice without content: its name, or an object that gives it the value null. -/
def choice {α : Type} (read : String → Option α) : Decoder α
  | .string node => do
    match read (← node.text) with
    | some value => .ok value
    | none => .error .mismatched
  | .object ((name, member) :: others) ending => do
    match read (← name.text) with
    | none => .error .mismatched
    | some value =>
      match member with
      | .null =>
        if others.isEmpty then do
          noFault ending
          .ok value
        else .error .malformed
      | member => .error member.clash
  | .object [] ending => .error (ending.getD .malformed)
  | .broken fault => .error fault
  | _ => .error .malformed

/-! ## Records -/

/-- A field that is read at most once. -/
def once {α : Type} (held : Option α) (decode : Decoder α) : Decoder (Option α) := fun tree =>
  if held.isSome then .error .mismatched else (decode tree).map some

/-- Pass over a value. -/
def ignore {σ : Type} (state : σ) (tree : Tree) : Except Fault σ :=
  match tree.skip with
  | none => .ok state
  | some fault => .error fault

/-- Read the members of an object one after the other. -/
def foldMembers {σ : Type} (read : σ → String → Tree → Except Fault σ) :
    σ → List (StringNode × Tree) → Except Fault σ
  | state, [] => .ok state
  | state, (name, member) :: rest => do
    foldMembers read (← read state (← name.text) member) rest

/-- Read the items of an array as the fields with the given names. -/
def foldItems {σ : Type} (read : σ → String → Tree → Except Fault σ) :
    σ → List String → List Tree → Except Fault σ
  | state, _, [] => .ok state
  | _, [], _ :: _ => .error .malformed
  | state, name :: names, item :: rest => do foldItems read (← read state name item) names rest

/-- Read a record. `read` takes a field by its name; `shortened` tells whether an array may leave
fields out at its end. -/
def record {σ : Type} (names : List String) (shortened : Bool)
    (read : σ → String → Tree → Except Fault σ) (start : σ) : Decoder σ
  | .object members ending => do
    let state ← foldMembers read start members
    noFault ending
    .ok state
  | .array items ending => do
    let state ← foldItems read start names items
    noFault ending
    if items.length < names.length && !shortened then .error .mismatched else .ok state
  | tree => .error tree.clash

/-- Read a text that holds one value. -/
def decodeText {α : Type} (decode : Decoder α) (glyphs : List Glyph) : Except Fault α := do
  let document := Document.ofGlyphs glyphs
  let value ← decode document.root
  if document.trailing then .error .malformed else .ok value

/-- A field that must be there. -/
def required {α : Type} (held : Option α) : Except Fault α :=
  match held with
  | some value => .ok value
  | none => .error .mismatched

end Deliberation.Json
