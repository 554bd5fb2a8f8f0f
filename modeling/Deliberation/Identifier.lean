import Deliberation.Text.Digit
import Deliberation.Text.Record

/-!
# Identifiers

An `Identifier` is a 128-bit number. Its written form is the lower-case hyphenated one;
`Identifier.ofText?` also accepts the plain, braced and prefixed spellings. Identifiers are ordered
as numbers, which is the order of their written forms too.

Agents carry identifiers that the outside chooses. Goals and interceptors are told apart by serial
numbers, which never repeat within one run.
-/

namespace Deliberation

open Deliberation.Text

/-- A 128-bit number that names something. -/
structure Identifier where
  value : BitVec 128
  deriving DecidableEq, Inhabited, Hashable

namespace Identifier

/-- The identifier with a given number, taken modulo 2^128. -/
def ofNat (number : Nat) : Identifier := ⟨BitVec.ofNat 128 number⟩

instance : Ord Identifier where
  compare first second := compare first.value.toNat second.value.toNat

instance : LT Identifier where
  lt first second := first.value < second.value

instance : LE Identifier where
  le first second := first.value ≤ second.value

instance (first second : Identifier) : Decidable (first < second) :=
  inferInstanceAs (Decidable (first.value < second.value))

instance (first second : Identifier) : Decidable (first ≤ second) :=
  inferInstanceAs (Decidable (first.value ≤ second.value))

/-- The hyphenated form in characters: groups of 8, 4, 4, 4 and 12 digits. -/
def characters (identifier : Identifier) : List Char :=
  let digits := hexDigits 32 identifier.value.toNat
  digits.take 8 ++ '-' :: (digits.drop 8).take 4 ++ '-' :: (digits.drop 12).take 4 ++
    '-' :: (digits.drop 16).take 4 ++ '-' :: digits.drop 20

/-- The hyphenated form. -/
def toText (identifier : Identifier) : String := String.ofList identifier.characters

instance : ToString Identifier := ⟨toText⟩

/-- Read 32 digits without hyphens. -/
def ofDigits? (digits : List Char) : Option Identifier :=
  if digits.length = 32 then (number? 16 digits).map ofNat else none

/-- Read 36 characters with hyphens after the 8th, 12th, 16th and 20th digit. -/
def ofHyphenated? (text : List Char) : Option Identifier :=
  let group (start length : Nat) := (text.drop start).take length
  if text.length = 36 ∧ group 8 1 = ['-'] ∧ group 13 1 = ['-'] ∧ group 18 1 = ['-'] ∧
      group 23 1 = ['-'] then
    ofDigits? (group 0 8 ++ group 9 4 ++ group 14 4 ++ group 19 4 ++ group 24 12)
  else none

/-- Whether characters announce the prefixed spelling, in either case. -/
def isUniformPrefix (text : List Char) : Bool :=
  text.map Char.toLower == ['u', 'r', 'n', ':', 'u', 'u', 'i', 'd', ':']

/-- Read any accepted spelling: 32 digits, the hyphenated form, that form in braces, or that form
after `urn:uuid:` in either case. -/
def ofCharacters? (text : List Char) : Option Identifier :=
  if text.length = 32 then ofDigits? text
  else if text.length = 36 then ofHyphenated? text
  else if text.length = 38 ∧ text.head? = some '\x7b' ∧ text.getLast? = some '\x7d' then
    ofHyphenated? (text.drop 1).dropLast
  else if text.length = 45 ∧ isUniformPrefix (text.take 9) then ofHyphenated? (text.drop 9)
  else none

/-- Read any accepted spelling of an identifier. -/
def ofText? (text : String) : Option Identifier := ofCharacters? text.toList

end Identifier

/-- The identity of an agent. -/
structure AgentId where
  identifier : Identifier
  deriving DecidableEq, Inhabited, Hashable

namespace AgentId

/-- The agent identity with a given number. -/
def ofNat (number : Nat) : AgentId := ⟨Identifier.ofNat number⟩

/-- The number behind the identity. -/
def toNat (agent : AgentId) : Nat := agent.identifier.value.toNat

/-- The hyphenated form. -/
def toText (agent : AgentId) : String := agent.identifier.toText

/-- The rendering names what is identified. -/
def render (agent : AgentId) : String := wrapped "AgentId" agent.toText

instance : ToString AgentId := ⟨toText⟩

instance : Ord AgentId where
  compare first second := compare first.identifier second.identifier

end AgentId

/-- The identity of a goal: equal handles carry equal serial numbers. -/
structure GoalId where
  serial : Nat
  deriving DecidableEq, Inhabited

/-- The identity of an interceptor, used to remove it later. -/
structure InterceptorId where
  serial : Nat
  deriving DecidableEq, Inhabited

end Deliberation
