import Deliberation.Magnitude
import Deliberation.Word
import Deliberation.Yaml.Node

/-!
# What YAML nodes mean

A plain scalar means null, a truth value, a number or a text, by its spelling. `Node.natural?`,
`Node.flag?` and `Node.text?` read a scalar as what is wanted; `Value.ofDocument?` gives every node
its meaning and refuses a mapping with a key twice, a tag that does not fit its scalar, an integer
beyond 64 bits, and nesting that is too deep.
-/

namespace Deliberation.Yaml

/-! ## Spellings -/

/-- Whether a text means null. -/
def isNull (text : String) : Bool := ["~", "null", "Null", "NULL"].contains text

/-- The truth value that a text means. -/
def flagOf? (text : String) : Option Bool :=
  if ["true", "True", "TRUE"].contains text then some true
  else if ["false", "False", "FALSE"].contains text then some false
  else none

/-- Whether a text consists of digits but is no number because of a leading zero. -/
def isPaddedNumber (text : List Char) : Bool :=
  match text.dropWhile (fun sign => sign == '-' || sign == '+') with
  | '0' :: rest =>
    (text.takeWhile fun sign => sign == '-' || sign == '+').length ≤ 1 && !rest.isEmpty &&
      rest.all Char.isDigit
  | _ => false

/-- The number that digits of a base write, if there are digits. -/
def numberIn? (base : Nat) (digits : List Char) : Option Nat :=
  if digits.isEmpty then none else Text.number? base digits

/-- The number that a text without a sign means: digits behind the mark of a base, or decimal
digits. -/
def unsigned? : List Char → Option Nat
  | '0' :: 'x' :: rest => numberIn? 16 rest
  | '0' :: 'o' :: rest => numberIn? 8 rest
  | '0' :: 'b' :: rest => numberIn? 2 rest
  | text => if isPaddedNumber text then none else numberIn? 10 text

/-- The natural number that a text means, with an optional plus sign. -/
def naturalOf? (text : List Char) : Option Nat :=
  match text with
  | '+' :: rest => unsigned? rest
  | text => unsigned? text

/-- The integer that a text means. -/
def integerOf? (text : List Char) : Option Int :=
  match text with
  | '-' :: rest => (unsigned? rest).map fun number => -(number : Int)
  | text => (naturalOf? text).map Int.ofNat

/-- A number with a fraction, in double precision. Zero has no sign. -/
inductive Decimal where
  | infinite (negative : Bool)
  | undefined
  | finite (negative : Bool) (magnitude : Magnitude)
  deriving DecidableEq, Inhabited

/-- The finite number that an unsigned text means. -/
def finiteOf? (negative : Bool) (text : List Char) : Option Decimal := do
  let magnitude ← Magnitude.ofNumeral? (← Text.Numeral.ofUnsigned? negative text)
  some (.finite (negative && magnitude.units != 0) magnitude)

/-- The number with a fraction that a text means. -/
def decimalOf? (text : String) : Option Decimal :=
  let infinities := [".inf", ".Inf", ".INF"]
  if [".nan", ".NaN", ".NAN"].contains text then some .undefined
  else
    match text.toList with
    | '+' :: rest =>
      if infinities.contains (String.ofList rest) then some (.infinite false)
      else finiteOf? false rest
    | '-' :: rest =>
      if infinities.contains (String.ofList rest) then some (.infinite true)
      else finiteOf? true rest
    | rest => if infinities.contains text then some (.infinite false) else finiteOf? false rest

/-! ## Reading scalars as what is wanted -/

/-- The tag of a standard type. -/
def standardTag (name : String) : String := "tag:yaml.org,2002:" ++ name

namespace Node

/-- The text of a scalar. -/
def text? : Node → Option String
  | scalar _ _ text => some text
  | _ => none

/-- The text of a scalar whose spelling counts: a plain one, or a literal block with the tag of the
wanted type. -/
def spelling? (type : String) : Node → Option String
  | scalar .plain _ text => some text
  | scalar .literal (some tag) text => if tag = standardTag type then some text else none
  | _ => none

/-- The natural number that a scalar means, up to a limit. -/
def natural? (limit : Nat) (node : Node) : Option Nat := do
  let number ← naturalOf? (← node.spelling? "int").toList
  if number ≤ limit then some number else none

/-- The truth value that a scalar means. -/
def flag? (node : Node) : Option Bool := do flagOf? (← node.spelling? "bool")

/-- Whether a scalar stands for a value that is left out. A null tag on another spelling is
refused. -/
def isAbsent? : Node → Option Bool
  | scalar .plain none text => some (text.isEmpty || isNull text)
  | scalar .plain (some tag) text =>
    if tag = standardTag "null" then (if isNull text then some true else none) else some false
  | _ => some false

/-- Read a value that may be left out. -/
def optional? {α : Type} (read? : Node → Option α) (node : Node) : Option (Option α) := do
  if ← node.isAbsent? then some none else some (some (← read? node))

/-- The entries of a mapping; nothing written counts as a mapping without entries. -/
def entries? : Node → Option (List (Node × Node))
  | mapping _ entries => some entries
  | scalar .plain _ "" => some []
  | _ => none

end Node

namespace Document

/-- The fields of a node: its entries with their keys as texts. Aliases are followed. -/
def fields? (document : Document) (node : Node) : Option (List (String × Node)) := do
  (← node.entries?).mapM fun (key, value) => do
    some (← (document.target key).text?, document.target value)

/-- The fields of the root. -/
def rootFields? (document : Document) : Option (List (String × Node)) :=
  match document.root with
  | none => some []
  | some root => document.fields? (document.target root)

end Document

/-! ## Records -/

/-- How the value of a field changes a record. -/
abbrev FieldReader (α σ : Type) := α → σ → Option σ

/-- Read fields into a record one after the other. `reader?` tells how the field of a name is read;
other fields are passed over. No field may be read twice. -/
def readFields {α σ : Type} (reader? : String → Option (FieldReader α σ)) :
    (done : List String) → List (String × α) → σ → Option σ
  | _, [], record => some record
  | done, (name, value) :: rest, record =>
    match reader? name with
    | none => readFields reader? done rest record
    | some read => do
      if done.contains name then none
      else readFields reader? (name :: done) rest (← read value record)

/-! ## Meanings of whole documents -/

/-- What a node means. -/
inductive Value where
  | null
  | flag (value : Bool)
  | integer (value : Int)
  | decimal (value : Decimal)
  | text (value : String)
  | sequence (items : List Value)
  | mapping (entries : List (Value × Value))
  | tagged (tag : String) (inner : Value)
  deriving Inhabited

namespace Value

mutual

/-- Whether two values are the same. The order of the entries of a mapping does not count. -/
def isSame : Value → Value → Bool
  | null, null => true
  | flag first, flag second => first == second
  | integer first, integer second => first == second
  | decimal first, decimal second => first == second
  | text first, text second => first == second
  | sequence first, sequence second => areSame first second
  | mapping first, mapping second => first.length == second.length && areEntriesOf second first
  | tagged first firstInner, tagged second secondInner =>
    first == second && isSame firstInner secondInner
  | _, _ => false

/-- Whether values are the same one by one. -/
def areSame : List Value → List Value → Bool
  | [], [] => true
  | first :: firstRest, second :: secondRest => isSame first second && areSame firstRest secondRest
  | _, _ => false

/-- Whether each entry is found among others. -/
def areEntriesOf (others : List (Value × Value)) : List (Value × Value) → Bool
  | [] => true
  | (key, value) :: rest =>
    (others.any fun (otherKey, otherValue) => isSame key otherKey && isSame value otherValue) &&
      areEntriesOf others rest

end

/-- The integer that a text means, if it fits 64 bits. `none` is a text that is no integer; the outer
`none` is an integer that does not fit. -/
def fitting (text : String) : Option (Option Value) :=
  match integerOf? text.toList with
  | none => some none
  | some number =>
    if number < longWordCount ∧ -number ≤ longWordCount / 2 then some (some (.integer number))
    else if number < longWordCount * longWordCount ∧ -number ≤ longWordCount * longWordCount / 2 then
      none
    else some none

/-- What a plain scalar means by its spelling. -/
def ofSpelling? (spelling : String) : Option Value :=
  if spelling.isEmpty || isNull spelling then some null
  else
    match flagOf? spelling with
    | some value => some (flag value)
    | none => do
      match ← fitting spelling with
      | some number => some number
      | none =>
        if isPaddedNumber spelling.toList then some (text spelling)
        else some (((decimalOf? spelling).map decimal).getD (text spelling))

/-- What a scalar without a tag of its own means. -/
def ofUntagged? (style : Style) (content : String) : Option Value :=
  if style = .plain then ofSpelling? content else some (text content)

/-- A tag without its first exclamation mark, unless it is nothing else. -/
def withoutMark : List Char → List Char
  | '!' :: first :: rest => first :: rest
  | characters => characters

/-- The tag that a local tag names. A second exclamation mark does not count either. -/
def localTag? (tag : Option String) : Option String := do
  let characters := (← tag).toList
  if characters.head? = some '!' then
    some (String.ofList (withoutMark (withoutMark characters)))
  else none

/-- What a scalar means. -/
def ofScalar? (style : Style) (tag : Option String) (content : String) : Option Value :=
  match tag, localTag? tag with
  | none, _ => ofUntagged? style content
  | some _, some name => (ofUntagged? style content).map (tagged name)
  | some tag, none =>
    if tag = standardTag "bool" then (flagOf? content).map flag
    else if tag = standardTag "int" then (fitting content).bind id
    else if tag = standardTag "float" then (decimalOf? content).map decimal
    else if tag = standardTag "null" then (if isNull content then some null else none)
    else some (text content)

/-- Put a local tag on a value. -/
def withTag (tag : Option String) (value : Value) : Value :=
  match localTag? tag with
  | some name => tagged name value
  | none => value

/-- A value without the local tags around it. -/
def untagged : Value → Value
  | tagged _ inner => inner.untagged
  | value => value

/-- Give meanings to nodes in their order, counting the aliases that are followed. -/
def each (read : Node → Nat → Option (Value × Nat)) : List Node → Nat → Option (List Value × Nat)
  | [], jumps => some ([], jumps)
  | node :: rest, jumps => do
    let (value, jumps) ← read node jumps
    let (values, jumps) ← each read rest jumps
    some (value :: values, jumps)

/-- Give meanings to entries in their order. No key may come twice. -/
def eachEntry (read : Node → Nat → Option (Value × Nat)) :
    (done : List (Value × Value)) → List (Node × Node) → Nat → Option (List (Value × Value) × Nat)
  | done, [], jumps => some (done.reverse, jumps)
  | done, (key, value) :: rest, jumps => do
    let (key, jumps) ← read key jumps
    if done.any (·.1.isSame key) then none
    else
      let (value, jumps) ← read value jumps
      eachEntry read ((key, value) :: done) rest jumps

/-- What a node means. Collections may be nested up to `depth`, and `limit` bounds the number of
aliases that are followed. -/
def ofNode? (document : Document) (limit : Nat) :
    (depth : Nat) → Node → (jumps : Nat) → Option (Value × Nat)
  | depth, node, jumps =>
    let jumps :=
      match node with
      | .alias _ => jumps + 1
      | _ => jumps
    if limit < jumps then none
    else
      match document.target node, depth with
      | .scalar style tag spelling, _ => (ofScalar? style tag spelling).map (·, jumps)
      | .sequence tag items, depth + 1 => do
        let (values, jumps) ← each (ofNode? document limit depth) items jumps
        some (withTag tag (sequence values), jumps)
      | .mapping tag entries, depth + 1 => do
        let (values, jumps) ← eachEntry (ofNode? document limit depth) [] entries jumps
        some (withTag tag (mapping values), jumps)
      | _, _ => none

/-- The deepest nesting of collections. -/
def deepest : Nat := 128

/-- What a document means. -/
def ofDocument? (document : Document) : Option Value :=
  match document.root with
  | none => some null
  | some root => (ofNode? document (100 * root.places) deepest root 0).map (·.1)

/-- The value under a text in a mapping. -/
def find? (value : Value) (name : String) : Option Value :=
  match value.untagged with
  | mapping entries => (entries.find? (·.1.isSame (text name))).map (·.2)
  | _ => none

/-- The natural number that a value is, up to a limit. -/
def natural? (limit : Nat) (value : Value) : Option Nat :=
  match value.untagged with
  | integer number => if 0 ≤ number ∧ number ≤ limit then some number.toNat else none
  | _ => none

/-- The fields of a mapping whose keys are all texts; null has none. -/
def fields? (value : Value) : Option (List (String × Value)) :=
  match value.untagged with
  | null => some []
  | mapping entries => entries.mapM fun (key, value) =>
    match key.untagged with
    | text name => some (name, value)
    | _ => none
  | _ => none

end Value

end Deliberation.Yaml
