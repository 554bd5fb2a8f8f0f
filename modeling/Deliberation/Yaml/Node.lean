import Deliberation.Yaml.Token

/-!
# YAML documents

`Document.ofText?` reads a text that holds at most one document into a tree of nodes. An alias refers
to an anchored node by a number: the number of different anchor names seen before the anchor. Of
several nodes with the same number the one that starts last counts.
-/

namespace Deliberation.Yaml

/-- A node of a document. -/
inductive Node where
  | scalar (style : Style) (tag : Option String) (text : String)
  | sequence (tag : Option String) (items : List Node)
  | mapping (tag : Option String) (entries : List (Node × Node))
  | alias (number : Nat)
  deriving Inhabited

/-- The node that stands where nothing is written. -/
def Node.empty : Node := .scalar .plain none ""

mutual

/-- The number of places in a document that a node takes: one for a scalar, an alias, and each end of
a collection. -/
def Node.places : Node → Nat
  | .scalar .. => 1
  | .alias _ => 1
  | .sequence _ items => 2 + placesOf items
  | .mapping _ entries => 2 + placesOfEntries entries

/-- The places that nodes take. -/
def placesOf : List Node → Nat
  | [] => 0
  | item :: rest => item.places + placesOf rest

/-- The places that entries take. -/
def placesOfEntries : List (Node × Node) → Nat
  | [] => 0
  | (key, value) :: rest => key.places + value.places + placesOfEntries rest

end

/-- A document: its root, unless nothing at all is written, and the nodes that aliases refer to. -/
structure Document where
  root : Option Node
  anchored : List (Nat × Node)

/-- The node that a node stands for. -/
def Document.target (document : Document) : Node → Node
  | .alias number => (document.anchored.lookup number).getD .empty
  | node => node

/-! ## The state of the reader -/

/-- What the reader of nodes keeps. `orders` gives the last started node per anchor number and
`finished` the anchored nodes, both by the order in which they started. -/
structure Builder where
  tokens : List Token
  prefixes : List (String × String)
  names : List (String × Nat)
  orders : List (Nat × Nat)
  finished : List (Nat × Node)

/-- A step of the reader of nodes. -/
abbrev Build (α : Type) := Builder → Option (α × Builder)

namespace Builder

/-- The next token. -/
def peek (builder : Builder) : Option Token := builder.tokens.head?

/-- Go behind the next token. -/
def skip (builder : Builder) : Builder := { builder with tokens := builder.tokens.drop 1 }

/-- Whether the next token is a given one. -/
def isAt (builder : Builder) (token : Token) : Bool := builder.peek == some token

/-- The tag that a handle and a suffix write. -/
def tag? (builder : Builder) (handle suffix : String) : Option String :=
  if handle.isEmpty then some suffix
  else (builder.prefixes.lookup handle).map (· ++ suffix)

/-- Start an anchored node. -/
def start (builder : Builder) (name : String) : Nat × Builder :=
  let number := builder.names.length
  let order := builder.orders.length
  let names := (name, number) :: builder.names.filter (·.1 != name)
  (order, { builder with names, orders := (number, order) :: builder.orders })

/-- End an anchored node. -/
def finish (builder : Builder) (order : Option Nat) (node : Node) : Builder :=
  match order with
  | some order => { builder with finished := (order, node) :: builder.finished }
  | none => builder

/-- The nodes that aliases refer to. -/
def anchored (builder : Builder) : List (Nat × Node) :=
  builder.orders.filterMap fun (number, order) =>
    (builder.finished.lookup order).map (number, ·)

end Builder

/-- The anchor and the tag in front of a node, in either order. -/
def properties (builder : Builder) : Option ((Option String × Option String) × Builder) :=
  match builder.tokens with
  | .anchor name :: .tag handle suffix :: rest | .tag handle suffix :: .anchor name :: rest => do
    some ((some name, some (← builder.tag? handle suffix)), { builder with tokens := rest })
  | .anchor name :: rest => some ((some name, none), { builder with tokens := rest })
  | .tag handle suffix :: rest => do
    some ((none, some (← builder.tag? handle suffix)), { builder with tokens := rest })
  | _ => some ((none, none), builder)

/-! ## Reading nodes -/

mutual

/-- Read a node. `block` allows block collections, `indentless` also a sequence at the column of the
mapping that holds it. -/
def node : (fuel : Nat) → (block indentless : Bool) → Build Node
  | 0, _, _, _ => none
  | fuel + 1, block, indentless, builder =>
    match builder.peek with
    | some (.alias name) => do some (.alias (← builder.names.lookup name), builder.skip)
    | _ => do
      let ((anchor, tag), builder) ← properties builder
      let (order, builder) :=
        match anchor with
        | some name =>
          let (order, builder) := builder.start name
          (some order, builder)
        | none => (none, builder)
      let (node, builder) ← content fuel block indentless (anchor.isSome || tag.isSome) tag builder
      some (node, builder.finish order node)

/-- Read what follows the properties of a node. Without content, a node with properties is empty. -/
def content : (fuel : Nat) → (block indentless hasProperties : Bool) → (tag : Option String) →
    Build Node
  | 0, _, _, _, _, _ => none
  | fuel + 1, block, indentless, hasProperties, tag, builder =>
    match builder.peek with
    | some (.scalar style text) => some (.scalar style tag text, builder.skip)
    | some .flowSequenceStart => do
      let (items, builder) ← flowItems fuel true builder.skip
      some (.sequence tag items, builder)
    | some .flowMappingStart => do
      let (entries, builder) ← flowEntries fuel true builder.skip
      some (.mapping tag entries, builder)
    | token =>
      if indentless && token == some .blockEntry then do
        let (items, builder) ← indentlessItems fuel builder
        some (.sequence tag items, builder)
      else if block && token == some .blockSequenceStart then do
        let (items, builder) ← blockItems fuel builder.skip
        some (.sequence tag items, builder)
      else if block && token == some .blockMappingStart then do
        let (entries, builder) ← blockEntries fuel builder.skip
        some (.mapping tag entries, builder)
      else if hasProperties then some (.scalar .plain tag "", builder)
      else none

/-- Read a node, unless one of the given tokens comes next, which leave it empty. -/
def nodeUnless : (fuel : Nat) → (block indentless : Bool) → (ends : List Token) → Build Node
  | 0, _, _, _, _ => none
  | fuel + 1, block, indentless, ends, builder =>
    if builder.peek.any ends.contains then some (.empty, builder)
    else node fuel block indentless builder

/-- Read the items of a block sequence to its end. -/
def blockItems : (fuel : Nat) → Build (List Node)
  | 0, _ => none
  | fuel + 1, builder =>
    if builder.isAt .blockEntry then do
      let (item, builder) ← nodeUnless fuel true false [.blockEntry, .blockEnd] builder.skip
      let (items, builder) ← blockItems fuel builder
      some (item :: items, builder)
    else if builder.isAt .blockEnd then some ([], builder.skip)
    else none

/-- Read the items of a sequence without an indentation of its own. -/
def indentlessItems : (fuel : Nat) → Build (List Node)
  | 0, _ => none
  | fuel + 1, builder =>
    if builder.isAt .blockEntry then do
      let (item, builder) ←
        nodeUnless fuel true false [.blockEntry, .key, .value, .blockEnd] builder.skip
      let (items, builder) ← indentlessItems fuel builder
      some (item :: items, builder)
    else some ([], builder)

/-- Read the entries of a block mapping to its end. Every entry shows its key. -/
def blockEntries : (fuel : Nat) → Build (List (Node × Node))
  | 0, _ => none
  | fuel + 1, builder =>
    if builder.isAt .key then do
      let (key, builder) ← nodeUnless fuel true true [.key, .value, .blockEnd] builder.skip
      let (value, builder) ← blockValue fuel builder
      let (entries, builder) ← blockEntries fuel builder
      some ((key, value) :: entries, builder)
    else if builder.isAt .blockEnd then some ([], builder.skip)
    else none

/-- Read the value of an entry of a block mapping. -/
def blockValue : (fuel : Nat) → Build Node
  | 0, _ => none
  | fuel + 1, builder =>
    if builder.isAt .value then
      nodeUnless fuel true true [.key, .value, .blockEnd] builder.skip
    else some (.empty, builder)

/-- Read the items of a flow sequence to its end. -/
def flowItems : (fuel : Nat) → (first : Bool) → Build (List Node)
  | 0, _, _ => none
  | fuel + 1, first, builder =>
    if builder.isAt .flowSequenceEnd then some ([], builder.skip)
    else do
      let builder ←
        if first then some builder
        else if builder.isAt .flowEntry then some builder.skip
        else none
      if builder.isAt .flowSequenceEnd then some ([], builder.skip)
      else
        let (item, builder) ←
          if builder.isAt .key then flowPair fuel builder.skip
          else node fuel false false builder
        let (items, builder) ← flowItems fuel false builder
        some (item :: items, builder)

/-- Read an item of a flow sequence that is a mapping with one entry. Where its key is left out, the
token that shows this is passed over. -/
def flowPair : (fuel : Nat) → Build Node
  | 0, _ => none
  | fuel + 1, builder => do
    let ends := [Token.value, .flowEntry, .flowSequenceEnd]
    let (key, builder) ←
      if builder.peek.any ends.contains then some (Node.empty, builder.skip)
      else node fuel false false builder
    let (value, builder) ← flowValue fuel .flowSequenceEnd builder
    some (.mapping none [(key, value)], builder)

/-- Read the value of an entry within a flow collection. -/
def flowValue : (fuel : Nat) → (close : Token) → Build Node
  | 0, _, _ => none
  | fuel + 1, close, builder =>
    if builder.isAt .value then
      nodeUnless fuel false false [.flowEntry, close] builder.skip
    else some (.empty, builder)

/-- Read the entries of a flow mapping to its end. -/
def flowEntries : (fuel : Nat) → (first : Bool) → Build (List (Node × Node))
  | 0, _, _ => none
  | fuel + 1, first, builder =>
    if builder.isAt .flowMappingEnd then some ([], builder.skip)
    else do
      let builder ←
        if first then some builder
        else if builder.isAt .flowEntry then some builder.skip
        else none
      if builder.isAt .flowMappingEnd then some ([], builder.skip)
      else
        let ((key, value), builder) ←
          if builder.isAt .key then do
            let (key, builder) ←
              nodeUnless fuel false false [.value, .flowEntry, .flowMappingEnd] builder.skip
            let (value, builder) ← flowValue fuel .flowMappingEnd builder
            some ((key, value), builder)
          else do
            let (key, builder) ← node fuel false false builder
            some ((key, .empty), builder)
        let (entries, builder) ← flowEntries fuel false builder
        some ((key, value) :: entries, builder)

end

/-! ## Reading documents -/

/-- The prefixes that need no directive. -/
def standardPrefixes : List (String × String) := [("!", "!"), ("!!", "tag:yaml.org,2002:")]

/-- Read directives: one version, which is 1.1 or 1.2, and one prefix per handle. -/
def directives : (seenVersion : Bool) → (prefixes : List (String × String)) → List Token →
    Option (List (String × String) × List Token)
  | seenVersion, prefixes, .version major minor :: rest =>
    if !seenVersion && major == 1 && (minor == 1 || minor == 2) then directives true prefixes rest
    else none
  | seenVersion, prefixes, .tagPrefix handle text :: rest =>
    if (prefixes.lookup handle).isSome then none
    else directives seenVersion ((handle, text) :: prefixes) rest
  | _, prefixes, tokens => some (prefixes, tokens)

/-- Whether a token stands between documents. -/
def isBetweenDocuments : Token → Bool
  | .version .. | .tagPrefix .. | .documentStart | .documentEnd => true
  | _ => false

/-- Whether nothing but ends of documents follows. -/
def isOver (tokens : List Token) : Bool := tokens.all (· == .documentEnd)

/-- Read the root of a document. -/
def rootFrom (prefixes : List (String × String)) (tokens : List Token) : Option Document := do
  let start : Builder := { tokens, prefixes, names := [], orders := [], finished := [] }
  let (root, builder) ← node (4 * tokens.length + 4) true false start
  if isOver builder.tokens then some { root := some root, anchored := builder.anchored } else none

/-- Read the only document of a stream of tokens. -/
def Document.ofTokens? (tokens : List Token) : Option Document :=
  match tokens with
  | [] => some { root := none, anchored := [] }
  | first :: _ =>
    if first == .documentEnd then none
    else if isBetweenDocuments first then
      match directives false [] tokens with
      | some (prefixes, .documentStart :: rest) =>
        if rest.head?.all isBetweenDocuments then
          if isOver rest then some { root := some .empty, anchored := [] } else none
        else rootFrom (prefixes ++ standardPrefixes) rest
      | _ => none
    else rootFrom standardPrefixes tokens

/-- Read the only document of a text. -/
def Document.ofText? (text : String) : Option Document := do
  Document.ofTokens? (← Token.ofText? text.toList)

end Deliberation.Yaml
