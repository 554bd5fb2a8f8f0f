import Deliberation.Json.Decode
import Deliberation.Market.Trading
import Deliberation.Word
import Deliberation.Yaml.Value

/-!
# Populations of traders

A `Population` says how many traders there are, how many sales each aims at, how high prices go, and
which seed their books come from.
-/

namespace Deliberation.Market

/-- The settings of a population. -/
structure Population where
  traders : Nat
  salesTarget : Nat
  maxPrice : Nat
  seed : Nat
  deriving DecidableEq, Inhabited

namespace Population

/-- The settings where nothing else is said. -/
def standard : Population := { traders := 6, salesTarget := 3, maxPrice := 100, seed := 0 }

/-- The names of the fields in their order. -/
def fieldNames : List String := ["traders", "sales_target", "max_price", "seed"]

/-! ## JSON -/

/-- The fields that have been read. -/
structure Fields where
  traders : Option Nat
  salesTarget : Option Nat
  maxPrice : Option Nat
  seed : Option Nat

/-- No field has been read. -/
def Fields.none : Fields :=
  { traders := .none, salesTarget := .none, maxPrice := .none, seed := .none }

/-- The settings of fields; those that are left out have their standard value. -/
def Fields.population (fields : Fields) : Population :=
  { traders := fields.traders.getD standard.traders
    salesTarget := fields.salesTarget.getD standard.salesTarget
    maxPrice := fields.maxPrice.getD standard.maxPrice
    seed := fields.seed.getD standard.seed }

/-- Read one field. -/
def readField (fields : Fields) (name : String) (tree : Json.Tree) : Except Json.Fault Fields :=
  match name with
  | "traders" => do
    .ok { fields with traders := ← Json.once fields.traders (Json.natural largestWord) tree }
  | "sales_target" => do
    .ok { fields with salesTarget := ← Json.once fields.salesTarget (Json.natural largestWord) tree }
  | "max_price" => do
    .ok { fields with maxPrice := ← Json.once fields.maxPrice (Json.natural largestWord) tree }
  | "seed" => do .ok { fields with seed := ← Json.once fields.seed (Json.natural largestLongWord) tree }
  | _ => Json.ignore fields tree

/-- Read settings from JSON. -/
def decode : Json.Decoder Population := fun tree => do
  .ok (← Json.record fieldNames true readField Fields.none tree).population

/-! ## YAML -/

/-- How the field of a name is read, given how numbers are read. -/
def fieldReader? {α : Type} (natural? : Nat → α → Option Nat) :
    String → Option (Yaml.FieldReader α Population)
  | "traders" => some fun value population => do
    some { population with traders := ← natural? largestWord value }
  | "sales_target" => some fun value population => do
    some { population with salesTarget := ← natural? largestWord value }
  | "max_price" => some fun value population => do
    some { population with maxPrice := ← natural? largestWord value }
  | "seed" => some fun value population => do
    some { population with seed := ← natural? largestLongWord value }
  | _ => none

/-- Read settings from a YAML document of their own. -/
def ofYaml? (text : String) : Option Population := do
  let document ← Yaml.Document.ofText? text
  Yaml.readFields (fieldReader? Yaml.Node.natural?) [] (← document.rootFields?) standard

/-- Why the settings of a population could not be read from a section. -/
inductive SectionError where
  | unreadable
  | malformedDocument
  | malformedSection
  deriving DecidableEq, Inhabited

/-- The wording of a section error. -/
def SectionError.message : SectionError → String
  | unreadable => "failed to read config file"
  | malformedDocument => "failed to parse config YAML"
  | malformedSection => "failed to parse population config"

/-- Read settings from the section `population` of a document. Without it they are standard. The whole
document must have a meaning. -/
def ofSection (glyphs : List Text.Glyph) : Except SectionError Population :=
  match Text.Glyph.text? glyphs with
  | none => .error .unreadable
  | some text =>
    match (Yaml.Document.ofText? text).bind Yaml.Value.ofDocument? with
    | none => .error .malformedDocument
    | some root =>
      match root.find? "population" with
      | none => .ok standard
      | some part =>
        match part.fields?.bind fun fields =>
            Yaml.readFields (fieldReader? Yaml.Value.natural?) [] fields standard with
        | some population => .ok population
        | none => .error .malformedSection

/-! ## Traders -/

/-- The identity of the trader with an index. -/
def traderId (index : Nat) : AgentId := AgentId.ofNat (index + 1)

/-- The book of the trader with an index. Seeds wrap around at 64 bits. -/
def book (population : Population) (index : Nat) : Book :=
  Book.ofSeed (UInt64.ofNat (population.seed + index)) population.maxPrice

/-- The target of the trader with an index. Every trader has its own. -/
def target (population : Population) (index : Nat) : GoalHandle vocabulary :=
  { id := ⟨index⟩, goal := Aim.sales population.salesTarget }

/-- Spawn one trader and give it its target. -/
def spawnTrader (population : Population) (world : World vocabulary) (index : Nat) :
    World vocabulary :=
  match world.spawn (traderId index) (trader (population.book index)) with
  | (world, .ok number) => world.arrive number (.goal (population.target index))
  | (world, .error _) => world

/-- Spawn the traders in the order of their indices. -/
def spawn (population : Population) (world : World vocabulary) : World vocabulary :=
  (List.range population.traders).foldl population.spawnTrader world

end Population

/-- Run a population in a world until every target is met and nothing is left to do, or for a number
of iterations. `limit` bounds the number of ticks. -/
def run (population : Population) (world : World vocabulary) (iterations limit : Nat) :
    Option (Run vocabulary × Except TickError Summary) :=
  (Simulation.register (Simulation.new iterations) (idleHook 0)).run limit (population.spawn world)

end Deliberation.Market
