import Deliberation.Playbook.Command

/-!
# Outlines of agents

An `Outline` writes a design as data. Interceptors take their identities while the design is built:
first the plain ones of a list, then the enhanced ones, each of which looks up the names it removes
before it takes its own. The order of the list stays the order of registration.
-/

namespace Deliberation.Playbook

/-- A scheme as data. -/
inductive SchemeOutline where
  | rule (name : String) (selects : Predicate) (recipe : Recipe)
  | enhanced (name : String) (selects : Predicate) (lists : List (List Command))
      (removals : List (Category × String))

/-- The parts of an outline without those it includes. -/
structure Parts where
  contexts : List (List Capability × Object)
  schemes : PerCategory (List SchemeOutline)
  interceptors : List InterceptorOutline
  initialPlans : List Recipe
  shutdownPlans : List Recipe
  /-- The sense steps, unless they are the standard ones. -/
  senseSteps : Option (List SenseStep)
  /-- How often the act stage executes the plans, unless it does so once. -/
  executions : Option Nat
  deriving Inhabited

/-- A design as data. -/
inductive Outline where
  | mk (parts : Parts) (included : List Outline)
  deriving Inhabited

/-- The identities that names stand for; unknown names are left out. -/
def resolved (names : NameBook) (removals : List (Category × String)) :
    List (Category × InterceptorId) :=
  removals.filterMap fun (category, name) => (names.find? name).map (category, ·)

namespace SchemeOutline

/-- The scheme of an outline. -/
def scheme (names : NameBook) : SchemeOutline → Scheme vocabulary
  | rule name selects recipe => ruleScheme name selects fun trigger => recipe.plan (some trigger)
  | enhanced name selects lists removals =>
    enhancedScheme name selects (resolved names removals) fun trigger =>
      planOf (scriptsOf (some trigger) lists)

end SchemeOutline

namespace InterceptorOutline

/-- Create a plain interceptor under its category; an enhanced one has to wait. -/
def createPlain (outline : InterceptorOutline) (names : NameBook) :
    Option (Category × Interceptor vocabulary) × NameBook :=
  match outline with
  | plain name category consumes selects recipe =>
    let (id, names) := names.create name
    (some (category, .mk id consumes
      (ruleScheme name selects fun trigger => recipe.plan (some trigger))), names)
  | enhanced .. => (none, names)

/-- Create an enhanced interceptor under its category; a plain one exists already. -/
def createEnhanced (outline : InterceptorOutline) (names : NameBook) :
    Option (Category × Interceptor vocabulary) × NameBook :=
  match outline with
  | plain .. => (none, names)
  | enhanced name category consumes selects lists removals =>
    let scheme := (SchemeOutline.enhanced name selects lists removals).scheme names
    let (id, names) := names.create name
    (some (category, .mk id consumes scheme), names)

/-- Create interceptors one after the other. -/
def createEach
    (create : InterceptorOutline → NameBook → Option (Category × Interceptor vocabulary) × NameBook) :
    List InterceptorOutline → NameBook → List (Option (Category × Interceptor vocabulary)) × NameBook
  | [], names => ([], names)
  | outline :: rest, names =>
    let (created, names) := create outline names
    let (others, names) := createEach create rest names
    (created :: others, names)

/-- Create the interceptors of a list, in its order. -/
def createAll (outlines : List InterceptorOutline) (names : NameBook) :
    List (Category × Interceptor vocabulary) × NameBook :=
  let (first, names) := createEach createPlain outlines names
  let (second, names) := createEach createEnhanced outlines names
  ((List.zipWith Option.or first second).filterMap id, names)

end InterceptorOutline

/-- The design of the parts. -/
def Parts.design (parts : Parts) (names : NameBook) : Design vocabulary × NameBook :=
  let (interceptors, names) := InterceptorOutline.createAll parts.interceptors names
  ({ schemes := parts.schemes.map (·.map (·.scheme names))
     contexts := parts.contexts.foldl
      (fun contexts (capabilities, object) => contexts.register capabilities object) Contexts.empty
     interceptors
     initialPlans := parts.initialPlans.map (·.plan none)
     shutdownPlans := parts.shutdownPlans.map (·.plan none)
     senseSteps := parts.senseSteps.getD SenseStep.standard
     actSteps := (parts.executions.map fun count =>
      List.replicate count ActStep.executePlans).getD ActStep.standard }, names)

mutual

/-- The design of an outline. Names that become known on the way stay known. -/
def Outline.design (names : NameBook) : Outline → Design vocabulary × NameBook
  | .mk parts included =>
    let (design, names) := parts.design names
    Outline.including design names included

/-- A design with further outlines included, in order. -/
def Outline.including (design : Design vocabulary) (names : NameBook) :
    List Outline → Design vocabulary × NameBook
  | [] => (design, names)
  | outline :: rest =>
    let (added, names) := outline.design names
    Outline.including (Design.including design added) names rest

end

end Deliberation.Playbook
