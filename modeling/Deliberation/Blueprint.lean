import Deliberation.Interceptors

/-!
# Designing agents

A `Design` collects what an agent is made of; a `Blueprint` is a design whose interceptors are
sorted into their categories. Designs compose: `including` puts the parts of a second design behind
those of a first, lets the contexts of the second win, and keeps the step lists of the first.
-/

namespace Deliberation

variable {V : Vocabulary}

/-- One step of the act stage. -/
inductive ActStep where
  /-- Execute every active plan once. -/
  | executePlans
  deriving DecidableEq, Inhabited, Repr

namespace ActStep

/-- The name of a step. -/
def name : ActStep → String
  | executePlans => "ExecutePlans"

/-- The standard act stage. -/
def standard : List ActStep := [executePlans]

end ActStep

/-- A step of the sense stage handles one category. -/
abbrev SenseStep := Category

namespace SenseStep

/-- The name of a step. -/
def name : SenseStep → String
  | .goal => "ApplyGoalPlanSchemes"
  | .external => "ApplyExternalTriggerPlanSchemes"
  | .internal => "ApplyInternalTriggerPlanSchemes"
  | .message => "ApplyMessagePlanSchemes"

/-- The standard sense stage handles every category once. -/
def standard : List SenseStep := Category.all

end SenseStep

/-- What an agent is going to be made of. -/
structure Design (V : Vocabulary) where
  schemes : PerCategory (List (Scheme V))
  contexts : Contexts V.Object
  interceptors : List (Category × Interceptor V)
  initialPlans : List (Plan V)
  shutdownPlans : List (Plan V)
  senseSteps : List SenseStep
  actSteps : List ActStep

/-- The finished parts of an agent. -/
structure Blueprint (V : Vocabulary) where
  schemes : PerCategory (List (Scheme V))
  contexts : Contexts V.Object
  interceptors : Interceptors V
  initialPlans : List (Plan V)
  shutdownPlans : List (Plan V)
  senseSteps : List SenseStep
  actSteps : List ActStep

/-- The rendering of four counts. -/
def renderCounts (name : String) (counts : PerCategory Nat) : String :=
  Text.record name
    (Category.all.map fun category => (category.name, toString (counts.get category)))

/-- The rendering of an agent's schemes counts them. -/
def renderSchemes (schemes : PerCategory (List (Scheme V))) : String :=
  renderCounts "PlanSchemeBase" (schemes.map List.length)

/-- The rendering of an agent's interceptors counts them. -/
def renderInterceptors (interceptors : Interceptors V) : String :=
  renderCounts "InterceptorBase" (interceptors.map List.length)

namespace Design

/-- A design without parts that follows the standard cycle. -/
def empty : Design V :=
  { schemes := PerCategory.fill [], contexts := Contexts.empty, interceptors := [],
    initialPlans := [], shutdownPlans := [], senseSteps := SenseStep.standard,
    actSteps := ActStep.standard }

/-- Add a scheme behind those of its category. -/
def withScheme (design : Design V) (category : Category) (scheme : Scheme V) : Design V :=
  { design with schemes := design.schemes.modify category (· ++ [scheme]) }

/-- Register an object under capabilities. -/
def withContext (design : Design V) (capabilities : List Capability) (object : V.Object) :
    Design V :=
  { design with contexts := design.contexts.register capabilities object }

/-- Add an interceptor the agent starts out with. -/
def withInterceptor (design : Design V) (category : Category) (interceptor : Interceptor V) :
    Design V :=
  { design with interceptors := design.interceptors ++ [(category, interceptor)] }

/-- Add a plan that is active from the first cycle on. -/
def withInitialPlan (design : Design V) (plan : Plan V) : Design V :=
  { design with initialPlans := design.initialPlans ++ [plan] }

/-- Add a plan that runs when the agent stops. -/
def withShutdownPlan (design : Design V) (plan : Plan V) : Design V :=
  { design with shutdownPlans := design.shutdownPlans ++ [plan] }

/-- Replace the sense stage. -/
def withSenseSteps (design : Design V) (steps : List SenseStep) : Design V :=
  { design with senseSteps := steps }

/-- Replace the act stage. -/
def withActSteps (design : Design V) (steps : List ActStep) : Design V :=
  { design with actSteps := steps }

/-- Put the parts of a second design behind those of a first. The contexts of the second win; its
step lists are ignored. -/
def including (first second : Design V) : Design V :=
  { schemes := first.schemes.append second.schemes
    contexts := first.contexts.merge second.contexts
    interceptors := first.interceptors ++ second.interceptors
    initialPlans := first.initialPlans ++ second.initialPlans
    shutdownPlans := first.shutdownPlans ++ second.shutdownPlans
    senseSteps := first.senseSteps
    actSteps := first.actSteps }

/-- Sort the interceptors into their categories. -/
def build (design : Design V) : Blueprint V :=
  { schemes := design.schemes
    contexts := design.contexts
    interceptors := design.interceptors.foldl
      (fun sorted (category, interceptor) => sorted.add category interceptor) Interceptors.none
    initialPlans := design.initialPlans
    shutdownPlans := design.shutdownPlans
    senseSteps := design.senseSteps
    actSteps := design.actSteps }

/-- The rendering of a design counts its parts. -/
def render (design : Design V) : String :=
  Text.record "AgentArguments"
    (Category.all.map (fun category =>
      (category.name ++ "_schemes", toString (design.schemes.get category).length)) ++
     [("contexts", design.contexts.render),
      ("interceptors", toString design.interceptors.length),
      ("initial_plans", toString design.initialPlans.length),
      ("shutdown_plans", toString design.shutdownPlans.length)])

end Design

/-- The rendering of a blueprint counts its parts. -/
def Blueprint.render (blueprint : Blueprint V) : String :=
  Text.openRecord "AgentBlueprint"
    [("scheme_base", renderSchemes blueprint.schemes),
     ("interceptors", renderInterceptors blueprint.interceptors),
     ("initial_plans", toString blueprint.initialPlans.length),
     ("shutdown_plans", toString blueprint.shutdownPlans.length)]

end Deliberation
