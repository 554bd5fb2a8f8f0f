import Deliberation.Simulation
import Deliberation.Word

/-!
# The vocabulary of playbooks

Playbooks are agents written as data. Their plans produce texts, their goals are conditions over the
contexts, their contexts are constants, stores of integer variables and named objects, and their
notes say what plans and observers saw.
-/

namespace Deliberation.Playbook

/-- When a goal holds. -/
inductive Condition where
  | never
  | always
  /-- Asking breaks the cycle off. -/
  | panics
  /-- A store exists and its variable has at least a value. -/
  | variableAtLeast (store : Capability) (variableName : String) (least : Int)
  | hasContext (capability : Capability)
  deriving DecidableEq, Inhabited

/-- A goal. -/
structure Objective where
  name : String
  condition : Condition
  deriving DecidableEq, Inhabited

/-! ## Contexts -/

/-- Integer variables in ascending order of their names. -/
abbrev Store := List (String × Int)

namespace Store

/-- The value of a variable; one that was never set has the value zero. -/
def read (store : Store) (variableName : String) : Int := (store.lookup variableName).getD 0

/-- Set a variable. -/
def write (variableName : String) (value : Int) : Store → Store
  | [] => [(variableName, value)]
  | (other, held) :: rest =>
    if variableName < other then (variableName, value) :: (other, held) :: rest
    else if variableName = other then (variableName, value) :: rest
    else (other, held) :: write variableName value rest

/-- Add to a variable. Sums wrap around at 64 bits. -/
def increase (variableName : String) (amount : Int) (store : Store) : Store :=
  store.write variableName ((store.read variableName + amount).bmod longWordCount)

end Store

/-- An object that agents carry. -/
inductive Object where
  | constant (value : Payload)
  | bindings (store : Store)
  | named (name : String)
  deriving Inhabited

/-- The name of an object that has one; a store is named after its number of variables. -/
def Object.name : Object → String
  | .constant _ => ""
  | .bindings store => "vars:" ++ toString store.length
  | .named name => name

/-- A capability, and whether its object is seen by its name only. -/
structure ContextKey where
  capability : Capability
  nameOnly : Bool
  deriving DecidableEq, Inhabited

/-- What a context shows. -/
inductive Sight where
  | nothing
  | value (content : Payload)
  | store (content : Store)
  deriving Inhabited

/-- What is seen under a key. -/
def ContextKey.look (key : ContextKey) (contexts : Contexts Object) : Sight :=
  match contexts.find? key.capability with
  | none => .nothing
  | some object =>
    if key.nameOnly then .value (.text object.name)
    else
      match object with
      | .constant value => .value value
      | .bindings store => .store store
      | .named name => .value (.text name)

/-- The variables of a store, if it exists. -/
def storeAt? (contexts : Contexts Object) (capability : Capability) : Option Store :=
  match contexts.find? capability with
  | some (.bindings store) => some store
  | _ => none

/-- Whether a store exists and its variable has at least a value. -/
def variableAtLeast (contexts : Contexts Object) (store : Capability) (variableName : String)
    (least : Int) : Bool :=
  (storeAt? contexts store).any fun content => decide (least ≤ content.read variableName)

/-- Change the variables of an object that is a store. -/
def Object.changeStore (change : Store → Store) : Object → Object
  | .bindings store => .bindings (change store)
  | object => object

/-- Whether an objective is reached. -/
def Objective.holds (objective : Objective) (contexts : Contexts Object) : Except Panic Bool :=
  match objective.condition with
  | .never => .ok false
  | .always => .ok true
  | .panics => .error (.message ("goal " ++ objective.name ++ " panicked"))
  | .variableAtLeast store variableName least =>
    .ok (variableAtLeast contexts store variableName least)
  | .hasContext capability => .ok (contexts.contains capability)

/-! ## Notes -/

/-- What plans and observers write into the journal. -/
inductive Note where
  | text (content : String)
  | flag (value : Bool)
  | sight (seen : Sight)
  | removal (interceptor : String) (removed : Bool)
  | sending (outcome : Except MessengerError Unit)
  /-- A command found no handle for its agent. -/
  | missing (command : String)
  /-- An observer was called before a tick. -/
  | before (observer : String) (tick population : Nat)
  /-- An observer was called after a tick. -/
  | after (observer : String) (tick population : Nat)
      (results : AgentIndex (Except AgentFailure (List String)))
  /-- An observer was called at the end. -/
  | finished (observer : String) (ticks : Nat) (isShutDown : Bool)
  /-- An observer found no agent for a trigger. -/
  | absent (observer : String)

/-- The vocabulary of playbooks. -/
def vocabulary : Vocabulary :=
  { Action := String, Object := Object, Goal := Objective, Note := Note,
    holds := Objective.holds }

end Deliberation.Playbook

namespace Deliberation

/-- The text of an action is the action. -/
instance : ToString Playbook.vocabulary.Action := inferInstanceAs (ToString String)

/-- A one-line description of a trigger. -/
def Trigger.describe : Trigger Playbook.vocabulary → String
  | .external payload => "ext:" ++ payload.toJson
  | .internal payload => "int:" ++ payload.toJson
  | .message content => "msg:" ++ content.content
  | .goal handle => "goal:" ++ Playbook.Objective.name handle.goal

end Deliberation
