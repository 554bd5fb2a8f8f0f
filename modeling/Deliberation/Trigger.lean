import Deliberation.Category
import Deliberation.Contexts
import Deliberation.Message
import Deliberation.Payload

/-!
# Vocabulary, goals and triggers

A `Vocabulary` fixes what a population of agents is about: the actions its plans produce, the
objects its agents carry as contexts, the goals they pursue and the notes they leave in the journal.
Everything else is the same for every vocabulary.

A goal is held through a handle; handles are equal when their identities are. Whether a goal is
pursued is recorded once per identity in a `Pursuit`, so all copies of a handle agree.
-/

namespace Deliberation

/-- What a panic carries: a text, or something that has none. -/
inductive Panic where
  | message (text : String)
  | wordless
  deriving DecidableEq, Inhabited

/-- The text reported for a panic. -/
def Panic.text : Panic → String
  | .message text => text
  | .wordless => "non-string panic payload"

/-- The types a population of agents is built over, and when a goal holds. -/
structure Vocabulary where
  Action : Type
  Object : Type
  Goal : Type
  Note : Type
  holds : Goal → Contexts Object → Except Panic Bool

variable {V : Vocabulary}

/-- A goal with its identity. -/
structure GoalHandle (V : Vocabulary) where
  id : GoalId
  goal : V.Goal

/-- The goals that are flagged as pursued. -/
structure Pursuit where
  goals : List GoalId
  deriving DecidableEq, Inhabited

namespace Pursuit

/-- No goal is pursued. -/
def none : Pursuit := ⟨[]⟩

/-- Whether a goal is flagged. -/
def isPursued (pursuit : Pursuit) (goal : GoalId) : Bool := pursuit.goals.contains goal

/-- Set the flag of a goal. -/
def set (pursuit : Pursuit) (goal : GoalId) (pursued : Bool) : Pursuit :=
  if pursued then
    if pursuit.isPursued goal then pursuit else ⟨goal :: pursuit.goals⟩
  else ⟨pursuit.goals.filter (· != goal)⟩

/-- Setting a flag changes that flag and no other. -/
@[simp] theorem isPursued_set (pursuit : Pursuit) (goal other : GoalId) (pursued : Bool) :
    (pursuit.set goal pursued).isPursued other =
      if other = goal then pursued else pursuit.isPursued other := by
  unfold set
  cases pursued <;> by_cases h : other = goal <;> by_cases held : pursuit.isPursued goal <;>
    simp_all [isPursued]

end Pursuit

/-- What can cause a plan. -/
inductive Trigger (V : Vocabulary) where
  | external (payload : Payload)
  | internal (payload : Payload)
  | message (message : Message)
  | goal (handle : GoalHandle V)

namespace Trigger

/-- The category a trigger belongs to by itself, whatever queue it stands in. -/
def category : Trigger V → Category
  | external _ => .external
  | internal _ => .internal
  | message _ => .message
  | goal _ => .goal

/-- The payload of an external or internal trigger. -/
def payload? : Trigger V → Option Payload
  | external payload | internal payload => some payload
  | _ => none

/-- The message of a message trigger. -/
def message? : Trigger V → Option Message
  | message content => some content
  | _ => none

/-- The goal of a goal trigger. -/
def goal? : Trigger V → Option (GoalHandle V)
  | goal handle => some handle
  | _ => none

/-- Whether a trigger is a goal. -/
def isGoal (trigger : Trigger V) : Bool := trigger.goal?.isSome

/-- Flag the goal of a trigger as pursued, if it has one. -/
def markPursued (trigger : Trigger V) (pursuit : Pursuit) : Pursuit :=
  match trigger.goal? with
  | some handle => pursuit.set handle.id true
  | none => pursuit

/-- Whether a trigger is a goal that is flagged as pursued. -/
def isPursuedGoal (trigger : Trigger V) (pursuit : Pursuit) : Bool :=
  match trigger.goal? with
  | some handle => pursuit.isPursued handle.id
  | none => false

/-- The rendering of a trigger, given how goals render and the names of goal identities. -/
def render (renderGoal : V.Goal → String) (goalName : GoalId → String) (pursuit : Pursuit) :
    Trigger V → String
  | external payload => Text.wrapped "External" payload.render
  | internal payload => Text.wrapped "Internal" payload.render
  | message content => Text.wrapped "Message" content.render
  | goal handle => Text.wrapped "Goal" (Text.record "GoalHandle"
      [("id", Text.wrapped "GoalId" (goalName handle.id)),
       ("pursued", toString (pursuit.isPursued handle.id)),
       ("goal", renderGoal handle.goal)])

end Trigger

end Deliberation
