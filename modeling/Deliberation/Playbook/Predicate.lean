import Deliberation.Playbook.Vocabulary

/-!
# Predicates on triggers

What makes a scheme or an interceptor of a playbook fire. Some predicates ask about the agent; where
nothing is known about it they do not hold. Conjunctions and disjunctions stop at the first answer
that decides, so a predicate behind it cannot break the cycle off.
-/

namespace Deliberation.Playbook

/-- A condition on a trigger and on the agent that meets it. -/
inductive Predicate where
  | always
  | never
  /-- Asking breaks the cycle off. -/
  | panics
  /-- The trigger is a goal that is pursued. -/
  | pursued
  /-- The trigger is a message to everybody. -/
  | broadcast
  | not (inner : Predicate)
  | all (inner : List Predicate)
  | some (inner : List Predicate)
  | category (category : Category)
  | hasType (type : PayloadType)
  | equals (payload : Payload)
  | content (text : String)
  | contentStart (text : String)
  | parameter (key value : String)
  | sender (agent : AgentId)
  | goalNamed (name : String)
  | agent (id : AgentId)
  | hasContext (capability : Capability)
  | variableAtLeast (store : Capability) (variableName : String) (least : Int)
  deriving Inhabited

namespace Predicate

mutual

/-- Whether a predicate holds. -/
def test (pursuit : Pursuit) (view : Option (View vocabulary)) (trigger : Trigger vocabulary) :
    Predicate → Except Panic Bool
  | always => .ok true
  | never => .ok false
  | panics => .error (.message "scheme panicked")
  | pursued => .ok (trigger.isPursuedGoal pursuit)
  | broadcast => .ok (trigger.message?.any (·.isBroadcast))
  | not inner => (inner.test pursuit view trigger).map (!·)
  | all inner => testAll pursuit view trigger inner
  | some inner => testSome pursuit view trigger inner
  | category expected => .ok (trigger.category == expected)
  | hasType type => .ok (trigger.payload?.any (·.is type))
  | equals payload => .ok (trigger.payload? == Option.some payload)
  | content text => .ok (trigger.message?.any (·.content == text))
  | contentStart text =>
    .ok (trigger.message?.any fun message => text.toList.isPrefixOf message.content.toList)
  | parameter key value =>
    .ok (trigger.message?.any fun message => message.parameter? key == Option.some value)
  | sender id => .ok (trigger.message?.any (·.sender == id))
  | goalNamed name => .ok (trigger.goal?.any fun handle => Objective.name handle.goal == name)
  | agent id => .ok (view.any (·.agent == id))
  | hasContext capability => .ok (view.any (·.contexts.contains capability))
  | variableAtLeast store variableName least =>
    .ok (view.any fun view => Playbook.variableAtLeast view.contexts store variableName least)

/-- Whether all predicates hold, up to the first that does not. -/
def testAll (pursuit : Pursuit) (view : Option (View vocabulary))
    (trigger : Trigger vocabulary) : List Predicate → Except Panic Bool
  | [] => .ok true
  | first :: rest => do
    if ← first.test pursuit view trigger then testAll pursuit view trigger rest else .ok false

/-- Whether some predicate holds, up to the first that does. -/
def testSome (pursuit : Pursuit) (view : Option (View vocabulary))
    (trigger : Trigger vocabulary) : List Predicate → Except Panic Bool
  | [] => .ok false
  | first :: rest => do
    if ← first.test pursuit view trigger then .ok true else testSome pursuit view trigger rest

end

end Predicate

end Deliberation.Playbook
