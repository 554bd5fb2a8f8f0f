import Deliberation.Proofs.Frame
import Deliberation.Proofs.Hops

/-!
# What an onlooker sees of a stride

A stride does things that the world does not show afterwards: a sense step starts from triggers, the
execution of a plan begins or comes back with a result, something arrives at an agent and lies in
its inbox among the rest. `World.deeds` lists them in their order.

Of the inboxes nothing is left out: a stride puts into them what it lets arrive, in the order of the
deeds, and takes nothing out (`inbox_stride`). Only the stride in which a cycle wakes takes the
whole inbox of its own agent (`stride_waking`, `inbox_drain`).
-/

namespace Deliberation

variable {V : Vocabulary}

/-- One thing that a stride does. -/
inductive Deed (V : Vocabulary) where
  /-- A cycle begins. -/
  | wakes
  /-- A sense step of a category starts from triggers. -/
  | senses (category : Category) (triggers : List (Trigger V))
  /-- The execution of a plan begins. -/
  | executes (active : ActivePlan V)
  /-- The execution of a shutdown plan begins. -/
  | parts (plan : Plan V)
  /-- A plan asks its agent to stop. -/
  | asksToStop
  /-- An execution ends with a result. -/
  | returns (result : Except PlanError (Option V.Action))
  /-- An agent drops what it has; some of the goals dropped may be flagged even then. -/
  | retires (dropped : List GoalId) (flagged : List GoalId)
  /-- Something arrives at an agent. -/
  | reaches (number : BirthNumber) (arrival : Arrival V)

/-- What arrives at an agent by a deed. -/
def Deed.arrivalAt? (number : BirthNumber) : Deed V → Option (Arrival V)
  | reaches reached arrival => if reached = number then some arrival else none
  | _ => none

/-- Whether a deed is an arrival. -/
def Deed.isArrival : Deed V → Bool
  | reaches _ _ => true
  | _ => false

/-- What arrives at an agent, in the order of the deeds. -/
def arrivalsAt (number : BirthNumber) (deeds : List (Deed V)) : List (Arrival V) :=
  deeds.filterMap (Deed.arrivalAt? number)

/-- What arrives with deeds one after the other arrives in this order. -/
@[simp] theorem arrivalsAt_append (number : BirthNumber) (first second : List (Deed V)) :
    arrivalsAt number (first ++ second) = arrivalsAt number first ++ arrivalsAt number second :=
  List.filterMap_append ..

/-! ## Inboxes -/

/-- The trigger that an arrival puts into the queue of a category, if any. -/
def Arrival.trigger? (category : Category) : Arrival V → Option (Trigger V)
  | external trigger => if category = .external then some trigger else none
  | internal trigger => if category = .internal then some trigger else none
  | message content => if category = .message then some (.message content) else none
  | _ => none

namespace Inbox

/-- Put arrivals behind the others, one after the other. -/
def receiveAll (inbox : Inbox V) (arrivals : List (Arrival V)) : Inbox V :=
  arrivals.foldl receive inbox

/-- An inbox that receives nothing stays as it is. -/
@[simp] theorem receiveAll_nil (inbox : Inbox V) : inbox.receiveAll [] = inbox := rfl

/-- An empty inbox has no triggers. -/
@[simp] theorem triggers_empty (category : Category) :
    (empty : Inbox V).triggers category = [] := by
  cases category <;> rfl

/-- Arrivals may be received in two parts. -/
theorem receiveAll_append (inbox : Inbox V) (first second : List (Arrival V)) :
    inbox.receiveAll (first ++ second) = (inbox.receiveAll first).receiveAll second :=
  List.foldl_append ..

/-- An arrival adds its trigger at the end of its category. -/
theorem triggers_receive (inbox : Inbox V) (arrival : Arrival V) (category : Category) :
    (inbox.receive arrival).triggers category =
      inbox.triggers category ++ (arrival.trigger? category).toList := by
  cases arrival <;> cases category <;> simp [receive, triggers, Arrival.trigger?]

/-- Each queue keeps its arrivals in their order. -/
theorem triggers_receiveAll (inbox : Inbox V) (arrivals : List (Arrival V)) (category : Category) :
    (inbox.receiveAll arrivals).triggers category =
      inbox.triggers category ++ arrivals.filterMap (Arrival.trigger? category) := by
  induction arrivals generalizing inbox with
  | nil => simp
  | cons arrival rest ih =>
    have later := ih (inbox.receive arrival)
    rw [triggers_receive, List.append_assoc] at later
    refine later.trans (congrArg _ ?_)
    rw [List.filterMap_cons]
    cases arrival.trigger? category <;> rfl

/-- Internal triggers that are put behind the others have arrived. -/
theorem receiveAll_internal (inbox : Inbox V) (triggers : List (Trigger V)) :
    inbox.receiveAll (triggers.map .internal) =
      { inbox with internal := inbox.internal ++ triggers } := by
  induction triggers generalizing inbox with
  | nil => simp
  | cons trigger rest ih =>
    refine (ih (inbox.receive (.internal trigger))).trans ?_
    simp [receive]

end Inbox

namespace World

variable {number other : BirthNumber}

/-! ## Deeds -/

/-- What the delivery of a message to one receiver lets arrive. -/
def mailTo (world : World V) (receiver : AgentId) (message : Message) : List (Deed V) :=
  match world.messenger.routing with
  | .registry =>
    match (AgentIndex.find? world.messenger.entries receiver).filter world.isAlive with
    | none => []
    | some number =>
      match world.messenger.codec with
      | none => [.reaches number (.message message)]
      | some codec =>
        match codec.carry message with
        | .ok carried => [.reaches number (.message carried)]
        | .error _ => []
  | .roster =>
    match AgentIndex.find? world.messenger.entries receiver with
    | none => []
    | some number => [.reaches number (.message message)]

/-- What the delivery of a message to several receivers lets arrive. -/
def mailToAll (world : World V) (message : Message) : List AgentId → List (Deed V)
  | [] => []
  | receiver :: rest =>
    world.mailTo receiver message ++ mailToAll (world.deliverTo receiver message).1 message rest

/-- What the delivery of a message lets arrive. -/
def mail (world : World V) (message : Message) : List (Deed V) :=
  world.mailToAll message (world.receivers message)

/-- What arrives when an agent sends a message. -/
def mailFrom (world : World V) (number : BirthNumber) (message : Message) : List (Deed V) :=
  if (world.agent number).connected then world.mail message else []

end World

/-- What the next operation of a script does. -/
def Script.deeds (self : BirthNumber) (world : World V) : Script V → List (Deed V)
  | done result _ => [.returns result]
  | requestStop _ => [.asksToStop]
  | send message _ => world.mailFrom self message
  | reach agent arrival _ =>
    match world.handles.find? agent with
    | none => []
    | some number => [.reaches number arrival]
  | _ => []

/-- What arrives at an agent when requested effects are applied. -/
def Effects.deeds (number : BirthNumber) (effects : Effects V) : List (Deed V) :=
  effects.raised.map fun payload => .reaches number (.internal (.internal payload))

/-- What an execution that fails lets arrive: the effects requested so far are applied at once. -/
def Script.aftermath (number : BirthNumber) (effects : Effects V) : Script V → List (Deed V)
  | done (.error _) _ => effects.deeds number
  | _ => []

/-- The goals that an agent holds or has plans for. -/
def Agent.pursuits (agent : Agent V) : List GoalId :=
  agent.goals.map (·.id) ++ agent.plans.filterMap fun active => active.goal.map (·.id)

namespace World

variable {number other : BirthNumber}

/-- What a stride does. -/
def deeds (world : World V) (number : BirthNumber) : Phase V → List (Deed V)
  | .waking => [.wakes]
  | .sensing inbox (category :: _) _ =>
    [.senses category <|
      if category = .goal then (world.agent number).goals.map .goal else inbox.triggers category]
  | .planning [] [] progress => progress.effects.deeds number
  | .planning (active :: _) _ _ => [.executes active]
  | .acting script _ _ _ _ progress =>
    script.deeds number world ++ script.aftermath number progress.effects
  | .closing [] _ _ =>
    let dropped := (world.agent number).pursuits
    [.retires dropped (dropped.filter (world.retire number).pursuit.isPursued)]
  | .closing (plan :: _) _ _ => [.parts plan]
  | .parting script _ _ _ _ => script.deeds number world
  | _ => []

/-! ## Deeds by what is done -/

/-- A delivery to one receiver consists of arrivals. -/
theorem mailTo_arrivals (world : World V) (receiver : AgentId) (message : Message) :
    ∀ deed ∈ world.mailTo receiver message, deed.isArrival = true := by
  have single : ∀ (reached : BirthNumber) (arrival : Arrival V),
      ∀ deed ∈ [Deed.reaches reached arrival], deed.isArrival = true := by
    intro reached arrival deed member
    rw [List.mem_singleton.mp member]
    rfl
  unfold mailTo
  cases world.messenger.routing with
  | registry =>
    simp only
    cases (AgentIndex.find? world.messenger.entries receiver).filter world.isAlive with
    | none => nofun
    | some reached =>
      cases world.messenger.codec with
      | none => exact single reached _
      | some codec =>
        simp only
        cases codec.carry message with
        | ok carried => exact single reached _
        | error cause => nofun
  | roster =>
    simp only
    cases AgentIndex.find? world.messenger.entries receiver with
    | none => nofun
    | some reached => exact single reached _

/-- Deliveries to receivers consist of arrivals. -/
theorem mailToAll_arrivals (message : Message) (receivers : List AgentId) (world : World V) :
    ∀ deed ∈ world.mailToAll message receivers, deed.isArrival = true := by
  induction receivers generalizing world with
  | nil => nofun
  | cons receiver rest ih =>
    intro deed member
    rcases List.mem_append.mp member with first | later
    · exact mailTo_arrivals world receiver message deed first
    · exact ih _ deed later

/-- What an agent sends consists of arrivals. -/
theorem mailFrom_arrivals (world : World V) (self : BirthNumber) (message : Message) :
    ∀ deed ∈ world.mailFrom self message, deed.isArrival = true := by
  unfold mailFrom
  split
  · exact mailToAll_arrivals message _ world
  · nofun

/-- An operation of a script is an arrival, a request to stop or the end of the execution. -/
theorem mem_script_deeds {self : BirthNumber} {world : World V} {script : Script V} {deed : Deed V}
    (member : deed ∈ script.deeds self world) :
    deed.isArrival = true ∨ deed = .asksToStop ∨ ∃ result, deed = .returns result := by
  cases script with
  | done result memory => exact .inr (.inr ⟨result, List.mem_singleton.mp member⟩)
  | requestStop next => exact .inr (.inl (List.mem_singleton.mp member))
  | send message next => exact .inl (mailFrom_arrivals world self message deed member)
  | reach agent arrival next =>
    simp only [Script.deeds] at member
    split at member
    · cases member
    · rw [List.mem_singleton.mp member]
      exact .inl rfl
  | _ => cases member

/-- The effects of a cycle consist of arrivals. -/
theorem effects_arrivals (number : BirthNumber) (effects : Effects V) :
    ∀ deed ∈ effects.deeds number, deed.isArrival = true := by
  intro deed member
  obtain ⟨payload, _, rfl⟩ := List.mem_map.mp member
  rfl

end World

/-! ## What arrives lies in the inbox -/

/-- An agent after arrivals. -/
def Agent.receiveAll (agent : Agent V) (arrivals : List (Arrival V)) : Agent V :=
  { agent with inbox := agent.inbox.receiveAll arrivals }

/-- An agent that receives nothing stays as it is. -/
@[simp] theorem Agent.receiveAll_nil (agent : Agent V) : agent.receiveAll [] = agent := rfl

/-- An agent may receive arrivals in two parts. -/
theorem Agent.receiveAll_append (agent : Agent V) (first second : List (Arrival V)) :
    agent.receiveAll (first ++ second) = (agent.receiveAll first).receiveAll second := by
  simp [receiveAll, Inbox.receiveAll_append]

namespace World

variable {number other : BirthNumber}

/-- An agent after one thing arrived somewhere. -/
theorem agent_arrive (world : World V) (reached : BirthNumber) (arrival : Arrival V)
    (inside : number < world.agents.size) :
    (world.arrive reached arrival).agent number =
      (world.agent number).receiveAll (arrivalsAt number [.reaches reached arrival]) := by
  by_cases same : reached = number
  · subst same
    rw [agent_arrive_self world arrival inside]
    simp [arrivalsAt, Deed.arrivalAt?, Inbox.receiveAll, Agent.receiveAll]
  · rw [agent_arrive_of_ne world arrival (Ne.symm same)]
    simp [arrivalsAt, Deed.arrivalAt?, same]

/-- A delivery to one receiver changes an agent by what arrives at it. -/
theorem agent_deliverTo (world : World V) (receiver : AgentId) (message : Message)
    (inside : number < world.agents.size) :
    (world.deliverTo receiver message).1.agent number =
      (world.agent number).receiveAll (arrivalsAt number (world.mailTo receiver message)) := by
  unfold deliverTo mailTo
  cases world.messenger.routing with
  | registry =>
    simp only
    cases (AgentIndex.find? world.messenger.entries receiver).filter world.isAlive with
    | none => rfl
    | some reached =>
      cases world.messenger.codec with
      | none => exact agent_arrive world reached _ inside
      | some codec =>
        simp only
        cases codec.carry message with
        | ok carried => exact agent_arrive world reached _ inside
        | error cause => rfl
  | roster =>
    simp only [log]
    cases AgentIndex.find? world.messenger.entries receiver with
    | none => rfl
    | some reached => exact agent_arrive _ reached _ inside

/-- Deliveries to receivers change an agent by what arrives at it. -/
theorem agent_deliverAll (message : Message) (receivers : List AgentId) (world : World V)
    (inside : number < world.agents.size) :
    (world.deliverAll message receivers).1.agent number =
      (world.agent number).receiveAll (arrivalsAt number (world.mailToAll message receivers)) := by
  induction receivers generalizing world with
  | nil => rfl
  | cons receiver rest ih =>
    have size := (world.deliverTo_stirs 0 receiver message).steady.lasting.frame.size
    have later := ih (world.deliverTo receiver message).1 (size ▸ inside)
    rw [agent_deliverTo world receiver message inside, ← Agent.receiveAll_append,
      ← arrivalsAt_append] at later
    exact later

/-- The delivery of a message changes an agent by what arrives at it. -/
theorem agent_deliver (world : World V) (message : Message)
    (inside : number < world.agents.size) :
    (world.deliver message).1.agent number =
      (world.agent number).receiveAll (arrivalsAt number (world.mail message)) :=
  agent_deliverAll message _ world inside

/-- A message that is sent changes an agent by what arrives at it. -/
theorem agent_send (world : World V) (self : BirthNumber) (message : Message)
    (inside : number < world.agents.size) :
    (world.send self message).1.agent number =
      (world.agent number).receiveAll (arrivalsAt number (world.mailFrom self message)) := by
  simp only [send, mailFrom]
  split
  · exact agent_deliver world message inside
  · rfl

/-- One operation of a script puts into the inboxes what it lets arrive. -/
theorem inbox_advance (self : BirthNumber) (script : Script V) (turn : Turn V)
    (inside : number < turn.world.agents.size) :
    ((script.advance self turn).turn.world.agent number).inbox =
      (turn.world.agent number).inbox.receiveAll
        (arrivalsAt number (script.deeds self turn.world)) := by
  cases script with
  | done | panic | finish | isFinished | observe | raise | adoptGoal | adoptPlan | requestStop
  | nameInterceptor | interceptorNamed | note | await | sleep => rfl
  | change | addInterceptor | removeInterceptor =>
    exact field_modifyAgent Agent.inbox turn.world self number _ rfl
  | send message next => exact congrArg Agent.inbox (agent_send turn.world self message inside)
  | reach agent arrival next =>
    simp only [Script.advance, Script.deeds]
    cases turn.world.handles.find? agent with
    | none => rfl
    | some reached => exact congrArg Agent.inbox (agent_arrive turn.world reached arrival inside)

/-- An operation of a script changes an inbox by what arrives with its deeds. -/
theorem inbox_of_advance {self : BirthNumber} {script : Script V} {turn : Turn V} {halt : Halt V}
    (advanced : script.advance self turn = halt) (inside : number < turn.world.agents.size) :
    (halt.turn.world.agent number).inbox =
      (turn.world.agent number).inbox.receiveAll
        (arrivalsAt number (script.deeds self turn.world)) :=
  advanced ▸ inbox_advance self script turn inside

end World

/-- To adopt goals changes the goals only. -/
theorem Agent.adoptAll_eq (handles : List (GoalHandle V)) (agent : Agent V) :
    ∃ goals, handles.foldl Agent.adopt agent = { agent with goals } := by
  induction handles generalizing agent with
  | nil => exact ⟨_, rfl⟩
  | cons handle rest ih =>
    obtain ⟨goals, adopted⟩ := ih (agent.adopt handle)
    refine ⟨goals, adopted.trans ?_⟩
    unfold Agent.adopt
    split <;> rfl

namespace World

variable {number other : BirthNumber}

/-- An execution that comes back is at its end. -/
theorem eq_done_of_advance {self : BirthNumber} {script : Script V} {turn after : Turn V}
    {result : Except PlanError (Option V.Action)} {memory : Nat}
    (returned : script.advance self turn = .returned after result memory) :
    script = .done result memory ∧ after = turn := by
  cases script with
  | done =>
    cases returned
    exact ⟨rfl, rfl⟩
  | reach agent arrival next =>
    simp only [Script.advance] at returned
    split at returned <;> cases returned
  | _ => cases returned

/-- An execution that goes on has no aftermath. -/
theorem aftermath_of_advance {self : BirthNumber} {script rest : Script V} {turn after : Turn V}
    {wait : Wait} (blocked : script.advance self turn = .blocked after wait rest)
    (effects : Effects V) : script.aftermath self effects = [] := by
  cases script with
  | done => cases blocked
  | _ => rfl

/-- The effects of a cycle change an inbox by what arrives with their deeds. -/
theorem inbox_applyEffects (world : World V) (self : BirthNumber) (effects : Effects V)
    (inside : number < world.agents.size) :
    ((world.applyEffects self effects).agent number).inbox =
      (world.agent number).inbox.receiveAll (arrivalsAt number (effects.deeds self)) := by
  have raised : arrivalsAt number (effects.deeds self) =
      if self = number then (effects.raised.map Trigger.internal).map Arrival.internal else [] := by
    unfold Effects.deeds arrivalsAt
    rw [List.filterMap_map, List.map_map]
    split
    · rename_i same
      rw [← List.filterMap_eq_map]
      refine List.filterMap_congr fun payload _ => ?_
      simp [Deed.arrivalAt?, same]
    · rename_i different
      rw [List.filterMap_eq_nil_iff]
      intro payload _
      simp [Deed.arrivalAt?, different]
  by_cases same : self = number
  · subst same
    rw [raised, if_pos rfl, Inbox.receiveAll_internal]
    unfold applyEffects
    rw [agent_modifyAgent_self world _ inside]
    obtain ⟨goals, adopted⟩ := Agent.adoptAll_eq effects.goals
      { world.agent self with
        inbox :=
          { (world.agent self).inbox with
            internal := (world.agent self).inbox.internal ++ effects.raised.map .internal } }
    simp only [adopted]
  · rw [raised, if_neg same]
    unfold applyEffects
    rw [agent_modifyAgent_of_ne world _ (Ne.symm same)]
    rfl

/-- Without effects nothing happens. -/
theorem applyEffects_none (world : World V) (number : BirthNumber) :
    world.applyEffects number Effects.none = world :=
  modifyAgent_of_eq (by simp [Effects.none])

/-! ## What a stride keeps -/

section fields

variable {α : Type} (field : Agent V → α)

/-- Achieving goals changes the goals of agents only. -/
theorem field_sweep (keeps : ∀ (agent : Agent V) goals, field { agent with goals } = field agent)
    (world : World V) (self number : BirthNumber) :
    field ((world.sweep self).1.agent number) = field (world.agent number) :=
  field_modifyAgent field _ self number _ (keeps _ _)

/-- A sense step changes schemes, interceptors and plans of agents only. -/
theorem field_senseTriggers
    (keeps : ∀ (agent : Agent V) schemes interceptors plans,
      field { agent with schemes, interceptors, plans } = field agent)
    (world : World V) (self number : BirthNumber) (category : Category)
    (triggers : List (Trigger V)) :
    field ((world.senseTriggers self category triggers).1.agent number) =
      field (world.agent number) := by
  have kept : ∀ (world : World V) (change : Agent V → Agent V),
      (∀ agent, ∃ schemes interceptors plans,
        change agent = { agent with schemes, interceptors, plans }) →
      field ((world.modifyAgent self change).agent number) = field (world.agent number) := by
    intro world change only
    obtain ⟨schemes, interceptors, plans, changed⟩ := only (world.agent self)
    exact field_modifyAgent field world self number change (changed ▸ keeps _ _ _ _)
  simp only [senseTriggers]
  split
  · exact kept _ _ fun _ => ⟨_, _, _, rfl⟩
  · split
    · exact (kept _ _ fun _ => ⟨_, _, _, rfl⟩).trans (kept _ _ fun _ => ⟨_, _, _, rfl⟩)
    · exact (kept _ _ fun _ => ⟨_, _, _, rfl⟩).trans
        ((kept _ _ fun _ => ⟨_, _, _, rfl⟩).trans (kept _ _ fun _ => ⟨_, _, _, rfl⟩))

/-- Keeping a plan that returned changes the plans of agents only. -/
theorem field_kept (keeps : ∀ (agent : Agent V) plans, field { agent with plans } = field agent)
    (act : Act V) (self number : BirthNumber) (active : ActivePlan V) (turn : Turn V)
    (action : Option V.Action) (memory : Nat) :
    field ((act.kept self active turn action memory).world.agent number) =
      field (turn.world.agent number) := by
  unfold Act.kept
  split
  · rfl
  · exact field_modifyAgent field turn.world self number _ (keeps _ _)

/-- Dropping a plan that failed changes the plans of agents only. -/
theorem field_dropped (keeps : ∀ (agent : Agent V) plans, field { agent with plans } = field agent)
    (act : Act V) (self number : BirthNumber) (active : ActivePlan V)
    (pending : List (ActivePlan V)) (turn : Turn V) :
    field ((act.dropped self active pending turn).world.agent number) =
      field (turn.world.agent number) :=
  field_modifyAgent field _ self number _ (keeps _ _)

end fields

/-- What a stride does to an inbox is to put into it what it lets arrive, unless its cycle wakes. -/
theorem inbox_stride (world : World V) (self : BirthNumber) (phase : Phase V)
    (awake : phase ≠ .waking) (inside : number < world.agents.size) :
    ((world.stride self phase).1.agent number).inbox =
      (world.agent number).inbox.receiveAll (arrivalsAt number (world.deeds self phase)) := by
  have strode := world.strode self phase
  generalize world.stride self phase = next at strode ⊢
  cases strode with
  | idles | turns | wakes => exact absurd rfl awake
  | sweepPanics inbox after panic swept | sweeps inbox after swept =>
    have kept := field_sweep Agent.inbox (fun _ _ => rfl) world self number
    rw [swept] at kept
    exact kept
  | sensed | passes | begins | parts | rests => rfl
  | sensePanics inbox category steps acts after panic _ senses
  | senses inbox category steps acts after _ senses =>
    have kept := field_senseTriggers Agent.inbox (fun _ _ _ _ => rfl) world self number category
      (world.offered self inbox category)
    rw [senses] at kept
    exact kept
  | concludes progress => exact inbox_applyEffects world self progress.effects inside
  | takes steps progress => exact field_modifyAgent Agent.inbox world self number _ rfl
  | actingReturns script finished active pending steps progress turn action memory returned =>
    have kept := field_kept Agent.inbox (fun _ _ => rfl) (progress.act world) self number active
      turn action memory
    obtain ⟨rfl, rfl⟩ := eq_done_of_advance returned
    exact kept
  | actingFails script finished active pending steps progress turn cause memory returned =>
    have dropped := field_dropped Agent.inbox (fun _ _ => rfl) (progress.act world) self number
      active pending turn
    have size := ((progress.act world).dropped_moves self active pending turn).lasting.frame.size
    obtain ⟨rfl, rfl⟩ := eq_done_of_advance returned
    have applied := inbox_applyEffects _ self progress.effects (size ▸ inside)
    rw [dropped] at applied
    exact applied
  | actingPanics script finished active pending steps progress turn cause panicked =>
    cases script with
    | panic =>
      cases panicked
      rfl
    | reach agent arrival next =>
      simp only [Script.advance] at panicked
      split at panicked <;> cases panicked
    | _ => cases panicked
  | actingGoesOn script finished active pending steps progress turn wait rest blocked =>
    have arrived := inbox_of_advance blocked inside
    simp only [deeds, aftermath_of_advance blocked, List.append_nil]
    exact arrived
  | retires effects actions => exact field_modifyAgent Agent.inbox _ self number _ rfl
  | partingReturns script finished pending effects actions turn action memory returned
  | partingFails script finished pending effects actions turn cause memory returned =>
    exact inbox_of_advance returned inside
  | partingPanics script finished pending effects actions turn cause panicked =>
    exact inbox_of_advance panicked inside
  | partingGoesOn script finished pending effects actions turn wait rest blocked =>
    exact inbox_of_advance blocked inside

/-! ## What a cycle takes when it wakes -/

/-- An agent that drains its inbox leaves nothing in it. -/
theorem inbox_drain (world : World V) (inside : number < world.agents.size) :
    ((world.drain number).1.agent number).inbox = Inbox.empty := by
  unfold drain
  rw [agent_modifyAgent_self world _ inside]
  obtain ⟨goals, adopted⟩ := Agent.adoptAll_eq (world.agent number).inbox.goals
    { world.agent number with inbox := Inbox.empty }
  simp only [adopted]

/-- A cycle begins with nothing to do, with the shutdown plans, or with the drained inbox. -/
theorem stride_waking (world : World V) (number : BirthNumber) :
    world.stride number .waking =
      if (world.agent number).done then (world, .finished (.acted [] false))
      else if ((world.drain number).1.agent number).stopping then
        ((world.drain number).1.modifyAgent number fun agent => { agent with shutdownPlans := [] },
          .closing ((world.drain number).1.agent number).shutdownPlans Effects.none [])
      else ((world.drain number).1, .sweeping (world.agent number).inbox) := rfl

section ready

variable {world : World V} {number : BirthNumber} (notDone : (world.agent number).done = false)
  (notStopping : ((world.drain number).1.agent number).stopping = false)

include notDone notStopping

/-- A cycle of an agent that is neither done nor stopping begins with the drained inbox. -/
theorem waking_of_ready :
    world.stride number .waking = ((world.drain number).1, .sweeping (world.drain number).2) := by
  rw [stride_waking]
  simp only [notDone, notStopping, Bool.false_eq_true, if_false]
  rfl

/-- From there on it makes strides. -/
theorem strides_of_ready (deadline : Option Nat) :
    Strides number ((world.drain number).1, .sweeping (world.drain number).2)
      ((world.cycle number deadline).world, (world.cycle number deadline).phase) := by
  have cycle : world.cycle number deadline =
      (world.drain number).1.deliberate number deadline (world.drain number).2 := by
    simp only [World.cycle, notDone, notStopping, Bool.false_eq_true, if_false]
  rw [cycle]
  exact (deliberate_hops number _ deadline _).strides.trans (passed_strides _ _ number)

end ready

/-- A stride of another agent lets things arrive and changes nothing else of an agent. -/
theorem agent_stride_of_ne (world : World V) {self : BirthNumber} (phase : Phase V)
    (different : number ≠ self) (inside : number < world.agents.size) :
    (world.stride self phase).1.agent number =
      (world.agent number).receiveAll (arrivalsAt number (world.deeds self phase)) := by
  obtain ⟨inbox, changed⟩ := (world.stride_moves self phase).other different
  have arrived : inbox = (world.agent number).inbox.receiveAll
      (arrivalsAt number (world.deeds self phase)) := by
    by_cases waking : phase = .waking
    · subst waking
      have drained : (world.drain self).1.agent number = world.agent number :=
        agent_modifyAgent_of_ne world _ different
      have kept : (world.stride self .waking).1.agent number = world.agent number := by
        rw [stride_waking]
        split
        · rfl
        · split
          · exact (agent_modifyAgent_of_ne _ _ different).trans drained
          · exact drained
      exact congrArg Agent.inbox (changed.symm.trans kept)
    · exact (congrArg Agent.inbox changed).symm.trans (inbox_stride world self phase waking inside)
  rw [changed, arrived]
  rfl

/-! ## What never changes -/

section

variable {α : Type} (field : Agent V → α)
  (keeps : ∀ (agent : Agent V) inbox contexts schemes interceptors goals plans shutdownPlans
    stopping done,
    field { agent with
      inbox, contexts, schemes, interceptors, goals, plans, shutdownPlans, stopping, done } =
        field agent)

include keeps

/-- Draining an inbox leaves a field that cycles leave alone. -/
theorem field_drain (world : World V) (self number : BirthNumber) :
    field ((world.drain self).1.agent number) = field (world.agent number) := by
  refine field_modifyAgent field world self number _ ?_
  obtain ⟨goals, adopted⟩ := Agent.adoptAll_eq (world.agent self).inbox.goals
    { world.agent self with inbox := Inbox.empty }
  simp only [adopted]
  exact keeps (world.agent self) Inbox.empty _ _ _ goals _ _ _ _

/-- Effects leave a field that cycles leave alone. -/
theorem field_applyEffects (world : World V) (self number : BirthNumber) (effects : Effects V) :
    field ((world.applyEffects self effects).agent number) = field (world.agent number) := by
  refine field_modifyAgent field world self number _ ?_
  obtain ⟨goals, adopted⟩ := Agent.adoptAll_eq effects.goals
    { world.agent self with
      inbox :=
        { (world.agent self).inbox with
          internal := (world.agent self).inbox.internal ++ effects.raised.map .internal } }
  simp only [adopted]
  exact keeps (world.agent self) _ _ _ _ goals _ _ _ _

/-- No stride changes what an agent was made to be. -/
theorem field_stride (world : World V) (self number : BirthNumber) (phase : Phase V) :
    field ((world.stride self phase).1.agent number) = field (world.agent number) := by
  have goals : ∀ (agent : Agent V) goals, field { agent with goals } = field agent :=
    fun agent goals => keeps agent _ _ _ _ goals _ _ _ _
  have plans : ∀ (agent : Agent V) plans, field { agent with plans } = field agent :=
    fun agent plans => keeps agent _ _ _ _ _ plans _ _ _
  have stirred : ∀ {before after : World V}, Stirs self before after →
      field (after.agent number) = field (before.agent number) :=
    fun stirs => stirs.field field (fun agent inbox contexts interceptors =>
      keeps agent inbox contexts _ interceptors _ _ _ _ _) number
  have strode := world.strode self phase
  generalize world.stride self phase = next at strode ⊢
  cases strode with
  | idles | sensed | passes | begins | parts | rests => rfl
  | turns after inbox _ drained =>
    have emptied := field_drain field keeps world self number
    rw [drained] at emptied
    exact (field_modifyAgent field after self number _
      (keeps _ _ _ _ _ _ _ [] _ _)).trans emptied
  | wakes after inbox _ drained =>
    have emptied := field_drain field keeps world self number
    rw [drained] at emptied
    exact emptied
  | sweepPanics inbox after panic swept | sweeps inbox after swept =>
    have kept := field_sweep field goals world self number
    rw [swept] at kept
    exact kept
  | sensePanics inbox category steps acts after panic _ senses
  | senses inbox category steps acts after _ senses =>
    have kept := field_senseTriggers field
      (fun agent schemes interceptors plans => keeps agent _ _ schemes interceptors _ plans _ _ _)
      world self number category (world.offered self inbox category)
    rw [senses] at kept
    exact kept
  | concludes progress => exact field_applyEffects field keeps world self number progress.effects
  | takes steps progress => exact field_modifyAgent field world self number _ (plans _ _)
  | actingReturns script finished active pending steps progress turn action memory returned =>
    exact (field_kept field plans (progress.act world) self number active turn action memory).trans
      (stirred (Script.stirs_of_advance returned))
  | actingFails script finished active pending steps progress turn cause memory returned =>
    exact (field_applyEffects field keeps _ self number _).trans
      ((field_dropped field plans (progress.act world) self number active pending turn).trans
        (stirred (Script.stirs_of_advance returned)))
  | actingPanics script finished active pending steps progress turn cause panicked
  | partingPanics script finished pending effects actions turn cause panicked =>
    exact stirred (Script.stirs_of_advance panicked)
  | actingGoesOn script finished active pending steps progress turn wait rest blocked
  | partingGoesOn script finished pending effects actions turn wait rest blocked =>
    exact stirred (Script.stirs_of_advance blocked)
  | retires effects actions =>
    exact field_modifyAgent field _ self number _ (keeps _ _ _ _ _ [] [] _ _ true)
  | partingReturns script finished pending effects actions turn action memory returned
  | partingFails script finished pending effects actions turn cause memory returned =>
    exact stirred (Script.stirs_of_advance returned)

end

end World

end Deliberation
