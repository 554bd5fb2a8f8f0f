import Deliberation.Proofs.Deeds
import Deliberation.Proofs.Membership
import Deliberation.Proofs.Wire.Deliveries

/-!
# Where a message goes

A delivery tries one receiver after the other. In between it takes out registrations that lead
nowhere, and it wakes the agents that it reaches; neither changes whom a later copy reaches
(`World.reached?`). So what becomes of every copy can be read off the world before the delivery:
the letters of an agent (`letter?`), the requests to schedule it (`request?`) and the failures
(`failure?`). `Routed` says that a delivery does just that, and `deliverAll_routed` that every
delivery is routed, also when the wire changes between the copies (`deliverOver`).
-/

namespace Deliberation

variable {V : Vocabulary}

/-- A copy of a message on its way: whom it is for, and the wire it passes. -/
structure Parcel where
  receiver : AgentId
  wire : Option Codec

/-- What comes out of the wire. -/
def Parcel.carried (parcel : Parcel) (message : Message) : Except CodecError Message :=
  match parcel.wire with
  | none => .ok message
  | some codec => codec.carry message

namespace World

/-- The agent that a message to a receiver reaches: the registered one, while anything holds it. -/
def reached? (world : World V) (receiver : AgentId) : Option BirthNumber :=
  (AgentIndex.find? world.messenger.entries receiver).filter world.isAlive

/-- What an agent gets of a copy. -/
def letter? (world : World V) (message : Message) (number : BirthNumber) (parcel : Parcel) :
    Option Message :=
  if world.reached? parcel.receiver = some number then (parcel.carried message).toOption else none

/-- What an agent gets of all copies, in their order. -/
def letters (world : World V) (message : Message) (number : BirthNumber)
    (parcels : List Parcel) : List Message :=
  parcels.filterMap (world.letter? message number)

/-- Why a copy does not arrive. Whether there is a receiver comes before what the wire makes of the
copy. -/
def failure? (world : World V) (message : Message) (parcel : Parcel) : Option MessengerError :=
  match world.reached? parcel.receiver with
  | none => some (.unknownReceiver parcel.receiver)
  | some _ =>
    match parcel.carried message with
    | .ok _ => none
    | .error cause => some (.encoding cause.message)

/-- Whether the executor schedules an agent when it is woken. -/
def isRousable (world : World V) (number : BirthNumber) : Bool :=
  !(world.agent number).done && (world.agent number).scheduler == some .executor

/-- What a recorder journals when it is asked to schedule an agent. -/
def wakeCall? (world : World V) (number : BirthNumber) : Option (JournalEntry V) :=
  match (world.agent number).done, (world.agent number).scheduler with
  | false, some (.recorder _) => some (.scheduled (world.agent number).id)
  | _, _ => none

/-- What is journaled for a copy. -/
def request? (world : World V) (message : Message) (parcel : Parcel) : Option (JournalEntry V) :=
  (world.reached? parcel.receiver).bind fun number =>
    (world.letter? message number parcel).bind fun _ => world.wakeCall? number

/-- The delivery of copies, each over a wire of its own. -/
def deliverOver (world : World V) (message : Message) :
    List Parcel → World V × Except MessengerError Unit
  | [] => (world, .ok ())
  | parcel :: rest =>
    let (world, outcome) := (world.withCodec parcel.wire).deliverTo parcel.receiver message
    let (world, later) := deliverOver world message rest
    (world, firstError outcome later)

/-- What a delivery of copies makes of a world, told from the world before. -/
structure Routed (before : World V) (message : Message) (parcels : List Parcel)
    (after : World V) (outcome : Except MessengerError Unit) : Prop where
  /-- Nothing but agents, schedule, journal and registrations changes. -/
  frame : ∃ agents schedule journal messenger, after =
    { before with agents, executor := { before.executor with schedule }, journal, messenger }
  size : after.agents.size = before.agents.size
  /-- Every agent gets its letters behind its other messages, and nothing else of it changes. -/
  agent : ∀ number < before.agents.size, after.agent number =
    { before.agent number with
      inbox := { (before.agent number).inbox with
        messages := (before.agent number).inbox.messages ++
          (before.letters message number parcels).map .message } }
  /-- Whoever got a letter is put into the schedule, and nobody else. -/
  schedule : ∀ id, AgentIndex.find? after.executor.schedule id =
    ((before.reached? id).filter fun number =>
      before.isRousable number && !(before.letters message number parcels).isEmpty).or
        (AgentIndex.find? before.executor.schedule id)
  /-- Recorders are asked once for each letter. -/
  journal : after.journal.toList =
    before.journal.toList ++ parcels.filterMap (before.request? message)
  /-- Every identity leads to the same agent as before. -/
  reached : after.reached? = before.reached?
  /-- The first failure is reported. -/
  reports : outcome = (parcels.findSome? (before.failure? message)).elim (.ok ()) .error

/-- The registrations are those of a registry: at most one for each identity, under which the agent
goes by. The schedule keeps to the same identities. -/
structure Addressed (world : World V) : Prop extends World.Timetable world where
  routing : world.messenger.routing = .registry
  listed : AgentIndex.Ordered world.messenger.entries
  named : ∀ {id number}, (id, number) ∈ world.messenger.entries →
    number < world.agents.size ∧ (world.agent number).id = id

/-! ## Who is alive -/

namespace Timetable

variable {world : World V}

/-- An agent is scheduled when it is found under its identity. -/
theorem contains_values (timetable : world.Timetable) (number : BirthNumber) :
    world.executor.schedule.values.contains number =
      decide (AgentIndex.find? world.executor.schedule (world.agent number).id = some number) := by
  rw [Bool.eq_iff_iff, List.contains_iff_mem, decide_eq_true_iff, AgentIndex.values, List.mem_map]
  constructor
  · rintro ⟨⟨id, reached⟩, member, rfl⟩
    rw [(timetable.entry member).2]
    exact AgentIndex.find?_of_mem timetable.ordered member
  · intro found
    exact ⟨_, AgentIndex.mem_of_find? found, rfl⟩

/-- Scheduling an agent can only cost the life of another one with its identity. -/
theorem isAlive_arrive (timetable : world.Timetable) {number other : BirthNumber}
    (arrival : Arrival V) (alive : world.isAlive number = true)
    (apart : (world.agent other).id = (world.agent number).id → other = number) :
    (world.arrive number arrival).isAlive other = world.isAlive other := by
  have scheduled : other ≠ number →
      (world.arrive number arrival).executor.schedule.values.contains other =
        world.executor.schedule.values.contains other := by
    intro different
    have distinct := mt apart different
    rw [(timetable.arrive number arrival).contains_values, timetable.contains_values,
      (world.arrive_frame number arrival).id, world.schedule_arrive]
    split
    · rw [AgentIndex.find?_insert, if_neg distinct]
    · rfl
  have stays : world.executor.schedule.values.contains number = true →
      (world.arrive number arrival).executor.schedule.values.contains number = true := by
    rw [(timetable.arrive number arrival).contains_values, timetable.contains_values,
      (world.arrive_frame number arrival).id, world.schedule_arrive]
    intro found
    split
    · simp
    · exact found
  obtain ⟨agents, schedule, journal, arrived⟩ := world.arrive_eq number arrival
  rw [arrived] at scheduled stays ⊢
  by_cases same : other = number
  · subst same
    rw [alive]
    simp only [isAlive, Bool.or_eq_true] at alive ⊢
    tauto
  · simp only [isAlive] at scheduled ⊢
    rw [scheduled same]

end Timetable

/-- Registrations in a registry keep nobody alive. -/
theorem isAlive_withEntries {world : World V} (routing : world.messenger.routing = .registry)
    (entries : List (AgentId × BirthNumber)) :
    (world.withEntries entries).isAlive = world.isAlive := by
  funext number
  simp only [isAlive, withEntries, routing]
  rfl

/-- An agent is roused if it is not done and asks the executor for its cycles. -/
theorem isRousable_iff {world : World V} {number : BirthNumber} :
    world.isRousable number = true ↔
      (world.agent number).done = false ∧ (world.agent number).scheduler = some .executor := by
  simp [isRousable]

/-- A recorder journals that it was asked. -/
theorem toList_journal_arrive (world : World V) (number : BirthNumber) (arrival : Arrival V) :
    (world.arrive number arrival).journal.toList =
      world.journal.toList ++ (world.wakeCall? number).toList := by
  have done := field_modifyAgent Agent.done world number number
    (fun agent => { agent with inbox := agent.inbox.receive arrival }) rfl
  have scheduler := field_modifyAgent Agent.scheduler world number number
    (fun agent => { agent with inbox := agent.inbox.receive arrival }) rfl
  have id := field_modifyAgent Agent.id world number number
    (fun agent => { agent with inbox := agent.inbox.receive arrival }) rfl
  simp only [arrive, wake, wakeCall?, done, scheduler, id]
  cases (world.agent number).done with
  | true => exact (List.append_nil _).symm
  | false =>
    cases (world.agent number).scheduler with
    | none => exact (List.append_nil _).symm
    | some scheduler =>
      cases scheduler with
      | executor => exact (List.append_nil _).symm
      | recorder accepts => simp [log, modifyAgent]

/-! ## One copy -/

namespace Addressed

variable {world : World V} {message : Message} {parcel : Parcel} {number : BirthNumber}
  {receiver : AgentId}

/-- Who is reached is alive and goes by the identity of the receiver. -/
theorem alive_of_reached (addressed : world.Addressed)
    (reached : world.reached? receiver = some number) :
    world.isAlive number = true ∧ number < world.agents.size ∧
      (world.agent number).id = receiver := by
  obtain ⟨found, alive⟩ := Option.filter_eq_some_iff.mp reached
  exact ⟨alive, addressed.named (AgentIndex.mem_of_find? found)⟩

/-- Another codec leaves agents and addresses. -/
theorem withCodec (addressed : world.Addressed) (codec : Option Codec) :
    (world.withCodec codec).Addressed :=
  { ordered := addressed.ordered, entry := addressed.entry, routing := addressed.routing,
    listed := addressed.listed, named := addressed.named }

/-- Deregistering leaves the agents that are still registered under their identities. -/
theorem deregister (addressed : world.Addressed) (receiver : AgentId) :
    (world.deregister receiver).Addressed :=
  { ordered := addressed.ordered, entry := addressed.entry, routing := addressed.routing
    listed := AgentIndex.ordered_erase addressed.listed receiver
    named := fun member => addressed.named (List.mem_of_mem_filter member) }

/-- An arrival leaves agents and addresses. -/
theorem arrive (addressed : world.Addressed) (number : BirthNumber) (arrival : Arrival V) :
    (world.arrive number arrival).Addressed :=
  { addressed.toTimetable.arrive number arrival with
    routing := (world.messenger_arrive number arrival).symm ▸ addressed.routing
    listed := (world.messenger_arrive number arrival).symm ▸ addressed.listed
    named := by
      intro id other member
      rw [messenger_arrive] at member
      rw [(world.arrive_frame number arrival).size, (world.arrive_frame number arrival).id]
      exact addressed.named member }

/-- Whom a message reaches does not change when a registration goes that leads nowhere. -/
theorem reached_deregister (addressed : world.Addressed)
    (unreached : world.reached? receiver = none) :
    (world.deregister receiver).reached? = world.reached? := by
  funext id
  unfold reached? at unreached ⊢
  rw [World.deregister, isAlive_withEntries addressed.routing]
  by_cases same : id = receiver
  · simp [withEntries, same, unreached]
  · simp [withEntries, same]

/-- Whom a message reaches does not change when something arrives at one of those it reaches. -/
theorem reached_arrive (addressed : world.Addressed)
    (reached : world.reached? receiver = some number) (arrival : Arrival V) :
    (world.arrive number arrival).reached? = world.reached? := by
  obtain ⟨alive, -, named⟩ := addressed.alive_of_reached reached
  funext id
  unfold reached?
  rw [messenger_arrive]
  cases found : AgentIndex.find? world.messenger.entries id with
  | none => rfl
  | some other =>
    have same : (world.arrive number arrival).isAlive other = world.isAlive other := by
      refine addressed.toTimetable.isAlive_arrive arrival alive fun equal => ?_
      -- Both go by the same identity, under which the registry has one entry.
      rw [(addressed.named (AgentIndex.mem_of_find? found)).2, named] at equal
      obtain ⟨foundReceiver, -⟩ := Option.filter_eq_some_iff.mp reached
      rw [equal, foundReceiver] at found
      exact (Option.some.inj found).symm
    rw [Option.filter_some, Option.filter_some, same]

end Addressed

namespace Routed

variable {before middle after : World V} {message : Message} {parcel : Parcel}
  {parcels rest : List Parcel} {outcome later : Except MessengerError Unit} {number : BirthNumber}

/-- Without parcels nothing is routed. -/
theorem refl (world : World V) (message : Message) : world.Routed message [] world (.ok ()) where
  frame := ⟨_, _, _, _, rfl⟩
  size := rfl
  agent := by simp [letters]
  schedule := by simp [letters]
  journal := by simp
  reached := rfl
  reports := rfl

/-- Whoever is not told otherwise keeps what is no inbox. -/
theorem field {α : Type} (routed : before.Routed message parcels after outcome)
    (field : Agent V → α)
    (keeps : ∀ (agent : Agent V) (inbox : Inbox V), field { agent with inbox } = field agent)
    (number : BirthNumber) : field (after.agent number) = field (before.agent number) := by
  by_cases inside : number < before.agents.size
  · rw [routed.agent number inside, keeps]
  · have outside := Nat.le_of_not_lt inside
    rw [agent_outside before outside, agent_outside after (routed.size ▸ outside)]

/-- Routing leaves what the codec makes of a message. -/
theorem letter_eq (routed : before.Routed message parcels after outcome) :
    after.letter? message = before.letter? message := by
  funext number parcel
  rw [letter?, letter?, routed.reached]

/-- Routing leaves whether the codec fails. -/
theorem failure_eq (routed : before.Routed message parcels after outcome) :
    after.failure? message = before.failure? message := by
  funext parcel
  rw [failure?, failure?, routed.reached]

/-- Routing leaves which agents can be roused. -/
theorem isRousable_eq (routed : before.Routed message parcels after outcome) :
    after.isRousable = before.isRousable := by
  funext number
  rw [isRousable, isRousable, routed.field Agent.done fun _ _ => rfl,
    routed.field Agent.scheduler fun _ _ => rfl]

/-- Routing leaves which request a parcel brings to the schedule. -/
theorem request_eq (routed : before.Routed message parcels after outcome) :
    after.request? message = before.request? message := by
  funext parcel
  simp only [request?, wakeCall?, routed.reached, routed.letter_eq,
    routed.field Agent.done fun _ _ => rfl, routed.field Agent.scheduler fun _ _ => rfl,
    routed.field Agent.id fun _ _ => rfl]

/-- Deliveries one after the other are one delivery. -/
theorem trans (first : before.Routed message parcels middle outcome)
    (second : middle.Routed message rest after later) :
    before.Routed message (parcels ++ rest) after (firstError outcome later) where
  frame := by
    obtain ⟨_, _, _, _, changed⟩ := first.frame
    obtain ⟨_, _, _, _, changedAgain⟩ := second.frame
    rw [changedAgain, changed]
    exact ⟨_, _, _, _, rfl⟩
  size := second.size.trans first.size
  agent := by
    intro number inside
    rw [second.agent number (first.size ▸ inside), first.agent number inside]
    simp only [letters, first.letter_eq, List.filterMap_append, List.map_append, List.append_assoc]
  schedule := by
    intro id
    rw [second.schedule, first.schedule, first.reached, first.isRousable_eq]
    cases before.reached? id with
    | none => rfl
    | some number =>
      simp only [letters, first.letter_eq, List.filterMap_append, Option.filter_some]
      cases before.isRousable number <;>
        cases parcels.filterMap (before.letter? message number) <;>
        cases rest.filterMap (before.letter? message number) <;> rfl
  journal := by
    rw [second.journal, first.journal, first.request_eq, List.filterMap_append, List.append_assoc]
  reached := second.reached.trans first.reached
  reports := by
    rw [second.reports, first.reports, first.failure_eq, List.findSome?_append]
    cases parcels.findSome? (before.failure? message) <;> rfl

/-- Which wire is in use afterwards does not matter. -/
theorem withCodec (routed : before.Routed message parcels after outcome) (codec : Option Codec) :
    before.Routed message parcels (after.withCodec codec) outcome :=
  { routed with
    frame := by
      obtain ⟨_, _, _, _, changed⟩ := routed.frame
      rw [changed]
      exact ⟨_, _, _, _, rfl⟩ }

/-- A copy for somebody unknown takes out a registration that leads nowhere. -/
theorem of_unreached (addressed : before.Addressed)
    (unreached : before.reached? parcel.receiver = none) :
    before.Routed message [parcel] (before.deregister parcel.receiver)
      (.error (.unknownReceiver parcel.receiver)) where
  frame := ⟨_, _, _, _, rfl⟩
  size := rfl
  agent := by simp [letters, letter?, unreached, deregister, withEntries, World.agent]
  schedule := by simp [letters, letter?, unreached, deregister, withEntries]
  journal := by simp [request?, unreached, deregister, withEntries]
  reached := addressed.reached_deregister unreached
  reports := by simp [failure?, unreached]

/-- A copy that the wire refuses changes nothing. -/
theorem of_refused {cause : CodecError} (reached : before.reached? parcel.receiver = some number)
    (refused : parcel.carried message = .error cause) :
    before.Routed message [parcel] before (.error (.encoding cause.message)) where
  frame := ⟨_, _, _, _, rfl⟩
  size := rfl
  agent := by simp [letters, letter?, refused, Except.toOption]
  schedule := by simp [letters, letter?, refused, Except.toOption]
  journal := by simp [request?, letter?, refused, Except.toOption]
  reached := rfl
  reports := by simp [failure?, reached, refused]

/-- A copy that the wire accepts arrives. -/
theorem of_accepted {content : Message} (addressed : before.Addressed)
    (reached : before.reached? parcel.receiver = some number)
    (accepted : parcel.carried message = .ok content) :
    before.Routed message [parcel] (before.arrive number (.message content)) (.ok ()) where
  frame := by
    obtain ⟨_, _, _, arrived⟩ := before.arrive_eq number (.message content)
    rw [arrived]
    exact ⟨_, _, _, _, rfl⟩
  size := before.size_arrive ..
  agent := by
    intro other inside
    by_cases same : other = number
    · subst same
      rw [agent_arrive_self _ _ inside]
      simp [letters, letter?, reached, accepted, Except.toOption, Inbox.receive]
    · rw [agent_arrive_of_ne _ _ same]
      simp [letters, letter?, reached, Ne.symm same]
  schedule := by
    intro id
    obtain ⟨-, -, named⟩ := addressed.alive_of_reached reached
    have letter : before.letters message number [parcel] = [content] := by
      simp [letters, letter?, reached, accepted, Except.toOption]
    rw [schedule_arrive, named]
    by_cases same : id = parcel.receiver
    · subst same
      rw [reached, Option.filter_some, letter]
      by_cases rousable : before.isRousable number = true
      · rw [if_pos (isRousable_iff.mp rousable), AgentIndex.find?_insert, if_pos rfl]
        simp [rousable]
      · rw [if_neg (mt isRousable_iff.mpr rousable)]
        simp [rousable]
    · have passed : (before.reached? id).filter (fun other =>
          before.isRousable other && !(before.letters message other [parcel]).isEmpty) = none := by
        rw [Option.filter_eq_none_iff]
        intro other found
        have different : number ≠ other := by
          rintro rfl
          exact same ((addressed.alive_of_reached found).2.2.symm.trans named)
        simp [letters, letter?, reached, different]
      rw [passed, Option.none_or]
      split
      · rw [AgentIndex.find?_insert, if_neg same]
      · rfl
  journal := by
    have request : before.request? message parcel = before.wakeCall? number := by
      simp [request?, letter?, reached, accepted, Except.toOption]
    rw [toList_journal_arrive, List.filterMap_cons, request]
    cases before.wakeCall? number <;> rfl
  reached := addressed.reached_arrive reached _
  reports := by simp [failure?, reached, accepted]

end Routed

/-- One copy is routed, whatever becomes of it. -/
theorem Addressed.deliverTo_routed {world : World V} (addressed : world.Addressed)
    (message : Message) (parcel : Parcel) :
    world.Routed message [parcel]
        ((world.withCodec parcel.wire).deliverTo parcel.receiver message).1
        ((world.withCodec parcel.wire).deliverTo parcel.receiver message).2 ∧
      ((world.withCodec parcel.wire).deliverTo parcel.receiver message).1.Addressed := by
  simp only [deliverTo, routing_withCodec, addressed.routing, entries_withCodec,
    isAlive_withCodec, codec_withCodec]
  cases reached : world.reached? parcel.receiver with
  | none =>
    rw [reached?] at reached
    rw [reached]
    exact ⟨(Routed.of_unreached addressed reached).withCodec _,
      (addressed.deregister _).withCodec _⟩
  | some number =>
    have found := reached
    rw [reached?] at found
    rw [found]
    cases carried : parcel.carried message with
    | ok content =>
      have arrives := (Routed.of_accepted addressed reached carried).withCodec parcel.wire
      have stays := (addressed.arrive number (.message content)).withCodec parcel.wire
      simp only [arrive_withCodec]
      cases wire : parcel.wire with
      | none =>
        rw [Parcel.carried, wire] at carried
        cases carried
        rw [wire] at arrives stays
        exact ⟨arrives, stays⟩
      | some codec =>
        rw [Parcel.carried, wire] at carried
        rw [wire] at arrives stays
        simp only [carried]
        exact ⟨arrives, stays⟩
    | error cause =>
      have refused := (Routed.of_refused reached carried).withCodec parcel.wire
      have stays := addressed.withCodec parcel.wire
      cases wire : parcel.wire with
      | none =>
        rw [Parcel.carried, wire] at carried
        cases carried
      | some codec =>
        rw [Parcel.carried, wire] at carried
        rw [wire] at refused stays
        simp only [carried]
        exact ⟨refused, stays⟩

/-- All copies are routed. -/
theorem Addressed.deliverOver_routed (message : Message) (parcels : List Parcel) {world : World V}
    (addressed : world.Addressed) :
    world.Routed message parcels (world.deliverOver message parcels).1
        (world.deliverOver message parcels).2 ∧
      (world.deliverOver message parcels).1.Addressed := by
  induction parcels generalizing world with
  | nil => exact ⟨.refl world message, addressed⟩
  | cons parcel rest hypothesis =>
    obtain ⟨first, stays⟩ := addressed.deliverTo_routed message parcel
    obtain ⟨later, staysOn⟩ := hypothesis stays
    exact ⟨first.trans later, staysOn⟩

/-! ## How registries come about -/

namespace Addressed

variable {world : World V}

/-- A new world has nobody who could be addressed wrongly. -/
theorem new (settings : ExecutorSettings) (codec : Option Codec) :
    (World.new settings (.new codec) : World V).Addressed :=
  { Timetable.empty rfl with
    routing := rfl, listed := AgentIndex.ordered_nil, named := fun member => nomatch member }

/-- A new agent leaves the addresses of the others. -/
theorem create (addressed : world.Addressed) (id : AgentId) (design : Design V)
    (scheduler : Option Scheduler) (connected : Bool) :
    (world.create id design scheduler connected).1.Addressed := by
  have older : ∀ other < world.agents.size,
      other < (world.create id design scheduler connected).1.agents.size ∧
        ((world.create id design scheduler connected).1.agent other).id =
          (world.agent other).id := by
    intro other inside
    rw [size_born rfl, agent_create_of_lt world _ _ _ _ inside]
    exact ⟨Nat.lt_succ_of_lt inside, rfl⟩
  refine { addressed.toTimetable.keep older rfl with
    routing := addressed.routing, listed := addressed.listed, named := ?_ }
  intro id' number member
  obtain ⟨inside, named⟩ := addressed.named member
  exact ⟨(older number inside).1, (older number inside).2.trans named⟩

/-- Registering an agent enters it under its identity. -/
theorem register (addressed : world.Addressed) {number : BirthNumber}
    (inside : number < world.agents.size) : (world.register number).Addressed := by
  rw [register_of_registry world number addressed.routing]
  refine { ordered := addressed.ordered, entry := addressed.entry, routing := addressed.routing
           listed := AgentIndex.ordered_insert _ _ addressed.listed, named := ?_ }
  intro id other member
  rcases AgentIndex.mem_of_mem_insert member with new | old
  · cases new
    exact ⟨inside, rfl⟩
  · exact addressed.named old

end Addressed

/-! ## Copies over one wire, and who is registered -/

/-- A delivery sends all copies over the wire of the messenger. -/
theorem deliverAll_eq_deliverOver (message : Message) (receivers : List AgentId)
    (world : World V) :
    world.deliverAll message receivers =
      world.deliverOver message (receivers.map (⟨·, world.messenger.codec⟩)) := by
  induction receivers generalizing world with
  | nil => rfl
  | cons receiver rest hypothesis =>
    simp only [deliverAll, deliverOver, List.map_cons, withCodec_self rfl, hypothesis,
      codec_deliverTo]

namespace Addressed

variable {world next : World V}

/-- Registered are those that a message can reach. -/
theorem mem_registered (addressed : world.Addressed) {id : AgentId} :
    id ∈ world.registered ↔ ∃ number, world.reached? id = some number := by
  simp only [registered, addressed.routing, List.mem_map, List.mem_filter, reached?,
    Option.filter_eq_some_iff]
  constructor
  · rintro ⟨⟨other, number⟩, ⟨member, alive⟩, rfl⟩
    exact ⟨number, AgentIndex.find?_of_mem addressed.listed member, alive⟩
  · rintro ⟨number, found, alive⟩
    exact ⟨(id, number), ⟨AgentIndex.mem_of_find? found, alive⟩, rfl⟩

/-- Those that a message can reach are listed in ascending order. -/
theorem ordered_registered (addressed : world.Addressed) :
    AgentIndex.Ordered
      (world.messenger.entries.filter fun (_, number) => world.isAlive number) :=
  List.Pairwise.sublist (List.filter_sublist.map _) addressed.listed

/-- No identity is registered twice. -/
theorem nodup_registered (addressed : world.Addressed) : world.registered.Nodup := by
  simp only [registered, addressed.routing]
  exact addressed.ordered_registered.nodup

/-- Where every identity leads to the same agents, the same are registered. -/
theorem registered_congr (addressed : world.Addressed) (addressed' : next.Addressed)
    (same : next.reached? = world.reached?) : next.registered = world.registered := by
  have members : ∀ id, id ∈ next.registered ↔ id ∈ world.registered := by
    intro id
    rw [addressed'.mem_registered, addressed.mem_registered, same]
  simp only [registered, addressed.routing, addressed'.routing] at members ⊢
  exact AgentIndex.agents_eq_of_mem_iff addressed'.ordered_registered addressed.ordered_registered
    members

end Addressed

/-! ## Whole deliveries -/

/-- A delivery to all receivers of a message: every copy is routed, whatever becomes of the
others. -/
structure Delivered (before : World V) (message : Message) (parcels : List Parcel)
    (after : World V) (outcome : Except MessengerError Unit) : Prop
    extends before.Routed message parcels after outcome where
  registered : after.registered = before.registered
  /-- A delivery succeeds when every copy has a receiver and passes its wire. -/
  succeeds : outcome = .ok () ↔ ∀ parcel ∈ parcels,
    ∃ number content, before.reached? parcel.receiver = some number ∧
      parcel.carried message = .ok content
  /-- Who is not listed gets nothing. -/
  others : ∀ number < before.agents.size,
    (before.agent number).id ∉ parcels.map Parcel.receiver →
      after.agent number = before.agent number

/-- Copies fail where nobody is reached or the wire refuses. -/
theorem failure_eq_none_iff {world : World V} {message : Message} {parcel : Parcel} :
    world.failure? message parcel = none ↔
      ∃ number content, world.reached? parcel.receiver = some number ∧
        parcel.carried message = .ok content := by
  unfold failure?
  cases world.reached? parcel.receiver with
  | none => simp
  | some number => cases parcel.carried message <;> simp

/-- Delivering to a list of receivers, with what becomes of each of them. -/
theorem Addressed.deliverOver_delivered {world : World V} (addressed : world.Addressed)
    (message : Message) (parcels : List Parcel) :
    world.Delivered message parcels (world.deliverOver message parcels).1
      (world.deliverOver message parcels).2 := by
  obtain ⟨routed, stays⟩ := addressed.deliverOver_routed message parcels
  refine { routed with registered := ?registered, succeeds := ?succeeds, others := ?others }
  case registered => exact addressed.registered_congr stays routed.reached
  case succeeds =>
    simp only [← failure_eq_none_iff, ← List.findSome?_eq_none_iff, routed.reports]
    cases parcels.findSome? (world.failure? message) <;> simp
  case others =>
    intro number inside unlisted
    have nothing : world.letters message number parcels = [] := by
      rw [letters, List.filterMap_eq_nil_iff]
      intro parcel member
      rw [letter?, if_neg]
      intro reached
      rw [(addressed.alive_of_reached reached).2.2] at unlisted
      exact unlisted (List.mem_map_of_mem member)
    rw [routed.agent number inside, nothing]
    simp

/-- A message goes to its listed receivers, as often as they are listed; a message without any goes
once to everybody who is registered but its sender. Every copy is routed on its own, whether the
wire stays the same, as it does in `deliver`, or changes between the copies. -/
theorem Addressed.delivery {world : World V} (addressed : world.Addressed) (message : Message) :
    world.deliver message =
        world.deliverOver message
          ((world.receivers message).map (⟨·, world.messenger.codec⟩)) ∧
      (message.receivers ≠ [] → world.receivers message = message.receivers) ∧
      (message.receivers = [] → (world.receivers message).Nodup ∧
        ∀ id, id ∈ world.receivers message ↔
          id ≠ message.sender ∧ ∃ number, world.reached? id = some number) ∧
      ∀ parcels : List Parcel, parcels.map Parcel.receiver = world.receivers message →
        world.Delivered message parcels (world.deliverOver message parcels).1
          (world.deliverOver message parcels).2 := by
  refine ⟨?deliver, ?listed, ?broadcast, ?delivered⟩
  case deliver => exact deliverAll_eq_deliverOver message _ world
  case listed =>
    intro some
    rw [receivers, Message.isBroadcast, List.isEmpty_eq_false_iff.mpr some]
    rfl
  case broadcast =>
    intro none
    have all : world.receivers message = world.registered.filter (· != message.sender) := by
      rw [receivers, Message.isBroadcast, none]
      rfl
    rw [all]
    refine ⟨addressed.nodup_registered.filter _, fun id => ?_⟩
    rw [List.mem_filter, addressed.mem_registered, bne_iff_ne, and_comm]
  case delivered =>
    intro parcels _
    exact addressed.deliverOver_delivered message parcels

end World

/-! ## A delivery in which everything happens -/

namespace Market

/-- A listener comes that can be reached by messages. -/
def join (world : World vocabulary) (id : AgentId) : World vocabulary :=
  let (world, number) := world.create id listener (some .executor) true
  world.register number

/-- Three listeners, and a fourth one that nothing holds any more. -/
def exchange : World vocabulary :=
  let empty := World.new { poolSize := 1, seed := none, unitTimeout := none } (.new none)
  let world := ([1, 2, 3, 4].map AgentId.ofNat).foldl join empty
  { world with handles := [(AgentId.ofNat 1, 0), (AgentId.ofNat 2, 1), (AgentId.ofNat 3, 2)] }

/-- A message of the first listener, which lists the second one twice and itself. -/
def memo : Message :=
  { Message.broadcast (AgentId.ofNat 1) "memo" with
    receivers := [2, 4, 3, 2, 1].map AgentId.ofNat }

/-- A wire that refuses every message. -/
def refusing : Codec :=
  { encode := fun _ => .error (.encode "refused"), decode := fun _ => .error (.decode "refused") }

/-- A wire that loses the content. -/
def garbling : Codec :=
  { encode := fun _ => .ok [], decode := fun _ => .ok { memo with content := "" } }

/-- The copies of the message, over wires that change. -/
def parcels : List Parcel :=
  [⟨AgentId.ofNat 2, none⟩, ⟨AgentId.ofNat 4, none⟩, ⟨AgentId.ofNat 3, some refusing⟩,
    ⟨AgentId.ofNat 2, some garbling⟩, ⟨AgentId.ofNat 1, none⟩]

/-- The contents of the messages that wait for an agent. -/
def mailbox (world : World vocabulary) (number : BirthNumber) : List String :=
  ((world.agent number).inbox.messages.filterMap Trigger.message?).map Message.content

/-- The agents of the exchange are registered under their identities. -/
theorem exchange_addressed : exchange.Addressed := by
  have opened : (World.new { poolSize := 1, seed := none, unitTimeout := none } (.new none) :
      World vocabulary).Addressed := .new ..
  have joined : ∀ {world : World vocabulary}, world.Addressed → ∀ id, (join world id).Addressed :=
    fun addressed id => (addressed.create id listener _ true).register
      (by rw [World.size_born rfl]; exact Nat.lt_succ_self _)
  have all := joined (joined (joined (joined opened (.ofNat 1)) (.ofNat 2)) (.ofNat 3)) (.ofNat 4)
  exact { all with }

end Market

/-- The second listener gets both copies and the first one its own; that the fourth one is gone is
reported, and not that the wire refused the copy for the third one. -/
theorem World.Addressed.delivery_exchange :
    Market.exchange.Addressed ∧
      Market.parcels.map Parcel.receiver = Market.exchange.receivers Market.memo ∧
      ∃ after outcome,
        Market.exchange.Delivered Market.memo Market.parcels after outcome ∧
        outcome = .error (.unknownReceiver (AgentId.ofNat 4)) ∧
        [0, 1, 2].map (Market.mailbox after) = [["memo"], ["memo", ""], []] ∧
        after.executor.schedule = [(AgentId.ofNat 1, 0), (AgentId.ofNat 2, 1)] ∧
        after.registered = [1, 2, 3].map AgentId.ofNat := by
  obtain ⟨-, -, -, routed⟩ := Market.exchange_addressed.delivery Market.memo
  have delivered := routed Market.parcels (by decide +kernel)
  exact ⟨Market.exchange_addressed, by decide +kernel, _, _, delivered, by decide +kernel,
    by decide +kernel, by decide +kernel, by decide +kernel⟩

end Deliberation
