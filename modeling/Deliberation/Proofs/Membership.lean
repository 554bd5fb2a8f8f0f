import Deliberation.Proofs.Deeds
import Deliberation.Proofs.Durability
import Deliberation.Proofs.Flight

/-!
# Who takes part and who can be reached

A platform keeps two books: its registry of the agents that take part, and the registrations of its
messenger. They are written one after the other, and a message to somebody unknown writes into the
second one as well. A world is `Tallied` when both books list the same agents under the same
identities. No stride of a cycle changes either book of such a world, and every operation changes
both alike; so the books agree throughout a run (`Membership.Reachable.registries_agree`), whether
or not identities are used again.
-/

namespace Deliberation

variable {V : Vocabulary}

/-! ## Indices that lose entries -/

namespace AgentIndex

variable {α : Type}

/-- An ordered index stays ordered without one of its agents. -/
theorem ordered_erase {index : AgentIndex α} (ordered : index.Ordered) (agent : AgentId) :
    Ordered (index.erase agent) :=
  List.Pairwise.sublist (List.filter_sublist.map _) ordered

/-- To take out nobody changes nothing. -/
theorem erase_of_absent {index : AgentIndex α} {agent : AgentId}
    (absent : index.find? agent = none) : index.erase agent = index := by
  unfold erase
  rw [List.filter_eq_self]
  rintro ⟨other, value⟩ member
  rw [bne_iff_ne]
  rintro rfl
  have contained : index.contains other = true :=
    contains_iff.mpr (List.mem_map_of_mem (f := Prod.fst) member)
  simp [contains, absent] at contained

/-- An ordered index stays ordered without some of its agents. -/
theorem ordered_eraseAll {index : AgentIndex α} (ordered : index.Ordered) (agents : List AgentId) :
    Ordered (agents.foldl erase index) := by
  induction agents generalizing index with
  | nil => exact ordered
  | cons agent rest ih => exact ih (ordered_erase ordered agent)

/-- Erasing agents from an index erases these and no others. -/
theorem find?_foldl_erase (agents : List AgentId) (index : AgentIndex α) (agent : AgentId) :
    find? (agents.foldl erase index) agent = if agent ∈ agents then none else find? index agent := by
  induction agents generalizing index with
  | nil => simp
  | cons erased rest ih =>
    rw [List.foldl_cons, ih, find?_erase]
    by_cases same : agent = erased <;> by_cases inRest : agent ∈ rest <;> simp [same, inRest]

/-- Those that are found are listed. -/
theorem find?_isSome_iff {index : AgentIndex α} {agent : AgentId} :
    (∃ value, index.find? agent = some value) ↔ agent ∈ index.agents := by
  rw [← contains_iff, contains, Option.isSome_iff_exists]

end AgentIndex

namespace World

/-- Deregistering agents erases their entries from the registry. -/
theorem deregisterAll_eq (ids : List AgentId) (world : World V) :
    ids.foldl deregister world =
      world.withEntries (ids.foldl AgentIndex.erase world.messenger.entries) := by
  induction ids generalizing world with
  | nil => rfl
  | cons id rest ih =>
    rw [List.foldl_cons, ih]
    rfl

/-- What is taken out of the registry is taken out of the messenger. -/
theorem reap_eq (world : World V) :
    world.reap =
      ((world.withRegistry (world.reap.2.foldl AgentIndex.erase world.registry)).withEntries
        (world.reap.2.foldl AgentIndex.erase world.messenger.entries), world.reap.2) := by
  unfold reap
  simp only [deregisterAll_eq]
  rfl

/-- The registry and the messenger list the same agents, each under its identity, and every agent can
send messages. -/
structure Tallied (world : World V) : Prop where
  routing : world.messenger.routing = .registry
  entries : world.messenger.entries = world.registry
  ordered : world.registry.Ordered
  named : ∀ {id number}, world.registry.find? id = some number →
    number < world.agents.size ∧ (world.agent number).id = id
  connected : ∀ number < world.agents.size, (world.agent number).connected = true

namespace Tallied

variable {world next : World V} {receiver : AgentId} {message : Message}

/-- A world without agents. -/
theorem new (settings : ExecutorSettings) (codec : Option Codec) :
    (World.new settings (.new codec) : World V).Tallied where
  routing := rfl
  entries := rfl
  ordered := AgentIndex.ordered_nil
  named := nofun
  connected := fun _ inside => absurd inside (Nat.not_lt_zero _)

/-- Neither book is touched, and the agents stay who they are. -/
theorem keep (tallied : world.Tallied) (messenger : next.messenger = world.messenger)
    (frame : world.Frame next)
    (connected : ∀ number, (next.agent number).connected = (world.agent number).connected) :
    next.Tallied where
  routing := messenger ▸ tallied.routing
  entries := by rw [messenger, frame.registry, tallied.entries]
  ordered := frame.registry ▸ tallied.ordered
  named := by
    intro id number found
    rw [frame.registry] at found
    rw [frame.size, frame.id]
    exact tallied.named found
  connected := by
    intro number inside
    rw [frame.size] at inside
    rw [connected]
    exact tallied.connected number inside

/-- What cycles stir leaves the registries tallied. -/
theorem stirs (tallied : world.Tallied) (stirs : Stirs 0 world next)
    (messenger : next.messenger = world.messenger) : next.Tallied :=
  tallied.keep messenger stirs.steady.lasting.frame
    (stirs.field Agent.connected fun _ _ _ _ => rfl)

/-! ### Messages -/

/-- Who takes part is alive, so the messenger finds exactly those who take part. -/
theorem lookup (tallied : world.Tallied) (receiver : AgentId) :
    (AgentIndex.find? world.messenger.entries receiver).filter world.isAlive =
      world.registry.find? receiver := by
  rw [tallied.entries]
  cases found : world.registry.find? receiver with
  | none => rfl
  | some number =>
    have alive : world.isAlive number = true := by
      have held : number ∈ world.registry.values :=
        List.mem_map_of_mem (f := Prod.snd) (AgentIndex.mem_of_find? found)
      simp [isAlive, held]
    simp [alive]

/-- A delivery does not touch the registrations, also when it fails. -/
theorem messenger_deliverTo (tallied : world.Tallied) (receiver : AgentId) (message : Message) :
    (world.deliverTo receiver message).1.messenger = world.messenger := by
  simp only [deliverTo, tallied.routing, tallied.lookup]
  cases found : world.registry.find? receiver with
  | none =>
    have erased : AgentIndex.erase world.messenger.entries receiver = world.messenger.entries :=
      AgentIndex.erase_of_absent (tallied.entries ▸ found)
    simp only [deregister, withEntries, erased]
  | some number =>
    simp only
    split
    · exact world.messenger_arrive number _
    · split
      · exact world.messenger_arrive number _
      · rfl

/-- A delivery fails for want of its receiver exactly when the receiver does not take part. -/
theorem deliverTo_unknown (tallied : world.Tallied) (receiver : AgentId) (message : Message) :
    (world.deliverTo receiver message).2 = .error (.unknownReceiver receiver) ↔
      receiver ∉ world.population := by
  unfold population
  rw [← AgentIndex.find?_isSome_iff]
  simp only [deliverTo, tallied.routing, tallied.lookup]
  cases found : world.registry.find? receiver with
  | none => simp
  | some number =>
    simp only
    split
    · simp
    · split <;> simp

/-- Deliveries to receivers leave the messenger. -/
theorem messenger_deliverAll (tallied : world.Tallied) (message : Message)
    (receivers : List AgentId) :
    (world.deliverAll message receivers).1.messenger = world.messenger := by
  induction receivers generalizing world with
  | nil => rfl
  | cons receiver rest ih =>
    have first := tallied.messenger_deliverTo receiver message
    have delivered := tallied.stirs (world.deliverTo_stirs 0 receiver message) first
    exact (ih delivered).trans first

/-- Sending leaves the messenger. -/
theorem messenger_send (tallied : world.Tallied) (number : BirthNumber) (message : Message) :
    (world.send number message).1.messenger = world.messenger := by
  simp only [send]
  split
  · exact tallied.messenger_deliverAll message _
  · rfl

/-- A message to one listed receiver is one delivery. -/
theorem deliver_single (world : World V) (listed : message.receivers = [receiver]) :
    (world.deliver message).2 = (world.deliverTo receiver message).2 := by
  simp only [deliver, receivers, Message.isBroadcast, listed, deliverAll, List.isEmpty_cons,
    Bool.false_eq_true, if_false]
  cases (world.deliverTo receiver message).2 <;> rfl

/-- An agent that sends has the messenger deliver. -/
theorem send_eq_deliver (tallied : world.Tallied) {number : BirthNumber}
    (inside : number < world.agents.size) (message : Message) :
    world.send number message = world.deliver message := by
  simp only [send, tallied.connected number inside, if_pos]

/-! ### Strides -/

/-- Operations of a script leave the messenger, where the registries are tallied. -/
theorem messenger_advance {self : BirthNumber} {script : Script V} {turn : Turn V}
    (tallied : turn.world.Tallied) :
    (script.advance self turn).turn.world.messenger = turn.world.messenger := by
  cases script with
  | send message next => exact tallied.messenger_send self message
  | reach agent arrival next =>
    simp only [Script.advance]
    split
    · rfl
    · exact turn.world.messenger_arrive _ arrival
  | _ => rfl

/-- An operation of a script leaves the messenger, however the script halts. -/
theorem messenger_of_advance {self : BirthNumber} {script : Script V} {turn : Turn V}
    {halt : Halt V} (tallied : turn.world.Tallied) (advanced : script.advance self turn = halt) :
    halt.turn.world.messenger = turn.world.messenger :=
  advanced ▸ messenger_advance tallied

/-- A sense step leaves the messenger. -/
theorem messenger_senseTriggers (world : World V) (number : BirthNumber) (category : Category)
    (triggers : List (Trigger V)) :
    (world.senseTriggers number category triggers).1.messenger = world.messenger := by
  simp only [senseTriggers]
  split
  · rfl
  · split <;> rfl

/-- Keeping a plan that returned leaves the messenger. -/
theorem messenger_kept (act : Act V) (number : BirthNumber) (active : ActivePlan V) (turn : Turn V)
    (action : Option V.Action) (memory : Nat) :
    (act.kept number active turn action memory).world.messenger = turn.world.messenger := by
  unfold Act.kept
  split <;> rfl

/-- No stride changes the registrations: only messages could, and they find their receivers where the
registry has them. -/
theorem messenger_stride (tallied : world.Tallied) (number : BirthNumber) (phase : Phase V) :
    (world.stride number phase).1.messenger = world.messenger := by
  have strode := world.strode number phase
  generalize world.stride number phase = next at strode ⊢
  cases strode with
  | idles | sensed | passes | begins | parts | rests | takes | concludes | retires => rfl
  | turns after inbox _ drained | wakes after inbox _ drained =>
    exact congrArg (fun drained => drained.1.messenger) drained.symm
  | sweepPanics inbox after panic swept | sweeps inbox after swept =>
    exact congrArg (fun swept => swept.1.messenger) swept.symm
  | sensePanics inbox category steps acts after panic _ senses
  | senses inbox category steps acts after _ senses =>
    have kept := messenger_senseTriggers world number category (world.offered number inbox category)
    rw [senses] at kept
    exact kept
  | actingReturns script finished active pending steps progress turn action memory returned =>
    have ran := messenger_of_advance tallied returned
    exact (messenger_kept (progress.act world) number active turn action memory).trans ran
  | actingFails script finished active pending steps progress turn cause memory returned =>
    exact messenger_of_advance tallied returned
  | actingPanics script finished active pending steps progress turn cause panicked
  | partingPanics script finished pending effects actions turn cause panicked =>
    exact messenger_of_advance tallied panicked
  | actingGoesOn script finished active pending steps progress turn wait rest blocked
  | partingGoesOn script finished pending effects actions turn wait rest blocked =>
    exact messenger_of_advance tallied blocked
  | partingReturns script finished pending effects actions turn action memory returned
  | partingFails script finished pending effects actions turn cause memory returned =>
    exact messenger_of_advance tallied returned

/-- A stride leaves the registries tallied. -/
theorem stride (tallied : world.Tallied) (number : BirthNumber) (phase : Phase V) :
    (world.stride number phase).1.Tallied :=
  tallied.keep (tallied.messenger_stride number phase) (world.stride_moves number phase).frame
    fun other => field_stride Agent.connected (fun _ _ _ _ _ _ _ _ _ _ => rfl) world number other
      phase

/-- Only the agents and the two books matter. -/
theorem congr (tallied : world.Tallied) (agents : next.agents = world.agents)
    (messenger : next.messenger = world.messenger) (registry : next.registry = world.registry) :
    next.Tallied where
  routing := messenger ▸ tallied.routing
  entries := by rw [messenger, registry, tallied.entries]
  ordered := registry ▸ tallied.ordered
  named := by
    intro id number found
    rw [agents, agent_congr agents]
    exact tallied.named (registry ▸ found)
  connected := by
    intro number inside
    rw [agent_congr agents]
    exact tallied.connected number (agents ▸ inside)

/-- Ticks keep the registries tallied. -/
theorem durable : Durable (Tallied : World V → Prop) where
  stride := fun number phase tallied => tallied.stride number phase
  aside := fun _ _ _ _ _ _ tallied => tallied.congr rfl rfl rfl

/-- Counting a tick leaves the registries tallied. -/
theorem ticked (tallied : world.Tallied) (duration : Nat) : (world.ticked duration).Tallied :=
  tallied.congr rfl rfl rfl

/-! ### Operations -/

/-- A newcomer is entered into both books. -/
theorem born (tallied : world.Tallied) {id : AgentId} {design : Design V}
    (agents : next.agents = (world.create id design (some .executor) true).1.agents)
    (messenger : next.messenger =
      { world.messenger with
        entries := AgentIndex.insert id world.agents.size world.messenger.entries })
    (registry : next.registry = AgentIndex.insert id world.agents.size world.registry) :
    next.Tallied where
  routing := by
    rw [messenger]
    exact tallied.routing
  entries := by rw [messenger, registry, tallied.entries]
  ordered := registry ▸ AgentIndex.ordered_insert id _ tallied.ordered
  named := by
    intro other number found
    rw [registry, AgentIndex.find?_insert] at found
    split at found
    · rename_i same
      cases found
      exact ⟨(size_born agents).symm ▸ Nat.lt_succ_self _,
        same ▸ congrArg Agent.id (agent_born_self agents)⟩
    · obtain ⟨before, same⟩ := tallied.named found
      exact ⟨(size_born agents).symm ▸ Nat.lt_succ_of_lt before,
        (congrArg Agent.id (agent_born_of_lt agents before)).trans same⟩
  connected := by
    intro number inside
    rcases agent_born agents inside with ⟨before, older⟩ | ⟨-, newest⟩
    · rw [older]
      exact tallied.connected number before
    · rw [newest]
      rfl

/-- Spawning leaves the registries tallied, also when it is refused. -/
theorem spawn (tallied : world.Tallied) (id : AgentId) (design : Design V) :
    (world.spawn id design).1.Tallied := by
  cases taken : world.registry.contains id with
  | true =>
    simp only [World.spawn, taken, if_pos]
    exact tallied
  | false =>
    have created := world.agent_create_self id design (some .executor) true
    have registered := register_of_registry (world.create id design (some .executor) true).1
      world.agents.size tallied.routing
    rw [created] at registered
    rw [world.spawn_eq id design taken, registered]
    exact tallied.born rfl rfl rfl

/-- Some are taken out of both books. -/
theorem without (tallied : world.Tallied) (ids : List AgentId)
    (agents : next.agents = world.agents)
    (messenger : next.messenger =
      { world.messenger with entries := ids.foldl AgentIndex.erase world.messenger.entries })
    (registry : next.registry = ids.foldl AgentIndex.erase world.registry) : next.Tallied where
  routing := by rw [messenger]; exact tallied.routing
  entries := by rw [messenger, registry, tallied.entries]
  ordered := registry ▸ AgentIndex.ordered_eraseAll tallied.ordered ids
  named := by
    intro id number found
    rw [registry, AgentIndex.find?_foldl_erase] at found
    split at found
    · cases found
    · rw [agents, agent_congr agents]
      exact tallied.named found
  connected := by
    intro number inside
    rw [agent_congr agents]
    exact tallied.connected number (agents ▸ inside)

/-- Killing leaves the registries tallied, also when it is refused. -/
theorem kill (tallied : world.Tallied) (id : AgentId) : (world.kill id).1.Tallied := by
  simp only [World.kill]
  split
  · exact tallied
  · rename_i number _
    have erased : ((world.withRegistry (world.registry.erase id)).deregister id).Tallied :=
      tallied.without [id] rfl rfl rfl
    exact erased.stirs (.single (.arrive _ number .stop)) (messenger_arrive _ number .stop)

/-- Reaping leaves the registries tallied. -/
theorem reap (tallied : world.Tallied) : world.reap.1.Tallied := by
  refine tallied.without world.reap.2 ?_ ?_ ?_ <;> rw [reap_eq] <;> rfl

/-- Those that are done are taken out, and nobody else. -/
theorem find?_reap (tallied : world.Tallied) (id : AgentId) (number : BirthNumber) :
    world.reap.1.registry.find? id = some number ↔
      world.registry.find? id = some number ∧ (world.agent number).done = false := by
  have finished : ∀ {other : BirthNumber}, world.registry.find? id = some other →
      (id ∈ world.reap.2 ↔ (world.agent other).done = true) := by
    intro other found
    unfold World.reap AgentIndex.agents
    rw [List.mem_map]
    constructor
    · rintro ⟨⟨_, reached⟩, member, rfl⟩
      obtain ⟨listed, done⟩ := List.mem_filter.mp member
      have same := (AgentIndex.find?_of_mem tallied.ordered listed).symm.trans found
      cases same
      exact done
    · intro done
      exact ⟨(id, other), List.mem_filter.mpr ⟨AgentIndex.mem_of_find? found, done⟩, rfl⟩
  have registry : world.reap.1.registry = world.reap.2.foldl AgentIndex.erase world.registry := by
    rw [reap_eq]
    rfl
  rw [registry, AgentIndex.find?_foldl_erase]
  constructor
  · intro found
    split at found
    · cases found
    · rename_i notFinished
      rw [finished found] at notFinished
      exact ⟨found, eq_false_of_ne_true notFinished⟩
  · rintro ⟨found, notDone⟩
    have notFinished : id ∉ world.reap.2 := by simp [finished found, notDone]
    rw [if_neg notFinished, found]

/-- Every operation keeps both books alike. -/
theorem operation (tallied : world.Tallied) (operation : Operation V) :
    (operation.perform world).Tallied := by
  cases operation with
  | spawn id design => exact tallied.spawn id design
  | kill id => exact tallied.kill id
  | reap => exact tallied.reap
  | arrive number arrival =>
    exact tallied.stirs (.single (.arrive world number arrival))
      (world.messenger_arrive number arrival)
  | deliver message =>
    exact tallied.stirs (world.deliver_stirs 0 message) (tallied.messenger_deliverAll message _)
  | send number message =>
    exact tallied.stirs (world.send_stirs 0 number message) (tallied.messenger_send number message)
  | schedule number | hold number | forget id => exact tallied.congr rfl rfl rfl
  | openGate gate => exact durable.openGate tallied gate

end Tallied

/-! ## What the books show -/

/-- The two books of a platform agree. -/
structure Agrees (world : World V) : Prop where
  /-- Those who can be reached are those who take part. -/
  registered : world.registered = world.population
  /-- A message to one receiver finds nobody exactly when the receiver does not take part. -/
  unknown : ∀ message receiver, message.receivers = [receiver] →
    ((world.deliver message).2 = .error (.unknownReceiver receiver) ↔
      receiver ∉ world.population)
  /-- So it is for whatever agent sends it. -/
  sent : ∀ number < world.agents.size, ∀ message receiver, message.receivers = [receiver] →
    ((world.send number message).2 = .error (.unknownReceiver receiver) ↔
      receiver ∉ world.population)
  /-- A spawn that is refused is refused for a duplicate, and changes nothing. -/
  duplicate : ∀ id design cause, (world.spawn id design).2 = .error cause →
    cause = .duplicateAgent id ∧ id ∈ world.population ∧ (world.spawn id design).1 = world
  /-- A kill that is refused is refused for an unknown agent, and changes nothing. -/
  absent : ∀ id cause, (world.kill id).2 = .error cause →
    cause = .unknownAgent id ∧ id ∉ world.population ∧ (world.kill id).1 = world
  /-- After the agents that are done were taken out, those that can be reached are the agents that
  took part and are not done. -/
  reaped : ∀ id, id ∈ world.reap.1.registered ↔
    ∃ number, world.registry.find? id = some number ∧ (world.agent number).id = id ∧
      (world.agent number).done = false
  /-- To take agents out does not change them. -/
  untouched : ∀ number, world.reap.1.agent number = world.agent number

/-- Spawning is refused only to the identity of an agent that is there, and changes nothing then. -/
theorem spawn_refused {world : World V} {id : AgentId} {design : Design V} {cause : PlatformError}
    (refused : (world.spawn id design).2 = .error cause) :
    cause = .duplicateAgent id ∧ id ∈ world.population ∧ (world.spawn id design).1 = world := by
  cases taken : world.registry.contains id with
  | true =>
    simp only [spawn, taken, if_pos, Except.error.injEq] at refused ⊢
    exact ⟨refused.symm, AgentIndex.contains_iff.mp taken, trivial⟩
  | false =>
    rw [world.spawn_eq id design taken] at refused
    cases refused

/-- Killing is refused only for an unknown identity, and changes nothing then. -/
theorem kill_refused {world : World V} {id : AgentId} {cause : PlatformError}
    (refused : (world.kill id).2 = .error cause) :
    cause = .unknownAgent id ∧ id ∉ world.population ∧ (world.kill id).1 = world := by
  unfold population
  rw [← AgentIndex.find?_isSome_iff]
  cases found : world.registry.find? id with
  | none =>
    simp only [kill, found, Except.error.injEq] at refused ⊢
    simp [refused]
  | some number =>
    simp only [kill, found] at refused
    cases refused

namespace Tallied

variable {world : World V}

/-- The messenger has registered exactly the agents of the platform. -/
theorem registered_eq (tallied : world.Tallied) : world.registered = world.population := by
  have alive : ∀ entry ∈ world.messenger.entries, world.isAlive entry.2 = true := by
    intro entry member
    have held : entry.2 ∈ world.registry.values :=
      List.mem_map_of_mem (f := Prod.snd) (tallied.entries ▸ member)
    simp [isAlive, held]
  have kept := List.filter_eq_self.mpr alive
  have shown : world.registered = AgentIndex.agents world.messenger.entries := by
    simp only [registered, tallied.routing]
    exact congrArg (List.map Prod.fst) kept
  rw [shown, tallied.entries]
  rfl

/-- Tallied registries agree on who is there and on who can be reached. -/
theorem agrees (tallied : world.Tallied) : world.Agrees where
  registered := tallied.registered_eq
  unknown := by
    intro message receiver listed
    rw [deliver_single world listed]
    exact tallied.deliverTo_unknown receiver message
  sent := by
    intro number inside message receiver listed
    rw [tallied.send_eq_deliver inside, deliver_single world listed]
    exact tallied.deliverTo_unknown receiver message
  duplicate := fun _ _ _ => spawn_refused
  absent := fun _ _ => kill_refused
  reaped := by
    intro id
    rw [tallied.reap.registered_eq]
    unfold population
    rw [← AgentIndex.find?_isSome_iff]
    constructor
    · rintro ⟨number, found⟩
      obtain ⟨before, notDone⟩ := (tallied.find?_reap id number).mp found
      exact ⟨number, before, (tallied.named before).2, notDone⟩
    · rintro ⟨number, before, -, notDone⟩
      exact ⟨number, (tallied.find?_reap id number).mpr ⟨before, notDone⟩⟩
  untouched := by
    intro number
    rw [reap_eq]
    rfl

end Tallied

end World

/-! ## Runs -/

/-- The worlds of a run whose messenger the platform alone registers with, between ticks and in the
midst of them. Operations come at any time, under any identities, and strides are of any cycles, also
of abandoned ones. -/
inductive Membership.Reachable (settings : ExecutorSettings) (codec : Option Codec) :
    World V → Prop where
  | start : Reachable settings codec (World.new settings (.new codec))
  | operate {world : World V} (before : Reachable settings codec world)
      (operation : Operation V) : Reachable settings codec (operation.perform world)
  | tick {world next : World V} {outcome : Except TickError (TickResults V)}
      (before : Reachable settings codec world) (ticked : world.tick = some (next, outcome)) :
      Reachable settings codec next
  /-- In the midst of a tick a cycle makes a stride. -/
  | stride {world : World V} (before : Reachable settings codec world) (number : BirthNumber)
      (phase : Phase V) : Reachable settings codec (world.stride number phase).1
  /-- The executor keeps its own account, or is shut down. -/
  | account {world : World V} (before : Reachable settings codec world) (executor : Executor V)
      (running : List BirthNumber) (clock : Nat) :
      Reachable settings codec { world with executor, running, clock }

namespace Membership.Reachable

variable {settings : ExecutorSettings} {codec : Option Codec} {world : World V}

/-- Whatever is reached by operations and ticks is tallied. -/
theorem tallied (reachable : Reachable settings codec world) : world.Tallied := by
  induction reachable with
  | start => exact .new settings codec
  | operate _ operation ih => exact ih.operation operation
  | @tick world next outcome _ ticked ih =>
    cases outcome with
    | error cause =>
      rw [(World.tick_error ticked).1]
      exact ih
    | ok results =>
      obtain ⟨flown, duration, kept, rfl⟩ := World.Tallied.durable.tick ih ticked
      exact kept.ticked duration
  | stride _ number phase ih => exact ih.stride number phase
  | account _ executor running clock ih => exact ih.congr rfl rfl rfl

/-- Throughout a run the messenger reaches exactly the agents that take part, an operation that is
refused changes nothing, and reaping takes out exactly the agents that are done. -/
theorem registries_agree (reachable : Reachable settings codec world) : world.Agrees :=
  reachable.tallied.agrees

end Membership.Reachable

/-! ## An identity that is used again -/

namespace Market

/-- The executor of a platform with two agents. -/
def pair : ExecutorSettings := { poolSize := 2, seed := some 7, unitTimeout := none }

/-- One of the two agents was killed. -/
def halved : World vocabulary := (listeners.kill (AgentId.ofNat 1)).1

/-- After a tick its identity is used again, and the other agent is killed. -/
def turnover (world : World vocabulary) : World vocabulary :=
  ((world.spawn (AgentId.ofNat 1) listener).1.kill (AgentId.ofNat 2)).1

/-- A message to the agent that was killed last. -/
def farewell : Message := (Message.broadcast (AgentId.ofNat 1) "").addressedTo (AgentId.ofNat 2)

end Market

/-- The new agent can be reached, and the other one cannot. -/
theorem Membership.Reachable.registries_agree_turnover :
    ∃ world : World Market.vocabulary, Membership.Reachable Market.pair none world ∧
      world.Agrees ∧ world.registered = [AgentId.ofNat 1] ∧
      (world.deliver Market.farewell).2 = .error (.unknownReceiver (AgentId.ofNat 2)) := by
  have shown : Market.halved.tick.map (fun ticked => (Market.turnover ticked.1).registered) =
      some [AgentId.ofNat 1] := by decide +kernel
  obtain ⟨⟨world, outcome⟩, ticked, registered⟩ := Option.map_eq_some_iff.mp shown
  have opened : Membership.Reachable Market.pair none Market.halved :=
    ((start.operate (.spawn (AgentId.ofNat 1) Market.listener)).operate
      (.spawn (AgentId.ofNat 2) Market.listener)).operate (.kill (AgentId.ofNat 1))
  have reachable : Membership.Reachable Market.pair none (Market.turnover world) :=
    ((opened.tick ticked).operate (.spawn (AgentId.ofNat 1) Market.listener)).operate
      (.kill (AgentId.ofNat 2))
  have agrees := Membership.Reachable.registries_agree reachable
  refine ⟨Market.turnover world, reachable, agrees, registered, ?_⟩
  rw [agrees.unknown Market.farewell (AgentId.ofNat 2) rfl, ← agrees.registered, registered]
  decide

end Deliberation
