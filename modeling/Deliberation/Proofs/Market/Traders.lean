import Deliberation.Market.Population
import Deliberation.Proofs.Frame
import Deliberation.Proofs.Wire.Messages
import Mathlib.Logic.Function.Basic

/-!
# Worlds of traders

A trader differs from another one in its book, its mail, its goals and its plans; everything else is
its design. `Hosts` says that a world consists of traders, all of which take part and can be reached:
what is known of such a world is a function from indices to traders. Deliveries among traders always
succeed, and all they do is to put a message behind the mail of each receiver.
-/

namespace Deliberation

/-- An agent behind all others of an index is inserted at the end. -/
theorem AgentIndex.insert_of_forall_lt {α : Type} {agent : AgentId} (value : α)
    {index : AgentIndex α} (above : ∀ other ∈ index.agents, other.toNat < agent.toNat) :
    insert agent value index = index ++ [(agent, value)] := by
  induction index with
  | nil => rfl
  | cons entry rest ih =>
    have below := above entry.1 List.mem_cons_self
    have different : agent ≠ entry.1 := by
      rintro rfl
      exact Nat.lt_irrefl _ below
    unfold insert
    rw [if_neg different, if_neg (Nat.lt_asymm below),
      ih fun other member => above other (List.mem_cons_of_mem _ member)]
    rfl

namespace Market

open Population (traderId)

/-! ## The identities of traders -/

/-- The identity of a trader is one more than its index. -/
theorem toNat_traderId {index : Nat} (small : index < largestWord) :
    (traderId index).toNat = index + 1 := by
  have fits : index + 1 < 2 ^ 128 := by
    have bound : largestWord < 2 ^ 127 := by decide
    omega
  unfold traderId AgentId.toNat AgentId.ofNat Identifier.ofNat
  exact (BitVec.toNat_ofNat _ _).trans (Nat.mod_eq_of_lt fits)

/-- Different traders have different identities. -/
theorem traderId_inj {first second : Nat} (firstSmall : first < largestWord)
    (secondSmall : second < largestWord) : traderId first = traderId second ↔ first = second := by
  refine ⟨fun same => ?_, congrArg traderId⟩
  have numbers := congrArg AgentId.toNat same
  rw [toNat_traderId firstSmall, toNat_traderId secondSmall] at numbers
  exact Nat.succ.inj numbers

/-- The traders with their birth numbers. -/
def roster (count : Nat) : AgentIndex BirthNumber :=
  (List.range count).map fun index => (traderId index, index)

/-- The roster lists the traders by identity. -/
theorem agents_roster (count : Nat) : (roster count).agents = (List.range count).map traderId := by
  simp [roster, AgentIndex.agents, Function.comp_def]

/-- The roster lists the traders by birth. -/
theorem values_roster (count : Nat) : (roster count).values = List.range count := by
  simp [roster, AgentIndex.values, Function.comp_def]

/-- One more trader comes at the end of the roster. -/
theorem roster_succ {count : Nat} (small : count < largestWord) :
    AgentIndex.insert (traderId count) count (roster count) = roster (count + 1) := by
  rw [AgentIndex.insert_of_forall_lt]
  · simp [roster, List.range_succ]
  · intro other member
    rw [agents_roster] at member
    obtain ⟨index, listed, rfl⟩ := List.mem_map.mp member
    have before := List.mem_range.mp listed
    rw [toNat_traderId small, toNat_traderId (before.trans small)]
    exact Nat.succ_lt_succ before

/-- A roster is in order. -/
theorem ordered_roster {count : Nat} (small : count ≤ largestWord) : (roster count).Ordered := by
  induction count with
  | zero => exact AgentIndex.ordered_nil
  | succ count ih =>
    rw [← roster_succ small]
    exact AgentIndex.ordered_insert _ _ (ih (Nat.le_of_lt small))

/-- A trader is found in the roster by its identity. -/
theorem find?_roster {count index : Nat} (small : count ≤ largestWord) (inside : index < count) :
    (roster count).find? (traderId index) = some index := by
  refine AgentIndex.find?_of_mem (ordered_roster small) ?_
  exact List.mem_map_of_mem (List.mem_range.mpr inside)

/-! ## The states of traders -/

/-- What sets a trader apart from other traders. -/
structure Trader where
  book : Book
  mail : List Message
  wishes : List (GoalHandle vocabulary)
  goals : List (GoalHandle vocabulary)
  plans : List (ActivePlan vocabulary)

namespace Trader

/-- The agent of a trader. -/
def agent (state : Trader) (id : AgentId) : Agent vocabulary :=
  { Agent.ofBlueprint id (trader state.book).build (some .executor) true with
    inbox := { Inbox.empty with messages := state.mail.map .message, goals := state.wishes }
    goals := state.goals
    plans := state.plans }

/-- The trader after a message came. -/
def receive (state : Trader) (message : Message) : Trader :=
  { state with mail := state.mail ++ [message] }

/-- A trader that receives a message has it in its inbox. -/
theorem agent_receive (state : Trader) (id : AgentId) (message : Message) :
    { state.agent id with inbox := (state.agent id).inbox.receive (.message message) } =
      (state.receive message).agent id := by
  simp [agent, receive, Inbox.receive]

end Trader

/-- The traders apart from one. -/
def others (count : Nat) (number : BirthNumber) : List Nat :=
  (List.range count).filter (· ≠ number)

/-- Put a message behind the mail of a trader. -/
def post (message : Message) (traders : Nat → Trader) (receiver : Nat) : Nat → Trader :=
  Function.update traders receiver ((traders receiver).receive message)

/-- A post changes nothing but mail. -/
theorem post_eq (message : Message) (traders : Nat → Trader) (receiver index : Nat) :
    ∃ mail, post message traders receiver index = { traders index with mail } := by
  unfold post
  by_cases same : index = receiver
  · subst same
    rw [Function.update_self]
    exact ⟨_, rfl⟩
  · rw [Function.update_of_ne same]
    exact ⟨_, rfl⟩

/-- Posting a message to receivers changes their mail only. -/
theorem postAll_eq (message : Message) (receivers : List Nat) (traders : Nat → Trader)
    (index : Nat) :
    ∃ mail, receivers.foldl (post message) traders index = { traders index with mail } := by
  induction receivers generalizing traders with
  | nil => exact ⟨_, rfl⟩
  | cons receiver rest ih =>
    obtain ⟨later, postedRest⟩ := ih (post message traders receiver)
    obtain ⟨mail, posted⟩ := post_eq message traders receiver index
    refine ⟨later, ?_⟩
    rw [List.foldl_cons, postedRest, posted]

/-! ## Worlds -/

/-- The messages that traders send: offers to everybody, and acceptances to the seller. -/
inductive Posted : Message → Prop where
  | offer (sender : AgentId) (price : Nat) : Posted (priced sender offer price)
  | acceptance (sender receiver : AgentId) (price : Nat) :
      Posted ((priced sender acceptance price).addressedTo receiver)

/-- A codec that neither changes nor refuses what traders send. -/
def Faithful (codec : Codec) : Prop :=
  ∀ message, Posted message → codec.carry message = .ok message

/-- Whatever traders post is well-formed. -/
theorem Posted.wellFormed {message : Message} (posted : Posted message) : message.WellFormed := by
  cases posted with
  | offer sender price => exact (Message.WellFormed.broadcast _ _).withParameter _ _
  | acceptance sender receiver price =>
    exact ((Message.WellFormed.broadcast _ _).withParameter _ _).addressedTo receiver

/-- What traders send carries the time of the epoch. -/
theorem Posted.isSettled {message : Message} (posted : Posted message) :
    message.sentAt.IsSettled := by
  have settled : Instant.epoch.IsSettled := by decide
  cases posted <;> exact settled

/-- JSON is faithful. -/
theorem Faithful.json : Faithful Codec.json := fun _ posted =>
  Codec.carry_json_iff.mpr ⟨posted.wellFormed, posted.isSettled⟩

/-- A world consists of traders, and nothing but a faithful codec stands between them. -/
structure Hosts (world : World vocabulary) (count : Nat) (traders : Nat → Trader) : Prop where
  size : world.agents.size = count
  agent : ∀ index < count, world.agent index = (traders index).agent (traderId index)
  registry : world.registry = roster count
  routing : world.messenger.routing = .registry
  entries : world.messenger.entries = roster count
  codec : ∀ codec, world.messenger.codec = some codec → Faithful codec

namespace Hosts

variable {world next : World vocabulary} {count : Nat} {traders : Nat → Trader}

/-- The agents of a market have the identities of traders. -/
theorem id (hosts : Hosts world count traders) {index : Nat} (inside : index < count) :
    (world.agent index).id = traderId index := by
  rw [hosts.agent index inside]
  rfl

/-- Only agents, registry and messenger matter. -/
theorem congr (hosts : Hosts world count traders) (agents : next.agents = world.agents)
    (registry : next.registry = world.registry) (messenger : next.messenger = world.messenger) :
    Hosts next count traders where
  size := agents ▸ hosts.size
  agent index inside := (World.agent_congr agents index).trans (hosts.agent index inside)
  registry := registry.trans hosts.registry
  routing := messenger ▸ hosts.routing
  entries := messenger ▸ hosts.entries
  codec := messenger ▸ hosts.codec

/-- A change of one trader. -/
theorem modify (hosts : Hosts world count traders) {number : BirthNumber} (inside : number < count)
    {change : Agent vocabulary → Agent vocabulary} {state : Trader}
    (changes : change ((traders number).agent (traderId number)) = state.agent (traderId number)) :
    Hosts (world.modifyAgent number change) count (Function.update traders number state) where
  size := (world.size_modifyAgent number change).trans hosts.size
  agent := by
    intro index insideIndex
    by_cases same : index = number
    · subst same
      rw [World.agent_modifyAgent_self _ _ (hosts.size ▸ inside), hosts.agent index inside, changes,
        Function.update_self]
    · rw [World.agent_modifyAgent_of_ne _ _ same, Function.update_of_ne same]
      exact hosts.agent index insideIndex
  registry := hosts.registry
  routing := hosts.routing
  entries := hosts.entries
  codec := hosts.codec

/-- Waking leaves a market as it is. -/
theorem wake (hosts : Hosts world count traders) (number : BirthNumber) :
    Hosts (world.wake number) count traders := by
  obtain ⟨schedule, journal, woken⟩ := world.wake_eq number
  rw [woken]
  exact hosts.congr rfl rfl rfl

/-- A message arrives at a trader. -/
theorem arrive (hosts : Hosts world count traders) {number : BirthNumber} (inside : number < count)
    (message : Message) :
    Hosts (world.arrive number (.message message)) count (post message traders number) :=
  (hosts.modify inside ((traders number).agent_receive (traderId number) message)).wake number

/-- A goal that arrives is one of the wishes of its trader. -/
theorem arriveGoal (hosts : Hosts world count traders) {number : BirthNumber}
    (inside : number < count) (handle : GoalHandle vocabulary) :
    Hosts (world.arrive number (.goal handle)) count
      (Function.update traders number
        { traders number with wishes := (traders number).wishes ++ [handle] }) :=
  (hosts.modify inside rfl).wake number

/-- No trader has the identity of the next one. -/
theorem fresh (hosts : Hosts world count traders) (small : count < largestWord) :
    ∀ number < world.agents.size, (world.agent number).id ≠ traderId count := by
  intro number inside same
  rw [hosts.size] at inside
  rw [hosts.id inside] at same
  have equal := (traderId_inj (inside.trans small) small).mp same
  exact absurd equal (Nat.ne_of_lt inside)

/-- One more trader takes part. -/
theorem spawn (hosts : Hosts world count traders) (small : count < largestWord) (book : Book) :
    (world.spawn (traderId count) (trader book)).2 = .ok count ∧
      Hosts (world.spawn (traderId count) (trader book)).1 (count + 1)
        (Function.update traders count
          { book, mail := [], wishes := [], goals := [], plans := [] }) := by
  have absent : world.registry.contains (traderId count) = false := by
    rw [← Bool.not_eq_true, AgentIndex.contains_iff, hosts.registry, agents_roster]
    intro member
    obtain ⟨index, listed, same⟩ := List.mem_map.mp member
    have before := List.mem_range.mp listed
    have equal := (traderId_inj (before.trans small) small).mp same
    exact absurd equal (Nat.ne_of_lt before)
  have created := world.agent_create_self (traderId count) (trader book) (some .executor) true
  have messenger :
      ((world.create (traderId count) (trader book) (some .executor) true).1.register
        world.agents.size).messenger =
        { world.messenger with entries := roster (count + 1) } := by
    have routing :
        (world.create (traderId count) (trader book) (some .executor) true).1.messenger.routing =
          .registry := hosts.routing
    rw [World.register_of_registry _ _ routing, created, ← roster_succ small, ← hosts.entries,
      ← hosts.size]
    rfl
  rw [world.spawn_eq (traderId count) (trader book) absent, messenger, hosts.registry]
  refine ⟨congrArg _ hosts.size, ?_⟩
  refine
    { size := ?_, agent := ?_, registry := ?_, routing := hosts.routing, entries := rfl
      codec := hosts.codec }
  · exact (Array.size_push _).trans (congrArg Nat.succ hosts.size)
  · intro index inside
    rcases Nat.lt_succ_iff_lt_or_eq.mp inside with before | rfl
    · rw [Function.update_of_ne (Nat.ne_of_lt before), ← hosts.agent index before]
      exact world.agent_create_of_lt _ _ _ _ (hosts.size ▸ before)
    · rw [Function.update_self]
      rw [hosts.size] at created
      exact created
  · rw [hosts.size]
    exact roster_succ small

/-- The traders of a market are alive. -/
theorem isAlive (hosts : Hosts world count traders) {number : BirthNumber}
    (inside : number < count) : world.isAlive number = true := by
  simp [World.isAlive, hosts.registry, values_roster, inside]

/-- Every trader has a messenger. -/
theorem send_eq (hosts : Hosts world count traders) {number : BirthNumber}
    (inside : number < count) (message : Message) :
    world.send number message = world.deliverAll message (world.receivers message) := by
  have connected : (world.agent number).connected = true := by
    rw [hosts.agent number inside]
    rfl
  simp only [World.send, connected, if_true]
  rfl

/-! ### Deliveries -/

variable (small : count ≤ largestWord)
include small

/-- A trader that is there gets what is posted to it. -/
theorem deliverTo (hosts : Hosts world count traders) {receiver : Nat} (inside : receiver < count)
    {message : Message} (posted : Posted message) :
    world.deliverTo (traderId receiver) message =
      (world.arrive receiver (.message message), .ok ()) := by
  unfold World.deliverTo
  rw [hosts.routing, hosts.entries, find?_roster small inside]
  simp only [Option.filter_some, hosts.isAlive inside, if_true]
  split
  · rfl
  · rename_i codec present
    rw [hosts.codec codec present message posted]

/-- All traders that are there get what is posted to them. -/
theorem deliverAll (hosts : Hosts world count traders) {message : Message} (posted : Posted message)
    {receivers : List Nat} (inside : ∀ receiver ∈ receivers, receiver < count) :
    ∃ next, world.deliverAll message (receivers.map traderId) = (next, .ok ()) ∧
      Hosts next count (receivers.foldl (post message) traders) := by
  induction receivers generalizing world traders with
  | nil => exact ⟨world, rfl, hosts⟩
  | cons receiver rest ih =>
    have first := inside receiver List.mem_cons_self
    obtain ⟨next, delivered, after⟩ := ih (hosts.arrive first message)
      fun other member => inside other (List.mem_cons_of_mem _ member)
    refine ⟨next, ?_, after⟩
    rw [List.map_cons, World.deliverAll, hosts.deliverTo small first posted]
    simp only [delivered, World.firstError]

/-- What a trader sends to everybody comes to all others. -/
theorem broadcast (hosts : Hosts world count traders) {number : BirthNumber}
    (inside : number < count) {message : Message} (posted : Posted message)
    (sender : message.sender = traderId number) (toAll : message.receivers = []) :
    ∃ next, world.send number message = (next, .ok ()) ∧
      Hosts next count ((others count number).foldl (post message) traders) := by
  have registered : world.registered = (List.range count).map traderId := by
    have alive : ∀ entry ∈ roster count, world.isAlive entry.2 = true := by
      intro entry member
      obtain ⟨index, listed, rfl⟩ := List.mem_map.mp member
      exact hosts.isAlive (List.mem_range.mp listed)
    unfold World.registered
    rw [hosts.routing, hosts.entries]
    exact (congrArg AgentIndex.agents (List.filter_eq_self.mpr alive)).trans (agents_roster count)
  have receivers : world.receivers message = (others count number).map traderId := by
    simp only [World.receivers, Message.isBroadcast, toAll, List.isEmpty_nil, if_true, registered,
      sender, others, List.filter_map]
    refine congrArg _ (List.filter_congr fun index listed => ?_)
    have before := List.mem_range.mp listed
    have same := traderId_inj (before.trans_le small) (inside.trans_le small)
    by_cases equal : index = number
    · simp [equal]
    · simp [equal, mt same.mp equal]
  rw [hosts.send_eq inside, receivers]
  exact hosts.deliverAll small posted fun index member =>
    List.mem_range.mp (List.mem_filter.mp member).1

/-- What a trader sends to one trader comes to that one. -/
theorem sendTo (hosts : Hosts world count traders) {number receiver : Nat}
    (inside : number < count) (receiverInside : receiver < count) {message : Message}
    (posted : Posted message) (toOne : message.receivers = [traderId receiver]) :
    ∃ next, world.send number message = (next, .ok ()) ∧
      Hosts next count (post message traders receiver) := by
  have receivers : world.receivers message = [receiver].map traderId := by
    simp [World.receivers, Message.isBroadcast, toOne]
  rw [hosts.send_eq inside, receivers]
  exact hosts.deliverAll small posted fun index member =>
    List.mem_singleton.mp member ▸ receiverInside

end Hosts

end Market

end Deliberation
