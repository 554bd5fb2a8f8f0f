import Deliberation.Proofs.Abreast

/-!
# Ticks of agents that keep to themselves

When the cycles of a tick are confined to their own agents, and no goal belongs to two of them, each
agent comes out of the tick as it does when nobody else is scheduled: with the same slot, in the
same state, and scheduled again or not (`World.Prompt.tick_decomposes`). It matters neither in which
order the units are dispatched nor how the other cycles come out.
-/

namespace Deliberation

open Relation

variable {V : Vocabulary}

namespace World

/-! ## Ticks -/

/-- The cycle of each scheduled agent is confined to the agent when it runs alone, whatever names
there are, and no goal belongs to two of them. -/
structure Secluded (uses : BirthNumber → GoalId → Prop) (world : World V) : Prop where
  keeps : ∀ number ∈ world.executor.schedule.values, ∀ names,
    Keeps (uses number) { world.taken none with names } number
  apart : ∀ number ∈ world.executor.schedule.values, ∀ other ∈ world.executor.schedule.values,
    number ≠ other → ∀ goal, uses number goal → ¬ uses other goal

/-- No scheduled agent names an interceptor in its cycle. -/
def Frugal (world : World V) : Prop :=
  ∀ number ∈ world.executor.schedule.values,
    ((world.taken none).cycle number none).world.names = world.names

/-- The world in which nobody but one agent is scheduled, with certain names. -/
def only (world : World V) (names : NameBook) (number : BirthNumber) : World V :=
  { world with
    names
    executor := { world.executor with schedule := [((world.agent number).id, number)] } }

/-- An agent comes out of one tick as it does out of another one: in the same state, with the same
slot and the same flags, and scheduled again after both or after neither. -/
structure ComesOut (own : GoalId → Prop) (number : BirthNumber)
    (ticked other : World V × TickResults V) : Prop where
  state : ticked.1.agent number = other.1.agent number
  slot : ticked.2.find? (ticked.1.agent number).id = other.2.find? (other.1.agent number).id
  flags : ticked.1.pursuit.Agree own other.1.pursuit
  scheduled : ticked.1.executor.schedule.contains (ticked.1.agent number).id =
    other.1.executor.schedule.contains (other.1.agent number).id

/-- Two ticks come to the same for everybody. -/
structure SameTick (ticked other : World V × TickResults V) : Prop where
  state : ∀ number, ticked.1.agent number = other.1.agent number
  slot : ∀ id, ticked.2.find? id = other.2.find? id
  flags : ∀ goal, ticked.1.pursuit.isPursued goal = other.1.pursuit.isPursued goal
  scheduled : ∀ id,
    ticked.1.executor.schedule.contains id = other.1.executor.schedule.contains id

/-- A tick over units in some order comes to what it comes to for each of them alone. -/
structure Decomposes (uses : BirthNumber → GoalId → Prop) (world : World V)
    (random : Option Generator) (order : List BirthNumber) : Prop where
  /-- Every unit comes out as it does in a tick of its own. -/
  alone : ∀ ticked, (world.taken random).tickOver order = some ticked → ∀ number ∈ order,
    ∃ names lone, (world.launch random order).Finds order number names ∧
      (world.only names number).tick = some (lone.1, .ok lone.2) ∧
        ComesOut (uses number) number ticked lone
  /-- There are slots for the units, and what belongs to none of them stays as it was. -/
  others : ∀ ticked, (world.taken random).tickOver order = some ticked →
    ticked.2.agents = world.executor.schedule.agents ∧
      (∀ number, (ticked.1.agent number).id = (world.agent number).id) ∧
        Untouched uses world order world ticked.1
  /-- Without an answer for all there is one unit for which there is none alone either. -/
  unanswered : (world.taken random).tickOver order = none → ∃ number ∈ order, ∃ names,
    (world.launch random order).Finds order number names ∧ (world.only names number).tick = none

section

variable {uses : BirthNumber → GoalId → Prop} {own : GoalId → Prop} {world other final : World V}
  {results : TickResults V} {random : Option Generator} {order : List BirthNumber}
  {flown : World V} {outcomes : List (BirthNumber × CycleOutcome V)} {number : BirthNumber}
  {outcome : CycleOutcome V}

/-- The outcomes of a tick are those of different agents. -/
theorem ExactTick.nodup (exact : ExactTick world final results random order flown outcomes)
    (timetable : world.Timetable) :
    (outcomes.map fun entry => (world.agent entry.1).id).Nodup := by
  have ids : (outcomes.map fun entry => (world.agent entry.1).id) =
      order.map fun number => (world.agent number).id := by
    rw [← exact.cycles.units_eq, List.map_map]
    rfl
  rw [ids, (exact.permuted.map _).nodup_iff, timetable.map_id_values]
  exact timetable.ordered.nodup

/-- An agent of the tick runs again because it is scheduled or because of its own outcome. -/
theorem ExactTick.contains (exact : ExactTick world final results random order flown outcomes)
    (timetable : world.Timetable) (member : (number, outcome) ∈ outcomes) :
    final.executor.schedule.contains (world.agent number).id =
      (flown.executor.schedule.contains (world.agent number).id ||
        outcome.asksAgain (flown.agent number)) := by
  rw [Bool.eq_iff_iff, exact.scheduled, Bool.or_eq_true]
  refine or_congr_right ⟨?_, fun asks => ⟨number, outcome, member, rfl, asks⟩⟩
  rintro ⟨asking, came, listed, same, asks⟩
  cases List.inj_on_of_nodup_map (exact.nodup timetable) listed member same
  exact asks

/-- The end of a tick leaves the agents as their cycles did. -/
theorem ExactTick.agent (exact : ExactTick world final results random order flown outcomes)
    (number : BirthNumber) : final.agent number = flown.agent number := by
  obtain ⟨schedule, rfl⟩ := exact.landed
  rfl

/-- The end of a tick leaves the flags as the cycles did. -/
theorem ExactTick.pursuit (exact : ExactTick world final results random order flown outcomes) :
    final.pursuit = flown.pursuit := by
  obtain ⟨schedule, rfl⟩ := exact.landed
  rfl

/-- A tick changes no identity. -/
theorem ExactTick.id (exact : ExactTick world final results random order flown outcomes)
    (number : BirthNumber) : (final.agent number).id = (world.agent number).id := by
  rw [exact.agent]
  exact exact.cycles.frame.id number

/-- With equal outcomes an agent comes out of two ticks in the same way. -/
theorem ExactTick.comesOut {lone landed : World V} {slots : TickResults V}
    {generator : Option Generator} {units : List BirthNumber}
    {others : List (BirthNumber × CycleOutcome V)}
    (first : ExactTick world final results random order flown outcomes)
    (second : ExactTick other lone slots generator units landed others)
    (timetable : world.Timetable) (otherTimetable : other.Timetable)
    (member : (number, outcome) ∈ outcomes) (otherMember : (number, outcome) ∈ others)
    (alike : flown.Alike own number landed) :
    ComesOut own number (final, results) (lone, slots) := by
  have state : final.agent number = lone.agent number := by
    rw [first.agent, second.agent]
    exact alike.agent
  have ids : (world.agent number).id = (other.agent number).id := by
    rw [← first.id, ← second.id, state]
  refine ⟨state, ?_, ?_, ?_⟩
  · rw [first.id, second.id, first.slot _ _ member, second.slot _ _ otherMember, ids]
  · rw [first.pursuit, second.pursuit]
    exact alike.flags
  · have entry := alike.entry
    rw [← first.agent, first.id] at entry
    rw [first.id, second.id, first.contains timetable member,
      second.contains otherTimetable otherMember, ← ids, alike.agent]
    unfold AgentIndex.contains
    rw [entry]

/-- An agent comes out of two ticks alike both ways. -/
theorem ComesOut.symm {ticked other : World V × TickResults V}
    (same : ComesOut own number ticked other) : ComesOut own number other ticked :=
  ⟨same.state.symm, same.slot.symm, fun goal isOwn => (same.flags goal isOwn).symm,
    same.scheduled.symm⟩

/-- Ticks out of which an agent comes as out of a third one are alike to it. -/
theorem ComesOut.trans {ticked other last : World V × TickResults V}
    (first : ComesOut own number ticked other) (second : ComesOut own number other last) :
    ComesOut own number ticked last :=
  ⟨first.state.trans second.state, first.slot.trans second.slot,
    fun goal isOwn => (first.flags goal isOwn).trans (second.flags goal isOwn),
    first.scheduled.trans second.scheduled⟩

/-- A tick leaves alone what its cycles leave alone. -/
theorem ExactTick.untouched (exact : ExactTick world final results random order flown outcomes)
    (timetable : world.Timetable)
    (untouched : Untouched uses (world.taken none) order (world.launch random order) flown) :
    Untouched uses world order world final where
  agent := fun number notMember => (exact.agent number).trans (untouched.agent number notMember)
  flags := fun goal unused => exact.pursuit ▸ untouched.flags goal unused
  entry := by
    intro id foreign
    have absent : id ∉ world.executor.schedule.agents := by
      rw [← timetable.map_id_values, ← (exact.permuted.map _).mem_iff]
      intro member
      obtain ⟨number, listed, same⟩ := List.mem_map.mp member
      exact foreign number listed same
    rw [AgentIndex.find?_eq_none absent]
    refine AgentIndex.find?_eq_none fun present => ?_
    rw [← AgentIndex.contains_iff, exact.scheduled] at present
    rcases present with kept | ⟨number, outcome, listed, same, _⟩
    · unfold AgentIndex.contains at kept
      rw [untouched.entry id foreign] at kept
      cases kept
    · refine foreign number ?_ same
      rw [← exact.cycles.units_eq]
      exact List.mem_map_of_mem (f := Prod.fst) listed

/-! ### Ticks of one agent -/

/-- Nobody but one agent is scheduled. -/
theorem Prompt.only (prompt : world.Prompt) (inside : number < world.agents.size)
    (names : NameBook) : (world.only names number).Prompt where
  ordered := List.pairwise_singleton _ _
  entry := by
    intro id scheduled member
    cases List.mem_singleton.mp member
    exact ⟨inside, rfl⟩
  staffed := prompt.staffed
  noDeadline := prompt.noDeadline
  noneAbandoned := prompt.noneAbandoned

/-- A world that schedules one agent only is a twin of the world with its whole schedule. -/
theorem only_twin (inside : number < world.agents.size) (names : NameBook)
    (random : Option Generator) :
    ((world.only names number).launch random [number]).Twin own number
      { world.taken none with names } :=
  ⟨⟨inside, inside, rfl, fun _ _ => rfl, rfl, rfl, rfl⟩, rfl⟩

/-- A single unit gets stuck when its cycle waits for a gate. -/
theorem Stuck.of_singleton (stuck : world.Stuck [number]) :
    ∃ halted suspended, world.cycle number none = .blocked halted suspended := by
  obtain ⟨ran, waiting, rest, next, outcomes, halted, suspended, split, dispatch, blocked⟩ := stuck
  cases ran with
  | nil =>
    cases split
    cases dispatch
    exact ⟨halted, suspended, blocked⟩
  | cons first ran => simp at split

/-- A tick of one agent alone ends as its cycle does. -/
theorem Prompt.only_ended (prompt : world.Prompt) (running : world.executor.isShutDown = false)
    (inside : number < world.agents.size) {names : NameBook} {lone : World V}
    (keeps : Keeps own { world.taken none with names } number)
    (ended : ({ world.taken none with names } : World V).cycle number none = .ended lone outcome) :
    ∃ alone slots generator landed,
      (world.only names number).tick = some (alone, .ok slots) ∧
        ExactTick (world.only names number) alone slots generator [number] landed
          [(number, outcome)] ∧
        landed.Alike own number lone := by
  rcases (prompt.only inside names).tick_cases running with
    ⟨alone, slots, generator, units, landed, outcomes, ticked, exact⟩ |
    ⟨_, generator, units, permuted, stuck⟩
  · obtain rfl : units = [number] := List.perm_singleton.mp exact.permuted
    have twin : World.Twin own number _ _ := only_twin inside names generator
    have cycles := exact.cycles
    cases cycles with
    | cons ran rest =>
      cases rest
      obtain ⟨halted, same, tandem⟩ := twin.cycle_ended keeps ran
      cases ended.symm.trans same
      exact ⟨alone, slots, generator, _, ticked, exact, tandem.twin.toAlike⟩
  · obtain rfl : units = [number] := List.perm_singleton.mp permuted
    have twin : World.Twin own number _ _ := only_twin inside names generator
    obtain ⟨halted, suspended, blocked⟩ := stuck.of_singleton
    obtain ⟨_, _, waits⟩ := twin.cycle_blocked keeps blocked
    cases ended.symm.trans waits

/-- A tick of one agent alone has no answer when its cycle waits. -/
theorem Prompt.only_blocked (prompt : world.Prompt) (running : world.executor.isShutDown = false)
    (inside : number < world.agents.size) {names : NameBook} {lone : World V}
    {suspended : Suspended V} (keeps : Keeps own { world.taken none with names } number)
    (blocked : ({ world.taken none with names } : World V).cycle number none =
      .blocked lone suspended) : (world.only names number).tick = none := by
  rcases (prompt.only inside names).tick_cases running with
    ⟨alone, slots, generator, units, landed, outcomes, ticked, exact⟩ | ⟨unanswered, _⟩
  · obtain rfl : units = [number] := List.perm_singleton.mp exact.permuted
    have twin : World.Twin own number _ _ := only_twin inside names generator
    have cycles := exact.cycles
    cases cycles with
    | cons ran rest =>
      obtain ⟨_, ended, _⟩ := twin.cycle_ended keeps ran
      cases ended.symm.trans blocked
  · exact unanswered

/-! ### Ticks of several agents -/

/-- Scheduled agents that keep to themselves have nothing in common. -/
theorem Timetable.strangers (timetable : world.Timetable) (secluded : world.Secluded uses)
    (permuted : order.Perm world.executor.schedule.values) :
    order.Pairwise (Strangers uses (world.taken none)) := by
  refine (permuted.nodup_iff.mpr timetable.values_nodup).pairwise_of_forall_ne ?_
  intro number member other otherMember different
  have scheduled := permuted.mem_iff.mp member
  have otherScheduled := permuted.mem_iff.mp otherMember
  refine ⟨different, fun same => different ?_,
    secluded.apart number scheduled other otherScheduled different⟩
  have nodup := timetable.ordered.nodup
  rw [← timetable.map_id_values] at nodup
  exact List.inj_on_of_nodup_map nodup scheduled otherScheduled same

variable {ran : List BirthNumber} {middle : World V}

/-- The first cycles of a tick of agents that keep to themselves end as they do alone. -/
theorem Secluded.solos (secluded : world.Secluded uses) (timetable : world.Timetable)
    (permuted : order.Perm world.executor.schedule.values) (first : ran.Sublist order)
    (dispatch : Dispatch (world.launch random order) ran middle outcomes) :
    Solos uses (world.taken none) (world.launch random order) ran middle outcomes := by
  have scheduled : ∀ number ∈ ran, number ∈ world.executor.schedule.values :=
    fun number member => permuted.mem_iff.mp (first.subset member)
  refine dispatch.solos ((timetable.strangers secluded permuted).sublist first) ?_ ?_
  · intro number member
    have inside := timetable.values_inside (scheduled number member)
    exact ⟨inside, inside, rfl, fun _ _ => rfl, rfl, rfl, rfl⟩
  · exact fun number member => secluded.keeps number (scheduled number member)

/-- Cycles that name nothing leave the names as they are. -/
theorem Solos.names {base after : World V} {units : List BirthNumber}
    (solos : Solos uses base world units after outcomes)
    (frugal : ∀ number ∈ units, (base.cycle number none).world.names = base.names)
    (same : world.names = base.names) : after.names = base.names := by
  induction solos with
  | nil => exact same
  | @cons world next lone _ number rest _ _ _ _ alone tandem _ ih =>
    refine ih (fun other member => frugal other (List.mem_cons_of_mem _ member)) ?_
    have left := frugal number List.mem_cons_self
    rw [same] at alone
    change base.cycle number none = _ at alone
    rw [alone] at left
    exact tandem.twin.names.trans left

/-- When no cycle names anything, all of them find the names with which the tick begins. -/
theorem Secluded.names (secluded : world.Secluded uses) (timetable : world.Timetable)
    (permuted : order.Perm world.executor.schedule.values) (frugal : world.Frugal)
    {names : NameBook} (finds : (world.launch random order).Finds order number names) :
    names = world.names := by
  obtain ⟨ran, rest, middle, outcomes, split, dispatch, rfl⟩ := finds
  have first : ran.Sublist order := split ▸ List.sublist_append_left _ _
  refine (secluded.solos timetable permuted first dispatch).names (fun number member => ?_) rfl
  exact frugal number (permuted.mem_iff.mp (first.subset member))

/-- A tick of agents that keep to themselves comes to what it comes to for each of them alone. -/
theorem Prompt.decomposes (prompt : world.Prompt) (running : world.executor.isShutDown = false)
    (secluded : world.Secluded uses) (random : Option Generator)
    (permuted : order.Perm world.executor.schedule.values) :
    world.Decomposes uses random order := by
  have timetable := prompt.toTimetable
  have strangers := timetable.strangers secluded permuted
  have scheduled : ∀ number ∈ order, number ∈ world.executor.schedule.values :=
    fun number => permuted.mem_iff.mp
  rcases prompt.tickOver_cases random order with
    ⟨flown, outcomes, dispatch, answered⟩ | ⟨stuck, unanswered⟩
  · have solos := secluded.solos timetable permuted (.refl order) dispatch
    have exact := timetable.exactTick permuted dispatch
    refine ⟨fun ticked ran number member => ?_, fun ticked ran => ?_, fun none => ?_⟩
    · cases answered.symm.trans ran
      have inside := timetable.values_inside (scheduled number member)
      have keeps := secluded.keeps number (scheduled number member)
      rw [← dispatch.units_eq] at member
      obtain ⟨⟨_, outcome⟩, listed, rfl⟩ := List.mem_map.mp member
      obtain ⟨names, lone, finds, ended, alike⟩ := solos.alone strangers listed
      obtain ⟨alone, slots, generator, landed, ticked, aloneExact, fellow⟩ :=
        prompt.only_ended running inside (keeps names) ended
      exact ⟨names, (alone, slots), finds, ticked,
        exact.comesOut aloneExact timetable (prompt.only inside names).toTimetable listed
          List.mem_cons_self (alike.trans fellow.symm)⟩
    · cases answered.symm.trans ran
      exact ⟨exact.agents, exact.id, exact.untouched timetable solos.untouched⟩
    · cases answered.symm.trans none
  · refine ⟨fun ticked ran => ?_, fun ticked ran => ?_, fun _ => ?_⟩
    · cases unanswered.symm.trans ran
    · cases unanswered.symm.trans ran
    · obtain ⟨ran, number, rest, next, outcomes, halted, suspended, split, dispatch, blocked⟩ :=
        stuck
      have member : number ∈ order := split ▸ List.mem_append_right _ List.mem_cons_self
      have inside := timetable.values_inside (scheduled number member)
      have keeps := secluded.keeps number (scheduled number member)
      have first : ran.Sublist order := split ▸ List.sublist_append_left _ _
      have solos := secluded.solos timetable permuted first dispatch
      have apart : ∀ other ∈ ran, Strangers uses (world.taken none) number other := by
        rw [split] at strangers
        intro other before
        exact ((List.pairwise_append.mp strangers).2.2 other before number
          List.mem_cons_self).symm
      have begins : (world.launch random order).Alike (uses number) number (world.taken none) :=
        ⟨inside, inside, rfl, fun _ _ => rfl, rfl, rfl, rfl⟩
      have alike := solos.alike apart rfl begins
      have twin : next.Twin (uses number) number { world.taken none with names := next.names } :=
        { alike with names := rfl }
      obtain ⟨_, _, waits⟩ := twin.cycle_blocked (keeps next.names) blocked
      exact ⟨number, member, next.names, ⟨ran, rest, next, outcomes, split, dispatch, rfl⟩,
        prompt.only_blocked running inside (keeps next.names) waits⟩

section

variable {generator : Option Generator} {units : List BirthNumber}
  (timetable : world.Timetable) (first : world.Decomposes uses random order)
  (second : world.Decomposes uses generator units)
  (permuted : order.Perm world.executor.schedule.values)
  (again : units.Perm world.executor.schedule.values)
  (named : ∀ number names others, (world.launch random order).Finds order number names →
    (world.launch generator units).Finds units number others → names = others)

include timetable first second permuted again named

/-- Two ticks over the same units come to the same if both have an answer. -/
theorem Decomposes.same_some {ticked other : World V × TickResults V}
    (ran : (world.taken random).tickOver order = some ticked)
    (ranAgain : (world.taken generator).tickOver units = some other) : SameTick ticked other := by
  have members : ∀ number, number ∈ order ↔ number ∈ units := fun number =>
    permuted.mem_iff.trans again.mem_iff.symm
  obtain ⟨agents, ids, untouched⟩ := first.others ticked ran
  obtain ⟨otherAgents, otherIds, otherUntouched⟩ := second.others other ranAgain
  have together : ∀ number ∈ order, ComesOut (uses number) number ticked other := by
    intro number member
    obtain ⟨names, ⟨_, _⟩, finds, alone, out⟩ := first.alone ticked ran number member
    obtain ⟨others, ⟨_, _⟩, findsAgain, aloneAgain, outAgain⟩ :=
      second.alone other ranAgain number ((members number).mp member)
    obtain rfl := named number names others finds findsAgain
    cases alone.symm.trans aloneAgain
    exact out.trans outAgain.symm
  have whose : ∀ id ∈ world.executor.schedule.agents,
      ∃ number ∈ order, (world.agent number).id = id := by
    intro id member
    rw [← timetable.map_id_values, ← (permuted.map _).mem_iff] at member
    exact List.mem_map.mp member
  refine ⟨fun number => ?_, fun id => ?_, fun goal => ?_, fun id => ?_⟩
  · by_cases member : number ∈ order
    · exact (together number member).state
    · rw [untouched.agent number member,
        otherUntouched.agent number fun listed => member ((members number).mpr listed)]
  · by_cases scheduled : id ∈ world.executor.schedule.agents
    · obtain ⟨number, member, rfl⟩ := whose id scheduled
      have slots := (together number member).slot
      rwa [ids, otherIds] at slots
    · rw [AgentIndex.find?_eq_none (agents ▸ scheduled),
        AgentIndex.find?_eq_none (otherAgents ▸ scheduled)]
  · by_cases used : ∃ number ∈ order, uses number goal
    · obtain ⟨number, member, uses⟩ := used
      exact (together number member).flags goal uses
    · rw [untouched.flags goal fun number member uses => used ⟨number, member, uses⟩,
        otherUntouched.flags goal fun number member uses =>
          used ⟨number, (members number).mpr member, uses⟩]
  · by_cases named : ∃ number ∈ order, (world.agent number).id = id
    · obtain ⟨number, member, rfl⟩ := named
      have scheduled := (together number member).scheduled
      rwa [ids, otherIds] at scheduled
    · unfold AgentIndex.contains
      rw [untouched.entry id fun number member same => named ⟨number, member, same⟩,
        otherUntouched.entry id fun number member same =>
          named ⟨number, (members number).mpr member, same⟩]

/-- Two ticks over the same units come to the same. -/
theorem Decomposes.same :
    Option.Rel SameTick ((world.taken random).tickOver order)
      ((world.taken generator).tickOver units) := by
  have members : ∀ number, number ∈ order ↔ number ∈ units := fun number =>
    permuted.mem_iff.trans again.mem_iff.symm
  cases ran : (world.taken random).tickOver order with
  | none =>
    obtain ⟨number, member, names, finds, none⟩ := first.unanswered ran
    cases ranAgain : (world.taken generator).tickOver units with
    | none => exact .none
    | some other =>
      obtain ⟨others, lone, findsAgain, alone, _⟩ :=
        second.alone other ranAgain number ((members number).mp member)
      obtain rfl := named number names others finds findsAgain
      cases none.symm.trans alone
  | some ticked =>
    cases ranAgain : (world.taken generator).tickOver units with
    | none =>
      obtain ⟨number, member, others, findsAgain, none⟩ := second.unanswered ranAgain
      obtain ⟨names, lone, finds, alone, _⟩ :=
        first.alone ticked ran number ((members number).mpr member)
      obtain rfl := named number names others finds findsAgain
      cases none.symm.trans alone
    | some other =>
      exact .some (first.same_some timetable second permuted again named ran ranAgain)

end

/-- A tick of agents that keep to themselves comes to what it comes to for each of them alone, in
whatever order they are dispatched. Two orders come to the same if every agent finds the same names
in both; all find those with which the tick begins when no cycle names an interceptor. -/
theorem Prompt.tick_decomposes (prompt : world.Prompt)
    (running : world.executor.isShutDown = false) (secluded : world.Secluded uses) :
    (∃ random order, order.Perm world.executor.schedule.values ∧
      world.tick =
        ((world.taken random).tickOver order).map fun (final, results) => (final, .ok results)) ∧
    (∀ random order, order.Perm world.executor.schedule.values →
      world.Decomposes uses random order ∧
        (world.Frugal → ∀ number names, (world.launch random order).Finds order number names →
          names = world.names)) ∧
    ∀ random order generator units, order.Perm world.executor.schedule.values →
      units.Perm world.executor.schedule.values →
        (∀ number names others, (world.launch random order).Finds order number names →
          (world.launch generator units).Finds units number others → names = others) →
        Option.Rel SameTick ((world.taken random).tickOver order)
          ((world.taken generator).tickOver units) := by
  refine ⟨world.tick_eq running, fun random order permuted => ⟨?_, ?_⟩, ?_⟩
  · exact prompt.decomposes running secluded random permuted
  · exact fun frugal number names => secluded.names prompt.toTimetable permuted frugal
  · intro random order generator units permuted again named
    exact (prompt.decomposes running secluded random permuted).same prompt.toTimetable
      (prompt.decomposes running secluded generator again) permuted again named

end

end World

/-! ## An agent that fails among others -/

namespace Market

/-- The settings of an executor with two workers. -/
def workshop : ExecutorSettings := { poolSize := 2, seed := some 7, unitTimeout := none }

/-- A world of three agents: one that a goal waits for, one whose plan fails, and one that acts. -/
def trio : World vocabulary :=
  let world := World.new workshop (.new none)
  let world := (world.spawn (AgentId.ofNat 1) seeker).1
  let world := (world.spawn (AgentId.ofNat 2) <|
    Design.empty.withInitialPlan (resultPlan (.error (.failed "broken")))).1
  let world := (world.spawn (AgentId.ofNat 3) <|
    Design.empty.withInitialPlan (resultPlan (.ok (some (.offered 3))))).1
  world.arrive 0 (.goal utopia)

/-- All three agents of the trio are scheduled. -/
theorem trio_schedule : trio.executor.schedule =
    [(AgentId.ofNat 1, 0), (AgentId.ofNat 2, 1), (AgentId.ofNat 3, 2)] :=
  rfl

/-- The schedule of the trio is in order, and no cycle is abandoned. -/
theorem trio_prompt : trio.Prompt where
  ordered := by
    unfold AgentIndex.Ordered
    decide
  entry := by
    intro id number member
    have entries : ∀ entry ∈ trio.executor.schedule,
        entry.2 < trio.agents.size ∧ (trio.agent entry.2).id = entry.1 := by decide +kernel
    exact entries (id, number) member
  staffed := by decide
  noDeadline := rfl
  noneAbandoned := rfl

/-- A plan that only returns a result looks at no goals. -/
theorem resultPlan_discreet (own : GoalId → Prop)
    (result : Except PlanError (Option TradeAction)) : (resultPlan result).Discreet own := by
  intro memory
  cases memory with
  | zero => exact .finish (.done _ _)
  | succ memory => exact .finish (.done _ _)

/-- The schemes of a seeker look at no goals. -/
theorem seeker_discreet (own : GoalId → Prop) (category : Category) :
    ∀ scheme ∈ seeker.schemes.get category, scheme.Discreet own := by
  intro scheme member
  cases category with
  | goal =>
    cases List.mem_singleton.mp member
    refine ⟨fun _ _ _ => rfl, ?_⟩
    rintro plan ⟨pursuit, view, trigger, made⟩ memory
    obtain ⟨handle, _, rfl⟩ := Option.map_eq_some_iff.mp (Except.ok.inj made)
    exact .done _ _
  | external | internal | message => cases member

/-- Agents with one plan that only has a result keep to themselves. -/
theorem resultPlan_agent_discreet (own : GoalId → Prop)
    (result : Except PlanError (Option TradeAction)) (id : AgentId) :
    (Agent.ofBlueprint id (Design.empty.withInitialPlan (resultPlan result)).build
      (some .executor) true).Discreet own := by
  refine .ofBlueprint ?_ ?_ ?_ ?_ id _ _
  · intro category scheme member
    cases category <;> cases member
  · intro category interceptor member
    cases category <;> cases member
  · intro plan member
    cases List.mem_singleton.mp member
    exact resultPlan_discreet own result
  · exact fun _ member => absurd member List.not_mem_nil

/-- The goal belongs to the first agent. -/
def trioUses (number : BirthNumber) (goal : GoalId) : Prop := number = 0 ∧ goal = utopia.id

/-- Each agent of the trio uses its own goals only. -/
theorem trio_discreet :
    ∀ number ∈ trio.executor.schedule.values, (trio.agent number).Discreet (trioUses number) := by
  have seeks : (Agent.ofBlueprint (AgentId.ofNat 1) seeker.build (some .executor) true).Discreet
      (trioUses 0) := by
    refine .ofBlueprint (seeker_discreet _) ?_ ?_ ?_ _ _ _
    · intro category interceptor member
      cases category <;> cases member
    · exact fun _ member => absurd member List.not_mem_nil
    · exact fun _ member => absurd member List.not_mem_nil
  have waits : Arrival.Within (trioUses 0) (.goal utopia) := ⟨rfl, rfl⟩
  rw [trio_schedule]
  refine List.forall_mem_cons.mpr ⟨seeks.receive waits, List.forall_mem_cons.mpr ⟨?_, ?_⟩⟩
  · exact resultPlan_agent_discreet _ _ _
  · intro number member
    cases List.mem_singleton.mp member
    exact resultPlan_agent_discreet _ _ _

/-- The agents of the trio keep to themselves. -/
theorem trio_secluded : trio.Secluded trioUses where
  keeps := fun number member _ => .of_discreet (trio_discreet number member)
  apart := by
    rintro number _ other _ different goal ⟨rfl, _⟩ ⟨rfl, _⟩
    exact different rfl

end Market

/-- In whatever order the three agents are dispatched, the first pursues its goal, the second fails
and the third acts. -/
theorem World.Prompt.tick_decomposes_trio :
    Market.trio.Prompt ∧ Market.trio.executor.isShutDown = false ∧
      Market.trio.Secluded Market.trioUses ∧ Market.trio.Frugal ∧
      ∀ random order, order.Perm Market.trio.executor.schedule.values →
        ∃ ticked, (Market.trio.taken random).tickOver order = some ticked ∧
          ticked.2.find? (AgentId.ofNat 1) = some (.ok []) ∧
          ticked.2.find? (AgentId.ofNat 2) =
            some (.error (.deliberation (AgentId.ofNat 2) (.failed "broken"))) ∧
          ticked.2.find? (AgentId.ofNat 3) = some (.ok [.offered 3]) := by
  have frugal : Market.trio.Frugal := by
    unfold World.Frugal
    rw [Market.trio_schedule]
    refine List.forall_mem_cons.mpr ⟨rfl, List.forall_mem_cons.mpr ⟨rfl, ?_⟩⟩
    intro number member
    cases List.mem_singleton.mp member
    rfl
  obtain ⟨⟨seeded, dispatched, permuted, ticks⟩, decomposes, same⟩ :=
    Market.trio_prompt.tick_decomposes rfl Market.trio_secluded
  have shown : (Market.trio.tick.map fun ticked => ticked.2.toOption.map fun results =>
      [1, 2, 3].map fun id => results.find? (AgentId.ofNat id)) =
        some (some [some (.ok []),
          some (.error (.deliberation (AgentId.ofNat 2) (.failed "broken"))),
          some (.ok [.offered 3])]) := by
    decide +kernel
  refine ⟨Market.trio_prompt, rfl, Market.trio_secluded, frugal, fun random order again => ?_⟩
  have both := same seeded dispatched random order permuted again fun number names others finds
    findsAgain => ((decomposes seeded dispatched permuted).2 frugal number names finds).trans
      ((decomposes random order again).2 frugal number others findsAgain).symm
  rw [ticks] at shown
  cases ran : (Market.trio.taken seeded).tickOver dispatched with
  | none =>
    rw [ran] at shown
    cases shown
  | some ticked =>
    rw [ran] at shown both
    have slots : [1, 2, 3].map (fun id => ticked.2.find? (AgentId.ofNat id)) = _ :=
      Option.some.inj (Option.some.inj shown)
    obtain ⟨first, slots⟩ := List.cons.inj slots
    obtain ⟨second, slots⟩ := List.cons.inj slots
    obtain ⟨third, _⟩ := List.cons.inj slots
    cases ranAgain : (Market.trio.taken random).tickOver order with
    | none =>
      rw [ranAgain] at both
      cases both
    | some other =>
      rw [ranAgain] at both
      cases both with
      | some agrees =>
        exact ⟨other, rfl, (agrees.slot _).symm.trans first, (agrees.slot _).symm.trans second,
          (agrees.slot _).symm.trans third⟩

end Deliberation
