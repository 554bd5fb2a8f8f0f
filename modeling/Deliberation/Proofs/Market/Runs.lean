import Deliberation.Proofs.Market.Targets
import Deliberation.Proofs.Wakefulness

/-!
# Runs of a population

`Population.Trades` is a run of a population: the traders are spawned into a fresh world, and then
ticks follow, each of which runs the scheduled traders in any order. `Standing` is what holds of the
population between two cycles, and `Eager` says that whoever has a target is scheduled for the next
tick. A cycle keeps the one (`Standing.cycle`), and a tick keeps both (`Standing.tick`).
-/

namespace Deliberation.Market

open Population (traderId)

/-! ## Reports -/

/-- The actions that a slot shows of a trader. -/
def actionsOf (self : AgentId) : Slot vocabulary → History
  | .ok actions => actions.map fun action => (self, action)
  | .error _ => []

/-- The actions that the results of a tick report. -/
def reported (results : TickResults vocabulary) : History :=
  results.flatMap fun (self, slot) => actionsOf self slot

namespace Population

/-- A run of a population. The generator and the order of each tick are arbitrary. -/
inductive Trades (population : Population) (settings : ExecutorSettings) (codec : Option Codec) :
    World vocabulary → History → Prop where
  /-- The traders are spawned and get their targets. -/
  | opened : Trades population settings codec
      (population.spawn (World.new settings (.new codec))) []
  /-- The scheduled traders run, one after the other, and report what they did. -/
  | tick {world next : World vocabulary} {history : History} {random : Option Generator}
      {order : List BirthNumber} {results : TickResults vocabulary}
      (before : Trades population settings codec world history)
      (permuted : order.Perm world.executor.schedule.values)
      (ticked : (world.taken random).tickOver order = some (next, results)) :
      Trades population settings codec next (history ++ reported results)

/-- The run in which the executor makes a number of ticks and chooses their orders. -/
def afterTicks (population : Population) (settings : ExecutorSettings) (codec : Option Codec) :
    Nat → Option (World vocabulary × History)
  | 0 => some (population.spawn (World.new settings (.new codec)), [])
  | count + 1 =>
    match population.afterTicks settings codec count with
    | none => none
    | some (world, history) =>
      match world.tick with
      | some (next, .ok results) => some (next, history ++ reported results)
      | _ => none

end Population

/-! ## The opening -/

section Opening

variable (population : Population)

/-- A trader that has just been spawned. -/
def newcomer (index : Nat) : Trader :=
  { book := population.book index, mail := [], wishes := [population.target index], goals := []
    plans := [] }

variable {population} {world : World vocabulary} {count : Nat}

/-- A spawned trader gets its target. -/
theorem spawnTrader_eq {traders : Nat → Trader} (hosts : Hosts world count traders)
    (small : count < largestWord) :
    population.spawnTrader world count =
      (world.spawn (traderId count) (trader (population.book count))).1.arrive count
        (.goal (population.target count)) := by
  obtain ⟨spawned, -⟩ := hosts.spawn small (population.book count)
  unfold Population.spawnTrader
  generalize world.spawn (traderId count) (trader (population.book count)) = result at spawned
  obtain ⟨next, outcome⟩ := result
  cases spawned
  rfl

/-- A trader that is spawned joins the market at its end. -/
theorem spawnTrader_hosts (hosts : Hosts world count (newcomer population))
    (small : count < largestWord) :
    Hosts (population.spawnTrader world count) (count + 1) (newcomer population) := by
  obtain ⟨-, spawned⟩ := hosts.spawn small (population.book count)
  rw [spawnTrader_eq hosts small]
  have targeted := spawned.arriveGoal (Nat.lt_succ_self count) (population.target count)
  rw [Function.update_self, Function.update_idem] at targeted
  have same : Function.update (newcomer population) count (newcomer population count) =
      newcomer population := Function.update_eq_self _ _
  rw [← same]
  exact targeted

/-- The traders are spawned in a run of the platform. -/
theorem spawn_opens {settings : ExecutorSettings} {codec : Option Codec}
    (faithful : ∀ carrier, codec = some carrier → Faithful carrier) (small : count ≤ largestWord) :
    let world := (List.range count).foldl population.spawnTrader
      (World.new settings (.new codec))
    Reachable settings (.new codec) world ∧ Hosts world count (newcomer population) ∧
      world.pursuit = Pursuit.none := by
  induction count with
  | zero =>
    refine ⟨.start, ?_, rfl⟩
    exact
      { size := rfl, agent := fun index inside => absurd inside (Nat.not_lt_zero index)
        registry := rfl, routing := rfl, entries := rfl, codec := faithful }
  | succ count ih =>
    obtain ⟨reachable, hosts, unflagged⟩ := ih (Nat.le_of_lt small)
    rw [List.range_succ, List.foldl_append]
    refine ⟨?_, spawnTrader_hosts hosts small, ?_⟩ <;>
      rw [List.foldl_cons, List.foldl_nil, spawnTrader_eq hosts small]
    · exact .operate
        (.operate reachable (.spawn (traderId count) (trader (population.book count)))
          (.inr (hosts.fresh small)))
        (.arrive count (.goal (population.target count))) trivial
    · rw [World.pursuit_arrive]
      exact (World.pursuit_spawn _ _ _).trans unflagged

/-- Before the first tick nothing is done and nothing waits. -/
theorem newcomer_ledger (word : population.maxPrice ≤ largestWord) :
    Ledger population (newcomer population) 0 [] [] := by
  have nothing : ∀ measure, waiting measure population.traders (newcomer population) = 0 :=
    fun measure => Finset.sum_eq_zero fun _ _ => rfl
  refine { orderly := fun index _ => ?_, purchases := ?_, sales := ?_ }
  · have bound : (population.book index).maxPrice = max population.maxPrice 1 :=
      Book.maxPrice_ofSeed _ _
    exact
      { reservation := rfl
        positive := by
          refine Nat.lt_of_lt_of_eq ?_ bound.symm
          exact Nat.lt_of_lt_of_le Nat.zero_lt_one (Nat.le_max_right _ _)
        word := bound.le.trans (max_le word (by decide))
        idle := rfl
        known := fun message member => (nomatch member) }
  · rw [nothing]
    simp [Population.offered, History.bought]
  · rw [nothing]
    simp [History.sold, History.bought]

end Opening

/-! ## Between two cycles -/

/-- What holds of a population between two cycles. -/
structure Standing (population : Population) (world : World vocabulary) (traders : Nat → Trader)
    (history : History) : Prop where
  hosts : Hosts world population.traders traders
  ledger : Ledger population traders 0 [] history
  aims : ∀ index < population.traders,
    (traders index).Aims population index (history.sales (traderId index))
  /-- No plan pursues a goal. -/
  calm : ∀ goal, world.pursuit.isPursued goal = false

/-- Traders with something to aim at are scheduled. -/
def Eager (world : World vocabulary) (count : Nat) (traders : Nat → Trader) : Prop :=
  ∀ index < count, (traders index).ambitions ≠ [] →
    traderId index ∈ world.executor.schedule.agents

/-- The results of a tick report what the slots of its cycles do, in the order of the traders. -/
theorem reported_perm {slots : TickResults vocabulary} (distinct : (slots.map Prod.fst).Nodup) :
    (reported slots).Perm (reported (AgentIndex.insertAll [] slots)) := by
  have inserted : (AgentIndex.insertAll [] slots).Perm (slots ++ []) :=
    AgentIndex.insertAll_perm distinct fun _ _ => List.not_mem_nil
  rw [List.append_nil] at inserted
  exact inserted.symm.flatMap_right _

section Standing

variable {population : Population} {world next : World vocabulary} {traders : Nat → Trader}
  {history : History}

/-- A balance does not depend on the order of the actions. -/
theorem Ledger.perm {number : BirthNumber} {errands : List Errand} {other : History}
    (ledger : Ledger population traders number errands history) (perm : history.Perm other) :
    Ledger population traders number errands other := by
  have sold : (history.sold : Multiset Trade) = other.sold :=
    Multiset.coe_eq_coe.mpr (perm.filterMap _)
  have bought : (history.bought : Multiset Trade) = other.bought :=
    Multiset.coe_eq_coe.mpr (perm.filterMap _)
  have offered : (population.offered history : Multiset Trade) = population.offered other :=
    Multiset.coe_eq_coe.mpr (perm.flatMap_right _)
  exact
    { orderly := ledger.orderly
      purchases := by rw [← offered, ← bought]; exact ledger.purchases
      sales := by rw [← bought, ← sold]; exact ledger.sales }

/-- Traders without plans pursue nothing. -/
theorem Hosts.calm {count : Nat} (hosts : Hosts world count traders)
    (idle : ∀ index < count, (traders index).plans = []) (backed : world.Backed []) (goal : GoalId) :
    world.pursuit.isPursued goal = false := by
  by_contra flagged
  rcases backed goal (Bool.not_eq_false _ ▸ flagged) with ⟨number, active, member, -⟩ | ⟨_, inHand, -⟩
  · by_cases inside : number < count
    · rw [hosts.agent number inside] at member
      have held : active ∈ (traders number).plans := member
      rw [idle number inside] at held
      cases held
    · rw [World.agent_outside world (hosts.size ▸ Nat.le_of_not_lt inside)] at member
      cases member
  · cases inHand

namespace Standing

/-- Only agents, registry, messenger and flags matter. -/
theorem congr (standing : Standing population world traders history)
    (agents : next.agents = world.agents) (registry : next.registry = world.registry)
    (messenger : next.messenger = world.messenger) (pursuit : next.pursuit = world.pursuit) :
    Standing population next traders history where
  hosts := standing.hosts.congr agents registry messenger
  ledger := standing.ledger
  aims := standing.aims
  calm := pursuit ▸ standing.calm

/-- The books stand the same in whatever order a history is told. -/
theorem perm {other : History} (standing : Standing population world traders history)
    (perm : history.Perm other) : Standing population world traders other where
  hosts := standing.hosts
  ledger := standing.ledger.perm perm
  aims := fun index inside => History.sales_perm perm _ ▸ standing.aims index inside
  calm := standing.calm

variable (small : population.traders ≤ largestWord)
include small

/-- A cycle of a trader ends, and its actions keep what holds of the population. If the trader still
has something to aim at, it asks for another cycle; what the others aim at does not change. -/
theorem cycle (standing : Standing population world traders history) {number : BirthNumber}
    (inside : number < population.traders) :
    ∃ next later actions again,
      world.cycle number none = .ended next (.acted actions again) ∧
      Standing population next later
        (history ++ actionsOf (traderId number) (.ok actions)) ∧
      ((later number).ambitions ≠ [] → again = true) ∧
      ∀ index ≠ number, (later index).ambitions = (traders index).ambitions := by
  have orderly := standing.ledger.orderly number inside
  have aims := standing.aims number inside
  obtain ⟨next, later, offers, actions, again, ran, hosts, toil, asks⟩ :=
    standing.hosts.cycle small inside orderly.idle orderly.known
  have ledger := ((standing.ledger.turn number).begin inside (traders number).targets offers).toil
    small inside toil
  have begun : ∀ index < population.traders,
      (Function.update traders number
        { book := (traders number).book, mail := [], wishes := []
          goals := (traders number).targets, plans := [] } index).Aims population index
        (history.sales (traderId index)) := by
    intro index insideIndex
    by_cases same : index = number
    · subst same
      rw [Function.update_self]
      exact aims.begin
    · rw [Function.update_of_ne same]
      exact standing.aims index insideIndex
  have backed := World.cycle_backed (standing.hosts.size ▸ inside) ran nofun
    fun goal flagged => absurd flagged (by simp [standing.calm goal])
  refine ⟨next, later, actions, again, ran, ?_, fun some => asks ?_, fun index different => ?_⟩
  · exact
      { hosts
        ledger := ledger.turn 0
        aims := fun index insideIndex => by
          rw [History.sales_append]
          exact (begun index insideIndex).keeps (toil.keeps index)
        calm := hosts.calm (fun index insideIndex => (ledger.orderly index insideIndex).idle) backed }
  · rw [(toil.keeps number).ambitions, Function.update_self] at some
    exact aims.wanted (by simpa [Trader.ambitions] using some) standing.calm
  · rw [(toil.keeps index).ambitions, Function.update_of_ne different]

/-- Cycles of traders end in their turn, and what they report keeps what holds of the population.
Whoever still has something to aim at has asked for another cycle, or had no turn. -/
theorem dispatch (standing : Standing population world traders history) {units : List BirthNumber}
    (inside : ∀ number ∈ units, number < population.traders) :
    ∃ after outcomes later, World.Dispatch world units after outcomes ∧
      Standing population after later (history ++ reported (after.slots outcomes)) ∧
      ∀ index, (later index).ambitions ≠ [] →
        (∃ actions, (index, .acted actions true) ∈ outcomes) ∨
          index ∉ units ∧ (traders index).ambitions ≠ [] := by
  induction units generalizing world traders history with
  | nil =>
    refine ⟨world, [], traders, .nil world, ?_, fun index some => .inr ⟨List.not_mem_nil, some⟩⟩
    rw [show reported (world.slots []) = [] from rfl, List.append_nil]
    exact standing
  | cons number rest ih =>
    have present := inside number List.mem_cons_self
    obtain ⟨next, worked, actions, again, ran, stands, asks, others⟩ :=
      standing.cycle small present
    obtain ⟨after, outcomes, later, dispatched, standsAfter, eager⟩ :=
      ih stands fun other member => inside other (List.mem_cons_of_mem _ member)
    refine ⟨after, (number, .acted actions again) :: outcomes, later, .cons ran dispatched, ?_,
      fun index some => ?_⟩
    · have reports : reported (after.slots ((number, .acted actions again) :: outcomes)) =
          actionsOf (traderId number) (.ok actions) ++ reported (after.slots outcomes) := by
        rw [← standsAfter.hosts.id present]
        rfl
      rw [reports, ← List.append_assoc]
      exact standsAfter
    · rcases eager index some with ⟨acted, member⟩ | ⟨noTurn, some⟩
      · exact .inl ⟨acted, List.mem_cons_of_mem _ member⟩
      · by_cases same : index = number
        · subst same
          rw [asks some]
          exact .inl ⟨actions, List.mem_cons_self⟩
        · rw [others index same] at some
          exact .inr ⟨by simp [same, noTurn], some⟩

/-- Among the scheduled traders is everyone with something to aim at. -/
theorem mem_schedule (timetable : world.Timetable)
    (standing : Standing population world traders history)
    (eager : Eager world population.traders traders) {index : Nat}
    (inside : index < population.traders) (some : (traders index).ambitions ≠ []) :
    index ∈ world.executor.schedule.values := by
  obtain ⟨⟨id, number⟩, listed, same⟩ := List.mem_map.mp (eager index inside some)
  obtain ⟨present, named⟩ := timetable.entry listed
  rw [standing.hosts.size] at present
  have equal : traderId number = traderId index :=
    calc traderId number = (world.agent number).id := (standing.hosts.id present).symm
      _ = id := named
      _ = traderId index := same
  rw [traderId_inj (present.trans_le small) (inside.trans_le small)] at equal
  exact equal ▸ List.mem_map_of_mem (f := Prod.snd) listed

/-- A tick of traders has an answer, in whatever order they run, and what it reports keeps what holds
of the population. Whoever still has something to aim at is scheduled again. -/
theorem tick {settings : ExecutorSettings} {codec : Option Codec}
    (noDeadline : settings.unitTimeout = none)
    (reachable : Reachable settings (.new codec) world)
    (standing : Standing population world traders history)
    (eager : Eager world population.traders traders) (random : Option Generator)
    {order : List BirthNumber} (permuted : order.Perm world.executor.schedule.values) :
    ∃ next results later, (world.taken random).tickOver order = some (next, results) ∧
      Reachable settings (.new codec) next ∧
      Standing population next later (history ++ reported results) ∧
      Eager next population.traders later := by
  have wired := (reachable.wired_awake noDeadline).1
  have inside : ∀ number ∈ order, number < population.traders := by
    intro number member
    rw [← standing.hosts.size]
    exact wired.values_inside (permuted.mem_iff.mp member)
  have launched : Standing population (world.launch random order) traders history :=
    standing.congr rfl rfl rfl rfl
  obtain ⟨after, outcomes, later, dispatch, stands, asked⟩ := launched.dispatch small inside
  have told := wired.exactTick permuted dispatch
  obtain ⟨flight, steps, finished, landed⟩ := Flight.of_dispatch dispatch
  refine ⟨after.land world.clock outcomes, AgentIndex.insertAll [] (after.slots outcomes), later,
    (wired.toPrompt.taken random).tickOver dispatch, ?_, ?_, fun index insideIndex some => ?_⟩
  · rw [← landed]
    exact .fly reachable permuted steps finished _
  · have landing : Standing population (after.land world.clock outcomes) later _ :=
      stands.congr rfl rfl rfl rfl
    have slots := reported_perm
      ((wired.slots_perm permuted dispatch).nodup_iff.mpr wired.ordered.nodup)
    exact landing.perm (slots.append_left history)
  · rcases asked index some with ⟨actions, member⟩ | ⟨noTurn, some⟩
    · exact AgentIndex.contains_iff.mp ((told.scheduled _).mpr
        (.inr ⟨index, _, member, standing.hosts.id insideIndex, rfl⟩))
    · have scheduled := standing.mem_schedule small wired.toTimetable eager insideIndex some
      exact absurd (permuted.mem_iff.mpr scheduled) noTurn

end Standing

end Standing

/-! ## Runs -/

namespace Population.Trades

variable {population : Population} {settings : ExecutorSettings} {codec : Option Codec}
  {world : World vocabulary} {history : History} (noDeadline : settings.unitTimeout = none)
include noDeadline

section Ticks

variable (faithful : ∀ carrier, codec = some carrier → Faithful carrier)
  (small : population.traders ≤ largestWord) (word : population.maxPrice ≤ largestWord)
include faithful small word

/-- Before the first tick every trader has its target before it. -/
theorem opens :
    let world := population.spawn (World.new settings (.new codec))
    Reachable settings (.new codec) world ∧ Standing population world (newcomer population) [] ∧
      Eager world population.traders (newcomer population) := by
  intro world
  obtain ⟨reachable, hosts, unflagged⟩ := @spawn_opens population _ settings codec faithful small
  refine ⟨reachable, ?_, fun index inside _ => ?_⟩
  · exact
      { hosts, ledger := newcomer_ledger word
        aims := fun index _ => { booked := Nat.le_refl _, target := .inl rfl }
        calm := fun goal => congrArg (Pursuit.isPursued · goal) unflagged }
  · have awake := (reachable.wired_awake noDeadline).2 index
    unfold World.Awake at awake
    rw [hosts.agent index inside] at awake
    exact List.mem_map_of_mem (f := Prod.fst) (AgentIndex.mem_of_find? (awake rfl))

/-- What holds of the population between any two ticks. -/
theorem stands (trades : population.Trades settings codec world history) :
    Reachable settings (.new codec) world ∧ ∃ traders,
      Standing population world traders history ∧ Eager world population.traders traders := by
  induction trades with
  | opened =>
    obtain ⟨reachable, standing, eager⟩ := opens noDeadline faithful small word
    exact ⟨reachable, newcomer population, standing, eager⟩
  | @tick world next history random order results before permuted ticked ih =>
    obtain ⟨reachable, traders, standing, eager⟩ := ih
    obtain ⟨landed, reports, later, answered, reachableLanded, stands, eagerLanded⟩ :=
      standing.tick small noDeadline reachable eager random permuted
    rw [answered] at ticked
    cases ticked
    exact ⟨reachableLanded, later, stands, eagerLanded⟩

/-- In whatever order the traders run next, they all come to the end of their cycles. -/
theorem continues (trades : population.Trades settings codec world history)
    (random : Option Generator) {order : List BirthNumber}
    (permuted : order.Perm world.executor.schedule.values) :
    ∃ next results, (world.taken random).tickOver order = some (next, results) ∧
      population.Trades settings codec next (history ++ reported results) := by
  obtain ⟨reachable, traders, standing, eager⟩ := trades.stands noDeadline faithful small word
  obtain ⟨next, results, -, answered, -⟩ :=
    standing.tick small noDeadline reachable eager random permuted
  exact ⟨next, results, answered, .tick trades permuted answered⟩

/-- The executor makes a tick, in an order of its choice. -/
theorem ticks (trades : population.Trades settings codec world history) :
    ∃ next results, world.tick = some (next, .ok results) ∧
      population.Trades settings codec next (history ++ reported results) := by
  have wired := ((trades.stands noDeadline faithful small word).1.wired_awake noDeadline).1
  obtain ⟨random, order, permuted, ticked⟩ := world.tick_eq wired.running
  obtain ⟨next, results, answered, later⟩ :=
    trades.continues noDeadline faithful small word random permuted
  rw [answered] at ticked
  exact ⟨next, results, ticked, later⟩

/-- The executor can make any number of ticks. -/
theorem of_ticks (count : Nat) :
    ∃ world history, population.afterTicks settings codec count = some (world, history) ∧
      population.Trades settings codec world history := by
  induction count with
  | zero => exact ⟨_, _, rfl, .opened⟩
  | succ count ih =>
    obtain ⟨world, history, ran, trades⟩ := ih
    obtain ⟨next, results, ticked, later⟩ := trades.ticks noDeadline faithful small word
    refine ⟨next, history ++ reported results, ?_, later⟩
    simp only [Population.afterTicks, ran, ticked]

end Ticks

/-- Nothing waits for a trader when none is scheduled. -/
theorem silent {traders : Nat → Trader} (reachable : Reachable settings (.new codec) world)
    (hosts : Hosts world population.traders traders) (calm : world.executor.schedule = [])
    {index : Nat} (inside : index < population.traders) :
    (traders index).mail = [] ∧ (traders index).wishes = [] := by
  have awake := (reachable.wired_awake noDeadline).2 index
  unfold World.Awake at awake
  rw [calm, hosts.agent index inside] at awake
  by_contra filled
  have pending : ((traders index).agent (traderId index)).hasPendingWork = true := by
    rcases not_and_or.mp filled with mail | wishes
    · simp [Trader.agent, Agent.hasPendingWork, Agent.ofBlueprint, Inbox.isEmpty, mail]
    · simp [Trader.agent, Agent.hasPendingWork, Agent.ofBlueprint, Inbox.isEmpty, wishes]
  cases awake pending

end Population.Trades

end Deliberation.Market
