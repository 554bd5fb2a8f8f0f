import Deliberation.Proofs.Market.Runs
import Deliberation.Proofs.Rounds

/-!
# Traders that rest have met their targets

A trader that has not met its target is scheduled for every tick: it plans for its target in each of
its cycles, because no plan pursues the target any more when the cycle begins, and whoever executed a
plan runs again. So when nobody is scheduled, all targets are met, and nothing is left to do. A
simulation that stops when it is idle stops in such a world.
-/

namespace Deliberation.Market

open Population (traderId)

/-- A trader takes part, has met its target, and has nothing left to do. -/
structure Population.Satisfied (population : Population) (world : World vocabulary)
    (history : History) (index : Nat) : Prop where
  present : world.registry.find? (traderId index) = some index
  id : (world.agent index).id = traderId index
  sales : population.salesTarget ≤ history.sales (traderId index)
  goals : (world.agent index).goals = []
  inbox : (world.agent index).inbox = Inbox.empty
  plans : (world.agent index).plans = []

section Rest

variable {population : Population} {settings : ExecutorSettings} {codec : Option Codec}
  {world : World vocabulary} {traders : Nat → Trader} {history : History}

/-- A population of which nobody is scheduled is satisfied. -/
theorem Standing.satisfied (small : population.traders ≤ largestWord)
    (noDeadline : settings.unitTimeout = none)
    (reachable : Reachable settings (.new codec) world)
    (standing : Standing population world traders history)
    (eager : Eager world population.traders traders) (calm : world.executor.schedule = [])
    {index : Nat} (inside : index < population.traders) :
    population.Satisfied world history index := by
  have agent := standing.hosts.agent index inside
  have aimless : (traders index).ambitions = [] := by
    by_contra some
    have scheduled := eager index inside some
    rw [calm] at scheduled
    cases scheduled
  have goals : (traders index).goals = [] := (List.append_eq_nil_iff.mp aimless).1
  have enough : population.salesTarget ≤ history.sales (traderId index) := by
    rcases (standing.aims index inside).target with has | ⟨-, enough⟩
    · rw [aimless] at has
      cases has
    · exact enough
  obtain ⟨mail, wishes⟩ :=
    Population.Trades.silent noDeadline reachable standing.hosts calm inside
  have plans := (standing.ledger.orderly index inside).idle
  refine
    { present := ?_, id := ?_, sales := enough, goals := ?_, inbox := ?_, plans := ?_ }
  · rw [standing.hosts.registry]
    exact find?_roster small inside
  · exact standing.hosts.id inside
  · rw [agent]
    exact goals
  · rw [agent, Trader.agent, mail, wishes]
    rfl
  · rw [agent]
    exact plans

/-! ## Simulations that stop when they are idle -/

/-- No trader is ever done, so none is taken out. -/
theorem Hosts.reap {count : Nat} (hosts : Hosts world count traders) : world.reap.1 = world := by
  have nobody : world.registry.filter (fun entry => (world.agent entry.2).done) = [] := by
    rw [hosts.registry]
    refine List.filter_eq_nil_iff.mpr fun entry member => ?_
    obtain ⟨index, listed, rfl⟩ := List.mem_map.mp member
    rw [hosts.agent index (List.mem_range.mp listed)]
    exact Bool.false_ne_true
  unfold World.reap
  simp only [nobody]
  rfl

/-- An iteration makes a tick, and asks for the end when nobody is scheduled any more. -/
theorem iterate_idle {run : Run vocabulary} {next : World vocabulary}
    {results : TickResults vocabulary} (ticked : run.world.tick = some (next, .ok results))
    (reaped : next.reap.1 = next) :
    Simulation.iterate [idleHook 0] run =
      some (stopWhenIdle { run with world := next }, .ok ()) := by
  simp only [Simulation.iterate, Simulation.callEach, List.foldl_cons, List.foldl_nil]
  change Option.bind run.world.tick _ = _
  rw [ticked, Option.bind_some]
  simp only [reaped]
  rfl

/-- Unless it was asked for before, the end is asked for only when nobody is scheduled. -/
theorem schedule_of_stopWhenIdle {run : Run vocabulary} (going : run.stopRequested = false)
    (stopped : (stopWhenIdle run).stopRequested = true) : run.world.executor.schedule = [] := by
  unfold stopWhenIdle at stopped
  split at stopped
  · exact List.isEmpty_iff.mp ‹_›
  · rw [going] at stopped
    cases stopped

/-- To ask for a stop is to leave the world as it is. -/
theorem world_stopWhenIdle (run : Run vocabulary) : (stopWhenIdle run).world = run.world := by
  unfold stopWhenIdle
  split <;> rfl

section Run

variable (noDeadline : settings.unitTimeout = none)
  (faithful : ∀ carrier, codec = some carrier → Faithful carrier)
  (small : population.traders ≤ largestWord) (word : population.maxPrice ≤ largestWord)
include noDeadline faithful small word

/-- A loop that ends because it was asked to has made its ticks, and nobody is scheduled. -/
theorem loop_idle {iterations limit count total : Nat} {run final : Run vocabulary}
    (few : 0 < iterations → count ≤ iterations)
    (ran : population.afterTicks settings codec count = some (run.world, history))
    (trades : population.Trades settings codec run.world history)
    (honest : run.stopRequested = true → run.world.executor.schedule = [])
    (looped : Simulation.loop iterations [idleHook 0] limit count run =
      some (final, .ok (total, .stopRequested))) :
    ∃ history, population.afterTicks settings codec total = some (final.world, history) ∧
      population.Trades settings codec final.world history ∧
      final.world.executor.schedule = [] := by
  induction limit using Nat.strong_induction_on generalizing count run history with
  | _ limit ih =>
    cases reason : Simulation.endReason? iterations count run with
    | some reason =>
      rw [Simulation.loop_stops few ‹_›] at looped
      cases looped
      exact ⟨history, ran, trades, honest (Simulation.stopRequested_of_endReason? reason)⟩
    | none =>
      obtain ⟨next, results, ticked, later⟩ := trades.ticks noDeadline faithful small word
      obtain ⟨-, traders, standing, -⟩ := later.stands noDeadline faithful small word
      obtain ⟨fewer, middle, iterated, rfl, iterates, goes⟩ :=
        Simulation.loop_goes few reason looped
      rw [iterate_idle ticked standing.hosts.reap] at iterates
      cases iterates
      obtain ⟨fewAfter, goes⟩ := goes
      have same := world_stopWhenIdle { run with world := next }
      refine ih fewer (Nat.lt_succ_self _) fewAfter ?_ (by rw [same]; exact later)
        (fun stopped => ?_) goes
      · rw [same]
        simp only [Population.afterTicks, ran, ticked]
      · have going : ({ run with world := next } : Run vocabulary).stopRequested = false :=
          Simulation.going_of_endReason? reason
        rw [same]
        exact schedule_of_stopWhenIdle going stopped

/-- When no trader is scheduled any more, in whatever order the traders ran in each tick, every trader
has made as many sales as it aimed at; it holds no goal, nothing waits for it, and it has no plan. So
has every trader when a simulation of the population ends because it was asked to: its ticks led to
such a world, and only the workers were stopped since. -/
theorem Population.idle_satisfied :
    (∀ world history, population.Trades settings codec world history →
      world.executor.schedule = [] →
      ∀ index < population.traders, population.Satisfied world history index) ∧
    ∀ iterations limit run summary,
      Market.run population (World.new settings (.new codec)) iterations limit =
        some (run, .ok summary) →
      summary.endReason = .stopRequested →
      ∃ world history,
        population.afterTicks settings codec summary.ticksRun = some (world, history) ∧
        run.world = world.shutDown ∧
        ∀ index < population.traders, population.Satisfied run.world history index := by
  have rested : ∀ world history, population.Trades settings codec world history →
      world.executor.schedule = [] →
      ∀ index < population.traders, population.Satisfied world history index := by
    intro world history trades calm index inside
    obtain ⟨reachable, traders, standing, eager⟩ := trades.stands noDeadline faithful small word
    exact standing.satisfied small noDeadline reachable eager calm inside
  refine ⟨rested, ?_⟩
  rintro iterations limit run ⟨ticksRun, lastTick, duration, reason⟩ ran rfl
  unfold Market.run Simulation.run at ran
  obtain ⟨⟨final, outcome⟩, looped, ended⟩ := Option.bind_eq_some_iff.mp ran
  cases outcome with
  | error cause => cases ended
  | ok counted =>
    obtain ⟨total, reason⟩ := counted
    cases ended
    obtain ⟨history, reached, trades, calm⟩ :=
      loop_idle noDeadline faithful small word (fun _ => Nat.zero_le _) rfl .opened
        (fun stopped => absurd stopped Bool.false_ne_true) looped
    refine ⟨final.world, history, reached, rfl, fun index inside => ?_⟩
    have satisfied := rested final.world history trades calm index inside
    exact { satisfied with }

end Run

/-- Two traders that aim at one sale each stop after five ticks. -/
theorem Population.idle_satisfied_pair :
    let pair : Population := { traders := 2, salesTarget := 1, maxPrice := 10, seed := 0 }
    let settings : ExecutorSettings := { poolSize := 2, seed := none, unitTimeout := none }
    ∃ run summary, Market.run pair (World.new settings (.new none)) 0 10 = some (run, .ok summary) ∧
      summary.ticksRun = 5 ∧ summary.endReason = .stopRequested ∧
      ∃ history, ∀ index < 2, pair.Satisfied run.world history index := by
  intro pair settings
  have reports : (Market.run pair (World.new settings (.new none)) 0 10).map Prod.snd =
      some (.ok { ticksRun := 5, lastTick := some 4, lastTickDuration := 0
                  endReason := .stopRequested }) := by decide +kernel
  obtain ⟨⟨run, outcome⟩, ran, equal⟩ := Option.map_eq_some_iff.mp reports
  cases equal
  obtain ⟨-, engine⟩ := @Population.idle_satisfied pair settings none rfl
    (fun _ present => by cases present) (by decide) (by decide)
  obtain ⟨world, history, -, -, satisfied⟩ := engine 0 10 run _ ran rfl
  exact ⟨run, _, ran, rfl, rfl, history, satisfied⟩

end Rest

end Deliberation.Market
