import Deliberation.Proofs.Durability
import Deliberation.Proofs.Flight

/-!
# What a simulation calls

`Simulation.run` calls hooks, ticks, and takes out agents that are done. A `Call` is one of these
things, and `Calls` says what a list of them makes of a run, one after the other. `Simulation.calls`
is the list for a run whose ticks had given results, and `Simulation.run_calls` says that every run
makes these calls, for as many rounds as it takes until a loop head has a reason to end.

Hooks may do whatever they like to the run, but they may not tick themselves (`Hook.Restrained`).
-/

namespace Deliberation

variable {V : Vocabulary}

/-! ## Calls -/

/-- One thing that a simulation does. -/
inductive Call (V : Vocabulary) where
  | before (hook : Hook V) (tick : Nat)
  | tick (outcome : Except TickError (TickResults V))
  /-- Agents that are done are taken out. -/
  | reap
  | after (hook : Hook V) (tick : Nat) (results : TickResults V)
  | finished (hook : Hook V) (ticks : Nat)
  | shutDown

/-- What a call makes of a run. -/
inductive Call.Makes : Call V → Run V → Run V → Prop where
  | before (hook : Hook V) (tick : Nat) (run : Run V) :
      Makes (.before hook tick) run (hook.before tick run)
  | tick {run : Run V} {world : World V} {outcome : Except TickError (TickResults V)}
      (ticked : run.world.tick = some (world, outcome)) : Makes (.tick outcome) run { run with world }
  | reap (run : Run V) : Makes .reap run { run with world := run.world.reap.1 }
  | after (hook : Hook V) (tick : Nat) (results : TickResults V) (run : Run V) :
      Makes (.after hook tick results) run (hook.after tick results run)
  | finished (hook : Hook V) (ticks : Nat) (run : Run V) :
      Makes (.finished hook ticks) run (hook.finished ticks run)
  | shutDown (run : Run V) : Makes .shutDown run { run with world := run.world.shutDown }

/-- What calls make of a run, one after the other. -/
inductive Calls : List (Call V) → Run V → Run V → Prop where
  | nil (run : Run V) : Calls [] run run
  | cons {call : Call V} {rest : List (Call V)} {run next final : Run V}
      (made : call.Makes run next) (others : Calls rest next final) : Calls (call :: rest) run final

namespace Calls

variable {first second : List (Call V)} {start middle final : Run V}

/-- A single call is a list of calls. -/
theorem single {call : Call V} (made : call.Makes start final) : Calls [call] start final :=
  .cons made (.nil final)

/-- Calls may be made one after the other. -/
theorem append (before : Calls first start middle) (behind : Calls second middle final) :
    Calls (first ++ second) start final := by
  induction before with
  | nil => exact behind
  | cons made _ ih => exact .cons made (ih behind)

/-- The same is called of every hook. -/
theorem each (hooks : List (Hook V)) (kind : Hook V → Call V) (call : Hook V → Run V → Run V)
    (makes : ∀ hook run, (kind hook).Makes run (call hook run)) (run : Run V) :
    Calls (hooks.map kind) run (Simulation.callEach hooks call run) := by
  induction hooks generalizing run with
  | nil => exact .nil run
  | cons hook rest ih => exact .cons (makes hook run) (ih _)

end Calls

namespace Simulation

/-- The calls of a tick and what stands around it. -/
def round (hooks : List (Hook V)) (tick : Nat) (results : TickResults V) : List (Call V) :=
  hooks.map (.before · tick) ++ [.tick (.ok results), .reap] ++ hooks.map (.after · tick results)

/-- The calls of several ticks. Their numbers are consecutive. -/
def rounds (hooks : List (Hook V)) (first : Nat) : List (TickResults V) → List (Call V)
  | [] => []
  | results :: rest => round hooks first results ++ rounds hooks (first + 1) rest

/-- The calls around a tick that fails, if one does. -/
def failing {α : Type} (hooks : List (Hook V)) (tick : Nat) :
    Except TickError α → List (Call V)
  | .error cause => hooks.map (.before · tick) ++ [.tick (.error cause)]
  | .ok _ => []

/-- The calls of a whole simulation whose first tick has a given number. -/
def calls {α : Type} (simulation : Simulation V) (first : Nat) (results : List (TickResults V))
    (outcome : Except TickError α) : List (Call V) :=
  rounds simulation.hooks first results ++
    failing simulation.hooks (first + results.length) outcome ++
      simulation.hooks.map (.finished · (first + results.length)) ++ [.shutDown]

/-- Why a simulation ends before its next tick, if it does. The number of iterations comes first. -/
def endReason? (iterations ticksRun : Nat) (run : Run V) : Option EndReason :=
  if 0 < iterations ∧ ticksRun = iterations then some .iterationsReached
  else if run.stopRequested then some .stopRequested
  else none

end Simulation

/-! ## Hooks that do not tick -/

/-- A hook that does not tick itself: the executor counts as it did before. -/
structure Hook.Restrained (hook : Hook V) : Prop where
  before : ∀ tick run, (hook.before tick run).world.executor.tick = run.world.executor.tick
  after : ∀ tick results run,
    (hook.after tick results run).world.executor.tick = run.world.executor.tick

/-- Operations do not tick. -/
theorem Operation.tick_perform (world : World V) (operation : Operation V) :
    (operation.perform world).executor.tick = world.executor.tick := by
  have stirred : ∀ {before after : World V}, Stirs 0 before after →
      after.executor.tick = before.executor.tick :=
    fun stirs => stirs.steady.lasting.frame.tick
  cases operation with
  | spawn id design =>
    cases taken : world.registry.contains id with
    | true => simp [perform, World.spawn, taken]
    | false => simp [perform, world.spawn_eq id design taken]
  | kill id =>
    simp only [perform, World.kill]
    split
    · rfl
    · rename_i number found
      have stopped : Stirs 0 ((world.withRegistry (world.registry.erase id)).deregister id) _ :=
        .single (.arrive _ number .stop)
      have kept := stirred stopped
      exact kept
  | reap =>
    obtain ⟨messenger, registry, reaped⟩ := reap_eq world
    simp [perform, reaped]
  | arrive number arrival => exact stirred (.single (.arrive world number arrival))
  | deliver message => exact stirred (world.deliver_stirs 0 message)
  | send number message => exact stirred (world.send_stirs 0 number message)
  | schedule number | hold number | forget id => rfl
  | openGate gate =>
    have durable : World.Durable fun other : World V => other.executor.tick = world.executor.tick :=
      { stride := fun number phase kept => (World.stride_moves _ number phase).frame.tick.trans kept
        aside := fun _ _ _ _ _ _ kept => kept }
    exact durable.openGate rfl gate

/-- What a hook can ask for. -/
inductive Request (V : Vocabulary) where
  | operate (operation : Operation V)
  /-- The simulation is to stop before its next tick. -/
  | stop
  | shutDown

/-- The run after a request. -/
def Request.perform (run : Run V) : Request V → Run V
  | operate operation => { run with world := operation.perform run.world }
  | stop => { run with stopRequested := true }
  | shutDown => { run with world := run.world.shutDown }

/-- A hook that looks at the run and asks for things. -/
def Hook.asking (identity : Nat) (before : Nat → Run V → List (Request V))
    (after : Nat → TickResults V → Run V → List (Request V))
    (finished : Nat → Run V → List (Request V)) : Hook V :=
  { identity
    before := fun tick run => (before tick run).foldl Request.perform run
    after := fun tick results run => (after tick results run).foldl Request.perform run
    finished := fun ticks run => (finished ticks run).foldl Request.perform run }

/-- A request leaves the number of ticks. -/
theorem Request.tick_perform (run : Run V) (request : Request V) :
    (request.perform run).world.executor.tick = run.world.executor.tick := by
  cases request with
  | operate operation => exact Operation.tick_perform run.world operation
  | stop | shutDown => rfl

/-- Requests leave the number of ticks. -/
theorem Request.tick_performAll (requests : List (Request V)) (run : Run V) :
    (requests.foldl perform run).world.executor.tick = run.world.executor.tick := by
  induction requests generalizing run with
  | nil => rfl
  | cons request rest ih => exact (ih _).trans (request.tick_perform run)

/-- Whatever a hook asks for, it does not tick. -/
theorem Hook.asking_restrained (identity : Nat) (before : Nat → Run V → List (Request V))
    (after : Nat → TickResults V → Run V → List (Request V))
    (finished : Nat → Run V → List (Request V)) : (asking identity before after finished).Restrained where
  before := fun _ _ => Request.tick_performAll _ _
  after := fun _ _ _ => Request.tick_performAll _ _

namespace Simulation

variable {hooks : List (Hook V)} {iterations ticksRun limit : Nat} {run next final : Run V}

/-- Hooks that leave the number of ticks leave it when all of them are called. -/
theorem tick_callEach {call : Hook V → Run V → Run V}
    (keeps : ∀ hook ∈ hooks, ∀ run,
      (call hook run).world.executor.tick = run.world.executor.tick) (run : Run V) :
    (callEach hooks call run).world.executor.tick = run.world.executor.tick := by
  induction hooks generalizing run with
  | nil => rfl
  | cons hook rest ih =>
    rw [List.forall_mem_cons] at keeps
    exact (ih keeps.2 _).trans (keeps.1 run)

/-! ## One iteration -/

/-- An iteration that comes to its end makes the calls of one round, and one tick. -/
theorem iterate_ok (restrained : ∀ hook ∈ hooks, hook.Restrained)
    (iterated : iterate hooks run = some (next, .ok ())) :
    ∃ results, Calls (round hooks run.world.executor.tick results) run next ∧
      next.world.executor.tick = run.world.executor.tick + 1 := by
  unfold iterate at iterated
  obtain ⟨⟨world, outcome⟩, ticked, answered⟩ := Option.bind_eq_some_iff.mp iterated
  cases outcome with
  | error cause => cases answered
  | ok results =>
    cases answered
    have before := Calls.each hooks (.before · run.world.executor.tick) _
      (fun hook run => .before hook _ run) run
    have after := Calls.each hooks (.after · run.world.executor.tick results) _
      (fun hook run => .after hook _ results run)
      { callEach hooks (·.before run.world.executor.tick) run with world := world.reap.1 }
    refine ⟨results, ?_, ?_⟩
    · exact (before.append (.cons (.tick ticked) (.single (.reap _)))).append after
    · have called := tick_callEach (fun hook member => (restrained hook member).before
        run.world.executor.tick) run
      have counted := World.tick_counts ticked
      obtain ⟨messenger, registry, reaped⟩ := Operation.reap_eq world
      rw [tick_callEach fun hook member => (restrained hook member).after _ results]
      simp only [reaped]
      rw [counted, called]

/-- An iteration whose tick fails changes nothing after its first hooks. -/
theorem iterate_error {cause : TickError} (restrained : ∀ hook ∈ hooks, hook.Restrained)
    (iterated : iterate hooks run = some (next, .error cause)) :
    Calls (hooks.map (.before · run.world.executor.tick) ++ [.tick (.error cause)]) run next ∧
      next.world.executor.tick = run.world.executor.tick := by
  unfold iterate at iterated
  obtain ⟨⟨world, outcome⟩, ticked, answered⟩ := Option.bind_eq_some_iff.mp iterated
  cases outcome with
  | ok results => cases answered
  | error cause =>
    cases answered
    have before := Calls.each hooks (.before · run.world.executor.tick) _
      (fun hook run => .before hook _ run) run
    refine ⟨before.append (.single (.tick ticked)), ?_⟩
    rw [(World.tick_error ticked).1]
    exact tick_callEach (fun hook member => (restrained hook member).before _) run

/-! ## The loop -/

/-- What a loop did that began when some ticks had run. `results` are those of the ticks it ran. -/
structure Looped (iterations : Nat) (hooks : List (Hook V)) (ticksRun : Nat) (run final : Run V)
    (outcome : Except TickError (Nat × EndReason)) (results : List (TickResults V)) : Prop where
  calls : Calls
    (rounds hooks run.world.executor.tick results ++
      failing hooks (run.world.executor.tick + results.length) outcome) run final
  /-- At every loop head but the last there is no reason to end. -/
  goesOn : ∀ count < results.length, ∃ head,
    Calls (rounds hooks run.world.executor.tick (results.take count)) run head ∧
      endReason? iterations (ticksRun + count) head = none
  /-- At the last loop head there is one, unless the next tick fails. -/
  ends : ∃ head, Calls (rounds hooks run.world.executor.tick results) run head ∧
    endReason? iterations (ticksRun + results.length) head = outcome.toOption.map Prod.snd
  counted : ∀ total reason, outcome = .ok (total, reason) → total = ticksRun + results.length
  counter : final.world.executor.tick = run.world.executor.tick + results.length

variable {outcome : Except TickError (Nat × EndReason)} {results : List (TickResults V)}

/-- A simulation ends by request only if a stop was requested. -/
theorem stopRequested_of_endReason?
    (stops : endReason? iterations ticksRun run = some .stopRequested) : run.stopRequested = true := by
  unfold endReason? at stops
  split at stops
  · cases stops
  · split at stops
    · assumption
    · cases stops

/-- A simulation goes on only if no stop was requested. -/
theorem going_of_endReason? (goesOn : endReason? iterations ticksRun run = none) :
    run.stopRequested = false := by
  by_contra stopRequested
  unfold endReason? at goesOn
  split at goesOn
  · cases goesOn
  · simp [stopRequested] at goesOn

/-- The loop ends at a head with a reason to end. -/
theorem loop_stops (few : 0 < iterations → ticksRun ≤ iterations) {reason : EndReason}
    (ends : endReason? iterations ticksRun run = some reason) :
    loop iterations hooks limit ticksRun run = some (run, .ok (ticksRun, reason)) := by
  unfold endReason? at ends
  unfold loop
  split at ends
  · rename_i reached
    cases ends
    rw [if_pos ⟨reached.1, reached.2.ge⟩]
  · rename_i notReached
    have less : ¬ (0 < iterations ∧ iterations ≤ ticksRun) := by
      rintro ⟨bounded, le⟩
      exact notReached ⟨bounded, Nat.le_antisymm (few bounded) le⟩
    rw [if_neg less]
    split at ends
    · rename_i stopRequested
      cases ends
      rw [if_pos stopRequested]
    · cases ends

/-- The loop goes on at a head without one. -/
theorem loop_goes (few : 0 < iterations → ticksRun ≤ iterations)
    (goesOn : endReason? iterations ticksRun run = none)
    (looped : loop iterations hooks limit ticksRun run = some (final, outcome)) :
    ∃ fewer next iterated, limit = fewer + 1 ∧ iterate hooks run = some (next, iterated) ∧
      match iterated with
      | .error cause => final = next ∧ outcome = .error cause
      | .ok () => (0 < iterations → ticksRun + 1 ≤ iterations) ∧
          loop iterations hooks fewer (ticksRun + 1) next = some (final, outcome) := by
  have less : 0 < iterations → ticksRun < iterations := by
    intro bounded
    refine Nat.lt_of_le_of_ne (few bounded) ?_
    rintro rfl
    simp [endReason?, bounded] at goesOn
  have notStopped := going_of_endReason? goesOn
  have notReached : ¬ (0 < iterations ∧ iterations ≤ ticksRun) := by
    rintro ⟨bounded, le⟩
    exact absurd (less bounded) (Nat.not_lt_of_le le)
  unfold loop at looped
  rw [if_neg notReached, notStopped, if_neg Bool.false_ne_true] at looped
  cases limit with
  | zero => cases looped
  | succ fewer =>
    obtain ⟨⟨next, iterated⟩, iterates, looped⟩ := Option.bind_eq_some_iff.mp looped
    refine ⟨fewer, next, iterated, rfl, iterates, ?_⟩
    cases iterated with
    | error cause =>
      cases looped
      exact ⟨rfl, rfl⟩
    | ok done => exact ⟨fun bounded => less bounded, looped⟩

/-- A loop that ends at its first head. -/
theorem Looped.stops {reason : EndReason} (ends : endReason? iterations ticksRun run = some reason) :
    Looped iterations hooks ticksRun run run (.ok (ticksRun, reason)) [] where
  calls := .nil run
  goesOn := fun _ less => absurd less (Nat.not_lt_zero _)
  ends := ⟨run, .nil run, ends⟩
  counted := fun _ _ equal => by
    cases equal
    rfl
  counter := rfl

/-- A loop whose first tick fails. -/
theorem Looped.fails {cause : TickError} (restrained : ∀ hook ∈ hooks, hook.Restrained)
    (goesOn : endReason? iterations ticksRun run = none)
    (iterated : iterate hooks run = some (final, .error cause)) :
    Looped iterations hooks ticksRun run final (.error cause) [] where
  calls := (iterate_error restrained iterated).1
  goesOn := fun _ less => absurd less (Nat.not_lt_zero _)
  ends := ⟨run, .nil run, goesOn⟩
  counted := nofun
  counter := (iterate_error restrained iterated).2

/-- A loop that makes one round and goes on. -/
theorem Looped.goes {made : TickResults V}
    (goesOn : endReason? iterations ticksRun run = none)
    (first : Calls (round hooks run.world.executor.tick made) run next)
    (counter : next.world.executor.tick = run.world.executor.tick + 1)
    (later : Looped iterations hooks (ticksRun + 1) next final outcome results) :
    Looped iterations hooks ticksRun run final outcome (made :: results) := by
  have counts : ∀ start, start + 1 + results.length = start + (made :: results).length := by
    intro start
    simp
    omega
  refine { calls := ?_, goesOn := ?_, ends := ?_, counted := ?_, counter := ?_ }
  · have calls := first.append later.calls
    rw [counter, counts] at calls
    simpa [rounds] using calls
  · intro count less
    cases count with
    | zero => exact ⟨run, .nil run, goesOn⟩
    | succ count =>
      obtain ⟨head, calls, none⟩ := later.goesOn count (by simpa using less)
      rw [counter] at calls
      refine ⟨head, first.append calls, ?_⟩
      rw [← none]
      congr 1
      omega
  · obtain ⟨head, calls, reason⟩ := later.ends
    rw [counter] at calls
    rw [counts] at reason
    exact ⟨head, first.append calls, reason⟩
  · intro total reason equal
    rw [later.counted total reason equal, counts]
  · rw [later.counter, counter, counts]

/-- Every loop that ends makes its calls in rounds. -/
theorem looped_of_loop (restrained : ∀ hook ∈ hooks, hook.Restrained)
    (few : 0 < iterations → ticksRun ≤ iterations)
    (looped : loop iterations hooks limit ticksRun run = some (final, outcome)) :
    ∃ results, Looped iterations hooks ticksRun run final outcome results := by
  induction limit using Nat.strong_induction_on generalizing ticksRun run with
  | _ limit ih =>
    cases reason : endReason? iterations ticksRun run with
    | some reason =>
      rw [loop_stops few ‹_›] at looped
      cases looped
      exact ⟨[], .stops ‹_›⟩
    | none =>
      obtain ⟨fewer, next, iterated, rfl, iterates, looped⟩ := loop_goes few reason looped
      cases iterated with
      | error cause =>
        obtain ⟨rfl, rfl⟩ := looped
        exact ⟨[], .fails restrained reason iterates⟩
      | ok done =>
        obtain ⟨made, calls, counter⟩ := iterate_ok restrained iterates
        obtain ⟨results, later⟩ := ih fewer (Nat.lt_succ_self _) looped.1 looped.2
        exact ⟨made :: results, .goes reason calls counter later⟩

/-! ## Whole simulations -/

/-- What a simulation did. `results` are those of the ticks that it ran. -/
structure Called (simulation : Simulation V) (world : World V) (final : Run V)
    (outcome : Except TickError Summary) (results : List (TickResults V)) : Prop where
  /-- It made these calls in this order, and no others. -/
  calls : Calls (simulation.calls world.executor.tick results outcome)
    { world, stopRequested := simulation.stopRequested } final
  /-- Before each tick that it ran there was no reason to end. -/
  goesOn : ∀ count < results.length, ∃ head,
    Calls (rounds simulation.hooks world.executor.tick (results.take count))
      { world, stopRequested := simulation.stopRequested } head ∧
      endReason? simulation.iterations count head = none
  /-- After the last of them there was one, and it is the one that is reported; or there was none,
  and the next tick failed. -/
  ends : ∃ head,
    Calls (rounds simulation.hooks world.executor.tick results)
      { world, stopRequested := simulation.stopRequested } head ∧
      endReason? simulation.iterations results.length head = outcome.toOption.map Summary.endReason
  /-- The summary counts the ticks and names the last one. -/
  summary : ∀ summary, outcome = .ok summary → summary.ticksRun = results.length ∧
    summary.lastTick = (List.range' world.executor.tick results.length).getLast?
  isShutDown : final.world.executor.isShutDown = true

/-- The last of a range of numbers. -/
theorem getLast?_range' (first count : Nat) :
    (List.range' first count).getLast? =
      if 0 < count ∧ 0 < first + count then some (first + count - 1) else none := by
  cases count with
  | zero => simp
  | succ count => simp [List.range'_concat]

/-- The calls of a simulation, for whatever its hooks do except to tick themselves: round by round
up to the first loop head with a reason to end, or to a tick that fails; and then all hooks once more
before the executor is shut down. -/
theorem run_calls (simulation : Simulation V) (world : World V) (limit : Nat)
    (restrained : ∀ hook ∈ simulation.hooks, hook.Restrained) {outcome : Except TickError Summary}
    (ran : simulation.run limit world = some (final, outcome)) :
    ∃ results, Called simulation world final outcome results := by
  unfold Simulation.run at ran
  obtain ⟨⟨looped, reason⟩, loops, ran⟩ := Option.bind_eq_some_iff.mp ran
  obtain ⟨results, did⟩ := looped_of_loop restrained (fun _ => Nat.zero_le _) loops
  refine ⟨results, ?_⟩
  have closing := (Calls.each simulation.hooks (.finished · looped.world.executor.tick) _
    (fun hook run => .finished hook _ run) looped).append (.single (.shutDown _))
  have calls := did.calls.append closing
  rw [did.counter] at calls
  obtain ⟨head, led, ends⟩ := did.ends
  rw [Nat.zero_add] at ends
  cases reason with
  | error cause =>
    cases ran
    refine { calls := ?_, goesOn := ?_, ends := ⟨head, led, ends⟩, summary := nofun
             isShutDown := rfl }
    · simpa [Simulation.calls, failing, did.counter] using calls
    · simpa using did.goesOn
  | ok counted =>
    obtain ⟨ticksRun, reason⟩ := counted
    cases ran
    refine { calls := ?_, goesOn := ?_, ends := ⟨head, led, ends⟩, summary := ?_
             isShutDown := rfl }
    · simpa [Simulation.calls, failing, did.counter] using calls
    · simpa using did.goesOn
    · rintro summary equal
      cases equal
      have total : ticksRun = results.length := by simpa using did.counted _ _ rfl
      subst total
      exact ⟨rfl, by rw [getLast?_range', did.counter]⟩

end Simulation

/-! ## A simulation that is stopped at its limit -/

namespace Market

/-- A hook that wakes an agent before each tick, asks for the end after the second one, and kills the
other agent when all is over. -/
def warden : Hook vocabulary :=
  Hook.asking 0 (fun _ _ => [.operate (.arrive 0 .nudge)])
    (fun tick _ _ => if tick = 1 then [.stop] else [])
    (fun _ _ => [.operate (.kill (AgentId.ofNat 2))])

/-- A simulation of two ticks. -/
def patrol : Simulation vocabulary :=
  { iterations := 2, hooks := [warden, Hook.idle 1], stopRequested := false }

/-- Its report: the limit comes before the request to stop. -/
def patrolled : Summary :=
  { ticksRun := 2, lastTick := some 1, lastTickDuration := 0, endReason := .iterationsReached }

/-- The hooks of the patrol are restrained. -/
theorem patrol_restrained : ∀ hook ∈ patrol.hooks, hook.Restrained := by
  intro hook member
  rcases List.mem_cons.mp member with rfl | member
  · exact Hook.asking_restrained _ _ _ _
  · cases List.mem_singleton.mp member
    exact { before := fun _ _ => rfl, after := fun _ _ _ => rfl }

end Market

/-- Both hooks are called around both ticks. -/
theorem Simulation.run_calls_patrol :
    ∃ final results, Market.patrol.run 2 Market.listeners = some (final, .ok Market.patrolled) ∧
      Called Market.patrol Market.listeners final (.ok Market.patrolled) results := by
  have reports : (Market.patrol.run 2 Market.listeners).map Prod.snd =
      some (.ok Market.patrolled) := by decide +kernel
  obtain ⟨⟨final, outcome⟩, ran, equal⟩ := Option.map_eq_some_iff.mp reports
  cases equal
  obtain ⟨results, called⟩ :=
    Simulation.run_calls Market.patrol Market.listeners 2 Market.patrol_restrained ran
  exact ⟨final, results, ran, called⟩

end Deliberation
