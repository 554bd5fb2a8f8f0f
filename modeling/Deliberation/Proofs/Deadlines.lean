import Deliberation.Proofs.Overdue

/-!
# Ticks under a deadline

Operations and ticks are made of steps of a `Shift` that mirrors the executor, so every run of
operations and ticks is a run of a shift (`Shift.of_course`).

`Shift.Reachable.never_overlaps` is about all runs of a shift, in which cycles interleave stride by
stride, overstep their deadlines and return at any time.
-/

namespace Deliberation

open Relation

variable {V : Vocabulary}

namespace Shift

variable {shift next : Shift V} {world later : World V} {poolSize : Nat} {id : AgentId}
  {number : BirthNumber}

namespace Mirrored

variable {after : World V} {deadline : Option Nat}

/-! ## Ticks -/

/-- The units of a tick that begins. -/
theorem docket (mirrored : Mirrored poolSize shift) (random : Option Generator)
    {order : List BirthNumber} (permuted : order.Perm shift.world.executor.schedule.values) :
    (shift.depart random order).Docket (order.map fun number =>
      (number, if shift.world.executor.isInFlight (shift.world.agent number).id then .busy
        else .waiting)) where
  listed := by
    intro id number state stands
    have found := (find?_roll shift.world id).symm.trans stands
    obtain ⟨reached, scheduled, equal⟩ := Option.map_eq_some_iff.mp found
    cases equal
    have entry := AgentIndex.mem_of_find? scheduled
    refine .inl (List.mem_map.mpr ⟨number, ?_, ?_⟩)
    · exact permuted.mem_iff.mpr (List.mem_map_of_mem entry)
    · rw [(mirrored.timetable.entry entry).2]
  stands := by
    intro entry member
    obtain ⟨number, listed, rfl⟩ := List.mem_map.mp member
    obtain ⟨⟨id, _⟩, scheduled, rfl⟩ := List.mem_map.mp (permuted.mem_iff.mp listed)
    refine ⟨id, (find?_roll shift.world id).trans ?_⟩
    rw [AgentIndex.find?_of_mem mirrored.timetable.ordered scheduled,
      (mirrored.timetable.entry scheduled).2]
    rfl
  alone := by
    rw [List.map_map]
    exact (List.map_id order).symm ▸ permuted.nodup_iff.mpr mirrored.timetable.values_nodup

/-- The units of a tick are those that wait for a worker and those that are put off. -/
theorem divide (order : List BirthNumber) (isBusy : BirthNumber → Bool) :
    (order.map fun number =>
      (number, if isBusy number then (.busy : UnitState V) else .waiting)).Perm
      (((order.filter (!isBusy ·)).map fun number => (number, .waiting)) ++
        (order.filter isBusy).map fun number => (number, .busy)) := by
  induction order with
  | nil => exact .nil
  | cons number rest ih =>
    rw [List.map_cons, List.filter_cons, List.filter_cons]
    cases isBusy number with
    | true => exact (ih.cons _).trans List.perm_middle.symm
    | false => exact ih.cons _

/-- A tick with an answer is made of steps. It opens with the cycles that were in progress before,
and its slots are the results of the last moment. -/
theorem tick {results : TickResults V} (mirrored : Mirrored poolSize shift)
    (resting : shift.ticking = false) (ticked : shift.world.tick = some (world, .ok results)) :
    ∃ next, Steps shift next ∧ Mirrored poolSize next ∧ next.world = world ∧
      next.results = results ∧ next.opened = shift.working ∧
        next.history = shift.history ++ [results] ∧ next.ticking = false := by
  have running : shift.world.executor.isShutDown = false := by
    cases isShutDown : shift.world.executor.isShutDown with
    | false => rfl
    | true =>
      unfold World.tick at ticked
      rw [isShutDown, if_pos rfl] at ticked
      cases ticked
  obtain ⟨random, order, permuted, equation⟩ := shift.world.tick_eq running
  rw [equation] at ticked
  obtain ⟨⟨final, slots⟩, tickOver, equal⟩ := Option.map_eq_some_iff.mp ticked
  cases equal
  have departed : Mirrored poolSize (shift.depart random order) :=
    ⟨mirrored.toSound.depart resting random order, mirrored.notes⟩
  have docket := (mirrored.docket random permuted).perm
    (divide order fun number => shift.world.executor.isInFlight (shift.world.agent number).id)
  simp only [World.tickOver, Option.bind_eq_bind] at tickOver
  obtain ⟨⟨flown, outcomes⟩, ran, tickOver⟩ := Option.bind_eq_some_iff.mp tickOver
  obtain ⟨landed, first, rfl, noResults, known⟩ := departed.runUnits rfl docket ran
  obtain ⟨reported, second, accounted, busy⟩ := first.mirrored.reportAll known
  obtain ⟨deferred, third, putOff, settled⟩ := second.mirrored.deferAll busy
  rw [noResults] at accounted
  have accounts : (deferred.world, deferred.results) =
      (landed.world.reportAll [] outcomes).1.deferAll (landed.world.reportAll [] outcomes).2
        (order.filter fun number =>
          shift.world.executor.isInFlight (shift.world.agent number).id) := by
    rw [putOff]
    change _ = World.deferAll (landed.world.reportAll (shift.depart random order).results outcomes).1
      (landed.world.reportAll (shift.depart random order).results outcomes).2 _
    rw [← accounted]
  have worlds : deferred.world = _ := congrArg Prod.fst accounts
  have slots : deferred.results = _ := congrArg Prod.snd accounts
  have shown : _ = results := congrArg Prod.snd (Option.some.inj tickOver)
  have reaches := (first.trans second).trans third
  have landing : Step deferred (deferred.land (deferred.world.clock - shift.world.clock)) :=
    .deed (.land deferred reaches.ticking
      (fun id number state stands => (settled.listed _ _ _ stands).resolve_left List.not_mem_nil) _)
  have departs : Step shift (shift.depart random order) :=
    .deed (.depart shift resting running random permuted)
  have steps := (ReflTransGen.head departs reaches.steps).tail landing
  refine ⟨_, steps, ⟨Steps.sound steps mirrored.toSound, reaches.mirrored.notes⟩, ?_, ?_,
    reaches.opened, ?_, rfl⟩
  · refine Eq.trans ?_ (congrArg Prod.fst (Option.some.inj tickOver))
    unfold land
    rw [worlds]
    rfl
  · exact slots.trans shown
  · change deferred.history ++ [deferred.results] = _
    rw [reaches.history, slots.trans shown]
    rfl

end Mirrored

end Shift

/-! ## Runs of operations and ticks -/

/-- To the executor an operation is something that happens around it, but for the opening of a gate,
which lets abandoned cycles go on. -/
theorem Operation.perform_around (world : World V) (operation : Operation V)
    (inside : ∀ number, operation = .schedule number → number < world.agents.size)
    (closed : ∀ gate, operation ≠ .openGate gate) :
    world.Around (operation.perform world) := by
  cases operation with
  | spawn id design =>
    cases taken : world.registry.contains id with
    | true =>
      simp only [perform, World.spawn, taken, if_pos]
      exact .congr rfl rfl
    | false =>
      simp only [perform, world.spawn_eq id design taken]
      exact
        { size := (World.size_born rfl).symm ▸ Nat.le_succ _
          id := fun number before => congrArg Agent.id (World.agent_born_of_lt rfl before)
          executor := ⟨_, rfl⟩
          timetable := fun timetable => timetable.born rfl rfl
          grows := fun _ scheduled => (AgentIndex.contains_insert _ _ _ _).mpr (.inr scheduled) }
  | kill id =>
    simp only [perform, World.kill]
    split
    · exact .congr rfl rfl
    · have taken : world.Around ((world.withRegistry (world.registry.erase id)).deregister id) :=
        .congr rfl rfl
      exact taken.trans (.of_stirs 0 (.single (.arrive _ _ _)))
  | reap =>
    obtain ⟨messenger, registry, reaped⟩ := reap_eq world
    simp only [perform, reaped]
    exact .congr rfl rfl
  | arrive number arrival =>
    exact .of_stirs 0 (.single (.arrive world number arrival))
  | deliver message => exact .of_stirs 0 (world.deliver_stirs 0 message)
  | send number message => exact .of_stirs 0 (world.send_stirs 0 number message)
  | schedule number => exact .schedule world (inside number rfl)
  | hold number | forget id => exact .congr rfl rfl
  | openGate gate => exact absurd rfl (closed gate)

/-- The worlds of a run in which no tick is under way, with the results of the ticks so far. -/
inductive Course (settings : ExecutorSettings) (messenger : Messenger) :
    World V → List (TickResults V) → Prop where
  | start : Course settings messenger (World.new settings messenger) []
  | operate {world : World V} {history : List (TickResults V)}
      (before : Course settings messenger world history) (operation : Operation V)
      (inside : ∀ number, operation = .schedule number → number < world.agents.size) :
      Course settings messenger (operation.perform world) history
  | tick {world next : World V} {history : List (TickResults V)} {results : TickResults V}
      (before : Course settings messenger world history)
      (ticked : world.tick = some (next, .ok results)) :
      Course settings messenger next (history ++ [results])

namespace Shift

variable {shift : Shift V} {settings : ExecutorSettings} {messenger : Messenger}

/-- Every run of operations and ticks is a run of a shift, with or without a deadline. -/
theorem of_course {world : World V} {history : List (TickResults V)}
    (course : Course settings messenger world history) :
    ∃ shift, Reachable settings messenger shift ∧ Mirrored (max settings.poolSize 1) shift ∧
      shift.world = world ∧ shift.history = history ∧ shift.ticking = false ∧
        ∀ results, history.getLast? = some results → shift.results = results := by
  induction course with
  | start =>
    exact ⟨new settings messenger, .refl, ⟨.new settings messenger, rfl⟩, rfl, rfl, rfl, nofun⟩
  | operate _ operation inside ih =>
    obtain ⟨shift, reachable, mirrored, rfl, rfl, resting, last⟩ := ih
    have passes : Passes (max settings.poolSize 1) shift (operation.perform shift.world) := by
      cases operation with
      | openGate gate => exact mirrored.openGate gate
      | _ => exact mirrored.around (Operation.perform_around _ _ inside nofun)
    obtain ⟨working, steps, later⟩ := passes
    exact ⟨_, reachable.trans steps, later, rfl, rfl, resting, last⟩
  | tick _ ticked ih =>
    obtain ⟨shift, reachable, mirrored, rfl, rfl, resting, last⟩ := ih
    obtain ⟨next, steps, later, landed, shown, opened, history, rests⟩ :=
      mirrored.tick resting ticked
    refine ⟨next, reachable.trans steps, later, landed, history, rests, fun results final => ?_⟩
    rw [List.getLast?_append_of_ne_nil _ (List.cons_ne_nil _ _)] at final
    exact shown.trans (Option.some.inj final)

/-! ## No overlaps -/

/-- The executor does not schedule an agent whose cycle has overstepped its deadline in the tick. -/
theorem Deed.leaves_lapsed {next : Shift V} {poolSize : Nat} {id : AgentId}
    (sound : Sound poolSize shift) (deed : Deed shift next) (lapsed : shift.Lapsed id)
    (scheduled : next.world.executor.schedule.contains id = true) :
    shift.world.executor.schedule.contains id = true := by
  cases deed with
  | depart => cases scheduled
  | start | lapse | finish | release | record | land => exact scheduled
  | account account =>
    obtain ⟨reached, overstepped⟩ := lapsed
    -- Only another unit can still be at one of these states, so the agent has another identity.
    have kept : ∀ {other : AgentId} {number : BirthNumber} {held : UnitState V},
        shift.Stands other number held → held ≠ .known .timedOut → (∀ slot, held ≠ .settled slot) →
          (shift.world.schedule number).executor.schedule.contains id = true →
            shift.world.executor.schedule.contains id = true := by
      intro other number held stands inTime unsettled later
      rcases (AgentIndex.contains_insert _ _ _ _).mp later with same | before
      · rw [same, (sound.listed _ _ _ stands).2] at overstepped
        rcases overstepped with known | ⟨milliseconds, settled⟩
        · exact absurd (stands.unique known).2 inTime
        · exact absurd (stands.unique settled).2 (unsettled _)
      · exact before
    cases account with
    | @report joined other number outcome known =>
      cases outcome with
      | timedOut => exact scheduled
      | ended outcome =>
        change (shift.world.report number (.ended outcome)).1.executor.schedule.contains id = true
          at scheduled
        rw [World.report_eq] at scheduled
        cases asks : outcome.asksAgain (shift.world.agent number) with
        | true =>
          rw [asks] at scheduled
          exact kept known (by simp) (by simp) scheduled
        | false =>
          rw [asks] at scheduled
          exact scheduled
    | @defer joined other number busy =>
      exact kept busy (by simp) (by simp) scheduled

/-- Abandoned cycles never overlap with new ones. In every moment of every run, no agent has two
cycles in progress, and there are not more cycles in progress than workers. The slot of an agent in
a tick says that its former cycle is still running if and only if there is such a cycle, which an
earlier tick has reported as timed out and which had not returned when the tick began; an agent with
such a slot runs no cycle in the tick and is scheduled for the next one. What the executor does
never schedules an agent whose cycle has overstepped its deadline in the present tick. -/
theorem Reachable.never_overlaps (reachable : Reachable settings messenger shift) :
    (shift.working.map fun worker => (shift.world.agent worker.number).id).Nodup ∧
      shift.working.length ≤ max settings.poolSize 1 ∧
      (∀ id slot, shift.results.find? id = some slot →
        (slot = .error .stillRunning ↔
          ∃ worker ∈ shift.opened, worker.id = id ∧ TimedOut worker.toBadge shift.history)) ∧
      (∀ id, shift.results.find? id = some (.error .stillRunning) →
        id ∉ shift.started ∧ shift.world.executor.schedule.contains id = true) ∧
      ∀ next id, Deed shift next → shift.Lapsed id →
        next.world.executor.schedule.contains id = true →
          shift.world.executor.schedule.contains id = true := by
  have sound := reachable.sound
  have named : shift.working.map (fun worker => (shift.world.agent worker.number).id) =
      shift.badges.map Badge.id := by
    rw [badges, List.map_map]
    exact List.map_congr_left fun worker member =>
      (sound.named worker.toBadge (List.mem_map_of_mem member)).2
  refine ⟨named ▸ sound.apart, (List.length_map Worker.toBadge) ▸ sound.few, ?_, ?_,
    fun next id deed => deed.leaves_lapsed sound⟩
  · intro id slot shown
    obtain ⟨number, settled⟩ := (sound.results id slot).mp shown
    refine (sound.fits _ _ _ settled).1.trans ⟨?_, ?_⟩
    · rintro ⟨worker, former, named⟩
      exact ⟨worker, former, named, sound.reported worker former⟩
    · rintro ⟨worker, former, named, _⟩
      exact ⟨worker, former, named⟩
  · intro id shown
    obtain ⟨number, settled⟩ := (sound.results id _).mp shown
    exact (sound.fits _ _ _ settled).2 rfl

end Shift

/-! ## A cycle that sleeps for too long -/

namespace Market

/-- The settings of an executor with one worker and a deadline. -/
def hurried : ExecutorSettings := { poolSize := 1, seed := none, unitTimeout := some 50 }

/-- A world with an agent that sleeps past the deadline in its first cycle. -/
def drowsy : World vocabulary :=
  ((World.new hurried (.new none)).spawn (AgentId.ofNat 1)
    (Design.empty.withInitialPlan (.once (.sleep 300 (.done (.ok none) 0))))).1

/-- The world after a tick that has an answer, and its results. -/
def afterTick (world : World vocabulary) : World vocabulary × TickResults vocabulary :=
  match world.tick with
  | some (next, .ok results) => (next, results)
  | _ => (world, [])

/-- A tick that is answered takes the course one tick further. -/
theorem course_afterTick {world : World vocabulary} {history : List (TickResults vocabulary)}
    (course : Course hurried (.new none) world history)
    (answered : world.tick.any (fun answer => answer.2.toOption.isSome) = true) :
    Course hurried (.new none) (afterTick world).1 (history ++ [(afterTick world).2]) := by
  unfold afterTick
  split
  · rename_i ticked
    exact course.tick ticked
  · rename_i unanswered
    cases ticked : world.tick with
    | none => rw [ticked] at answered; cases answered
    | some answer =>
      obtain ⟨next, failed | results⟩ := answer
      · rw [ticked] at answered; cases answered
      · exact absurd ticked (unanswered next results)

end Market

namespace Shift

/-- The agent that sleeps is put off. -/
theorem Reachable.never_overlaps_asleep :
    ∃ shift : Shift Market.vocabulary, Reachable Market.hurried (.new none) shift ∧
      shift.history.map (·.find? (AgentId.ofNat 1)) =
        [some (.error (.timedOut 50)), some (.error .stillRunning)] ∧
      (∃ worker ∈ shift.opened, worker.id = AgentId.ofNat 1 ∧
        TimedOut worker.toBadge shift.history) ∧
      AgentId.ofNat 1 ∉ shift.started ∧
      shift.world.executor.schedule.contains (AgentId.ofNat 1) = true := by
  have first := Market.course_afterTick
    (.operate .start (.spawn (AgentId.ofNat 1) _) nofun : Course _ _ Market.drowsy [])
    (by decide +kernel)
  have second := Market.course_afterTick (.operate first (.arrive 0 .nudge) nofun)
    (by decide +kernel)
  obtain ⟨shift, reachable, -, -, history, -, last⟩ := of_course second
  have slots : shift.history.map (·.find? (AgentId.ofNat 1)) =
      [some (.error (.timedOut 50)), some (.error .stillRunning)] := by
    rw [history]
    decide +kernel
  have slot : shift.results.find? (AgentId.ofNat 1) = some (.error .stillRunning) := by
    rw [last _ rfl]
    decide +kernel
  obtain ⟨-, -, exactly, idle, -⟩ := reachable.never_overlaps
  exact ⟨shift, reachable, slots, (exactly _ _ slot).mp rfl, idle _ slot⟩

end Shift

end Deliberation
