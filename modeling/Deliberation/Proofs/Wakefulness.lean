import Deliberation.Proofs.Flight

/-!
# No agent with work is forgotten

An agent is awake when it is scheduled in case it has pending work. Whatever arrives at an agent
wakes it, so arrivals and the cycles of other agents keep an agent awake. Its own cycles do not; but
a cycle that does not ask for another one leaves no work, and every other outcome makes the executor
look after the agent. So in the midst of a tick each agent is awake or owed a cycle or a report
(`Flight.Sound`), and between ticks all agents are awake.
-/

namespace Deliberation

open Relation

variable {V : Vocabulary}

/-- An agent with work to do is scheduled. -/
def World.Awake (world : World V) (number : BirthNumber) : Prop :=
  (world.agent number).hasPendingWork = true →
    world.executor.schedule.find? (world.agent number).id = some number

/-! ## What keeps an agent awake -/

namespace World.Awake

variable {world next : World V} {number : BirthNumber}

/-- An agent without pending work need not be scheduled. -/
theorem of_idle (idle : (world.agent number).hasPendingWork = false) : world.Awake number := by
  intro pending
  rw [idle] at pending
  cases pending

/-- An agent that is not there has no work. -/
theorem outside (outside : world.agents.size ≤ number) : world.Awake number := by
  refine of_idle ?_
  rw [agent_outside world outside]
  rfl

/-- Whether an agent is awake shows in the agents and the executor. -/
theorem congr (awake : world.Awake number) (agents : next.agents = world.agents)
    (executor : next.executor = world.executor) : next.Awake number := by
  intro pending
  rw [agent_congr agents, executor] at *
  exact awake pending

/-- An agent stays awake when another one is scheduled. -/
theorem schedule (awake : world.Awake number) (wired : world.Wired) {reached : BirthNumber}
    (inside : reached < world.agents.size) : (world.schedule reached).Awake number := by
  intro pending
  have present : number < world.agents.size := by
    by_contra absent
    rw [agent_schedule, agent_outside world (Nat.le_of_not_lt absent)] at pending
    cases pending
  change AgentIndex.find? (AgentIndex.insert (world.agent reached).id reached
    world.executor.schedule) (world.agent number).id = some number
  rw [AgentIndex.find?_insert]
  split
  · rename_i same
    rw [wired.distinct number present reached inside same]
  · exact awake pending

/-- Scheduling an agent wakes it. -/
theorem of_schedule (world : World V) (number : BirthNumber) :
    (world.schedule number).Awake number := by
  intro _
  change AgentIndex.find? (AgentIndex.insert (world.agent number).id number
    world.executor.schedule) (world.agent number).id = some number
  rw [AgentIndex.find?_insert, if_pos rfl]

/-- An agent is awake after something arrived at it. -/
theorem of_arrive (wired : world.Wired) (arrival : Arrival V) :
    (world.arrive number arrival).Awake number := by
  by_cases inside : number < world.agents.size
  · cases isDone : (world.agent number).done with
    | true =>
      refine of_idle ?_
      rw [agent_arrive_self world arrival inside]
      simp [Agent.hasPendingWork, isDone]
    | false =>
      intro _
      rw [schedule_arrive, if_pos ⟨isDone, wired.scheduler number inside⟩,
        agent_arrive_self world arrival inside, AgentIndex.find?_insert, if_pos rfl]
  · refine outside ?_
    rw [size_arrive]
    exact Nat.le_of_not_lt inside

/-- Whatever arrives anywhere, an agent stays awake. -/
theorem arrive (awake : world.Awake number) (wired : world.Wired) (reached : BirthNumber)
    (arrival : Arrival V) : (world.arrive reached arrival).Awake number := by
  by_cases same : number = reached
  · subst same
    exact of_arrive wired arrival
  · intro pending
    rw [agent_arrive_of_ne world arrival same] at pending ⊢
    rw [schedule_arrive]
    split
    · rename_i wakes
      exact (awake.schedule wired (scheduled_inside wakes.2)) pending
    · exact awake pending

/-- A cycle of another agent keeps an agent awake. -/
theorem moves {self : BirthNumber} (awake : world.Awake number) (wired : world.Wired)
    (different : number ≠ self) (moves : Moves Agent.Lasting self world next) :
    next.Awake number := by
  induction moves with
  | refl => exact awake
  | @tail middle next before move ih =>
    cases move with
    | own change kept =>
      intro pending
      rw [agent_modifyAgent_of_ne _ _ different] at pending ⊢
      exact ih pending
    | arrive reached arrival => exact ih.arrive (wired.moves before) reached arrival
    | aside pursuit messenger names journal clock => exact ih

/-- A script keeps every agent awake, also its own. -/
theorem stirs {self : BirthNumber} (awake : world.Awake number) (wired : world.Wired)
    (stirs : Stirs self world next) : next.Awake number := by
  induction stirs with
  | refl => exact awake
  | @tail middle next before stir ih =>
    cases stir with
    | tune change only =>
      obtain ⟨contexts, interceptors, changed⟩ := only (middle.agent self)
      have pendingWork := field_modifyAgent Agent.hasPendingWork middle self number change
        (by rw [changed]; rfl)
      have id := field_modifyAgent Agent.id middle self number change (by rw [changed])
      intro pending
      rw [pendingWork] at pending
      rw [id]
      exact ih pending
    | arrive reached arrival =>
      exact ih.arrive (wired.moves (Stirs.steady before).lasting) reached arrival
    | aside messenger names journal clock => exact ih

/-- Whatever is done from outside, an agent stays awake. -/
theorem effect (awake : world.Awake number) (wired : world.Wired)
    (effect : Operation.Effect world next) : next.Awake number := by
  cases effect with
  | born id design messenger registry fresh =>
    by_cases inside : number < world.agents.size
    · have older := agent_create_of_lt world id design (some .executor) true inside
      intro pending
      change AgentIndex.find? (AgentIndex.insert id world.agents.size world.executor.schedule)
        ((world.create id design (some .executor) true).1.agent number).id = some number
      rw [older, AgentIndex.find?_insert, if_neg (fresh number inside)]
      refine awake ?_
      rw [← older]
      exact pending
    · by_cases newest : number = world.agents.size
      · subst newest
        intro _
        change AgentIndex.find? (AgentIndex.insert id world.agents.size world.executor.schedule)
          ((world.create id design (some .executor) true).1.agent world.agents.size).id = _
        rw [agent_create_self, AgentIndex.find?_insert]
        exact if_pos rfl
      · refine outside ?_
        change (world.agents.push _).size ≤ number
        rw [Array.size_push]
        exact Nat.lt_of_le_of_ne (Nat.le_of_not_lt inside) (Ne.symm newest)
  | scheduled reached inside => exact awake.schedule wired inside
  | stirred middle _ agents executor pursuit stirs =>
    exact (awake.congr agents executor).stirs (wired.congr agents executor) stirs

end World.Awake

/-! ## How a cycle leaves its own agent -/

/-- Whether a cycle is over and said that there is nothing left to do. -/
def Phase.isQuiet : Phase V → Bool
  | .finished (.acted _ again) => !again
  | _ => false

namespace World

/-- An agent that is done has no work. -/
theorem retire_idle (world : World V) (number : BirthNumber) :
    ((world.retire number).agent number).hasPendingWork = false := by
  have retired : (world.retire number).agent number =
      (world.modifyAgent number fun agent =>
        { agent with plans := [], goals := [], done := true }).agent number :=
    agent_congr rfl number
  rw [retired]
  by_cases inside : number < world.agents.size
  · rw [agent_modifyAgent_self world _ inside]
    rfl
  · have outside := Nat.le_of_not_lt inside
    rw [modifyAgent_outside world _ outside, agent_outside world outside]
    rfl

/-- The report of an act stage covers all that can be pending. -/
theorem conclude_idle (number : BirthNumber) (act : Act V)
    (quiet : (conclude number (.completed act)).phase.isQuiet = true) :
    ((conclude number (.completed act)).world.agent number).hasPendingWork = false := by
  simp only [conclude, CycleHalt.phase, Phase.isQuiet, Bool.not_eq_true', Bool.or_eq_false_iff]
    at quiet
  obtain ⟨⟨⟨-, plans⟩, stopping⟩, inbox⟩ := quiet
  simp only [conclude, CycleHalt.world]
  simp [Agent.hasPendingWork, plans, stopping, inbox]

/-- A cycle that comes to its end without asking for another one leaves no work. -/
theorem stride_idle (world : World V) (number : BirthNumber) {phase : Phase V}
    (underway : ∀ outcome, phase ≠ .finished outcome) :
    (world.stride number phase).2.isQuiet = true →
      ((world.stride number phase).1.agent number).hasPendingWork = false := by
  have strode := world.strode number phase
  generalize world.stride number phase = next at strode ⊢
  cases strode with
  | idles isDone =>
    intro _
    simp [Agent.hasPendingWork, isDone]
  | concludes progress => exact conclude_idle number (progress.act world)
  | retires effects actions =>
    intro _
    exact world.retire_idle number
  | rests outcome => exact absurd rfl (underway outcome)
  | _ =>
    intro quiet
    cases quiet

end World

/-! ## Ticks -/

namespace Flight

/-- An agent can count on the tick to be run or looked after. -/
def Owes (flight : Flight V) (number : BirthNumber) : Prop :=
  ∃ phase, (number, phase) ∈ flight.cycles ∧ phase.isQuiet = false

/-- In the midst of a tick each agent is awake, or can count on the tick. -/
structure Sound (flight : Flight V) : Prop where
  wired : flight.world.Wired
  inside : ∀ entry ∈ flight.cycles, entry.1 < flight.world.agents.size
  awake : ∀ number, flight.Owes number ∨ flight.world.Awake number

variable {flight next : Flight V}

/-- A tick takes off soundly. -/
theorem depart_sound {world : World V} (wired : world.Wired) (awake : ∀ number, world.Awake number)
    (random : Option Generator) {order : List BirthNumber}
    (permuted : order.Perm world.executor.schedule.values) : (depart world random order).Sound where
  wired := (wired.taken random).congr rfl rfl
  inside := by
    intro entry member
    obtain ⟨number, listed, rfl⟩ := List.mem_map.mp member
    exact wired.values_inside (permuted.mem_iff.mp listed)
  awake := by
    intro number
    by_cases pending : (world.agent number).hasPendingWork = true
    · have scheduled := AgentIndex.mem_of_find? (awake number pending)
      have listed : number ∈ world.executor.schedule.values :=
        List.mem_map_of_mem (f := Prod.snd) scheduled
      have waking := List.mem_map_of_mem (f := fun number => (number, Phase.waking (V := V)))
        (permuted.mem_iff.mpr listed)
      exact .inl ⟨.waking, waking, rfl⟩
    · exact .inr (fun still => absurd still pending)

/-- What is owed to an agent does not depend on the cycle of another one. -/
theorem Owes.elsewhere {before behind : List (BirthNumber × Phase V)} {number other : BirthNumber}
    {phase : Phase V} (owed : flight.Owes other)
    (underway : flight.cycles = before ++ (number, phase) :: behind) (different : other ≠ number) :
    ∃ held, ((other, held) ∈ before ∨ (other, held) ∈ behind) ∧ held.isQuiet = false := by
  obtain ⟨held, member, restless⟩ := owed
  rw [underway] at member
  exact ⟨held, by simpa [different] using member, restless⟩

/-- A stride keeps a flight sound. -/
theorem stride_sound (sound : flight.Sound) {before behind : List (BirthNumber × Phase V)}
    {number : BirthNumber} {phase : Phase V}
    (underway : flight.cycles = before ++ (number, phase) :: behind) :
    Sound
      { world := (flight.world.stride number phase).1
        cycles := before ++ (number, (flight.world.stride number phase).2) :: behind } := by
  have moves := flight.world.stride_moves number phase
  refine { wired := sound.wired.moves moves, inside := fun entry member => ?_, awake := ?_ }
  · rw [moves.frame.size]
    rcases List.mem_append.mp member with inBefore | inRest
    · exact sound.inside entry (underway ▸ List.mem_append_left _ inBefore)
    · rcases List.mem_cons.mp inRest with rfl | inBehind
      · exact sound.inside (number, phase)
          (underway ▸ List.mem_append_right _ List.mem_cons_self)
      · exact sound.inside entry
          (underway ▸ List.mem_append_right _ (List.mem_cons_of_mem _ inBehind))
  · intro other
    by_cases same : other = number
    · subst same
      by_cases ended : ∃ outcome, phase = .finished outcome
      · obtain ⟨outcome, rfl⟩ := ended
        have still := sound.awake other
        unfold Owes at still
        rw [underway] at still
        exact still
      · cases quiet : (flight.world.stride other phase).2.isQuiet with
        | true => exact .inr (.of_idle (flight.world.stride_idle other (not_exists.mp ended) quiet))
        | false => exact .inl ⟨_, List.mem_append_right _ List.mem_cons_self, quiet⟩
    · refine (sound.awake other).imp (fun owed => ?_) fun awake =>
        awake.moves sound.wired same moves
      obtain ⟨held, member, restless⟩ := owed.elsewhere underway same
      refine ⟨held, ?_, restless⟩
      rcases member with inBefore | inBehind
      · exact List.mem_append_left _ inBefore
      · exact List.mem_append_right _ (List.mem_cons_of_mem _ inBehind)

/-- Accounting for an outcome settles what was owed because of it. -/
theorem report_sound (sound : flight.Sound) {before behind : List (BirthNumber × Phase V)}
    {number : BirthNumber} {outcome : CycleOutcome V}
    (finished : flight.cycles = before ++ (number, .finished outcome) :: behind) :
    Sound
      { world := flight.world.requeueIf number (outcome.asksAgain (flight.world.agent number))
        cycles := before ++ behind } := by
  have present : number < flight.world.agents.size :=
    sound.inside (number, .finished outcome) (finished ▸ List.mem_append_right _ List.mem_cons_self)
  have inside : ∀ entry ∈ before ++ behind, entry.1 < flight.world.agents.size := by
    intro entry left
    refine sound.inside entry ?_
    rw [finished]
    exact ((List.sublist_cons_self _ _).append_left before).subset left
  have owed : ∀ other, flight.Owes other →
      (other = number ∧ Phase.isQuiet (.finished outcome) = false) ∨
        ∃ phase, (other, phase) ∈ before ++ behind ∧ phase.isQuiet = false := by
    rintro other ⟨held, member, restless⟩
    rw [finished] at member
    rcases List.mem_append.mp member with inBefore | inRest
    · exact .inr ⟨held, List.mem_append_left _ inBefore, restless⟩
    · rcases List.mem_cons.mp inRest with equal | inBehind
      · cases equal
        exact .inl ⟨rfl, restless⟩
      · exact .inr ⟨held, List.mem_append_right _ inBehind, restless⟩
  cases asks : outcome.asksAgain (flight.world.agent number) with
  | true =>
    refine { wired := sound.wired.schedule present, inside := inside, awake := fun other => ?_ }
    rcases sound.awake other with owes | awake
    · rcases owed other owes with ⟨rfl, -⟩ | left
      · exact .inr (.of_schedule flight.world other)
      · exact .inl left
    · exact .inr (awake.schedule sound.wired present)
  | false =>
    refine { wired := sound.wired, inside := inside, awake := fun other => ?_ }
    rcases sound.awake other with owes | awake
    · rcases owed other owes with ⟨rfl, restless⟩ | left
      · refine .inr (.of_idle ?_)
        cases outcome with
        | acted actions again =>
          cases asks
          cases restless
        | failed cause => exact asks
        | panicked cause => exact asks
      · exact .inl left
    · exact .inr awake

/-- A step keeps a flight sound. -/
theorem step_sound (sound : flight.Sound) (step : Step flight next) : next.Sound := by
  cases step with
  | operate operation permitted =>
    have effect := operation.perform_effect sound.wired.noneAbandoned permitted
    refine
      { wired := sound.wired.effect effect
        inside := fun entry member => Nat.lt_of_lt_of_le (sound.inside entry member) effect.size_le
        awake := fun number => ?_ }
    exact (sound.awake number).imp_right fun awake => awake.effect sound.wired effect
  | elapse clock =>
    exact
      { wired := sound.wired.congr rfl rfl
        inside := sound.inside
        awake := fun number => (sound.awake number).imp_right fun awake => awake.congr rfl rfl }
  | stride underway => exact stride_sound sound underway
  | report finished => exact report_sound sound finished

/-- What holds when a tick departs holds all through it. -/
theorem steps_sound (sound : flight.Sound) (steps : Steps flight next) : next.Sound := by
  induction steps with
  | refl => exact sound
  | tail _ step ih => exact step_sound ih step

/-- When a tick is over, all agents are awake. -/
theorem Sound.touchDown (sound : flight.Sound) (finished : flight.cycles = []) (duration : Nat) :
    (flight.touchDown duration).Wired ∧ ∀ number, (flight.touchDown duration).Awake number := by
  have landed := sound.wired.withSchedule
    { flight.world.executor with
      tick := flight.world.executor.tick + 1
      lastTickDuration := duration }
    ⟨_, _, _, _, rfl⟩ ⟨sound.wired.ordered, sound.wired.entry⟩
  refine ⟨landed.congr rfl rfl, fun number => ?_⟩
  rcases sound.awake number with ⟨phase, member, _⟩ | awake
  · rw [finished] at member
    cases member
  · exact awake

end Flight

/-! ## Runs -/

namespace Reachable

variable {settings : ExecutorSettings} {messenger : Messenger} {world : World V}

/-- Between ticks all agents are wired and awake. -/
theorem wired_awake (noDeadline : settings.unitTimeout = none)
    (reachable : Reachable settings messenger world) :
    world.Wired ∧ ∀ number, world.Awake number := by
  induction reachable with
  | start => exact ⟨.new settings messenger noDeadline, fun number => .outside (Nat.zero_le _)⟩
  | @operate world before operation permitted ih =>
    have effect := operation.perform_effect ih.1.noneAbandoned permitted
    exact ⟨ih.1.effect effect, fun number => (ih.2 number).effect ih.1 effect⟩
  | @tick world next results before ticked ih =>
    obtain ⟨flown, random, order, duration, permuted, steps, finished, landed⟩ :=
      Flight.of_tick ih.1.toPrompt ih.1.running ticked
    rw [← landed]
    exact (Flight.steps_sound (Flight.depart_sound ih.1 ih.2 random permuted) steps).touchDown
      finished duration
  | @fly world random order flight before permuted steps finished duration ih =>
    exact (Flight.steps_sound (Flight.depart_sound ih.1 ih.2 random permuted) steps).touchDown
      finished duration

/-- No wake-up is lost: in every world of a run, between operations and between ticks, an agent that
has pending work is scheduled. It is among the units that the next tick runs over, and the tick has a
slot for it. -/
theorem pending_work_is_dispatched (noDeadline : settings.unitTimeout = none)
    (reachable : Reachable settings messenger world) (number : BirthNumber)
    (pending : (world.agent number).hasPendingWork = true) :
    world.executor.schedule.find? (world.agent number).id = some number ∧
      ∃ random order, order.Perm world.executor.schedule.values ∧ number ∈ order ∧
        (world.tick =
          ((world.taken random).tickOver order).map fun (next, results) => (next, .ok results)) ∧
        ∀ next results, world.tick = some (next, .ok results) →
          ∃ slot, results.find? (world.agent number).id = some slot := by
  obtain ⟨wired, awake⟩ := reachable.wired_awake noDeadline
  have scheduled := awake number pending
  obtain ⟨random, order, permuted, ticked⟩ := world.tick_eq wired.running
  have listed : number ∈ order :=
    permuted.mem_iff.mpr
      (List.mem_map_of_mem (f := Prod.snd) (AgentIndex.mem_of_find? scheduled))
  refine ⟨scheduled, random, order, permuted, listed, ticked, fun next results returned => ?_⟩
  rw [ticked] at returned
  rcases wired.tickOver_cases random order with
    ⟨flown, outcomes, dispatch, answered⟩ | ⟨-, unanswered⟩
  · rw [answered] at returned
    cases returned
    rw [← dispatch.units_eq] at listed
    obtain ⟨⟨_, outcome⟩, member, rfl⟩ := List.mem_map.mp listed
    exact ⟨_, (wired.exactTick permuted dispatch).slot _ outcome member⟩
  · rw [unanswered] at returned
    cases returned

/-- Two agents are spawned, and the first one is asked to stop. -/
theorem pending_work_is_dispatched_listeners :
    let world := Market.listeners.arrive 0 .stop
    world.executor.schedule.find? (world.agent 0).id = some 0 ∧
      ∃ random order, order.Perm world.executor.schedule.values ∧ 0 ∈ order ∧
        (world.tick =
          ((world.taken random).tickOver order).map fun (next, results) => (next, .ok results)) ∧
        ∀ next results, world.tick = some (next, .ok results) →
          ∃ slot, results.find? (world.agent 0).id = some slot := by
  have first : Reachable { poolSize := 2, seed := some 7, unitTimeout := none } (.new none) _ :=
    .operate .start (.spawn (AgentId.ofNat 1) Market.listener)
      (.inr fun _ inside => absurd inside (Nat.not_lt_zero _))
  have second : Reachable { poolSize := 2, seed := some 7, unitTimeout := none } (.new none)
      Market.listeners := by
    refine .operate first (.spawn (AgentId.ofNat 2) Market.listener) (.inr fun number inside => ?_)
    have only : number = 0 := Nat.lt_one_iff.mp inside
    subst only
    decide
  exact pending_work_is_dispatched rfl (.operate second (.arrive 0 .stop) trivial) 0 rfl

end Reachable

end Deliberation
