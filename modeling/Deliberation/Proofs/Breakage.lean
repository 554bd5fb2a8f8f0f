import Deliberation.Proofs.Solo

/-!
# What a panic costs

An act step takes all plans of its agent and puts back, one after the other, those that are still
active. A plan that returns an error is dropped with the flag of its goal, and the plans behind it
are put back. A plan that panics leaves the step as it stands: with it go all plans that were
pending, and the flags of their goals stay, so that no plan will be made for these goals again.

A goal that is left so is `World.Stray`. It may have been before the cycle began, so what a cycle
does to flags is told apart from what it found.

`World.Executes` is the place of a plan in a cycle. `World.cycle_cut_short` compares what the two
ways of breaking off leave behind, for every cycle that comes to its act stage, and
`World.cycle_cut_short_brittle` is an agent that loses more than the plan that panics.
-/

namespace Deliberation

open Relation

variable {V : Vocabulary}

/-! ## A plan in its act stage -/

namespace Act

/-- The act stage as it begins. -/
def begin (world : World V) : Act V :=
  { world, effects := Effects.none, actions := [], executed := 0 }

/-- A step takes all active plans of its agent. -/
def take (act : Act V) (number : BirthNumber) : Act V :=
  { act with world := act.world.modifyAgent number fun agent => { agent with plans := [] } }

/-- The plans that are still active after plans were executed in order: those that were not marked
finished, with what they remember. -/
def unfinished (number : BirthNumber) (deadline : Option Nat) :
    List (ActivePlan V) → Act V → List (ActivePlan V)
  | [], _ => []
  | active :: pending, act =>
    match active.plan.start.run number deadline act.turn with
    | .returned turn (.ok action) memory =>
      (if turn.finished then [] else [{ active with plan := active.plan.remember memory }]) ++
        unfinished number deadline pending (act.kept number active turn action memory)
    | _ => []

variable {number : BirthNumber} {deadline : Option Nat}

/-- A plan's place in an act stage: `ran` were executed before it in its step, from `start` on,
which led to `reached`, and `pending` wait behind it. -/
inductive Place (number : BirthNumber) (deadline : Option Nat) (ran : List (ActivePlan V))
    (active : ActivePlan V) (pending : List (ActivePlan V)) (start reached : Act V) :
    List ActStep → Act V → Prop where
  | here {steps : List ActStep} {act : Act V}
      (plans : (act.world.agent number).plans = ran ++ active :: pending)
      (taken : act.take number = start)
      (executed : executePlans number deadline steps ran start = .completed reached) :
      Place number deadline ran active pending start reached (.executePlans :: steps) act
  | later {steps : List ActStep} {act next : Act V}
      (executed : executePlans number deadline steps (act.world.agent number).plans
        (act.take number) = .completed next)
      (place : Place number deadline ran active pending start reached steps next) :
      Place number deadline ran active pending start reached (.executePlans :: steps) act

/-- Where plans are not all executed, the execution of one of them went wrong. -/
theorem executePlans_halted {steps : List ActStep} {plans : List (ActivePlan V)} {act : Act V}
    (incomplete : ∀ last, executePlans number deadline steps plans act ≠ .completed last) :
    ∃ ran active pending reached, plans = ran ++ active :: pending ∧
      executePlans number deadline steps ran act = .completed reached ∧
      (∀ turn action memory,
        active.plan.start.run number deadline reached.turn ≠ .returned turn (.ok action) memory) ∧
      executePlans number deadline steps (active :: pending) reached =
        executePlans number deadline steps plans act := by
  fun_induction executePlans number deadline steps plans act with
  | case1 act => exact absurd rfl (incomplete act)
  | case2 active pending act turn action memory returned ih =>
    obtain ⟨ran, wrong, waiting, reached, rfl, executed, notReturned, halted⟩ := ih incomplete
    refine ⟨active :: ran, wrong, waiting, reached, rfl, ?_, notReturned, halted⟩
    simp only [executePlans, returned]
    exact executed
  | case3 active pending act turn cause memory wrong
  | case4 active pending act turn cause wrong
  | case5 active pending act turn wait rest wrong =>
    refine ⟨[], active, pending, act, rfl, rfl, ?_, ?_⟩
    · intro turn action memory returned
      rw [wrong] at returned
      cases returned
    · simp only [executePlans, wrong]

/-- Where an act stage does not complete, the execution of one plan went wrong. -/
theorem run_halted {steps : List ActStep} {act : Act V}
    (incomplete : ∀ last, run number deadline steps act ≠ .completed last) :
    ∃ ran active pending start reached later,
      Place number deadline ran active pending start reached steps act ∧
      (∀ turn action memory,
        active.plan.start.run number deadline reached.turn ≠ .returned turn (.ok action) memory) ∧
      executePlans number deadline later (active :: pending) reached =
        run number deadline steps act := by
  fun_induction run number deadline steps act with
  | case1 act => exact absurd rfl (incomplete act)
  | case2 steps act plans world next completed ih =>
    obtain ⟨ran, active, pending, start, reached, later, place, wrong, halted⟩ := ih incomplete
    exact ⟨ran, active, pending, start, reached, later, .later completed place, wrong, halted⟩
  | case3 steps act plans world notCompleted =>
    obtain ⟨ran, active, pending, reached, split, executed, notReturned, halted⟩ :=
      executePlans_halted notCompleted
    exact ⟨ran, active, pending, act.take number, reached, steps, .here split rfl executed,
      notReturned, halted⟩

/-- A plan that was executed goes to the end of the active plans, unless it was marked finished. -/
theorem plans_kept (act : Act V) (active : ActivePlan V) {turn : Turn V} (action : Option V.Action)
    (memory : Nat) (inside : number < turn.world.agents.size) :
    ((act.kept number active turn action memory).world.agent number).plans =
      (turn.world.agent number).plans ++
        if turn.finished then [] else [{ active with plan := active.plan.remember memory }] := by
  simp only [kept]
  split
  · exact (List.append_nil _).symm
  · rw [World.agent_modifyAgent_self turn.world _ inside]

/-- What the plans leave behind that were executed in order. -/
theorem executePlans_completed {steps : List ActStep} {plans : List (ActivePlan V)}
    {act reached : Act V} (inside : number < act.world.agents.size)
    (executed : executePlans number deadline steps plans act = .completed reached) :
    reached.world.agents.size = act.world.agents.size ∧
      (reached.world.agent number).plans =
        (act.world.agent number).plans ++ unfinished number deadline plans act ∧
      ∀ hand, act.world.Backed (plans ++ hand) → reached.world.Backed hand := by
  fun_induction executePlans number deadline steps plans act with
  | case1 act =>
    cases executed
    exact ⟨rfl, by simp [unfinished], fun _ backed => backed⟩
  | case2 active pending act turn action memory returned ih =>
    have stirs := active.plan.start.run_stirs number deadline act.turn
    rw [returned] at stirs
    have size : turn.world.agents.size = act.world.agents.size := stirs.steady.lasting.frame.size
    have kept := (act.kept_moves number active turn action memory).lasting.frame.size
    obtain ⟨after, plans, backed⟩ := ih (kept.trans size ▸ inside) executed
    refine ⟨after.trans (kept.trans size), ?_, fun hand held => ?_⟩
    · have before : (turn.world.agent number).plans = (act.world.agent number).plans :=
        (stirs.holdings number).2.2
      rw [plans, plans_kept act active action memory (size ▸ inside), before, List.append_assoc]
      simp only [unfinished, returned]
    · exact backed hand (World.kept_backed act active action memory (size ▸ inside)
        (held.stirs stirs))
  | case3 | case4 | case5 => cases executed

/-- What is left when the turn of a plan comes. -/
theorem Place.reached {steps : List ActStep} {act start reached : Act V}
    {ran pending : List (ActivePlan V)} {active : ActivePlan V}
    (place : Place number deadline ran active pending start reached steps act)
    (inside : number < act.world.agents.size) :
    reached.world.agents.size = act.world.agents.size ∧
      (reached.world.agent number).plans = unfinished number deadline ran start ∧
      ∀ hand, act.world.Backed hand → reached.world.Backed (active :: pending ++ hand) := by
  induction place with
  | @here steps act plans taken executed =>
    subst taken
    have size : (act.take number).world.agents.size = act.world.agents.size :=
      World.size_modifyAgent ..
    have emptied : ((act.take number).world.agent number).plans = [] := by
      unfold take
      rw [World.agent_modifyAgent_self _ _ inside]
    obtain ⟨after, left, backed⟩ := executePlans_completed (size ▸ inside) executed
    refine ⟨after.trans size, by rw [left, emptied, List.nil_append], fun hand held => ?_⟩
    have inHand : (act.take number).world.Backed ((act.world.agent number).plans ++ hand) :=
      World.take_backed held
    rw [plans, List.append_assoc] at inHand
    exact backed _ inHand
  | @later steps act next executed place ih =>
    have size : (act.take number).world.agents.size = act.world.agents.size :=
      World.size_modifyAgent ..
    obtain ⟨after, _, backed⟩ := executePlans_completed (size ▸ inside) executed
    obtain ⟨sizes, plans, later⟩ := ih (after.trans size ▸ inside)
    refine ⟨sizes.trans (after.trans size), plans, fun hand held => ?_⟩
    exact later hand (backed hand (World.take_backed held))

end Act

/-! ## A plan in its cycle -/

namespace World

variable {world next : World V} {number : BirthNumber} {deadline : Option Nat}
  {hand : List (ActivePlan V)}

/-- The world in which a cycle comes to its act stage, and the steps of that stage. It does not when
its agent is done or asked to stop, or when a predicate panics. -/
def actStage? (world : World V) (number : BirthNumber) : Option (World V × List ActStep) :=
  if (world.agent number).done then none
  else
    let (world, inbox) := world.drain number
    if (world.agent number).stopping then none
    else
      match world.sweep number with
      | (_, some _) => none
      | (world, none) =>
        let agent := world.agent number
        match sense number world inbox agent.senseSteps with
        | (_, some _) => none
        | (world, none) => some (world, agent.actSteps)

/-- The way to the act stage. -/
theorem of_actStage {stage : World V} {steps : List ActStep}
    (acts : world.actStage? number = some (stage, steps)) :
    (world.agent number).done = false ∧ ((world.drain number).1.agent number).stopping = false ∧
      ∃ swept, (world.drain number).1.sweep number = (swept, none) ∧
        sense number swept (world.drain number).2 (swept.agent number).senseSteps = (stage, none) ∧
        steps = (swept.agent number).actSteps := by
  revert acts
  simp only [actStage?]
  split
  · intro acts
    cases acts
  · rename_i notDone
    split
    · intro acts
      cases acts
    · rename_i notStopping
      split
      · intro acts
        cases acts
      · rename_i swept sweeps
        split
        · intro acts
          cases acts
        · rename_i sensible senses
          rintro ⟨⟩
          exact ⟨by simpa using notDone, by simpa using notStopping, swept, sweeps, senses, rfl⟩

/-- A cycle that comes to its act stage ends with it. -/
theorem cycle_of_actStage {stage : World V} {steps : List ActStep}
    (acts : world.actStage? number = some (stage, steps)) (deadline : Option Nat) :
    world.cycle number deadline =
      conclude number (Act.run number deadline steps (.begin stage)) := by
  obtain ⟨notDone, notStopping, swept, sweeps, senses, rfl⟩ := of_actStage acts
  simp only [cycle, deliberate, notDone, notStopping, sweeps, senses, Bool.false_eq_true, if_false]
  rfl

/-- What sensing adds to the flags, it adds to the plans, unless a predicate panics. -/
theorem sense_backed (world : World V) (inbox : Inbox V) (steps : List SenseStep)
    (inside : number < world.agents.size) (backed : world.Backed hand)
    (complete : (sense number world inbox steps).2 = none) :
    (sense number world inbox steps).1.Backed hand := by
  fun_induction sense number world inbox steps with
  | case1 world inbox => exact backed
  | case2 world inbox category steps triggers empty ih => exact ih inside backed complete
  | case3 world inbox category steps triggers waiting after panic sensed => cases complete
  | case4 world inbox category steps triggers waiting after sensed ih =>
    have size := (world.senseTriggers_moves number category triggers).lasting.frame.size
    have kept := senseTriggers_backed category triggers inside backed
    rw [sensed] at size kept
    exact ih (size ▸ inside) (kept rfl) complete

/-- Sensing makes no agents. -/
theorem sense_size (number : BirthNumber) (world : World V) (inbox : Inbox V)
    (steps : List SenseStep) :
    (sense number world inbox steps).1.agents.size = world.agents.size := by
  fun_induction sense number world inbox steps with
  | case1 world inbox => rfl
  | case2 world inbox category steps triggers empty ih => exact ih
  | case3 world inbox category steps triggers waiting after panic sensed =>
    have size := (world.senseTriggers_moves number category triggers).lasting.frame.size
    rwa [sensed] at size
  | case4 world inbox category steps triggers waiting after sensed ih =>
    have size := (world.senseTriggers_moves number category triggers).lasting.frame.size
    rw [sensed] at size
    exact ih.trans size

/-- On the way to the act stage plans back flags. -/
theorem actStage_backed {stage : World V} {steps : List ActStep}
    (acts : world.actStage? number = some (stage, steps)) (inside : number < world.agents.size) :
    stage.agents.size = world.agents.size ∧ ∀ hand, world.Backed hand → stage.Backed hand := by
  obtain ⟨_, _, swept, sweeps, senses, _⟩ := of_actStage acts
  have drained := (world.drain_moves number).lasting.frame.size
  have sized := ((world.drain number).1.sweep_moves number).lasting.frame.size
  rw [sweeps] at sized
  have sensed := sense_size number swept (world.drain number).2 (swept.agent number).senseSteps
  rw [senses] at sensed
  refine ⟨sensed.trans (sized.trans drained), fun hand backed => ?_⟩
  have before : ((world.drain number).1.sweep number).1.Backed hand :=
    sweep_backed (drain_backed backed)
  rw [sweeps] at before
  have after := sense_backed swept (world.drain number).2 (swept.agent number).senseSteps
    (sized.trans drained ▸ inside) before
  rw [senses] at after
  exact after rfl

/-- A plan's place in a cycle: `ran` were executed before it in its act step, from `start` on, which
led to `reached`, and `pending` wait behind it. -/
def Executes (world : World V) (number : BirthNumber) (deadline : Option Nat)
    (ran : List (ActivePlan V)) (active : ActivePlan V) (pending : List (ActivePlan V))
    (start reached : Act V) : Prop :=
  ∃ stage steps, world.actStage? number = some (stage, steps) ∧
    Act.Place number deadline ran active pending start reached steps (.begin stage)

/-- What is left when the turn of a plan comes in a cycle. -/
theorem Executes.reached {ran pending : List (ActivePlan V)} {active : ActivePlan V}
    {start reached : Act V}
    (executes : world.Executes number deadline ran active pending start reached)
    (inside : number < world.agents.size) :
    number < reached.world.agents.size ∧
      (reached.world.agent number).plans = Act.unfinished number deadline ran start ∧
      ∀ hand, world.Backed hand → reached.world.Backed (active :: pending ++ hand) := by
  obtain ⟨stage, steps, acts, place⟩ := executes
  obtain ⟨size, staged⟩ := actStage_backed acts inside
  obtain ⟨after, plans, backed⟩ := place.reached (size ▸ inside)
  exact ⟨after.trans size ▸ inside, plans, fun hand held => backed hand (staged hand held)⟩

/-- A cycle that does not complete its act stage ends with one of the plans. -/
theorem cycle_halted (acts : (world.actStage? number).isSome = true)
    (incomplete : ∀ next actions again,
      world.cycle number deadline ≠ .ended next (.acted actions again)) :
    ∃ ran active pending start reached later,
      world.Executes number deadline ran active pending start reached ∧
      (∀ turn action memory,
        active.plan.start.run number deadline reached.turn ≠ .returned turn (.ok action) memory) ∧
      world.cycle number deadline =
        conclude number (Act.executePlans number deadline later (active :: pending) reached) := by
  obtain ⟨⟨stage, steps⟩, staged⟩ := Option.isSome_iff_exists.mp acts
  have concludes := cycle_of_actStage staged deadline
  have halts : ∀ last, Act.run number deadline steps (.begin stage) ≠ .completed last := by
    intro last completed
    rw [completed] at concludes
    exact incomplete _ _ _ concludes
  obtain ⟨ran, active, pending, start, reached, later, place, wrong, halted⟩ := Act.run_halted halts
  refine ⟨ran, active, pending, start, reached, later, ⟨stage, steps, staged, place⟩, wrong, ?_⟩
  rw [concludes, halted]

/-! ## Flags without plans -/

/-- A goal is flagged, and no plan is active for it. -/
def Stray (world : World V) (goal : GoalId) : Prop :=
  world.pursuit.isPursued goal = true ∧ ¬ world.Backs [] goal

/-- Where every flag has a plan, no goal is stray. -/
theorem Backed.not_stray (backed : world.Backed []) (goal : GoalId) : ¬ world.Stray goal :=
  fun stray => stray.2 (backed goal stray.1)

/-- A plan that stands in for the missing plan of a goal. -/
def standIn (goal : V.Goal) (id : GoalId) : ActivePlan V :=
  { plan := .mk 0 fun _ => .done (.ok none) 0, goal := some { id, goal } }

/-- Stand-ins for all stray goals back every flag. -/
theorem exists_backed (world : World V) (goal : V.Goal) :
    ∃ strays : List GoalId, (∀ id ∈ strays, world.Stray id) ∧
      world.Backed (strays.map (standIn goal)) := by
  classical
  refine ⟨world.pursuit.goals.filter fun id => world.Stray id, fun id listed => ?_,
    fun id flagged => ?_⟩
  · simpa using (List.mem_filter.mp listed).2
  · by_cases backs : world.Backs [] id
    · exact backs.imp_right fun ⟨_, member, _⟩ => (nomatch member)
    · have listed : id ∈ world.pursuit.goals.filter fun id => world.Stray id :=
        List.mem_filter.mpr ⟨by simpa [Pursuit.isPursued] using flagged,
          decide_eq_true ⟨flagged, backs⟩⟩
      exact .inr ⟨standIn goal id, List.mem_map_of_mem listed, _, rfl, rfl⟩

/-- Where plans keep backing flags together with any others, no goals but those that were stray
before are without a plan. -/
theorem backs_of_keeps {plans : List (ActivePlan V)}
    (keeps : ∀ hand, world.Backed hand → next.Backed (plans ++ hand)) (handle : GoalHandle V)
    (flagged : next.pursuit.isPursued handle.id = true) :
    next.Backs plans handle.id ∨ world.Stray handle.id := by
  obtain ⟨strays, stray, backed⟩ := world.exists_backed handle.goal
  rcases keeps _ backed handle.id flagged with inAgent | ⟨active, member, pursues⟩
  · exact .inl (.inl inAgent)
  · rcases List.mem_append.mp member with inPlans | standsIn
    · exact .inl (.inr ⟨active, inPlans, pursues⟩)
    · obtain ⟨id, listed, rfl⟩ := List.mem_map.mp standsIn
      obtain ⟨_, isGoal, same⟩ := pursues
      cases isGoal
      exact .inr (same ▸ stray id listed)

/-! ## Cycles that break off -/

/-- When a plan panics, its agent is left with the unfinished plans that were executed before it.
The pending ones are lost with it, and goals of these plans keep their flags. -/
theorem cycle_panicked {cause : Panic} (inside : number < world.agents.size)
    (acts : (world.actStage? number).isSome = true)
    (breaks : world.cycle number deadline = .ended next (.panicked cause)) :
    ∃ ran active pending start reached turn,
      world.Executes number deadline ran active pending start reached ∧
      active.plan.start.run number deadline reached.turn = .panicked turn cause ∧
      (next.agent number).plans = Act.unfinished number deadline ran start ∧
      ∀ handle : GoalHandle V, next.pursuit.isPursued handle.id = true →
        next.Backs (active :: pending) handle.id ∨ world.Stray handle.id := by
  have incomplete : ∀ last actions again,
      world.cycle number deadline ≠ .ended last (.acted actions again) := by
    rw [breaks]
    nofun
  obtain ⟨ran, active, pending, start, reached, later, executes, notReturned, cycle⟩ :=
    cycle_halted acts incomplete
  obtain ⟨_, plans, backed⟩ := executes.reached inside
  have stirs := active.plan.start.run_stirs number deadline reached.turn
  rw [breaks] at cycle
  simp only [Act.executePlans] at cycle
  split at cycle
  · rename_i turn action memory returned
    exact absurd returned (notReturned turn action memory)
  · cases cycle
  · rename_i turn panic panicked
    cases cycle
    rw [panicked] at stirs
    exact ⟨ran, active, pending, start, reached, turn, executes, panicked,
      (stirs.holdings number).2.2.trans plans,
      backs_of_keeps fun hand held => (backed hand held).stirs stirs⟩
  · cases cycle

/-- What a cycle leaves behind in which a plan returned an error. -/
theorem conclude_dropped (act : Act V) (active : ActivePlan V) (pending : List (ActivePlan V))
    (turn : Turn V) (cause : PlanError) (inside : number < turn.world.agents.size) :
    ((conclude number (.failed (act.dropped number active pending turn) cause)).world.agent
        number).plans =
      (turn.world.agent number).plans ++ pending ++ turn.effects.plans.map ActivePlan.detached := by
  have frame := (act.dropped_moves number active pending turn).lasting.frame
  have dropped : ((act.dropped number active pending turn).world.agent number).plans =
      (turn.world.agent number).plans ++ pending := by
    have changed := agent_modifyAgent_self
      { turn.world with pursuit := active.release turn.world.pursuit }
      (fun agent => { agent with plans := agent.plans ++ pending }) inside
    exact congrArg Agent.plans changed
  have applied := agent_modifyAgent_self (act.dropped number active pending turn).world
    (fun agent =>
      let inbox :=
        { agent.inbox with internal := agent.inbox.internal ++ turn.effects.raised.map .internal }
      let agent := turn.effects.goals.foldl Agent.adopt { agent with inbox }
      { agent with
        plans := agent.plans ++ turn.effects.plans.map ActivePlan.detached
        stopping := agent.stopping || turn.effects.stop }) (frame.size ▸ inside)
  refine (congrArg Agent.plans applied).trans ?_
  simp only [Agent.plans_adoptAll, dropped]

/-- When a plan returns an error, it is the only one that its agent loses. -/
theorem cycle_failed {cause : PlanError} (inside : number < world.agents.size)
    (acts : (world.actStage? number).isSome = true)
    (fails : world.cycle number deadline = .ended next (.failed cause)) :
    ∃ ran active pending start reached turn memory,
      world.Executes number deadline ran active pending start reached ∧
      active.plan.start.run number deadline reached.turn = .returned turn (.error cause) memory ∧
      (next.agent number).plans =
        Act.unfinished number deadline ran start ++ pending ++
          turn.effects.plans.map ActivePlan.detached ∧
      ∀ handle : GoalHandle V, next.pursuit.isPursued handle.id = true →
        next.Backs [] handle.id ∨ world.Stray handle.id := by
  have incomplete : ∀ last actions again,
      world.cycle number deadline ≠ .ended last (.acted actions again) := by
    rw [fails]
    nofun
  obtain ⟨ran, active, pending, start, reached, later, executes, notReturned, cycle⟩ :=
    cycle_halted acts incomplete
  obtain ⟨within, plans, backed⟩ := executes.reached inside
  have stirs := active.plan.start.run_stirs number deadline reached.turn
  rw [fails] at cycle
  simp only [Act.executePlans] at cycle
  split at cycle
  · rename_i turn action memory returned
    exact absurd returned (notReturned turn action memory)
  · rename_i turn reason memory returned
    rw [returned] at stirs
    have size : turn.world.agents.size = reached.world.agents.size :=
      stirs.steady.lasting.frame.size
    have left := conclude_dropped reached active pending turn reason (size ▸ within)
    rw [← cycle] at left
    cases cycle
    refine ⟨ran, active, pending, start, reached, turn, memory, executes, returned, ?_,
      backs_of_keeps fun hand held => ?_⟩
    · have before : (turn.world.agent number).plans = (reached.world.agent number).plans :=
        (stirs.holdings number).2.2
      rw [← plans, ← before]
      exact left
    · have ran : turn.world.Backed (active :: pending ++ hand) := (backed hand held).stirs stirs
      exact applyEffects_backed _ (dropped_backed reached active (size ▸ within) ran)
  · cases cycle
  · cases cycle

/-- What an agent loses with a plan. A plan that panics takes the plans with it that were pending
behind it in its step, and the flags of their goals stay behind; a plan that returns an error goes
alone and with its flag. In both cases the unfinished plans that were executed before it stay, and
every other goal that is flagged then has a plan or was stray before. -/
theorem cycle_cut_short (inside : number < world.agents.size)
    (acts : (world.actStage? number).isSome = true) (next : World V) :
    (∀ cause, world.cycle number deadline = .ended next (.panicked cause) →
      ∃ ran active pending start reached turn,
        world.Executes number deadline ran active pending start reached ∧
        active.plan.start.run number deadline reached.turn = .panicked turn cause ∧
        (next.agent number).plans = Act.unfinished number deadline ran start ∧
        ∀ handle : GoalHandle V, next.pursuit.isPursued handle.id = true →
          next.Backs (active :: pending) handle.id ∨ world.Stray handle.id) ∧
    ∀ cause, world.cycle number deadline = .ended next (.failed cause) →
      ∃ ran active pending start reached turn memory,
        world.Executes number deadline ran active pending start reached ∧
        active.plan.start.run number deadline reached.turn = .returned turn (.error cause) memory ∧
        (next.agent number).plans =
          Act.unfinished number deadline ran start ++ pending ++
            turn.effects.plans.map ActivePlan.detached ∧
        ∀ handle : GoalHandle V, next.pursuit.isPursued handle.id = true →
          next.Backs [] handle.id ∨ world.Stray handle.id :=
  ⟨fun _ breaks => cycle_panicked inside acts breaks, fun _ fails => cycle_failed inside acts fails⟩

end World

/-! ## An agent that loses more than the plan that panics -/

/-- The panic or the error that ends a cycle, if one does. -/
def CycleHalt.break? : CycleHalt V → Option (Panic ⊕ PlanError)
  | .ended _ (.panicked cause) => some (.inl cause)
  | .ended _ (.failed cause) => some (.inr cause)
  | _ => none

/-- Whether a cycle ends with its actions. -/
def CycleHalt.acts : CycleHalt V → Bool
  | .ended _ (.acted _ _) => true
  | _ => false

/-- A cycle that breaks with a panic has ended with it. -/
theorem CycleHalt.eq_of_panicked {halt : CycleHalt V} {cause : Panic}
    (panics : halt.break? = some (.inl cause)) : halt = .ended halt.world (.panicked cause) := by
  unfold break? at panics
  split at panics
  · cases panics
    rfl
  · cases panics
  · cases panics

/-- A cycle that breaks with an error has ended with it. -/
theorem CycleHalt.eq_of_failed {halt : CycleHalt V} {cause : PlanError}
    (fails : halt.break? = some (.inr cause)) : halt = .ended halt.world (.failed cause) := by
  unfold break? at fails
  split at fails
  · cases fails
  · cases fails
    rfl
  · cases fails

namespace Market

/-- A plan that does nothing and never finishes. -/
def idling : Plan vocabulary := Plan.repeating fun _ => .done (.ok none) 0

/-- A plan that panics in its second execution. -/
def fuse : Plan vocabulary :=
  Plan.repeating fun execution =>
    if execution = 2 then .panic (.message "boom") else .done (.ok none) 0

/-- What a plan fails with that does not panic. -/
def fizzle : PlanError := .failed "fizzle"

/-- A plan that fails in its second execution. -/
def squib : Plan vocabulary :=
  Plan.repeating fun execution => .done (if execution = 2 then .error fizzle else .ok none) 0

/-- A seeker with a plan between two others, to which a goal is given. -/
def brittle (plan : Plan vocabulary) : World vocabulary :=
  let world := World.new { poolSize := 1, seed := none, unitTimeout := none } (.new none)
  let design := { seeker with initialPlans := [idling, plan, idling] }
  (world.create (AgentId.ofNat 1) design none false).1.arrive 0 (.goal utopia)

/-- The seeker before the cycle in which the plan breaks off: it has made a plan for its goal. -/
def charged (plan : Plan vocabulary) : World vocabulary := ((brittle plan).cycle 0 none).world

/-- The seeker after that cycle. -/
def blown (plan : Plan vocabulary) : World vocabulary := ((charged plan).cycle 0 none).world

/-- When the first cycle is over, every flag has a plan. -/
theorem charged_backed (plan : Plan vocabulary)
    (acts : ((brittle plan).cycle 0 none).acts = true) : (charged plan).Backed [] := by
  have inside : 0 < (brittle plan).agents.size := Nat.zero_lt_one
  have unflagged : (brittle plan).Backed [] := fun _ flagged => (nomatch flagged)
  cases ended : (brittle plan).cycle 0 none with
  | blocked world cycle =>
    rw [ended] at acts
    cases acts
  | ended world outcome =>
    rw [ended] at acts
    have calm : ∀ cause, outcome ≠ .panicked cause := by
      rintro cause rfl
      cases acts
    have reached : charged plan = world := congrArg CycleHalt.world ended
    rw [reached]
    exact World.cycle_backed inside ended calm unflagged

/-- The cycle with the fuse panics. -/
theorem charged_blows :
    (charged fuse).cycle 0 none = .ended (blown fuse) (.panicked (.message "boom")) :=
  CycleHalt.eq_of_panicked (by decide +kernel)

/-- The cycle with the squib fails. -/
theorem charged_fizzles : (charged squib).cycle 0 none = .ended (blown squib) (.failed fizzle) :=
  CycleHalt.eq_of_failed (by decide +kernel)

end Market

namespace World

/-- The plan was executed behind the first one. Where it panicked, that one is all that is left; where
it returned an error, the two behind it are left as well, and the flagged goal has its plan. No goal
was stray before. -/
theorem cycle_cut_short_charged :
    ((Market.charged Market.fuse).actStage? 0).isSome = true ∧
      (∀ goal, ¬ (Market.charged Market.fuse).Stray goal) ∧
      (Market.charged Market.fuse).cycle 0 none =
        .ended (Market.blown Market.fuse) (.panicked (.message "boom")) ∧
      (∃ ran active pending start reached turn,
        (Market.charged Market.fuse).Executes 0 none ran active pending start reached ∧
        active.plan.start.run 0 none reached.turn = .panicked turn (.message "boom") ∧
        ((Market.blown Market.fuse).agent 0).plans = Act.unfinished 0 none ran start ∧
        (Market.blown Market.fuse).Backs (active :: pending) Market.utopia.id) ∧
      ((Market.charged Market.squib).actStage? 0).isSome = true ∧
      (∀ goal, ¬ (Market.charged Market.squib).Stray goal) ∧
      (Market.charged Market.squib).cycle 0 none =
        .ended (Market.blown Market.squib) (.failed Market.fizzle) ∧
      (∃ ran active pending start reached turn memory,
        (Market.charged Market.squib).Executes 0 none ran active pending start reached ∧
        active.plan.start.run 0 none reached.turn = .returned turn (.error Market.fizzle) memory ∧
        ((Market.blown Market.squib).agent 0).plans = Act.unfinished 0 none ran start ++ pending ++
          turn.effects.plans.map ActivePlan.detached ∧
        (Market.blown Market.squib).Backs [] Market.utopia.id) := by
  have fuseActs : ((Market.charged Market.fuse).actStage? 0).isSome = true := by decide +kernel
  have squibActs : ((Market.charged Market.squib).actStage? 0).isSome = true := by decide +kernel
  have fuseStray := (Market.charged_backed Market.fuse (by decide +kernel)).not_stray
  have squibStray := (Market.charged_backed Market.squib (by decide +kernel)).not_stray
  obtain ⟨ran, active, pending, start, reached, turn, executes, panicked, plans, flags⟩ :=
    (cycle_cut_short (by decide +kernel) fuseActs (Market.blown Market.fuse)).1 _
      Market.charged_blows
  refine ⟨fuseActs, fuseStray, Market.charged_blows,
    ⟨ran, active, pending, start, reached, turn, executes, panicked, plans, ?_⟩,
    squibActs, squibStray, Market.charged_fizzles, ?_⟩
  · exact (flags Market.utopia (by decide +kernel)).resolve_right (fuseStray _)
  · obtain ⟨ran, active, pending, start, reached, turn, memory, executes, returned, plans, flags⟩ :=
      (cycle_cut_short (by decide +kernel) squibActs (Market.blown Market.squib)).2 _
        Market.charged_fizzles
    exact ⟨ran, active, pending, start, reached, turn, memory, executes, returned, plans,
      (flags Market.utopia (by decide +kernel)).resolve_right (squibStray _)⟩

/-- Of four plans the first ran before the fuse and two were pending. The agent is left with one.
Its goal is still held and flagged, and the plan for it is gone. -/
theorem cycle_cut_short_brittle :
    ((Market.charged Market.fuse).agent 0).plans.length = 4 ∧
      (Market.charged Market.fuse).cycle 0 none =
        .ended (Market.blown Market.fuse) (.panicked (.message "boom")) ∧
      ((Market.blown Market.fuse).agent 0).plans.length = 1 ∧
      ((Market.charged Market.fuse).agent 0).plansFor Market.utopia.id ≠ [] ∧
      ((Market.blown Market.fuse).agent 0).holds Market.utopia = true ∧
      (Market.blown Market.fuse).pursuit.isPursued Market.utopia.id = true ∧
      ((Market.blown Market.fuse).agent 0).plansFor Market.utopia.id = [] := by
  refine ⟨by decide +kernel, Market.charged_blows, by decide +kernel, ?_, by decide +kernel,
    by decide +kernel, List.length_eq_zero_iff.mp (by decide +kernel)⟩
  exact List.ne_nil_of_length_pos (by decide +kernel)

end World

end Deliberation
