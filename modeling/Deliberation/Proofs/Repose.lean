import Deliberation.Proofs.Idleness
import Deliberation.Proofs.Transcript

/-!
# Agents at rest

A cycle that asks for no other one has come to a point where another one would change nothing. So
the agent may be left alone until something arrives, as long as nothing else touches it or the
flags.

An `Undisturbed` cycle that asks for no other one leads to where its agent is asleep
(`Undisturbed.settles`): what is known on the way is `Phase.Settles`, for each phase. A `Slumber` is
what comes after it, any number of cycles and whatever happens elsewhere
(`Undisturbed.sleep_is_sound`).
-/

namespace Deliberation

variable {V : Vocabulary}

/-! ## What stays as it is when things happen elsewhere -/

/-- Flags that say the same make no difference to an agent that is candid. -/
theorem Agent.Candid.ignores {agent : Agent V} (candid : agent.Candid) {first second : Pursuit}
    (flags : ∀ goal, second.isPursued goal = first.isPursued goal) {category : Category}
    {trigger : Trigger V} (ignores : agent.Ignores first category trigger) :
    agent.Ignores second category trigger := by
  have agree : second.Agree (fun _ => True) first := fun goal _ => flags goal
  have passes : ∀ scheme : Scheme V, scheme.Within (fun _ => True) →
      scheme.Passes first agent.view trigger → scheme.Passes second agent.view trigger := by
    intro scheme within passes
    exact (Scheme.instantiate_agree agree within agent.view trigger).trans passes
  refine ⟨fun interceptor member => ?_, ignores.2.imp (fun pursued => ?_) fun missed => ?_⟩
  · exact passes _ (candid.interceptors category interceptor member) (ignores.1 interceptor member)
  · rw [Trigger.isPursuedGoal_agree agree fun _ _ => trivial]
    exact pursued
  · exact fun scheme member =>
      passes _ (candid.schemes category scheme member) (missed scheme member)

/-- Whether a candid agent rests depends on what the flags say. -/
theorem Agent.Candid.rests {agent : Agent V} (candid : agent.Candid) {first second : Pursuit}
    (flags : ∀ goal, second.isPursued goal = first.isPursued goal) (rests : agent.Rests first) :
    agent.Rests second :=
  fun handle held => candid.ignores flags (rests handle held)

/-! ## The cycle that comes to rest -/

/-- What is known of an agent in a cycle that has executed no plan, once achieved goals are dropped.
Either a goal step is still to come, or it makes nothing of the goals. -/
structure Agent.Drowsy (agent : Agent V) (pursuit : Pursuit) (coming : Prop) : Prop where
  candid : agent.Candid
  unachieved : agent.Unachieved
  rests : .goal ∈ agent.senseSteps → coming ∨ agent.Rests pursuit

/-- An agent is done, or it has nothing left to do. -/
def Agent.Sleeps (agent : Agent V) (pursuit : Pursuit) : Prop :=
  agent.done = true ∨ agent.Candid ∧ agent.Asleep pursuit

/-- What is known in each phase of a cycle. Once a plan is there to be executed, the cycle is going
to ask for another one. -/
def Phase.Settles (number : BirthNumber) (world : World V) : Phase V → Prop
  | .waking | .sweeping _ => (world.agent number).Candid
  | .sensing _ steps _ =>
    (world.agent number).plans ≠ [] ∨ (world.agent number).Drowsy world.pursuit (.goal ∈ steps)
  | .planning pending _ progress =>
    0 < progress.executed ∨ pending ≠ [] ∨ (world.agent number).plans ≠ [] ∨
      progress.effects = Effects.none ∧ (world.agent number).Drowsy world.pursuit False
  | .finished (.acted _ false) => (world.agent number).Sleeps world.pursuit
  | _ => True

/-- Something happens that leaves all flags alone, and an agent but for its inbox. -/
structure World.Brushes (number : BirthNumber) (world next : World V) : Prop where
  size : world.agents.size ≤ next.agents.size
  agent : ∃ inbox, next.agent number = { world.agent number with inbox }
  flags : ∀ goal, next.pursuit.isPursued goal = world.pursuit.isPursued goal

section

variable {world next : World V} {number : BirthNumber}

/-- What is in the inbox does not matter to an agent in its cycle. -/
theorem Agent.Drowsy.inbox {agent : Agent V} {first second : Pursuit} {coming : Prop}
    (drowsy : agent.Drowsy first coming) (inbox : Inbox V)
    (flags : ∀ goal, second.isPursued goal = first.isPursued goal) :
    ({ agent with inbox } : Agent V).Drowsy second coming where
  candid := ⟨drowsy.candid.schemes, drowsy.candid.interceptors⟩
  unachieved := drowsy.unachieved
  rests member := (drowsy.rests member).imp_right (drowsy.candid.rests flags)

/-- What happens elsewhere does not matter to a cycle. When it is over, nothing may arrive. -/
theorem Phase.Settles.brushes {phase : Phase V} (settles : phase.Settles number world)
    (brushes : world.Brushes number next)
    (calm : (∃ outcome, phase = .finished outcome) →
      (next.agent number).inbox = (world.agent number).inbox) :
    phase.Settles number next := by
  obtain ⟨inbox, changed⟩ := brushes.agent
  cases phase with
  | waking | sweeping =>
    simp only [Settles] at settles ⊢
    exact changed ▸ ⟨settles.schemes, settles.interceptors⟩
  | sensing inbox steps acts =>
    simp only [Settles, changed] at settles ⊢
    exact settles.imp_right fun drowsy => drowsy.inbox _ brushes.flags
  | planning pending steps progress =>
    simp only [Settles, changed] at settles ⊢
    exact settles.imp_right (.imp_right (.imp_right fun ⟨effects, drowsy⟩ =>
      ⟨effects, drowsy.inbox _ brushes.flags⟩))
  | acting | closing | parting => trivial
  | finished outcome =>
    have kept := calm ⟨outcome, rfl⟩
    have same : next.agent number = world.agent number := by
      rw [changed] at kept ⊢
      rw [show inbox = (world.agent number).inbox from kept]
    match outcome with
    | .acted _ false =>
      simp only [Settles, Agent.Sleeps, same] at settles ⊢
      refine settles.imp_right fun ⟨candid, asleep⟩ => ⟨candid, ?_⟩
      exact { asleep with rests := fun member => candid.rests brushes.flags (asleep.rests member) }
    | .acted _ true | .failed _ | .panicked _ => trivial

/-- Whether an agent is candid shows in its schemes and interceptors. -/
theorem Agent.Candid.congr {agent other : Agent V} (candid : agent.Candid)
    (schemes : other.schemes = agent.schemes)
    (interceptors : other.interceptors = agent.interceptors) : other.Candid where
  schemes := schemes ▸ candid.schemes
  interceptors := interceptors ▸ candid.interceptors

/-- An inbox without anything in it is the empty one. -/
theorem Inbox.eq_empty_of_isEmpty {inbox : Inbox V} (empty : inbox.isEmpty = true) :
    inbox = Inbox.empty := by
  obtain ⟨external, internal, messages, goals, stopRequested⟩ := inbox
  simpa [isEmpty, Inbox.empty, and_assoc] using empty

/-- An agent that drains its inbox is candid if it was before. -/
theorem World.candid_drain (candid : (world.agent number).Candid) :
    ((world.drain number).1.agent number).Candid := by
  obtain ⟨goals, adopted⟩ := Agent.adoptAll_eq (world.agent number).inbox.goals
    { world.agent number with inbox := Inbox.empty }
  refine candid.congr ?_ ?_
  · exact field_modifyAgent Agent.schemes world number number _ (by simp only [adopted])
  · exact field_modifyAgent Agent.interceptors world number number _ (by simp only [adopted])

/-- What an agent knows after achieved goals are dropped. -/
theorem World.drowsy_of_sweep (inside : number < world.agents.size)
    (candid : (world.agent number).Candid) (swept : world.sweep number = (next, none)) :
    (next.agent number).Drowsy next.pursuit (.goal ∈ (next.agent number).senseSteps) := by
  have complete : (world.sweep number).2 = none := by rw [swept]
  have after : next = (world.sweep number).1 := by rw [swept]
  subst after
  have unachieved := unachieved_of_sweepGoals complete
  unfold sweep
  rw [agent_modifyAgent_self _ _ (by simpa using inside)]
  exact ⟨⟨candid.schemes, candid.interceptors⟩, unachieved, .inl⟩

/-- What is known after a sense step. -/
theorem World.settles_of_senseTriggers {inbox : Inbox V} {category : Category}
    {steps : List SenseStep} (inside : number < world.agents.size)
    (settles : (world.agent number).plans ≠ [] ∨
      (world.agent number).Drowsy world.pursuit (.goal ∈ category :: steps))
    (senses : world.senseTriggers number category (world.offered number inbox category) =
      (next, none)) :
    (next.agent number).plans ≠ [] ∨
      (next.agent number).Drowsy next.pursuit (.goal ∈ steps) := by
  have complete : (world.senseTriggers number category
      (world.offered number inbox category)).2 = none := by rw [senses]
  have plans := (senseTriggers_complete category _ inside complete).2.2
  rw [senses] at plans
  rcases settles with busy | drowsy
  · exact .inl (by simp [plans, busy])
  · by_cases idle : (next.agent number).plans = (world.agent number).plans
    · have ignores := ignores_of_senseTriggers inside senses idle
      have same := senseTriggers_of_ignores ignores
      rw [senses] at same
      cases same
      refine .inr ⟨drowsy.candid, drowsy.unachieved, fun member => ?_⟩
      rcases drowsy.rests member with coming | rests
      · rcases List.mem_cons.mp coming with rfl | later
        · exact .inr fun handle held => ignores _ (List.mem_map_of_mem held)
        · exact .inl later
      · exact .inr rests
    · refine .inl fun planless => idle ?_
      rw [planless] at plans ⊢
      exact (List.append_eq_nil_iff.mp plans.symm).1.symm

/-- A cycle that asks for no other one leaves its agent asleep. -/
theorem World.sleeps_of_conclude {progress : Progress V} (inside : number < world.agents.size)
    (settles : (Phase.planning [] [] progress).Settles number world)
    (plans : ((world.applyEffects number progress.effects).agent number).plans = [])
    (stopping : ((world.applyEffects number progress.effects).agent number).stopping = false)
    (inbox : ((world.applyEffects number progress.effects).agent number).inbox = Inbox.empty)
    (unexecuted : progress.executed = 0) :
    ((world.applyEffects number progress.effects).agent number).Sleeps
      (world.applyEffects number progress.effects).pursuit := by
  rcases settles with executed | pending | busy | ⟨effects, drowsy⟩
  · exact absurd executed (by simp [unexecuted])
  · exact absurd rfl pending
  · rw [plans_applyEffects progress.effects inside] at plans
    exact absurd (List.append_eq_nil_iff.mp plans).1 busy
  · rw [effects, applyEffects_none] at plans stopping inbox ⊢
    have rests : .goal ∈ (world.agent number).senseSteps →
        (world.agent number).Rests world.pursuit :=
      fun member => (drowsy.rests member).resolve_left id
    exact .inr ⟨drowsy.candid, inbox, stopping, plans, drowsy.unachieved, rests⟩

/-- A cycle that ends with actions leaves what is known if its agent sleeps. -/
theorem Phase.settles_acted {actions : List V.Action} {again : Bool}
    (sleeps : again = false → (world.agent number).Sleeps world.pursuit) :
    (Phase.finished (.acted actions again)).Settles number world := by
  cases again with
  | true => trivial
  | false => exact sleeps rfl

/-- A cycle goes on knowing what it knows. -/
theorem Phase.Settles.stride {phase : Phase V} (inside : number < world.agents.size)
    (settles : phase.Settles number world) :
    (world.stride number phase).2.Settles number (world.stride number phase).1 := by
  have strode := world.strode number phase
  generalize world.stride number phase = strided at strode ⊢
  cases strode with
  | idles isDone => exact .inl isDone
  | turns | sweepPanics | sensePanics | begins | actingFails | actingPanics | actingGoesOn | parts
  | partingReturns | partingFails | partingPanics | partingGoesOn => trivial
  | wakes after inbox notDone drained notStopping =>
    have candid : ((world.drain number).1.agent number).Candid := World.candid_drain settles
    rw [drained] at candid
    exact candid
  | sweeps inbox after swept => exact .inr (World.drowsy_of_sweep inside settles swept)
  | sensed inbox acts =>
    refine .inr (.inr (settles.imp_right fun drowsy => ⟨rfl, ?_⟩))
    exact { drowsy with rests := fun member => (drowsy.rests member).imp_left List.not_mem_nil }
  | passes inbox category steps acts empty =>
    refine settles.imp_right fun drowsy => { drowsy with rests := fun member => ?_ }
    rcases drowsy.rests member with coming | rests
    · rcases List.mem_cons.mp coming with rfl | later
      · have goalless : (world.agent number).goals = [] := by simpa [World.offered] using empty
        exact .inr (by simp [Agent.Rests, goalless])
      · exact .inl later
    · exact .inr rests
  | senses inbox category steps acts after waiting senses =>
    exact World.settles_of_senseTriggers inside settles senses
  | concludes progress =>
    refine settles_acted fun quiet => ?_
    simp only [Bool.or_eq_false_iff, decide_eq_false_iff_not, Bool.not_eq_false', Nat.not_lt,
      Nat.le_zero, List.isEmpty_iff] at quiet
    obtain ⟨⟨⟨unexecuted, plans⟩, stopping⟩, inbox⟩ := quiet
    exact World.sleeps_of_conclude inside settles plans stopping (Inbox.eq_empty_of_isEmpty inbox)
      unexecuted
  | takes steps progress =>
    simp only [Settles]
    rw [World.agent_modifyAgent_self world _ inside]
    rcases settles with executed | pending | busy | ⟨effects, drowsy⟩
    · exact .inl executed
    · exact absurd rfl pending
    · exact .inr (.inl busy)
    · exact .inr (.inr (.inr ⟨effects,
        ⟨drowsy.candid.schemes, drowsy.candid.interceptors⟩, drowsy.unachieved, drowsy.rests⟩))
  | actingReturns script finished active pending steps progress turn action memory returned =>
    exact .inl (Nat.succ_pos _)
  | retires effects actions =>
    refine .inl ?_
    unfold World.retire
    rw [World.agent_modifyAgent_self _ _ (by simpa using inside)]
  | rests outcome => exact settles

end

/-- A cycle of an agent under way, from where it began on. Whatever happens between two strides
leaves the agent and all flags alone; things may arrive until the cycle is over. -/
inductive Undisturbed (number : BirthNumber) (start : World V) : World V → Phase V → Prop where
  | begins : Undisturbed number start start .waking
  | stride {world : World V} {phase : Phase V} (before : Undisturbed number start world phase) :
      Undisturbed number start (world.stride number phase).1 (world.stride number phase).2
  | aside {world next : World V} {phase : Phase V} (before : Undisturbed number start world phase)
      (brushes : world.Brushes number next)
      (calm : (∃ outcome, phase = .finished outcome) →
        (next.agent number).inbox = (world.agent number).inbox) :
      Undisturbed number start next phase

namespace Undisturbed

variable {number : BirthNumber} {start world : World V} {phase : Phase V}

/-- An undisturbed cycle may make strides in a row. -/
theorem strides {after : World V × Phase V} (undisturbed : Undisturbed number start world phase)
    (strides : World.Strides number (world, phase) after) :
    Undisturbed number start after.1 after.2 := by
  refine strides.keeps (fun state => Undisturbed number start state.1 state.2) ?_ ?_ undisturbed
  · intro world phase reached
    exact reached.stride
  · intro world phase clock reached
    exact reached.aside
      { size := Nat.le_refl _, agent := ⟨_, rfl⟩, flags := fun _ => rfl } fun _ => rfl

/-- What is known in each phase of an undisturbed cycle. -/
theorem settles (undisturbed : Undisturbed number start world phase)
    (inside : number < start.agents.size) (candid : (start.agent number).Candid) :
    number < world.agents.size ∧ phase.Settles number world := by
  induction undisturbed with
  | begins => exact ⟨inside, candid⟩
  | @stride world phase _ ih =>
    obtain ⟨within, settles⟩ := ih
    exact ⟨(world.stride_moves number phase).frame.size ▸ within, settles.stride within⟩
  | aside _ brushes calm ih =>
    exact ⟨Nat.lt_of_lt_of_le ih.1 brushes.size, ih.2.brushes brushes calm⟩

end Undisturbed

/-! ## The cycles after it -/

/-- What is known in each phase of a cycle of an agent that sleeps. No plan is ever executed. -/
def Phase.Idles (number : BirthNumber) (world : World V) : Phase V → Prop
  | .waking => (world.agent number).Sleeps world.pursuit
  | .sweeping inbox =>
    inbox = Inbox.empty ∧ (world.agent number).Candid ∧ (world.agent number).Asleep world.pursuit
  | .sensing inbox steps _ =>
    inbox = Inbox.empty ∧ (.goal ∈ steps → .goal ∈ (world.agent number).senseSteps) ∧
      (world.agent number).Candid ∧ (world.agent number).Asleep world.pursuit
  | .planning pending _ progress =>
    pending = [] ∧ progress = (Act.begin world).progress ∧
      (world.agent number).Candid ∧ (world.agent number).Asleep world.pursuit
  | .finished outcome =>
    outcome = .acted [] false ∧ (world.agent number).Sleeps world.pursuit
  | _ => False

/-- Something happens that leaves an agent and all flags alone. -/
structure World.Misses (number : BirthNumber) (world next : World V) : Prop where
  agent : next.agent number = world.agent number
  flags : ∀ goal, next.pursuit.isPursued goal = world.pursuit.isPursued goal

section

variable {world next : World V} {number : BirthNumber} {phase : Phase V}

/-- Flags that say the same leave a candid agent asleep. -/
theorem Agent.Asleep.misses {agent : Agent V} {first second : Pursuit} (candid : agent.Candid)
    (asleep : agent.Asleep first) (flags : ∀ goal, second.isPursued goal = first.isPursued goal) :
    agent.Asleep second :=
  { asleep with rests := fun member => candid.rests flags (asleep.rests member) }

/-- A sense step makes nothing of the triggers that it starts from. -/
theorem Agent.Asleep.ignores_offered {category : Category} {steps : List SenseStep}
    (asleep : (world.agent number).Asleep world.pursuit)
    (held : .goal ∈ category :: steps → .goal ∈ (world.agent number).senseSteps) :
    ∀ trigger ∈ world.offered number Inbox.empty category,
      (world.agent number).Ignores world.pursuit category trigger := by
  cases category with
  | goal => exact List.forall_mem_map.mpr (asleep.rests (held List.mem_cons_self))
  | external | internal | message => exact fun trigger member => nomatch member

/-- What happens elsewhere leaves a cycle idle. -/
theorem Phase.Idles.misses (idles : phase.Idles number world) (misses : world.Misses number next) :
    phase.Idles number next := by
  obtain ⟨same, flags⟩ := misses
  cases phase with
  | waking =>
    simp only [Idles, Agent.Sleeps, same] at idles ⊢
    exact idles.imp_right fun ⟨candid, asleep⟩ => ⟨candid, asleep.misses candid flags⟩
  | sweeping inbox =>
    simp only [Idles, same] at idles ⊢
    exact ⟨idles.1, idles.2.1, idles.2.2.misses idles.2.1 flags⟩
  | sensing inbox steps acts =>
    simp only [Idles, same] at idles ⊢
    exact ⟨idles.1, idles.2.1, idles.2.2.1, idles.2.2.2.misses idles.2.2.1 flags⟩
  | planning pending steps progress =>
    simp only [Idles, same] at idles ⊢
    exact ⟨idles.1, idles.2.1, idles.2.2.1, idles.2.2.2.misses idles.2.2.1 flags⟩
  | finished outcome =>
    simp only [Idles, Agent.Sleeps, same] at idles ⊢
    exact ⟨idles.1, idles.2.imp_right fun ⟨candid, asleep⟩ =>
      ⟨candid, asleep.misses candid flags⟩⟩
  | acting | closing | parting => exact idles

/-- A stride of a cycle of an agent that sleeps leaves the world as it is. -/
theorem Phase.Idles.stride (idles : phase.Idles number world) :
    (world.stride number phase).1 = world ∧ (world.stride number phase).2.Idles number world := by
  have strode := world.strode number phase
  generalize world.stride number phase = strided at strode ⊢
  cases strode with
  | idles isDone => exact ⟨rfl, rfl, .inl isDone⟩
  | turns after inbox notDone drained stopping =>
    obtain ⟨candid, asleep⟩ := idles.resolve_left (by simp [notDone])
    rw [World.drain_of_empty asleep.inbox] at drained
    cases drained
    rw [asleep.stopping] at stopping
    cases stopping
  | wakes after inbox notDone drained notStopping =>
    obtain ⟨candid, asleep⟩ := idles.resolve_left (by simp [notDone])
    rw [World.drain_of_empty asleep.inbox] at drained
    cases drained
    exact ⟨rfl, rfl, candid, asleep⟩
  | sweepPanics inbox after panic swept =>
    obtain ⟨-, candid, asleep⟩ := idles
    rw [World.sweep_of_unachieved asleep.unachieved] at swept
    cases swept
  | sweeps inbox after swept =>
    obtain ⟨empty, candid, asleep⟩ := idles
    rw [World.sweep_of_unachieved asleep.unachieved] at swept
    cases swept
    exact ⟨rfl, empty, id, candid, asleep⟩
  | sensed inbox acts => exact ⟨rfl, rfl, rfl, idles.2.2⟩
  | passes inbox category steps acts empty =>
    exact ⟨rfl, idles.1, fun member => idles.2.1 (List.mem_cons_of_mem _ member), idles.2.2⟩
  | sensePanics inbox category steps acts after panic waiting senses =>
    obtain ⟨rfl, held, candid, asleep⟩ := idles
    rw [World.senseTriggers_of_ignores (asleep.ignores_offered held)] at senses
    cases senses
  | senses inbox category steps acts after waiting senses =>
    obtain ⟨rfl, held, candid, asleep⟩ := idles
    rw [World.senseTriggers_of_ignores (asleep.ignores_offered held)] at senses
    cases senses
    refine ⟨rfl, ?_, fun member => held (List.mem_cons_of_mem _ member), candid, asleep⟩
    cases category <;> rfl
  | concludes progress =>
    obtain ⟨-, rfl, candid, asleep⟩ := idles
    have concluded := World.conclude_of_asleep asleep
    rw [show (Act.begin world).progress.act world = Act.begin world from rfl, concluded]
    exact ⟨rfl, rfl, .inr ⟨candid, asleep⟩⟩
  | takes steps progress =>
    obtain ⟨-, began, candid, asleep⟩ := idles
    have kept : (world.modifyAgent number fun agent => { agent with plans := [] }) = world :=
      World.modifyAgent_of_eq (by rw [← asleep.plans])
    rw [kept]
    exact ⟨rfl, asleep.plans, began, candid, asleep⟩
  | begins => exact absurd idles.1 (List.cons_ne_nil _ _)
  | actingReturns | actingFails | actingPanics | actingGoesOn | retires | parts | partingReturns
  | partingFails | partingPanics | partingGoesOn => exact idles.elim
  | rests outcome => exact ⟨rfl, idles⟩

/-- All that a cycle of an agent that sleeps does is to wake and to sense. -/
theorem Phase.Idles.deeds (idles : phase.Idles number world) :
    ∀ deed ∈ world.deeds number phase,
      deed = .wakes ∨ ∃ category triggers, deed = .senses category triggers := by
  cases phase with
  | waking => simp [World.deeds]
  | sweeping | finished => simp [World.deeds]
  | sensing inbox steps acts => cases steps <;> simp [World.deeds]
  | planning pending steps progress =>
    obtain ⟨rfl, rfl, -⟩ := idles
    cases steps with
    | nil => simp [World.deeds, Act.begin, Act.progress, Effects.deeds, Effects.none]
    | cons => simp [World.deeds]
  | acting | closing | parting => exact idles.elim

end

/-- Any number of cycles of an agent, one after the other, from a world on. Whatever happens between
two strides leaves the agent and all flags alone. -/
inductive Slumber (number : BirthNumber) (start : World V) : World V → Phase V → Prop where
  | begins : Slumber number start start .waking
  | stride {world : World V} {phase : Phase V} (before : Slumber number start world phase) :
      Slumber number start (world.stride number phase).1 (world.stride number phase).2
  | again {world : World V} {outcome : CycleOutcome V}
      (before : Slumber number start world (.finished outcome)) :
      Slumber number start world .waking
  | aside {world next : World V} {phase : Phase V} (before : Slumber number start world phase)
      (misses : world.Misses number next) : Slumber number start next phase

/-- In a slumber the cycles are idle, and neither the agent nor a flag changes. -/
theorem Slumber.idles {number : BirthNumber} {start world : World V} {phase : Phase V}
    (slumber : Slumber number start world phase)
    (sleeps : (start.agent number).Sleeps start.pursuit) :
    phase.Idles number world ∧ world.agent number = start.agent number ∧
      ∀ goal, world.pursuit.isPursued goal = start.pursuit.isPursued goal := by
  induction slumber with
  | begins => exact ⟨sleeps, rfl, fun _ => rfl⟩
  | stride _ ih =>
    obtain ⟨idles, same, flags⟩ := ih
    obtain ⟨kept, onward⟩ := idles.stride
    rw [kept]
    exact ⟨onward, same, flags⟩
  | again _ ih => exact ⟨ih.1.2, ih.2⟩
  | aside _ misses ih =>
    exact ⟨ih.1.misses misses, misses.agent.trans ih.2.1,
      fun goal => (misses.flags goal).trans (ih.2.2 goal)⟩

/-- What an agent does in a cycle of a slumber. -/
structure Slumber.Tells (number : BirthNumber) (start world : World V) (phase : Phase V) :
    Prop where
  /-- Its goals, interceptors, plans and all the rest are as they were. -/
  agent : world.agent number = start.agent number
  flags : ∀ goal, world.pursuit.isPursued goal = start.pursuit.isPursued goal
  /-- A stride changes nothing anywhere. -/
  still : (world.stride number phase).1 = world
  /-- No plan is executed. -/
  deeds : ∀ deed ∈ world.deeds number phase,
    deed = .wakes ∨ ∃ category triggers, deed = .senses category triggers
  /-- A cycle returns no action and asks for no other one. -/
  outcome : ∀ outcome, phase = .finished outcome → outcome = .acted [] false
  /-- A cycle that begins comes to its end at once. -/
  cycle : phase = .waking → ∀ deadline,
    world.cycle number deadline = .ended world (.acted [] false)

/-- What an agent does in a slumber is nothing. -/
theorem Slumber.tells {number : BirthNumber} {start world : World V} {phase : Phase V}
    (slumber : Slumber number start world phase)
    (sleeps : (start.agent number).Sleeps start.pursuit) : Tells number start world phase := by
  obtain ⟨idles, agent, flags⟩ := slumber.idles sleeps
  refine { agent, flags, still := idles.stride.1, deeds := idles.deeds, outcome := ?_, cycle := ?_ }
  · rintro outcome rfl
    exact idles.1
  · rintro rfl deadline
    rcases idles with isDone | ⟨-, asleep⟩
    · exact World.cycle_of_done isDone deadline
    · exact World.cycle_of_asleep asleep deadline

/-- An agent that asks for no other cycle may be left alone, whatever its steps are, if its schemes
and interceptors are functions of what they are given; whether a goal holds depends on the contexts
alone, as it does for every vocabulary. A cycle, and what is left of one that waited,
is undisturbed up to where it ends or waits. When an undisturbed cycle returns without asking for
another one, then for as long as nothing arrives and nothing else changes the agent or a flag, all
further cycles leave the agent and the flags as they are, execute no plan, return no action and ask
for no other cycle. -/
theorem Undisturbed.sleep_is_sound (start : World V) (number : BirthNumber)
    (inside : number < start.agents.size) (candid : (start.agent number).Candid) :
    (∀ deadline, Undisturbed number start (start.cycle number deadline).world
      (start.cycle number deadline).phase) ∧
    (∀ world suspended, suspended.agent = number →
      Undisturbed number start world suspended.phase →
      ∀ deadline, Undisturbed number start (world.resume suspended deadline).world
        (world.resume suspended deadline).phase) ∧
    ∀ world actions, Undisturbed number start world (.finished (.acted actions false)) →
      ∀ later phase, Slumber number world later phase →
        Slumber.Tells number world later phase := by
  refine ⟨fun deadline => ?_, ?_, fun world actions undisturbed later phase slumber => ?_⟩
  · exact Undisturbed.begins.strides (start.cycle_strides number deadline)
  · rintro world suspended rfl undisturbed deadline
    exact undisturbed.strides (world.resume_strides suspended deadline)
  · exact slumber.tells (undisturbed.settles inside candid).2

/-- Whether a cycle returned without asking for another one. -/
def CycleHalt.isQuiet : CycleHalt V → Bool
  | .ended _ (.acted _ false) => true
  | _ => false

/-- A quiet cycle is over, with actions and without asking for another one. -/
theorem CycleHalt.phase_of_isQuiet {halt : CycleHalt V} (quiet : halt.isQuiet = true) :
    ∃ actions, halt.phase = .finished (.acted actions false) := by
  unfold isQuiet at quiet
  split at quiet
  · exact ⟨_, rfl⟩
  · cases quiet

namespace Market

/-- An agent that looks at its goals twice in a cycle, with plans for those that are about sales and
an interceptor for those that are pursued. -/
def drifter : Design vocabulary :=
  ((Design.empty.withScheme .goal targetScheme).withInterceptor .goal
    (sentinel 0 true fun pursuit trigger => trigger.isPursuedGoal pursuit)).withSenseSteps
    [.goal, .message, .goal]

/-- An agent that drifts, and that a goal waits for. -/
def drifting : World vocabulary :=
  let world := World.new { poolSize := 1, seed := none, unitTimeout := none } (.new none)
  (world.create (AgentId.ofNat 1) drifter none false).1.arrive 0 (.goal utopia)

/-- The schemes and interceptors of the drifter are functions. -/
theorem drifting_candid : (drifting.agent 0).Candid where
  schemes category := by
    intro scheme member
    cases category with
    | goal =>
      obtain rfl : scheme = targetScheme := List.mem_singleton.mp member
      exact fun _ _ _ => rfl
    | external | internal | message => cases member
  interceptors category := by
    intro interceptor member
    cases category with
    | goal =>
      obtain rfl := List.mem_singleton.mp member
      intro first second agree
      funext trigger
      exact congrArg Except.ok (Trigger.isPursuedGoal_agree agree fun _ _ => trivial)
    | external | internal | message => cases member

end Market

/-- The drifter takes its goal up, and leaves it at that from then on. -/
theorem Undisturbed.sleep_is_sound_drifting :
    ((Market.drifting.cycle 0 none).world.agent 0).goals.length = 1 ∧
      ∀ later phase, Slumber 0 (Market.drifting.cycle 0 none).world later phase →
        Slumber.Tells 0 (Market.drifting.cycle 0 none).world later phase := by
  have inside : 0 < Market.drifting.agents.size := by decide +kernel
  obtain ⟨cycles, -, sleeps⟩ :=
    Undisturbed.sleep_is_sound Market.drifting 0 inside Market.drifting_candid
  have undisturbed := cycles none
  have quiet : (Market.drifting.cycle 0 none).isQuiet = true := by decide +kernel
  obtain ⟨actions, ended⟩ := CycleHalt.phase_of_isQuiet quiet
  rw [ended] at undisturbed
  exact ⟨by decide +kernel, sleeps _ _ undisturbed⟩

end Deliberation
