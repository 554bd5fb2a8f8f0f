import Deliberation.Market.Trading
import Deliberation.Proofs.Deeds
import Deliberation.Proofs.Pursuit

/-!
# Every trigger is sensed once

What arrives at an agent in a category lies in its inbox until a cycle takes the inbox, and then in
the hands of that cycle until the first sense step of the category starts from it. A `Reception`
follows one agent and one category through any number of cycles: what has arrived, and from which
triggers the steps of each cycle have started.

As long as no cycle panics and the agent has not turned to its shutdown plans, nothing is lost,
nothing is sensed twice, and nothing overtakes (`Reception.Reachable.sensed_in_order`). The triggers
that a plan raises take part: they arrive when the cycle ends, also when it ends with an error.
-/

namespace Deliberation

open Relation

variable {V : Vocabulary}

/-- A run of one agent so far, as far as one category is concerned. -/
structure Reception (V : Vocabulary) where
  world : World V
  phase : Phase V
  /-- What has arrived in the category, in its order. -/
  arrived : List (Trigger V)
  /-- For each former cycle, the triggers that its steps of the category started from. -/
  former : List (List (List (Trigger V)))
  /-- The triggers that steps of the category have started from in the present cycle. -/
  present : List (List (Trigger V))

/-- The triggers from which a step of a category starts by a deed. -/
def Deed.start? (category : Category) : Deed V → Option (List (Trigger V))
  | senses sensed triggers => if sensed = category then some triggers else none
  | _ => none

/-- What arrives at an agent in a category by deeds. -/
def triggersAt (number : BirthNumber) (category : Category) (deeds : List (Deed V)) :
    List (Trigger V) :=
  (arrivalsAt number deeds).filterMap (Arrival.trigger? category)

/-- What a cycle has taken out of the inbox in a category, and no step has started from yet. -/
def Phase.inHand (category : Category) : Phase V → List (Trigger V)
  | sweeping inbox | sensing inbox _ _ => inbox.triggers category
  | _ => []

/-- Whether the sense stage of a cycle is over. -/
def Phase.hasSensed : Phase V → Bool
  | waking | sweeping _ | sensing _ _ _ => false
  | _ => true

namespace Reception

/-- For each cycle, the triggers that its steps of the category started from. -/
def cycles (reception : Reception V) : List (List (List (Trigger V))) :=
  reception.former ++ [reception.present]

/-- The triggers that the first step of the category started from, cycle by cycle. -/
def sensed (reception : Reception V) : List (Trigger V) :=
  reception.cycles.flatMap fun starts => starts.headD []

/-- The run after one more stride of the present cycle. -/
def stride (number : BirthNumber) (category : Category) (reception : Reception V) : Reception V :=
  let deeds := reception.world.deeds number reception.phase
  { reception with
    world := (reception.world.stride number reception.phase).1
    phase := (reception.world.stride number reception.phase).2
    arrived := reception.arrived ++ triggersAt number category deeds
    present := reception.present ++ deeds.filterMap (Deed.start? category) }

/-- One step of a run in which no cycle panics and the agent does not turn to its shutdown plans. -/
inductive Step (number : BirthNumber) (category : Category) : Reception V → Reception V → Prop where
  /-- Something arrives at an agent. -/
  | arrive (reception : Reception V) (reached : BirthNumber) (arrival : Arrival V) :
      Step number category reception
        { reception with
          world := reception.world.arrive reached arrival
          arrived := reception.arrived ++ triggersAt number category [.reaches reached arrival] }
  /-- Anything else changes, but neither the inbox of the agent nor its sense steps. -/
  | surround (reception : Reception V) {next : World V} (inside : number < next.agents.size)
      (inbox : (next.agent number).inbox = (reception.world.agent number).inbox)
      (senseSteps : (next.agent number).senseSteps = (reception.world.agent number).senseSteps) :
      Step number category reception { reception with world := next }
  /-- The agent begins another cycle. -/
  | begin (reception : Reception V) (between : reception.phase.isBusy = false) :
      Step number category reception
        { reception with
          phase := .waking
          former := reception.former ++ [reception.present]
          present := [] }
  /-- The cycle makes a stride. -/
  | stride (reception : Reception V)
      (calm : ∀ cause, (reception.stride number category).phase ≠ .finished (.panicked cause))
      (going : (reception.stride number category).phase.isLate = false) :
      Step number category reception (reception.stride number category)

/-- Any number of steps. -/
abbrev Steps (number : BirthNumber) (category : Category) : Reception V → Reception V → Prop :=
  ReflTransGen (Step number category)

/-- An agent with an empty inbox that is about to begin its first cycle. -/
def opening (world : World V) : Reception V :=
  { world, phase := .waking, arrived := [], former := [], present := [] }

/-- What a run reaches of an agent that has a sense step of the category. -/
inductive Reachable (number : BirthNumber) (category : Category) : Reception V → Prop where
  | start {world : World V} (inside : number < world.agents.size)
      (listens : category ∈ (world.agent number).senseSteps)
      (empty : (world.agent number).inbox = Inbox.empty) :
      Reachable number category (opening world)
  | step {before after : Reception V} (reachable : Reachable number category before)
      (step : Step number category before after) : Reachable number category after

end Reception

/-! ## One stride -/

/-- How the starts of a cycle fit to where it stands: either a step of the category is to come and
none has started, or nothing of the category is left in the hands of the cycle. -/
def Phase.Expects (category : Category) (present : List (List (Trigger V))) : Phase V → Prop
  | waking | sweeping _ => present = []
  | sensing inbox steps _ => present = [] ∧ category ∈ steps ∨ inbox.triggers category = []
  | _ => True

/-- An inbox without a category has the triggers of the others. -/
theorem Inbox.triggers_without (inbox : Inbox V) (sensed category : Category) :
    (inbox.without sensed).triggers category =
      if sensed = category then [] else inbox.triggers category := by
  cases sensed <;> cases category <;> rfl

/-- A cycle that has sensed a category has none of its triggers in hand. -/
theorem Phase.inHand_of_hasSensed {phase : Phase V} (past : phase.hasSensed = true)
    (category : Category) : phase.inHand category = [] := by
  cases phase with
  | waking | sweeping | sensing => cases past
  | planning | acting | closing | parting | finished => rfl

/-- A cycle that has sensed a category expects nothing more of it. -/
theorem Phase.expects_of_hasSensed {phase : Phase V} (past : phase.hasSensed = true)
    (category : Category) (present : List (List (Trigger V))) : phase.Expects category present := by
  cases phase with
  | waking | sweeping | sensing => cases past
  | planning | acting | closing | parting | finished => trivial

/-- An arrival starts no sense step. -/
theorem start?_of_isArrival {category : Category} {deed : Deed V}
    (arrival : deed.isArrival = true) : deed.start? category = none := by
  cases deed with
  | reaches number arrival => rfl
  | _ => cases arrival

namespace World

variable {number : BirthNumber} {category : Category}

/-- After its sense stage a cycle starts no more sense steps. -/
theorem stride_hasSensed (world : World V) (phase : Phase V) (past : phase.hasSensed = true) :
    (world.stride number phase).2.hasSensed = true ∧
      (world.deeds number phase).filterMap (Deed.start? category) = [] := by
  have silent : ∀ script : Script V,
      (script.deeds number world).filterMap (Deed.start? category) = [] := by
    intro script
    rw [List.filterMap_eq_nil_iff]
    intro deed member
    rcases mem_script_deeds member with arrival | rfl | ⟨result, rfl⟩
    · exact start?_of_isArrival arrival
    · rfl
    · rfl
  have calm : ∀ effects : Effects V,
      (effects.deeds number).filterMap (Deed.start? category) = [] := by
    intro effects
    rw [List.filterMap_eq_nil_iff]
    exact fun deed member => start?_of_isArrival (effects_arrivals number effects deed member)
  have settled : ∀ (script : Script V) (effects : Effects V),
      (script.deeds number world ++ script.aftermath number effects).filterMap
        (Deed.start? category) = [] := by
    intro script effects
    rw [List.filterMap_append, silent, List.nil_append]
    unfold Script.aftermath
    split
    · exact calm effects
    · rfl
  have strode := world.strode number phase
  generalize world.stride number phase = next at strode ⊢
  cases strode with
  | idles | turns | wakes | sweepPanics | sweeps | sensed | passes | sensePanics | senses =>
    cases past
  | concludes progress => exact ⟨rfl, calm _⟩
  | takes | begins | retires | parts | rests => exact ⟨rfl, rfl⟩
  | actingReturns | actingFails | actingPanics | actingGoesOn => exact ⟨rfl, settled _ _⟩
  | partingReturns | partingFails | partingPanics | partingGoesOn => exact ⟨rfl, silent _⟩

/-- What a stride does for a category: it takes what waits in the hands of the cycle for the first
step, or nothing. -/
structure Serves (world : World V) (number : BirthNumber) (category : Category) (phase : Phase V)
    (present : List (List (Trigger V))) (taken : List (Trigger V)) : Prop where
  balance : taken ++ ((world.stride number phase).2.inHand category ++
      ((world.stride number phase).1.agent number).inbox.triggers category) =
    phase.inHand category ++ ((world.agent number).inbox.triggers category ++
      triggersAt number category (world.deeds number phase))
  first : (present ++ (world.deeds number phase).filterMap (Deed.start? category)).headD [] =
    present.headD [] ++ taken
  later : (∀ starts ∈ present.tail, starts = []) →
    ∀ starts ∈ (present ++ (world.deeds number phase).filterMap (Deed.start? category)).tail,
      starts = []
  expects : (world.stride number phase).2.Expects category
    (present ++ (world.deeds number phase).filterMap (Deed.start? category))

/-- Where no step of the category starts, nothing is taken. -/
theorem Serves.idle {world : World V} {phase : Phase V} {present : List (List (Trigger V))}
    (silent : (world.deeds number phase).filterMap (Deed.start? category) = [])
    (balance : (world.stride number phase).2.inHand category ++
        ((world.stride number phase).1.agent number).inbox.triggers category =
      phase.inHand category ++ ((world.agent number).inbox.triggers category ++
        triggersAt number category (world.deeds number phase)))
    (expects : (world.stride number phase).2.Expects category present) :
    world.Serves number category phase present [] where
  balance := balance
  first := by rw [silent, List.append_nil, List.append_nil]
  later := by
    rw [silent, List.append_nil]
    exact id
  expects := by
    rw [silent, List.append_nil]
    exact expects

/-- What waits in the inbox of a cycle that is awake. -/
theorem triggers_stride (world : World V) (category : Category) (phase : Phase V)
    (inside : number < world.agents.size) (awake : phase ≠ .waking) :
    ((world.stride number phase).1.agent number).inbox.triggers category =
      (world.agent number).inbox.triggers category ++
        triggersAt number category (world.deeds number phase) := by
  rw [inbox_stride world number phase awake inside, Inbox.triggers_receiveAll]
  rfl

/-- After the sense stage triggers only arrive. -/
theorem stride_serves_late (world : World V) {phase : Phase V} {present : List (List (Trigger V))}
    (inside : number < world.agents.size) (past : phase.hasSensed = true)
    (awake : phase ≠ .waking) : world.Serves number category phase present [] := by
  obtain ⟨later, silent⟩ : (world.stride number phase).2.hasSensed = true ∧
      (world.deeds number phase).filterMap (Deed.start? category) = [] :=
    world.stride_hasSensed phase past
  refine .idle silent ?_ (Phase.expects_of_hasSensed later category present)
  rw [Phase.inHand_of_hasSensed past, Phase.inHand_of_hasSensed later,
    world.triggers_stride category phase inside awake]

/-- A sense step leaves the triggers of the other categories to the steps behind it. -/
theorem stride_sensing (world : World V) (inbox : Inbox V) {sensed : Category}
    {steps : List SenseStep} {acts : List ActStep} (notGoal : category ≠ .goal)
    (calm : ∀ cause, (world.stride number (.sensing inbox (sensed :: steps) acts)).2 ≠
      .finished (.panicked cause)) :
    ∃ left, (world.stride number (.sensing inbox (sensed :: steps) acts)).2 =
        .sensing left steps acts ∧
      left.triggers category = if sensed = category then [] else inbox.triggers category := by
  let triggers :=
    if sensed = .goal then (world.agent number).goals.map .goal else inbox.triggers sensed
  by_cases empty : triggers.isEmpty = true
  · have skips : world.stride number (.sensing inbox (sensed :: steps) acts) =
        (world, .sensing inbox steps acts) := if_pos empty
    refine ⟨inbox, congrArg Prod.snd skips, ?_⟩
    by_cases same : sensed = category
    · subst same
      have nothing : (inbox.triggers sensed).isEmpty = true := by
        simpa only [triggers, if_neg notGoal] using empty
      rw [if_pos rfl, List.isEmpty_iff.mp nothing]
    · rw [if_neg same]
  · simp only [stride] at calm ⊢
    rw [if_neg empty] at calm ⊢
    cases broken : world.senseTriggers number sensed triggers with
    | mk after panic =>
      rw [broken] at calm
      cases panic with
      | some cause => exact absurd rfl (calm cause)
      | none => exact ⟨_, rfl, inbox.triggers_without sensed category⟩

/-- A cycle begins with what waits in the inbox in its hand, or leaves it there. -/
theorem waking_serves (world : World V) {present : List (List (Trigger V))}
    (inside : number < world.agents.size)
    (going : (world.stride number .waking).2.isLate = false)
    (expects : (Phase.waking : Phase V).Expects category present) :
    world.Serves number category .waking present [] := by
  by_cases isDone : (world.agent number).done = true
  · have rests : world.stride number .waking = (world, .finished (.acted [] false)) := if_pos isDone
    refine .idle rfl ?_ ?_
    · rw [rests]
      exact (List.append_nil _).symm
    · rw [rests]
      trivial
  · by_cases stopping : ((world.drain number).1.agent number).stopping = true
    · rw [stride_waking, if_neg isDone, if_pos stopping] at going
      cases going
    · have deliberates : world.stride number .waking =
          ((world.drain number).1, .sweeping (world.agent number).inbox) := by
        rw [stride_waking, if_neg isDone, if_neg stopping]
      refine .idle rfl ?_ ?_
      · rw [deliberates, inbox_drain world inside, Inbox.triggers_empty, List.append_nil]
        exact (List.append_nil _).symm
      · rw [deliberates]
        exact expects

/-- A check of the goals leaves the triggers in hand. -/
theorem sweeping_serves (world : World V) (inbox : Inbox V) {present : List (List (Trigger V))}
    (inside : number < world.agents.size)
    (listens : category ∈ (world.agent number).senseSteps)
    (calm : ∀ cause, (world.stride number (.sweeping inbox)).2 ≠ .finished (.panicked cause))
    (expects : (Phase.sweeping inbox).Expects category present) :
    world.Serves number category (.sweeping inbox) present [] := by
  have arrived := world.triggers_stride category (.sweeping inbox) inside (by simp)
  have unchanged := field_sweep Agent.senseSteps (fun _ _ => rfl) world number number
  have sweeps : (world.stride number (.sweeping inbox)).2 =
      .sensing inbox (world.agent number).senseSteps
        ((world.sweep number).1.agent number).actSteps := by
    simp only [stride] at calm ⊢
    cases swept : world.sweep number with
    | mk after panic =>
      rw [swept] at calm unchanged
      cases panic with
      | some cause => exact absurd rfl (calm cause)
      | none => rw [← unchanged]
  refine .idle rfl ?_ ?_
  · rw [sweeps, arrived]
    rfl
  · rw [sweeps]
    exact .inl ⟨expects, listens⟩

/-- The end of the sense stage leaves no trigger of the category in hand. -/
theorem sensed_serves (world : World V) (inbox : Inbox V) (acts : List ActStep)
    {present : List (List (Trigger V))} (inside : number < world.agents.size)
    (expects : (Phase.sensing inbox [] acts).Expects category present) :
    world.Serves number category (.sensing inbox [] acts) present [] := by
  have arrived := world.triggers_stride category (.sensing inbox [] acts) inside (by simp)
  have served : inbox.triggers category = [] := by
    rcases expects with ⟨-, never⟩ | served
    · cases never
    · exact served
  refine .idle rfl ?_ trivial
  have before : (Phase.sensing inbox [] acts : Phase V).inHand category = [] := served
  rw [before, arrived]
  rfl

/-- The first sense step of the category takes all its triggers; a further one finds none. -/
theorem sensing_serves (world : World V) (inbox : Inbox V) {steps : List SenseStep}
    {acts : List ActStep} {present : List (List (Trigger V))} (inside : number < world.agents.size)
    (notGoal : category ≠ .goal)
    (calm : ∀ cause, (world.stride number (.sensing inbox (category :: steps) acts)).2 ≠
      .finished (.panicked cause))
    (expects : (Phase.sensing inbox (category :: steps) acts).Expects category present) :
    world.Serves number category (.sensing inbox (category :: steps) acts) present
      (inbox.triggers category) := by
  have arrived := world.triggers_stride category (.sensing inbox (category :: steps) acts) inside
    (by simp)
  obtain ⟨left, senses, remaining⟩ := world.stride_sensing inbox notGoal calm
  rw [if_pos rfl] at remaining
  have starts : (world.deeds number (.sensing inbox (category :: steps) acts)).filterMap
      (Deed.start? category) = [inbox.triggers category] := by
    simp [deeds, Deed.start?, notGoal]
  have kept : (world.stride number (.sensing inbox (category :: steps) acts)).2.Expects category
      (present ++ [inbox.triggers category]) := by
    rw [senses]
    exact .inr remaining
  -- a step of the category has started before, so nothing of it is in hand any more
  have spent : present ≠ [] → inbox.triggers category = [] := fun some =>
    expects.elim (fun none => absurd none.1 some) id
  refine ⟨?_, ?_, ?_, starts ▸ kept⟩
  · rw [senses, arrived]
    exact congrArg (inbox.triggers category ++ ·) (congrArg (· ++ _) remaining)
  · rw [starts]
    cases present with
    | nil => rfl
    | cons first later =>
      rw [spent (List.cons_ne_nil _ _), List.append_nil]
      rfl
  · rw [starts]
    intro still
    cases present with
    | nil => simp
    | cons first later =>
      intro starts member
      rcases List.mem_append.mp member with old | new
      · exact still starts old
      · exact (List.mem_singleton.mp new).trans (spent (List.cons_ne_nil _ _))

/-- A sense step of another category leaves the triggers in hand. -/
theorem sensing_spares (world : World V) (inbox : Inbox V) {sensed : Category}
    {steps : List SenseStep} {acts : List ActStep} {present : List (List (Trigger V))}
    (inside : number < world.agents.size) (notGoal : category ≠ .goal)
    (other : sensed ≠ category)
    (calm : ∀ cause, (world.stride number (.sensing inbox (sensed :: steps) acts)).2 ≠
      .finished (.panicked cause))
    (expects : (Phase.sensing inbox (sensed :: steps) acts).Expects category present) :
    world.Serves number category (.sensing inbox (sensed :: steps) acts) present [] := by
  have arrived := world.triggers_stride category (.sensing inbox (sensed :: steps) acts) inside
    (by simp)
  obtain ⟨left, senses, remaining⟩ := world.stride_sensing inbox notGoal calm
  rw [if_neg other] at remaining
  have silent : (world.deeds number (.sensing inbox (sensed :: steps) acts)).filterMap
      (Deed.start? category) = [] := by
    simp [deeds, Deed.start?, other]
  refine .idle silent ?_ ?_
  · rw [senses, arrived]
    exact congrArg (· ++ _) remaining
  · rw [senses]
    rcases expects with ⟨none, listed⟩ | served
    · rcases List.mem_cons.mp listed with now | later
      · exact absurd now.symm other
      · exact .inl ⟨none, later⟩
    · exact .inr (remaining.trans served)

/-- No stride loses a trigger, senses one twice, or lets one overtake another. -/
theorem stride_serves (world : World V) (phase : Phase V) {present : List (List (Trigger V))}
    (inside : number < world.agents.size) (notGoal : category ≠ .goal)
    (listens : category ∈ (world.agent number).senseSteps)
    (calm : ∀ cause, (world.stride number phase).2 ≠ .finished (.panicked cause))
    (going : (world.stride number phase).2.isLate = false)
    (expects : phase.Expects category present) :
    ∃ taken, world.Serves number category phase present taken := by
  cases phase with
  | waking => exact ⟨[], world.waking_serves inside going expects⟩
  | sweeping inbox => exact ⟨[], world.sweeping_serves inbox inside listens calm expects⟩
  | sensing inbox steps acts =>
    cases steps with
    | nil => exact ⟨[], world.sensed_serves inbox acts inside expects⟩
    | cons sensed steps =>
      by_cases same : sensed = category
      · subst same
        exact ⟨_, world.sensing_serves inbox inside notGoal calm expects⟩
      · exact ⟨[], world.sensing_spares inbox inside notGoal same calm expects⟩
  | planning pending steps progress => exact ⟨[], world.stride_serves_late inside rfl (by simp)⟩
  | acting script finished active pending steps progress =>
    exact ⟨[], world.stride_serves_late inside rfl (by simp)⟩
  | closing pending effects actions => exact ⟨[], world.stride_serves_late inside rfl (by simp)⟩
  | parting script finished pending effects actions =>
    exact ⟨[], world.stride_serves_late inside rfl (by simp)⟩
  | finished outcome => exact ⟨[], world.stride_serves_late inside rfl (by simp)⟩

end World

/-! ## Whole runs -/

namespace Reception

variable {number : BirthNumber} {category : Category} {reception before after : Reception V}

/-- The first starts of the former cycles, and then that of the present one. -/
theorem sensed_eq (reception : Reception V) :
    reception.sensed =
      (reception.former.flatMap fun starts => starts.headD []) ++ reception.present.headD [] := by
  simp [sensed, cycles]

/-- What every step keeps. -/
structure Sound (number : BirthNumber) (category : Category) (reception : Reception V) : Prop where
  inside : number < reception.world.agents.size
  listens : category ∈ (reception.world.agent number).senseSteps
  account : reception.sensed ++ (reception.phase.inHand category ++
    (reception.world.agent number).inbox.triggers category) = reception.arrived
  once : ∀ starts ∈ reception.cycles, ∀ later ∈ starts.tail, later = []
  expects : reception.phase.Expects category reception.present

/-- A step keeps what is known of the reception. -/
theorem Step.sound (notGoal : category ≠ .goal) (step : Step number category before after)
    (sound : Sound number category before) : Sound number category after := by
  cases step with
  | arrive reached arrival =>
    refine
      { inside := by simpa using sound.inside, listens := ?_, account := ?_, once := sound.once
        expects := sound.expects }
    · rw [World.field_arrive Agent.senseSteps before.world reached number arrival fun _ _ => rfl]
      exact sound.listens
    · change before.sensed ++ (before.phase.inHand category ++
        ((before.world.arrive reached arrival).agent number).inbox.triggers category) = _
      rw [World.agent_arrive before.world reached arrival sound.inside, Agent.receiveAll,
        Inbox.triggers_receiveAll, ← sound.account, List.append_assoc, List.append_assoc]
      rfl
  | surround inside inbox senseSteps =>
    exact
      { inside, listens := senseSteps ▸ sound.listens
        account := (congrArg (fun inbox : Inbox V => before.sensed ++
          (before.phase.inHand category ++ inbox.triggers category)) inbox).trans sound.account
        once := sound.once, expects := sound.expects }
  | begin between =>
    have nothing : before.phase.inHand category = [] := by
      cases phase : before.phase with
      | waking | finished => rfl
      | _ =>
        rw [phase] at between
        cases between
    refine
      { inside := sound.inside, listens := sound.listens, account := ?_, once := ?_
        expects := rfl }
    · have account := sound.account
      rw [nothing, sensed_eq] at account
      simpa [sensed, cycles, Phase.inHand] using account
    · intro starts member
      rcases List.mem_append.mp member with old | new
      · exact sound.once starts old
      · rw [List.mem_singleton.mp new]
        intro later none
        cases none
  | stride calm going =>
    obtain ⟨taken, serves⟩ := before.world.stride_serves before.phase sound.inside notGoal
      sound.listens calm going sound.expects
    have moves := before.world.stride_moves number before.phase
    have senseSteps : ((before.stride number category).world.agent number).senseSteps =
        (before.world.agent number).senseSteps :=
      World.field_stride Agent.senseSteps (fun _ _ _ _ _ _ _ _ _ _ => rfl) _ _ _ _
    refine
      { inside := moves.frame.size ▸ sound.inside, listens := senseSteps ▸ sound.listens
        account := ?_, once := ?_, expects := serves.expects }
    · have sensed : (before.stride number category).sensed = before.sensed ++ taken := by
        rw [sensed_eq, sensed_eq, List.append_assoc]
        exact congrArg _ serves.first
      have account := congrArg (· ++ triggersAt number category
        (before.world.deeds number before.phase)) sound.account
      rw [sensed, List.append_assoc]
      refine (congrArg (before.sensed ++ ·) serves.balance).trans (Eq.trans ?_ account)
      simp only [List.append_assoc]
    · intro starts member
      rcases List.mem_append.mp member with old | new
      · exact sound.once starts (List.mem_append_left _ old)
      · rw [List.mem_singleton.mp new]
        exact serves.later
          (sound.once before.present (List.mem_append_right _ (List.mem_singleton_self _)))

/-- What is known of the reception holds of whatever it reaches. -/
theorem Reachable.sound (notGoal : category ≠ .goal)
    (reachable : Reachable number category reception) : Sound number category reception := by
  induction reachable with
  | @start world inside listens empty =>
    refine { inside, listens, account := ?_, once := ?_, expects := rfl }
    · change [] ++ ([] ++ (world.agent number).inbox.triggers category) = []
      rw [empty, Inbox.triggers_empty]
      rfl
    · intro starts member
      rw [List.mem_singleton.mp member]
      intro later none
      cases none
  | step _ step ih => exact step.sound notGoal ih

/-- What the first steps of the category have started from, cycle by cycle, is the beginning of what
has arrived. The rest waits in its order: in the inbox, or in the hands of a cycle that has taken
the inbox. The other steps of the category have started from nothing. -/
theorem Reachable.sensed_in_order (notGoal : category ≠ .goal)
    (reachable : Reachable number category reception) :
    reception.sensed ++ (reception.phase.inHand category ++
        (reception.world.agent number).inbox.triggers category) = reception.arrived ∧
      (reception.phase.isBusy = false →
        reception.sensed ++ (reception.world.agent number).inbox.triggers category =
          reception.arrived) ∧
      ∀ starts ∈ reception.cycles, ∀ later ∈ starts.tail, later = [] := by
  have sound := reachable.sound notGoal
  refine ⟨sound.account, fun between => ?_, sound.once⟩
  have nothing : reception.phase.inHand category = [] := by
    cases phase : reception.phase with
    | waking | finished => rfl
    | _ =>
      rw [phase] at between
      cases between
  have account := sound.account
  rwa [nothing] at account

/-! ### Runs stride by stride -/

/-- Make a number of strides. -/
def walk (number : BirthNumber) (category : Category) : Nat → Reception V → Reception V
  | 0, reception => reception
  | strides + 1, reception => walk number category strides (reception.stride number category)

/-- Whether a cycle goes on without a panic and without shutdown plans. -/
def isSmooth (number : BirthNumber) (category : Category) : Nat → Reception V → Bool
  | 0, _ => true
  | strides + 1, reception =>
    let next := reception.stride number category
    (match next.phase with
      | .finished (.panicked _) => false
      | _ => true) && !next.phase.isLate && isSmooth number category strides next

/-- A run goes on for a number of smooth strides. -/
theorem Reachable.walk (reachable : Reachable number category reception) (strides : Nat)
    (smooth : isSmooth number category strides reception = true) :
    Reachable number category (walk number category strides reception) := by
  induction strides generalizing reception with
  | zero => exact reachable
  | succ strides ih =>
    simp only [isSmooth, Bool.and_eq_true, Bool.not_eq_true'] at smooth
    obtain ⟨⟨calm, going⟩, later⟩ := smooth
    refine ih (reachable.step (.stride _ (fun cause panicked => ?_) going)) later
    rw [panicked] at calm
    cases calm

/-! ### What such runs are made of -/

/-- What other agents do in their cycles are arrivals and changes of the surroundings. -/
theorem Steps.of_moves {world next : World V} {other : BirthNumber}
    (moves : Moves Agent.Lasting other world next) (different : number ≠ other)
    (inside : number < world.agents.size) (phase : Phase V) (arrived : List (Trigger V))
    (former : List (List (List (Trigger V)))) (present : List (List (Trigger V))) :
    ∃ later, Steps number category { world, phase, arrived, former, present }
      { world := next, phase, arrived := arrived ++ later, former, present } := by
  induction moves with
  | refl => exact ⟨[], by rw [List.append_nil]⟩
  | @tail middle last earlier move ih =>
    obtain ⟨later, steps⟩ := ih
    have stillInside : number < middle.agents.size := Moves.frame earlier |>.size ▸ inside
    cases move with
    | own change kept =>
      have same := World.agent_modifyAgent_of_ne middle change different
      exact ⟨later, steps.tail (.surround _ (by simpa using stillInside) (by rw [same])
        (by rw [same]))⟩
    | arrive reached arrival =>
      refine ⟨later ++ triggersAt number category [.reaches reached arrival], ?_⟩
      rw [← List.append_assoc]
      exact steps.tail (.arrive _ reached arrival)
    | aside => exact ⟨later, steps.tail (.surround _ stillInside rfl rfl)⟩

/-- A cycle that has ended stays as it is. -/
theorem finished_of_strides {start stop : World V × Phase V} {outcome : CycleOutcome V}
    (strides : World.Strides number start stop) (finished : start.2 = .finished outcome) :
    stop.2 = .finished outcome := by
  induction strides with
  | refl => exact finished
  | tail _ stride ih =>
    cases stride with
    | stride world phase =>
      cases ih
      rfl
    | elapse world phase clock => exact ih

/-- An agent that does not turn to its shutdown plans when its cycle begins does not turn to them in
this cycle. -/
theorem isLate_stride (world : World V) {phase : Phase V} (early : phase.isLate = false)
    (stays : phase = .waking → (world.agent number).done = true ∨
      ((world.drain number).1.agent number).stopping = false) :
    (world.stride number phase).2.isLate = false := by
  by_cases waking : phase = .waking
  · subst waking
    rw [World.stride_waking]
    split
    · rfl
    · rename_i notDone
      rcases stays rfl with isDone | notStopping
      · exact absurd isDone notDone
      · rw [if_neg (Bool.eq_false_iff.mp notStopping)]
        rfl
  · exact world.early_stride waking early

/-- A stride does not lead back to the beginning of the cycle. -/
theorem waking_stride (world : World V) (phase : Phase V) :
    (world.stride number phase).2 ≠ .waking := by
  have strode := world.strode number phase
  generalize world.stride number phase = next at strode ⊢
  intro waking
  cases strode <;> cases waking

/-- The strides of a cycle that does not panic are steps of a run, unless the agent turns to its
shutdown plans. -/
theorem Steps.of_strides {start stop : World V × Phase V}
    (strides : World.Strides number start stop) (inside : number < start.1.agents.size)
    (calm : ∀ cause, stop.2 ≠ .finished (.panicked cause)) (early : start.2.isLate = false)
    (stays : start.2 = .waking → (start.1.agent number).done = true ∨
      ((start.1.drain number).1.agent number).stopping = false)
    (arrived : List (Trigger V)) (former : List (List (List (Trigger V))))
    (present : List (List (Trigger V))) :
    ∃ later starts, Steps number category
      { world := start.1, phase := start.2, arrived, former, present }
      { world := stop.1, phase := stop.2, arrived := arrived ++ later, former,
        present := present ++ starts } := by
  induction strides using ReflTransGen.head_induction_on generalizing arrived present with
  | refl =>
    refine ⟨[], [], ?_⟩
    rw [List.append_nil, List.append_nil]
  | @head start middle stride rest ih =>
    cases stride with
    | stride world phase =>
      have going := isLate_stride world early stays
      have before : Step number category { world, phase, arrived, former, present } _ :=
        .stride _ (fun cause panicked => calm cause (finished_of_strides rest panicked)) going
      have moves := world.stride_moves number phase
      obtain ⟨later, starts, steps⟩ := ih (moves.frame.size ▸ inside) going
        (fun waking => absurd waking (waking_stride world phase))
        (arrived ++ triggersAt number category (world.deeds number phase))
        (present ++ (world.deeds number phase).filterMap (Deed.start? category))
      rw [List.append_assoc, List.append_assoc] at steps
      exact ⟨_, _, .head before steps⟩
    | elapse world phase clock =>
      obtain ⟨later, starts, steps⟩ := ih inside early stays arrived present
      have lapse : Step number category { world, phase, arrived, former, present }
          { world := { world with clock }, phase, arrived, former, present } :=
        .surround _ inside rfl rfl
      exact ⟨later, starts, .head lapse steps⟩

/-- A cycle that does not panic is a part of a run, unless the agent turns to its shutdown plans. -/
theorem Steps.of_cycle {next : World V} {outcome : CycleOutcome V} {deadline : Option Nat}
    (inside : number < reception.world.agents.size) (between : reception.phase.isBusy = false)
    (ended : reception.world.cycle number deadline = .ended next outcome)
    (calm : ∀ cause, outcome ≠ .panicked cause)
    (stays : (reception.world.agent number).done = true ∨
      ((reception.world.drain number).1.agent number).stopping = false) :
    ∃ later starts, Steps number category reception
      { world := next
        phase := .finished outcome
        arrived := reception.arrived ++ later
        former := reception.former ++ [reception.present]
        present := starts } := by
  have strides := reception.world.cycle_strides number deadline
  rw [ended] at strides
  obtain ⟨later, starts, steps⟩ := Steps.of_strides strides inside
    (fun cause panicked => calm cause (Phase.finished.inj panicked)) rfl (fun _ => stays)
    reception.arrived (reception.former ++ [reception.present]) []
  exact ⟨later, starts, .head (.begin _ between) steps⟩

end Reception

/-! ## A run with an echo -/

namespace Market

/-- An agent that raises each internal trigger once more with a plan that fails. It looks at its
internal triggers twice in a cycle. -/
def echo : Design vocabulary :=
  (Design.empty.withScheme .internal <| .rule "echo" fun _ _ trigger =>
    .ok <| trigger.payload?.map fun payload =>
      Plan.once (.raise payload (.done (.error (.failed "echoed")) 0))).withSenseSteps
    [.internal, .message, .internal]

/-- A world with such an agent. -/
def hollow : World vocabulary :=
  let world := World.new { poolSize := 1, seed := none, unitTimeout := none } (.new none)
  (world.create (AgentId.ofNat 1) echo none false).1

/-- An internal trigger. -/
def shout (word : UInt32) : Arrival vocabulary := .internal (.internal (.word word))

/-- The agent sets out with one trigger in its inbox. -/
def called : Reception vocabulary :=
  let world := hollow.arrive 0 (shout 1)
  { Reception.opening world with arrived := triggersAt 0 .internal [.reaches 0 (shout 1)] }

/-- Another trigger arrives when its cycle has taken the inbox. -/
def calledAgain : Reception vocabulary :=
  let reception := Reception.walk 0 .internal 1 called
  { reception with
    world := reception.world.arrive 0 (shout 2)
    arrived := reception.arrived ++ triggersAt 0 .internal [.reaches 0 (shout 2)] }

/-- The cycle has ended with an error. -/
def echoed : Reception vocabulary := Reception.walk 0 .internal 10 calledAgain

end Market

/-- The first trigger was sensed and echoed. The one that came meanwhile waits, and the echo behind
it. -/
theorem Reception.Reachable.sensed_in_order_echoed :
    Category.internal ≠ .goal ∧ Reachable 0 .internal Market.echoed ∧
      Market.echoed.phase = .finished (.failed (.failed "echoed")) ∧
      Market.echoed.arrived.map Trigger.payload? =
        [some (.word 1), some (.word 2), some (.word 1)] ∧
      Market.echoed.present.map (·.map Trigger.payload?) = [[some (.word 1)], []] ∧
      Market.echoed.sensed ++ (Market.echoed.world.agent 0).inbox.triggers .internal =
        Market.echoed.arrived := by
  have start : Reachable 0 .internal (opening Market.hollow) :=
    .start (by decide) (by decide) rfl
  have called : Reachable 0 .internal Market.called :=
    start.step (.arrive _ 0 (Market.shout 1))
  have again : Reachable 0 .internal Market.calledAgain :=
    (called.walk 1 (by decide +kernel)).step (.arrive _ 0 (Market.shout 2))
  have echoed : Reachable 0 .internal Market.echoed := again.walk 10 (by decide +kernel)
  have ended : Market.echoed.phase = .finished (.failed (.failed "echoed")) := by rfl
  refine ⟨by decide, echoed, ended, by decide +kernel, by decide +kernel, ?_⟩
  exact (echoed.sensed_in_order (by decide)).2.1 (by rw [ended]; rfl)

end Deliberation
