import Deliberation.Proofs.Firings

/-!
# Watching over interceptors

A `Vigil` follows one agent through any number of cycles and logs what matters to its interceptors.
Beside the log it keeps account of the plans at work: how each became active, and how often it has
been executed. Here is what one stride does. The lists of the agent stay those that the log gives
(`Vigil.posted_stride`), the account of the plans stays right (`Vigil.Manned.stride`), and what
the log says is due (`Vigil.due_stride`).
-/

namespace Deliberation

open Relation

variable {V : Vocabulary}

/-! ## What the log makes of a list -/

section posted

variable {log : List (VigilEvent V)} {interceptors : Interceptors V}

/-- The firings of a sense step, as events. -/
def firingEvents (category : Category) (firings : List (Interceptor V × Hit V)) :
    List (VigilEvent V) :=
  firings.map fun firing => .fires category firing.1 firing.2

/-- To fire is to register nothing. -/
theorem registrations_firingEvents (category : Category)
    (firings : List (Interceptor V × Hit V)) : registrations (firingEvents category firings) = [] :=
  List.filterMap_eq_nil_iff.mpr <| List.forall_mem_map.mpr fun _ _ => rfl

/-- Firings oust the interceptors that fired, in their category. -/
theorem any_ousts_firingEvents (category other : Category) (firings : List (Interceptor V × Hit V))
    (id : InterceptorId) :
    (firingEvents other firings).any (·.ousts category id) =
      (other == category && (firings.map (·.1)).any (·.id == id)) := by
  rw [firingEvents, List.any_map, List.any_map]
  cases same : other == category <;> simp [same, Function.comp_def, VigilEvent.ousts]

/-- Executions put nobody on a list and take nobody off. -/
theorem posted_executes (category : Category) (works : List (Work V)) :
    posted category (log ++ works.map .executes) = posted category log := by
  have silent : registrations (works.map VigilEvent.executes) = [] :=
    List.filterMap_eq_nil_iff.mpr <| List.forall_mem_map.mpr fun _ _ => rfl
  rw [posted_append_of_silent silent]
  refine List.filter_eq_self.mpr fun interceptor _ => ?_
  simp [VigilEvent.ousts]

/-- A change does to the lists what its event says. -/
theorem Tweak.get_apply (tweak : Tweak V) (category : Category) :
    (apply interceptors tweak).get category =
      ((interceptors.get category).filter fun interceptor =>
          !(VigilEvent.tweaks tweak).ousts category interceptor.id) ++
        ((VigilEvent.tweaks tweak).posts? category).toList := by
  cases tweak with
  | adds other interceptor =>
    refine (interceptors.get_add (other, interceptor) category).trans ?_
    congr 1
    exact (List.filter_eq_self.mpr fun _ _ => rfl).symm
  | removes other id =>
    rw [apply, Interceptors.remove, PerCategory.modify]
    by_cases same : other = category
    · subst same
      simp [VigilEvent.posts?, VigilEvent.registration?, VigilEvent.ousts, bne, Bool.beq_comm]
    · have apart : (other == category) = false := beq_eq_false_iff_ne.mpr same
      rw [PerCategory.get_set_of_ne _ _ (Ne.symm same)]
      simp [apart, VigilEvent.posts?, VigilEvent.registration?, VigilEvent.ousts]

/-- A change of the interceptors shows in what is posted. -/
theorem posted_tweaks (listed : ∀ category, interceptors.get category = posted category log)
    (tweak? : Option (Tweak V)) (category : Category) :
    (tweak?.toList.foldl Tweak.apply interceptors).get category =
      posted category (log ++ tweak?.toList.map .tweaks) := by
  cases tweak? with
  | none => exact (listed category).trans (by rw [Option.toList_none, List.map_nil, List.append_nil])
  | some tweak =>
    refine (Tweak.get_apply tweak category).trans ?_
    rw [listed category]
    exact (posted_snoc category log (.tweaks tweak)).symm

/-- A sense step leaves on the lists those that do not fire. -/
theorem posted_firings (listed : ∀ category, interceptors.get category = posted category log)
    {fired : Category} {watches : List (Watch V)}
    (order : watches.map (·.interceptor) = interceptors.get fired)
    (distinct : ((interceptors.get fired).map Interceptor.id).Nodup) (category : Category) :
    (interceptors.set fired ((watches.filter (·.shot?.isNone)).map (·.interceptor))).get category =
      posted category (log ++ firingEvents fired (Watch.firings watches)) := by
  rw [posted_append_of_silent (registrations_firingEvents _ _), ← listed category]
  rw [← order] at distinct
  simp only [any_ousts_firingEvents]
  by_cases same : fired = category
  · subst same
    rw [PerCategory.get_set_self, Watch.left_eq_filter distinct, order]
    simp
  · rw [PerCategory.get_set_of_ne _ _ (Ne.symm same)]
    exact (List.filter_eq_self.mpr fun interceptor _ => by simp [same]).symm

end posted

/-! ## Plans at work -/

/-- The plans that are at work for an agent. -/
structure Crew (V : Vocabulary) where
  /-- The active plans. -/
  active : List (Work V)
  /-- Those in the hands of the cycle, with the one that is being executed in front. -/
  hand : List (Work V)

namespace Crew

/-- The shutdown plans that a cycle takes as it wakes. -/
def farewells (world : World V) (number : BirthNumber) : List (Plan V) :=
  let drained := (world.drain number).1.agent number
  if drained.stopping then drained.shutdownPlans else []

/-- What becomes of the plans at work in a stride. -/
def note (crew : Crew V) (world : World V) (number : BirthNumber) : Phase V → Crew V
  | .waking => { crew with hand := (farewells world number).map .fresh }
  | .sensing inbox (category :: _) _ =>
    { crew with
      active := crew.active ++
        (world.sensing number inbox category).plans.map fun active => .fresh active.plan }
  | .planning [] [] progress =>
    { crew with active := crew.active ++ progress.effects.plans.map .fresh }
  | .planning [] (.executePlans :: _) _ => { active := [], hand := crew.active }
  | .acting (.done (.ok _) memory) finished _ _ _ _ =>
    { active := crew.active ++ if finished then [] else (crew.hand.take 1).map (·.again memory)
      hand := crew.hand.tail }
  | .acting (.done (.error _) _) _ _ _ _ progress =>
    { active := crew.active ++ crew.hand.tail ++ progress.effects.plans.map .fresh, hand := [] }
  | .closing [] _ _ => { active := [], hand := [] }
  | .parting (.done _ _) _ _ _ _ => { crew with hand := crew.hand.tail }
  | _ => crew

end Crew

/-- What a stride does that matters to the interceptors. -/
def World.vigilEvents (world : World V) (number : BirthNumber) (hand : List (Work V)) :
    Phase V → List (VigilEvent V)
  | .sensing inbox (category :: _) _ =>
    firingEvents category (world.firings number inbox category)
  | .planning (_ :: _) _ _ | .closing (_ :: _) _ _ => (hand.take 1).map .executes
  | .acting script _ _ _ _ _ | .parting script _ _ _ _ => script.tweak?.toList.map .tweaks
  | _ => []

/-- The script that is being executed. -/
def Phase.script? : Phase V → Option (Script V)
  | acting script _ _ _ _ _ | parting script _ _ _ _ => some script
  | _ => none

/-- A run of one agent so far, as far as its interceptors are concerned. -/
structure Vigil (V : Vocabulary) where
  world : World V
  phase : Phase V
  crew : Crew V
  log : List (VigilEvent V)

namespace Vigil

/-- The run after one more stride of the present cycle. -/
def stride (number : BirthNumber) (vigil : Vigil V) : Vigil V :=
  { world := (vigil.world.stride number vigil.phase).1
    phase := (vigil.world.stride number vigil.phase).2
    crew := vigil.crew.note vigil.world number vigil.phase
    log := vigil.log ++ vigil.world.vigilEvents number vigil.crew.hand vigil.phase }

/-- What happens elsewhere leaves the interceptors and the plans of an agent alone. -/
structure Spares (number : BirthNumber) (world next : World V) : Prop where
  size : world.agents.size ≤ next.agents.size
  interceptors : (next.agent number).interceptors = (world.agent number).interceptors
  plans : (next.agent number).plans = (world.agent number).plans

/-- One step of a run in which no cycle panics. -/
inductive Step (number : BirthNumber) : Vigil V → Vigil V → Prop where
  /-- Something else happens. -/
  | aside (vigil : Vigil V) {next : World V} (spares : Spares number vigil.world next) :
      Step number vigil { vigil with world := next }
  /-- The agent begins another cycle. -/
  | begin (vigil : Vigil V) (between : vigil.phase.isBusy = false) :
      Step number vigil { vigil with phase := .waking }
  /-- The cycle makes a stride. -/
  | stride (vigil : Vigil V)
      (calm : ∀ cause, (vigil.stride number).phase ≠ .finished (.panicked cause)) :
      Step number vigil (vigil.stride number)

/-- Any number of steps. -/
abbrev Steps (number : BirthNumber) : Vigil V → Vigil V → Prop := ReflTransGen (Step number)

/-- An agent that is about to begin its first cycle. -/
def opening (number : BirthNumber) (world : World V) : Vigil V :=
  { world, phase := .waking
    crew :=
      { active := (world.agent number).plans.map fun active => .fresh active.plan, hand := [] }
    log := equipment (world.agent number).interceptors }

/-- What a run reaches of an agent, whatever interceptors and plans it starts out with. -/
inductive Reachable (number : BirthNumber) : Vigil V → Prop where
  | start {world : World V} (inside : number < world.agents.size) :
      Reachable number (opening number world)
  | step {before after : Vigil V} (reachable : Reachable number before)
      (step : Step number before after) : Reachable number after

end Vigil

/-! ## One stride -/

/-- An agent that adopts goals keeps its interceptors. -/
theorem Agent.interceptors_adoptAll (handles : List (GoalHandle V)) (agent : Agent V) :
    (handles.foldl adopt agent).interceptors = agent.interceptors := by
  obtain ⟨goals, adopted⟩ := adoptAll_eq handles agent
  rw [adopted]

namespace Vigil

section stride

variable {number : BirthNumber} {world : World V} {phase : Phase V} {log : List (VigilEvent V)}

/-- A stride does to the lists what its events say. -/
theorem posted_stride (inside : number < world.agents.size)
    (listed : ∀ category, (world.agent number).interceptors.get category = posted category log)
    (distinct : DistinctIds log) (hand : List (Work V))
    (calm : ∀ cause, (world.stride number phase).2 ≠ .finished (.panicked cause))
    (category : Category) :
    ((world.stride number phase).1.agent number).interceptors.get category =
      posted category (log ++ world.vigilEvents number hand phase) := by
  have quiet : ∀ {next : World V},
      (next.agent number).interceptors = (world.agent number).interceptors →
      (next.agent number).interceptors.get category = posted category (log ++ []) := by
    intro next same
    rw [same, List.append_nil]
    exact listed category
  have tweaked : ∀ {script rest : Script V} {effects : Effects V} {finished : Bool} {next : Turn V}
      {wait : Wait}, script.advance number { world, effects, finished } = .blocked next wait rest →
      (next.world.agent number).interceptors.get category =
        posted category (log ++ script.tweak?.toList.map .tweaks) := by
    intro script rest effects finished next wait blocked
    rw [Script.interceptors_of_advance blocked inside]
    exact posted_tweaks listed _ category
  have strode := world.strode number phase
  generalize world.stride number phase = next at strode calm ⊢
  cases strode with
  | sweepPanics | sensePanics | actingPanics | partingPanics => exact absurd rfl (calm _)
  | idles | sensed | rests => exact quiet rfl
  | turns after inbox notDone drained stopping =>
    obtain rfl : (world.drain number).1 = after := congrArg Prod.fst drained
    refine quiet ((World.field_modifyAgent Agent.interceptors _ number number _ rfl).trans ?_)
    exact World.field_modifyAgent Agent.interceptors world number number _
      (Agent.interceptors_adoptAll _ _)
  | wakes after inbox notDone drained notStopping =>
    obtain rfl : (world.drain number).1 = after := congrArg Prod.fst drained
    exact quiet (World.field_modifyAgent Agent.interceptors world number number _
      (Agent.interceptors_adoptAll _ _))
  | sweeps inbox after swept =>
    obtain rfl : (world.sweep number).1 = after := congrArg Prod.fst swept
    exact quiet (World.field_sweep Agent.interceptors (fun _ _ => rfl) world number number)
  | passes inbox sensed steps acts empty =>
    rw [World.vigilEvents, World.firings, if_pos empty]
    exact quiet rfl
  | senses inbox sensed steps acts after waiting senses =>
    have nodup := distinct.nodup_posted sensed
    rw [← listed sensed] at nodup
    obtain ⟨watches, order, -, fired, left⟩ := World.firings_watched inside waiting senses
    rw [World.vigilEvents, fired, left]
    exact posted_firings listed order nodup category
  | concludes progress =>
    exact quiet (World.field_modifyAgent Agent.interceptors world number number _
      (Agent.interceptors_adoptAll _ _))
  | takes steps progress =>
    exact quiet (World.field_modifyAgent Agent.interceptors world number number _ rfl)
  | begins active pending steps progress =>
    rw [World.vigilEvents, posted_executes]
    exact listed category
  | actingReturns script finished active pending steps progress turn action memory returned =>
    obtain ⟨rfl, rfl⟩ := World.eq_done_of_advance returned
    exact quiet (World.field_kept Agent.interceptors (fun _ _ => rfl) (progress.act world) number
      number active { world, effects := progress.effects, finished } action memory)
  | actingFails script finished active pending steps progress turn cause memory returned =>
    obtain ⟨rfl, rfl⟩ := World.eq_done_of_advance returned
    refine quiet ((World.field_modifyAgent Agent.interceptors _ number number _
      (Agent.interceptors_adoptAll _ _)).trans ?_)
    exact World.field_dropped Agent.interceptors (fun _ _ => rfl) (progress.act world) number
      number active pending { world, effects := progress.effects, finished }
  | actingGoesOn script finished active pending steps progress turn wait rest blocked =>
    exact tweaked blocked
  | retires effects actions =>
    exact quiet (World.field_modifyAgent Agent.interceptors _ number number _ rfl)
  | parts plan pending effects actions =>
    rw [World.vigilEvents, posted_executes]
    exact listed category
  | partingReturns script finished pending effects actions turn action memory returned
  | partingFails script finished pending effects actions turn cause memory returned =>
    obtain ⟨rfl, rfl⟩ := World.eq_done_of_advance returned
    exact quiet rfl
  | partingGoesOn script finished pending effects actions turn wait rest blocked =>
    exact tweaked blocked

/-- How the plans in the hands of a cycle fit to where it stands. -/
def Stands (log : List (VigilEvent V)) (hand : List (Work V)) : Phase V → Prop
  | .waking | .finished _ => True
  | .sweeping _ | .sensing _ _ _ => hand = []
  | .planning pending _ _ => hand.map Work.now = pending.map ActivePlan.plan
  | .acting script _ active pending _ _ => ∃ work rest done, hand = work :: rest ∧
      work.now = active.plan ∧ rest.map Work.now = pending.map ActivePlan.plan ∧
      UnderWay log work done script
  | .closing pending _ _ => hand.map Work.now = pending
  | .parting script _ pending _ _ => ∃ work rest done, hand = work :: rest ∧
      rest.map Work.now = pending ∧ UnderWay log work done script

/-- The plan whose script is being executed is in front. -/
theorem Stands.underWay {hand : List (Work V)} (stands : Stands log hand phase)
    {script : Script V} (executes : phase.script? = some script) :
    ∃ work rest done, hand = work :: rest ∧ UnderWay log work done script := by
  cases phase with
  | acting =>
    cases executes
    obtain ⟨work, rest, done, held, -, -, underWay⟩ := stands
    exact ⟨work, rest, done, held, underWay⟩
  | parting =>
    cases executes
    obtain ⟨work, rest, done, held, -, underWay⟩ := stands
    exact ⟨work, rest, done, held, underWay⟩
  | _ => cases executes

/-- An execution begins with the plan in front. -/
theorem Stands.begins {hand : List (Work V)} {plan : Plan V} {pending : List (Plan V)}
    (stands : hand.map Work.now = plan :: pending) :
    ∃ work rest, hand = work :: rest ∧ work.now = plan ∧ rest.map Work.now = pending ∧
      UnderWay (log ++ (hand.take 1).map .executes) work [] plan.start := by
  obtain ⟨work, rest, rfl, rfl, behind⟩ := List.map_eq_cons_iff.mp stands
  exact ⟨work, rest, rfl, rfl, behind, UnderWay.begins log work⟩

/-- Only a script that ends changes what is at work. -/
theorem note_of_blocked {script rest : Script V} {turn next : Turn V} {wait : Wait}
    (executes : phase.script? = some script)
    (blocked : script.advance number turn = .blocked next wait rest) (crew : Crew V) :
    crew.note world number phase = crew := by
  cases phase with
  | acting | parting =>
    cases executes
    cases script with
    | done => cases blocked
    | _ => rfl
  | _ => cases executes

/-- The account of the plans at work is right. -/
structure Manned (number : BirthNumber) (world : World V) (phase : Phase V) (crew : Crew V)
    (log : List (VigilEvent V)) : Prop where
  active : crew.active.map Work.now = (world.agent number).plans.map ActivePlan.plan
  genuine : ∀ work ∈ crew.active ++ crew.hand, work.Genuine
  stands : Stands log crew.hand phase

/-- Plans that were just made are as they were made. -/
theorem map_now_fresh (plans : List (Plan V)) : (plans.map Work.fresh).map Work.now = plans := by
  rw [List.map_map]
  exact List.map_id plans

/-- Plans that were just made are genuine. -/
theorem genuine_map_fresh (plans : List (Plan V)) : ∀ work ∈ plans.map Work.fresh, work.Genuine :=
  List.forall_mem_map.mpr fun plan _ => Work.genuine_fresh plan

/-- The plans of detached active plans are the plans. -/
theorem map_plan_detached (plans : List (Plan V)) :
    (plans.map ActivePlan.detached).map ActivePlan.plan = plans := by
  rw [List.map_map]
  exact List.map_id plans

namespace Manned

variable {crew : Crew V}

/-- Nothing happens to the plans. -/
theorem quiet (manned : Manned number world phase crew log) {next : World V} {after : Phase V}
    (plans : (next.agent number).plans = (world.agent number).plans)
    {later : List (VigilEvent V)} (stands : Stands later crew.hand after) :
    Manned number next after crew later where
  active := plans ▸ manned.active
  genuine := manned.genuine
  stands := stands

section acting

variable {finished : Bool} {plan : ActivePlan V} {pending : List (ActivePlan V)}
  {steps : List ActStep} {progress : Progress V} {memory : Nat}

/-- A plan that returned goes behind the active plans, unless it is marked finished. -/
theorem returns {action : Option V.Action}
    (manned : Manned number world
      (.acting (.done (.ok action) memory) finished plan pending steps progress) crew log)
    (inside : number < world.agents.size) {later : List (VigilEvent V)} :
    let act := (progress.act world).kept number plan
      { world, effects := progress.effects, finished } action memory
    Manned number act.world (.planning pending steps act.progress)
      (crew.note world number
        (.acting (.done (.ok action) memory) finished plan pending steps progress)) later := by
  obtain ⟨genuineActive, genuineHand⟩ := List.forall_mem_append.mp manned.genuine
  obtain ⟨work, rest, done, held, same, behind, underWay⟩ := manned.stands
  have inTurn : number < (Turn.mk world progress.effects finished).world.agents.size := inside
  rw [held] at genuineHand
  obtain ⟨genuine, others⟩ := List.forall_mem_cons.mp genuineHand
  refine { active := ?_, genuine := ?_, stands := ?_ }
  · rw [Act.plans_kept (progress.act world) plan action memory inTurn]
    cases finished <;> simp [Crew.note, manned.active, held, Work.again, same]
  · simp only [Crew.note, held, List.tail_cons]
    refine List.forall_mem_append.mpr ⟨List.forall_mem_append.mpr ⟨genuineActive, ?_⟩, others⟩
    cases finished with
    | true => exact List.forall_mem_nil _
    | false => exact List.forall_mem_singleton.mpr (genuine.again underWay.2)
  · simp only [Crew.note, held]
    exact behind

/-- A plan that failed is gone, and those behind it are active again, along with what the cycle
requested until then. -/
theorem fails {cause : PlanError}
    (manned : Manned number world
      (.acting (.done (.error cause) memory) finished plan pending steps progress) crew log)
    (inside : number < world.agents.size) {later : List (VigilEvent V)} :
    let act := (progress.act world).dropped number plan pending
      { world, effects := progress.effects, finished }
    Manned number (World.conclude number (.failed act cause)).world (.finished (.failed cause))
      (crew.note world number
        (.acting (.done (.error cause) memory) finished plan pending steps progress)) later := by
  obtain ⟨genuineActive, genuineHand⟩ := List.forall_mem_append.mp manned.genuine
  obtain ⟨work, rest, done, held, same, behind, underWay⟩ := manned.stands
  have inTurn : number < (Turn.mk world progress.effects finished).world.agents.size := inside
  have size := ((progress.act world).dropped_moves number plan pending
    (Turn.mk world progress.effects finished)).lasting.frame.size
  have applied := World.plans_applyEffects progress.effects (size ▸ inside)
  rw [World.plans_dropped (progress.act world) plan pending inTurn] at applied
  rw [held] at genuineHand
  refine { active := ?_, genuine := ?_, stands := trivial }
  · refine Eq.trans ?_ (congrArg (List.map _) applied).symm
    simp only [Crew.note, held, List.tail_cons, List.map_append, manned.active, behind,
      map_now_fresh, map_plan_detached]
  · simp only [Crew.note, held, List.tail_cons, List.append_nil]
    exact List.forall_mem_append.mpr ⟨List.forall_mem_append.mpr
      ⟨genuineActive, (List.forall_mem_cons.mp genuineHand).2⟩, genuine_map_fresh _⟩

end acting

/-- The account of the plans at work stays right over a stride. -/
theorem stride (manned : Manned number world phase crew log)
    (inside : number < world.agents.size)
    (calm : ∀ cause, (world.stride number phase).2 ≠ .finished (.panicked cause)) :
    Manned number (world.stride number phase).1 (world.stride number phase).2
      (crew.note world number phase) (log ++ world.vigilEvents number crew.hand phase) := by
  obtain ⟨genuineActive, genuineHand⟩ := List.forall_mem_append.mp manned.genuine
  have active := manned.active
  have stands := manned.stands
  have plansAfterDrain : ((world.drain number).1.agent number).plans = (world.agent number).plans :=
    World.field_modifyAgent Agent.plans world number number _ (Agent.plans_adoptAll _ _)
  have strode := world.strode number phase
  generalize world.stride number phase = next at strode calm ⊢
  cases strode with
  | sweepPanics | sensePanics | actingPanics | partingPanics => exact absurd rfl (calm _)
  | idles isDone =>
    exact
      { active := active
        genuine := List.forall_mem_append.mpr ⟨genuineActive, genuine_map_fresh _⟩
        stands := trivial }
  | turns after inbox notDone drained stopping =>
    obtain rfl : (world.drain number).1 = after := congrArg Prod.fst drained
    refine
      { active := active.trans (congrArg _ ?_)
        genuine := List.forall_mem_append.mpr ⟨genuineActive, genuine_map_fresh _⟩
        stands := ?_ }
    · refine (plansAfterDrain.symm.trans ?_)
      exact (World.field_modifyAgent Agent.plans _ number number _ rfl).symm
    · refine (map_now_fresh _).trans ?_
      simp only [Crew.farewells, stopping, if_true]
  | wakes after inbox notDone drained notStopping =>
    obtain rfl : (world.drain number).1 = after := congrArg Prod.fst drained
    refine
      { active := active.trans (congrArg _ plansAfterDrain.symm)
        genuine := List.forall_mem_append.mpr ⟨genuineActive, genuine_map_fresh _⟩
        stands := ?_ }
    simp [Stands, Crew.note, Crew.farewells, notStopping]
  | sweeps inbox after swept =>
    obtain rfl : (world.sweep number).1 = after := congrArg Prod.fst swept
    exact manned.quiet (World.field_sweep Agent.plans (fun _ _ => rfl) world number number) stands
  | sensed inbox acts =>
    refine manned.quiet rfl ?_
    rw [Stands, show crew.hand = [] from stands]
    rfl
  | passes inbox category steps acts empty =>
    have found : (world.sensing number inbox category).plans = [] := by
      simp [World.sensing, empty, Sensing.plans, activated]
    have kept : crew.note world number (.sensing inbox (category :: steps) acts) = crew := by
      simp [Crew.note, found]
    rw [kept]
    exact manned.quiet rfl stands
  | senses inbox category steps acts after waiting senses =>
    refine { active := ?_, genuine := ?_, stands := stands }
    · rw [World.plans_senseTriggers inside waiting senses]
      simp only [Crew.note, List.map_append, active, List.map_map]
      rfl
    · refine List.forall_mem_append.mpr ⟨List.forall_mem_append.mpr ⟨genuineActive, ?_⟩, genuineHand⟩
      exact List.forall_mem_map.mpr fun active _ => Work.genuine_fresh active.plan
  | concludes progress =>
    have plans : ((world.applyEffects number progress.effects).agent number).plans = _ :=
      World.plans_applyEffects progress.effects inside
    refine { active := ?_, genuine := ?_, stands := trivial }
    · refine Eq.trans ?_ (congrArg (List.map _) plans).symm
      simp only [Crew.note, List.map_append, active, map_now_fresh, map_plan_detached]
    · exact List.forall_mem_append.mpr
        ⟨List.forall_mem_append.mpr ⟨genuineActive, genuine_map_fresh _⟩, genuineHand⟩
  | takes steps progress =>
    refine { active := ?_, genuine := genuineActive, stands := active }
    rw [World.agent_modifyAgent_self world _ inside]
    rfl
  | begins plan pending steps progress =>
    obtain ⟨work, rest, held, same, behind, underWay⟩ := Stands.begins stands
    exact manned.quiet rfl ⟨work, rest, [], held, same, behind, underWay⟩
  | actingReturns script finished plan pending steps progress turn action memory returned =>
    obtain ⟨rfl, rfl⟩ := World.eq_done_of_advance returned
    exact manned.returns inside
  | actingFails script finished plan pending steps progress turn cause memory returned =>
    obtain ⟨rfl, rfl⟩ := World.eq_done_of_advance returned
    exact manned.fails inside
  | actingGoesOn script finished plan pending steps progress turn wait rest blocked =>
    obtain ⟨work, others, done, held, same, behind, underWay⟩ := stands
    rw [note_of_blocked rfl blocked]
    exact manned.quiet ((Script.stirs_of_advance blocked).holdings number).2.2
      ⟨work, others, _, held, same, behind, underWay.goesOn blocked⟩
  | retires effects actions =>
    refine { active := ?_, genuine := List.forall_mem_nil _, stands := trivial }
    have retired : (world.retire number).agent number = _ := World.agent_modifyAgent_self _ _ inside
    rw [retired]
    rfl
  | parts plan pending effects actions =>
    obtain ⟨work, rest, held, same, behind, underWay⟩ := Stands.begins stands
    exact manned.quiet rfl ⟨work, rest, [], held, behind, underWay⟩
  | partingReturns script finished pending effects actions turn action memory returned
  | partingFails script finished pending effects actions turn cause memory returned =>
    obtain ⟨rfl, rfl⟩ := World.eq_done_of_advance returned
    obtain ⟨work, rest, done, held, behind, underWay⟩ := stands
    rw [held] at genuineHand
    refine { active := active, genuine := ?_, stands := ?_ }
    · simp only [Crew.note, held]
      exact List.forall_mem_append.mpr ⟨genuineActive, (List.forall_mem_cons.mp genuineHand).2⟩
    · simp only [Crew.note, held]
      exact behind
  | partingGoesOn script finished pending effects actions turn wait rest blocked =>
    obtain ⟨work, others, done, held, behind, underWay⟩ := stands
    rw [note_of_blocked rfl blocked]
    exact manned.quiet ((Script.stirs_of_advance blocked).holdings number).2.2
      ⟨work, others, _, held, behind, underWay.goesOn blocked⟩
  | rests outcome => exact manned.quiet rfl trivial

end Manned

/-- Interceptors that fire, one after the other, are on the list until they do. -/
theorem due_firings {category : Category} {view : View V} {pursuit : Pursuit}
    {triggers : List (Trigger V)} {watches : List (Watch V)} (due : Throughout Due log)
    (order : watches.map (·.interceptor) = posted category log) (distinct : DistinctIds log)
    (follows : Watch.Follows view pursuit triggers [] watches) :
    Throughout Due (log ++ firingEvents category (Watch.firings watches)) := by
  have grants : ∀ firing ∈ Watch.firings watches,
      ∃ flags, firing.1.scheme.Grants flags view firing.2.trigger firing.2.plan :=
    fun _ => follows.grants
  have sublist := Watch.firings_sublist watches
  generalize Watch.firings watches = firings at grants sublist ⊢
  rw [order] at sublist
  induction firings using List.reverseRecOn with
  | nil => rwa [firingEvents, List.map_nil, List.append_nil]
  | append_singleton firings last hypothesis =>
    rw [List.map_append] at sublist
    have split : log ++ firingEvents category (firings ++ [last]) =
        log ++ firingEvents category firings ++ [.fires category last.1 last.2] := by
      rw [firingEvents, List.map_append, ← List.append_assoc]
      rfl
    have nodup := (distinct.nodup_posted category).sublist (sublist.map Interceptor.id)
    have apart : (firings.map (·.1)).any (·.id == last.1.id) = false := by
      refine List.any_eq_false.mpr fun interceptor fired same => ?_
      rw [List.map_append, List.nodup_append] at nodup
      exact nodup.2.2 _ (List.mem_map_of_mem fired) _ (List.mem_singleton_self _) (beq_iff_eq.mp same)
    rw [split]
    refine (hypothesis (fun firing fires => grants firing (List.mem_append_left _ fires))
      ((List.sublist_append_left _ _).trans sublist)).snoc ⟨?_, ?_⟩
    · rw [posted_append_of_silent (registrations_firingEvents _ _), List.mem_filter,
        any_ousts_firingEvents, apart, Bool.and_false]
      exact ⟨sublist.subset (List.mem_append_right _ (List.mem_singleton_self _)), rfl⟩
    · obtain ⟨flags, made⟩ := grants last (List.mem_append_right _ (List.mem_singleton_self _))
      exact ⟨flags, view, made⟩

/-- What a stride does is due. -/
theorem due_stride {crew : Crew V} (due : Throughout Due log)
    (manned : Manned number world phase crew log) (inside : number < world.agents.size)
    (listed : ∀ category, (world.agent number).interceptors.get category = posted category log)
    (distinct : DistinctIds log)
    (calm : ∀ cause, (world.stride number phase).2 ≠ .finished (.panicked cause)) :
    Throughout Due (log ++ world.vigilEvents number crew.hand phase) := by
  have nothing : Throughout Due (log ++ []) := by rwa [List.append_nil]
  have executed : Throughout Due (log ++ (crew.hand.take 1).map .executes) := by
    cases held : crew.hand with
    | nil => exact nothing
    | cons work rest =>
      refine due.snoc (manned.genuine work (List.mem_append_right _ ?_))
      rw [held]
      exact List.mem_cons_self
  have tweaked : ∀ {work : Work V} {rest done script}, crew.hand = work :: rest →
      UnderWay log work done script →
      Throughout Due (log ++ script.tweak?.toList.map .tweaks) := by
    intro work rest done script held underWay
    cases changes : script.tweak? with
    | none => exact nothing
    | some tweak =>
      refine due.snoc ⟨work, done, script, manned.genuine work ?_, underWay, changes⟩
      rw [held]
      exact List.mem_append_right _ List.mem_cons_self
  cases phase with
  | waking | sweeping | finished => exact nothing
  | planning pending steps progress =>
    cases pending with
    | nil => exact nothing
    | cons plan pending => exact executed
  | closing pending effects actions =>
    cases pending with
    | nil => exact nothing
    | cons plan pending => exact executed
  | acting script finished plan pending steps progress =>
    obtain ⟨work, rest, done, held, -, -, underWay⟩ := manned.stands
    exact tweaked held underWay
  | parting script finished pending effects actions =>
    obtain ⟨work, rest, done, held, -, underWay⟩ := manned.stands
    exact tweaked held underWay
  | sensing inbox steps acts =>
    have strode := world.strode number (.sensing inbox steps acts)
    generalize world.stride number (.sensing inbox steps acts) = next at strode calm
    cases strode with
    | sensed => exact nothing
    | sensePanics => exact absurd rfl (calm _)
    | passes _ category steps _ empty =>
      rw [World.vigilEvents, World.firings, if_pos empty]
      exact nothing
    | senses _ category steps _ after waiting senses =>
      obtain ⟨watches, order, ⟨pursuit, triggers, follows⟩, fired, -⟩ :=
        World.firings_watched inside waiting senses
      rw [World.vigilEvents, fired]
      exact due_firings due (order.trans (listed category)) distinct follows

end stride

end Vigil

end Deliberation
