import Deliberation.Proofs.Reception
import Deliberation.Proofs.Vigil

/-!
# The life of interceptors

What holds of one stride holds of a whole run, as long as no cycle panics. `Vigil.LifeCycle` says what
becomes of the interceptors of an agent: who is on a list and in which order, for which reasons they
leave it, and what the plans do that they make (`Vigil.Reachable.life_of_interceptors`).
-/

namespace Deliberation

open Relation

variable {V : Vocabulary}

namespace Vigil

/-! ## Runs -/

/-- What holds throughout a run. -/
structure Sound (number : BirthNumber) (vigil : Vigil V) : Prop where
  inside : number < vigil.world.agents.size
  listed : ∀ category,
    (vigil.world.agent number).interceptors.get category = posted category vigil.log
  manned : Manned number vigil.world vigil.phase vigil.crew vigil.log
  due : Throughout Due vigil.log

variable {number : BirthNumber} {vigil before after : Vigil V}

/-- A step adds to the log at its end. -/
theorem Step.extends (step : Step number before after) :
    ∃ later, after.log = before.log ++ later := by
  cases step with
  | aside | begin => exact ⟨[], (List.append_nil _).symm⟩
  | stride => exact ⟨_, rfl⟩

/-- A step keeps a vigil sound, as long as registrations are distinct. -/
theorem Step.sound (step : Step number before after) (distinct : DistinctIds before.log)
    (sound : Sound number before) : Sound number after := by
  obtain ⟨inside, listed, manned, due⟩ := sound
  cases step with
  | aside spares =>
    exact
      { inside := Nat.lt_of_lt_of_le inside spares.size
        listed := fun category => by
          rw [spares.interceptors]
          exact listed category
        manned := manned.quiet spares.plans manned.stands, due := due }
  | begin between => exact { inside, listed, manned := manned.quiet rfl trivial, due }
  | stride calm =>
    exact
      { inside := (before.world.stride_moves number before.phase).frame.size ▸ inside
        listed := posted_stride inside listed distinct before.crew.hand calm
        manned := manned.stride inside calm
        due := due_stride due manned inside listed distinct calm }

/-- Whatever a vigil reaches is sound, as long as registrations are distinct. -/
theorem Reachable.sound (reachable : Reachable number vigil) (distinct : DistinctIds vigil.log) :
    Sound number vigil := by
  induction reachable with
  | @start world inside =>
    refine
      { inside, listed := fun category => (posted_equipment category _).symm
        manned := { active := ?_, genuine := ?_, stands := trivial }, due := ?_ }
    · simp [opening, Work.fresh]
    · rw [opening, List.append_nil]
      exact List.forall_mem_map.mpr fun active _ => Work.genuine_fresh active.plan
    · intro past event later split
      have equips : event ∈ equipment (world.agent number).interceptors := by
        rw [show equipment (world.agent number).interceptors = past ++ event :: later from split]
        exact List.mem_append_right _ List.mem_cons_self
      obtain ⟨category, -, equips⟩ := List.mem_flatMap.mp equips
      obtain ⟨interceptor, -, rfl⟩ := List.mem_map.mp equips
      trivial
  | @step before after _ step hypothesis =>
    obtain ⟨later, extended⟩ := step.extends
    rw [extended] at distinct
    exact step.sound distinct.past (hypothesis distinct.past)

end Vigil

/-! ## What becomes of interceptors -/

/-- The first execution of an intercepting plan has listed interceptors still to remove. -/
def Work.IsAtList (work : Work V) (done : List (Tweak V)) : Prop :=
  work.executions = 0 ∧
    ∃ removals body, work.origin = .intercepting removals body ∧ done.length < removals.length

namespace Vigil

/-- Why an event may take an interceptor off its list. -/
inductive Reason (category : Category) (interceptor : Interceptor V)
    (before : List (VigilEvent V)) : VigilEvent V → Prop where
  /-- It fires: its scheme makes a plan of a trigger. -/
  | fires {hit : Hit V} {pursuit : Pursuit} {view : View V}
      (grants : interceptor.scheme.Grants pursuit view hit.trigger hit.plan) :
      Reason category interceptor before (.fires category interceptor hit)
  /-- An intercepting plan that lists it is executed for the first time, and its body has not begun. -/
  | listed {work : Work V} {removals done todo : List (Category × InterceptorId)} {body : Plan V}
      (origin : work.origin = .intercepting removals body) (first : work.executions = 0)
      (lists : removals = done ++ (category, interceptor.id) :: todo)
      (underWay : UnderWay before work (done.map .ofListed)
        (Plan.removing ((category, interceptor.id) :: todo) body.start.counted)) :
      Reason category interceptor before (.tweaks (.removes category interceptor.id))
  /-- A plan removes it on another occasion. -/
  | removed {work : Work V} {done : List (Tweak V)} {next : Bool → Script V}
      (underWay : UnderWay before work done (.removeInterceptor category interceptor.id next))
      (occasion : ¬ work.IsAtList done) :
      Reason category interceptor before (.tweaks (.removes category interceptor.id))

/-- The life of the interceptors of an agent. -/
structure LifeCycle (number : BirthNumber) (vigil : Vigil V) : Prop where
  /-- The list of a category holds the interceptors that were registered under it and have not been
  taken off since, in the order of their registration. -/
  listed : ∀ category,
    (vigil.world.agent number).interceptors.get category = posted category vigil.log
  /-- An interceptor that was registered is still on its list, or exactly one event took it off. -/
  leaves : ∀ category interceptor, (category, interceptor) ∈ registrations vigil.log →
    LeavesOnce category interceptor vigil.log
  /-- There are three reasons for which it may be taken off. -/
  reasons : ∀ before event after, vigil.log = before ++ event :: after →
    ∀ category interceptor, Departs category interceptor before event →
      Reason category interceptor before event
  /-- An interceptor that fires was on its list until then. -/
  fires : ∀ before category interceptor hit after,
    vigil.log = before ++ .fires category interceptor hit :: after →
      Departs category interceptor before (.fires category interceptor hit)
  /-- It fires once, so it makes no second plan. -/
  once : ∀ before category interceptor hit after,
    vigil.log = before ++ .fires category interceptor hit :: after →
      ∀ earlier other later, vigil.log = earlier ++ .fires category interceptor other :: later →
        earlier = before
  /-- In a sense step those interceptors fire whose schemes make plans: the plans that the step finds
  through interceptors are those of the ones that fire, in the order in which they do. -/
  senses : ∀ inbox category steps acts, vigil.phase = .sensing inbox (category :: steps) acts →
    ∃ fired : List (Interceptor V × Hit V),
      vigil.world.vigilEvents number vigil.crew.hand vigil.phase = firingEvents category fired ∧
        (vigil.world.sensing number inbox category).intercepted = fired.map (·.2)
  /-- The plan of an interceptor that fires becomes active as it was made. -/
  activates : ∀ category interceptor hit,
    .fires category interceptor hit ∈
        vigil.world.vigilEvents number vigil.crew.hand vigil.phase →
      Work.fresh hit.plan ∈ (vigil.stride number).crew.active
  /-- An enhanced interceptor makes an intercepting plan, with a body for the trigger. -/
  enhanced : ∀ category interceptor hit name selects removals body,
    .fires category interceptor hit ∈ vigil.log →
      interceptor.scheme = .enhanced name selects removals body →
        hit.plan = .intercepting removals (body hit.trigger)
  /-- The plans at work are those of the agent. -/
  active : vigil.crew.active.map Work.now = (vigil.world.agent number).plans.map ActivePlan.plan
  /-- A plan that is being executed is what its former executions have made of it. If it is an
  intercepting plan, it removes what is listed before its body begins for the first time, and
  otherwise does what the body does. -/
  executed : ∀ script, vigil.phase.script? = some script → ∃ work rest done,
    vigil.crew.hand = work :: rest ∧ work.Genuine ∧ UnderWay vigil.log work done script ∧
      ∀ removals body, work.origin = .intercepting removals body →
        body.Intercepts removals work.executions done script
  /-- It would do so whatever its former executions had returned. -/
  intercepts : ∀ (removals : List (Category × InterceptorId)) (body : Plan V) executions now,
    (Plan.intercepting removals body).Career executions now → ∀ tweaks rest,
      now.start.Passage tweaks rest → body.Intercepts removals executions tweaks rest
  /-- When the body begins for the first time, nothing listed is on the list that it is listed for. -/
  cleared : ∀ (work : Work V) (removals : List (Category × InterceptorId)) script,
    UnderWay vigil.log work (removals.map .ofListed) script →
      ∀ entry ∈ removals,
        (vigil.world.agent number).interceptors.contains entry.1 entry.2 = false
  /-- An enhanced interceptor that is on a list fires on the first trigger that it selects. -/
  ready : ∀ category, ∀ interceptor ∈ (vigil.world.agent number).interceptors.get category,
    ∀ name selects removals body, interceptor.scheme = .enhanced name selects removals body →
      ∀ pursuit view before trigger after,
        (∀ other ∈ before, selects pursuit other = .ok false) → selects pursuit trigger = .ok true →
          firstFiring pursuit view interceptor.scheme (before ++ trigger :: after) =
            .ok (some
              { before, trigger, after, plan := .intercepting removals (body trigger)
                scheme := interceptor.scheme.used })

end Vigil

namespace Scheme

variable {name : String} {selects : Pursuit → Trigger V → Except Panic Bool}
  {removals : List (Category × InterceptorId)} {body : Trigger V → Plan V} {pursuit : Pursuit}
  {view : View V} {trigger : Trigger V}

/-- An enhanced scheme passes on a trigger that it does not select. -/
theorem enhanced_passes (unselected : selects pursuit trigger = .ok false) :
    (enhanced name selects removals body).Passes pursuit view trigger := by
  simp [Passes, enhanced, instantiate, unselected, bind, Except.bind]

/-- Of a trigger that it selects an enhanced scheme makes a plan that removes interceptors. -/
theorem enhanced_grants (selected : selects pursuit trigger = .ok true) :
    (enhanced name selects removals body).Grants pursuit view trigger
      (.intercepting removals (body trigger)) := by
  simp [Grants, enhanced, instantiate, used, selected, bind, Except.bind]

/-- The plan that an enhanced interceptor makes. -/
theorem Grants.of_enhanced {plan : Plan V}
    (grants : (enhanced name selects removals body).Grants pursuit view trigger plan) :
    plan = .intercepting removals (body trigger) := by
  unfold Grants enhanced at grants
  simp only [instantiate, bind, Except.bind] at grants
  split at grants
  · cases grants
  · rename_i selected _
    cases selected <;> cases grants
    rfl

end Scheme

namespace World

/-- The plan of an interceptor that fires becomes active. -/
theorem fresh_of_fires {world : World V} {number : BirthNumber} {phase : Phase V} {crew : Crew V}
    {category : Category} {interceptor : Interceptor V} {hit : Hit V}
    (fires : .fires category interceptor hit ∈ world.vigilEvents number crew.hand phase) :
    Work.fresh hit.plan ∈ (crew.note world number phase).active := by
  unfold vigilEvents at fires
  split at fires
  case h_1 inbox sensed steps acts =>
    obtain ⟨firing, fired, same⟩ := List.mem_map.mp fires
    cases same
    refine List.mem_append_right _
      (List.mem_map.mpr ⟨.instantiated firing.2.plan firing.2.trigger, ?_, rfl⟩)
    rw [Sensing.plans, intercepted_sensing]
    exact List.mem_append_left _ (List.mem_map_of_mem (List.mem_map_of_mem fired))
  case h_2 | h_3 =>
    obtain ⟨work, -, same⟩ := List.mem_map.mp fires
    cases same
  all_goals simp at fires

end World

namespace Vigil

variable {number : BirthNumber} {vigil : Vigil V}

/-- Events that take an interceptor off its list have their reasons. -/
theorem Reason.of_departs {category : Category} {interceptor : Interceptor V}
    {before : List (VigilEvent V)} {event : VigilEvent V} (distinct : DistinctIds before)
    (due : Due before event) (departs : Departs category interceptor before event) :
    Reason category interceptor before event := by
  obtain ⟨there, ousted⟩ := departs
  cases event with
  | equips | executes => cases ousted
  | fires other fired hit =>
    obtain ⟨there', pursuit, view, grants⟩ := due
    obtain ⟨here, same⟩ := Bool.and_eq_true_iff.mp ousted
    obtain rfl := beq_iff_eq.mp here
    obtain rfl := List.inj_on_of_nodup_map (distinct.nodup_posted other) there' there
      (beq_iff_eq.mp same)
    exact .fires grants
  | tweaks tweak =>
    cases tweak with
    | adds => cases ousted
    | removes other id =>
      obtain ⟨here, same⟩ := Bool.and_eq_true_iff.mp ousted
      obtain rfl := beq_iff_eq.mp here
      obtain rfl := beq_iff_eq.mp same
      obtain ⟨work, done, script, genuine, underWay, changes⟩ := due
      by_cases occasion : work.IsAtList done
      · obtain ⟨first, removals, body, origin, short⟩ := occasion
        have career : (Plan.intercepting removals body).Career 0 work.now :=
          origin ▸ first ▸ genuine
        cases career.intercepts underWay.2 with
        | @removing listedSoFar next todo lists =>
          have same : next = (other, interceptor.id) := by
            simpa [Plan.removing, Script.tweak?, Prod.ext_iff] using changes
          subst same
          exact .listed origin first lists underWay
        | begins passage =>
          rw [List.length_append, List.length_map] at short
          exact absurd short (by omega)
      · cases script with
        | removeInterceptor category id next =>
          cases changes
          exact .removed underWay occasion
        | _ => cases changes

/-- Once everything listed has been removed, none of it is on its list. -/
theorem any_posted_of_removals (start : List (VigilEvent V)) (work : Work V)
    {removals : List (Category × InterceptorId)} {entry : Category × InterceptorId}
    (listed : entry ∈ removals) :
    (posted entry.1 (start ++ .executes work ::
      (removals.map Tweak.ofListed).map .tweaks)).any (·.id == entry.2) = false := by
  have silent : registrations ((removals.map Tweak.ofListed).map (@VigilEvent.tweaks V)) = [] :=
    List.filterMap_eq_nil_iff.mpr <| List.forall_mem_map.mpr <| List.forall_mem_map.mpr
      fun _ _ => rfl
  rw [← List.singleton_append, ← List.append_assoc, posted_append_of_silent silent]
  refine List.any_eq_false.mpr fun interceptor left same => ?_
  have spared := (List.mem_filter.mp left).2
  rw [Bool.not_eq_true', List.any_eq_false] at spared
  refine spared (.tweaks (.ofListed entry))
    (List.mem_map_of_mem (List.mem_map_of_mem listed)) ?_
  simp [Tweak.ofListed, VigilEvent.ousts, beq_iff_eq.mp same]

/-- As long as no cycle panics, an interceptor that was registered stays on the list of its category,
in the order of registration, until it fires and makes the only plan that it ever makes, or a plan
removes it, or an intercepting plan that lists it is executed for the first time; and exactly one of
these takes it off. An intercepting plan removes what is listed before its body begins for the first
time, and never again. An enhanced interceptor that is on a list can still fire. -/
theorem Reachable.life_of_interceptors (reachable : Reachable number vigil)
    (distinct : DistinctIds vigil.log) : LifeCycle number vigil := by
  have sound := reachable.sound distinct
  have fires : ∀ before category interceptor hit after,
      vigil.log = before ++ .fires category interceptor hit :: after →
        Departs category interceptor before (.fires category interceptor hit) :=
    fun before category interceptor hit after split =>
      ⟨(sound.due before _ after split).1, by simp [VigilEvent.ousts]⟩
  refine
    { listed := sound.listed
      leaves := fun category interceptor => leavesOnce_of_registered distinct
      reasons := ?reasons, fires, once := ?once, senses := ?senses
      activates := fun category interceptor hit => World.fresh_of_fires
      enhanced := ?enhanced, active := sound.manned.active, executed := ?executed
      intercepts := fun removals body executions now career tweaks rest => career.intercepts
      cleared := ?cleared, ready := ?ready }
  case reasons =>
    intro before event after split category interceptor departs
    have earlier : DistinctIds before := by
      rw [split] at distinct
      exact distinct.past
    exact .of_departs earlier (sound.due before event after split) departs
  case once =>
    intro before category interceptor hit after split earlier other later splits
    have departs := fires before category interceptor hit after split
    have registered : (category, interceptor) ∈ registrations vigil.log := by
      rw [split]
      exact posted_of_append departs.1
    exact (leavesOnce_of_registered distinct registered).unique split departs splits
      (fires earlier category interceptor other later splits)
  case senses =>
    intro inbox category steps acts sensing
    rw [sensing]
    exact ⟨_, rfl, World.intercepted_sensing _ _ _ _⟩
  case enhanced =>
    intro category interceptor hit name selects removals body fired scheme
    obtain ⟨before, after, split⟩ := List.append_of_mem fired
    obtain ⟨-, pursuit, view, grants⟩ := sound.due before _ after split
    rw [scheme] at grants
    exact grants.of_enhanced
  case executed =>
    intro script executes
    obtain ⟨work, rest, done, held, underWay⟩ := sound.manned.stands.underWay executes
    have genuine : work.Genuine := by
      refine sound.manned.genuine work (List.mem_append_right _ ?_)
      rw [held]
      exact List.mem_cons_self
    refine ⟨work, rest, done, held, genuine, underWay, fun removals body origin => ?_⟩
    rw [Work.Genuine, origin] at genuine
    exact genuine.intercepts underWay.2
  case cleared =>
    rintro work removals script ⟨⟨start, split⟩, -⟩ entry listed
    rw [Interceptors.contains, sound.listed, split]
    exact any_posted_of_removals start work listed
  case ready =>
    intro category interceptor listed name selects removals body scheme pursuit view before trigger
      after unselected selected
    rw [scheme]
    exact firstFiring_of_grants (fun other among => Scheme.enhanced_passes (unselected other among))
      (Scheme.enhanced_grants selected) after

/-! ### What such runs are made of -/

/-- An arrival is a step of the vigil. -/
theorem Step.arrive (vigil : Vigil V) (reached : BirthNumber) (arrival : Arrival V) :
    Step number vigil { vigil with world := vigil.world.arrive reached arrival } :=
  .aside vigil
    { size := (vigil.world.size_arrive reached arrival).ge
      interceptors :=
        World.field_arrive Agent.interceptors vigil.world reached number arrival fun _ _ => rfl
      plans := World.field_arrive Agent.plans vigil.world reached number arrival fun _ _ => rfl }

/-- A stride of another agent leaves the interceptors and the plans alone. -/
theorem Step.of_other (vigil : Vigil V) (inside : number < vigil.world.agents.size)
    {other : BirthNumber} (different : number ≠ other) (phase : Phase V) :
    Step number vigil { vigil with world := (vigil.world.stride other phase).1 } := by
  have changed := vigil.world.agent_stride_of_ne phase different inside
  exact .aside vigil
    { size := (vigil.world.stride_moves other phase).frame.size.ge
      interceptors := (congrArg Agent.interceptors changed :)
      plans := (congrArg Agent.plans changed :) }

/-- The strides of a cycle that does not panic are steps of a run. -/
theorem Steps.of_strides {start stop : World V × Phase V}
    (strides : World.Strides number start stop)
    (calm : ∀ cause, stop.2 ≠ .finished (.panicked cause)) (crew : Crew V)
    (log : List (VigilEvent V)) :
    ∃ later events, Steps number { world := start.1, phase := start.2, crew, log }
      { world := stop.1, phase := stop.2, crew := later, log := log ++ events } := by
  induction strides using ReflTransGen.head_induction_on generalizing crew log with
  | refl => exact ⟨crew, [], by rw [List.append_nil]⟩
  | @head start middle stride rest hypothesis =>
    cases stride with
    | stride world phase =>
      have before : Step number { world, phase, crew, log } _ := .stride _ fun cause panicked =>
        calm cause (Reception.finished_of_strides rest panicked)
      obtain ⟨later, events, steps⟩ := hypothesis (crew.note world number phase)
        (log ++ world.vigilEvents number crew.hand phase)
      rw [List.append_assoc] at steps
      exact ⟨later, _, .head before steps⟩
    | elapse world phase clock =>
      obtain ⟨later, events, steps⟩ := hypothesis crew log
      have lapse : Step number { world, phase, crew, log }
          { world := { world with clock }, phase, crew, log } :=
        .aside _ { size := Nat.le_refl _, interceptors := rfl, plans := rfl }
      exact ⟨later, events, .head lapse steps⟩

/-- A cycle that does not panic is a part of a run, whether it ends or waits. -/
theorem Steps.of_cycle (between : vigil.phase.isBusy = false) (deadline : Option Nat)
    (calm : ∀ cause, (vigil.world.cycle number deadline).phase ≠ .finished (.panicked cause)) :
    ∃ later events, Steps number vigil
      { world := (vigil.world.cycle number deadline).world
        phase := (vigil.world.cycle number deadline).phase
        crew := later, log := vigil.log ++ events } := by
  obtain ⟨later, events, steps⟩ :=
    Steps.of_strides (vigil.world.cycle_strides number deadline) calm vigil.crew vigil.log
  exact ⟨later, events, .head (.begin _ between) steps⟩

/-- A vigil goes on for a number of strides without a panic. -/
theorem Reachable.walk (reachable : Reachable number vigil) (strides : Nat)
    (calm : staysCalm (stride number) phase strides vigil = true) :
    Reachable number ((stride number)^[strides] vigil) :=
  holds_of_staysCalm (fun _ calm reached => reached.step (.stride _ calm)) reachable strides calm

end Vigil

/-! ## An interceptor that removes others -/

namespace Market

/-- A plan that removes an interceptor in its first execution. -/
def dismissal : Plan vocabulary :=
  .mk 0 fun
    | 0 => .removeInterceptor .internal ⟨3⟩ fun _ => .done (.ok none) 1
    | memory + 1 => .done (.ok none) (memory + 1)

/-- What an interceptor lists. -/
def expelled : List (Category × InterceptorId) := [(.external, ⟨1⟩), (.message, ⟨2⟩)]

/-- An interceptor for the first event, with a list of others. -/
def captain : Interceptor vocabulary :=
  .mk ⟨0⟩ true <| .enhanced "captain" (fun _ trigger => .ok !trigger.isGoal) expelled
    fun _ => dismissal

/-- An agent with this interceptor and four others. -/
def garrison : World vocabulary :=
  let world := World.new { poolSize := 1, seed := none, unitTimeout := none } (.new none)
  let idle serial := sentinel serial true fun _ _ => false
  let design := Design.empty.withInterceptor .external captain
    |>.withInterceptor .external (idle 1) |>.withInterceptor .message (idle 2)
    |>.withInterceptor .internal (idle 3) |>.withInterceptor .external (idle 4)
  (world.create (AgentId.ofNat 1) design none false).1

/-- An event has arrived. -/
def alerted : Vigil vocabulary :=
  { Vigil.opening 0 garrison with world := garrison.arrive 0 (.external (.external .unit)) }

/-- The first cycle is over, and in the next one the plan is executed again. -/
def guarded : Vigil vocabulary :=
  (Vigil.stride 0)^[9] { (Vigil.stride 0)^[14] alerted with phase := .waking }

/-- The state of the guard is reached by a run. -/
theorem guarded_reachable : Vigil.Reachable 0 guarded := by
  have started : Vigil.Reachable 0 (Vigil.opening 0 garrison) := .start (by decide +kernel)
  have arrived : Vigil.Reachable 0 alerted :=
    started.step (.arrive _ 0 (.external (.external .unit)))
  have ended : Vigil.Reachable 0 ((Vigil.stride 0)^[14] alerted) := arrived.walk 14 (by decide +kernel)
  exact (ended.step (.begin _ (by decide +kernel))).walk 9 (by decide +kernel)

end Market

namespace Vigil

/-- The interceptor has fired, and three others have been removed: two that it lists, and one by its
body. The second execution of its plan has begun, without a removal. -/
theorem Reachable.life_of_interceptors_guarded :
    DistinctIds Market.guarded.log ∧
      (posted .external Market.guarded.log).map Interceptor.id = [⟨4⟩] ∧
      (∀ category, category ≠ .external → posted category Market.guarded.log = []) ∧
      ∃ script, Market.guarded.phase.script? = some script ∧
        Market.dismissal.Intercepts Market.expelled 1 [] script := by
  have distinct : DistinctIds Market.guarded.log := by
    unfold DistinctIds
    decide +kernel
  have life := Market.guarded_reachable.life_of_interceptors distinct
  refine ⟨distinct, ?_, ?_, ?_⟩
  · rw [← life.listed .external]
    decide +kernel
  · intro category other
    rw [← life.listed category]
    cases category with
    | external => exact absurd rfl other
    | goal | internal | message => exact List.isEmpty_iff.mp (by decide +kernel)
  · let again : Work Market.vocabulary :=
      Work.again (.fresh (.intercepting Market.expelled Market.dismissal)) 2
    have hand : Market.guarded.crew.hand = [again] := rfl
    have begun : Market.guarded.log = Market.guarded.log.dropLast ++ [.executes again] := rfl
    obtain ⟨script, executes⟩ : ∃ script, Market.guarded.phase.script? = some script := ⟨_, rfl⟩
    obtain ⟨work, rest, done, held, -, ⟨⟨start, split⟩, -⟩, intercepts⟩ :=
      life.executed script executes
    obtain ⟨rfl, rfl⟩ := List.cons.inj (hand.symm.trans held)
    have intercepts := intercepts _ _ rfl
    rw [begun] at split
    rcases snoc_eq_append_cons.mp split with ⟨-, -, nothing⟩ | ⟨middle, -, changes⟩
    · obtain rfl := List.map_eq_nil_iff.mp nothing
      exact ⟨script, executes, intercepts⟩
    · have last : .executes again ∈ done.map (@VigilEvent.tweaks Market.vocabulary) := by
        rw [changes]
        exact List.mem_append_right _ (List.mem_singleton_self _)
      obtain ⟨tweak, -, same⟩ := List.mem_map.mp last
      cases same

end Vigil

end Deliberation
