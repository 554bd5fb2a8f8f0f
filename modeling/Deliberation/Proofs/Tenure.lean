import Deliberation.Proofs.Bookkeeping

/-!
# How long goals are held

A `Tenure` follows one agent through any number of cycles and logs what matters to its goals. As
long as no cycle panics, the agent holds exactly the goals that the book of the log lists: every goal
that was adopted, from then on until it is checked and found achieved or the agent retires. Every
goal step starts from the goals of its cycle's beginning that were not achieved then, and a goal that
goes is not flagged as pursued at that moment (`Tenure.Reachable.goals_held`).
-/

namespace Deliberation

open Relation

variable {V : Vocabulary}

/-! ## Goals that go -/

namespace World

variable {number : BirthNumber} {handle : GoalHandle V}

/-- Where the events come from that drop goals or offer them. -/
theorem goalEvents_cases {world : World V} {phase : Phase V} {event : GoalEvent V}
    (occurs : event ∈ world.goalEvents number phase) :
    event.isLasting = true ∨
      (∃ inbox, phase = .sweeping inbox ∧ event = .checks (world.agent number).contexts) ∨
      (∃ inbox steps acts, phase = .sensing inbox (.goal :: steps) acts ∧
        event = .offers (world.offered number inbox .goal)) ∨
      ∃ effects actions, phase = .closing [] effects actions ∧ event = .retires := by
  have scripts : ∀ script : Script V,
      event ∈ script.goalEvents number world ++ script.goalEnding → event.isLasting = true := by
    intro script occurs
    rcases List.mem_append.mp occurs with does | fails
    · rcases List.mem_append.mp does with requests | comes
      · obtain ⟨other, -, rfl⟩ := List.mem_map.mp requests
        rfl
      · obtain ⟨other, -, rfl⟩ := List.mem_map.mp comes
        rfl
    · unfold Script.goalEnding at fails
      split at fails
      · obtain rfl := List.mem_singleton.mp fails
        rfl
      · cases fails
  unfold goalEvents at occurs
  split at occurs
  case h_1 =>
    split at occurs
    · cases occurs
    · obtain rfl := List.mem_singleton.mp occurs
      exact .inl rfl
  case h_2 inbox =>
    obtain rfl := List.mem_singleton.mp occurs
    exact .inr (.inl ⟨inbox, rfl, rfl⟩)
  case h_3 inbox steps acts =>
    obtain rfl := List.mem_singleton.mp occurs
    exact .inr (.inr (.inl ⟨inbox, steps, acts, rfl, rfl⟩))
  case h_4 =>
    obtain rfl := List.mem_singleton.mp occurs
    exact .inl rfl
  case h_5 script _ _ _ _ _ => exact .inl (scripts script occurs)
  case h_6 effects actions =>
    obtain rfl := List.mem_singleton.mp occurs
    exact .inr (.inr (.inr ⟨effects, actions, rfl, rfl⟩))
  case h_7 script _ _ _ _ => exact .inl (scripts script (List.mem_append_left _ occurs))
  case h_8 => cases occurs

/-- A goal that goes is not flagged as pursued then. -/
theorem unpursued_of_dropped {world : World V} {phase : Phase V}
    (inside : number < world.agents.size)
    (calm : ∀ cause, (world.stride number phase).2 ≠ .finished (.panicked cause))
    (held : handle ∈ (world.agent number).goals)
    (gone : handle ∉ ((world.stride number phase).1.agent number).goals) :
    (world.stride number phase).1.pursuit.isPursued handle.id = false := by
  let book : GoalBook V :=
    { inbox := (world.agent number).inbox.goals, requested := phase.requested?.getD []
      held := (world.agent number).goals, entered := [] }
  have fits : book.Fits number world phase :=
    { held := rfl, inbox := rfl, requested := fun handles known => by simp [book, known] }
  by_cases endures : ∀ event ∈ world.goalEvents number phase, event.ends handle = false
  · rw [← (fits.stride inside calm).held] at gone
    exact absurd (GoalBook.mem_held_noteAll held endures) gone
  · simp only [not_forall, Bool.not_eq_false] at endures
    obtain ⟨event, occurs, ends⟩ := endures
    rcases goalEvents_cases occurs with lasting | ⟨inbox, rfl, rfl⟩ | ⟨_, _, _, -, rfl⟩ |
        ⟨effects, actions, rfl, -⟩
    · cases event with
      | comes | requests | drains | applies => cases ends
      | checks | offers | retires => cases lasting
    · cases broken : (sweepGoals (world.agent number).contexts world.pursuit
          (world.agent number).goals).2.2 with
      | some cause =>
        refine absurd ?_ (calm cause)
        simp only [stride, sweep, broken]
      | none =>
        have cleared := sweepGoals_clears _ _ _ broken held ends
        simpa only [stride, sweep, broken, pursuit_modifyAgent] using cleared
    · cases ends
    · have cleared := world.retire_clears number
      rw [List.filter_eq_nil_iff] at cleared
      refine Bool.eq_false_iff.mpr (cleared handle.id ?_)
      exact List.mem_append_left _ (List.mem_map_of_mem held)

end World

/-! ## Runs -/

/-- A run of one agent so far, as far as its goals are concerned. -/
structure Tenure (V : Vocabulary) where
  world : World V
  phase : Phase V
  log : List (GoalEvent V)

namespace Tenure

/-- The run after one more stride of the present cycle. -/
def stride (number : BirthNumber) (tenure : Tenure V) : Tenure V :=
  { world := (tenure.world.stride number tenure.phase).1
    phase := (tenure.world.stride number tenure.phase).2
    log := tenure.log ++ tenure.world.goalEvents number tenure.phase }

/-- One step of a run in which no cycle panics. -/
inductive Step (number : BirthNumber) : Tenure V → Tenure V → Prop where
  /-- Something else happens: things arrive at the agent, objects change that it has as contexts, and
  flags of goals. -/
  | aside (tenure : Tenure V) {next : World V} {arrivals : List (Arrival V)}
      (reaches : tenure.world.Reaches number arrivals next) :
      Step number tenure { tenure with world := next, log := tenure.log ++ comings arrivals }
  /-- The agent begins another cycle. -/
  | begin (tenure : Tenure V) (between : tenure.phase.isBusy = false) :
      Step number tenure { tenure with phase := .waking }
  /-- The cycle makes a stride. -/
  | stride (tenure : Tenure V)
      (calm : ∀ cause, (tenure.stride number).phase ≠ .finished (.panicked cause)) :
      Step number tenure (tenure.stride number)

/-- Any number of steps. -/
abbrev Steps (number : BirthNumber) : Tenure V → Tenure V → Prop := ReflTransGen (Step number)

/-- An agent that is about to begin its first cycle. -/
def opening (world : World V) : Tenure V := { world, phase := .waking, log := [] }

/-- What a run reaches of an agent that starts out without goals. -/
inductive Reachable (number : BirthNumber) : Tenure V → Prop where
  | start {world : World V} (inside : number < world.agents.size)
      (goals : (world.agent number).goals = []) (empty : (world.agent number).inbox = Inbox.empty) :
      Reachable number (opening world)
  | step {before after : Tenure V} (reachable : Reachable number before)
      (step : Step number before after) : Reachable number after

/-- A cycle has drained the inbox, and nothing has changed the goals since. -/
def Drained (log : List (GoalEvent V)) : Prop :=
  ∃ start between, log = start ++ .drains :: between ∧ ∀ event ∈ between, event.isAside = true

/-- A cycle has drained the inbox and checked the goals, and nothing has changed them since: `goals`
are those that were held when the cycle began and were not achieved then. -/
def Checked (log : List (GoalEvent V)) (goals : List (GoalHandle V)) : Prop :=
  ∃ start between contexts during,
    log = start ++ .drains :: (between ++ .checks contexts :: during) ∧
      (∀ event ∈ between ++ during, event.isAside = true) ∧
      goals = (GoalBook.of (start ++ [.drains])).held.filter fun handle =>
        !handle.isAchieved contexts

/-- Where a cycle stands in its log. -/
def Opened (log : List (GoalEvent V)) : Phase V → Prop
  | .sweeping _ => Drained log
  | .sensing _ _ _ => Checked log (GoalBook.of log).held
  | _ => True

/-- The inbox counts as drained until something happens to the goals. -/
theorem Drained.append {log events : List (GoalEvent V)} (drained : Drained log)
    (aside : ∀ event ∈ events, event.isAside = true) : Drained (log ++ events) := by
  obtain ⟨start, between, rfl, before⟩ := drained
  exact ⟨start, between ++ events, by simp, List.forall_mem_append.mpr ⟨before, aside⟩⟩

/-- The goals count as checked until something happens to them. -/
theorem Checked.append {log events : List (GoalEvent V)} {goals : List (GoalHandle V)}
    (checked : Checked log goals) (aside : ∀ event ∈ events, event.isAside = true) :
    Checked (log ++ events) goals := by
  obtain ⟨start, between, contexts, during, rfl, before, same⟩ := checked
  refine ⟨start, between, contexts, during ++ events, by simp, ?_, same⟩
  rw [← List.append_assoc]
  exact List.forall_mem_append.mpr ⟨before, aside⟩

/-- The check comes right after the beginning of the cycle. -/
theorem Drained.check {log : List (GoalEvent V)} (drained : Drained log)
    (contexts : Contexts V.Object) :
    Checked (log ++ [.checks contexts]) (GoalBook.of (log ++ [.checks contexts])).held := by
  obtain ⟨start, between, rfl, aside⟩ := drained
  refine ⟨start, between, contexts, [], by simp, by simpa using aside, ?_⟩
  have split : start ++ .drains :: between = start ++ [.drains] ++ between := by simp
  rw [GoalBook.of_snoc, split, GoalBook.of_append _ between]
  exact congrArg (List.filter _) (GoalBook.held_noteAll_of_isAside _ aside)

/-- Goals that arrive change nothing for those that are held. -/
theorem comings_aside (arrivals : List (Arrival V)) :
    ∀ event ∈ comings arrivals, event.isAside = true := by
  intro event member
  obtain ⟨handle, -, rfl⟩ := List.mem_map.mp member
  rfl

/-- What does not concern the goals leaves a cycle where it stands in its log. -/
theorem Opened.aside {log events : List (GoalEvent V)} {phase : Phase V} (opened : Opened log phase)
    (aside : ∀ event ∈ events, event.isAside = true) : Opened (log ++ events) phase := by
  cases phase with
  | sweeping => exact Drained.append opened aside
  | sensing =>
    rw [Opened, GoalBook.of_append, GoalBook.held_noteAll_of_isAside _ aside]
    exact Checked.append opened aside
  | waking | planning | acting | closing | parting | finished => trivial

/-- A goal step starts from the goals that its cycle has found unachieved. -/
def Offers (log : List (GoalEvent V)) : Prop :=
  ∀ before triggers after, log = before ++ .offers triggers :: after →
    ∃ goals, Checked before goals ∧ triggers = goals.map .goal

/-- The goal steps were right whatever else happens. -/
theorem Offers.append {log events : List (GoalEvent V)} (offers : Offers log)
    (silent : ∀ event ∈ events, ∀ triggers, event ≠ .offers triggers) :
    Offers (log ++ events) := by
  induction events using List.reverseRecOn with
  | nil => rwa [List.append_nil]
  | append_singleton events event hypothesis =>
    rw [List.forall_mem_append, List.forall_mem_singleton] at silent
    intro before triggers after split
    rw [← List.append_assoc] at split
    rcases snoc_eq_append_cons.mp split with ⟨-, same, -⟩ | ⟨middle, earlier, -⟩
    · exact absurd same (silent.2 triggers)
    · exact hypothesis silent.1 before triggers middle earlier

/-- What holds throughout a run. -/
structure Sound (number : BirthNumber) (tenure : Tenure V) : Prop where
  inside : number < tenure.world.agents.size
  fits : (GoalBook.of tenure.log).Fits number tenure.world tenure.phase
  opened : Opened tenure.log tenure.phase
  offers : Offers tenure.log

variable {number : BirthNumber} {tenure before after : Tenure V}

/-- A stride leads on in the log as it does in the cycle. -/
theorem Sound.opened_stride (sound : Sound number tenure)
    (calm : ∀ cause, (tenure.stride number).phase ≠ .finished (.panicked cause)) :
    Opened (tenure.stride number).log (tenure.stride number).phase := by
  obtain ⟨world, phase, log⟩ := tenure
  have opened := sound.opened
  have asides : ∀ (inbox : Inbox V) (category : Category) (steps : List SenseStep)
      (acts : List ActStep),
      ∀ event ∈ world.goalEvents number (.sensing inbox (category :: steps) acts),
        event.isAside = true := by
    intro inbox category steps acts event occurs
    cases category with
    | goal =>
      obtain rfl := List.mem_singleton.mp occurs
      rfl
    | external | internal | message => cases occurs
  have strode := world.strode number phase
  simp only [stride] at calm ⊢
  generalize world.stride number phase = next at strode calm ⊢
  cases strode with
  | wakes after inbox notDone drained notStopping =>
    rw [World.goalEvents, if_neg (by simp [notDone])]
    exact ⟨log, [], rfl, by simp⟩
  | sweeps inbox after swept => exact Drained.check opened _
  | passes inbox category steps acts empty =>
    exact Opened.aside opened (asides inbox category steps acts)
  | senses inbox category steps acts after _ senses =>
    exact Opened.aside opened (asides inbox category steps acts)
  | _ => trivial

/-- After a stride every goal step is still one that starts from the unachieved goals. -/
theorem Sound.offers_stride (sound : Sound number tenure) : Offers (tenure.stride number).log := by
  obtain ⟨world, phase, log⟩ := tenure
  by_cases silent : ∀ event ∈ world.goalEvents number phase, ∀ triggers, event ≠ .offers triggers
  · exact sound.offers.append silent
  · simp only [not_forall, not_not] at silent
    obtain ⟨event, occurs, triggers, rfl⟩ := silent
    rcases World.goalEvents_cases occurs with lasting | ⟨_, -, other⟩ |
      ⟨inbox, steps, acts, rfl, same⟩ | ⟨_, _, -, other⟩
    · cases lasting
    · cases other
    · intro before triggers after split
      rcases snoc_eq_append_cons.mp split with ⟨rfl, starts, -⟩ | ⟨middle, earlier, -⟩
      · have opened : Checked log (GoalBook.of log).held := sound.opened
        refine ⟨_, opened, ?_⟩
        rw [sound.fits.held, ← GoalEvent.offers.inj starts]
        rfl
      · exact sound.offers before triggers middle earlier
    · cases other

/-- A step keeps what holds throughout a run. -/
theorem Step.sound (step : Step number before after) (sound : Sound number before) :
    Sound number after := by
  cases step with
  | aside reaches =>
    refine
      { inside := Nat.lt_of_lt_of_le sound.inside reaches.size, fits := ?_
        opened := sound.opened.aside (comings_aside _), offers := ?_ }
    · rw [GoalBook.of_append]
      exact sound.fits.reach reaches
    · refine sound.offers.append fun event member triggers same => ?_
      obtain ⟨handle, -, rfl⟩ := List.mem_map.mp member
      cases same
  | begin between =>
    exact
      { inside := sound.inside
        fits := sound.fits.quiet rfl rfl nofun
        opened := trivial, offers := sound.offers }
  | stride calm =>
    exact
      { inside := (before.world.stride_moves number before.phase).frame.size ▸ sound.inside
        fits := by
          rw [Tenure.stride, GoalBook.of_append]
          exact sound.fits.stride sound.inside calm
        opened := sound.opened_stride calm, offers := sound.offers_stride }

/-- What holds throughout a run holds of whatever it reaches. -/
theorem Reachable.sound (reachable : Reachable number tenure) : Sound number tenure := by
  induction reachable with
  | @start world inside goals empty =>
    refine { inside, fits := ?_, opened := trivial, offers := ?_ }
    · exact
        { held := goals.symm
          inbox := by
            rw [opening, empty]
            rfl
          requested := nofun }
    · intro before triggers after split
      exact absurd split.symm (List.append_ne_nil_of_right_ne_nil before (List.cons_ne_nil _ _))
  | step _ step hypothesis => exact step.sound hypothesis

/-- An agent holds the goals that were adopted and have not been dropped since, in the order in which
they came in, and none of them twice. What drops a goal is a check that finds it achieved, or that
the agent retires; the goal is not flagged as pursued then. A goal step starts from the goals that
were held when its cycle began and were not achieved then. -/
theorem Reachable.goals_held (reachable : Reachable number tenure)
    (coherent : Coherent tenure.log) :
    (tenure.world.agent number).goals = (GoalBook.of tenure.log).held ∧
      (∀ past later, tenure.log = past ++ later →
        (∀ handle, handle ∈ (GoalBook.of past).held ↔ HeldSince handle past) ∧
          (GoalBook.of past).Ordered ∧ ((GoalBook.of past).held.map (·.id)).Nodup) ∧
      (∀ before triggers after, tenure.log = before ++ .offers triggers :: after →
        ∃ goals, Checked before goals ∧ triggers = goals.map .goal) ∧
      ∀ next, Step number tenure next → ∀ handle ∈ (tenure.world.agent number).goals,
        handle ∉ (next.world.agent number).goals →
          next.world.pursuit.isPursued handle.id = false := by
  have sound := reachable.sound
  refine ⟨sound.fits.held.symm, ?history, sound.offers, ?leaving⟩
  case history =>
    intro past later split
    have ordered := GoalBook.of_ordered past
    rw [split] at coherent
    exact ⟨GoalBook.mem_held_iff coherent.past, ordered, ordered.nodup⟩
  case leaving =>
    intro next step handle held gone
    cases step with
    | aside reaches =>
      obtain ⟨contexts, changed⟩ := reaches.agent
      rw [changed] at gone
      exact absurd held gone
    | begin between => exact absurd held gone
    | stride calm => exact World.unpursued_of_dropped sound.inside calm held gone

/-! ### What such runs are made of -/

/-- An arrival is a step of the run. -/
theorem Step.arrive (tenure : Tenure V) (inside : number < tenure.world.agents.size)
    (arrival : Arrival V) :
    Step number tenure
      { tenure with
        world := tenure.world.arrive number arrival, log := tenure.log ++ comings [arrival] } := by
  refine .aside tenure { size := by simp, agent := ⟨(tenure.world.agent number).contexts, ?_⟩ }
  rw [World.agent_arrive_self _ _ inside]
  rfl

/-- A stride of another agent lets things arrive. -/
theorem Step.of_other (tenure : Tenure V) (inside : number < tenure.world.agents.size)
    {other : BirthNumber} (different : number ≠ other) (phase : Phase V) :
    Step number tenure
      { tenure with
        world := (tenure.world.stride other phase).1
        log := tenure.log ++ comings (arrivalsAt number (tenure.world.deeds other phase)) } := by
  have frame := (tenure.world.stride_moves other phase).frame
  refine .aside tenure
    { size := frame.size.ge, agent := ⟨(tenure.world.agent number).contexts, ?_⟩ }
  exact tenure.world.agent_stride_of_ne phase different inside

/-- The strides of a cycle that does not panic are steps of a run. -/
theorem Steps.of_strides {start stop : World V × Phase V}
    (strides : World.Strides number start stop)
    (calm : ∀ cause, stop.2 ≠ .finished (.panicked cause)) (log : List (GoalEvent V)) :
    ∃ later, Steps number { world := start.1, phase := start.2, log }
      { world := stop.1, phase := stop.2, log := log ++ later } := by
  induction strides using ReflTransGen.head_induction_on generalizing log with
  | refl => exact ⟨[], by rw [List.append_nil]⟩
  | @head start middle stride rest hypothesis =>
    cases stride with
    | stride world phase =>
      have before : Step number { world, phase, log } _ := .stride _ fun cause panicked =>
        calm cause (Reception.finished_of_strides rest panicked)
      obtain ⟨later, steps⟩ := hypothesis (log ++ world.goalEvents number phase)
      rw [List.append_assoc] at steps
      exact ⟨_, .head before steps⟩
    | elapse world phase clock =>
      obtain ⟨later, steps⟩ := hypothesis log
      have lapse : Step number { world, phase, log }
          { world := { world with clock }, phase, log := log ++ comings [] } :=
        .aside _ { size := Nat.le_refl _, agent := ⟨(world.agent number).contexts, rfl⟩ }
      rw [comings, List.filterMap_nil, List.map_nil, List.append_nil] at lapse
      exact ⟨later, .head lapse steps⟩

/-- A cycle that does not panic is a part of a run, whether it ends or waits. -/
theorem Steps.of_cycle (between : tenure.phase.isBusy = false) (deadline : Option Nat)
    (calm : ∀ cause, (tenure.world.cycle number deadline).phase ≠ .finished (.panicked cause)) :
    ∃ later, Steps number tenure
      { world := (tenure.world.cycle number deadline).world
        phase := (tenure.world.cycle number deadline).phase
        log := tenure.log ++ later } := by
  obtain ⟨later, steps⟩ :=
    Steps.of_strides (tenure.world.cycle_strides number deadline) calm tenure.log
  exact ⟨later, .head (.begin _ between) steps⟩

/-- A run goes on for a number of strides without a panic. -/
theorem Reachable.walk (reachable : Reachable number tenure) (strides : Nat)
    (calm : staysCalm (stride number) phase strides tenure = true) :
    Reachable number ((stride number)^[strides] tenure) :=
  holds_of_staysCalm (fun _ calm reached => reached.step (.stride _ calm)) reachable strides calm

end Tenure

/-! ## A goal that is reached -/

namespace Market

/-- A goal that the first sale reaches. -/
def firstSale : GoalHandle vocabulary := { id := ⟨1⟩, goal := .sales 1 }

/-- A plan that requests a goal, sells something and fails. -/
def hustle : Plan vocabulary :=
  Plan.once <| .adoptGoal utopia <| .change bookCapability Book.recordSale <|
    .done (.error (.failed "hustle")) 0

/-- An agent with this plan. -/
def hustler : World vocabulary :=
  let world := World.new { poolSize := 1, seed := none, unitTimeout := none } (.new none)
  let design := { Design.empty.withContext [bookCapability] (Book.ofSeed 0 1) with
    initialPlans := [hustle] }
  (world.create (AgentId.ofNat 1) design none false).1

/-- The first goal has come into its inbox. -/
def hustling : Tenure vocabulary :=
  { world := hustler.arrive 0 (.goal firstSale), phase := .waking
    log := comings [.goal firstSale] }

/-- A cycle has ended with an error. -/
def hustled : Tenure vocabulary := (Tenure.stride 0)^[13] hustling

/-- The goal step of the next cycle is over. -/
def settled : Tenure vocabulary := (Tenure.stride 0)^[3] { hustled with phase := .waking }

/-- The goal step of the second cycle is reached by a run. -/
theorem settled_reachable : Tenure.Reachable 0 settled := by
  have started : Tenure.Reachable 0 (Tenure.opening hustler) :=
    .start (by decide +kernel) rfl rfl
  have arrived : Tenure.Reachable 0 hustling :=
    started.step (.arrive _ (by decide +kernel) (.goal firstSale))
  have ended : Tenure.Reachable 0 hustled := arrived.walk 13 (by decide +kernel)
  exact (ended.step (.begin _ (by decide +kernel))).walk 3 (by decide +kernel)

/-- The handles of its log are coherent. -/
theorem settled_coherent : Coherent settled.log := by
  have brought : settled.log.filterMap GoalEvent.handle? = [firstSale, utopia] := rfl
  rw [Coherent, brought]
  simp [firstSale, utopia]

end Market

namespace Tenure

/-- The goal that was held at first has been reached and dropped; the one that the failing plan
requested is held. -/
theorem Reachable.goals_held_settled :
    Coherent Market.settled.log ∧
      ((Market.settled.world.agent 0).goals.map (·.id)) = [⟨0⟩] ∧
      (GoalBook.of Market.settled.log).held.map (·.id) = [⟨0⟩] ∧
      ¬ HeldSince Market.firstSale Market.settled.log := by
  have settled := Market.settled_reachable.goals_held Market.settled_coherent
  have ids : (Market.settled.world.agent 0).goals.map (·.id) = [⟨0⟩] := by decide +kernel
  refine ⟨Market.settled_coherent, ids, settled.1 ▸ ids, fun held => ?_⟩
  have stillHeld := ((settled.2.1 _ [] (List.append_nil _).symm).1 Market.firstSale).mpr held
  rw [← settled.1] at stillHeld
  have absent : Market.firstSale.id ∉ (Market.settled.world.agent 0).goals.map (·.id) := by
    decide +kernel
  exact absent (List.mem_map_of_mem stillHeld)

end Tenure

end Deliberation
