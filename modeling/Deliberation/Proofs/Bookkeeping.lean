import Deliberation.Proofs.GoalBook
import Deliberation.Proofs.Reception
import Deliberation.Proofs.Retirement

/-!
# The book of goals is right

What a stride does to the goals of its agent shows in the events that it logs
(`World.goalEvents`). `GoalBook.Fits` says that a book tells of an agent what it holds, what waits in
its inbox, and what the plans of its cycle have requested. A stride keeps this, when the book notes
its events (`GoalBook.Fits.stride`).
-/

namespace Deliberation

open Relation

variable {V : Vocabulary}

/-! ## What strides do to goals -/

/-- The goal that comes with an arrival. -/
def Arrival.goal? : Arrival V → Option (GoalHandle V)
  | goal handle => some handle
  | _ => none

/-- The goals among arrivals come into the inbox. -/
def comings (arrivals : List (Arrival V)) : List (GoalEvent V) :=
  (arrivals.filterMap Arrival.goal?).map .comes

namespace Script

/-- The goal that a script is about to request, if it is. -/
def goalRequests : Script V → List (GoalHandle V)
  | adoptGoal handle _ => [handle]
  | _ => []

/-- What the next operation of a script does to goals. -/
def goalEvents (self : BirthNumber) (world : World V) (script : Script V) : List (GoalEvent V) :=
  script.goalRequests.map .requests ++ comings (arrivalsAt self (script.deeds self world))

/-- An execution that fails ends its cycle, with its effects. -/
def goalEnding : Script V → List (GoalEvent V)
  | done (.error _) _ => [.applies]
  | _ => []

end Script

/-- What a stride does to goals. -/
def World.goalEvents (world : World V) (number : BirthNumber) : Phase V → List (GoalEvent V)
  | .waking => if (world.agent number).done then [] else [.drains]
  | .sweeping _ => [.checks (world.agent number).contexts]
  | .sensing inbox (.goal :: _) _ => [.offers (world.offered number inbox .goal)]
  | .planning [] [] _ => [.applies]
  | .acting script _ _ _ _ _ => script.goalEvents number world ++ script.goalEnding
  | .closing [] _ _ => [.retires]
  | .parting script _ _ _ _ => script.goalEvents number world
  | _ => []

/-- The goals that plans of a cycle have requested so far. -/
def Phase.requested? : Phase V → Option (List (GoalHandle V))
  | sweeping _ | sensing _ _ _ => some []
  | planning _ _ progress | acting _ _ _ _ _ progress => some progress.effects.goals
  | closing _ effects _ | parting _ _ _ effects _ => some effects.goals
  | waking | finished _ => none

/-- The goals that arrive wait behind those that wait already. -/
theorem Inbox.goals_receiveAll (inbox : Inbox V) (arrivals : List (Arrival V)) :
    (inbox.receiveAll arrivals).goals = inbox.goals ++ arrivals.filterMap Arrival.goal? := by
  induction arrivals generalizing inbox with
  | nil => exact (List.append_nil _).symm
  | cons arrival rest hypothesis =>
    refine (hypothesis (inbox.receive arrival)).trans ?_
    cases arrival <;> simp [Inbox.receive, Arrival.goal?, List.filterMap_cons]

/-- Whether an event neither drops goals nor offers them. -/
def GoalEvent.isLasting : GoalEvent V → Bool
  | comes _ | requests _ | drains | applies => true
  | _ => false

/-! ## Checks -/

/-- A check that no predicate breaks off drops the goals that are achieved. -/
theorem sweepGoals_eq_filter (contexts : Contexts V.Object) (pursuit : Pursuit)
    (goals : List (GoalHandle V)) (calm : (sweepGoals contexts pursuit goals).2.2 = none) :
    (sweepGoals contexts pursuit goals).1 = goals.filter fun handle =>
      !handle.isAchieved contexts := by
  fun_induction sweepGoals contexts pursuit goals with
  | case1 => rfl
  | case2 => cases calm
  | case3 pursuit handle rest holds hypothesis =>
    have achieved : handle.isAchieved contexts = true := by rw [GoalHandle.isAchieved, holds]
    rw [hypothesis calm, List.filter_cons, achieved]
    rfl
  | case4 pursuit handle rest holds kept after panic swept hypothesis =>
    rw [swept] at hypothesis
    have unachieved : handle.isAchieved contexts = false := by rw [GoalHandle.isAchieved, holds]
    simpa [List.filter_cons, unachieved] using hypothesis calm

/-- Goals that are achieved lose their flags. -/
theorem sweepGoals_clears (contexts : Contexts V.Object) (pursuit : Pursuit)
    (goals : List (GoalHandle V)) (calm : (sweepGoals contexts pursuit goals).2.2 = none)
    {handle : GoalHandle V} (held : handle ∈ goals) (achieved : handle.isAchieved contexts = true) :
    (sweepGoals contexts pursuit goals).2.1.isPursued handle.id = false := by
  fun_induction sweepGoals contexts pursuit goals with
  | case1 => cases held
  | case2 => cases calm
  | case3 pursuit first rest holds hypothesis =>
    rcases List.mem_cons.mp held with rfl | later
    · rw [Bool.eq_false_iff]
      intro flagged
      exact (Pursuit.isPursued_of_clear (sweepGoals_flags contexts _ rest flagged)).2 rfl
    · exact hypothesis calm later
  | case4 pursuit first rest holds kept after panic swept hypothesis =>
    rw [swept] at hypothesis
    rcases List.mem_cons.mp held with rfl | later
    · rw [GoalHandle.isAchieved, holds] at achieved
      cases achieved
    · exact hypothesis calm later

namespace World

variable {number : BirthNumber}

/-- A check of the goals changes the goals of the agent only. -/
theorem agent_sweep (world : World V) (inside : number < world.agents.size) :
    (world.sweep number).1.agent number =
      { world.agent number with
        goals := (sweepGoals (world.agent number).contexts world.pursuit
          (world.agent number).goals).1 } :=
  agent_modifyAgent_self _ _ inside

/-- An agent that drains its inbox takes up the new goals in it. -/
theorem goals_drain (world : World V) (inside : number < world.agents.size) :
    ((world.drain number).1.agent number).goals =
      (world.agent number).goals ++
        newGoals (world.agent number).goals (world.agent number).inbox.goals := by
  unfold drain
  rw [agent_modifyAgent_self world _ inside]
  exact Agent.goals_adoptAll _ _

/-- An operation of a script leaves the goals that the agent holds. -/
theorem goals_advance {script rest : Script V} {turn next : Turn V} {wait : Wait}
    (blocked : script.advance number turn = .blocked next wait rest) :
    (next.world.agent number).goals = (turn.world.agent number).goals :=
  (Script.stirs_of_advance blocked).field Agent.goals (fun _ _ _ _ => rfl) number

end World

/-- Effects take up the goal that an operation requests. -/
theorem Effects.goals_heed (effects : Effects V) (script : Script V) :
    (effects.heed script).goals = effects.goals ++ script.goalRequests := by
  cases script with
  | adoptGoal handle next => rfl
  | _ => exact (List.append_nil _).symm

/-- Effects let no goals come into an inbox. -/
theorem goal?_effects (number self : BirthNumber) (effects : Effects V) :
    (arrivalsAt number (effects.deeds self)).filterMap Arrival.goal? = [] := by
  rw [List.filterMap_eq_nil_iff]
  intro arrival member
  obtain ⟨deed, raised, reaches⟩ := List.mem_filterMap.mp member
  obtain ⟨payload, -, rfl⟩ := List.mem_map.mp raised
  simp only [Deed.arrivalAt?] at reaches
  split at reaches
  · obtain rfl := Option.some.inj reaches
    rfl
  · cases reaches

/-! ## The book is right -/

namespace GoalBook

/-- The goals that plans request are noted as requested, in order. -/
theorem noteAll_requests (book : GoalBook V) (handles : List (GoalHandle V)) :
    book.noteAll (handles.map .requests) = { book with requested := book.requested ++ handles } := by
  induction handles generalizing book with
  | nil => simp [noteAll]
  | cons handle rest hypothesis =>
    refine (hypothesis (book.note (.requests handle))).trans ?_
    simp [note]

/-- A book says of an agent what it holds, what waits in its inbox, and what the plans of its cycle
have requested. -/
structure Fits (book : GoalBook V) (number : BirthNumber) (world : World V) (phase : Phase V) :
    Prop where
  held : book.held = (world.agent number).goals
  inbox : book.inbox = (world.agent number).inbox.goals
  requested : ∀ handles, phase.requested? = some handles → book.requested = handles

namespace Fits

variable {book : GoalBook V} {number : BirthNumber} {world : World V} {phase : Phase V}

/-- What comes from outside goes into the inbox. -/
theorem reach (fits : book.Fits number world phase) {next : World V}
    {arrivals : List (Arrival V)} (reaches : world.Reaches number arrivals next) :
    (book.noteAll (comings arrivals)).Fits number next phase := by
  obtain ⟨contexts, changed⟩ := reaches.agent
  rw [comings, noteAll_comes]
  refine { held := ?_, inbox := ?_, requested := fits.requested }
  · rw [changed]
    exact fits.held
  · rw [changed]
    exact (congrArg (· ++ _) fits.inbox).trans (Inbox.goals_receiveAll _ _).symm

/-- One operation of a script. -/
theorem advance {script rest : Script V} {effects : Effects V} {finished : Bool} {next : Turn V}
    {wait : Wait} {after : Phase V} (fits : book.Fits number world phase)
    (inside : number < world.agents.size)
    (blocked : script.advance number { world, effects, finished } = .blocked next wait rest)
    (requested : phase.requested? = some effects.goals)
    (requested' : after.requested? = some next.effects.goals) :
    (book.noteAll (script.goalEvents number world)).Fits number next.world after := by
  rw [Script.goalEvents, noteAll_append, noteAll_requests, comings, noteAll_comes]
  refine { held := ?_, inbox := ?_, requested := ?_ }
  · exact fits.held.trans (World.goals_advance blocked).symm
  · have inbox : (next.world.agent number).inbox = _ := World.inbox_of_advance blocked inside
    rw [inbox, Inbox.goals_receiveAll, ← fits.inbox]
  · intro handles known
    rw [requested', Option.some.injEq] at known
    rw [← known, Script.effects_of_advance blocked, Effects.goals_heed,
      ← fits.requested _ requested]

/-- Nothing happens that the book would have to say. -/
theorem quiet (fits : book.Fits number world phase) {next : World V} {after : Phase V}
    (goals : (next.agent number).goals = (world.agent number).goals)
    (inbox : (next.agent number).inbox.goals = (world.agent number).inbox.goals)
    (requested : ∀ handles, after.requested? = some handles → phase.requested? = some handles) :
    book.Fits number next after :=
  { held := fits.held.trans goals.symm, inbox := fits.inbox.trans inbox.symm
    requested := fun handles known => fits.requested handles (requested handles known) }

/-- A cycle begins. -/
theorem drain (fits : book.Fits number world phase) (inside : number < world.agents.size)
    {next : World V} {after : Phase V}
    (goals : (next.agent number).goals = ((world.drain number).1.agent number).goals)
    (inbox : (next.agent number).inbox = ((world.drain number).1.agent number).inbox)
    (requested : ∀ handles, after.requested? = some handles → handles = []) :
    (book.noteAll [.drains]).Fits number next after where
  held := by
    rw [goals, world.goals_drain inside, ← fits.held, ← fits.inbox]
    rfl
  inbox := by
    rw [inbox, world.inbox_drain inside]
    rfl
  requested := fun handles known => (requested handles known).symm

/-- A cycle ends with the effects that its plans requested. -/
theorem applies (fits : book.Fits number world phase) (inside : number < world.agents.size)
    {effects : Effects V} (requested : phase.requested? = some effects.goals)
    (outcome : CycleOutcome V) :
    (book.noteAll [.applies]).Fits number (world.applyEffects number effects)
      (.finished outcome) where
  held := by
    rw [World.agent_applyEffects effects inside, ← fits.held, ← fits.requested _ requested]
    rfl
  inbox := by
    rw [World.inbox_applyEffects world number effects inside, Inbox.goals_receiveAll,
      goal?_effects, List.append_nil]
    exact fits.inbox
  requested := nofun

/-- A book stays right over a stride. -/
theorem stride (fits : book.Fits number world phase) (inside : number < world.agents.size)
    (calm : ∀ cause, (world.stride number phase).2 ≠ .finished (.panicked cause)) :
    (book.noteAll (world.goalEvents number phase)).Fits number (world.stride number phase).1
      (world.stride number phase).2 := by
  have strode := world.strode number phase
  generalize world.stride number phase = next at strode calm ⊢
  cases strode with
  | idles isDone =>
    rw [World.goalEvents, if_pos isDone]
    exact fits.quiet rfl rfl nofun
  | turns after inbox notDone drained stopping =>
    obtain rfl : (world.drain number).1 = after := congrArg Prod.fst drained
    rw [World.goalEvents, if_neg (by simp [notDone])]
    refine fits.drain inside ?_ ?_ fun handles known => (Option.some.inj known).symm
    · exact World.field_modifyAgent Agent.goals _ number number _ rfl
    · exact World.field_modifyAgent Agent.inbox _ number number _ rfl
  | wakes after inbox notDone drained notStopping =>
    obtain rfl : (world.drain number).1 = after := congrArg Prod.fst drained
    rw [World.goalEvents, if_neg (by simp [notDone])]
    exact fits.drain inside rfl rfl fun handles known => (Option.some.inj known).symm
  | sweepPanics inbox after panic swept => exact absurd rfl (calm panic)
  | sweeps inbox after swept =>
    obtain rfl : (world.sweep number).1 = after := congrArg Prod.fst swept
    have unbroken : (sweepGoals (world.agent number).contexts world.pursuit
        (world.agent number).goals).2.2 = none := congrArg Prod.snd swept
    have checked := world.agent_sweep inside
    refine { held := ?_, inbox := ?_, requested := fits.requested }
    · rw [checked, sweepGoals_eq_filter _ _ _ unbroken, ← fits.held]
      rfl
    · rw [checked]
      exact fits.inbox
  | sensed inbox acts => exact fits.quiet rfl rfl fun _ known => known
  | passes inbox category steps acts empty =>
    have same : book.noteAll (world.goalEvents number (.sensing inbox (category :: steps) acts)) =
        book := by cases category <;> rfl
    rw [same]
    exact fits.quiet rfl rfl fun _ known => known
  | sensePanics inbox category steps acts after panic _ senses => exact absurd rfl (calm panic)
  | senses inbox category steps acts after _ senses =>
    have same : book.noteAll (world.goalEvents number (.sensing inbox (category :: steps) acts)) =
        book := by cases category <;> rfl
    obtain rfl := congrArg Prod.fst senses
    rw [same]
    refine fits.quiet ?_ ?_ fun _ known => known
    · exact World.field_senseTriggers Agent.goals (fun _ _ _ _ => rfl) _ _ _ _ _
    · exact World.field_senseTriggers (fun agent => agent.inbox.goals) (fun _ _ _ _ => rfl) _ _ _ _ _
  | concludes progress => exact fits.applies inside rfl _
  | takes steps progress =>
    refine fits.quiet ?_ ?_ fun _ known => known
    · exact World.field_modifyAgent Agent.goals world number number _ rfl
    · exact World.field_modifyAgent (fun agent => agent.inbox.goals) world number number _ rfl
  | begins active pending steps progress => exact fits.quiet rfl rfl fun _ known => known
  | actingReturns script finished active pending steps progress turn action memory returned =>
    obtain ⟨rfl, rfl⟩ := World.eq_done_of_advance returned
    refine fits.quiet ?_ ?_ fun _ known => known
    · exact World.field_kept Agent.goals (fun _ _ => rfl) (progress.act world) number number active
        { world, effects := progress.effects, finished } action memory
    · exact World.field_kept (fun agent => agent.inbox.goals) (fun _ _ => rfl) (progress.act world)
        number number active { world, effects := progress.effects, finished } action memory
  | actingFails script finished active pending steps progress turn cause memory returned =>
    obtain ⟨rfl, rfl⟩ := World.eq_done_of_advance returned
    let act := (progress.act world).dropped number active pending
      { world, effects := progress.effects, finished }
    have size : act.world.agents.size = world.agents.size :=
      ((progress.act world).dropped_moves number active pending _).lasting.frame.size
    have dropped : book.Fits number act.world
        (.acting (.done (.error cause) memory) finished active pending steps progress) := by
      refine fits.quiet ?_ ?_ fun _ known => known
      · exact World.field_dropped Agent.goals (fun _ _ => rfl) _ number number _ _ _
      · exact World.field_dropped (fun agent => agent.inbox.goals) (fun _ _ => rfl) _ number number
          _ _ _
    exact dropped.applies (size ▸ inside) rfl _
  | actingPanics script finished active pending steps progress turn cause panicked =>
    exact absurd rfl (calm cause)
  | actingGoesOn script finished active pending steps progress turn wait rest blocked =>
    have goesOn : script.goalEnding = [] := by
      cases script with
      | done => cases blocked
      | _ => rfl
    rw [World.goalEvents, goesOn, List.append_nil]
    exact fits.advance inside blocked rfl rfl
  | retires effects actions =>
    have retired : (world.retire number).agent number = _ := World.agent_modifyAgent_self _ _ inside
    refine { held := ?_, inbox := ?_, requested := nofun }
    · rw [retired]
      rfl
    · rw [retired]
      exact fits.inbox
  | parts plan pending effects actions => exact fits.quiet rfl rfl fun _ known => known
  | partingReturns script finished pending effects actions turn action memory returned
  | partingFails script finished pending effects actions turn cause memory returned =>
    obtain ⟨rfl, rfl⟩ := World.eq_done_of_advance returned
    exact fits.quiet rfl rfl fun _ known => known
  | partingPanics script finished pending effects actions turn cause panicked =>
    exact absurd rfl (calm cause)
  | partingGoesOn script finished pending effects actions turn wait rest blocked =>
    exact fits.advance inside blocked rfl rfl
  | rests outcome => exact fits.quiet rfl rfl fun _ known => known

end Fits

/-- A goal stays held as long as nothing ends its tenure. -/
theorem mem_held_noteAll {book : GoalBook V} {events : List (GoalEvent V)} {handle : GoalHandle V}
    (held : handle ∈ book.held) (endures : ∀ event ∈ events, event.ends handle = false) :
    handle ∈ (book.noteAll events).held := by
  induction events generalizing book with
  | nil => exact held
  | cons event rest hypothesis =>
    obtain ⟨first, others⟩ := List.forall_mem_cons.mp endures
    refine hypothesis ?_ others
    cases event with
    | comes | requests | offers => exact held
    | drains | applies => exact List.mem_append_left _ held
    | checks contexts =>
      rw [GoalEvent.ends] at first
      simpa [note, first] using held
    | retires => cases first

end GoalBook

end Deliberation
