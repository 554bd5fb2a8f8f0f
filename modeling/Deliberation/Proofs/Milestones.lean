import Deliberation.Proofs.Chronicle
import Deliberation.Proofs.Pursuit

/-!
# Milestones on the way to the end

How an agent stops is told by the milestones of its chronicle: the events that are about plans,
schemes and interceptors, and those that say how a cycle begins and ends (`Event.isMilestone`).
`World.milestones_stride` says which of them a stride adds while an agent is still active.

A request to stop lies in the inbox, in the state of the agent, or in the effects of the cycle that
is under way, and a stride hands it on from one place to the next.
-/

namespace Deliberation

variable {V : Vocabulary}

/-! ## Milestones -/

namespace Event

/-- Whether an event is about plans, schemes and interceptors, or about how a cycle begins and
ends. -/
def isMilestone : Event V → Bool
  | does .asksToStop | receives _ | enters => false
  | _ => true

/-- Whether a cycle goes on as cycles do that execute no shutdown plans. -/
def isOrdinary : Event V → Bool
  | does (.senses _ _) | does (.executes _) | does (.returns _) => true
  | _ => false

/-- Whether an agent is asked to stop, from outside or by a plan of its own. -/
def isRequest : Event V → Bool
  | does .asksToStop | receives .stop => true
  | _ => false

/-- Whether an agent is put into the schedule from outside. -/
def isEntry : Event V → Bool
  | enters => true
  | _ => false

end Event

/-- The milestones among events. -/
def milestones (events : List (Event V)) : List (Event V) := events.filter Event.isMilestone

/-- Without events there are no milestones. -/
@[simp] theorem milestones_nil : milestones ([] : List (Event V)) = [] := rfl

/-- The milestones of events in a row are those of the first and of the second ones. -/
@[simp] theorem milestones_append (first second : List (Event V)) :
    milestones (first ++ second) = milestones first ++ milestones second := List.filter_append ..

/-- Arrivals and entries are no milestones. -/
theorem milestones_around (arrivals : List (Arrival V)) (told : Bool) :
    milestones (arrivals.map .receives ++ if told then [.enters] else []) = [] := by
  rw [milestones, List.filter_eq_nil_iff]
  intro event member
  rcases List.mem_append.mp member with arrived | entered
  · obtain ⟨arrival, _, rfl⟩ := List.mem_map.mp arrived
    exact Bool.false_ne_true
  · cases told with
    | false => cases entered
    | true =>
      rw [List.mem_singleton.mp entered]
      exact Bool.false_ne_true

/-- What happens around a cycle has an entry if the agent is scheduled. -/
theorem entries_around (arrivals : List (Arrival V)) (told : Bool) :
    (arrivals.map Event.receives ++ if told then [Event.enters] else []).countP Event.isEntry =
      told.toNat := by
  have none : (arrivals.map Event.receives).countP Event.isEntry = 0 := by
    rw [List.countP_eq_zero]
    intro event member
    obtain ⟨arrival, _, rfl⟩ := List.mem_map.mp member
    exact Bool.false_ne_true
  rw [List.countP_append, none, Nat.zero_add]
  cases told <;> rfl

/-! ## Where a request to stop lies -/

/-- An inbox holds a request to stop if it held one, or if one has arrived. -/
theorem Inbox.stopRequested_receiveAll (inbox : Inbox V) (arrivals : List (Arrival V)) :
    (inbox.receiveAll arrivals).stopRequested = true ↔
      inbox.stopRequested = true ∨ Arrival.stop ∈ arrivals := by
  induction arrivals generalizing inbox with
  | nil => simp
  | cons arrival rest ih =>
    refine (ih (inbox.receive arrival)).trans ?_
    cases arrival <;> simp [receive]

/-- Whether plans of the cycle have asked the agent to stop. -/
def Phase.asksToStop : Phase V → Bool
  | planning _ _ progress | acting _ _ _ _ _ progress => progress.effects.stop
  | _ => false

namespace World

variable {number : BirthNumber}

/-- What arrives at an agent is what deeds bring to it. -/
theorem mem_arrivalsAt {deeds : List (Deed V)} {arrival : Arrival V} :
    arrival ∈ arrivalsAt number deeds ↔ Deed.reaches number arrival ∈ deeds := by
  unfold arrivalsAt
  rw [List.mem_filterMap]
  constructor
  · rintro ⟨deed, member, arrived⟩
    cases deed with
    | reaches reached other =>
      simp only [Deed.arrivalAt?] at arrived
      split at arrived
      · rename_i same
        cases arrived
        exact same ▸ member
      · cases arrived
    | _ => cases arrived
  · intro member
    exact ⟨_, member, if_pos rfl⟩

/-- A plan that asks the agent to stop leaves the request in the effects. -/
theorem stop_of_advance {self : BirthNumber} {script : Script V} {turn : Turn V} {halt : Halt V}
    (advanced : script.advance self turn = halt)
    (asked : turn.effects.stop = true ∨ .asksToStop ∈ script.deeds self turn.world) :
    halt.turn.effects.stop = true := by
  subst advanced
  cases script with
  | requestStop next => rfl
  | send message next =>
    refine asked.resolve_right fun member => ?_
    cases mailFrom_arrivals turn.world self message _ member
  | reach agent arrival next =>
    have before : turn.effects.stop = true := by
      refine asked.resolve_right fun member => ?_
      simp only [Script.deeds] at member
      split at member
      · cases member
      · cases List.mem_singleton.mp member
    simp only [Script.advance]
    split <;> exact before
  | _ =>
    refine asked.resolve_right fun member => ?_
    simp [Script.deeds] at member

/-- The effects of a cycle bring a request of the agent itself to its state. -/
theorem stopping_applyEffects (world : World V) (effects : Effects V)
    (inside : number < world.agents.size) :
    ((world.applyEffects number effects).agent number).stopping =
      ((world.agent number).stopping || effects.stop) := by
  unfold applyEffects
  rw [agent_modifyAgent_self world _ inside]
  obtain ⟨goals, adopted⟩ := Agent.adoptAll_eq effects.goals
    { world.agent number with
      inbox :=
        { (world.agent number).inbox with
          internal := (world.agent number).inbox.internal ++ effects.raised.map .internal } }
  simp only [adopted]

/-- Draining the inbox brings a request to stop to the state of the agent. -/
theorem stopping_drain (world : World V) (inside : number < world.agents.size) :
    ((world.drain number).1.agent number).stopping =
      ((world.agent number).stopping || (world.agent number).inbox.stopRequested) := by
  unfold drain
  rw [agent_modifyAgent_self world _ inside]
  obtain ⟨goals, adopted⟩ := Agent.adoptAll_eq (world.agent number).inbox.goals
    { world.agent number with inbox := Inbox.empty }
  simp only [adopted]

/-- A cycle that goes on keeps the request of its plans, or hands it over to the agent. -/
theorem stopping_stride (world : World V) {phase : Phase V} (inside : number < world.agents.size)
    (begun : phase ≠ .waking) (early : phase.isLate = false)
    (calm : ∀ cause, (world.stride number phase).2 ≠ .finished (.panicked cause))
    (asked : (world.agent number).stopping = true ∨ phase.asksToStop = true ∨
      .asksToStop ∈ world.deeds number phase) :
    ((world.stride number phase).1.agent number).stopping = true ∨
      (world.stride number phase).2.asksToStop = true := by
  have strode := world.strode number phase
  generalize world.stride number phase = next at strode calm ⊢
  cases strode with
  | idles | turns | wakes => exact absurd rfl begun
  | retires | parts | partingReturns | partingFails | partingPanics | partingGoesOn => cases early
  | sweepPanics inbox after panic => exact absurd rfl (calm panic)
  | sensePanics inbox category steps acts after panic => exact absurd rfl (calm panic)
  | actingPanics script finished active pending steps progress turn cause =>
    exact absurd rfl (calm cause)
  | sweeps inbox after swept =>
    have kept := field_sweep Agent.stopping (fun _ _ => rfl) world number number
    rw [swept] at kept
    simp only [deeds, Phase.asksToStop, List.not_mem_nil, Bool.false_eq_true, or_false] at asked
    exact .inl (kept.trans asked)
  | sensed | passes | rests =>
    simp only [deeds, Phase.asksToStop, List.not_mem_nil, List.mem_singleton, reduceCtorEq,
      Bool.false_eq_true, or_false] at asked
    exact .inl asked
  | senses inbox category steps acts after _ senses =>
    have kept := field_senseTriggers Agent.stopping (fun _ _ _ _ => rfl) world number number
      category (world.offered number inbox category)
    rw [senses] at kept
    simp only [deeds, Phase.asksToStop, List.mem_singleton, reduceCtorEq, Bool.false_eq_true,
      or_false] at asked
    exact .inl (kept.trans asked)
  | concludes progress =>
    have applied := stopping_applyEffects world progress.effects inside
    refine .inl (applied.trans ?_)
    rcases asked with stopping | stop | member
    · rw [stopping, Bool.true_or]
    · rw [show progress.effects.stop = true from stop, Bool.or_true]
    · cases effects_arrivals number progress.effects _ member
  | takes steps progress =>
    have kept := field_modifyAgent Agent.stopping world number number
      (fun agent => { agent with plans := [] }) rfl
    rcases asked with stopping | stop | member
    · exact .inl (kept.trans stopping)
    · exact .inr stop
    · cases member
  | begins active pending steps progress =>
    rcases asked with stopping | stop | member
    · exact .inl stopping
    · exact .inr stop
    · cases List.mem_singleton.mp member
  | actingReturns script finished active pending steps progress turn action memory returned =>
    have kept := field_kept Agent.stopping (fun _ _ => rfl) (progress.act world) number number
      active turn action memory
    obtain ⟨rfl, rfl⟩ := eq_done_of_advance returned
    rcases asked with stopping | stop | member
    · exact .inl (kept.trans stopping)
    · exact .inr stop
    · cases List.mem_singleton.mp member
  | actingFails script finished active pending steps progress turn cause memory returned =>
    have dropped := field_dropped Agent.stopping (fun _ _ => rfl) (progress.act world) number number
      active pending turn
    have size := ((progress.act world).dropped_moves number active pending turn).lasting.frame.size
    obtain ⟨rfl, rfl⟩ := eq_done_of_advance returned
    have applied := stopping_applyEffects _ progress.effects (size ▸ inside)
    rw [dropped] at applied
    refine .inl (applied.trans ?_)
    rcases asked with stopping | stop | member
    · simp only [stopping, Bool.true_or]
    · rw [show progress.effects.stop = true from stop, Bool.or_true]
    · rcases List.mem_append.mp member with returns | raised
      · cases List.mem_singleton.mp returns
      · cases effects_arrivals number progress.effects _ raised
  | actingGoesOn script finished active pending steps progress turn wait rest blocked =>
    have kept := (Script.stirs_of_advance blocked).field Agent.stopping (fun _ _ _ _ => rfl) number
    simp only [deeds, aftermath_of_advance blocked, List.append_nil] at asked
    rcases asked with stopping | asked
    · exact .inl (kept.trans stopping)
    · exact .inr (stop_of_advance blocked asked)

end World

/-! ## What a stride adds to the chronicle -/

/-- Whether a deed is a milestone for its own agent. -/
def Deed.isMilestone : Deed V → Bool
  | asksToStop | reaches _ _ => false
  | _ => true

namespace World

variable {number : BirthNumber}

/-- A stride that does not break off adds what it does. -/
theorem milestones_stride (world : World V) {phase : Phase V}
    (calm : ∀ cause, (world.stride number phase).2 ≠ .finished (.panicked cause)) :
    milestones (world.strideEvents number number phase) =
      ((world.deeds number phase).filter Deed.isMilestone).map .does := by
  have unbroken : (world.stride number phase).2.panic? = none := by
    cases stood : (world.stride number phase).2 with
    | finished outcome =>
      cases outcome with
      | panicked cause => exact absurd stood (calm cause)
      | _ => rfl
    | _ => rfl
  have onlyDeeds : world.strideEvents number number phase =
      (world.deeds number phase).filterMap (Deed.event? number number) := by
    unfold strideEvents
    rw [if_pos rfl, unbroken]
    exact List.append_nil _
  rw [onlyDeeds]
  induction world.deeds number phase with
  | nil => rfl
  | cons deed rest ih =>
    cases deed with
    | reaches reached arrival =>
      simp only [List.filterMap_cons, Deed.event?]
      by_cases same : reached = number
      · simp only [if_pos same]
        exact ih
      · simp only [if_neg same]
        exact ih
    | asksToStop =>
      simp only [List.filterMap_cons, Deed.event?, if_pos]
      exact ih
    | _ =>
      simp only [List.filterMap_cons, Deed.event?, if_pos]
      exact congrArg (List.cons _) ih

/-- No cycle puts an agent into the schedule from outside. -/
theorem entries_stride (world : World V) (phase : Phase V) :
    (world.strideEvents number number phase).countP Event.isEntry = 0 := by
  rw [List.countP_eq_zero]
  intro event member
  rcases List.mem_append.mp member with byDeed | byPanic
  · obtain ⟨deed, _, equal⟩ := List.mem_filterMap.mp byDeed
    cases deed with
    | reaches reached arrival =>
      simp only [Deed.event?] at equal
      split at equal
      · cases equal
        exact Bool.false_ne_true
      · cases equal
    | _ =>
      simp only [Deed.event?, if_pos] at equal
      cases equal
      exact Bool.false_ne_true
  · rw [if_pos rfl] at byPanic
    obtain ⟨cause, -, rfl⟩ := List.mem_map.mp byPanic
    exact Bool.false_ne_true

/-- A stride in whose events nothing breaks does not end in a panic. -/
theorem calm_stride {world : World V} {phase : Phase V}
    (calm : ∀ cause, .breaks cause ∉ world.strideEvents number number phase) (cause : Panic) :
    (world.stride number phase).2 ≠ .finished (.panicked cause) := by
  intro panicked
  refine calm cause (List.mem_append_right _ ?_)
  rw [if_pos rfl, panicked]
  exact List.mem_singleton.mpr rfl

/-- An agent asks itself to stop by a plan or by what its cycle lets arrive. -/
theorem request_of_stride {world : World V} {phase : Phase V}
    (request : (world.strideEvents number number phase).any Event.isRequest = true) :
    .asksToStop ∈ world.deeds number phase ∨ .reaches number .stop ∈ world.deeds number phase := by
  obtain ⟨event, member, isRequest⟩ := List.any_eq_true.mp request
  rcases List.mem_append.mp member with byDeed | byPanic
  · obtain ⟨deed, done, equal⟩ := List.mem_filterMap.mp byDeed
    cases deed with
    | asksToStop => exact .inl done
    | reaches reached arrival =>
      simp only [Deed.event?] at equal
      split at equal
      · rename_i same
        subst same
        cases equal
        cases arrival with
        | stop => exact .inr done
        | _ => cases isRequest
      · cases equal
    | _ =>
      simp only [Deed.event?, if_pos] at equal
      cases equal
      cases isRequest
  · rw [if_pos rfl] at byPanic
    obtain ⟨cause, -, rfl⟩ := List.mem_map.mp byPanic
    cases isRequest

/-- Once it has begun, a cycle without shutdown plans only does what such cycles do. -/
theorem ordinary_deeds (world : World V) {phase : Phase V} (begun : phase ≠ .waking)
    (early : phase.isLate = false) :
    ∀ deed ∈ world.deeds number phase, deed.isMilestone = true →
      (Event.does deed).isOrdinary = true := by
  have arrives : ∀ deed : Deed V, deed.isArrival = true → deed.isMilestone = false := by
    intro deed arrives
    cases deed with
    | reaches => rfl
    | _ => cases arrives
  intro deed member milestone
  cases phase with
  | waking => exact absurd rfl begun
  | closing | parting => cases early
  | sweeping | finished => cases member
  | sensing inbox steps acts =>
    cases steps with
    | nil => cases member
    | cons category steps =>
      rw [List.mem_singleton.mp member]
      rfl
  | planning pending steps progress =>
    cases pending with
    | nil =>
      cases steps with
      | nil =>
        rw [arrives deed (effects_arrivals number progress.effects deed member)] at milestone
        cases milestone
      | cons step steps => cases step; cases member
    | cons active pending =>
      rw [List.mem_singleton.mp member]
      rfl
  | acting script finished active pending steps progress =>
    rcases List.mem_append.mp member with operation | aftermath
    · rcases mem_script_deeds operation with arrival | rfl | ⟨result, rfl⟩
      · rw [arrives deed arrival] at milestone
        cases milestone
      · cases milestone
      · rfl
    · cases script with
      | done result memory =>
        cases result with
        | ok action => cases aftermath
        | error cause =>
          rw [arrives deed (effects_arrivals number progress.effects deed aftermath)] at milestone
          cases milestone
      | _ => cases aftermath

/-- While a shutdown plan is executed there are no milestones. -/
theorem milestones_of_blocked {self : BirthNumber} {script rest : Script V} {turn after : Turn V}
    {wait : Wait} (blocked : script.advance self turn = .blocked after wait rest) :
    (script.deeds self turn.world).filter Deed.isMilestone = [] := by
  rw [List.filter_eq_nil_iff]
  intro deed member
  rcases mem_script_deeds member with arrival | rfl | ⟨result, rfl⟩
  · cases deed with
    | reaches => exact Bool.false_ne_true
    | _ => cases arrival
  · exact Bool.false_ne_true
  · cases script with
    | done => cases blocked
    | send message next => cases mailFrom_arrivals turn.world self message _ member
    | reach agent arrival next =>
      simp only [Script.deeds] at member
      split at member
      · cases member
      · cases List.mem_singleton.mp member
    | requestStop next => cases List.mem_singleton.mp member
    | _ => cases member

/-- An agent that retires clears the flags of all goals that it held or had plans for. -/
theorem retire_clears (world : World V) (number : BirthNumber) :
    (world.agent number).pursuits.filter (world.retire number).pursuit.isPursued = [] := by
  rw [List.filter_eq_nil_iff]
  intro goal member flagged
  have cleared : ((world.agent number).goals.foldl
      (fun pursuit handle => pursuit.set handle.id false)
        ((world.agent number).plans.foldl (fun pursuit active => active.release pursuit)
          world.pursuit)).isPursued goal = true := flagged
  rcases List.mem_append.mp member with held | planned
  · obtain ⟨handle, isHeld, rfl⟩ := List.mem_map.mp held
    exact notMem_of_isPursued_clearAll cleared handle isHeld rfl
  · obtain ⟨active, isActive, goalOf⟩ := List.mem_filterMap.mp planned
    obtain ⟨handle, isGoal, rfl⟩ := Option.map_eq_some_iff.mp goalOf
    have unpursued := (isPursued_releaseAll (isPursued_clearAll cleared)).2 active isActive
    exact unpursued ⟨handle, isGoal, rfl⟩

end World

end Deliberation
