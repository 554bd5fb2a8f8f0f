import Deliberation.Proofs.Discretion
import Deliberation.Proofs.Dispatch

/-!
# Cycles that go abreast

A cycle hops through the same states in twins (`World.Hops.paces`), and since its paces are
determined it halts in the same way (`World.Twin.cycle_abreast`). In a tick whose cycles are confined
to their own agents every cycle finds a twin of the world in which it would start alone
(`World.Dispatch.solos`).
-/

namespace Deliberation

open Relation

variable {V : Vocabulary}

/-- A cycle that waits is not over. -/
theorem Suspended.reached_ne_finished (suspended : Suspended V) (outcome : CycleOutcome V) :
    suspended.reached ≠ .finished outcome := by
  obtain ⟨agent, wait, script, finished, effects, actions, stage⟩ := suspended
  intro same
  cases stage <;> cases same

namespace World

/-! ## One cycle in twins -/

section

variable {own : GoalId → Prop} {number : BirthNumber} {world other next last : World V}

/-- Worlds that look alike to an agent look alike both ways. -/
theorem Alike.symm (alike : world.Alike own number other) : other.Alike own number world where
  inside := alike.otherInside
  otherInside := alike.inside
  agent := alike.agent.symm
  flags := fun goal isOwn => (alike.flags goal isOwn).symm
  entry := alike.agent ▸ alike.entry.symm
  gates := alike.gates.symm
  handles := alike.handles.symm

/-- Worlds that look like a third one to an agent look alike. -/
theorem Alike.trans (first : world.Alike own number other) (second : other.Alike own number last) :
    world.Alike own number last where
  inside := first.inside
  otherInside := second.otherInside
  agent := first.agent.trans second.agent
  flags := fun goal isOwn => (first.flags goal isOwn).trans (second.flags goal isOwn)
  entry := first.entry.trans (first.agent ▸ second.entry)
  gates := first.gates.trans second.gates
  handles := first.handles.trans second.handles

/-- A world is a twin of its twins. -/
theorem Twin.symm (twin : world.Twin own number other) : other.Twin own number world :=
  ⟨twin.toAlike.symm, twin.names.symm⟩

/-- The twins of a twin are twins. -/
theorem Twin.trans (first : world.Twin own number other) (second : other.Twin own number last) :
    world.Twin own number last :=
  ⟨first.toAlike.trans second.toAlike, first.names.trans second.names⟩

/-- A cycle stands at the same point in twins. -/
structure Abreast (own : GoalId → Prop) (number : BirthNumber) (state other : World V × Phase V) :
    Prop where
  twin : state.1.Twin own number other.1
  phase : state.2 = other.2

/-- One stride of a cycle that no closed gate holds up. -/
inductive Pace (number : BirthNumber) : World V × Phase V → World V × Phase V → Prop where
  | stride (world : World V) (phase : Phase V) (isOpen : phase.isOpen world.openGates = true) :
      Pace number (world, phase) (world.stride number phase)

/-- Any number of strides of a cycle that no closed gate holds up. -/
abbrev Paces (number : BirthNumber) : World V × Phase V → World V × Phase V → Prop :=
  ReflTransGen (Pace number)

/-- A cycle is over, or a closed gate holds it up. -/
def Rests (world : World V) (phase : Phase V) : Prop :=
  (∃ outcome, phase = .finished outcome) ∨ phase.isOpen world.openGates = false

variable {start state later : World V × Phase V}

/-- At each point there is one pace only, so a run of paces is determined. -/
theorem Pace.unique (number : BirthNumber) : Relator.RightUnique (Pace (V := V) number) := by
  rintro before first second ⟨_, _, _⟩ ⟨_, _, _⟩
  rfl

/-- Paces are hops. -/
theorem Paces.hops (paces : Paces number start state) : Hops number start state := by
  induction paces with
  | refl => exact .refl
  | tail _ pace ih =>
    cases pace with
    | stride world phase isOpen => exact ih.tail (.stride world phase isOpen)

/-- Where a cycle rests its paces lead nowhere. -/
theorem Paces.eq_of_rests (paces : Paces number state later) (rests : state.1.Rests state.2) :
    later = state := by
  induction paces with
  | refl => rfl
  | tail _ pace ih =>
    subst ih
    cases pace with
    | stride world phase isOpen =>
      rcases rests with ⟨outcome, finished⟩ | closed
      · simp only at finished
        subst finished
        rfl
      · exact absurd (isOpen.symm.trans closed) Bool.noConfusion

/-- A cycle comes to rest in one way only. -/
theorem Paces.unique (first : Paces number start state) (second : Paces number start later)
    (rests : state.1.Rests state.2) (alsoRests : later.1.Rests later.2) : state = later := by
  rcases ReflTransGen.total_of_right_unique (Pace.unique number) first second with on | back
  · exact (Paces.eq_of_rests on rests).symm
  · exact Paces.eq_of_rests back alsoRests

/-- A confined cycle goes through the same phases in twins, and touches nothing but its own. -/
theorem Hops.paces (hops : Hops number start state) {fellow : World V × Phase V}
    (abreast : Abreast own number start fellow)
    (confined : ∀ later, Hops number fellow later → later.1.Confined own number later.2) :
    ∃ later, Paces number fellow later ∧ Abreast own number state later ∧
      start.1.Beside own number state.1 := by
  induction hops with
  | refl => exact ⟨fellow, .refl, abreast, .refl own number _⟩
  | tail _ hop ih =>
    obtain ⟨⟨reached, _⟩, paces, ⟨twin, rfl⟩, beside⟩ := ih
    cases hop with
    | stride world phase isOpen =>
      have confinedHere := (confined _ paces.hops).alike twin.toAlike
      obtain ⟨phases, tandem⟩ := stride_tandem twin confinedHere
      refine ⟨reached.stride number phase, paces.tail (.stride reached phase ?_),
        ⟨tandem.twin, phases⟩, beside.trans tandem.beside⟩
      rw [← twin.gates]
      exact isOpen
    | elapse world phase clock =>
      exact ⟨(reached, phase), paces, ⟨{ twin with }, rfl⟩,
        beside.trans { Beside.refl own number world with }⟩

/-- Where a cycle halts there is no further pace. -/
theorem cycle_rests (world : World V) (number : BirthNumber) :
    (world.cycle number none).world.Rests (world.cycle number none).reached := by
  cases halted : world.cycle number none with
  | ended after outcome => exact .inl ⟨outcome, rfl⟩
  | blocked after suspended => exact .inr (cycle_closed halted)

/-- When a cycle rests, the one that goes abreast of it rests as well. -/
theorem Abreast.rests {fellow : World V × Phase V} (abreast : Abreast own number state fellow)
    (rests : state.1.Rests state.2) : fellow.1.Rests fellow.2 := by
  unfold Rests at rests ⊢
  rw [← abreast.phase, ← abreast.twin.gates]
  exact rests

/-- A confined cycle halts in the same way in twins. -/
theorem Twin.cycle_abreast (twin : world.Twin own number other) (keeps : other.Keeps own number) :
    Abreast own number ((world.cycle number none).world, (world.cycle number none).reached)
        ((other.cycle number none).world, (other.cycle number none).reached) ∧
      world.Beside own number (world.cycle number none).world := by
  have begins : Abreast own number (world, .waking) (other, .waking) := ⟨twin, rfl⟩
  have beginsAlone : Abreast own number (other, .waking) (other, .waking) :=
    ⟨twin.symm.trans twin, rfl⟩
  obtain ⟨first, paces, abreast, beside⟩ := (world.cycle_hops number none).paces begins keeps
  obtain ⟨second, others, fellow, _⟩ := (other.cycle_hops number none).paces beginsAlone keeps
  obtain rfl := Paces.unique paces others (abreast.rests (world.cycle_rests number))
    (fellow.rests (other.cycle_rests number))
  exact ⟨⟨abreast.twin.trans fellow.twin.symm, abreast.phase.trans fellow.phase.symm⟩, beside⟩

/-- A confined cycle ends in twins together. -/
theorem Twin.cycle_ended {outcome : CycleOutcome V} (twin : world.Twin own number other)
    (keeps : other.Keeps own number) (ended : world.cycle number none = .ended next outcome) :
    ∃ lone, other.cycle number none = .ended lone outcome ∧
      Tandem own number world next lone := by
  obtain ⟨⟨twins, phases⟩, beside⟩ := twin.cycle_abreast keeps
  rw [ended] at twins phases beside
  cases halted : other.cycle number none with
  | ended lone alone =>
    rw [halted] at twins phases
    cases phases
    exact ⟨lone, rfl, twins, beside⟩
  | blocked lone suspended =>
    rw [halted] at phases
    exact absurd phases.symm (Suspended.reached_ne_finished _ _)

/-- A confined cycle waits in twins together. -/
theorem Twin.cycle_blocked {suspended : Suspended V} (twin : world.Twin own number other)
    (keeps : other.Keeps own number) (blocked : world.cycle number none = .blocked next suspended) :
    ∃ lone waiting, other.cycle number none = .blocked lone waiting := by
  obtain ⟨⟨_, phases⟩, _⟩ := twin.cycle_abreast keeps
  rw [blocked] at phases
  cases halted : other.cycle number none with
  | ended lone outcome =>
    rw [halted] at phases
    exact absurd phases (Suspended.reached_ne_finished _ _)
  | blocked lone waiting => exact ⟨lone, waiting, rfl⟩

end

/-! ## The cycles of a tick -/

section

variable {uses : BirthNumber → GoalId → Prop} {base world after : World V}
  {units : List BirthNumber} {outcomes : List (BirthNumber × CycleOutcome V)}

/-- Two agents have nothing in common. -/
structure Strangers (uses : BirthNumber → GoalId → Prop) (base : World V)
    (number other : BirthNumber) : Prop where
  different : number ≠ other
  ids : (base.agent number).id ≠ (base.agent other).id
  goals : ∀ goal, uses number goal → ¬ uses other goal

/-- An agent is a stranger to its strangers. -/
theorem Strangers.symm {number other : BirthNumber} (strangers : Strangers uses base number other) :
    Strangers uses base other number where
  different := strangers.different.symm
  ids := strangers.ids.symm
  goals := fun goal otherUses numberUses => strangers.goals goal numberUses otherUses

/-- Cycles of agents, one after the other, each of which ends as it does in a world in which the
agent is alone with the names that are there at its turn. -/
inductive Solos (uses : BirthNumber → GoalId → Prop) (base : World V) :
    World V → List BirthNumber → World V → List (BirthNumber × CycleOutcome V) → Prop where
  | nil (world : World V) : Solos uses base world [] world []
  | cons {world next lone after : World V} {number : BirthNumber} {rest : List BirthNumber}
      {outcome : CycleOutcome V} {outcomes : List (BirthNumber × CycleOutcome V)}
      (begins : world.Alike (uses number) number base)
      (ran : world.cycle number none = .ended next outcome)
      (alone : ({ base with names := world.names } : World V).cycle number none =
        .ended lone outcome)
      (tandem : Tandem (uses number) number world next lone)
      (others : Solos uses base next rest after outcomes) :
      Solos uses base world (number :: rest) after ((number, outcome) :: outcomes)

/-- What a cycle leaves alone stays as it was for every stranger. -/
theorem Beside.strangers {number stranger : BirthNumber} {next lone : World V}
    (beside : world.Beside (uses number) number next)
    (begins : world.Alike (uses number) number base)
    (strangers : Strangers uses base stranger number)
    (known : (world.agent stranger).id = (base.agent stranger).id)
    (alike : world.Alike (uses stranger) stranger lone) :
    next.Alike (uses stranger) stranger lone := by
  refine beside.alike alike strangers.different ?_ strangers.goals
  rw [known, begins.agent]
  exact strangers.ids

/-- In a tick of agents that keep to themselves each cycle ends as it does alone. -/
theorem Dispatch.solos (dispatch : Dispatch world units after outcomes)
    (apart : units.Pairwise (Strangers uses base))
    (alike : ∀ number ∈ units, world.Alike (uses number) number base)
    (keeps : ∀ number ∈ units, ∀ names, Keeps (uses number) { base with names } number) :
    Solos uses base world units after outcomes := by
  induction dispatch with
  | nil world => exact .nil world
  | @cons world next after number rest outcome outcomes ran _ ih =>
    obtain ⟨strangers, restApart⟩ := List.pairwise_cons.mp apart
    have begins := alike number List.mem_cons_self
    have twin : world.Twin (uses number) number { base with names := world.names } :=
      { begins with names := rfl }
    obtain ⟨lone, alone, tandem⟩ := twin.cycle_ended (keeps number List.mem_cons_self _) ran
    refine .cons begins ran alone tandem (ih restApart ?_ ?_)
    · intro other member
      have still := alike other (List.mem_cons_of_mem _ member)
      exact tandem.beside.strangers begins (strangers other member).symm
        (congrArg Agent.id still.agent) still
    · exact fun other member => keeps other (List.mem_cons_of_mem _ member)

/-- To a stranger of all units nothing happens. -/
theorem Solos.alike (solos : Solos uses base world units after outcomes) {stranger : BirthNumber}
    {lone : World V} (strangers : ∀ number ∈ units, Strangers uses base stranger number)
    (known : (world.agent stranger).id = (base.agent stranger).id)
    (alike : world.Alike (uses stranger) stranger lone) :
    after.Alike (uses stranger) stranger lone := by
  induction solos with
  | nil => exact alike
  | @cons world next _ after number rest outcome outcomes begins _ _ tandem _ ih =>
    have here := strangers number List.mem_cons_self
    refine ih (fun other member => strangers other (List.mem_cons_of_mem _ member)) ?_
      (tandem.beside.strangers begins here known alike)
    rw [tandem.beside.agent _ here.different]
    exact known

/-- What belongs to none of the units stays as it was. -/
structure Untouched (uses : BirthNumber → GoalId → Prop) (base : World V)
    (units : List BirthNumber) (before after : World V) : Prop where
  agent : ∀ number ∉ units, after.agent number = before.agent number
  flags : ∀ goal, (∀ number ∈ units, ¬ uses number goal) →
    after.pursuit.isPursued goal = before.pursuit.isPursued goal
  entry : ∀ id, (∀ number ∈ units, (base.agent number).id ≠ id) →
    after.executor.schedule.find? id = before.executor.schedule.find? id

/-- Cycles that run alone leave alone what belongs to the others. -/
theorem Solos.untouched (solos : Solos uses base world units after outcomes) :
    Untouched uses base units world after := by
  induction solos with
  | nil => exact ⟨fun _ _ => rfl, fun _ _ => rfl, fun _ _ => rfl⟩
  | @cons world next _ after number rest outcome outcomes begins _ _ tandem _ ih =>
    refine ⟨fun other notMember => ?_, fun goal unused => ?_, fun id foreign => ?_⟩
    · obtain ⟨different, notBehind⟩ := not_or.mp (List.mem_cons.not.mp notMember)
      exact (ih.agent other notBehind).trans (tandem.beside.agent other different)
    · obtain ⟨notHere, notBehind⟩ := List.forall_mem_cons.mp unused
      exact (ih.flags goal notBehind).trans (tandem.beside.flags goal notHere)
    · obtain ⟨notHere, notBehind⟩ := List.forall_mem_cons.mp foreign
      rw [← begins.agent] at notHere
      exact (ih.entry id notBehind).trans (tandem.beside.entry id notHere.symm)

/-- The names that are there when the turn of a unit has come. -/
def Finds (world : World V) (units : List BirthNumber) (number : BirthNumber) (names : NameBook) :
    Prop :=
  ∃ ran rest middle outcomes, units = ran ++ number :: rest ∧
    Dispatch world ran middle outcomes ∧ middle.names = names

/-- Each of the cycles ended as it does alone, and at the end its agent is as it was then. -/
theorem Solos.alone (solos : Solos uses base world units after outcomes)
    (apart : units.Pairwise (Strangers uses base)) {number : BirthNumber}
    {outcome : CycleOutcome V} (member : (number, outcome) ∈ outcomes) :
    ∃ names lone, world.Finds units number names ∧
      ({ base with names } : World V).cycle number none = .ended lone outcome ∧
      after.Alike (uses number) number lone := by
  induction solos with
  | nil => cases member
  | @cons world next lone after head rest came outcomes begins ran alone tandem others ih =>
    obtain ⟨strangers, restApart⟩ := List.pairwise_cons.mp apart
    rcases List.mem_cons.mp member with here | behind
    · cases here
      have known : (next.agent number).id = (base.agent number).id :=
        tandem.beside.id.trans (congrArg Agent.id begins.agent)
      have still := others.alike strangers known tandem.twin.toAlike
      exact ⟨world.names, lone, ⟨[], rest, world, [], rfl, .nil world, rfl⟩, alone, still⟩
    · obtain ⟨names, lone, ⟨before, later, middle, came, split, dispatch, found⟩, alone, alike⟩ :=
        ih restApart behind
      exact ⟨names, lone, ⟨head :: before, later, middle, _, by rw [split]; rfl,
        .cons ran dispatch, found⟩, alone, alike⟩

end

end World

end Deliberation
