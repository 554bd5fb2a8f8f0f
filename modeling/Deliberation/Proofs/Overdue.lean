import Deliberation.Proofs.Overtime

/-!
# Cycles that the executor keeps

Between ticks the executor of a world keeps the cycles that former ticks have abandoned. They go on
when time passes, when a gate opens and when a tick waits for a worker. A `Shift` whose cycles in
progress are those that the executor keeps (`Shift.Mirrored`) makes the steps of such a wait, and of
each unit of a tick: it begins or is passed over, runs until it ends, waits or is overdue, and is
accounted for.
-/

namespace Deliberation

open Relation

variable {V : Vocabulary}

/-! ## Overdue cycles -/

/-- What is known of a cycle in progress. -/
def Worker.note (worker : Worker V) : AgentId × BirthNumber × Bool × Phase V :=
  (worker.id, worker.number, worker.overdue, worker.phase)

/-- What is known of a cycle that was abandoned. -/
def Abandoned.note (record : Abandoned V) : AgentId × BirthNumber × Bool × Phase V :=
  (record.id, record.cycle.agent, true, record.cycle.phase)

section

variable {front back : List (Abandoned V)} {record : Abandoned V}

/-- Taking a record out by its identity leaves the others. -/
theorem filter_others (others : ∀ other ∈ front ++ back, other.id ≠ record.id) :
    (front ++ record :: back).filter (·.id != record.id) = front ++ back := by
  rw [List.filter_append, List.filter_cons, if_neg (by simp), ← List.filter_append,
    List.filter_eq_self]
  exact fun other among => bne_iff_ne.mpr (others other among)

/-- Updating a record by its identity leaves the others. -/
theorem map_others (others : ∀ other ∈ front ++ back, other.id ≠ record.id)
    (cycle : Suspended V) :
    (front ++ record :: back).map
        (fun other => if other.id == record.id then { other with cycle } else other) =
      front ++ { record with cycle } :: back := by
  have same : ∀ other ∈ front ++ back,
      (if other.id == record.id then { other with cycle } else other) = other :=
    fun other among => if_neg (by simpa using others other among)
  rw [List.map_append, List.map_cons, if_pos (beq_self_eq_true _),
    List.map_congr_left fun other among => same other (List.mem_append_left _ among),
    List.map_congr_left fun other among => same other (List.mem_append_right _ among),
    List.map_id', List.map_id']

end

namespace Shift

variable {shift next : Shift V} {world later : World V} {poolSize : Nat} {id : AgentId}
  {number : BirthNumber}

/-- Steps keep a shift sound. -/
theorem Steps.sound (steps : Steps shift next) (sound : Sound poolSize shift) :
    Sound poolSize next := by
  induction steps with
  | refl => exact sound
  | tail _ step ih => exact step.sound ih

/-- While one cycle makes its strides, the others may stand still. -/
theorem of_strides (shift : Shift V) (worker : Worker V) {start stop : World V × Phase V}
    (strides : World.Strides worker.number start stop) (before behind : List (Worker V)) :
    Steps
      { shift with
        world := start.1, working := before ++ { worker with phase := start.2 } :: behind }
      { shift with
        world := stop.1, working := before ++ { worker with phase := stop.2 } :: behind } := by
  induction strides with
  | refl => exact .refl
  | tail _ stride ih =>
    refine ih.tail ?_
    cases stride with
    | stride world phase =>
      exact @Step.stride _
        { shift with world, working := before ++ { worker with phase } :: behind } _ _ _ rfl
    | elapse world phase clock =>
      exact .around
        { shift with world, working := before ++ { worker with phase } :: behind } (.congr rfl rfl)

/-- All cycles in progress are overdue, and the executor has noted how far they have come. -/
structure Mirrored (poolSize : Nat) (shift : Shift V) : Prop extends Sound poolSize shift where
  notes : shift.working.map Worker.note = shift.world.executor.abandoned.map Abandoned.note

/-- The world goes on to another one with what overdue cycles do. -/
def Passes (poolSize : Nat) (shift : Shift V) (world : World V) : Prop :=
  ∃ working, Steps shift { shift with world, working } ∧
    Mirrored poolSize { shift with world, working }

/-- Steps that end with the cycles of the executor take the shift to their world. -/
theorem Passes.of_steps (sound : Sound poolSize shift) (working : List (Worker V))
    (steps : Steps shift { shift with world, working })
    (notes : working.map Worker.note = world.executor.abandoned.map Abandoned.note) :
    Passes poolSize shift world :=
  ⟨working, steps, Steps.sound steps sound, notes⟩

/-- A shift passes from world to world. -/
theorem Passes.trans (passes : Passes poolSize shift world)
    (further : ∀ working, Mirrored poolSize { shift with world, working } →
      Passes poolSize { shift with world, working } later) : Passes poolSize shift later := by
  obtain ⟨working, before, mirrored⟩ := passes
  obtain ⟨last, behind, final⟩ := further working mirrored
  exact ⟨last, before.trans behind, final⟩

namespace Mirrored

/-- A shift may stay in its world. -/
theorem refl (mirrored : Mirrored poolSize shift) : Passes poolSize shift shift.world :=
  ⟨shift.working, .refl, mirrored⟩

/-- A shift that mirrors the executor passes to what happens around it. -/
theorem around (mirrored : Mirrored poolSize shift) (around : shift.world.Around world) :
    Passes poolSize shift world := by
  refine ⟨shift.working, .single (.around shift around), mirrored.toSound.around around, ?_⟩
  rw [around.abandoned]
  exact mirrored.notes

/-- A shift that mirrors the executor lets time pass. -/
theorem elapse (mirrored : Mirrored poolSize shift) (clock : Nat) :
    Passes poolSize shift { shift.world with clock } :=
  mirrored.around (.congr rfl rfl)

/-- No agent has two abandoned cycles. -/
theorem distinct (mirrored : Mirrored poolSize shift) :
    (shift.world.executor.abandoned.map Abandoned.id).Nodup := by
  have same : shift.badges.map Badge.id = shift.world.executor.abandoned.map Abandoned.id := by
    have ids := congrArg (List.map Prod.fst) mirrored.notes
    rw [List.map_map, List.map_map] at ids
    rw [badges, List.map_map]
    exact ids
  exact same ▸ mirrored.apart

/-- The executor keeps as many cycles as are in progress. -/
theorem length (mirrored : Mirrored poolSize shift) :
    shift.working.length = shift.world.executor.abandoned.length := by
  have lengths := congrArg List.length mirrored.notes
  rwa [List.length_map, List.length_map] at lengths

/-- An overdue cycle goes on until it returns or waits again. -/
theorem proceed (mirrored : Mirrored poolSize shift) {record : Abandoned V}
    (member : record ∈ shift.world.executor.abandoned) :
    Passes poolSize shift (shift.world.proceed record) := by
  obtain ⟨front, back, listed⟩ := List.append_of_mem member
  have notes := mirrored.notes
  rw [listed, List.map_append, List.map_cons] at notes
  obtain ⟨before, rest, working, front_eq, rest_eq⟩ := List.map_eq_append_iff.mp notes
  obtain ⟨worker, behind, rfl, worker_eq, back_eq⟩ := List.map_eq_cons_iff.mp rest_eq
  obtain ⟨named, numbered, overdue, reached⟩ : worker.id = record.id ∧
      worker.number = record.cycle.agent ∧ worker.overdue = true ∧
        worker.phase = record.cycle.phase := by
    simpa [Worker.note, Abandoned.note] using worker_eq
  have others : ∀ other ∈ front ++ back, other.id ≠ record.id := by
    have distinct := mirrored.distinct
    rw [listed, (List.perm_middle.map Abandoned.id).nodup_iff, List.map_cons,
      List.nodup_cons] at distinct
    exact fun other among equal => distinct.1 (equal ▸ List.mem_map_of_mem among)
  have strides := shift.world.resume_strides record.cycle none
  have abandoned := strides.moves.frame.abandoned.trans listed
  rw [← numbered] at strides
  have going := shift.of_strides worker strides before behind
  have start : { worker with phase := record.cycle.phase } = worker := by rw [← reached]
  rw [start, ← working] at going
  unfold World.proceed
  cases halted : shift.world.resume record.cycle none with
  | ended after outcome =>
    rw [halted] at going abandoned
    refine .of_steps mirrored.toSound (before ++ behind) ?_ ?_
    · have released := going.tail (.deed (.release _ rfl overdue rfl))
      rw [← named]
      exact released
    · change _ = (after.executor.abandoned.filter (·.id != record.id)).map Abandoned.note
      change after.executor.abandoned = _ at abandoned
      rw [abandoned, filter_others others, List.map_append, List.map_append, front_eq, back_eq]
  | blocked after cycle =>
    rw [halted] at going abandoned
    refine .of_steps mirrored.toSound (before ++ { worker with phase := cycle.phase } :: behind)
      (going.tail (.deed (.record _ record.id cycle))) ?_
    change _ = (after.executor.abandoned.map _).map Abandoned.note
    change after.executor.abandoned = _ at abandoned
    have numbers : cycle.agent = worker.number := (World.resume_waits halted).agent.trans numbered.symm
    rw [abandoned, map_others others, List.map_append, List.map_append, List.map_cons,
      List.map_cons, front_eq, back_eq]
    simp only [Worker.note, Abandoned.note, named, numbers, overdue]

/-- An overdue cycle goes on later. -/
theorem awaken (mirrored : Mirrored poolSize shift) (clock : Nat) {record : Abandoned V}
    (member : record ∈ shift.world.executor.abandoned) :
    Passes poolSize shift ({ shift.world with clock }.proceed record) :=
  (mirrored.elapse clock).trans fun _ later => later.proceed member

/-- While an overdue cycle goes on, the others stay as they are. -/
theorem mem_proceed {record other : Abandoned V} (member : other ∈ world.executor.abandoned)
    (different : other.id ≠ record.id) : other ∈ (world.proceed record).executor.abandoned := by
  have frame := (world.resume_strides record.cycle none).moves.frame
  unfold World.proceed
  cases halted : world.resume record.cycle none with
  | ended after outcome =>
    rw [halted] at frame
    have kept : other ∈ after.executor.abandoned := frame.abandoned ▸ member
    exact List.mem_filter.mpr ⟨kept, bne_iff_ne.mpr different⟩
  | blocked after cycle =>
    rw [halted] at frame
    have kept : other ∈ after.executor.abandoned := frame.abandoned ▸ member
    exact List.mem_map.mpr ⟨other, kept, if_neg (by simpa using different)⟩

/-- Several overdue cycles go on, one after the other. -/
theorem proceedAll {α : Type} (go : World V → α → World V) (record : α → Abandoned V)
    (clock : World V → α → Nat)
    (goes : ∀ world item,
      go world item = { world with clock := clock world item }.proceed (record item))
    (items : List α) (distinct : (items.map fun item => (record item).id).Nodup)
    (mirrored : Mirrored poolSize shift)
    (members : ∀ item ∈ items, record item ∈ shift.world.executor.abandoned) :
    Passes poolSize shift (items.foldl go shift.world) := by
  induction items generalizing shift with
  | nil => exact mirrored.refl
  | cons item rest ih =>
    rw [List.map_cons, List.nodup_cons] at distinct
    rw [List.foldl_cons, goes]
    have once := mirrored.awaken (clock shift.world item) (members item List.mem_cons_self)
    refine once.trans fun working later => ih distinct.2 later fun other among => ?_
    refine mem_proceed (members other (List.mem_cons_of_mem _ among)) fun same => ?_
    exact distinct.1 (same ▸ List.mem_map_of_mem among)

/-- A sleeper is one of the abandoned cycles. -/
theorem mem_sleepers {sleeper : Nat × Abandoned V} (member : sleeper ∈ world.sleepers) :
    sleeper.2 ∈ world.executor.abandoned := by
  unfold World.sleepers at member
  have sleeps := (List.mergeSort_perm _ _).mem_iff.mp member
  obtain ⟨record, listed, found⟩ := List.mem_filterMap.mp sleeps
  split at found
  · cases found
    exact listed
  · cases found

/-- No agent has two sleepers. -/
theorem sleepers_distinct (distinct : (world.executor.abandoned.map Abandoned.id).Nodup) :
    (world.sleepers.map fun sleeper => sleeper.2.id).Nodup := by
  unfold World.sleepers
  rw [((List.mergeSort_perm _ _).map _).nodup_iff]
  unfold List.Nodup at distinct ⊢
  rw [List.pairwise_map] at distinct ⊢
  rw [List.pairwise_filterMap]
  refine distinct.imp fun {first second} different => ?_
  intro former formerFound latter latterFound
  split at formerFound <;> cases formerFound
  split at latterFound <;> cases latterFound
  exact different

/-- Time passes. -/
theorem advance (mirrored : Mirrored poolSize shift) (moment : Nat) :
    Passes poolSize shift (shift.world.advance moment) := by
  have awoken := proceedAll World.awaken Prod.snd (fun world sleeper => max world.clock sleeper.1)
    (fun _ _ => rfl) (shift.world.sleepers.filter (·.1 ≤ moment))
    ((List.filter_sublist.map _).nodup (sleepers_distinct mirrored.distinct)) mirrored
    fun sleeper member => mem_sleepers (List.mem_filter.mp member).1
  exact awoken.trans fun _ later => later.elapse _

/-- A gate opens. -/
theorem openGate (mirrored : Mirrored poolSize shift) (gate : String) :
    Passes poolSize shift (shift.world.openGate gate) := by
  have opened : Passes poolSize shift
      { shift.world with openGates := gate :: shift.world.openGates } :=
    mirrored.around (.congr rfl rfl)
  refine opened.trans fun working later => ?_
  exact proceedAll World.proceed id (fun world _ => world.clock) (fun _ _ => rfl)
    (shift.world.executor.abandoned.filter (·.cycle.wait == .gate gate))
    ((List.filter_sublist.map _).nodup mirrored.distinct) later
    fun record member => (List.mem_filter.mp member).1

/-- A worker is waited for. -/
theorem freeWorker (mirrored : Mirrored poolSize shift)
    (free : shift.world.freeWorker = some world) :
    Passes poolSize shift world ∧
      world.executor.abandoned.length < world.executor.poolSize := by
  unfold World.freeWorker at free
  generalize shift.world.executor.abandoned.length = steps at free
  induction steps generalizing shift with
  | zero =>
    unfold World.freeWorkerWithin at free
    split at free
    · cases free
      exact ⟨mirrored.refl, ‹_›⟩
    · cases free
  | succ steps ih =>
    unfold World.freeWorkerWithin at free
    split at free
    · cases free
      exact ⟨mirrored.refl, ‹_›⟩
    · split at free
      · rename_i further sleeper rest equal listed
        cases equal
        have member : sleeper ∈ shift.world.sleepers := listed ▸ List.mem_cons_self
        obtain ⟨working, steps, later⟩ :=
          mirrored.awaken (max shift.world.clock sleeper.1) (mem_sleepers member)
        obtain ⟨⟨last, further, final⟩, short⟩ := ih later free
        exact ⟨⟨last, steps.trans further, final⟩, short⟩
      · cases free

end Mirrored

/-! ## Units -/

/-- The board is as before but for one unit. -/
def Marked (shift next : Shift V) (id : AgentId) (number : BirthNumber) (state : UnitState V) :
    Prop :=
  ∀ other, next.board.find? other =
    if other = id then some (number, state) else shift.board.find? other

/-- The units that are not accounted for, and where they stand. -/
structure Docket (shift : Shift V) (entries : List (BirthNumber × UnitState V)) : Prop where
  listed : ∀ id number state, shift.Stands id number state →
    (number, state) ∈ entries ∨ ∃ slot, state = .settled slot
  stands : ∀ entry ∈ entries, ∃ id, shift.Stands id entry.1 entry.2
  alone : (entries.map Prod.fst).Nodup

namespace Docket

variable {entries others rest : List (BirthNumber × UnitState V)} {state held : UnitState V}

/-- The order of the units on a docket does not matter. -/
theorem perm (docket : shift.Docket entries) (permuted : entries.Perm others) :
    shift.Docket others where
  listed := fun id number state stands =>
    (docket.listed id number state stands).imp_left permuted.mem_iff.mp
  stands := fun entry member => docket.stands entry (permuted.mem_iff.mpr member)
  alone := (permuted.map _).nodup_iff.mp docket.alone

/-- The other units stand where they stood. -/
theorem remain (docket : shift.Docket ((number, held) :: rest))
    (stood : shift.Stands id number held) (marked : Marked shift next id number state)
    {entry : BirthNumber × UnitState V} (member : entry ∈ rest) :
    ∃ other, next.Stands other entry.1 entry.2 := by
  obtain ⟨other, stands⟩ := docket.stands entry (List.mem_cons_of_mem _ member)
  refine ⟨other, (marked other).trans ?_⟩
  rw [if_neg, stands]
  rintro rfl
  have same := (stood.unique stands).1
  have alone := docket.alone
  rw [List.map_cons, List.nodup_cons] at alone
  exact alone.1 (List.mem_map.mpr ⟨entry, member, same.symm⟩)

/-- What stands elsewhere has stood there before. -/
theorem former (sound : Sound poolSize shift) (docket : shift.Docket ((number, held) :: rest))
    (stood : shift.Stands id number held) (marked : Marked shift next id number state)
    {other : AgentId} {reached : BirthNumber} {later : UnitState V}
    (stands : next.Stands other reached later) :
    (reached = number ∧ later = state) ∨ (reached, later) ∈ rest ∨
      ∃ slot, later = .settled slot := by
  have found := (marked other).symm.trans stands
  split at found
  · simp only [Option.some.injEq, Prod.mk.injEq] at found
    exact .inl ⟨found.1.symm, found.2.symm⟩
  · rename_i different
    rcases docket.listed other reached later found with entry | settled
    · rcases List.mem_cons.mp entry with same | among
      · simp only [Prod.mk.injEq] at same
        rw [same.1] at found
        refine absurd ?_ different
        rw [← (sound.listed _ _ _ found).2, ← (sound.listed _ _ _ stood).2]
      · exact .inr (.inl among)
    · exact .inr (.inr settled)

/-- A unit gets somewhere else. -/
theorem move (sound : Sound poolSize shift) (docket : shift.Docket ((number, held) :: rest))
    (stood : shift.Stands id number held) (marked : Marked shift next id number state) :
    next.Docket ((number, state) :: rest) where
  listed := by
    intro other reached later stands
    rcases docket.former sound stood marked stands with ⟨rfl, rfl⟩ | among | settled
    · exact .inl List.mem_cons_self
    · exact .inl (List.mem_cons_of_mem _ among)
    · exact .inr settled
  stands := by
    intro entry member
    rcases List.mem_cons.mp member with rfl | among
    · exact ⟨id, (marked id).trans (if_pos rfl)⟩
    · exact docket.remain stood marked among
  alone := docket.alone

/-- A unit is accounted for. -/
theorem settle (sound : Sound poolSize shift) (docket : shift.Docket ((number, held) :: rest))
    (stood : shift.Stands id number held) {slot : Slot V}
    (marked : Marked shift next id number (.settled slot)) : next.Docket rest where
  listed := by
    intro other reached later stands
    rcases docket.former sound stood marked stands with ⟨rfl, rfl⟩ | among | settled
    · exact .inr ⟨slot, rfl⟩
    · exact .inl among
    · exact .inr settled
  stands := fun entry member => docket.remain stood marked member
  alone := (List.nodup_cons.mp docket.alone).2

/-- The tick does not wait for a cycle any more when all units have got on. -/
theorem joined (docket : shift.Docket entries)
    (settled : ∀ entry ∈ entries, entry.2 ≠ .waiting ∧ entry.2 ≠ .working) : shift.Joined := by
  intro id number
  constructor <;> intro stands <;> rcases docket.listed _ _ _ stands with among | ⟨_, settled⟩
  · exact (settled _ among).1 rfl
  · cases settled
  · exact (settled _ among).2 rfl
  · cases settled

end Docket

/-- Moving a unit marks it. -/
theorem marked_mark (shift : Shift V) (id : AgentId) (number : BirthNumber)
    (state : UnitState V) : Marked shift (shift.mark id number state) id number state :=
  fun other => AgentIndex.find?_insert shift.board id other (number, state)

/-- A unit that is marked twice stands where it was put last. -/
theorem Marked.again {middle : Shift V} {state held : UnitState V}
    (first : Marked shift middle id number held) (second : Marked middle next id number state) :
    Marked shift next id number state := by
  intro other
  rw [second, first]
  split <;> rfl

/-- Some steps of a tick. -/
structure Reaches (poolSize : Nat) (shift next : Shift V) : Prop where
  steps : Steps shift next
  mirrored : Mirrored poolSize next
  opened : next.opened = shift.opened
  history : next.history = shift.history
  ticking : next.ticking = shift.ticking

/-- Steps of a tick follow one another. -/
theorem Reaches.trans {middle : Shift V} (before : Reaches poolSize shift middle)
    (after : Reaches poolSize middle next) : Reaches poolSize shift next where
  steps := before.steps.trans after.steps
  mirrored := after.mirrored
  opened := after.opened.trans before.opened
  history := after.history.trans before.history
  ticking := after.ticking.trans before.ticking

/-- A cycle that has just begun. -/
def recruit (shift : Shift V) (id : AgentId) (number : BirthNumber) : Worker V :=
  { id, number, overdue := false, tick := shift.history.length, phase := .waking }

namespace Mirrored

/-- A cycle begins on a free worker and goes on until it ends or waits. -/
theorem begun (mirrored : Mirrored poolSize shift) (ticking : shift.ticking = true)
    (waiting : shift.Stands id number .waiting)
    (short : shift.world.executor.abandoned.length < shift.world.executor.poolSize)
    (deadline : Option Nat) :
    Steps shift
      { shift.start id number with
        world := (shift.world.cycle number deadline).world
        working := shift.working ++
          [{ recruit shift id number with phase := (shift.world.cycle number deadline).phase }] } :=
  .head (.deed (.start shift ticking waiting (mirrored.length.trans_lt short)))
    ((shift.start id number).of_strides (recruit shift id number)
      (shift.world.cycle_strides number deadline) shift.working [])

variable {after : World V} {deadline : Option Nat}

/-- A cycle that ends within the tick is known to have ended. -/
theorem cycle_ended {outcome : CycleOutcome V} (mirrored : Mirrored poolSize shift)
    (ticking : shift.ticking = true) (waiting : shift.Stands id number .waiting)
    (short : shift.world.executor.abandoned.length < shift.world.executor.poolSize)
    (ended : shift.world.cycle number deadline = .ended after outcome) :
    ∃ next, Reaches poolSize shift next ∧ next.world = after ∧ next.results = shift.results ∧
      Marked shift next id number (.known (.ended outcome)) := by
  have frame := (shift.world.cycle_moves number deadline).frame
  have begun := mirrored.begun ticking waiting short deadline
  rw [ended] at begun frame
  have steps := begun.tail (.deed (.finish _ rfl rfl rfl))
  refine ⟨_, ⟨steps, ⟨Steps.sound steps mirrored.toSound, ?_⟩, rfl, rfl, rfl⟩, rfl, rfl, ?_⟩
  · change (shift.working ++ []).map Worker.note = after.executor.abandoned.map Abandoned.note
    have abandoned : after.executor.abandoned = _ := frame.abandoned
    rw [List.append_nil, abandoned, mirrored.notes]
  · exact (marked_mark shift id number .working).again (marked_mark _ id number _)

/-- A cycle that is still waiting at its deadline is kept, and known as timed out. -/
theorem cycle_blocked {suspended : Suspended V} (mirrored : Mirrored poolSize shift)
    (ticking : shift.ticking = true) (waiting : shift.Stands id number .waiting)
    (short : shift.world.executor.abandoned.length < shift.world.executor.poolSize)
    (timed : shift.world.executor.unitTimeout.isSome = true)
    (blocked : shift.world.cycle number deadline = .blocked after suspended) :
    ∃ next, Reaches poolSize shift next ∧ next.world = after.abandon suspended ∧
      next.results = shift.results ∧ Marked shift next id number (.known .timedOut) := by
  have frame := (shift.world.cycle_moves number deadline).frame
  have begun := mirrored.begun ticking waiting short deadline
  rw [blocked] at begun frame
  have same := (World.cycle_waits blocked).agent
  have steps := begun.tail (.deed (.lapse _ rfl rfl (frame.unitTimeout ▸ timed) suspended same))
  refine ⟨_, ⟨steps, ⟨Steps.sound steps mirrored.toSound, ?_⟩, rfl, rfl, rfl⟩, rfl, rfl, ?_⟩
  · have abandoned : after.executor.abandoned = _ := frame.abandoned
    have named : (after.agent number).id = id :=
      (frame.id number).trans (mirrored.listed _ _ _ waiting).2
    change (shift.working ++ [_]).map Worker.note =
      (after.executor.abandoned ++ [_]).map Abandoned.note
    rw [abandoned, List.map_append, List.map_append, mirrored.notes]
    simp only [List.map_cons, List.map_nil, Worker.note, Abandoned.note, same, CycleHalt.world,
      CycleHalt.phase, named, recruit]
  · exact (marked_mark shift id number .working).again (marked_mark _ id number _)

/-- A cycle is run on a worker, until it ends or its deadline is over. -/
theorem runUnit {outcome : World.UnitOutcome V} {rest : List (BirthNumber × UnitState V)}
    (mirrored : Mirrored poolSize shift) (ticking : shift.ticking = true)
    (docket : shift.Docket ((number, .waiting) :: rest))
    (ran : shift.world.runUnit number = some (world, outcome)) :
    ∃ next, Reaches poolSize shift next ∧ next.world = world ∧ next.results = shift.results ∧
      next.Docket ((number, .known outcome) :: rest) := by
  obtain ⟨id, waiting⟩ := docket.stands _ List.mem_cons_self
  simp only [World.runUnit, Option.bind_eq_bind] at ran
  obtain ⟨middle, free, ran⟩ := Option.bind_eq_some_iff.mp ran
  obtain ⟨⟨working, waited, ready⟩, short⟩ := mirrored.freeWorker free
  have waiting : ({ shift with world := middle, working } : Shift V).Stands id number .waiting :=
    waiting
  have passes : ∀ {halted : Shift V} {moment : Nat},
      Reaches poolSize { shift with world := middle, working } halted →
      halted.results = shift.results → Marked shift halted id number (.known outcome) →
      ∃ next, Reaches poolSize shift next ∧ next.world = halted.world.advance moment ∧
        next.results = shift.results ∧ next.Docket ((number, .known outcome) :: rest) := by
    intro halted moment reaches results marked
    obtain ⟨last, passed, final⟩ := reaches.mirrored.advance moment
    exact ⟨_, ⟨(waited.trans reaches.steps).trans passed, final, reaches.opened, reaches.history,
      reaches.ticking⟩, rfl, results, docket.move mirrored.toSound waiting marked⟩
  split at ran
  · rename_i after result ended
    cases ran
    obtain ⟨halted, reaches, rfl, results, marked⟩ := ready.cycle_ended ticking waiting short ended
    exact passes reaches results marked
  · rename_i after suspended moment blocked limited
    cases ran
    have timed : middle.executor.unitTimeout.isSome = true := by
      cases limit : middle.executor.unitTimeout with
      | none => rw [limit] at limited; cases limited
      | some milliseconds => rfl
    obtain ⟨halted, reaches, landed, results, marked⟩ :=
      ready.cycle_blocked ticking waiting short timed blocked
    rw [← landed]
    exact passes reaches results marked
  · cases ran

/-- One cycle of each unit is run. -/
theorem runUnits {units : List BirthNumber} {outcomes : List (BirthNumber × World.UnitOutcome V)}
    {rest : List (BirthNumber × UnitState V)} (mirrored : Mirrored poolSize shift)
    (ticking : shift.ticking = true)
    (docket : shift.Docket ((units.map fun number => (number, .waiting)) ++ rest))
    (ran : shift.world.runUnits units = some (world, outcomes)) :
    ∃ next, Reaches poolSize shift next ∧ next.world = world ∧ next.results = shift.results ∧
      next.Docket ((outcomes.map fun (number, outcome) => (number, .known outcome)) ++ rest) := by
  induction units generalizing shift rest outcomes with
  | nil =>
    cases ran
    exact ⟨shift, ⟨.refl, mirrored, rfl, rfl, rfl⟩, rfl, rfl, docket⟩
  | cons number units ih =>
    simp only [World.runUnits, Option.bind_eq_bind] at ran
    obtain ⟨⟨middle, outcome⟩, first, ran⟩ := Option.bind_eq_some_iff.mp ran
    obtain ⟨⟨last, later⟩, others, ran⟩ := Option.bind_eq_some_iff.mp ran
    cases ran
    obtain ⟨between, reaches, rfl, results, moved⟩ := mirrored.runUnit ticking docket first
    have reordered : between.Docket
        ((units.map fun number => (number, .waiting)) ++ (number, .known outcome) :: rest) :=
      moved.perm List.perm_middle.symm
    obtain ⟨next, further, landed, same, final⟩ :=
      ih reaches.mirrored (reaches.ticking.trans ticking) reordered others
    refine ⟨next, reaches.trans further, landed, same.trans results, ?_⟩
    exact final.perm List.perm_middle

/-- A unit is accounted for. -/
theorem account {entry : BirthNumber × UnitState V} {rest : List (BirthNumber × UnitState V)}
    (mirrored : Mirrored poolSize shift) (docket : shift.Docket (entry :: rest))
    {slot : Slot V} (stood : shift.Stands id entry.1 entry.2)
    (account : Account shift (shift.settle id entry.1 world slot))
    (around : shift.world.Around world) :
    Reaches poolSize shift (shift.settle id entry.1 world slot) ∧
      (shift.settle id entry.1 world slot).Docket rest := by
  refine ⟨⟨.single (.deed (.account account)), ⟨account.sound mirrored.toSound, ?_⟩, rfl, rfl, rfl⟩,
    docket.settle mirrored.toSound stood (marked_mark shift id entry.1 (.settled slot))⟩
  change shift.working.map Worker.note = world.executor.abandoned.map Abandoned.note
  rw [around.abandoned]
  exact mirrored.notes

/-- The outcomes are accounted for. -/
theorem reportAll {outcomes : List (BirthNumber × World.UnitOutcome V)} {busy : List BirthNumber}
    (mirrored : Mirrored poolSize shift)
    (docket : shift.Docket ((outcomes.map fun (number, outcome) => (number, .known outcome)) ++
      busy.map fun number => (number, .busy))) :
    ∃ next, Reaches poolSize shift next ∧
      (next.world, next.results) = shift.world.reportAll shift.results outcomes ∧
        next.Docket (busy.map fun number => (number, .busy)) := by
  induction outcomes generalizing shift with
  | nil => exact ⟨shift, ⟨.refl, mirrored, rfl, rfl, rfl⟩, rfl, docket⟩
  | cons entry rest ih =>
    obtain ⟨number, outcome⟩ := entry
    obtain ⟨id, known⟩ := docket.stands _ List.mem_cons_self
    have joined : shift.Joined := docket.joined fun entry member => by
      rcases List.mem_append.mp member with known | deferred
      · obtain ⟨_, _, rfl⟩ := List.mem_map.mp known
        exact ⟨nofun, nofun⟩
      · obtain ⟨_, _, rfl⟩ := List.mem_map.mp deferred
        exact ⟨nofun, nofun⟩
    obtain ⟨reaches, others⟩ := mirrored.account docket known (.report shift joined known)
      (.report shift.world (mirrored.listed _ _ _ known).1 outcome)
    obtain ⟨next, further, accounted, final⟩ := ih reaches.mirrored others
    exact ⟨next, reaches.trans further, accounted, final⟩

/-- The units with a cycle that has not returned are put off. -/
theorem deferAll {busy : List BirthNumber} (mirrored : Mirrored poolSize shift)
    (docket : shift.Docket (busy.map fun number => (number, .busy))) :
    ∃ next, Reaches poolSize shift next ∧
      (next.world, next.results) = shift.world.deferAll shift.results busy ∧ next.Docket [] := by
  induction busy generalizing shift with
  | nil => exact ⟨shift, ⟨.refl, mirrored, rfl, rfl, rfl⟩, rfl, docket⟩
  | cons number rest ih =>
    obtain ⟨id, busy⟩ := docket.stands _ List.mem_cons_self
    have joined : shift.Joined := docket.joined (by simp)
    obtain ⟨reaches, others⟩ := mirrored.account docket busy (.defer shift joined busy)
      (.schedule shift.world (mirrored.listed _ _ _ busy).1)
    obtain ⟨next, further, accounted, final⟩ := ih reaches.mirrored others
    exact ⟨next, reaches.trans further, accounted, final⟩

end Mirrored

end Shift

end Deliberation
