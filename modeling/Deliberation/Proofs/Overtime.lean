import Deliberation.Proofs.Shifts

/-!
# Cycles that outlive their deadline

What a `Shift` does within a tick: a unit is dispatched to a worker, its cycle makes strides, returns
or oversteps its deadline, and the tick accounts for it. Each of these keeps `Shift.Sound`, so every
moment of a run of steps has it (`Shift.Reachable.sound`): an agent has at most one cycle in progress,
also across ticks, and the executor keeps the identities of the agents whose cycles are overdue.
-/

namespace Deliberation

open Relation

variable {V : Vocabulary}

namespace Shift

variable {shift next : Shift V} {poolSize : Nat} {id other : AgentId} {number reached : BirthNumber}
  {state held : UnitState V}

/-! ### Within a tick -/

/-- One of the cycles in progress, and the others. -/
theorem mem_badges {before behind : List (Worker V)} {worker : Worker V}
    (underway : shift.working = before ++ worker :: behind) {badge : Badge} :
    badge ∈ shift.badges ↔
      badge = worker.toBadge ∨ badge ∈ (before ++ behind).map Worker.toBadge := by
  unfold badges
  rw [underway, (List.perm_middle.map Worker.toBadge).mem_iff, List.map_cons, List.mem_cons]

/-- A cycle has no namesake among the others. -/
theorem Sound.different (sound : Sound poolSize shift) {before behind : List (Worker V)}
    {worker : Worker V} (underway : shift.working = before ++ worker :: behind) :
    (((before ++ behind).map Worker.toBadge).map Badge.id).Nodup ∧
      ∀ badge ∈ (before ++ behind).map Worker.toBadge, badge.id ≠ worker.id := by
  have apart := sound.apart
  unfold badges at apart
  rw [underway, ((List.perm_middle.map Worker.toBadge).map Badge.id).nodup_iff, List.map_cons,
    List.map_cons, List.nodup_cons] at apart
  exact ⟨apart.2, fun badge member equal => apart.1 (equal ▸ List.mem_map_of_mem member)⟩

/-- Without one of the cycles in progress there is room for another one. -/
theorem Sound.fewer (sound : Sound poolSize shift) {before behind : List (Worker V)}
    {worker : Worker V} (underway : shift.working = before ++ worker :: behind) :
    (before ++ behind).length < poolSize := by
  refine Nat.lt_of_lt_of_le ?_ sound.few
  unfold badges
  rw [underway, List.length_map, List.perm_middle.length_eq, List.length_cons]
  exact Nat.lt_succ_self _

/-- The tick waits for a cycle that is not overdue. -/
theorem Sound.awaited (sound : Sound poolSize shift) {badge : Badge}
    (member : badge ∈ shift.badges) (punctual : badge.overdue = false) :
    shift.ticking = true ∧ badge.tick = shift.history.length ∧
      shift.Stands badge.id badge.number .working := by
  cases sound.placed badge member with
  | abandoned overdue | lapsed overdue =>
    rw [punctual] at overdue
    cases overdue
  | punctual _ ticking present working => exact ⟨ticking, present, working⟩

/-- A cycle that begins on a free worker keeps a shift sound. -/
theorem Sound.start (sound : Sound poolSize shift) (ticking : shift.ticking = true)
    (waiting : shift.Stands id number .waiting) (free : shift.working.length < poolSize) :
    Sound poolSize (shift.start id number) := by
  have new : ∀ badge ∈ shift.badges, badge.id ≠ id := by
    rintro badge member rfl
    cases sound.placed badge member with
    | abandoned _ _ former => exact (sound.fits _ _ _ waiting).1 (former ticking)
    | lapsed _ _ _ lapsed =>
      obtain ⟨reached, known | ⟨_, settled⟩⟩ := lapsed
      · cases (waiting.unique known).2
      · cases (waiting.unique settled).2
    | punctual _ _ _ working => cases (waiting.unique working).2
  have badges : (shift.start id number).badges =
      shift.badges ++ [⟨id, number, false, shift.history.length⟩] := List.map_append
  exact
    { timetable := sound.timetable
      pool := sound.pool
      few := by
        rw [badges, List.length_append]
        simpa [Shift.badges] using Nat.succ_le_of_lt free
      apart := by
        rw [badges, List.map_append, List.nodup_append]
        refine ⟨sound.apart, List.nodup_singleton _, ?_⟩
        rintro _ former _ latter rfl
        obtain ⟨badge, member, rfl⟩ := List.mem_map.mp former
        exact new badge member (List.mem_singleton.mp latter)
      named := by
        intro badge member
        rw [badges] at member
        rcases List.mem_append.mp member with former | latter
        · exact sound.named badge former
        · rw [List.mem_singleton.mp latter]
          exact sound.listed id number _ waiting
      listed := by
        intro other reached held stands
        rcases stands_mark.mp stands with ⟨rfl, rfl, rfl⟩ | ⟨_, stood⟩
        · exact sound.listed _ _ _ waiting
        · exact sound.listed _ _ _ stood
      tracked := by
        intro other
        refine (sound.tracked other).trans ?_
        rw [badges]
        simp
      placed := by
        intro badge member
        rw [badges] at member
        rcases List.mem_append.mp member with former | latter
        · exact (sound.placed badge former).keep (find?_mark (new badge former)) rfl rfl rfl
        · rw [List.mem_singleton.mp latter]
          exact .punctual rfl ticking rfl (stands_mark.mpr (.inl ⟨rfl, rfl, rfl⟩))
      reported := sound.reported
      fits := by
        intro other reached held stands
        rcases stands_mark.mp stands with ⟨rfl, rfl, rfl⟩ | ⟨different, stood⟩
        · exact (sound.fits _ _ _ waiting).1
        · have same : (other ∈ shift.started ++ [id]) = (other ∈ shift.started) := by
            simp [different]
          change held.Fits _ (other ∈ shift.started ++ [id]) _
          rw [same]
          exact sound.fits _ _ _ stood
      results := by
        intro other slot
        refine (sound.results other slot).trans (exists_congr fun reached => ?_)
        exact (stands_settled_mark waiting (by simp) (by simp)).symm }

/-- A cycle oversteps its deadline. -/
theorem Sound.lapse (sound : Sound poolSize shift) {before behind : List (Worker V)}
    {worker : Worker V} (underway : shift.working = before ++ worker :: behind)
    (punctual : worker.overdue = false) (record : Suspended V)
    (same : record.agent = worker.number) :
    Sound poolSize
      { shift.mark worker.id worker.number (.known .timedOut) with
        world := shift.world.abandon record
        working := before ++ { worker with overdue := true } :: behind } := by
  obtain ⟨distinct, different⟩ := sound.different underway
  have listed : worker.toBadge ∈ shift.badges := (mem_badges underway).mpr (.inl rfl)
  obtain ⟨ticking, present, working⟩ := sound.awaited listed punctual
  have notFormer := sound.fits _ _ _ working
  have named := sound.named _ listed
  have known : (shift.mark worker.id worker.number (.known .timedOut)).Stands worker.id
      worker.number (.known .timedOut) := stands_mark.mpr (.inl ⟨rfl, rfl, rfl⟩)
  exact
    { timetable := ⟨sound.timetable.ordered, sound.timetable.entry⟩
      pool := sound.pool
      few := by
        have fewer := sound.fewer underway
        simp only [badges, List.length_map, List.length_append, List.length_cons] at fewer ⊢
        omega
      apart := by
        unfold badges
        rw [((List.perm_middle.map Worker.toBadge).map Badge.id).nodup_iff, List.map_cons,
          List.map_cons, List.nodup_cons]
        refine ⟨fun member => ?_, distinct⟩
        obtain ⟨badge, among, equal⟩ := List.mem_map.mp member
        exact different badge among equal
      named := by
        intro badge member
        rcases (mem_badges rfl).mp member with rfl | other
        · exact named
        · exact sound.named badge ((mem_badges underway).mpr (.inr other))
      listed := by
        intro id number state stands
        rcases stands_mark.mp stands with ⟨rfl, rfl, rfl⟩ | ⟨_, stood⟩
        · exact named
        · exact sound.listed id number state stood
      tracked := by
        intro id
        have before := sound.tracked id
        have inFlight : (shift.world.abandon record).executor.isInFlight id = true ↔
            shift.world.executor.isInFlight id = true ∨ worker.id = id := by
          change (shift.world.executor.abandoned ++ [_]).any _ = true ↔ _
          rw [List.any_append, Bool.or_eq_true, same, named.2]
          simp [Executor.isInFlight]
        refine inFlight.trans ?_
        rw [before]
        constructor
        · rintro (⟨badge, member, overdue, rfl⟩ | rfl)
          · rcases (mem_badges underway).mp member with rfl | other
            · rw [punctual] at overdue
              cases overdue
            · exact ⟨badge, (mem_badges rfl).mpr (.inr other), overdue, rfl⟩
          · exact ⟨{ worker.toBadge with overdue := true }, (mem_badges rfl).mpr (.inl rfl), rfl,
              rfl⟩
        · rintro ⟨badge, member, overdue, rfl⟩
          rcases (mem_badges rfl).mp member with rfl | other
          · exact .inr rfl
          · exact .inl ⟨badge, (mem_badges underway).mpr (.inr other), overdue, rfl⟩
      placed := by
        intro badge member
        rcases (mem_badges rfl).mp member with rfl | other
        · exact .lapsed rfl ticking present ⟨worker.number, .inl known⟩
        · exact (sound.placed badge ((mem_badges underway).mpr (.inr other))).keep
            (find?_mark (different badge other)) rfl rfl rfl
      reported := sound.reported
      fits := by
        intro id number state stands
        rcases stands_mark.mp stands with ⟨rfl, rfl, rfl⟩ | ⟨_, stood⟩
        · exact notFormer
        · exact sound.fits id number state stood
      results := by
        intro id slot
        refine (sound.results id slot).trans (exists_congr fun reached => ?_)
        exact (stands_settled_mark working (by simp) (by simp)).symm }

/-- A cycle returns within its deadline. -/
theorem Sound.finish (sound : Sound poolSize shift) {before behind : List (Worker V)}
    {worker : Worker V} (underway : shift.working = before ++ worker :: behind)
    (punctual : worker.overdue = false) (outcome : CycleOutcome V) :
    Sound poolSize
      { shift.mark worker.id worker.number (.known (.ended outcome)) with
        working := before ++ behind } := by
  obtain ⟨distinct, different⟩ := sound.different underway
  have listed : worker.toBadge ∈ shift.badges := (mem_badges underway).mpr (.inl rfl)
  obtain ⟨-, -, working⟩ := sound.awaited listed punctual
  have notFormer := sound.fits _ _ _ working
  exact
    { timetable := sound.timetable
      pool := sound.pool
      few := (List.length_map _).trans_le (sound.fewer underway).le
      apart := distinct
      named := fun badge member => sound.named badge ((mem_badges underway).mpr (.inr member))
      listed := by
        intro id number state stands
        rcases stands_mark.mp stands with ⟨rfl, rfl, rfl⟩ | ⟨_, stood⟩
        · exact sound.named _ listed
        · exact sound.listed id number state stood
      tracked := by
        intro id
        refine (sound.tracked id).trans ⟨?_, ?_⟩
        · rintro ⟨badge, member, overdue, rfl⟩
          rcases (mem_badges underway).mp member with rfl | other
          · rw [punctual] at overdue
            cases overdue
          · exact ⟨badge, other, overdue, rfl⟩
        · rintro ⟨badge, member, overdue, rfl⟩
          exact ⟨badge, (mem_badges underway).mpr (.inr member), overdue, rfl⟩
      placed := fun badge member =>
        (sound.placed badge ((mem_badges underway).mpr (.inr member))).keep
          (find?_mark (different badge member)) rfl rfl rfl
      reported := sound.reported
      fits := by
        intro id number state stands
        rcases stands_mark.mp stands with ⟨rfl, rfl, rfl⟩ | ⟨_, stood⟩
        · exact notFormer
        · exact sound.fits id number state stood
      results := by
        intro id slot
        refine (sound.results id slot).trans (exists_congr fun reached => ?_)
        exact (stands_settled_mark working (by simp) (by simp)).symm }

/-- A cycle returns that the executor has no interest in any more. -/
theorem Sound.release (sound : Sound poolSize shift) {before behind : List (Worker V)}
    {worker : Worker V} (underway : shift.working = before ++ worker :: behind) :
    Sound poolSize
      { shift with
        world := shift.world.modifyExecutor fun executor =>
          { executor with abandoned := executor.abandoned.filter (·.id != worker.id) }
        working := before ++ behind } := by
  obtain ⟨distinct, different⟩ := sound.different underway
  exact
    { timetable := ⟨sound.timetable.ordered, sound.timetable.entry⟩
      pool := sound.pool
      few := (List.length_map _).trans_le (sound.fewer underway).le
      apart := distinct
      named := fun badge member => sound.named badge ((mem_badges underway).mpr (.inr member))
      listed := sound.listed
      tracked := by
        intro id
        have before := sound.tracked id
        have inFlight : (shift.world.executor.abandoned.filter (·.id != worker.id)).any
            (·.id == id) = true ↔ shift.world.executor.isInFlight id = true ∧ id ≠ worker.id := by
          simp only [Executor.isInFlight, List.any_eq_true, List.mem_filter, bne_iff_ne, beq_iff_eq]
          constructor
          · rintro ⟨record, ⟨member, other⟩, rfl⟩
            exact ⟨⟨record, member, rfl⟩, other⟩
          · rintro ⟨⟨record, member, rfl⟩, other⟩
            exact ⟨record, ⟨member, other⟩, rfl⟩
        refine inFlight.trans ?_
        rw [before]
        constructor
        · rintro ⟨⟨badge, member, isOverdue, rfl⟩, other⟩
          rcases (mem_badges underway).mp member with rfl | among
          · exact absurd rfl other
          · exact ⟨badge, among, isOverdue, rfl⟩
        · rintro ⟨badge, member, isOverdue, rfl⟩
          exact ⟨⟨badge, (mem_badges underway).mpr (.inr member), isOverdue, rfl⟩,
            different badge member⟩
      placed := fun badge member =>
        (sound.placed badge ((mem_badges underway).mpr (.inr member))).keep rfl rfl rfl rfl
      reported := sound.reported
      fits := sound.fits
      results := sound.results }

/-- It is noted how far an overdue cycle has come. -/
theorem Sound.record (sound : Sound poolSize shift) (id : AgentId) (cycle : Suspended V) :
    Sound poolSize
      { shift with
        world := shift.world.modifyExecutor fun executor =>
          { executor with
            abandoned := executor.abandoned.map fun other =>
              if other.id == id then { other with cycle } else other } } := by
  refine sound.onward (Nat.le_refl _) (fun _ _ => rfl)
    ⟨sound.timetable.ordered, sound.timetable.entry⟩ rfl (fun held => ?_)
    fun _ scheduled => scheduled
  change (shift.world.executor.abandoned.map _).any _ = shift.world.executor.abandoned.any _
  rw [List.any_map]
  refine congrArg (fun test => shift.world.executor.abandoned.any test) (funext fun other => ?_)
  simp only [Function.comp_apply]
  split <;> rfl

/-- A unit is accounted for. -/
theorem Sound.settle (sound : Sound poolSize shift) (stands : shift.Stands id number held)
    (unsettled : ∀ slot, held ≠ .settled slot) (joined : held ≠ .working) {world : World V}
    (around : shift.world.Around world) {slot : Slot V}
    (lapsed : held = .known .timedOut → ∃ milliseconds, slot = .error (.timedOut milliseconds))
    (fits : (UnitState.settled slot).Fits (∃ worker ∈ shift.opened, worker.id = id)
      (id ∈ shift.started) (world.executor.schedule.contains id = true)) :
    Sound poolSize (shift.settle id number world slot) := by
  have onward := sound.around around
  have named : number < world.agents.size ∧ (world.agent number).id = id :=
    onward.listed id number held stands
  have settled : (shift.settle id number world slot).Stands id number (.settled slot) :=
    stands_mark.mpr (.inl ⟨rfl, rfl, rfl⟩)
  exact
    { timetable := onward.timetable
      pool := onward.pool
      few := sound.few
      apart := sound.apart
      named := onward.named
      listed := by
        intro other reached state stands
        rcases stands_mark.mp stands with ⟨rfl, rfl, rfl⟩ | ⟨_, stood⟩
        · exact named
        · exact onward.listed other reached state stood
      tracked := onward.tracked
      placed := by
        intro badge member
        by_cases same : badge.id = id
        · cases sound.placed badge member with
          | abandoned overdue timedOut former => exact .abandoned overdue timedOut former
          | lapsed overdue ticking present overstepped =>
            rw [Lapsed, same] at overstepped
            obtain ⟨reached, known | ⟨_, accounted⟩⟩ := overstepped
            · obtain ⟨milliseconds, rfl⟩ := lapsed (stands.unique known).2
              exact .lapsed overdue ticking present
                ⟨number, .inr ⟨milliseconds, same.symm ▸ settled⟩⟩
            · exact absurd (stands.unique accounted).2 (unsettled _)
          | punctual _ _ _ working =>
            rw [same] at working
            exact absurd (stands.unique working).2 joined
        · exact (sound.placed badge member).keep (find?_mark same) rfl rfl rfl
      reported := sound.reported
      fits := by
        intro other reached state stands
        rcases stands_mark.mp stands with ⟨rfl, rfl, rfl⟩ | ⟨_, stood⟩
        · exact fits
        · exact onward.fits other reached state stood
      results := by
        intro other shown
        change (AgentIndex.insert (world.agent number).id slot shift.results).find? other = _ ↔
          ∃ reached, (shift.mark id number (.settled slot)).Stands other reached (.settled shown)
        rw [named.2, AgentIndex.find?_insert]
        by_cases same : other = id
        · rw [if_pos same]
          constructor
          · intro equal
            exact ⟨number, stands_mark.mpr (.inl ⟨same, rfl, by rw [Option.some.inj equal]⟩)⟩
          · rintro ⟨reached, stood⟩
            rcases stands_mark.mp stood with ⟨_, _, equal⟩ | ⟨different, _⟩
            · rw [UnitState.settled.inj equal]
            · exact absurd same different
        · rw [if_neg same, sound.results]
          refine exists_congr fun reached => ?_
          rw [stands_mark]
          simp [same] }

/-- Accounting for a unit keeps a shift sound. -/
theorem Account.sound (account : Account shift next) (sound : Sound poolSize shift) :
    Sound poolSize next := by
  cases account with
  | @report joined id number outcome known =>
    obtain ⟨inside, named⟩ := sound.listed _ _ _ known
    have notFormer := sound.fits _ _ _ known
    refine sound.settle known (by simp) (by simp) (.report shift.world inside outcome) ?_ ?_
    · intro timedOut
      cases timedOut
      exact ⟨_, rfl⟩
    · have shown : (shift.world.report number outcome).2 ≠ .error .stillRunning := by
        cases outcome with
        | ended outcome =>
          rw [World.report_eq]
          cases outcome <;> simp [CycleOutcome.slot]
        | timedOut => simp [World.report]
      exact ⟨⟨fun running => absurd running shown, fun former => absurd former notFormer⟩,
        fun running => absurd running shown⟩
  | @defer joined id number busy =>
    obtain ⟨inside, named⟩ := sound.listed _ _ _ busy
    obtain ⟨former, notBegun⟩ := sound.fits _ _ _ busy
    refine sound.settle busy (by simp) (by simp) (.schedule shift.world inside) (by simp) ?_
    refine ⟨⟨fun _ => former, fun _ => rfl⟩, fun _ => ⟨notBegun, ?_⟩⟩
    exact (AgentIndex.contains_insert _ _ _ _).mpr (.inl named.symm)

/-! ### Runs -/

/-- An executor starts out soundly, with at least one worker. -/
theorem Sound.new (settings : ExecutorSettings) (messenger : Messenger) :
    Sound (max settings.poolSize 1) (new settings messenger : Shift V) where
  timetable := .empty rfl
  pool := rfl
  few := Nat.zero_le _
  apart := List.nodup_nil
  named := nofun
  listed := fun _ _ _ stands => by cases stands
  tracked := fun id => by simp [Shift.new, badges, Executor.isInFlight, World.new, World.around,
    Executor.new]
  placed := nofun
  reported := nofun
  fits := fun _ _ _ stands => by cases stands
  results := fun _ _ => ⟨nofun, fun ⟨_, stands⟩ => by cases stands⟩

/-- What the executor does keeps a shift sound. -/
theorem Deed.sound (deed : Deed shift next) (sound : Sound poolSize shift) :
    Sound poolSize next := by
  cases deed with
  | depart resting running random permuted => exact sound.depart resting random _
  | start ticking waiting free => exact sound.start ticking waiting (sound.pool ▸ free)
  | lapse underway punctual timed record same => exact sound.lapse underway punctual record same
  | finish underway punctual finished => exact sound.finish underway punctual _
  | release underway overdue finished => exact sound.release underway
  | record id cycle => exact sound.record id cycle
  | account account => exact account.sound sound
  | land ticking settled duration => exact sound.land settled duration

/-- Every step keeps a shift sound. -/
theorem Step.sound (step : Step shift next) (sound : Sound poolSize shift) :
    Sound poolSize next := by
  cases step with
  | around around => exact sound.around around
  | @stride before behind worker underway =>
    have strode := World.Around.of_moves (shift.world.stride_moves worker.number worker.phase)
    refine (sound.around strode).relabel ?_
    unfold badges
    simp [underway]
  | deed deed => exact deed.sound sound

/-- Every moment of a run is sound. -/
theorem Reachable.sound {settings : ExecutorSettings} {messenger : Messenger}
    (reachable : Reachable settings messenger shift) :
    Sound (max settings.poolSize 1) shift := by
  unfold Reachable at reachable
  induction reachable with
  | refl => exact .new settings messenger
  | tail _ step ih => exact step.sound ih

end Shift

end Deliberation
