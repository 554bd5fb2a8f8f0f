import Mathlib.Data.List.Basic
import Mathlib.Data.List.Count
import Deliberation.Proofs.Durability

/-!
# Tasks on the workers

`World.runTasks` runs numbered tasks in the order in which they complete. `World.WorkedOff` is the
relation of these runs: each task runs once, in the world that is there in its turn. A task waits as
long as abandoned cycles hold all workers; of those the earliest sleeper goes on meanwhile
(`World.Awaits`), until a worker is free or none of them sleeps any more (`World.Starves`).
`TaskReport` says what the caller is told, and `World.runTasks_reports` that it is told so in every
order.
-/

namespace Deliberation

open Relation

variable {V : Vocabulary} {α : Type}

/-! ## Reports -/

/-- Tasks with their positions. -/
def Task.numbered (tasks : List (Task V α)) : List (Nat × Task V α) := tasks.zipIdx.map Prod.swap

/-- What the caller of `count` tasks is told, given how the task at each position came out. -/
structure TaskReport (count : Nat) (outcomes : List (Nat × Except Panic α))
    (report : Except TickError (List α)) : Prop where
  /-- Every position has one outcome. -/
  once : (outcomes.map Prod.fst).Perm (List.range count)
  /-- If no task panicked, all results are there, each at the position of its task. -/
  results : (∀ position cause, (position, .error cause) ∉ outcomes) →
    ∃ results, report = .ok results ∧ results.length = count ∧
      ∀ position result, results[position]? = some result → (position, .ok result) ∈ outcomes
  /-- Otherwise the panic at the smallest position is reported with its text. -/
  panic : (∃ position cause, (position, .error cause) ∈ outcomes) →
    ∃ position cause, report = .error (.taskPanicked position cause) ∧
      (TickError.taskPanicked position cause).message =
        "task " ++ toString position ++ " panicked: " ++ cause.text ∧
      (position, .error cause) ∈ outcomes ∧
      ∀ other reason, (other, .error reason) ∈ outcomes → position ≤ other

/-- Results are collected up to the first panic. -/
theorem collectResults_cases (outcomes : List (Nat × Except Panic α)) :
    (∃ results, collectResults outcomes = .ok results ∧
      outcomes.map Prod.snd = results.map Except.ok) ∨
    (∃ before position cause behind, outcomes = before ++ (position, .error cause) :: behind ∧
      (∀ entry ∈ before, ∃ result, entry.2 = .ok result) ∧
      collectResults outcomes = .error (.taskPanicked position cause)) := by
  induction outcomes with
  | nil => exact .inl ⟨[], rfl, rfl⟩
  | cons entry rest ih =>
    obtain ⟨position, outcome⟩ := entry
    cases outcome with
    | error cause => exact .inr ⟨[], position, cause, rest, rfl, by simp, rfl⟩
    | ok result =>
      rcases ih with
        ⟨results, collected, each⟩ | ⟨before, panicked, cause, behind, split, fine, collected⟩
      · refine .inl ⟨result :: results, ?_, ?_⟩
        · rw [collectResults, collected]
          rfl
        · rw [List.map_cons, each, List.map_cons]
      · refine .inr ⟨(position, .ok result) :: before, panicked, cause, behind, ?_, ?_, ?_⟩
        · rw [split, List.cons_append]
        · simpa using fine
        · rw [collectResults, collected]
          rfl

/-- Outcomes of all positions, in the order of their positions. -/
theorem map_fst_sorted {count : Nat} {outcomes : List (Nat × Except Panic α)}
    (once : (outcomes.map Prod.fst).Perm (List.range count)) :
    (outcomes.mergeSort fun first second => first.1 ≤ second.1).map Prod.fst =
      List.range count := by
  have sorted : List.Pairwise (· ≤ ·)
      ((outcomes.mergeSort fun first second => first.1 ≤ second.1).map Prod.fst) := by
    rw [List.pairwise_map]
    refine (List.pairwise_mergeSort ?_ ?_ outcomes).imp of_decide_eq_true
    · intro first second third before behind
      simp only [decide_eq_true_eq] at before behind ⊢
      exact before.trans behind
    · intro first second
      simp only [Bool.or_eq_true, decide_eq_true_eq]
      exact Nat.le_total first.1 second.1
  refine List.Perm.eq_of_pairwise (fun _ _ _ _ => Nat.le_antisymm) sorted
    List.pairwise_le_range ?_
  exact ((List.mergeSort_perm _ _).map Prod.fst).trans once

/-- Outcomes come to the same report in whatever order they came in. -/
theorem TaskReport.of_outcomes {count : Nat} {outcomes : List (Nat × Except Panic α)}
    (once : (outcomes.map Prod.fst).Perm (List.range count)) :
    TaskReport count outcomes
      (collectResults (outcomes.mergeSort fun first second => first.1 ≤ second.1)) := by
  have positions := map_fst_sorted once
  have member : ∀ entry, entry ∈ outcomes.mergeSort (fun first second => first.1 ≤ second.1) ↔
      entry ∈ outcomes := fun entry => (List.mergeSort_perm _ _).mem_iff
  generalize outcomes.mergeSort (fun first second => first.1 ≤ second.1) = sorted
    at positions member
  rcases collectResults_cases sorted with
    ⟨results, collected, each⟩ | ⟨before, position, cause, behind, split, fine, collected⟩
  · have lengths : sorted.length = results.length := by
      simpa using congrArg List.length each
    have count_eq : sorted.length = count := by simpa using congrArg List.length positions
    refine ⟨once, fun _ => ⟨results, collected, lengths ▸ count_eq, ?_⟩, ?_⟩
    · intro position result found
      have first : (sorted.map Prod.fst)[position]? = some position := by
        obtain ⟨inside, _⟩ := List.getElem?_eq_some_iff.mp found
        rw [positions, List.getElem?_range (by omega)]
      have second : (sorted.map Prod.snd)[position]? = some (.ok result) := by
        rw [each, List.getElem?_map, found]
        rfl
      rw [List.getElem?_map, Option.map_eq_some_iff] at first second
      obtain ⟨entry, here, entry_fst⟩ := first
      obtain ⟨same, here', entry_snd⟩ := second
      cases here.symm.trans here'
      refine (member _).mp ?_
      rw [← entry_fst, ← entry_snd]
      exact List.mem_of_getElem? here
    · rintro ⟨position, cause, panicked⟩
      have listed := List.mem_map_of_mem (f := Prod.snd) ((member _).mpr panicked)
      rw [each] at listed
      obtain ⟨_, _, equal⟩ := List.mem_map.mp listed
      cases equal
  · have panicked : (position, .error cause) ∈ outcomes := by
      rw [← member, split]
      exact List.mem_append_right _ List.mem_cons_self
    refine ⟨once, fun calm => absurd panicked (calm position cause), fun _ =>
      ⟨position, cause, collected, rfl, panicked, ?_⟩⟩
    intro other reason listed
    have ordered : (sorted.map Prod.fst).Pairwise (· ≤ ·) := positions ▸ List.pairwise_le_range
    rw [← member, split] at listed
    rw [split, List.map_append, List.pairwise_append, List.map_cons, List.pairwise_cons] at ordered
    rcases List.mem_append.mp listed with early | late
    · obtain ⟨_, equal⟩ := fine _ early
      cases equal
    · rcases List.mem_cons.mp late with equal | later
      · cases equal
        exact Nat.le_refl _
      · exact ordered.2.1.1 other (List.mem_map_of_mem (f := Prod.fst) later)

/-! ## Waiting for a worker -/

/-- Whether an abandoned cycle waits for a moment. -/
def Abandoned.sleeps (abandoned : Abandoned V) : Bool :=
  match abandoned.cycle.wait with
  | .time _ => true
  | .gate _ => false

/-- Fewer items count when what counts is less and one of them does not any more. -/
theorem countP_lt {β : Type} {before after : β → Bool} {items : List β} {item : β}
    (less : ∀ other ∈ items, after other = true → before other = true) (member : item ∈ items)
    (counted : before item = true) (dropped : after item = false) :
    items.countP after < items.countP before := by
  obtain ⟨front, back, rfl⟩ := List.append_of_mem member
  have inFront : front.countP after ≤ front.countP before :=
    List.countP_mono_left fun other among => less other (List.mem_append_left _ among)
  have inBack : back.countP after ≤ back.countP before :=
    List.countP_mono_left fun other among =>
      less other (List.mem_append_right _ (List.mem_cons_of_mem _ among))
  rw [List.countP_append, List.countP_append, List.countP_cons_of_neg (by simp [dropped]),
    List.countP_cons_of_pos counted]
  omega

namespace World

/-- Whether abandoned cycles leave a worker free. -/
def HasFreeWorker (world : World V) : Prop :=
  world.executor.abandoned.length < world.executor.poolSize

/-- While no worker is free, the abandoned cycle goes on that sleeps for the shortest time. -/
def Rouses (world next : World V) : Prop :=
  ¬ world.HasFreeWorker ∧
    ∃ sleeper later, world.sleepers = sleeper :: later ∧ next = world.awaken sleeper

/-- What happens while a worker is waited for. -/
abbrev Awaits : World V → World V → Prop := ReflTransGen Rouses

variable {world start next : World V}

/-- With a worker free there is nothing to wait for. -/
theorem Awaits.eq_of_free (awaits : world.Awaits start) (free : world.HasFreeWorker) :
    start = world := by
  induction awaits using ReflTransGen.head_induction_on with
  | refl => rfl
  | head rouses _ _ => exact absurd free rouses.1

/-- Waiting for a worker ends nothing that is durable. -/
theorem Awaits.keeps {keeps : World V → Prop} (durable : Durable keeps)
    (awaits : world.Awaits start) (kept : keeps world) : keeps start := by
  induction awaits with
  | refl => exact kept
  | tail _ rouses ih =>
    obtain ⟨_, sleeper, later, _, rfl⟩ := rouses
    exact durable.awaken ih sleeper

/-- There are as many sleepers as abandoned cycles that sleep. -/
theorem length_sleepers (world : World V) :
    world.sleepers.length = world.executor.abandoned.countP Abandoned.sleeps := by
  unfold sleepers
  rw [List.length_mergeSort, List.length_filterMap_eq_countP]
  refine List.countP_congr fun abandoned _ => ?_
  unfold Abandoned.sleeps
  cases abandoned.cycle.wait <;> simp

/-- A sleeper is an abandoned cycle that sleeps. -/
theorem sleeps_of_mem_sleepers {sleeper : Nat × Abandoned V} (member : sleeper ∈ world.sleepers) :
    sleeper.2 ∈ world.executor.abandoned ∧ sleeper.2.sleeps = true := by
  unfold sleepers at member
  obtain ⟨abandoned, listed, found⟩ :=
    List.mem_filterMap.mp ((List.mergeSort_perm _ _).mem_iff.mp member)
  unfold Abandoned.sleeps
  split at found
  · rename_i moment sleeping
    cases found
    exact ⟨listed, by rw [sleeping]⟩
  · cases found

/-- A sleeper that goes on returns or comes to a gate. -/
theorem length_sleepers_awaken {sleeper : Nat × Abandoned V} (member : sleeper ∈ world.sleepers) :
    (world.awaken sleeper).sleepers.length < world.sleepers.length := by
  obtain ⟨listed, sleeping⟩ := sleeps_of_mem_sleepers member
  let later : World V := { world with clock := max world.clock sleeper.1 }
  have kept : (later.resume sleeper.2.cycle none).world.executor.abandoned =
      world.executor.abandoned :=
    (later.resume_strides sleeper.2.cycle none).moves.frame.abandoned
  rw [length_sleepers, length_sleepers]
  unfold awaken proceed
  cases halted : later.resume sleeper.2.cycle none with
  | ended after outcome =>
    rw [halted] at kept
    change after.executor.abandoned = _ at kept
    change (List.filter _ after.executor.abandoned).countP _ < _
    rw [kept, List.countP_filter]
    refine countP_lt (fun other _ counted => ?_) listed sleeping (by simp)
    exact (Bool.and_eq_true_iff.mp counted).1
  | blocked after cycle =>
    rw [halted] at kept
    change after.executor.abandoned = _ at kept
    have gated : ∀ other : Abandoned V, Abandoned.sleeps { other with cycle } = false := by
      intro other
      have holds := (resume_waits halted).holds
      unfold Abandoned.sleeps
      cases waits : cycle.wait with
      | gate name => rfl
      | time moment =>
        rw [waits] at holds
        cases holds
    change (List.map _ after.executor.abandoned).countP _ < _
    rw [kept, List.countP_map]
    refine countP_lt (fun other _ counted => ?_) listed sleeping ?_
    · simp only [Function.comp_apply] at counted
      split at counted
      · rw [gated] at counted
        cases counted
      · exact counted
    · simp only [Function.comp_apply, beq_self_eq_true, if_true]
      exact gated sleeper.2

/-- A worker gets free, or all of them wait at closed gates. -/
theorem freeWorkerWithin_cases {steps : Nat} (enough : world.sleepers.length ≤ steps) :
    (∃ start, freeWorkerWithin steps world = some start ∧ world.Awaits start ∧
      start.HasFreeWorker) ∨
    (freeWorkerWithin steps world = none ∧
      ∃ stuck, world.Awaits stuck ∧ ¬ stuck.HasFreeWorker ∧ stuck.sleepers = []) := by
  fun_induction freeWorkerWithin steps world with
  | case1 steps world free => exact .inl ⟨world, rfl, .refl, free⟩
  | case2 world held steps sleeper later listed ih =>
    have rouses : world.Rouses (world.awaken sleeper) := ⟨held, sleeper, later, listed, rfl⟩
    have fewer := length_sleepers_awaken (listed ▸ List.mem_cons_self)
    rcases ih (by omega) with ⟨start, found, awaits, free⟩ | ⟨unfound, stuck, awaits, closed⟩
    · exact .inl ⟨start, found, .head rouses awaits, free⟩
    · exact .inr ⟨unfound, stuck, .head rouses awaits, closed⟩
  | case3 steps world held last =>
    refine .inr ⟨rfl, world, .refl, held, ?_⟩
    cases listed : world.sleepers with
    | nil => rfl
    | cons sleeper later =>
      rw [listed, List.length_cons] at enough
      obtain ⟨fewer, rfl⟩ : ∃ fewer, steps = fewer + 1 := ⟨steps - 1, by omega⟩
      exact (last fewer sleeper later rfl listed).elim

/-- Waiting for a worker ends with a free one, or with nobody asleep who could free one. -/
theorem freeWorker_cases (world : World V) :
    (∃ start, world.freeWorker = some start ∧ world.Awaits start ∧ start.HasFreeWorker) ∨
    (world.freeWorker = none ∧
      ∃ stuck, world.Awaits stuck ∧ ¬ stuck.HasFreeWorker ∧ stuck.sleepers = []) := by
  refine freeWorkerWithin_cases ?_
  rw [length_sleepers]
  exact List.countP_le_length

/-! ## Running tasks -/

/-- Numbered tasks are run in their order of completion, each of them once: what comes of the world,
and how each task comes out in its turn. -/
inductive WorkedOff :
    World V → List (Nat × Task V α) → World V → List (Nat × Except Panic α) → Prop where
  | nil (world : World V) : WorkedOff world [] world []
  | cons {world start final : World V} {position : Nat} {task : Task V α}
      {rest : List (Nat × Task V α)} {outcomes : List (Nat × Except Panic α)}
      (awaits : world.Awaits start) (free : start.HasFreeWorker)
      (others : WorkedOff (task start).1 rest final outcomes) :
      WorkedOff world ((position, task) :: rest) final ((position, (task start).2) :: outcomes)

/-- At some task no worker gets free any more: all of them wait at closed gates. -/
inductive Starves : World V → List (Nat × Task V α) → Prop where
  | here {world stuck : World V} {entry : Nat × Task V α} {rest : List (Nat × Task V α)}
      (awaits : world.Awaits stuck) (held : ¬ stuck.HasFreeWorker)
      (closed : stuck.sleepers = []) : Starves world (entry :: rest)
  | later {world start : World V} {position : Nat} {task : Task V α}
      {rest : List (Nat × Task V α)} (awaits : world.Awaits start) (free : start.HasFreeWorker)
      (starves : Starves (task start).1 rest) : Starves world ((position, task) :: rest)

/-- What tasks make of a world, one after the other. -/
def afterTasks (world : World V) (order : List (Nat × Task V α)) : World V :=
  order.foldl (fun world entry => (entry.2 world).1) world

variable {final : World V} {order : List (Nat × Task V α)}
  {outcomes : List (Nat × Except Panic α)}

namespace WorkedOff

/-- Every task has one outcome. -/
theorem positions (workedOff : WorkedOff world order final outcomes) :
    outcomes.map Prod.fst = order.map Prod.fst := by
  induction workedOff with
  | nil => rfl
  | cons _ _ _ ih => rw [List.map_cons, List.map_cons, ih]

/-- If tasks leave a worker free, the world is what they make of it. -/
theorem final_eq (workedOff : WorkedOff world order final outcomes) (free : world.HasFreeWorker)
    (leaves : ∀ entry ∈ order, ∀ other : World V, other.HasFreeWorker →
      (entry.2 other).1.HasFreeWorker) : final = world.afterTasks order := by
  induction workedOff with
  | nil => rfl
  | @cons world start final position task rest outcomes awaits _ _ ih =>
    cases awaits.eq_of_free free
    exact ih (leaves (position, task) List.mem_cons_self world free)
      fun entry among => leaves entry (List.mem_cons_of_mem _ among)

/-- What is durable and no task ends is there in the end. -/
theorem keeps {keeps : World V → Prop} (durable : Durable keeps)
    (workedOff : WorkedOff world order final outcomes)
    (leaves : ∀ entry ∈ order, ∀ other, keeps other → keeps (entry.2 other).1)
    (kept : keeps world) : keeps final := by
  induction workedOff with
  | nil => exact kept
  | @cons world start final position task rest outcomes awaits _ _ ih =>
    exact ih (fun entry among => leaves entry (List.mem_cons_of_mem _ among))
      (leaves (position, task) List.mem_cons_self start (awaits.keeps durable kept))

end WorkedOff

/-- If tasks leave a worker free, none of them has to wait. -/
theorem Starves.not_of_free (starves : Starves world order) (free : world.HasFreeWorker)
    (leaves : ∀ entry ∈ order, ∀ other : World V, other.HasFreeWorker →
      (entry.2 other).1.HasFreeWorker) : False := by
  induction starves with
  | here awaits held _ =>
    cases awaits.eq_of_free free
    exact held free
  | @later world start position task rest awaits _ _ ih =>
    cases awaits.eq_of_free free
    exact ih (leaves (position, task) List.mem_cons_self world free)
      fun entry among => leaves entry (List.mem_cons_of_mem _ among)

/-- Tasks are worked off, or at one of them no worker gets free. -/
theorem runEach_cases (world : World V) (order : List (Nat × Task V α)) :
    (∃ final outcomes, world.runEach order = some (final, outcomes) ∧
      WorkedOff world order final outcomes) ∨
    (world.runEach order = none ∧ Starves world order) := by
  induction order generalizing world with
  | nil => exact .inl ⟨world, [], rfl, .nil world⟩
  | cons entry rest ih =>
    obtain ⟨position, task⟩ := entry
    rcases world.freeWorker_cases with
      ⟨start, found, awaits, free⟩ | ⟨unfound, stuck, awaits, held, closed⟩
    · rcases ih (task start).1 with ⟨final, outcomes, ran, workedOff⟩ | ⟨stopped, starves⟩
      · refine .inl ⟨final, (position, (task start).2) :: outcomes, ?_, .cons awaits free workedOff⟩
        simp [runEach, found, ran]
      · exact .inr ⟨by simp [runEach, found, stopped], .later awaits free starves⟩
    · exact .inr ⟨by simp [runEach, unfound], .here awaits held closed⟩

/-- Tasks that all run report their outcomes by position. -/
theorem runTasks_of_runEach (running : world.executor.isShutDown = false)
    (ran : world.runEach order = some (final, outcomes)) :
    world.runTasks order = some (final,
      collectResults (outcomes.mergeSort fun first second => first.1 ≤ second.1)) := by
  simp [runTasks, running, ran]

/-- The counter of ticks is not changed by anything within a tick. -/
theorem durable_tick (count : Nat) : Durable fun world : World V => world.executor.tick = count where
  stride number phase kept := ((stride_moves _ number phase).frame.tick).trans kept
  aside _ _ _ _ _ _ kept := kept

/-- Tasks are numbered by their positions. -/
theorem map_fst_numbered (tasks : List (Task V α)) :
    (Task.numbered tasks).map Prod.fst = List.range tasks.length := by
  unfold Task.numbered
  rw [List.map_map, List.range_eq_range']
  exact List.zipIdx_map_snd 0 tasks

/-- Workers that are shut down run no task. Any others run each task once, in whatever order the
tasks complete, and report by position, while nothing but the tasks counts ticks; or at some task all
of them wait at closed gates, and the call does not return. As long as abandoned cycles leave a worker
free, it returns, and nothing but the tasks changes the world at all. -/
theorem runTasks_reports (world : World V) (tasks : List (Task V α))
    (order : List (Nat × Task V α)) (permuted : order.Perm (Task.numbered tasks)) :
    (world.executor.isShutDown = true →
      world.runTasks order = some (world, .error .shutDown)) ∧
    (world.executor.isShutDown = false →
      (∃ final outcomes report, world.runTasks order = some (final, report) ∧
        WorkedOff world order final outcomes ∧ TaskReport tasks.length outcomes report ∧
        ((∀ task ∈ tasks, ∀ other, (task other).1.executor.tick = other.executor.tick) →
          final.executor.tick = world.executor.tick)) ∨
      (world.runTasks order = none ∧ Starves world order)) ∧
    (world.executor.isShutDown = false → world.HasFreeWorker →
      (∀ task ∈ tasks, ∀ other, other.HasFreeWorker → (task other).1.HasFreeWorker) →
      ∃ outcomes report, world.runTasks order = some (world.afterTasks order, report) ∧
        WorkedOff world order (world.afterTasks order) outcomes ∧
        TaskReport tasks.length outcomes report) := by
  have among : ∀ entry ∈ order, entry.2 ∈ tasks := by
    intro entry listed
    obtain ⟨pair, paired, rfl⟩ := List.mem_map.mp (permuted.mem_iff.mp listed)
    exact List.fst_mem_of_mem_zipIdx paired
  have reported : ∀ {final outcomes}, WorkedOff world order final outcomes →
      TaskReport tasks.length outcomes
        (collectResults (outcomes.mergeSort fun first second => first.1 ≤ second.1)) := by
    intro final outcomes workedOff
    refine TaskReport.of_outcomes ?_
    rw [workedOff.positions, ← map_fst_numbered]
    exact permuted.map Prod.fst
  refine ⟨fun shut => by simp [runTasks, shut], fun running => ?_, fun running free leaves => ?_⟩
  · rcases world.runEach_cases order with
      ⟨final, outcomes, ran, workedOff⟩ | ⟨stopped, starves⟩
    · refine .inl ⟨final, outcomes, _, runTasks_of_runEach running ran, workedOff,
        reported workedOff, fun leaves => ?_⟩
      exact workedOff.keeps (durable_tick world.executor.tick)
        (fun entry listed other kept => (leaves entry.2 (among entry listed) other).trans kept) rfl
    · exact .inr ⟨by simp [runTasks, running, stopped], starves⟩
  · have leavesFree : ∀ entry ∈ order, ∀ other : World V, other.HasFreeWorker →
        (entry.2 other).1.HasFreeWorker :=
      fun entry listed => leaves entry.2 (among entry listed)
    rcases world.runEach_cases order with ⟨final, outcomes, ran, workedOff⟩ | ⟨_, starves⟩
    · cases workedOff.final_eq free leavesFree
      exact ⟨outcomes, _, runTasks_of_runEach running ran, workedOff, reported workedOff⟩
    · exact (starves.not_of_free free leavesFree).elim

/-- Three tasks, of which the last two panic. -/
def chores : List (Task Market.vocabulary Nat) :=
  [fun world => (world.arrive 0 .nudge, .ok 7), fun world => (world, .error (.message "bad task")),
    fun world => (world.arrive 1 .stop, .error .wordless)]

/-- The last task completes first, but the panic before it is reported. All three have run. -/
theorem runTasks_reports_chores :
    (Task.numbered chores).reverse.Perm (Task.numbered chores) ∧
      Market.listeners.executor.isShutDown = false ∧ Market.listeners.HasFreeWorker ∧
      (∀ task ∈ chores, ∀ other, other.HasFreeWorker → (task other).1.HasFreeWorker) ∧
      Market.listeners.runTasks (Task.numbered chores).reverse =
        some (((Market.listeners.arrive 1 .stop).arrive 0 .nudge),
          .error (.taskPanicked 1 (.message "bad task"))) := by
  have permuted := List.reverse_perm (Task.numbered chores)
  have free : Market.listeners.HasFreeWorker := by
    unfold HasFreeWorker
    decide
  have arrival : ∀ (other : World Market.vocabulary) number arrival, other.HasFreeWorker →
      (other.arrive number arrival).HasFreeWorker := by
    intro other number arrival free
    have frame := other.arrive_frame number arrival
    unfold HasFreeWorker
    rwa [frame.abandoned, frame.poolSize]
  have leaves : ∀ task ∈ chores, ∀ other, other.HasFreeWorker → (task other).1.HasFreeWorker := by
    intro task listed other free
    simp only [chores, List.mem_cons, List.not_mem_nil, or_false] at listed
    rcases listed with rfl | rfl | rfl
    · exact arrival other 0 .nudge free
    · exact free
    · exact arrival other 1 .stop free
  refine ⟨permuted, rfl, free, leaves, ?_⟩
  obtain ⟨outcomes, report, ran, workedOff, reported⟩ :=
    (runTasks_reports Market.listeners chores _ permuted).2.2 rfl free leaves
  have listed : outcomes =
      [(2, .error .wordless), (1, .error (.message "bad task")), (0, .ok 7)] := by
    change WorkedOff _ [(2, _), (1, _), (0, _)] _ _ at workedOff
    generalize Market.listeners.afterTasks _ = final at workedOff
    obtain _ | ⟨_, _, _ | ⟨_, _, _ | ⟨_, _, _ | _⟩⟩⟩ := workedOff
    rfl
  subst listed
  obtain ⟨position, cause, told, _, panicked, least⟩ := reported.panic ⟨2, .wordless, by simp⟩
  have early := least 1 (.message "bad task") (by simp)
  simp only [List.mem_cons, Prod.mk.injEq, Except.error.injEq, reduceCtorEq, and_false,
    List.not_mem_nil, or_false] at panicked
  rw [ran, told]
  rcases panicked with ⟨rfl, rfl⟩ | ⟨rfl, rfl⟩
  · cases early
    contradiction
  · rfl

end World

end Deliberation
