import Deliberation.Proofs.Stirring

/-!
# What a cycle does to the world

`Move` lists the changes that a cycle of an agent makes: it changes its own agent, lets something
arrive at any agent, and changes what belongs to no agent. A parameter says what the changes of the
own agent keep: all of them keep its identity and its scheduler and do not repeat a goal (`Lasting`),
and those of a deliberating cycle also keep whether it is done and its shutdown plans (`Steady`).
There is one lemma for each thing a cycle does between two of its scripts.
-/

namespace Deliberation

open Relation

variable {V : Vocabulary}

/-! ## What changes of an agent keep -/

namespace Agent

/-- No two of the goals have the same identity. -/
def GoalsDistinct (agent : Agent V) : Prop := (agent.goals.map (·.id)).Nodup

/-- What every change of an agent by its own cycles keeps. -/
structure Lasting (before after : Agent V) : Prop where
  id : after.id = before.id
  scheduler : after.scheduler = before.scheduler
  distinct : before.GoalsDistinct → after.GoalsDistinct

/-- What also remains as long as the agent does not shut down. -/
structure Steady (before after : Agent V) : Prop extends Lasting before after where
  done : after.done = before.done
  shutdownPlans : after.shutdownPlans = before.shutdownPlans

/-- An agent is steady if it does not change. -/
theorem Steady.refl (agent : Agent V) : Steady agent agent :=
  { id := rfl, scheduler := rfl, distinct := fun held => held, done := rfl, shutdownPlans := rfl }

/-- Steady changes follow one another. -/
theorem Steady.trans {first second third : Agent V} (before : Steady first second)
    (after : Steady second third) : Steady first third :=
  { id := after.id.trans before.id
    scheduler := after.scheduler.trans before.scheduler
    distinct := fun held => after.distinct (before.distinct held)
    done := after.done.trans before.done
    shutdownPlans := after.shutdownPlans.trans before.shutdownPlans }

/-- A goal that is held already is not adopted again. -/
theorem adopt_steady (agent : Agent V) (handle : GoalHandle V) :
    Steady agent (agent.adopt handle) := by
  unfold adopt
  split
  · exact .refl agent
  · rename_i fresh
    refine { id := rfl, scheduler := rfl, distinct := fun held => ?_, done := rfl,
             shutdownPlans := rfl }
    have absent : handle.id ∉ agent.goals.map (·.id) := by
      intro member
      obtain ⟨other, inGoals, same⟩ := List.mem_map.mp member
      exact fresh (List.any_eq_true.mpr ⟨other, inGoals, by simp [same]⟩)
    unfold GoalsDistinct at held ⊢
    rw [List.map_append, List.nodup_append]
    refine ⟨held, by simp, ?_⟩
    intro first inGoals second inNew equal
    rw [List.map_singleton, List.mem_singleton] at inNew
    exact absent (inNew ▸ equal ▸ inGoals)

/-- An agent that adopts goals is steady. -/
theorem adoptAll_steady (handles : List (GoalHandle V)) (agent : Agent V) :
    Steady agent (handles.foldl adopt agent) := by
  induction handles generalizing agent with
  | nil => exact .refl agent
  | cons handle rest ih => exact (agent.adopt_steady handle).trans (ih _)

end Agent

/-! ## Moves -/

/-- One change that a cycle of an agent makes. -/
inductive Move (keeps : Agent V → Agent V → Prop) (self : BirthNumber) :
    World V → World V → Prop where
  /-- The own agent changes. -/
  | own (world : World V) (change : Agent V → Agent V)
      (kept : keeps (world.agent self) (change (world.agent self))) :
      Move keeps self world (world.modifyAgent self change)
  /-- Something arrives at an agent. -/
  | arrive (world : World V) (number : BirthNumber) (arrival : Arrival V) :
      Move keeps self world (world.arrive number arrival)
  /-- Something changes that is no part of any agent, nor of the executor. -/
  | aside (world : World V) (pursuit : Pursuit) (messenger : Messenger) (names : NameBook)
      (journal : Array (JournalEntry V)) (clock : Nat) :
      Move keeps self world { world with pursuit, messenger, names, journal, clock }

/-- Any number of such changes. -/
abbrev Moves (keeps : Agent V → Agent V → Prop) (self : BirthNumber) :
    World V → World V → Prop := ReflTransGen (Move keeps self)

variable {keeps : Agent V → Agent V → Prop} {self : BirthNumber} {before after : World V}

/-- What is steady lasts. -/
theorem Moves.lasting (moves : Moves Agent.Steady self before after) :
    Moves Agent.Lasting self before after := by
  refine ReflTransGen.mono ?_ _ _ moves
  intro world next move
  cases move with
  | own change kept => exact .own world change kept.toLasting
  | arrive number arrival => exact .arrive world number arrival
  | aside pursuit messenger names journal clock =>
    exact .aside world pursuit messenger names journal clock

/-- To stir the world is to move it, for anything that contexts and interceptors are no part of. -/
theorem Stirs.moves (tuned : ∀ (agent : Agent V) contexts interceptors,
      keeps agent { agent with contexts, interceptors }) (stirs : Stirs self before after) :
    Moves keeps self before after := by
  refine ReflTransGen.mono ?_ _ _ stirs
  intro world next stir
  cases stir with
  | tune change only =>
    obtain ⟨contexts, interceptors, changed⟩ := only (world.agent self)
    exact .own world change (changed ▸ tuned _ contexts interceptors)
  | arrive number arrival => exact .arrive world number arrival
  | aside messenger names journal clock =>
    exact .aside world world.pursuit messenger names journal clock

/-- What a cycle stirs leaves its agents steady. -/
theorem Stirs.steady (stirs : Stirs self before after) : Moves Agent.Steady self before after :=
  stirs.moves fun _ _ _ =>
    { id := rfl, scheduler := rfl, distinct := fun held => held, done := rfl, shutdownPlans := rfl }

/-- Changing flags is a move. -/
theorem Move.flags (keeps : Agent V → Agent V → Prop) (self : BirthNumber) (world : World V)
    (pursuit : Pursuit) : Move keeps self world { world with pursuit } :=
  .aside world pursuit world.messenger world.names world.journal world.clock

/-! ## The sense stage -/

/-- Of the goals that are checked some are left, in their order. -/
theorem sweepGoals_sublist (contexts : Contexts V.Object) (pursuit : Pursuit)
    (goals : List (GoalHandle V)) : (sweepGoals contexts pursuit goals).1.Sublist goals := by
  fun_induction sweepGoals contexts pursuit goals with
  | case1 | case2 => exact .refl _
  | case3 pursuit handle rest _ ih => exact ih.cons handle
  | case4 pursuit handle rest _ kept _ _ swept ih =>
    rw [swept] at ih
    exact ih.cons_cons handle

namespace World

/-- Draining an inbox is a sequence of moves. -/
theorem drain_moves (world : World V) (number : BirthNumber) :
    Moves Agent.Steady number world (world.drain number).1 := by
  refine .single (.own world _ ?_)
  have adopted := Agent.adoptAll_steady (world.agent number).inbox.goals
    { world.agent number with inbox := Inbox.empty }
  exact { id := adopted.id, scheduler := adopted.scheduler, distinct := adopted.distinct,
          done := adopted.done, shutdownPlans := adopted.shutdownPlans }

/-- A check of the goals is a sequence of moves. -/
theorem sweep_moves (world : World V) (number : BirthNumber) :
    Moves Agent.Steady number world (world.sweep number).1 := by
  refine .tail (.single (.flags _ number world _)) (.own _ _ ?_)
  refine { id := rfl, scheduler := rfl, distinct := fun held => ?_, done := rfl,
           shutdownPlans := rfl }
  exact held.sublist ((sweepGoals_sublist _ _ _).map _)

/-- A sense step is a sequence of moves. -/
theorem senseTriggers_moves (world : World V) (number : BirthNumber) (category : Category)
    (triggers : List (Trigger V)) :
    Moves Agent.Steady number world (world.senseTriggers number category triggers).1 := by
  have flagged : ∀ (before world : World V) (pursuit : Pursuit) (change : Agent V → Agent V),
      (∀ agent, Agent.Steady agent (change agent)) → Moves Agent.Steady number before world →
        Moves Agent.Steady number before ({ world with pursuit }.modifyAgent number change) :=
    fun _ world pursuit change steady moves =>
      (moves.tail (.flags _ number world pursuit)).tail (.own _ change (steady _))
  have kept : ∀ (agent : Agent V) schemes interceptors plans,
      Agent.Steady agent { agent with schemes, interceptors, plans } := fun _ _ _ _ =>
    { id := rfl, scheduler := rfl, distinct := fun held => held, done := rfl, shutdownPlans := rfl }
  simp only [senseTriggers]
  split
  · exact flagged _ _ _ _ (fun agent => kept agent agent.schemes _ agent.plans) .refl
  · have scanned := flagged world world
      (scanInterceptors (world.agent number).view world.pursuit triggers
        ((world.agent number).interceptors.get category)).pursuit _
      (fun agent => kept agent agent.schemes (agent.interceptors.set category
        (scanInterceptors (world.agent number).view world.pursuit triggers
          ((world.agent number).interceptors.get category)).interceptors) agent.plans) .refl
    split
    · exact flagged _ _ _ _ (fun agent => kept agent _ agent.interceptors agent.plans) scanned
    · refine (flagged _ _ _ _ (fun agent => kept agent _ agent.interceptors agent.plans)
        scanned).tail (.own _ _ ?_)
      exact kept _ _ _ _

end World

/-! ## The act stage -/

/-- The world in which an act stage halted. -/
def ActHalt.world : ActHalt V → World V
  | completed act | failed act _ => act.world
  | panicked world _ | blocked world _ => world

/-- The world in which a cycle halted. -/
def CycleHalt.world : CycleHalt V → World V
  | ended world _ | blocked world _ => world

namespace Act

/-- Keeping a plan that returned is a sequence of moves. -/
theorem kept_moves (act : Act V) (number : BirthNumber) (active : ActivePlan V) (turn : Turn V)
    (action : Option V.Action) (memory : Nat) :
    Moves Agent.Steady number turn.world (act.kept number active turn action memory).world := by
  unfold kept
  split
  · exact .single (.flags _ number turn.world _)
  · refine .single (.own turn.world _ ?_)
    exact { id := rfl, scheduler := rfl, distinct := fun held => held, done := rfl,
            shutdownPlans := rfl }

/-- Dropping a plan that failed is a sequence of moves. -/
theorem dropped_moves (act : Act V) (number : BirthNumber) (active : ActivePlan V)
    (pending : List (ActivePlan V)) (turn : Turn V) :
    Moves Agent.Steady number turn.world (act.dropped number active pending turn).world := by
  refine .tail (.single (.flags _ number turn.world _)) (.own _ _ ?_)
  exact { id := rfl, scheduler := rfl, distinct := fun held => held, done := rfl,
          shutdownPlans := rfl }

end Act

/-! ## The end of a cycle -/

namespace World

/-- Applying effects is a sequence of moves. -/
theorem applyEffects_moves (world : World V) (number : BirthNumber) (effects : Effects V) :
    Moves Agent.Steady number world (world.applyEffects number effects) := by
  refine .single (.own world _ ?_)
  have adopted := Agent.adoptAll_steady effects.goals
    { world.agent number with
      inbox :=
        { (world.agent number).inbox with
          internal := (world.agent number).inbox.internal ++ effects.raised.map .internal } }
  exact { id := adopted.id, scheduler := adopted.scheduler, distinct := adopted.distinct,
          done := adopted.done, shutdownPlans := adopted.shutdownPlans }

/-- The end of an act stage is a sequence of moves. -/
theorem conclude_moves (number : BirthNumber) (halt : ActHalt V) :
    Moves Agent.Steady number halt.world (conclude number halt).world := by
  cases halt with
  | completed act | failed act cause => exact applyEffects_moves act.world number act.effects
  | panicked world cause | blocked world suspended => exact .refl

/-- Retiring is a sequence of moves. -/
theorem retire_moves (world : World V) (number : BirthNumber) :
    Moves Agent.Lasting number world (world.retire number) := by
  refine .tail (.single (.flags _ number world _)) (.own _ _ ?_)
  exact { id := rfl, scheduler := rfl, distinct := fun _ => List.nodup_nil }

end World

end Deliberation
