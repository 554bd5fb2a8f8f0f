import Deliberation.Proofs.Strides
import Mathlib.Logic.Function.Iterate

/-!
# Strides that make up a cycle

`World.cycle_strides` and `World.resume_strides` say that the strides of a cycle, one after the other,
make up the cycle again; so what every stride keeps is kept by every cycle. A `Hop` is a stride that
no closed gate holds up: `World.cycle_hops` says that a cycle that waits at a gate has come as far as
its hops lead.
-/

namespace Deliberation

open Relation

variable {V : Vocabulary}

namespace World

/-! ### Hops -/

/-- One stride of a cycle that no closed gate holds up, or a lapse of time. -/
inductive Hop (number : BirthNumber) : World V × Phase V → World V × Phase V → Prop where
  | stride (world : World V) (phase : Phase V) (isOpen : phase.isOpen world.openGates = true) :
      Hop number (world, phase) (world.stride number phase)
  | elapse (world : World V) (phase : Phase V) (clock : Nat) :
      Hop number (world, phase) ({ world with clock }, phase)

/-- Any number of hops of a cycle. -/
abbrev Hops (number : BirthNumber) : World V × Phase V → World V × Phase V → Prop :=
  ReflTransGen (Hop number)

/-- Hops are strides. -/
theorem Hops.strides {number : BirthNumber} {before after : World V × Phase V}
    (hops : Hops number before after) : Strides number before after := by
  induction hops with
  | refl => exact .refl
  | tail _ hop ih =>
    cases hop with
    | stride world phase => exact ih.tail (.stride world phase)
    | elapse world phase clock => exact ih.tail (.elapse world phase clock)

/-! ### Hops that make up a cycle -/

variable (number : BirthNumber)

/-- A phase in which the strides of a cycle are the operations of a script. -/
structure KeepsUp (number : BirthNumber) (phase : Script V → Bool → Effects V → Phase V) : Prop where
  stride : ∀ (script : Script V) (turn next : Turn V) (wait : Wait) (rest : Script V),
    script.advance number turn = .blocked next wait rest →
      turn.world.stride number (phase script turn.finished turn.effects) =
        (next.world, phase rest next.finished next.effects)
  isOpen : ∀ (script : Script V) (finished : Bool) (effects : Effects V) (gates : List String),
    (phase script finished effects).isOpen gates = script.isOpen gates

/-- A script that runs until it halts advances operation by operation. -/
theorem run_hops {number : BirthNumber} (deadline : Option Nat)
    {phase : Script V → Bool → Effects V → Phase V} (keepsUp : KeepsUp number phase)
    (script : Script V) (turn : Turn V) :
    Hops number (turn.world, phase script turn.finished turn.effects)
      ((script.run number deadline turn).turn.world,
        phase (script.run number deadline turn).reached
          (script.run number deadline turn).turn.finished
          (script.run number deadline turn).turn.effects) := by
  have once : ∀ (script : Script V) (turn next : Turn V) (wait : Wait) (rest : Script V),
      script.advance number turn = .blocked next wait rest →
        script.isOpen turn.world.openGates = true →
          Hop number (turn.world, phase script turn.finished turn.effects)
            (next.world, phase rest next.finished next.effects) := by
    intro script turn next wait rest advanced isOpen
    rw [← keepsUp.stride script turn next wait rest advanced]
    exact .stride _ _ ((keepsUp.isOpen _ _ _ _).trans isOpen)
  fun_induction Script.run number deadline script turn with
  | case1 | case2 => exact .refl
  | case3 _ _ ih | case4 _ _ ih | case5 _ _ ih | case10 _ _ ih | case12 _ _ _ ih
  | case6 _ _ _ _ ih | case7 _ _ _ ih | case8 _ _ _ ih | case9 _ _ _ ih
  | case13 _ _ _ _ ih | case14 _ _ _ _ _ ih | case18 _ _ _ ih =>
    exact .head (once _ _ _ _ _ rfl rfl) ih
  | case11 turn name next id names created ih =>
    refine .head (once _ _ _ (.time turn.world.clock) _ ?_ rfl) ih
    simp only [Script.advance, created]
  | case15 turn message next world outcome sent ih =>
    refine .head (once _ _ _ (.time turn.world.clock) _ ?_ rfl) ih
    simp only [Script.advance, sent]
  | case16 turn agent arrival next absent ih =>
    refine .head (once _ _ _ (.time turn.world.clock) _ ?_ rfl) ih
    simp only [Script.advance, absent]
  | case17 turn agent arrival next number found ih =>
    refine .head (once _ _ _ (.time turn.world.clock) _ ?_ rfl) ih
    simp only [Script.advance, found]
  | case19 turn gate next isOpen ih => exact .head (once _ _ _ _ _ rfl isOpen) ih
  | case20 turn gate next _ => exact .refl
  | case21 turn milliseconds next moment _ ih =>
    exact .head (once _ _ _ _ _ rfl rfl) (.head (.elapse _ _ moment) ih)
  | case22 turn milliseconds next moment _ => exact .single (once _ _ _ _ _ rfl rfl)

/-- In the phase of an active plan the strides are the operations of its script. -/
theorem keepsUp_acting (active : ActivePlan V) (pending : List (ActivePlan V))
    (steps : List ActStep) (actions : List V.Action) (executed : Nat) :
    KeepsUp number fun script finished effects =>
      .acting script finished active pending steps { effects, actions, executed } where
  stride := by
    intro script turn next wait rest advanced
    simp only [stride]
    rw [advanced]
  isOpen := fun _ _ _ _ => rfl

/-- In the phase of a shutdown plan the strides are the operations of its script. -/
theorem keepsUp_parting (pending : List (Plan V)) (actions : List V.Action) :
    KeepsUp number fun script finished effects =>
      .parting script finished pending effects actions where
  stride := by
    intro script turn next wait rest advanced
    simp only [stride]
    rw [advanced]
  isOpen := fun _ _ _ _ => rfl

/-- Executing plans ends the step, or it ends or halts the cycle. -/
theorem executePlans_hops (deadline : Option Nat) (steps : List ActStep)
    (plans : List (ActivePlan V)) (act : Act V) :
    Hops number (act.world, .planning plans steps act.progress)
      (match Act.executePlans number deadline steps plans act with
        | .completed act => (act.world, .planning [] steps act.progress)
        | halt => ((conclude number halt).world, (conclude number halt).reached)) := by
  have executed : ∀ (active : ActivePlan V) (pending : List (ActivePlan V)) (act : Act V)
      (halt : Halt V), active.plan.start.run number deadline act.turn = halt →
        Hops number (act.world, .planning (active :: pending) steps act.progress)
          (halt.turn.world, .acting halt.reached halt.turn.finished active pending steps
            { act.progress with effects := halt.turn.effects }) := by
    rintro active pending act halt rfl
    have ran := run_hops deadline
      (keepsUp_acting number active pending steps act.actions act.executed)
      active.plan.start act.turn
    exact .head (.stride _ _ rfl) ran
  fun_induction Act.executePlans number deadline steps plans act with
  | case1 => exact .refl
  | case2 active pending act turn action memory ran ih =>
    exact (executed active pending act _ ran).trans (.head (.stride _ _ rfl) ih)
  | case3 active pending act turn cause memory ran =>
    exact (executed active pending act _ ran).tail (.stride _ _ rfl)
  | case4 active pending act turn cause ran =>
    exact (executed active pending act _ ran).tail (.stride _ _ rfl)
  | case5 active pending act turn wait rest ran => exact executed active pending act _ ran

/-- The act stage of a cycle is a sequence of hops. -/
theorem act_hops (deadline : Option Nat) (steps : List ActStep) (act : Act V) :
    Hops number (act.world, .planning [] steps act.progress)
      ((conclude number (Act.run number deadline steps act)).world,
        (conclude number (Act.run number deadline steps act)).reached) := by
  fun_induction Act.run number deadline steps act with
  | case1 act => exact .single (.stride _ _ rfl)
  | case2 steps act plans world act' completed ih =>
    have executed := executePlans_hops number deadline steps plans { act with world }
    rw [completed] at executed
    exact .head (.stride _ _ rfl) (executed.trans ih)
  | case3 steps act plans world notCompleted =>
    have executed := executePlans_hops number deadline steps plans { act with world }
    refine .head (.stride _ _ rfl) ?_
    split at executed
    · rename_i completed ended
      exact absurd ended (notCompleted completed)
    · exact executed

/-- The rest of an act stage, from the middle of one of its steps. -/
theorem carryOn_hops (deadline : Option Nat) (steps : List ActStep)
    (pending : List (ActivePlan V)) (act : Act V) (halt : ActHalt V)
    (carriedOn : (match Act.executePlans number deadline steps pending act with
      | .completed act => Act.run number deadline steps act
      | halt => halt) = halt) :
    Hops number (act.world, .planning pending steps act.progress)
      ((conclude number halt).world, (conclude number halt).reached) := by
  have executed := executePlans_hops number deadline steps pending act
  subst carriedOn
  cases ended : Act.executePlans number deadline steps pending act with
  | completed after =>
    rw [ended] at executed
    exact executed.trans (act_hops number deadline steps after)
  | failed after cause =>
    rw [ended] at executed
    exact executed
  | panicked after cause =>
    rw [ended] at executed
    exact executed
  | blocked after suspended =>
    rw [ended] at executed
    exact executed

/-- The sense stage of a cycle is a sequence of hops. -/
theorem sense_hops (world : World V) (inbox : Inbox V) (steps : List SenseStep)
    (acts : List ActStep) :
    Hops number (world, .sensing inbox steps acts)
      (match sense number world inbox steps with
        | (world, some panic) => (world, .finished (.panicked panic))
        | (world, none) =>
          (world, .planning [] acts { effects := Effects.none, actions := [], executed := 0 })) := by
  fun_induction sense number world inbox steps with
  | case1 world inbox => exact .single (.stride _ _ rfl)
  | case2 world inbox category steps triggers empty ih =>
    refine .head ?_ ih
    have strode : Hop number _ _ := .stride world (.sensing inbox (category :: steps) acts) rfl
    simp only [stride] at strode
    rwa [if_pos empty] at strode
  | case3 world inbox category steps triggers waiting after panic sensed =>
    have strode : Hop number _ _ := .stride world (.sensing inbox (category :: steps) acts) rfl
    simp only [stride] at strode
    rw [if_neg waiting, sensed] at strode
    exact .single strode
  | case4 world inbox category steps triggers waiting after sensed ih =>
    refine .head ?_ ih
    have strode : Hop number _ _ := .stride world (.sensing inbox (category :: steps) acts) rfl
    simp only [stride] at strode
    rwa [if_neg waiting, sensed] at strode

/-- The stages of a cycle after the inbox was drained are a sequence of hops. -/
theorem deliberate_hops (world : World V) (deadline : Option Nat) (inbox : Inbox V) :
    Hops number (world, .sweeping inbox)
      ((world.deliberate number deadline inbox).world,
        (world.deliberate number deadline inbox).reached) := by
  have strode : Hop number _ _ := .stride world (.sweeping inbox) rfl
  simp only [stride] at strode
  simp only [deliberate]
  split
  · rename_i after panic swept
    rw [swept] at strode
    exact .single strode
  · rename_i after swept
    rw [swept] at strode
    have sensed := sense_hops number after inbox (after.agent number).senseSteps
      (after.agent number).actSteps
    split
    · rename_i sensible panic broken
      rw [broken] at sensed
      exact .head strode sensed
    · rename_i sensible complete
      rw [complete] at sensed
      exact .head strode (.trans sensed (act_hops number deadline _
        { world := sensible, effects := Effects.none, actions := [], executed := 0 }))

/-- The execution of shutdown plans is a sequence of hops. -/
theorem close_hops (deadline : Option Nat) (plans : List (Plan V)) (effects : Effects V)
    (actions : List V.Action) (world : World V) :
    Hops number (world, .closing plans effects actions)
      ((world.close number deadline plans effects actions).world,
        (world.close number deadline plans effects actions).reached) := by
  have executed : ∀ (plan : Plan V) (pending : List (Plan V)) (actions : List V.Action)
      (world : World V) (effects : Effects V) (halt : Halt V),
      plan.start.run number deadline { world, effects, finished := false } = halt →
        Hops number (world, .closing (plan :: pending) effects actions)
          (halt.turn.world,
            .parting halt.reached halt.turn.finished pending halt.turn.effects actions) := by
    rintro plan pending actions world effects halt rfl
    have ran := run_hops deadline (keepsUp_parting number pending actions) plan.start
      { world, effects, finished := false }
    exact .head (.stride _ _ rfl) ran
  fun_induction close number deadline plans effects actions world with
  | case1 effects actions world => exact .single (.stride _ _ rfl)
  | case2 plan pending effects actions world turn action memory ran ih
  | case3 plan pending effects actions world turn cause memory ran ih =>
    exact (executed plan pending actions world effects _ ran).trans (.head (.stride _ _ rfl) ih)
  | case4 plan pending effects actions world turn cause ran =>
    exact (executed plan pending actions world effects _ ran).tail (.stride _ _ rfl)
  | case5 plan pending effects actions world turn wait rest ran =>
    exact executed plan pending actions world effects _ ran

/-- A cycle hops from its beginning to where it halts. -/
theorem cycle_hops (world : World V) (number : BirthNumber) (deadline : Option Nat) :
    Hops number (world, .waking)
      ((world.cycle number deadline).world, (world.cycle number deadline).reached) := by
  have strode : Hop number _ _ := .stride world .waking rfl
  simp only [stride] at strode
  simp only [cycle]
  split
  · rename_i isDone
    rw [if_pos isDone] at strode
    exact .single strode
  · rename_i notDone
    rw [if_neg notDone] at strode
    split
    · rename_i stopping
      rw [if_pos stopping] at strode
      exact .head strode (close_hops number deadline _ _ _ _)
    · rename_i notStopping
      rw [if_neg notStopping] at strode
      exact .head strode (deliberate_hops number _ deadline _)

/-- A cycle that goes on hops from where it waited to where it halts. -/
theorem resume_hops (world : World V) (suspended : Suspended V) (deadline : Option Nat) :
    Hops suspended.agent (world, suspended.phase)
      ((world.resume suspended deadline).world, (world.resume suspended deadline).reached) := by
  simp only [resume]
  cases staged : suspended.stage with
  | acting active pending steps executed =>
    have ran := run_hops deadline
      (keepsUp_acting suspended.agent active pending steps suspended.actions executed)
      suspended.script
      { world, effects := suspended.effects, finished := suspended.finished }
    simp only [Suspended.phase, staged]
    split
    · rename_i turn action memory returned
      rw [returned] at ran
      exact ran.trans (.head (.stride _ _ rfl) (carryOn_hops _ deadline _ _ _ _ rfl))
    · rename_i turn cause memory returned
      rw [returned] at ran
      exact ran.tail (.stride _ _ rfl)
    · rename_i turn cause panicked
      rw [panicked] at ran
      exact ran.tail (.stride _ _ rfl)
    · rename_i turn wait rest blocked
      rw [blocked] at ran
      exact ran
  | closing pending =>
    have ran := run_hops deadline (keepsUp_parting suspended.agent pending suspended.actions)
      suspended.script
      { world, effects := suspended.effects, finished := suspended.finished }
    simp only [Suspended.phase, staged]
    split
    · rename_i turn action memory returned
      rw [returned] at ran
      exact ran.trans (.head (.stride _ _ rfl) (close_hops _ deadline _ _ _ _))
    · rename_i turn cause memory returned
      rw [returned] at ran
      exact ran.trans (.head (.stride _ _ rfl) (close_hops _ deadline _ _ _ _))
    · rename_i turn cause panicked
      rw [panicked] at ran
      exact ran.tail (.stride _ _ rfl)
    · rename_i turn wait rest blocked
      rw [blocked] at ran
      exact ran

/-! ### Strides that make up a cycle -/

/-- One stride more, and a cycle has passed the gate at which it waits. -/
theorem passed_strides (world : World V) (halt : CycleHalt V) (number : BirthNumber) :
    Strides number (world, halt.reached) (world, halt.phase) := by
  cases halt with
  | ended => exact .refl
  | blocked halted suspended =>
    obtain ⟨agent, wait, script, finished, effects, actions, stage⟩ := suspended
    cases wait with
    | time moment => exact .refl
    | gate gate => cases stage <;> exact .single (.stride _ _)

/-- A cycle is a sequence of strides from its beginning to where it halts. -/
theorem cycle_strides (world : World V) (number : BirthNumber) (deadline : Option Nat) :
    Strides number (world, .waking)
      ((world.cycle number deadline).world, (world.cycle number deadline).phase) :=
  (world.cycle_hops number deadline).strides.trans (passed_strides _ _ number)

/-- A cycle that goes on is a sequence of strides from where it waited to where it halts. -/
theorem resume_strides (world : World V) (suspended : Suspended V) (deadline : Option Nat) :
    Strides suspended.agent (world, suspended.phase)
      ((world.resume suspended deadline).world, (world.resume suspended deadline).phase) :=
  (world.resume_hops suspended deadline).strides.trans (passed_strides _ _ suspended.agent)

/-- A cycle is a sequence of moves, whether it ends or waits. -/
theorem cycle_moves (world : World V) (number : BirthNumber) (deadline : Option Nat) :
    Moves Agent.Lasting number world (world.cycle number deadline).world :=
  (world.cycle_strides number deadline).moves

end World

/-! ## What a cycle waits for -/

/-- What is waited for has not come. -/
def Wait.Holds (deadline : Option Nat) (world : World V) : Wait → Prop
  | gate name => world.openGates.contains name = false
  | time moment => deadline.all (moment ≤ ·) = false

/-- Whose cycle waits, and for what. -/
structure Suspended.Waits (number : BirthNumber) (deadline : Option Nat) (world : World V)
    (suspended : Suspended V) : Prop where
  agent : suspended.agent = number
  holds : suspended.wait.Holds deadline world

section

variable {number : BirthNumber} {deadline : Option Nat} {world : World V} {suspended : Suspended V}

/-- A script that halts at a wait waits for something that has not come. -/
theorem Script.run_waits {script rest : Script V} {turn next : Turn V} {wait : Wait}
    (blocked : script.run number deadline turn = .blocked next wait rest) :
    wait.Holds deadline next.world := by
  fun_induction Script.run number deadline script turn with
  | case1 | case2 => cases blocked
  | case3 _ _ ih | case4 _ _ ih | case5 _ _ ih | case6 _ _ _ _ ih | case7 _ _ _ ih | case8 _ _ _ ih
  | case9 _ _ _ ih | case10 _ _ ih | case11 _ _ _ _ _ _ ih | case12 _ _ _ ih | case13 _ _ _ _ ih
  | case14 _ _ _ _ _ ih | case15 _ _ _ _ _ _ ih | case16 _ _ _ _ _ ih | case17 _ _ _ _ _ _ ih
  | case18 _ _ _ ih | case19 _ _ _ _ ih | case21 _ _ _ _ _ ih => exact ih blocked
  | case20 _ _ _ closed | case22 _ _ _ _ closed =>
    cases blocked
    exact eq_false_of_ne_true closed

/-- An execution step that halts waits for something that has not come. -/
theorem Act.executePlans_waits {steps : List ActStep} {plans : List (ActivePlan V)} {act : Act V}
    (blocked : executePlans number deadline steps plans act = .blocked world suspended) :
    suspended.Waits number deadline world := by
  fun_induction executePlans number deadline steps plans act with
  | case1 | case3 | case4 => cases blocked
  | case2 _ _ _ _ _ _ _ ih => exact ih blocked
  | case5 _ _ _ _ _ _ ran =>
    cases blocked
    exact ⟨rfl, Script.run_waits ran⟩

/-- An act stage that halts waits for something that has not come. -/
theorem Act.run_waits {steps : List ActStep} {act : Act V}
    (blocked : Act.run number deadline steps act = .blocked world suspended) :
    suspended.Waits number deadline world := by
  fun_induction Act.run number deadline steps act with
  | case1 => cases blocked
  | case2 _ _ _ _ _ _ ih => exact ih blocked
  | case3 => exact executePlans_waits blocked

/-- A cycle that waits at the end of its act stage was waiting there. -/
theorem World.conclude_blocked {halt : ActHalt V}
    (blocked : conclude number halt = .blocked world suspended) :
    halt = .blocked world suspended := by
  cases halt with
  | completed | failed | panicked => cases blocked
  | blocked => cases blocked; rfl

/-- Shutdown plans that halt wait for something that has not come. -/
theorem World.close_waits {plans : List (Plan V)} {effects : Effects V} {actions : List V.Action}
    {start : World V}
    (blocked : start.close number deadline plans effects actions = .blocked world suspended) :
    suspended.Waits number deadline world := by
  fun_induction close number deadline plans effects actions start with
  | case1 | case4 => cases blocked
  | case2 _ _ _ _ _ _ _ _ _ ih | case3 _ _ _ _ _ _ _ _ _ ih => exact ih blocked
  | case5 _ _ _ _ _ _ _ _ ran =>
    cases blocked
    exact ⟨rfl, Script.run_waits ran⟩

/-- A cycle that waits is the one that was begun. -/
theorem World.cycle_waits {start : World V}
    (blocked : start.cycle number deadline = .blocked world suspended) :
    suspended.Waits number deadline world := by
  simp only [cycle] at blocked
  split at blocked
  · cases blocked
  · split at blocked
    · exact close_waits blocked
    · simp only [deliberate] at blocked
      split at blocked
      · cases blocked
      · split at blocked
        · cases blocked
        · exact Act.run_waits (conclude_blocked blocked)

/-- A cycle that waits again is the one that went on. -/
theorem World.resume_waits {start : World V} {before : Suspended V}
    (blocked : start.resume before deadline = .blocked world suspended) :
    suspended.Waits before.agent deadline world := by
  simp only [resume] at blocked
  split at blocked
  · split at blocked
    · have halted := conclude_blocked blocked
      split at halted
      · exact Act.run_waits halted
      · exact Act.executePlans_waits halted
    · cases blocked
    · cases blocked
    · rename_i ran
      cases blocked
      exact ⟨rfl, Script.run_waits ran⟩
  · split at blocked
    · exact close_waits blocked
    · exact close_waits blocked
    · cases blocked
    · rename_i ran
      cases blocked
      exact ⟨rfl, Script.run_waits ran⟩

/-- Without a deadline a cycle waits at closed gates only. -/
theorem World.cycle_closed {start : World V}
    (blocked : start.cycle number none = .blocked world suspended) :
    suspended.reached.isOpen world.openGates = false := by
  have holds := (cycle_waits blocked).holds
  obtain ⟨agent, wait, script, finished, effects, actions, stage⟩ := suspended
  cases wait with
  | time moment => cases holds
  | gate gate => cases stage <;> exact holds

end

/-! ## Numbers of strides -/

section walks

variable {Run : Type*} {stride : Run → Run} {phase : Run → Phase V}

/-- Whether a run makes a number of strides without a panic. -/
def staysCalm (stride : Run → Run) (phase : Run → Phase V) : Nat → Run → Bool
  | 0, _ => true
  | strides + 1, run =>
    (match phase (stride run) with
      | .finished (.panicked _) => false
      | _ => true) && staysCalm stride phase strides (stride run)

/-- What every stride keeps that does not panic holds after a number of them. -/
theorem holds_of_staysCalm {holds : Run → Prop}
    (keeps : ∀ run, (∀ cause, phase (stride run) ≠ .finished (.panicked cause)) →
      holds run → holds (stride run))
    {run : Run} (start : holds run) (strides : Nat)
    (calm : staysCalm stride phase strides run = true) : holds (stride^[strides] run) := by
  induction strides generalizing run with
  | zero => exact start
  | succ strides hypothesis =>
    rw [staysCalm, Bool.and_eq_true] at calm
    refine hypothesis (keeps run (fun cause panicked => ?_) start) calm.2
    rw [panicked] at calm
    cases calm.1

end walks

end Deliberation
