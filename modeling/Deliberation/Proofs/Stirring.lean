import Deliberation.Proofs.Agents
import Mathlib.Logic.Relation

/-!
# What a script does to the world

`Stir` lists the changes that a script can make while it runs: it changes contexts and interceptors
of its own agent, lets something arrive at any agent, and touches the messenger, the names, the
journal and the clock. Deliveries, from wherever they come, are changes of this kind. What the
requests of a script amount to comes after the act stage.
-/

namespace Deliberation

open Relation

variable {V : Vocabulary}

/-- One change that a script of an agent makes. -/
inductive Stir (self : BirthNumber) : World V → World V → Prop where
  /-- Contexts and interceptors of its own agent change. -/
  | tune (world : World V) (change : Agent V → Agent V)
      (only : ∀ agent, ∃ contexts interceptors, change agent = { agent with contexts, interceptors }) :
      Stir self world (world.modifyAgent self change)
  /-- Something arrives at an agent. -/
  | arrive (world : World V) (number : BirthNumber) (arrival : Arrival V) :
      Stir self world (world.arrive number arrival)
  /-- Something changes that is no part of any agent, nor of the executor. -/
  | aside (world : World V) (messenger : Messenger) (names : NameBook)
      (journal : Array (JournalEntry V)) (clock : Nat) :
      Stir self world { world with messenger, names, journal, clock }

/-- Any number of such changes. -/
abbrev Stirs (self : BirthNumber) : World V → World V → Prop := ReflTransGen (Stir self)

/-- Of an agent a script changes the inbox, the contexts and the interceptors only. -/
theorem Stirs.field {α : Type} {self : BirthNumber} {before after : World V}
    (stirs : Stirs self before after) (field : Agent V → α)
    (keeps : ∀ (agent : Agent V) inbox contexts interceptors,
      field { agent with inbox, contexts, interceptors } = field agent)
    (number : BirthNumber) : field (after.agent number) = field (before.agent number) := by
  induction stirs with
  | refl => rfl
  | @tail world next _ stir ih =>
    refine Eq.trans ?_ ih
    cases stir with
    | tune change only =>
      obtain ⟨contexts, interceptors, changed⟩ := only (world.agent self)
      exact World.field_modifyAgent field world self number change
        (changed ▸ keeps _ (world.agent self).inbox contexts interceptors)
    | arrive reached arrival =>
      exact World.field_arrive field world reached number arrival fun agent inbox =>
        keeps agent inbox agent.contexts agent.interceptors
    | aside messenger names journal clock => rfl

/-- A script leaves flags, goals and plans alone. -/
theorem Stirs.holdings {self : BirthNumber} {before after : World V}
    (stirs : Stirs self before after) (number : BirthNumber) :
    after.pursuit = before.pursuit ∧ (after.agent number).goals = (before.agent number).goals ∧
      (after.agent number).plans = (before.agent number).plans := by
  refine ⟨?_, stirs.field Agent.goals (fun _ _ _ _ => rfl) number,
    stirs.field Agent.plans (fun _ _ _ _ => rfl) number⟩
  induction stirs with
  | refl => rfl
  | @tail world next _ stir ih =>
    refine Eq.trans ?_ ih
    cases stir with
    | tune | aside => rfl
    | arrive reached arrival => exact world.pursuit_arrive reached arrival

namespace World

/-- Deregistering an agent stirs the messenger only. -/
theorem deregister_stirs (self : BirthNumber) (world : World V) (id : AgentId) :
    Stir self world (world.deregister id) :=
  .aside world { world.messenger with entries := AgentIndex.erase world.messenger.entries id }
    world.names world.journal world.clock

/-- An entry in the journal stirs nothing else. -/
theorem log_stirs (self : BirthNumber) (world : World V) (entry : JournalEntry V) :
    Stir self world (world.log entry) :=
  .aside world world.messenger world.names (world.journal.push entry) world.clock

/-- A delivery to one receiver stirs the world. -/
theorem deliverTo_stirs (self : BirthNumber) (world : World V) (receiver : AgentId)
    (message : Message) : Stirs self world (world.deliverTo receiver message).1 := by
  unfold deliverTo
  cases world.messenger.routing with
  | registry =>
    simp only
    split
    · exact .single (deregister_stirs self world receiver)
    · split
      · exact .single (.arrive world _ _)
      · split
        · exact .single (.arrive world _ _)
        · exact .refl
  | roster =>
    simp only
    have logged : Stirs self world (world.log (.delivering receiver message.content)) :=
      .single (log_stirs self world _)
    split
    · exact logged
    · exact logged.tail (.arrive _ _ _)

/-- Deliveries to receivers stir the world. -/
theorem deliverAll_stirs (self : BirthNumber) (message : Message) (receivers : List AgentId)
    (world : World V) : Stirs self world (world.deliverAll message receivers).1 := by
  induction receivers generalizing world with
  | nil => exact .refl
  | cons receiver rest ih => exact (deliverTo_stirs self world receiver message).trans (ih _)

/-- The delivery of a message stirs the world. -/
theorem deliver_stirs (self : BirthNumber) (world : World V) (message : Message) :
    Stirs self world (world.deliver message).1 :=
  deliverAll_stirs self message _ world

/-- Sending a message stirs the world. -/
theorem send_stirs (self number : BirthNumber) (world : World V) (message : Message) :
    Stirs self world (world.send number message).1 := by
  simp only [send]
  split
  · exact deliver_stirs self world message
  · exact .refl

end World

end Deliberation
