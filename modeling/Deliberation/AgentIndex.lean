import Deliberation.Identifier

/-!
# Values by agent

A list of agents with one value each, in ascending order of the agents. `find?` is its view; the
lemmas say what insertion and removal do to it.
-/

namespace Deliberation

/-- Values by agent, in ascending order. -/
abbrev AgentIndex (α : Type) := List (AgentId × α)

namespace AgentIndex

variable {α : Type}

/-- The value of an agent. -/
def find? (index : AgentIndex α) (agent : AgentId) : Option α := index.lookup agent

/-- Whether an agent has a value. -/
def contains (index : AgentIndex α) (agent : AgentId) : Bool := (index.find? agent).isSome

/-- Give an agent a value; it loses its former one. -/
def insert (agent : AgentId) (value : α) : AgentIndex α → AgentIndex α
  | [] => [(agent, value)]
  | (other, held) :: rest =>
    if agent = other then (agent, value) :: rest
    else if agent.toNat < other.toNat then (agent, value) :: (other, held) :: rest
    else (other, held) :: insert agent value rest

/-- Take the value of an agent away. -/
def erase (index : AgentIndex α) (agent : AgentId) : AgentIndex α :=
  index.filter fun (other, _) => other != agent

/-- The agents that have a value. -/
def agents (index : AgentIndex α) : List AgentId := index.map (·.1)

/-- The values in the order of their agents. -/
def values (index : AgentIndex α) : List α := index.map (·.2)

/-- Nobody is found in an empty index. -/
@[simp] theorem find?_nil (agent : AgentId) : find? ([] : AgentIndex α) agent = none := rfl

/-- An agent is found in the first entry or in the others. -/
theorem find?_cons (entry : AgentId × α) (rest : AgentIndex α) (agent : AgentId) :
    find? (entry :: rest) agent = if agent = entry.1 then some entry.2 else find? rest agent := by
  unfold find?
  rw [List.lookup_cons]
  by_cases h : agent = entry.1
  · simp [h]
  · have : (agent == entry.1) = false := by simpa using h
    simp [this, h]

/-- Insertion sets the value of one agent. -/
@[simp] theorem find?_insert (index : AgentIndex α) (agent other : AgentId) (value : α) :
    find? (insert agent value index) other = if other = agent then some value else find? index other := by
  induction index with
  | nil => simp [insert, find?_cons]
  | cons entry rest inductionHypothesis =>
    unfold insert
    split
    · rename_i same
      simp only [find?_cons, same]
      split <;> rfl
    · rename_i different
      split
      · simp only [find?_cons]
      · simp only [find?_cons, inductionHypothesis]
        by_cases h : other = entry.1
        · simp [h]
          intro equal
          exact absurd (equal ▸ rfl) different
        · simp [h]

/-- Removal takes the value of one agent away. -/
@[simp] theorem find?_erase (index : AgentIndex α) (agent other : AgentId) :
    find? (erase index agent) other = if other = agent then none else find? index other := by
  induction index with
  | nil => simp [erase]
  | cons entry rest inductionHypothesis =>
    unfold erase at inductionHypothesis ⊢
    rw [List.filter_cons]
    by_cases h : entry.1 = agent
    · simp only [bne_iff_ne, ne_eq, h, not_true_eq_false, if_false, inductionHypothesis, find?_cons]
      split <;> simp_all
    · simp only [bne_iff_ne, ne_eq, h, not_false_eq_true, if_true, find?_cons, inductionHypothesis]
      split <;> simp_all

end AgentIndex

end Deliberation
