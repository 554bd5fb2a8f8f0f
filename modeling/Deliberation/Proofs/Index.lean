import Deliberation.AgentIndex
import Mathlib.Data.List.Sort

/-!
# The order of an index

`insert` keeps an index in strictly ascending order of its agents. In such an index an agent occurs
once, `find?` shows exactly the entries, and the agents as a set determine the list of agents.
-/

namespace Deliberation

/-- Agent identities are equal when their numbers are. -/
theorem AgentId.toNat_injective : Function.Injective AgentId.toNat := by
  intro first second equal
  obtain ⟨⟨firstValue⟩⟩ := first
  obtain ⟨⟨secondValue⟩⟩ := second
  have values : firstValue = secondValue := BitVec.eq_of_toNat_eq equal
  rw [values]

namespace AgentIndex

variable {α : Type}

/-- The agents of an index ascend strictly. -/
def Ordered (index : AgentIndex α) : Prop :=
  index.agents.Pairwise fun first second => first.toNat < second.toNat

/-- An empty index is in order. -/
@[simp] theorem ordered_nil : Ordered ([] : AgentIndex α) := List.Pairwise.nil

/-- An empty index lists nobody. -/
@[simp] theorem agents_nil : agents ([] : AgentIndex α) = [] := rfl

/-- An index lists its first agent and then the others. -/
@[simp] theorem agents_cons (entry : AgentId × α) (rest : AgentIndex α) :
    agents (entry :: rest) = entry.1 :: agents rest := rfl

/-- An inserted entry is found; the others were there before. -/
theorem mem_of_mem_insert {agent : AgentId} {value : α} {index : AgentIndex α}
    {entry : AgentId × α} (member : entry ∈ insert agent value index) :
    entry = (agent, value) ∨ entry ∈ index := by
  induction index with
  | nil => simpa [insert] using member
  | cons head rest ih =>
    unfold insert at member
    split at member
    · rcases List.mem_cons.mp member with equal | inRest
      · exact .inl equal
      · exact .inr (List.mem_cons_of_mem _ inRest)
    · split at member
      · simpa using member
      · rcases List.mem_cons.mp member with equal | inRest
        · exact .inr (equal ▸ List.mem_cons_self)
        · exact (ih inRest).imp_right (List.mem_cons_of_mem _)

/-- Insertion adds one agent. -/
theorem mem_agents_insert (agent other : AgentId) (value : α) (index : AgentIndex α) :
    other ∈ agents (insert agent value index) ↔ other = agent ∨ other ∈ agents index := by
  induction index with
  | nil => simp [insert]
  | cons head rest ih =>
    unfold insert
    split
    · rename_i same
      simp [same]
    · split
      · simp
      · simp only [agents_cons, List.mem_cons, ih]
        tauto

/-- Insertion keeps the order. -/
theorem ordered_insert (agent : AgentId) (value : α) {index : AgentIndex α}
    (ordered : index.Ordered) : Ordered (insert agent value index) := by
  induction index with
  | nil => simp [insert, Ordered]
  | cons head rest ih =>
    obtain ⟨below, restOrdered⟩ := List.pairwise_cons.mp ordered
    unfold insert
    split
    · rename_i same
      exact List.pairwise_cons.mpr ⟨fun other member => same ▸ below other member, restOrdered⟩
    · rename_i different
      split
      · rename_i before
        refine List.pairwise_cons.mpr ⟨fun other member => ?_, ordered⟩
        rcases List.mem_cons.mp member with equal | inRest
        · exact equal ▸ before
        · exact Nat.lt_trans before (below other inRest)
      · rename_i notBefore
        refine List.pairwise_cons.mpr ⟨fun other member => ?_, ih restOrdered⟩
        rcases (mem_agents_insert agent other value rest).mp member with equal | inRest
        · subst equal
          have distinct : head.1.toNat ≠ other.toNat :=
            fun equal => different (AgentId.toNat_injective equal.symm)
          exact Nat.lt_of_le_of_ne (Nat.le_of_not_lt notBefore) distinct
        · exact below other inRest

/-- No agent occurs twice. -/
theorem Ordered.nodup {index : AgentIndex α} (ordered : index.Ordered) : index.agents.Nodup := by
  refine List.Pairwise.imp ?_ ordered
  intro first second below equal
  rw [equal] at below
  exact Nat.lt_irrefl _ below

/-- The agents of ordered indices are equal when they are the same agents. -/
theorem agents_eq_of_mem_iff {β : Type} {first : AgentIndex α} {second : AgentIndex β}
    (firstOrdered : first.Ordered) (secondOrdered : second.Ordered)
    (same : ∀ agent, agent ∈ first.agents ↔ agent ∈ second.agents) :
    first.agents = second.agents := by
  exact List.Perm.eq_of_pairwise (fun _ _ _ _ below above => absurd below (Nat.lt_asymm above))
    firstOrdered secondOrdered
    ((List.perm_ext_iff_of_nodup firstOrdered.nodup secondOrdered.nodup).mpr same)

/-- What is found is an entry. -/
theorem mem_of_find? {index : AgentIndex α} {agent : AgentId} {value : α}
    (found : index.find? agent = some value) : (agent, value) ∈ index := by
  induction index with
  | nil => simp at found
  | cons entry rest ih =>
    rw [find?_cons] at found
    split at found
    · rename_i same
      cases found
      rw [same]
      exact List.mem_cons_self
    · exact List.mem_cons_of_mem _ (ih found)

/-- Every entry of an ordered index is found. -/
theorem find?_of_mem {index : AgentIndex α} {agent : AgentId} {value : α}
    (ordered : index.Ordered) (member : (agent, value) ∈ index) :
    index.find? agent = some value := by
  induction index with
  | nil => cases member
  | cons entry rest ih =>
    obtain ⟨below, restOrdered⟩ := List.pairwise_cons.mp ordered
    rw [find?_cons]
    rcases List.mem_cons.mp member with equal | inRest
    · simp [← equal]
    · have above := below agent (List.mem_map_of_mem (f := Prod.fst) inRest)
      have different : agent ≠ entry.1 := by
        intro same
        rw [same] at above
        exact Nat.lt_irrefl _ above
      simpa [different] using ih restOrdered inRest

/-- An agent has a value when it is among the agents. -/
theorem contains_iff {index : AgentIndex α} {agent : AgentId} :
    index.contains agent = true ↔ agent ∈ index.agents := by
  unfold contains
  induction index with
  | nil => simp
  | cons entry rest ih =>
    rw [find?_cons]
    by_cases same : agent = entry.1
    · simp [same]
    · simpa [same] using ih

/-- An agent has no value when it is not among the agents. -/
theorem find?_eq_none {index : AgentIndex α} {agent : AgentId} (absent : agent ∉ index.agents) :
    index.find? agent = none := by
  rw [← contains_iff] at absent
  exact Option.not_isSome_iff_eq_none.mp absent

/-- Insertion gives one agent a value. -/
theorem contains_insert (agent other : AgentId) (value : α) (index : AgentIndex α) :
    contains (insert agent value index) other = true ↔
      other = agent ∨ index.contains other = true := by
  rw [contains_iff, contains_iff, mem_agents_insert]

/-- A new agent makes one entry more. -/
theorem insert_perm {agent : AgentId} (value : α) {index : AgentIndex α}
    (fresh : agent ∉ index.agents) : (insert agent value index).Perm ((agent, value) :: index) := by
  induction index with
  | nil => exact .refl _
  | cons entry rest ih =>
    have different : agent ≠ entry.1 := fun same => fresh (by simp [same])
    have restFresh : agent ∉ agents rest := fun member => fresh (by simp [member])
    unfold insert
    rw [if_neg different]
    split
    · exact .refl _
    · exact ((ih restFresh).cons entry).trans (.swap _ _ _)

/-! ## Several entries -/

/-- Give several agents a value, one after the other. -/
def insertAll (index : AgentIndex α) (entries : List (AgentId × α)) : AgentIndex α :=
  entries.foldl (fun index entry => insert entry.1 entry.2 index) index

/-- An index stays in order when entries are inserted. -/
theorem ordered_insertAll {index : AgentIndex α} (entries : List (AgentId × α))
    (ordered : index.Ordered) : Ordered (index.insertAll entries) := by
  induction entries generalizing index with
  | nil => exact ordered
  | cons entry rest ih => exact ih (ordered_insert entry.1 entry.2 ordered)

/-- Listed after insertions are those who were listed and those who were inserted. -/
theorem mem_agents_insertAll (index : AgentIndex α) (entries : List (AgentId × α))
    (agent : AgentId) :
    agent ∈ agents (index.insertAll entries) ↔
      agent ∈ index.agents ∨ agent ∈ entries.map Prod.fst := by
  induction entries generalizing index with
  | nil => simp [insertAll]
  | cons entry rest ih =>
    have rested := ih (insert entry.1 entry.2 index)
    rw [mem_agents_insert] at rested
    rw [List.map_cons, List.mem_cons]
    exact rested.trans (by tauto)

/-- Agents that are given no value keep theirs. -/
theorem find?_insertAll_of_notMem {index : AgentIndex α} {entries : List (AgentId × α)}
    {agent : AgentId} (absent : agent ∉ entries.map Prod.fst) :
    find? (index.insertAll entries) agent = index.find? agent := by
  induction entries generalizing index with
  | nil => rfl
  | cons entry rest ih =>
    rw [List.map_cons, List.mem_cons, not_or] at absent
    have inserted := find?_insert index entry.1 agent entry.2
    rw [if_neg absent.1] at inserted
    exact (ih absent.2).trans inserted

/-- Of several values for different agents each is found. -/
theorem find?_insertAll_of_mem {index : AgentIndex α} {entries : List (AgentId × α)}
    {agent : AgentId} {value : α} (distinct : (entries.map Prod.fst).Nodup)
    (member : (agent, value) ∈ entries) :
    find? (index.insertAll entries) agent = some value := by
  induction entries generalizing index with
  | nil => cases member
  | cons entry rest ih =>
    rw [List.map_cons, List.nodup_cons] at distinct
    rcases List.mem_cons.mp member with equal | inRest
    · subst equal
      have inserted := find?_insert index agent agent value
      rw [if_pos rfl] at inserted
      exact (find?_insertAll_of_notMem distinct.1).trans inserted
    · exact ih distinct.2 inRest

/-- Values for different new agents are entries more. -/
theorem insertAll_perm {index : AgentIndex α} {entries : List (AgentId × α)}
    (distinct : (entries.map Prod.fst).Nodup)
    (fresh : ∀ agent ∈ entries.map Prod.fst, agent ∉ index.agents) :
    (index.insertAll entries).Perm (entries ++ index) := by
  induction entries generalizing index with
  | nil => exact .refl _
  | cons entry rest ih =>
    rw [List.map_cons, List.nodup_cons] at distinct
    have newest := insert_perm entry.2 (fresh entry.1 List.mem_cons_self)
    refine (ih distinct.2 fun agent member inside => ?_).trans
      ((newest.append_left rest).trans List.perm_middle)
    rcases (mem_agents_insert _ _ _ _).mp inside with same | old
    · exact distinct.1 (same ▸ member)
    · exact fresh agent (List.mem_cons_of_mem _ member) old

end AgentIndex

end Deliberation
