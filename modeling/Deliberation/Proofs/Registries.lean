import Mathlib.Data.List.Basic
import Mathlib.Data.List.Induction
import Mathlib.Tactic.Tauto
import Deliberation.Contexts

/-!
# What a registry of contexts answers

The last registration of a capability wins: within one registry (`find?_register`) and over merged
ones (`find?_merge`). The latter needs a registry in which no capability is held twice, which
registering and merging preserve (`Distinct`). Merging is associative on the registries themselves,
not only on their answers, since an entry that loses all its capabilities goes.
-/

namespace Deliberation.Contexts

variable {Object : Type}

/-! ## The view of a registry -/

/-- Of entries in a row the first ones are searched first. -/
theorem findIn?_append (capability : Capability) (first second : List (ContextEntry Object)) :
    findIn? capability (first ++ second) =
      (findIn? capability first).or (findIn? capability second) := by
  induction first with
  | nil => rfl
  | cons entry rest hypothesis =>
    by_cases reachable : capability ∈ entry.capabilities
    · simp [findIn?, reachable]
    · simp [findIn?, reachable, hypothesis]

/-- A capability that no entry has is not found. -/
theorem findIn?_eq_none {capability : Capability} {entries : List (ContextEntry Object)}
    (absent : ∀ entry ∈ entries, capability ∉ entry.capabilities) :
    findIn? capability entries = none := by
  induction entries with
  | nil => rfl
  | cons entry rest hypothesis =>
    rw [findIn?, if_neg (absent entry (List.mem_cons_self ..))]
    exact hypothesis fun other among => absent other (List.mem_cons_of_mem _ among)

/-- Nothing is found in empty contexts. -/
theorem find?_empty (capability : Capability) : (empty : Contexts Object).find? capability = none :=
  rfl

/-- Capabilities are withdrawn entry by entry. -/
theorem withdraw_cons (capabilities : List Capability) (entry : ContextEntry Object)
    (rest : List (ContextEntry Object)) :
    withdraw capabilities (entry :: rest) =
      withdraw capabilities [entry] ++ withdraw capabilities rest := by
  simp only [withdraw, List.map_cons, List.map_nil, List.filter_cons, List.filter_nil]
  split <;> rfl

/-- An entry that is left without capabilities goes. -/
theorem withdraw_singleton_of_eq {capabilities : List Capability} {entry : ContextEntry Object}
    (spent : entry.capabilities.filter (· ∉ capabilities) = []) :
    withdraw capabilities [entry] = [] := by
  rw [withdraw, List.map_singleton, spent]
  rfl

/-- An entry that is left with some capability stays. -/
theorem withdraw_singleton_of_ne {capabilities : List Capability} {entry : ContextEntry Object}
    (remains : entry.capabilities.filter (· ∉ capabilities) ≠ []) :
    withdraw capabilities [entry] =
      [{ entry with capabilities := entry.capabilities.filter (· ∉ capabilities) }] := by
  rw [withdraw, List.map_singleton, List.filter_singleton, List.isEmpty_eq_false_iff.2 remains]
  rfl

/-- Capabilities are withdrawn from entries in a row. -/
theorem withdraw_append (capabilities : List Capability)
    (first second : List (ContextEntry Object)) :
    withdraw capabilities (first ++ second) =
      withdraw capabilities first ++ withdraw capabilities second := by
  simp [withdraw]

/-- An entry keeps the capabilities that are not taken away from it. -/
theorem mem_withdraw {capabilities : List Capability} {entries : List (ContextEntry Object)}
    {entry : ContextEntry Object} (among : entry ∈ withdraw capabilities entries) :
    ∃ old ∈ entries, entry.capabilities = old.capabilities.filter (· ∉ capabilities) := by
  simp only [withdraw, List.mem_filter, List.mem_map] at among
  obtain ⟨⟨old, present, rfl⟩, -⟩ := among
  exact ⟨old, present, rfl⟩

/-- Capabilities that were withdrawn are not found, and all others are found as before. -/
theorem findIn?_withdraw (capabilities : List Capability) (entries : List (ContextEntry Object))
    (capability : Capability) :
    findIn? capability (withdraw capabilities entries) =
      if capability ∈ capabilities then none else findIn? capability entries := by
  split
  case isTrue taken =>
    apply findIn?_eq_none
    intro entry among
    obtain ⟨old, -, kept⟩ := mem_withdraw among
    simp [kept, taken]
  case isFalse free =>
    induction entries with
    | nil => rfl
    | cons entry rest hypothesis =>
      rw [withdraw_cons, findIn?_append, hypothesis]
      by_cases reachable : capability ∈ entry.capabilities
      · have remains : entry.capabilities.filter (· ∉ capabilities) ≠ [] :=
          List.ne_nil_of_mem (List.mem_filter.2 ⟨reachable, by simpa using free⟩)
        rw [withdraw_singleton_of_ne remains]
        simp [findIn?, reachable, free]
      · have misses : findIn? capability (withdraw capabilities [entry]) = none := by
          apply findIn?_eq_none
          intro other among
          obtain ⟨old, present, kept⟩ := mem_withdraw among
          obtain rfl := List.mem_singleton.1 present
          simp [kept, reachable]
        simp [misses, findIn?, reachable]

/-- A registration takes its capabilities over and leaves the others. -/
theorem find?_register (contexts : Contexts Object) (capabilities : List Capability)
    (object : Object) (capability : Capability) :
    (contexts.register capabilities object).find? capability =
      if capability ∈ capabilities then some object else contexts.find? capability := by
  rw [find?, register, findIn?_append, findIn?_withdraw]
  by_cases taken : capability ∈ capabilities
  · simp [taken, findIn?]
  · simp [taken, findIn?, find?]

/-- No capability is held by two entries. -/
def Distinct (contexts : Contexts Object) : Prop :=
  contexts.entries.Pairwise fun entry other =>
    ∀ capability ∈ entry.capabilities, capability ∉ other.capabilities

/-- In empty contexts every capability has at most one entry. -/
theorem distinct_empty : (empty : Contexts Object).Distinct := List.Pairwise.nil

/-- Registering an object leaves each capability with at most one entry. -/
theorem Distinct.register {contexts : Contexts Object} (distinct : contexts.Distinct)
    (capabilities : List Capability) (object : Object) :
    (contexts.register capabilities object).Distinct := by
  refine List.pairwise_append.2 ⟨?_, List.pairwise_singleton _ _, ?_⟩
  · apply List.Pairwise.filter
    refine List.Pairwise.map _ ?_ distinct
    intro entry other apart capability held held'
    exact apart capability (List.mem_filter.1 held).1 (List.mem_filter.1 held').1
  · intro entry among other last capability held
    obtain ⟨old, -, kept⟩ := mem_withdraw among
    obtain rfl := List.mem_singleton.1 last
    rw [kept, List.mem_filter] at held
    simpa using held.2

/-- Merging with nothing changes nothing. -/
@[simp] theorem merge_empty (contexts : Contexts Object) : contexts.merge empty = contexts := rfl

/-- Merging registers the entries one after the other. -/
theorem merge_snoc (first : Contexts Object) (entries : List (ContextEntry Object))
    (entry : ContextEntry Object) :
    first.merge ⟨entries ++ [entry]⟩ =
      (first.merge ⟨entries⟩).register entry.capabilities entry.object := by
  simp [merge, List.foldl_append]

/-- Merging leaves each capability with at most one entry. -/
theorem Distinct.merge {first : Contexts Object} (distinct : first.Distinct)
    (second : Contexts Object) : (first.merge second).Distinct := by
  obtain ⟨entries⟩ := second
  induction entries using List.reverseRecOn with
  | nil => exact distinct
  | append_singleton entries entry hypothesis =>
    rw [merge_snoc]
    exact hypothesis.register _ _

/-- The second registry wins, and the first answers where the second is silent. -/
theorem find?_merge (first : Contexts Object) {second : Contexts Object}
    (distinct : second.Distinct) (capability : Capability) :
    (first.merge second).find? capability =
      (second.find? capability).or (first.find? capability) := by
  obtain ⟨entries⟩ := second
  induction entries using List.reverseRecOn with
  | nil => rfl
  | append_singleton entries entry hypothesis =>
    obtain ⟨apart, -, beyond⟩ := List.pairwise_append.1 distinct
    rw [merge_snoc, find?_register, hypothesis apart]
    by_cases held : capability ∈ entry.capabilities
    · have silent : findIn? capability entries = none := by
        apply findIn?_eq_none
        intro other among held'
        exact beyond other among entry (List.mem_singleton_self _) capability held' held
      simp [find?, findIn?_append, silent, held, findIn?]
    · simp [find?, findIn?_append, held, findIn?]

/-! ## Merging is associative -/

/-- Withdrawing twice withdraws what either of the two withdraws. -/
theorem withdraw_withdraw (second first : List Capability) (entries : List (ContextEntry Object)) :
    withdraw second (withdraw first entries) = withdraw (first ++ second) entries := by
  induction entries with
  | nil => rfl
  | cons entry rest hypothesis =>
    rw [withdraw_cons first, withdraw_append, hypothesis, withdraw_cons (first ++ second)]
    congr 1
    have both : (entry.capabilities.filter (· ∉ first)).filter (· ∉ second) =
        entry.capabilities.filter (· ∉ first ++ second) := by
      rw [List.filter_filter]
      apply List.filter_congr
      intro capability _
      simp [and_comm]
    by_cases spent : entry.capabilities.filter (· ∉ first) = []
    · have spentBoth : entry.capabilities.filter (· ∉ first ++ second) = [] := by
        rw [← both, spent, List.filter_nil]
      rw [withdraw_singleton_of_eq spent, withdraw_singleton_of_eq spentBoth]
      rfl
    · rw [withdraw_singleton_of_ne spent]
      simp only [withdraw, List.map_singleton, both]

/-- What is withdrawn depends only on which capabilities are taken. -/
theorem withdraw_congr {first second : List Capability}
    (same : ∀ capability, capability ∈ first ↔ capability ∈ second)
    (entries : List (ContextEntry Object)) : withdraw first entries = withdraw second entries := by
  simp only [withdraw, same]

/-- The entry that is merged last stands last, and its capabilities are withdrawn from the others.
-/
theorem merge_entries_snoc (first : Contexts Object) (entries : List (ContextEntry Object))
    (entry : ContextEntry Object) :
    (first.merge ⟨entries ++ [entry]⟩).entries =
      withdraw entry.capabilities (first.merge ⟨entries⟩).entries ++ [entry] := by
  rw [merge_snoc, register]

/-- What is withdrawn already need not be withdrawn again. -/
theorem withdraw_of_subset {second first : List Capability}
    (covered : ∀ capability ∈ second, capability ∈ first) (entries : List (ContextEntry Object)) :
    withdraw second (withdraw first entries) = withdraw first entries := by
  rw [withdraw_withdraw]
  apply withdraw_congr
  intro capability
  simpa using covered capability

/-- It does not matter in which order capabilities are withdrawn. -/
theorem withdraw_comm (second first : List Capability) (entries : List (ContextEntry Object)) :
    withdraw second (withdraw first entries) = withdraw first (withdraw second entries) := by
  rw [withdraw_withdraw, withdraw_withdraw]
  apply withdraw_congr
  intro capability
  simp only [List.mem_append, or_comm]

/-- Of the second withdrawal only what the first leaves counts. -/
theorem withdraw_filter_withdraw (second first : List Capability)
    (entries : List (ContextEntry Object)) :
    withdraw (second.filter (· ∉ first)) (withdraw first entries) =
      withdraw second (withdraw first entries) := by
  rw [withdraw_withdraw, withdraw_withdraw]
  apply withdraw_congr
  intro capability
  simp only [List.mem_append, List.mem_filter, decide_eq_true_eq]
  tauto

/-- What a later registration takes over need not be registered before. -/
theorem withdraw_merge_withdraw (first : Contexts Object) (capabilities : List Capability)
    (entries : List (ContextEntry Object)) :
    withdraw capabilities (first.merge ⟨withdraw capabilities entries⟩).entries =
      withdraw capabilities (first.merge ⟨entries⟩).entries := by
  induction entries using List.reverseRecOn with
  | nil => rfl
  | append_singleton entries entry hypothesis =>
    rw [withdraw_append, merge_entries_snoc, withdraw_append]
    -- An entry that keeps no capability is not registered at all, so the two cases differ.
    by_cases spent : entry.capabilities.filter (· ∉ capabilities) = []
    · have covered : ∀ capability ∈ entry.capabilities, capability ∈ capabilities := by
        simpa [List.filter_eq_nil_iff] using spent
      rw [withdraw_singleton_of_eq spent, List.append_nil, List.append_nil, hypothesis,
        withdraw_comm, withdraw_of_subset covered]
    · rw [withdraw_singleton_of_ne spent, merge_entries_snoc, withdraw_append]
      congr 1
      · rw [withdraw_comm, hypothesis, withdraw_filter_withdraw, withdraw_comm]
      · rw [withdraw_singleton_of_ne]
        · simp
        · simpa using spent

/-- To register an object in the second contexts is to register it after merging. -/
theorem merge_register (first second : Contexts Object) (capabilities : List Capability)
    (object : Object) :
    first.merge (second.register capabilities object) =
      (first.merge second).register capabilities object := by
  rw [register, merge_snoc, register, register, withdraw_merge_withdraw]

/-- Merging is associative. -/
theorem merge_assoc (first second third : Contexts Object) :
    (first.merge second).merge third = first.merge (second.merge third) := by
  obtain ⟨entries⟩ := third
  induction entries using List.reverseRecOn with
  | nil => rfl
  | append_singleton entries entry hypothesis =>
    rw [merge_snoc, merge_snoc, merge_register, hypothesis]

end Deliberation.Contexts
