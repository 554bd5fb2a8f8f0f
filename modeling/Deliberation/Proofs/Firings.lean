import Deliberation.Proofs.Selection
import Deliberation.Proofs.VigilLog

/-!
# Interceptors that fire

Which interceptors fire in a scan is told by the plans that their schemes make (`firingsFrom`),
whatever the scan leaves on the list. The hits of the scan are the hits of these
(`hits_scanFrom`), and what it takes off the list are these as well (`World.firings_watched`).
-/

namespace Deliberation

open Relation

variable {V : Vocabulary}

/-! ## Who fires in a scan -/

/-- The interceptors that make plans of triggers, in their order, with their hits. This looks at the
plans alone; what a scan leaves on the list does not matter. -/
def firingsFrom (view : View V) : List (Trigger V) → Pursuit → List (Interceptor V) →
    List (Interceptor V × Hit V)
  | _, _, [] => []
  | triggers, pursuit, interceptor :: rest =>
    match firstFiring pursuit view interceptor.scheme triggers with
    | .error _ => []
    | .ok none => firingsFrom view triggers pursuit rest
    | .ok (some firing) =>
      let left :=
        if interceptor.consumes && !firing.trigger.isGoal then firing.before ++ firing.after
        else triggers
      let hit : Hit V :=
        { name := interceptor.scheme.name, trigger := firing.trigger, plan := firing.plan }
      (interceptor, hit) :: firingsFrom view left (firing.trigger.markPursued pursuit) rest

/-- The hits of a scan are those of the interceptors that fire. -/
theorem hits_scanFrom (view : View V) (scanned : List (Interceptor V × Bool)) (hits : List (Hit V))
    (triggers : List (Trigger V)) (pursuit : Pursuit) (interceptors : List (Interceptor V)) :
    (scanFrom view scanned hits triggers pursuit interceptors).hits =
      hits.reverse ++ (firingsFrom view triggers pursuit interceptors).map (·.2) := by
  fun_induction scanFrom view scanned hits triggers pursuit interceptors with
  | case1 => simp [firingsFrom]
  | case2 _ _ _ _ _ _ _ broken => simp [firingsFrom, broken]
  | case3 _ _ _ _ _ _ waits ih => simp [firingsFrom, waits, ih]
  | case4 _ _ _ _ _ _ _ fires _ _ ih =>
    rw [ih, List.reverse_cons, List.append_assoc]
    simp only [firingsFrom, fires]
    rfl

/-! ## What a scan takes off a list -/

/-- Before the first turn all triggers are live. -/
theorem Watch.live_nil (triggers : List (Trigger V)) : (live triggers []).map (·.1) = triggers := by
  simp [live, taken]

/-- A scan that does not break off is the one with its watches. -/
theorem Watch.of_scan {view : View V} {pursuit : Pursuit} {triggers : List (Trigger V)}
    {interceptors : List (Interceptor V)}
    (complete : (scanInterceptors view pursuit triggers interceptors).broken = none) :
    ∃ watches : List (Watch V), watches.map (·.interceptor) = interceptors ∧
      Watch.Follows view pursuit triggers [] watches ∧
      scanInterceptors view pursuit triggers interceptors = Watch.scan pursuit triggers watches := by
  obtain ⟨watches, order, follows⟩ := Watch.follows_of_complete pursuit triggers []
    interceptors [] [] (by rw [Watch.live_nil]; exact complete)
  have scanned := Watch.scanFrom_follows follows [] []
  rw [Watch.live_nil, order] at scanned
  exact ⟨watches, order, follows, scanned⟩

/-- The interceptors that fire, with their hits. -/
def Watch.firings (watches : List (Watch V)) : List (Interceptor V × Hit V) :=
  watches.filterMap fun watch => watch.hit?.map (watch.interceptor, ·)

namespace Watch

variable {watches : List (Watch V)}

/-- Where identities are distinct, they tell which interceptors are selected. -/
theorem any_id_filter (distinct : ((watches.map (·.interceptor)).map Interceptor.id).Nodup)
    (select : Watch V → Bool) {watch : Watch V} (member : watch ∈ watches) :
    ((watches.filter select).map (·.interceptor)).any (·.id == watch.interceptor.id) =
      select watch := by
  rw [List.map_map] at distinct
  rw [Bool.eq_iff_iff, List.any_eq_true]
  constructor
  · rintro ⟨interceptor, chosen, same⟩
    obtain ⟨other, among, rfl⟩ := List.mem_map.mp chosen
    obtain ⟨inside, selected⟩ := List.mem_filter.mp among
    obtain rfl := List.inj_on_of_nodup_map distinct inside member (beq_iff_eq.mp same)
    exact selected
  · intro selected
    exact ⟨_, List.mem_map_of_mem (List.mem_filter.mpr ⟨member, selected⟩), beq_self_eq_true _⟩

/-- The interceptors that fire are those whose watches say so. -/
theorem firingsFrom_follows {view : View V} {pursuit : Pursuit} {triggers : List (Trigger V)}
    {earlier : List (Watch V)} (follows : Follows view pursuit triggers earlier watches) :
    firingsFrom view ((live triggers earlier).map (·.1)) (flags pursuit earlier)
      (watches.map (·.interceptor)) = firings watches := by
  induction watches generalizing earlier with
  | nil => rfl
  | cons watch rest hypothesis =>
    obtain ⟨goes, behind⟩ := follows_cons.mp follows
    have later := hypothesis behind
    rw [flags_append] at later
    cases goes with
    | @fires interceptor shot before after place first grants =>
      rw [live_fires interceptor place] at later
      simp only [List.map_cons, firingsFrom, firstFiring_live place first grants]
      exact congrArg _ later
    | waits passes =>
      rw [live_keeps rfl] at later
      simp only [List.map_cons, firingsFrom,
        firstFiring_of_passes (List.forall_mem_map.mpr passes)]
      exact later

/-- The interceptors that fire are those of the watches with a shot. -/
theorem map_firings (watches : List (Watch V)) :
    (firings watches).map (·.1) = (watches.filter (·.shot?.isSome)).map (·.interceptor) := by
  induction watches with
  | nil => rfl
  | cons watch rest hypothesis =>
    rcases watch with ⟨interceptor, _ | shot⟩
    · simpa [firings, List.filterMap_cons] using hypothesis
    · simpa [firings, List.filterMap_cons] using hypothesis

/-- Where identities are distinct, those that a scan leaves are those that do not fire. -/
theorem left_eq_filter (distinct : ((watches.map (·.interceptor)).map Interceptor.id).Nodup) :
    (watches.filter (·.shot?.isNone)).map (·.interceptor) =
      (watches.map (·.interceptor)).filter fun interceptor =>
        !((firings watches).map (·.1)).any (·.id == interceptor.id) := by
  rw [map_firings, List.filter_map]
  congr 1
  refine List.filter_congr fun watch member => ?_
  refine Eq.trans ?_ (congrArg not (any_id_filter distinct (·.shot?.isSome) member)).symm
  cases watch.shot? <;> rfl

/-- The interceptors fire in the order in which they watch. -/
theorem firings_sublist (watches : List (Watch V)) :
    ((firings watches).map (·.1)).Sublist (watches.map (·.interceptor)) := by
  rw [map_firings]
  exact List.filter_sublist.map _

/-- An interceptor that fires has made a plan. -/
theorem Follows.grants {view : View V} {pursuit : Pursuit} {triggers : List (Trigger V)}
    (follows : Follows view pursuit triggers [] watches) {firing : Interceptor V × Hit V}
    (fires : firing ∈ firings watches) :
    ∃ flags, firing.1.scheme.Grants flags view firing.2.trigger firing.2.plan := by
  obtain ⟨watch, member, hits⟩ := List.mem_filterMap.mp fires
  obtain ⟨before, after, split⟩ := List.append_of_mem member
  have goes := follows before watch after split
  cases goes with
  | fires place first grants =>
    obtain rfl := Option.some.inj hits
    exact ⟨_, grants⟩
  | waits => cases hits

end Watch

namespace World

variable {world : World V} {number : BirthNumber}

/-- The interceptors that make plans in a sense step, with their hits. -/
def firings (world : World V) (number : BirthNumber) (inbox : Inbox V) (category : Category) :
    List (Interceptor V × Hit V) :=
  let triggers := world.offered number inbox category
  if triggers.isEmpty then []
  else
    firingsFrom (world.agent number).view triggers world.pursuit
      ((world.agent number).interceptors.get category)

/-- What a sense step finds through interceptors are the hits of those that fire. -/
theorem intercepted_sensing (world : World V) (number : BirthNumber) (inbox : Inbox V)
    (category : Category) :
    (world.sensing number inbox category).intercepted =
      (world.firings number inbox category).map (·.2) := by
  by_cases empty : (world.offered number inbox category).isEmpty = true
  · simp only [sensing, firings, if_pos empty, List.map_nil]
  · simp only [sensing, firings, if_neg empty]
    exact hits_scanFrom _ [] [] _ _ _

/-- What a sense step does to the interceptors. -/
theorem interceptors_senseTriggers {after : World V} {category : Category}
    {triggers : List (Trigger V)} (inside : number < world.agents.size)
    (senses : world.senseTriggers number category triggers = (after, none)) :
    (world.intercepted number category triggers).broken = none ∧
      (after.agent number).interceptors = (world.agent number).interceptors.set category
        (world.intercepted number category triggers).interceptors := by
  simp only [senseTriggers_eq] at senses
  split at senses
  · cases senses
  · rename_i complete
    split at senses
    · cases senses
    · cases senses
      refine ⟨complete, ?_⟩
      refine (field_modifyAgent Agent.interceptors _ number number _ rfl).trans ?_
      refine (field_modifyAgent Agent.interceptors _ number number _ rfl).trans ?_
      exact congrArg Agent.interceptors
        (agent_modifyAgent_self { world with pursuit := _ } _ inside)

/-- What fires in a sense step goes off its list, and the others stay. -/
theorem firings_watched {after : World V} {inbox : Inbox V} {category : Category}
    (inside : number < world.agents.size)
    (waiting : (world.offered number inbox category).isEmpty = false)
    (senses : world.senseTriggers number category (world.offered number inbox category) =
      (after, none)) :
    ∃ watches : List (Watch V),
      watches.map (·.interceptor) = (world.agent number).interceptors.get category ∧
      (∃ pursuit triggers, Watch.Follows (world.agent number).view pursuit triggers [] watches) ∧
      world.firings number inbox category = Watch.firings watches ∧
      (after.agent number).interceptors = (world.agent number).interceptors.set category
        ((watches.filter (·.shot?.isNone)).map (·.interceptor)) := by
  obtain ⟨complete, left⟩ := interceptors_senseTriggers inside senses
  obtain ⟨watches, order, follows, scanned⟩ := Watch.of_scan complete
  have found : world.intercepted number category (world.offered number inbox category) =
      Watch.scan world.pursuit (world.offered number inbox category) watches := scanned
  refine ⟨watches, order, ⟨_, _, follows⟩, ?_, ?_⟩
  · have fired := Watch.firingsFrom_follows follows
    rw [Watch.live_nil, order] at fired
    simp only [firings, waiting, Bool.false_eq_true, if_false]
    exact fired
  · rw [left, found]
    rfl

end World

end Deliberation
