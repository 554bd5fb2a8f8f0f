import Deliberation.Market.Trading
import Deliberation.Proofs.Pursuit

/-!
# Scans of interceptors

A scan takes triggers out of the list that later interceptors look through, sets flags that later
predicates see, and sorts out the interceptors that fired at its end. What it comes to is said here
by places in the list that it started from: a `Watch` is the turn of one interceptor, and `Follows`
says of a list of watches how each goes, given those before it. The watches determine the scan, and
a scan that does not break off has its watches (`scanInterceptors_watched`).
-/

namespace Deliberation

variable {V : Vocabulary}

/-! ## One scheme and one trigger -/

namespace Scheme

/-- A scheme after it handed out a plan. -/
def used : Scheme V → Scheme V
  | rule name attempt => rule name attempt
  | oneShot name selects plan _ => oneShot name selects plan true

/-- A scheme makes a plan of a trigger. -/
def Grants (scheme : Scheme V) (pursuit : Pursuit) (view : View V) (trigger : Trigger V)
    (plan : Plan V) : Prop :=
  scheme.instantiate pursuit view trigger = .ok (some plan, scheme.used)

/-- A scheme makes no plan of a trigger, and is left as it was. -/
def Passes (scheme : Scheme V) (pursuit : Pursuit) (view : View V) (trigger : Trigger V) : Prop :=
  scheme.instantiate pursuit view trigger = .ok (none, scheme)

/-- A scheme does not panic, whatever it is offered. -/
def Calm (view : View V) (scheme : Scheme V) : Prop :=
  ∀ pursuit trigger, ∃ made, scheme.instantiate pursuit view trigger = .ok made

/-- What can come of offering a trigger to a scheme. -/
theorem tried (scheme : Scheme V) (pursuit : Pursuit) (view : View V) (trigger : Trigger V) :
    (∃ panic, scheme.instantiate pursuit view trigger = .error panic) ∨
      scheme.Passes pursuit view trigger ∨ ∃ plan, scheme.Grants pursuit view trigger plan := by
  cases scheme with
  | rule name attempt =>
    simp only [Passes, Grants, instantiate, used, bind, Except.bind]
    rcases attempt pursuit view trigger with panic | _ | plan <;> simp
  | oneShot name selects plan spent =>
    simp only [Passes, Grants, instantiate, used, bind, Except.bind]
    rcases selects pursuit trigger with panic | _ | _ <;> cases spent <;> simp

/-- A calm scheme makes a plan of a trigger or passes on it. -/
theorem Calm.tried {scheme : Scheme V} {view : View V} (calm : scheme.Calm view)
    (pursuit : Pursuit) (trigger : Trigger V) :
    scheme.Passes pursuit view trigger ∨ ∃ plan, scheme.Grants pursuit view trigger plan := by
  rcases scheme.tried pursuit view trigger with ⟨panic, broken⟩ | passesOrMakes
  · obtain ⟨made, fine⟩ := calm pursuit trigger
    rw [broken] at fine
    cases fine
  · exact passesOrMakes

/-- A scheme that handed out its plan does not panic where it did not before. -/
theorem Calm.used {scheme : Scheme V} {view : View V} (calm : scheme.Calm view) :
    scheme.used.Calm view := by
  intro pursuit trigger
  cases scheme with
  | rule name attempt => exact calm pursuit trigger
  | oneShot name selects plan spent =>
    obtain ⟨made, fine⟩ := calm pursuit trigger
    simp only [Scheme.used, instantiate, bind, Except.bind] at fine ⊢
    cases selected : selects pursuit trigger with
    | error panic => simp [selected] at fine
    | ok selected => simp

end Scheme

/-- To flag the goal of a trigger changes no other flag. -/
theorem Trigger.isPursued_markPursued_iff {trigger : Trigger V} {pursuit : Pursuit}
    {goal : GoalId} : (trigger.markPursued pursuit).isPursued goal = true ↔
      pursuit.isPursued goal = true ∨ ∃ handle, trigger.goal? = some handle ∧ handle.id = goal := by
  refine ⟨isPursued_markPursued, fun flagged => ?_⟩
  unfold markPursued
  cases isGoal : trigger.goal? with
  | none => simpa [isGoal] using flagged
  | some handle =>
    rw [Pursuit.isPursued_set]
    rcases flagged with old | ⟨_, same, rfl⟩
    · simp [old]
    · rw [isGoal] at same
      cases same
      simp

/-- The flags after some hits. -/
def Hit.flags (pursuit : Pursuit) (hits : List (Hit V)) : Pursuit :=
  hits.foldl (fun pursuit hit => hit.trigger.markPursued pursuit) pursuit

/-- Hits in a row flag their goals one after the other. -/
theorem Hit.flags_append (pursuit : Pursuit) (earlier hits : List (Hit V)) :
    flags pursuit (earlier ++ hits) = flags (flags pursuit earlier) hits :=
  List.foldl_append

/-- The goals that are hit are flagged, and no other flag changes. -/
theorem Hit.isPursued_flags (pursuit : Pursuit) (hits : List (Hit V)) (goal : GoalId) :
    (flags pursuit hits).isPursued goal = true ↔
      pursuit.isPursued goal = true ∨ ∃ hit ∈ hits, hit.Pursues goal := by
  induction hits generalizing pursuit with
  | nil => simp [flags]
  | cons hit rest ih =>
    refine (ih (hit.trigger.markPursued pursuit)).trans ?_
    simp [Trigger.isPursued_markPursued_iff, Hit.Pursues, or_assoc]

/-! ## One interceptor and the live triggers -/

/-- An interceptor whose scheme makes no plan does not fire. -/
theorem firstFiring_of_passes {pursuit : Pursuit} {view : View V} {scheme : Scheme V}
    {triggers : List (Trigger V)}
    (passes : ∀ trigger ∈ triggers, scheme.Passes pursuit view trigger) :
    firstFiring pursuit view scheme triggers = .ok none := by
  induction triggers with
  | nil => rfl
  | cons trigger rest ih =>
    obtain ⟨here, behind⟩ := List.forall_mem_cons.mp passes
    unfold Scheme.Passes at here
    simp [firstFiring, here, ih behind, bind, Except.bind]

/-- An interceptor fires on the first trigger that its scheme makes a plan of. -/
theorem firstFiring_of_grants {pursuit : Pursuit} {view : View V} {scheme : Scheme V}
    {before : List (Trigger V)} {trigger : Trigger V} {plan : Plan V}
    (passes : ∀ other ∈ before, scheme.Passes pursuit view other)
    (grants : scheme.Grants pursuit view trigger plan) (after : List (Trigger V)) :
    firstFiring pursuit view scheme (before ++ trigger :: after) =
      .ok (some { before, trigger, after, plan, scheme := scheme.used }) := by
  induction before with
  | nil =>
    unfold Scheme.Grants at grants
    simp [firstFiring, grants, bind, Except.bind]
  | cons other rest ih =>
    obtain ⟨here, behind⟩ := List.forall_mem_cons.mp passes
    unfold Scheme.Passes at here
    simp [firstFiring, here, ih behind, bind, Except.bind]

/-- An interceptor panics, or it fires on no trigger, or on a first one. -/
theorem firstFiring_tried (pursuit : Pursuit) (view : View V) (scheme : Scheme V)
    (triggers : List (Trigger V)) :
    (∃ panic, firstFiring pursuit view scheme triggers = .error panic) ∨
      (∀ trigger ∈ triggers, scheme.Passes pursuit view trigger) ∨
      ∃ before trigger after plan, triggers = before ++ trigger :: after ∧
        (∀ other ∈ before, scheme.Passes pursuit view other) ∧
        scheme.Grants pursuit view trigger plan := by
  induction triggers with
  | nil => exact .inr (.inl (by simp))
  | cons trigger rest ih =>
    rcases scheme.tried pursuit view trigger with ⟨panic, broken⟩ | passes | ⟨plan, grants⟩
    · exact .inl ⟨panic, by simp [firstFiring, broken, bind, Except.bind]⟩
    · rcases ih with ⟨panic, broken⟩ | behind | ⟨before, other, after, plan, split, behind, grants⟩
      · unfold Scheme.Passes at passes
        exact .inl ⟨panic, by simp [firstFiring, passes, broken, bind, Except.bind]⟩
      · exact .inr (.inl (List.forall_mem_cons.mpr ⟨passes, behind⟩))
      · exact .inr (.inr ⟨trigger :: before, other, after, plan, by rw [split, List.cons_append],
          List.forall_mem_cons.mpr ⟨passes, behind⟩, grants⟩)
    · exact .inr (.inr ⟨[], trigger, rest, plan, rfl, by simp, grants⟩)

/-- An interceptor whose scheme is calm does not panic. -/
theorem Scheme.Calm.firstFiring {scheme : Scheme V} {view : View V} (calm : scheme.Calm view)
    (pursuit : Pursuit) (triggers : List (Trigger V)) :
    ∃ firing?, firstFiring pursuit view scheme triggers = .ok firing? := by
  induction triggers with
  | nil => exact ⟨none, rfl⟩
  | cons trigger rest ih =>
    rcases calm.tried pursuit trigger with passes | ⟨plan, grants⟩
    · obtain ⟨firing?, fires⟩ := ih
      unfold Passes at passes
      exact ⟨_, by simp [Deliberation.firstFiring, passes, fires, bind, Except.bind]; rfl⟩
    · unfold Grants at grants
      exact ⟨_, by simp [Deliberation.firstFiring, grants, bind, Except.bind]; rfl⟩

/-! ## Watches -/

/-- Where an interceptor fires: the place of the trigger in the list that the scan started from, the
trigger, and the plan. -/
structure Shot (V : Vocabulary) where
  place : Nat
  trigger : Trigger V
  plan : Plan V

/-- The turn of an interceptor in a scan, and where it fires, if it does. -/
structure Watch (V : Vocabulary) where
  interceptor : Interceptor V
  shot? : Option (Shot V)

namespace Watch

/-- The place that a watch takes out of the list: a consuming interceptor fires there, and there is
no goal. -/
def taken? (watch : Watch V) : Option Nat :=
  watch.shot?.bind fun shot =>
    if watch.interceptor.consumes && !shot.trigger.isGoal then some shot.place else none

/-- The hit of a watch. -/
def hit? (watch : Watch V) : Option (Hit V) :=
  watch.shot?.map fun shot =>
    { name := watch.interceptor.scheme.name, trigger := shot.trigger, plan := shot.plan }

/-- What an interceptor shot at is a hit of its scheme. -/
@[simp] theorem hit?_some (interceptor : Interceptor V) (shot : Shot V) :
    hit? { interceptor, shot? := some shot } =
      some { name := interceptor.scheme.name, trigger := shot.trigger, plan := shot.plan } :=
  rfl

/-- An interceptor that did not fire has no hit. -/
@[simp] theorem hit?_none (interceptor : Interceptor V) :
    hit? { interceptor, shot? := none } = none :=
  rfl

/-- The flags after some watches. -/
def flags (pursuit : Pursuit) (watches : List (Watch V)) : Pursuit :=
  Hit.flags pursuit (watches.filterMap hit?)

/-- The places that some watches take. -/
def taken (watches : List (Watch V)) : List Nat := watches.filterMap taken?

/-- The triggers that are live after some watches, with their places. -/
def live (triggers : List (Trigger V)) (watches : List (Watch V)) : List (Trigger V × Nat) :=
  triggers.zipIdx.filter fun entry => entry.2 ∉ taken watches

/-- The interceptor after its turn, with whether it fired. -/
def passed (watch : Watch V) : Interceptor V × Bool :=
  match watch.shot? with
  | some _ => (watch.interceptor.withScheme watch.interceptor.scheme.used, true)
  | none => (watch.interceptor, false)

/-- How a watch goes with the flags and the live triggers at its turn. An interceptor fires on the
first trigger that it makes a plan of; what it would make of those behind does not matter. -/
inductive Goes (view : View V) (pursuit : Pursuit) (live : List (Trigger V × Nat)) :
    Watch V → Prop where
  | fires {interceptor : Interceptor V} {shot : Shot V} {before after : List (Trigger V × Nat)}
      (place : live = before ++ (shot.trigger, shot.place) :: after)
      (first : ∀ entry ∈ before, interceptor.scheme.Passes pursuit view entry.1)
      (grants : interceptor.scheme.Grants pursuit view shot.trigger shot.plan) :
      Goes view pursuit live { interceptor, shot? := some shot }
  | waits {interceptor : Interceptor V}
      (passes : ∀ entry ∈ live, interceptor.scheme.Passes pursuit view entry.1) :
      Goes view pursuit live { interceptor, shot? := none }

/-- Every watch goes as the ones before it make it go. -/
def Follows (view : View V) (pursuit : Pursuit) (triggers : List (Trigger V))
    (earlier watches : List (Watch V)) : Prop :=
  ∀ before watch after, watches = before ++ watch :: after →
    watch.Goes view (flags pursuit (earlier ++ before)) (live triggers (earlier ++ before))

/-- The result of a scan with some watches. -/
def scan (pursuit : Pursuit) (triggers : List (Trigger V)) (watches : List (Watch V)) : Scan V where
  hits := watches.filterMap hit?
  triggers := (live triggers watches).map (·.1)
  interceptors := (watches.filter (·.shot?.isNone)).map (·.interceptor)
  pursuit := flags pursuit watches
  broken := none

variable {view : View V} {pursuit : Pursuit} {triggers : List (Trigger V)}
  {earlier watches : List (Watch V)} {watch : Watch V}

/-- A list of watches follows a scan if the first one goes as it should and the others follow. -/
theorem follows_cons : Follows view pursuit triggers earlier (watch :: watches) ↔
    watch.Goes view (flags pursuit earlier) (live triggers earlier) ∧
      Follows view pursuit triggers (earlier ++ [watch]) watches := by
  constructor
  · intro follows
    refine ⟨by simpa using follows [] watch watches rfl, ?_⟩
    rintro before other after rfl
    simpa using follows (watch :: before) other after rfl
  · rintro ⟨goes, follows⟩ before other after split
    cases before with
    | nil =>
      cases split
      simpa using goes
    | cons first rest =>
      cases split
      simpa using follows rest other after rfl

/-- One more watch flags the goal of its hit. -/
theorem flags_append : flags pursuit (earlier ++ [watch]) =
    Hit.flags (flags pursuit earlier) watch.hit?.toList := by
  unfold flags
  rw [List.filterMap_append, Hit.flags_append]
  cases hit : watch.hit? <;> simp [hit]

/-- One more watch takes the trigger that it consumes. -/
theorem mem_taken_append {place : Nat} : place ∈ taken (earlier ++ [watch]) ↔
    place ∈ taken earlier ∨ watch.taken? = some place := by
  simp [taken, List.filterMap_append, List.mem_filterMap]

/-- A watch leaves the live triggers but for the place that it takes. -/
theorem live_append : live triggers (earlier ++ [watch]) =
    (live triggers earlier).filter fun entry => watch.taken? ≠ some entry.2 := by
  unfold live
  rw [List.filter_filter]
  refine List.filter_congr fun entry _ => ?_
  simp only [mem_taken_append, not_or, Bool.decide_and]
  exact Bool.and_comm _ _

/-- No two live triggers have the same place. -/
theorem live_places (triggers : List (Trigger V)) (watches : List (Watch V)) :
    ((live triggers watches).map (·.2)).Nodup := by
  have sublist := (List.filter_sublist (l := triggers.zipIdx)
    (p := fun entry => entry.2 ∉ taken watches)).map (·.2)
  rw [List.zipIdx_map_snd] at sublist
  exact List.Nodup.sublist sublist List.nodup_range'

/-- A watch that consumes nothing leaves the triggers. -/
theorem live_keeps (keeps : watch.taken? = none) :
    live triggers (earlier ++ [watch]) = live triggers earlier := by
  rw [live_append, keeps]
  exact List.filter_eq_self.mpr fun entry _ => rfl

/-- A watch that consumes a trigger leaves the triggers around it. -/
theorem live_takes {place : Nat} (takes : watch.taken? = some place)
    {before after : List (Trigger V × Nat)} {trigger : Trigger V}
    (there : live triggers earlier = before ++ (trigger, place) :: after) :
    live triggers (earlier ++ [watch]) = before ++ after := by
  have places := live_places triggers earlier
  rw [there, List.map_append, List.map_cons, List.nodup_middle, List.nodup_cons,
    ← List.map_append] at places
  have apart : ∀ entry ∈ before ++ after, decide (some place ≠ some entry.2) = true := by
    intro entry member
    have different : place ≠ entry.2 := by
      intro same
      exact places.1 (List.mem_map.mpr ⟨entry, member, same.symm⟩)
    simpa using different
  rw [live_append, takes, there, List.filter_append, List.filter_cons, if_neg (by simp),
    ← List.filter_append]
  exact List.filter_eq_self.mpr apart

/-- What is live after an interceptor fired. -/
theorem live_fires (interceptor : Interceptor V) {shot : Shot V}
    {before after : List (Trigger V × Nat)}
    (place : live triggers earlier = before ++ (shot.trigger, shot.place) :: after) :
    (live triggers (earlier ++ [{ interceptor, shot? := some shot }])).map (·.1) =
      if interceptor.consumes && !shot.trigger.isGoal then before.map (·.1) ++ after.map (·.1)
      else (live triggers earlier).map (·.1) := by
  by_cases takes : (interceptor.consumes && !shot.trigger.isGoal) = true
  · rw [if_pos takes, live_takes (by simp only [taken?, Option.bind_some, takes]; rfl) place,
      List.map_append]
  · rw [if_neg takes, live_keeps (by simp only [taken?, Option.bind_some, takes]; rfl)]

/-- An interceptor that fires finds its trigger among those that are live. -/
theorem firstFiring_live {interceptor : Interceptor V} {shot : Shot V}
    {before after live : List (Trigger V × Nat)}
    (place : live = before ++ (shot.trigger, shot.place) :: after)
    (first : ∀ entry ∈ before, interceptor.scheme.Passes pursuit view entry.1)
    (grants : interceptor.scheme.Grants pursuit view shot.trigger shot.plan) :
    firstFiring pursuit view interceptor.scheme (live.map (·.1)) =
      .ok (some
        { before := before.map (·.1), trigger := shot.trigger, after := after.map (·.1)
          plan := shot.plan, scheme := interceptor.scheme.used }) := by
  rw [place, List.map_append, List.map_cons]
  exact firstFiring_of_grants (List.forall_mem_map.mpr first) grants (after.map (·.1))

/-- One turn of a scan. -/
theorem scanFrom_goes (goes : watch.Goes view (flags pursuit earlier) (live triggers earlier))
    (scanned : List (Interceptor V × Bool)) (hits : List (Hit V))
    (interceptors : List (Interceptor V)) :
    scanFrom view scanned hits ((live triggers earlier).map (·.1)) (flags pursuit earlier)
        (watch.interceptor :: interceptors) =
      scanFrom view (watch.passed :: scanned) (watch.hit?.toList ++ hits)
        ((live triggers (earlier ++ [watch])).map (·.1)) (flags pursuit (earlier ++ [watch]))
        interceptors := by
  rw [flags_append]
  cases goes with
  | @fires interceptor shot before after place first grants =>
    rw [live_fires interceptor place]
    simp only [scanFrom, firstFiring_live place first grants]
    rfl
  | waits passes =>
    have waits := firstFiring_of_passes (List.forall_mem_map.mpr passes)
    rw [live_keeps rfl]
    simp only [scanFrom, waits]
    rfl

/-- The watches determine a scan. -/
theorem scanFrom_follows (follows : Follows view pursuit triggers earlier watches)
    (scanned : List (Interceptor V × Bool)) (hits : List (Hit V)) :
    scanFrom view scanned hits ((live triggers earlier).map (·.1)) (flags pursuit earlier)
        (watches.map (·.interceptor)) =
      { hits := hits.reverse ++ watches.filterMap hit?
        triggers := (live triggers (earlier ++ watches)).map (·.1)
        interceptors := (scanned.reverse.filter (!·.2)).map (·.1) ++
          (watches.filter (·.shot?.isNone)).map (·.interceptor)
        pursuit := flags pursuit (earlier ++ watches)
        broken := none } := by
  induction watches generalizing earlier scanned hits with
  | nil => simp [scanFrom]
  | cons watch rest ih =>
    obtain ⟨goes, behind⟩ := follows_cons.mp follows
    rw [List.map_cons, scanFrom_goes goes, ih behind]
    rcases watch with ⟨interceptor, _ | shot⟩ <;> simp [passed, List.filterMap_cons]

/-- An interceptor that does not panic has its turn. -/
theorem goes_of_firstFiring {interceptor : Interceptor V} {live : List (Trigger V × Nat)}
    {firing? : Option (Firing V)}
    (fires : firstFiring pursuit view interceptor.scheme (live.map (·.1)) = .ok firing?) :
    ∃ watch : Watch V, watch.interceptor = interceptor ∧ watch.Goes view pursuit live := by
  rcases firstFiring_tried pursuit view interceptor.scheme (live.map (·.1)) with
    ⟨panic, broken⟩ | passes | ⟨before, trigger, after, plan, split, first, grants⟩
  · rw [broken] at fires
    cases fires
  · exact ⟨_, rfl, .waits (List.forall_mem_map.mp passes)⟩
  · obtain ⟨ahead, behind, rfl, rfl, tail⟩ := List.map_eq_append_iff.mp split
    obtain ⟨entry, rest, rfl, rfl, rfl⟩ := List.map_eq_cons_iff.mp tail
    let shot : Shot V := { place := entry.2, trigger := entry.1, plan }
    exact ⟨{ interceptor, shot? := some shot }, rfl,
      .fires rfl (List.forall_mem_map.mp first) grants⟩

/-- A scan that does not break off has its watches. -/
theorem follows_of_complete (pursuit : Pursuit) (triggers : List (Trigger V))
    (earlier : List (Watch V)) (interceptors : List (Interceptor V))
    (scanned : List (Interceptor V × Bool)) (hits : List (Hit V))
    (complete : (scanFrom view scanned hits ((live triggers earlier).map (·.1))
      (flags pursuit earlier) interceptors).broken = none) :
    ∃ watches : List (Watch V), watches.map (·.interceptor) = interceptors ∧
      Follows view pursuit triggers earlier watches := by
  induction interceptors generalizing earlier scanned hits with
  | nil => exact ⟨[], rfl, by simp [Follows]⟩
  | cons interceptor rest ih =>
    cases fires : firstFiring (flags pursuit earlier) view interceptor.scheme
        ((live triggers earlier).map (·.1)) with
    | error panic => simp [scanFrom, fires] at complete
    | ok firing? =>
      obtain ⟨watch, rfl, goes⟩ := goes_of_firstFiring fires
      rw [scanFrom_goes goes] at complete
      obtain ⟨watches, order, follows⟩ := ih _ _ _ complete
      exact ⟨watch :: watches, by rw [List.map_cons, order], follows_cons.mpr ⟨goes, follows⟩⟩

/-! ### What becomes of triggers and flags -/

/-- A trigger that is left is one of the triggers, and was not taken. -/
theorem live_mem {entry : Trigger V × Nat} (member : entry ∈ live triggers watches) :
    triggers[entry.2]? = some entry.1 ∧ entry.2 ∉ taken watches := by
  obtain ⟨inside, free⟩ := List.mem_filter.mp member
  exact ⟨List.mem_zipIdx_iff_getElem?.mp inside, of_decide_eq_true free⟩

/-- An interceptor fires where the trigger is, and nobody took it before. -/
theorem Goes.there {shot : Shot V} (goes : watch.Goes view pursuit (live triggers earlier))
    (fired : watch.shot? = some shot) :
    triggers[shot.place]? = some shot.trigger ∧ shot.place ∉ taken earlier := by
  cases goes with
  | fires place first grants =>
    cases fired
    have member : (shot.trigger, shot.place) ∈ live triggers earlier := by
      rw [place]
      exact List.mem_append_right _ List.mem_cons_self
    exact live_mem member
  | waits => cases fired

/-- A trigger that was taken was shot at, and it is no goal. -/
theorem taken?_eq_some {place : Nat} (takes : watch.taken? = some place) :
    ∃ shot, watch.shot? = some shot ∧ shot.place = place ∧ shot.trigger.isGoal = false := by
  obtain ⟨shot, fired, taken⟩ := Option.bind_eq_some_iff.mp takes
  split at taken
  · rename_i takes
    exact ⟨shot, fired, Option.some.inj taken, by simpa using (Bool.and_eq_true_iff.mp takes).2⟩
  · cases taken

/-- No place is taken twice. -/
theorem Follows.nodup_taken (follows : Follows view pursuit triggers earlier watches)
    (distinct : (taken earlier).Nodup) : (taken (earlier ++ watches)).Nodup := by
  induction watches generalizing earlier with
  | nil => simpa using distinct
  | cons watch rest ih =>
    obtain ⟨goes, behind⟩ := follows_cons.mp follows
    rw [← List.singleton_append, ← List.append_assoc]
    refine ih behind ?_
    unfold taken at distinct ⊢
    rw [List.filterMap_append]
    cases takes : watch.taken? with
    | none => simpa [takes] using distinct
    | some place =>
      obtain ⟨shot, fired, rfl, -⟩ := taken?_eq_some takes
      have fresh : shot.place ∉ earlier.filterMap taken? := (goes.there fired).2
      have apart : ∀ place ∈ earlier.filterMap taken?, place ≠ shot.place := by
        rintro place member rfl
        exact fresh member
      simpa [takes, List.nodup_append, distinct] using apart

/-- No goal is taken. -/
theorem Follows.taken_isGoal (follows : Follows view pursuit triggers [] watches) {place : Nat}
    (member : place ∈ taken watches) :
    ∃ trigger, triggers[place]? = some trigger ∧ trigger.isGoal = false := by
  obtain ⟨watch, inside, takes⟩ := List.mem_filterMap.mp member
  obtain ⟨shot, fired, rfl, noGoal⟩ := taken?_eq_some takes
  obtain ⟨before, after, split⟩ := List.append_of_mem inside
  exact ⟨shot.trigger, ((follows before watch after split).there fired).1, noGoal⟩

/-- No goal is ever taken. -/
theorem Follows.goals_live (follows : Follows view pursuit triggers [] watches) :
    ((live triggers watches).map (·.1)).filter Trigger.isGoal = triggers.filter Trigger.isGoal := by
  have kept : (live triggers watches).filter (fun entry => entry.1.isGoal) =
      triggers.zipIdx.filter fun entry => entry.1.isGoal := by
    unfold live
    rw [List.filter_filter]
    refine List.filter_congr fun entry member => ?_
    cases isGoal : entry.1.isGoal with
    | false => rfl
    | true =>
      refine (Bool.true_and _).trans (decide_eq_true fun taken => ?_)
      obtain ⟨trigger, there, noGoal⟩ := follows.taken_isGoal taken
      rw [List.mem_zipIdx_iff_getElem?.mp member] at there
      cases there
      rw [isGoal] at noGoal
      cases noGoal
  calc ((live triggers watches).map (·.1)).filter Trigger.isGoal
      = ((live triggers watches).filter fun entry => entry.1.isGoal).map (·.1) := List.filter_map
    _ = (triggers.zipIdx.filter fun entry => entry.1.isGoal).map (·.1) := by rw [kept]
    _ = triggers.filter Trigger.isGoal := by
      conv_rhs => rw [← List.zipIdx_map_fst 0 triggers, List.filter_map]
      rfl

end Watch

/-- A scan whose schemes are calm does not break off. -/
theorem scanFrom_complete {view : View V} (scanned : List (Interceptor V × Bool))
    (hits : List (Hit V)) (triggers : List (Trigger V)) (pursuit : Pursuit)
    (interceptors : List (Interceptor V))
    (calm : ∀ interceptor ∈ interceptors, interceptor.scheme.Calm view) :
    (scanFrom view scanned hits triggers pursuit interceptors).broken = none := by
  induction interceptors generalizing scanned hits triggers pursuit with
  | nil => rfl
  | cons interceptor rest ih =>
    obtain ⟨here, behind⟩ := List.forall_mem_cons.mp calm
    obtain ⟨firing?, fires⟩ := here.firstFiring pursuit triggers
    cases firing? with
    | none =>
      simp only [scanFrom, fires]
      exact ih _ _ _ _ behind
    | some firing =>
      simp only [scanFrom, fires]
      exact ih _ _ _ _ behind

/-- A scan of interceptors, for whatever triggers, interceptors and flags. Where no scheme panics,
it does not break off. A scan that does not break off is the one with its watches: each interceptor
has its turn in order, with the triggers that are live and the flags as they are then, and fires on
the first trigger that it makes a plan of, or not at all. Goals stay, no trigger is taken twice, and
the flags that are set are those of the goals in the hits. -/
theorem scanInterceptors_watched (view : View V) (pursuit : Pursuit) (triggers : List (Trigger V))
    (interceptors : List (Interceptor V)) :
    ((∀ interceptor ∈ interceptors, interceptor.scheme.Calm view) →
      (scanInterceptors view pursuit triggers interceptors).broken = none) ∧
    (∀ result, (scanInterceptors view pursuit triggers interceptors = result ∧
        result.broken = none) ↔
      ∃ watches : List (Watch V), watches.map (·.interceptor) = interceptors ∧
        Watch.Follows view pursuit triggers [] watches ∧
        Watch.scan pursuit triggers watches = result) ∧
    ∀ watches, Watch.Follows view pursuit triggers [] watches →
      (Watch.scan pursuit triggers watches).triggers.filter Trigger.isGoal =
        triggers.filter Trigger.isGoal ∧
      (Watch.taken watches).Nodup ∧
      (∀ before watch after shot, watches = before ++ watch :: after → watch.shot? = some shot →
        triggers[shot.place]? = some shot.trigger ∧ shot.place ∉ Watch.taken before) ∧
      ∀ goal, (Watch.scan pursuit triggers watches).pursuit.isPursued goal = true ↔
        pursuit.isPursued goal = true ∨
          ∃ hit ∈ (Watch.scan pursuit triggers watches).hits, hit.Pursues goal := by
  have whole : (Watch.live triggers []).map (·.1) = triggers := by
    simp [Watch.live, Watch.taken]
  refine ⟨scanFrom_complete _ _ _ _ _, fun result => ⟨?_, ?_⟩, fun watches follows => ?_⟩
  · rintro ⟨rfl, complete⟩
    obtain ⟨watches, order, follows⟩ := Watch.follows_of_complete pursuit triggers []
      interceptors [] [] (by rw [whole]; exact complete)
    have scanned := Watch.scanFrom_follows follows [] []
    rw [whole, order] at scanned
    exact ⟨watches, order, follows, scanned.symm⟩
  · rintro ⟨watches, rfl, follows, rfl⟩
    have scanned := Watch.scanFrom_follows follows [] []
    rw [whole] at scanned
    exact ⟨scanned, rfl⟩
  · refine ⟨follows.goals_live, by simpa using follows.nodup_taken (by simp [Watch.taken]), ?_,
      Hit.isPursued_flags pursuit _⟩
    intro before watch after shot split fired
    simpa using (follows before watch after split).there fired

namespace Market

/-- An interceptor for one of the triggers that are selected. -/
def sentinel (serial : Nat) (consumes : Bool)
    (selects : Pursuit → Trigger vocabulary → Bool) : Interceptor vocabulary :=
  .mk ⟨serial⟩ consumes <| .oneShot "sentinel"
    (fun pursuit trigger => .ok (selects pursuit trigger)) (fun _ => resultPlan (.ok none)) false

/-- The scheme of a sentinel does not panic. -/
theorem sentinel_calm (serial : Nat) (consumes : Bool)
    (selects : Pursuit → Trigger vocabulary → Bool) (view : View vocabulary) :
    (sentinel serial consumes selects).scheme.Calm view := by
  intro pursuit trigger
  simp only [sentinel, Interceptor.scheme, Scheme.instantiate, bind, Except.bind]
  split <;> exact ⟨_, rfl⟩

/-- A goal between two events. -/
def crossing : List (Trigger vocabulary) :=
  [.external .unit, .goal { id := ⟨0⟩, goal := Aim.unrelated }, .external .unit]

/-- Interceptors for the goal, for an event once the goal is pursued, and for three more events, the
first of which is left where it is. -/
def sentinels : List (Interceptor vocabulary) :=
  [sentinel 0 true fun _ trigger => trigger.isGoal,
   sentinel 1 true fun pursuit trigger => !trigger.isGoal && pursuit.isPursued ⟨0⟩,
   sentinel 2 false fun _ trigger => !trigger.isGoal,
   sentinel 3 true fun _ trigger => !trigger.isGoal,
   sentinel 4 true fun _ trigger => !trigger.isGoal]

/-- The view of an agent without contexts. -/
def blank : View vocabulary := { agent := AgentId.ofNat 1, contexts := .empty }

end Market

/-- Four interceptors fire, two events are taken, and the goal and the last interceptor are left. -/
theorem scanInterceptors_watched_crossing :
    ∃ watches : List (Watch Market.vocabulary),
      watches.map (·.interceptor) = Market.sentinels ∧
      Watch.Follows Market.blank .none Market.crossing [] watches ∧
      (Watch.scan .none Market.crossing watches).hits.map (·.trigger.isGoal) =
        [true, false, false, false] ∧
      (Watch.scan .none Market.crossing watches).triggers.map Trigger.isGoal = [true] ∧
      (Watch.scan .none Market.crossing watches).interceptors.map Interceptor.id = [⟨4⟩] ∧
      (Watch.scan .none Market.crossing watches).pursuit = ⟨[⟨0⟩]⟩ := by
  obtain ⟨complete, watched, -⟩ :=
    scanInterceptors_watched Market.blank .none Market.crossing Market.sentinels
  have calm : ∀ interceptor ∈ Market.sentinels, interceptor.scheme.Calm Market.blank := by
    simp only [Market.sentinels, List.forall_mem_cons]
    simp [Market.sentinel_calm]
  obtain ⟨watches, order, follows, result⟩ := (watched _).mp ⟨rfl, complete calm⟩
  exact ⟨watches, order, follows, by rw [result]; decide +kernel⟩

end Deliberation
