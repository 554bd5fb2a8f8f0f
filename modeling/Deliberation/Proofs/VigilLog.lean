import Deliberation.Proofs.Careers
import Deliberation.Proofs.Composition
import Deliberation.Proofs.GoalBook
import Deliberation.Proofs.Interception

/-!
# Interceptors on and off their lists

An interceptor comes onto the list of a category when it is registered, and goes when it fires or is
removed. A log of such events determines who is on which list (`posted`). Where identities are
distinct, every interceptor that was registered is still there, or exactly one event took it off
(`leavesOnce_of_registered`).

The log also says when plans are executed. What the present execution has changed stands right behind
its beginning.
-/

namespace Deliberation

variable {V : Vocabulary}

/-- A plan at work for an agent. -/
structure Work (V : Vocabulary) where
  /-- The plan as it became active. -/
  origin : Plan V
  /-- How often it has been executed. -/
  executions : Nat
  /-- The plan as it is now. -/
  now : Plan V

namespace Work

/-- A plan that becomes active. -/
def fresh (plan : Plan V) : Work V := { origin := plan, executions := 0, now := plan }

/-- The plan after another execution that left the given memory. -/
def again (work : Work V) (memory : Nat) : Work V :=
  { work with executions := work.executions + 1, now := work.now.remember memory }

/-- The plan is what so many executions have made of it. -/
def Genuine (work : Work V) : Prop := work.origin.Career work.executions work.now

/-- A plan that was just made is genuine. -/
theorem genuine_fresh (plan : Plan V) : (fresh plan).Genuine := .fresh

/-- A genuine plan that returned from a run stays genuine. -/
theorem Genuine.again {work : Work V} (genuine : work.Genuine) {done : List (Tweak V)}
    {result : Except PlanError (Option V.Action)} {memory : Nat}
    (returns : work.now.start.Passage done (.done result memory)) : (work.again memory).Genuine :=
  .executed genuine returns

end Work

/-- What matters to the interceptors of an agent. -/
inductive VigilEvent (V : Vocabulary) where
  /-- The agent is made with an interceptor. -/
  | equips (category : Category) (interceptor : Interceptor V)
  /-- An interceptor fires. -/
  | fires (category : Category) (interceptor : Interceptor V) (hit : Hit V)
  /-- A plan is about to be executed. -/
  | executes (work : Work V)
  /-- The plan that is being executed changes the interceptors. -/
  | tweaks (tweak : Tweak V)

namespace VigilEvent

/-- The interceptor that an event registers, with its category. -/
def registration? : VigilEvent V → Option (Category × Interceptor V)
  | equips category interceptor | tweaks (.adds category interceptor) => some (category, interceptor)
  | _ => none

/-- The interceptor that an event registers under a category. -/
def posts? (category : Category) (event : VigilEvent V) : Option (Interceptor V) :=
  event.registration?.bind (filedUnder category)

/-- Whether an event takes interceptors of an identity off the list of a category. -/
def ousts (category : Category) (id : InterceptorId) : VigilEvent V → Bool
  | fires other interceptor _ => other == category && interceptor.id == id
  | tweaks (.removes other removed) => other == category && removed == id
  | _ => false

/-- An event posts an interceptor where it registers it. -/
theorem posts?_eq_some {event : VigilEvent V} {category : Category} {interceptor : Interceptor V} :
    event.posts? category = some interceptor ↔
      event.registration? = some (category, interceptor) := by
  rw [posts?]
  cases event.registration? with
  | none => simp
  | some entry =>
    rw [Option.bind_some, filedUnder]
    by_cases same : entry.1 = category <;> simp [same, Prod.ext_iff]

end VigilEvent

/-! ## Who is on a list -/

/-- The interceptors that were registered under a category and have not been taken off its list since,
in the order of their registration. -/
def posted (category : Category) : List (VigilEvent V) → List (Interceptor V)
  | [] => []
  | event :: later =>
    ((event.posts? category).toList.filter fun interceptor =>
      !later.any (·.ousts category interceptor.id)) ++ posted category later

/-- Everything that was registered, with its category. -/
def registrations (log : List (VigilEvent V)) : List (Category × Interceptor V) :=
  log.filterMap VigilEvent.registration?

/-- No identity is registered twice. -/
def DistinctIds (log : List (VigilEvent V)) : Prop :=
  ((registrations log).map fun entry => entry.2.id).Nodup

/-- An event takes an interceptor off its list. -/
def Departs (category : Category) (interceptor : Interceptor V) (before : List (VigilEvent V))
    (event : VigilEvent V) : Prop :=
  interceptor ∈ posted category before ∧ event.ousts category interceptor.id = true

variable {category : Category} {interceptor : Interceptor V} {log events : List (VigilEvent V)}
  {event : VigilEvent V}

/-- The registrations of a longer log are those of its parts. -/
theorem registrations_append (log events : List (VigilEvent V)) :
    registrations (log ++ events) = registrations log ++ registrations events :=
  List.filterMap_append ..

/-- An event registers at most one interceptor. -/
theorem registrations_singleton (event : VigilEvent V) :
    registrations [event] = event.registration?.toList := by
  rw [registrations, List.filterMap_cons]
  cases event.registration? <;> rfl

/-- Where the registrations of a log are distinct, they were so earlier. -/
theorem DistinctIds.past (distinct : DistinctIds (log ++ events)) : DistinctIds log := by
  rw [DistinctIds, registrations_append, List.map_append] at distinct
  exact (List.nodup_append.mp distinct).1

/-- Later events take interceptors off a list, and put others behind those that stay. -/
theorem posted_append (category : Category) (log events : List (VigilEvent V)) :
    posted category (log ++ events) =
      ((posted category log).filter fun interceptor =>
        !events.any (·.ousts category interceptor.id)) ++ posted category events := by
  induction log with
  | nil => rfl
  | cons first rest hypothesis =>
    rw [List.cons_append, posted, posted, hypothesis, List.filter_append, List.filter_filter,
      List.append_assoc]
    congr 1
    refine List.filter_congr fun interceptor _ => ?_
    rw [List.any_append, Bool.not_or, Bool.and_comm]

/-- After a single event the interceptor is posted that it posts. -/
theorem posted_singleton (category : Category) (event : VigilEvent V) :
    posted category [event] = (event.posts? category).toList := by
  simp [posted]

/-- An event removes the interceptors that it ousts and posts its own behind the others. -/
theorem posted_snoc (category : Category) (log : List (VigilEvent V)) (event : VigilEvent V) :
    posted category (log ++ [event]) =
      ((posted category log).filter fun interceptor => !event.ousts category interceptor.id) ++
        (event.posts? category).toList := by
  simp [posted_append, posted_singleton]

/-- An interceptor that is posted was registered. -/
theorem registered_of_posted (there : interceptor ∈ posted category log) :
    (category, interceptor) ∈ registrations log := by
  induction log with
  | nil => cases there
  | cons event later hypothesis =>
    rw [← List.singleton_append, registrations_append]
    rcases List.mem_append.mp there with first | behind
    · refine List.mem_append_left _ (List.mem_filterMap.mpr ⟨event, List.mem_singleton_self _, ?_⟩)
      exact VigilEvent.posts?_eq_some.mp (Option.mem_toList.mp (List.mem_of_mem_filter first))
    · exact List.mem_append_right _ (hypothesis behind)

/-- Events that register nothing only take interceptors off. -/
theorem posted_append_of_silent (silent : registrations events = []) :
    posted category (log ++ events) = (posted category log).filter fun interceptor =>
      !events.any (·.ousts category interceptor.id) := by
  have nothing : posted category events = [] := by
    refine List.eq_nil_iff_forall_not_mem.mpr fun interceptor there => ?_
    have registered := registered_of_posted there
    rw [silent] at registered
    cases registered
  rw [posted_append, nothing, List.append_nil]

/-- What an event posts is among what it registers. -/
theorem VigilEvent.posts?_sublist (category : Category) (event : VigilEvent V) :
    ((event.posts? category).toList.map Interceptor.id).Sublist
      (event.registration?.toList.map fun entry => entry.2.id) := by
  rw [posts?]
  cases event.registration? with
  | none => exact .slnil
  | some entry =>
    rw [Option.bind_some, filedUnder]
    split
    · exact List.Sublist.refl _
    · exact List.nil_sublist _

/-- Interceptors are posted in the order in which they were registered. -/
theorem posted_sublist (category : Category) (log : List (VigilEvent V)) :
    ((posted category log).map Interceptor.id).Sublist
      ((registrations log).map fun entry => entry.2.id) := by
  induction log using List.reverseRecOn with
  | nil => exact .slnil
  | append_singleton log event hypothesis =>
    rw [posted_snoc, registrations_append, registrations_singleton, List.map_append, List.map_append]
    exact ((List.filter_sublist.map _).trans hypothesis).append (event.posts?_sublist category)

/-- The identities on a list are distinct. -/
theorem DistinctIds.nodup_posted (distinct : DistinctIds log) (category : Category) :
    ((posted category log).map Interceptor.id).Nodup :=
  distinct.sublist (posted_sublist category log)

/-! ## Coming and going -/

/-- What an event registers was not registered before. -/
theorem DistinctIds.fresh (distinct : DistinctIds (log ++ [event]))
    (registers : event.registration? = some (category, interceptor)) {other : Category}
    {former : Interceptor V} (registered : (other, former) ∈ registrations log) :
    former.id ≠ interceptor.id := by
  rw [DistinctIds, registrations_append, List.map_append, registrations_singleton, registers,
    List.nodup_append] at distinct
  exact distinct.2.2 _ (List.mem_map_of_mem registered) _ (List.mem_singleton_self _)

/-- An interceptor is posted after an event if it was and is not ousted, or is posted now. -/
theorem mem_posted_snoc : interceptor ∈ posted category (log ++ [event]) ↔
    interceptor ∈ posted category log ∧ event.ousts category interceptor.id = false ∨
      event.posts? category = some interceptor := by
  rw [posted_snoc, List.mem_append, List.mem_filter, Option.mem_toList, Bool.not_eq_true']

/-- What was posted at some time is registered for good. -/
theorem posted_of_append {before after : List (VigilEvent V)}
    (there : interceptor ∈ posted category before) :
    (category, interceptor) ∈ registrations (before ++ after) := by
  rw [registrations_append]
  exact List.mem_append_left _ (registered_of_posted there)

/-- An interceptor is on its list and no event has taken it off, or it is not and exactly one has. -/
def LeavesOnce (category : Category) (interceptor : Interceptor V) (log : List (VigilEvent V)) :
    Prop :=
  (interceptor ∈ posted category log ∧
      ∀ before event after, log = before ++ event :: after →
        ¬ Departs category interceptor before event) ∨
    (interceptor ∉ posted category log ∧
      ∃ before event after, log = before ++ event :: after ∧
        Departs category interceptor before event ∧
        ∀ earlier other later, log = earlier ++ other :: later →
          Departs category interceptor earlier other → earlier = before)

/-- The events that take an interceptor off its list are one and the same. -/
theorem LeavesOnce.unique (leaves : LeavesOnce category interceptor log)
    {before earlier after later : List (VigilEvent V)} {other : VigilEvent V}
    (split : log = before ++ event :: after) (departs : Departs category interceptor before event)
    (splits : log = earlier ++ other :: later)
    (otherDeparts : Departs category interceptor earlier other) : earlier = before := by
  rcases leaves with ⟨-, none⟩ | ⟨-, _, _, _, -, -, only⟩
  · exact absurd departs (none before event after split)
  · exact (only earlier other later splits otherDeparts).trans
      (only before event after split departs).symm

/-- Every interceptor that was registered leaves its list once at most. -/
theorem leavesOnce_of_registered (distinct : DistinctIds log)
    (registered : (category, interceptor) ∈ registrations log) :
    LeavesOnce category interceptor log := by
  induction log using List.reverseRecOn with
  | nil => cases registered
  | append_singleton log last hypothesis =>
    rw [registrations_append, List.mem_append] at registered
    rcases registered with old | new
    · -- It was registered before the last event, which does not register it again.
      have unregistered : last.posts? category ≠ some interceptor := fun posts =>
        distinct.fresh (VigilEvent.posts?_eq_some.mp posts) old rfl
      have onward : interceptor ∈ posted category (log ++ [last]) ↔
          interceptor ∈ posted category log ∧ last.ousts category interceptor.id = false := by
        rw [mem_posted_snoc, or_iff_left unregistered]
      rcases hypothesis distinct.past old with ⟨there, none⟩ | ⟨gone, before, event, after, split,
        departs, only⟩
      · by_cases ousted : last.ousts category interceptor.id = true
        · refine .inr ⟨by simp [onward, ousted], log, last, [], rfl, ⟨there, ousted⟩, ?_⟩
          intro earlier other later splits departs
          rcases snoc_eq_append_cons.mp splits with ⟨same, -, -⟩ | ⟨middle, former, -⟩
          · exact same.symm
          · exact absurd departs (none earlier other middle former)
        · rw [Bool.not_eq_true] at ousted
          refine .inl ⟨onward.mpr ⟨there, ousted⟩, ?_⟩
          intro earlier other later splits departs
          rcases snoc_eq_append_cons.mp splits with ⟨-, rfl, -⟩ | ⟨middle, former, -⟩
          · rw [departs.2] at ousted
            cases ousted
          · exact none earlier other middle former departs
      · refine .inr ⟨fun there => gone (onward.mp there).1, before, event, after ++ [last],
          snoc_eq_append_cons.mpr (.inr ⟨after, split, rfl⟩), departs, ?_⟩
        intro earlier other later splits departs
        rcases snoc_eq_append_cons.mp splits with ⟨rfl, -, -⟩ | ⟨middle, former, -⟩
        · exact absurd departs.1 gone
        · exact only earlier other middle former departs
    · -- The last event registers it. Before that it was on no list.
      obtain ⟨event, member, registers⟩ := List.mem_filterMap.mp new
      obtain rfl := List.mem_singleton.mp member
      have posts := VigilEvent.posts?_eq_some.mpr registers
      have absent : ∀ {before after}, log = before ++ after → interceptor ∉ posted category before := by
        rintro before after rfl there
        exact distinct.fresh registers (posted_of_append there) rfl
      refine .inl ⟨mem_posted_snoc.mpr (.inr posts), ?_⟩
      intro earlier other later splits departs
      rcases snoc_eq_append_cons.mp splits with ⟨rfl, -, -⟩ | ⟨middle, former, -⟩
      · exact absent (List.append_nil _).symm departs.1
      · exact absent former departs.1

/-! ## Events that are due -/

/-- Something holds of every event of a log and of what was before it. -/
def Throughout (holds : List (VigilEvent V) → VigilEvent V → Prop) (log : List (VigilEvent V)) :
    Prop :=
  ∀ before event after, log = before ++ event :: after → holds before event

/-- What holds of all events of a log holds of one more event if it holds there. -/
theorem Throughout.snoc {holds : List (VigilEvent V) → VigilEvent V → Prop}
    (throughout : Throughout holds log) (last : holds log event) :
    Throughout holds (log ++ [event]) := by
  intro before other after split
  rcases snoc_eq_append_cons.mp split with ⟨rfl, rfl, -⟩ | ⟨middle, former, -⟩
  · exact last
  · exact throughout before other middle former

/-- A script is being executed: where it is, and what it has changed since its execution began. -/
def UnderWay (log : List (VigilEvent V)) (work : Work V) (done : List (Tweak V))
    (script : Script V) : Prop :=
  (∃ start, log = start ++ .executes work :: done.map .tweaks) ∧
    work.now.start.Passage done script

/-- A plan that is executed is under way from its start on. -/
theorem UnderWay.begins (log : List (VigilEvent V)) (work : Work V) :
    UnderWay (log ++ [.executes work]) work [] work.now.start :=
  ⟨⟨log, rfl⟩, .start⟩

/-- One operation more, and the plan is still under way. -/
theorem UnderWay.goesOn {work : Work V} {done : List (Tweak V)} {script rest : Script V}
    (underWay : UnderWay log work done script) {number : BirthNumber} {turn next : Turn V}
    {wait : Wait} (advances : script.advance number turn = .blocked next wait rest) :
    UnderWay (log ++ script.tweak?.toList.map .tweaks) work (done ++ script.tweak?.toList) rest := by
  obtain ⟨⟨start, rfl⟩, passage⟩ := underWay
  exact ⟨⟨start, by simp⟩, passage.step advances⟩

/-- An event is in order, given what was before it. -/
def Due (before : List (VigilEvent V)) : VigilEvent V → Prop
  | .equips _ _ => True
  | .fires category interceptor hit =>
    interceptor ∈ posted category before ∧
      ∃ pursuit view, interceptor.scheme.Grants pursuit view hit.trigger hit.plan
  | .executes work => work.Genuine
  | .tweaks tweak => ∃ work done script, work.Genuine ∧ UnderWay before work done script ∧
      script.tweak? = some tweak

/-! ## Whole lists -/

/-- The registrations that make up some interceptors. -/
def equipment (interceptors : Interceptors V) : List (VigilEvent V) :=
  Category.all.flatMap fun category => (interceptors.get category).map (.equips category)

/-- An agent starts with the interceptors that it is equipped with. -/
theorem posted_equips (category other : Category) (interceptors : List (Interceptor V)) :
    posted category (interceptors.map (.equips other)) =
      if other = category then interceptors else [] := by
  induction interceptors with
  | nil => simp [posted]
  | cons interceptor rest hypothesis =>
    rw [List.map_cons, posted, hypothesis]
    by_cases same : other = category <;>
      simp [same, VigilEvent.posts?, VigilEvent.registration?, VigilEvent.ousts, filedUnder]

/-- The equipment of a category is posted behind what is there. -/
theorem posted_append_equips (category other : Category) (log : List (VigilEvent V))
    (interceptors : List (Interceptor V)) :
    posted category (log ++ interceptors.map (.equips other)) =
      posted category log ++ if other = category then interceptors else [] := by
  rw [posted_append, posted_equips]
  congr 1
  exact List.filter_eq_self.mpr fun interceptor _ => by simp [VigilEvent.ousts]

/-- An agent that is made with some interceptors has them on its lists. -/
theorem posted_equipment (category : Category) (interceptors : Interceptors V) :
    posted category (equipment interceptors) = interceptors.get category := by
  have listed : equipment interceptors =
      [] ++ (interceptors.get .goal).map (.equips .goal) ++
        (interceptors.get .external).map (.equips .external) ++
        (interceptors.get .internal).map (.equips .internal) ++
        (interceptors.get .message).map (.equips .message) := by
    simp [equipment, Category.all]
  rw [listed]
  simp only [posted_append_equips]
  cases category <;> simp [posted]

end Deliberation
