import Deliberation.Proofs.Interception
import Deliberation.Proofs.Solo

/-!
# Matching with schemes

To match one trigger changes the flags and the one-shot schemes that the triggers behind it meet.
What matching comes to is said here turn by turn: an `Offer` is the turn of a trigger, with the
place of the scheme that it goes to. `Matched` says of a list of offers how each goes, given those
before it, and where matching ends. It says all there is to say about a call (`matchSchemes_matched`), so
what holds over many calls on the same schemes (`Career`) can be read off their offers.
-/

namespace Deliberation

variable {V : Vocabulary}

/-! ## One trigger and the schemes -/

section

variable {pursuit : Pursuit} {view : View V} {trigger : Trigger V}

/-- Schemes that make no plan of a trigger are left as they were. -/
theorem firstPlan_of_passes {schemes : List (Scheme V)}
    (passes : ∀ scheme ∈ schemes, scheme.Passes pursuit view trigger) :
    firstPlan pursuit view trigger schemes = .ok (none, schemes) := by
  induction schemes with
  | nil => rfl
  | cons scheme rest ih =>
    obtain ⟨here, behind⟩ := List.forall_mem_cons.mp passes
    unfold Scheme.Passes at here
    simp [firstPlan, here, ih behind, bind, Except.bind]

/-- The first scheme that makes a plan of a trigger wins, whatever is behind it. -/
theorem firstPlan_of_grants {before after : List (Scheme V)} {scheme : Scheme V} {plan : Plan V}
    (first : ∀ other ∈ before, other.Passes pursuit view trigger)
    (grants : scheme.Grants pursuit view trigger plan) :
    firstPlan pursuit view trigger (before ++ scheme :: after) =
      .ok (some (scheme.name, plan), before ++ scheme.used :: after) := by
  induction before with
  | nil =>
    unfold Scheme.Grants at grants
    simp [firstPlan, grants, bind, Except.bind]
  | cons other rest ih =>
    obtain ⟨here, behind⟩ := List.forall_mem_cons.mp first
    unfold Scheme.Passes at here
    simp [firstPlan, here, ih behind, bind, Except.bind]

/-- If a scheme panics after others have passed, so does the choice. -/
theorem firstPlan_of_panics {before after : List (Scheme V)} {scheme : Scheme V} {panic : Panic}
    (first : ∀ other ∈ before, other.Passes pursuit view trigger)
    (panics : scheme.instantiate pursuit view trigger = .error panic) :
    firstPlan pursuit view trigger (before ++ scheme :: after) = .error panic := by
  induction before with
  | nil => simp [firstPlan, panics, bind, Except.bind]
  | cons other rest ih =>
    obtain ⟨here, behind⟩ := List.forall_mem_cons.mp first
    unfold Scheme.Passes at here
    simp [firstPlan, here, ih behind, bind, Except.bind]

end

/-- Of some schemes, none makes a plan of a trigger, or there is a first one that panics or makes a
plan. -/
theorem firstPlan_tried (pursuit : Pursuit) (view : View V) (trigger : Trigger V)
    (schemes : List (Scheme V)) :
    (∀ scheme ∈ schemes, scheme.Passes pursuit view trigger) ∨
      ∃ before scheme after, schemes = before ++ scheme :: after ∧
        (∀ other ∈ before, other.Passes pursuit view trigger) ∧
        ((∃ panic, scheme.instantiate pursuit view trigger = .error panic) ∨
          ∃ plan, scheme.Grants pursuit view trigger plan) := by
  induction schemes with
  | nil => exact .inl (by simp)
  | cons scheme rest ih =>
    rcases scheme.tried pursuit view trigger with panics | passes | grants
    · exact .inr ⟨[], scheme, rest, rfl, by simp, .inl panics⟩
    · rcases ih with behind | ⟨before, other, after, rfl, first, decides⟩
      · exact .inl (List.forall_mem_cons.mpr ⟨passes, behind⟩)
      · exact .inr ⟨scheme :: before, other, after, rfl,
          List.forall_mem_cons.mpr ⟨passes, first⟩, decides⟩
    · exact .inr ⟨[], scheme, rest, rfl, by simp, .inr grants⟩

/-! ## Offers -/

/-- The scheme that a trigger goes to: its place, its name, and the plan that it makes. -/
structure Choice (V : Vocabulary) where
  place : Nat
  name : String
  plan : Plan V

/-- The turn of a trigger in matching, and the scheme that it goes to, if any. -/
structure Offer (V : Vocabulary) where
  trigger : Trigger V
  choice? : Option (Choice V)

namespace Offer

/-- The hit of an offer. -/
def hit? (offer : Offer V) : Option (Hit V) :=
  offer.choice?.map fun choice =>
    { name := choice.name, trigger := offer.trigger, plan := choice.plan }

/-- A choice is a hit of the scheme that was chosen. -/
@[simp] theorem hit?_some (trigger : Trigger V) (choice : Choice V) :
    hit? { trigger, choice? := some choice } =
      some { name := choice.name, trigger, plan := choice.plan } :=
  rfl

/-- A trigger without a choice has no hit. -/
@[simp] theorem hit?_none (trigger : Trigger V) :
    hit? { trigger, choice? := none } = none :=
  rfl

/-- The flags after some offers. -/
def flags (pursuit : Pursuit) (offers : List (Offer V)) : Pursuit :=
  Hit.flags pursuit (offers.filterMap hit?)

/-- The places of the schemes that some offers go to. -/
def drawn (offers : List (Offer V)) : List Nat :=
  offers.filterMap fun offer => offer.choice?.map (·.place)

/-- The schemes after those at some places handed out plans. -/
def left (schemes : List (Scheme V)) (places : List Nat) : List (Scheme V) :=
  places.foldl (fun schemes place => schemes.modify place Scheme.used) schemes

/-- How an offer goes with the flags and the schemes at its turn. A trigger goes to the first scheme
that makes a plan of it; what those behind would make of it does not matter. -/
inductive Goes (view : View V) (pursuit : Pursuit) (schemes : List (Scheme V)) :
    Offer V → Prop where
  | skips {trigger : Trigger V} (pursued : trigger.isPursuedGoal pursuit = true) :
      Goes view pursuit schemes { trigger, choice? := none }
  | passes {trigger : Trigger V} (offered : trigger.isPursuedGoal pursuit = false)
      (passes : ∀ scheme ∈ schemes, scheme.Passes pursuit view trigger) :
      Goes view pursuit schemes { trigger, choice? := none }
  | draws {trigger : Trigger V} {before after : List (Scheme V)} {scheme : Scheme V}
      {plan : Plan V} (offered : trigger.isPursuedGoal pursuit = false)
      (place : schemes = before ++ scheme :: after)
      (first : ∀ other ∈ before, other.Passes pursuit view trigger)
      (grants : scheme.Grants pursuit view trigger plan) :
      Goes view pursuit schemes
        { trigger, choice? := some { place := before.length, name := scheme.name, plan } }

/-- Where matching ends with some triggers left: there are none, or the first one makes a scheme
panic that is asked about it. -/
inductive Ends (view : View V) (pursuit : Pursuit) (schemes : List (Scheme V)) :
    List (Trigger V) → Option Panic → Prop where
  | completes : Ends view pursuit schemes [] none
  | breaks {trigger : Trigger V} {rest : List (Trigger V)} {before after : List (Scheme V)}
      {scheme : Scheme V} {panic : Panic} (offered : trigger.isPursuedGoal pursuit = false)
      (place : schemes = before ++ scheme :: after)
      (first : ∀ other ∈ before, other.Passes pursuit view trigger)
      (panics : scheme.instantiate pursuit view trigger = .error panic) :
      Ends view pursuit schemes (trigger :: rest) (some panic)

/-- Every offer goes as the ones before it make it go. -/
def Follows (view : View V) (pursuit : Pursuit) (schemes : List (Scheme V))
    (earlier offers : List (Offer V)) : Prop :=
  ∀ before offer after, offers = before ++ offer :: after →
    offer.Goes view (flags pursuit (earlier ++ before)) (left schemes (drawn (earlier ++ before)))

variable {view : View V} {pursuit : Pursuit} {schemes : List (Scheme V)}
  {earlier offers : List (Offer V)} {offer : Offer V}

/-- A list of offers follows the matching if the first one goes as it should and the others follow.
-/
theorem follows_cons : Follows view pursuit schemes earlier (offer :: offers) ↔
    offer.Goes view (flags pursuit earlier) (left schemes (drawn earlier)) ∧
      Follows view pursuit schemes (earlier ++ [offer]) offers := by
  constructor
  · intro follows
    refine ⟨by simpa using follows [] offer offers rfl, ?_⟩
    rintro before other after rfl
    simpa using follows (offer :: before) other after rfl
  · rintro ⟨goes, follows⟩ before other after split
    cases before with
    | nil =>
      cases split
      simpa using goes
    | cons first rest =>
      cases split
      simpa using follows rest other after rfl

/-- One more offer flags the goal of its hit. -/
theorem flags_append : flags pursuit (earlier ++ [offer]) =
    Hit.flags (flags pursuit earlier) offer.hit?.toList := by
  unfold flags
  rw [List.filterMap_append, Hit.flags_append]
  cases hit : offer.hit? <;> simp [hit]

/-- One more offer draws the scheme that was chosen. -/
theorem drawn_append : drawn (earlier ++ [offer]) =
    drawn earlier ++ (offer.choice?.map (·.place)).toList := by
  unfold drawn
  rw [List.filterMap_append]
  cases choice : offer.choice? <;> simp [choice]

/-- The schemes after a trigger went to one of them. -/
theorem left_append {before after : List (Scheme V)} {scheme : Scheme V} {places : List Nat}
    (place : left schemes places = before ++ scheme :: after) :
    left schemes (places ++ [before.length]) = before ++ scheme.used :: after := by
  unfold left at place ⊢
  rw [List.foldl_append, place, List.foldl_cons, List.foldl_nil,
    List.modify_eq_take_cons_drop (by simp)]
  simp

/-- One turn of matching. -/
theorem matchFrom_goes
    (goes : offer.Goes view (flags pursuit earlier) (left schemes (drawn earlier)))
    (hits : List (Hit V)) (triggers : List (Trigger V)) :
    matchFrom view hits (flags pursuit earlier) (left schemes (drawn earlier))
        (offer.trigger :: triggers) =
      matchFrom view (offer.hit?.toList ++ hits) (flags pursuit (earlier ++ [offer]))
        (left schemes (drawn (earlier ++ [offer]))) triggers := by
  rw [flags_append, drawn_append]
  cases goes with
  | skips pursued =>
    simp only [matchFrom, pursued, if_true, Option.map_none, Option.toList_none, List.append_nil]
    rfl
  | passes offered passes =>
    simp only [matchFrom, offered, Bool.false_eq_true, if_false, firstPlan_of_passes passes,
      Option.map_none, Option.toList_none, List.append_nil]
    rfl
  | draws offered place first grants =>
    have used := left_append place
    simp only [Option.map_some, Option.toList_some, used]
    simp only [matchFrom, offered, Bool.false_eq_true, if_false, place,
      firstPlan_of_grants first grants]
    rfl

/-- The offers determine what matching comes to. -/
theorem matchFrom_follows (follows : Follows view pursuit schemes earlier offers)
    {rest : List (Trigger V)} {broken : Option Panic}
    (ends : Ends view (flags pursuit (earlier ++ offers))
      (left schemes (drawn (earlier ++ offers))) rest broken) (hits : List (Hit V)) :
    matchFrom view hits (flags pursuit earlier) (left schemes (drawn earlier))
        (offers.map (·.trigger) ++ rest) =
      { hits := hits.reverse ++ offers.filterMap hit?
        schemes := left schemes (drawn (earlier ++ offers))
        pursuit := flags pursuit (earlier ++ offers)
        broken } := by
  induction offers generalizing earlier hits with
  | nil =>
    rw [List.append_nil] at ends ⊢
    cases ends with
    | completes => simp [matchFrom]
    | breaks offered place first panics =>
      simp [matchFrom, offered, place, firstPlan_of_panics first panics]
  | cons offer rest ih =>
    obtain ⟨goes, behind⟩ := follows_cons.mp follows
    rw [← List.singleton_append (x := offer), ← List.append_assoc] at ends ⊢
    rw [List.singleton_append, List.map_cons, List.cons_append, matchFrom_goes goes,
      ih behind ends]
    rcases offer with ⟨trigger, _ | choice⟩ <;> simp [List.filterMap_cons]

/-- A trigger has its turn, or matching ends with it. -/
theorem goes_or_ends (view : View V) (pursuit : Pursuit) (schemes : List (Scheme V))
    (trigger : Trigger V) (rest : List (Trigger V)) :
    (∃ offer : Offer V, offer.trigger = trigger ∧ offer.Goes view pursuit schemes) ∨
      ∃ panic, Ends view pursuit schemes (trigger :: rest) (some panic) := by
  cases offered : trigger.isPursuedGoal pursuit with
  | true => exact .inl ⟨_, rfl, .skips offered⟩
  | false =>
    rcases firstPlan_tried pursuit view trigger schemes with
      passes | ⟨before, scheme, after, place, first, ⟨panic, panics⟩ | ⟨plan, grants⟩⟩
    · exact .inl ⟨_, rfl, .passes offered passes⟩
    · exact .inr ⟨panic, .breaks offered place first panics⟩
    · exact .inl ⟨_, rfl, .draws offered place first grants⟩

/-- Matching has its offers. -/
theorem exists_follows (view : View V) (pursuit : Pursuit) (schemes : List (Scheme V))
    (earlier : List (Offer V)) (triggers : List (Trigger V)) :
    ∃ offers rest broken, triggers = offers.map (·.trigger) ++ rest ∧
      Follows view pursuit schemes earlier offers ∧
      Ends view (flags pursuit (earlier ++ offers)) (left schemes (drawn (earlier ++ offers)))
        rest broken := by
  induction triggers generalizing earlier with
  | nil => exact ⟨[], [], none, rfl, by simp [Follows], .completes⟩
  | cons trigger rest ih =>
    rcases goes_or_ends view (flags pursuit earlier) (left schemes (drawn earlier)) trigger rest
      with ⟨offer, rfl, goes⟩ | ⟨panic, ends⟩
    · obtain ⟨offers, others, broken, rfl, follows, ends⟩ := ih (earlier ++ [offer])
      rw [List.append_assoc, List.singleton_append] at ends
      exact ⟨offer :: offers, others, broken, rfl, follows_cons.mpr ⟨goes, follows⟩, ends⟩
    · exact ⟨[], _, _, rfl, by simp [Follows], by rwa [List.append_nil]⟩

end Offer

/-- What a call of matching comes to: its offers are those of the first triggers, each goes as the
ones before it make it go, and where the last one leaves things the call ends. -/
structure Matched (view : View V) (pursuit : Pursuit) (schemes : List (Scheme V))
    (triggers : List (Trigger V)) (offers : List (Offer V)) (result : Matches V) : Prop where
  follows : Offer.Follows view pursuit schemes [] offers
  ends : ∃ rest, triggers = offers.map (·.trigger) ++ rest ∧
    Offer.Ends view result.pursuit result.schemes rest result.broken
  hits : result.hits = offers.filterMap Offer.hit?
  schemes : result.schemes = Offer.left schemes (Offer.drawn offers)
  pursuit : result.pursuit = Offer.flags pursuit offers

/-- Offers that follow the matching up to its end give its result. -/
theorem Offer.Follows.matched {view : View V} {pursuit : Pursuit} {schemes : List (Scheme V)}
    {offers : List (Offer V)} {rest : List (Trigger V)} {broken : Option Panic}
    (follows : Follows view pursuit schemes [] offers)
    (ends : Ends view (flags pursuit offers) (left schemes (drawn offers)) rest broken) :
    matchSchemes view pursuit (offers.map (·.trigger) ++ rest) schemes =
      { hits := offers.filterMap hit?, schemes := left schemes (drawn offers)
        pursuit := flags pursuit offers, broken } :=
  matchFrom_follows follows ends []

/-- A call of matching comes to what its offers say. -/
theorem matchSchemes_iff {view : View V} {pursuit : Pursuit} {triggers : List (Trigger V)}
    {schemes : List (Scheme V)} {result : Matches V} :
    matchSchemes view pursuit triggers schemes = result ↔
      ∃ offers, Matched view pursuit schemes triggers offers result := by
  constructor
  · rintro rfl
    obtain ⟨offers, rest, broken, rfl, follows, ends⟩ :=
      Offer.exists_follows view pursuit schemes [] triggers
    rw [follows.matched ends]
    exact ⟨offers, follows, ⟨rest, rfl, ends⟩, rfl, rfl, rfl⟩
  · rintro ⟨offers, follows, ⟨rest, rfl, ends⟩, hits, left, flags⟩
    obtain ⟨_, _, _, broken⟩ := result
    subst hits left flags
    exact follows.matched ends

/-! ## Schemes that are used once -/

/-- A scheme that was used twice is left as after the first time. -/
theorem Scheme.used_used (scheme : Scheme V) : scheme.used.used = scheme.used := by
  cases scheme <;> rfl

/-- A one-shot scheme that handed out its plan makes no other. -/
theorem Scheme.not_grants_spent {name : String} {selects : Pursuit → Trigger V → Except Panic Bool}
    {once : Trigger V → Plan V} {pursuit : Pursuit} {view : View V} {trigger : Trigger V}
    {plan : Plan V} : ¬ (oneShot name selects once true).Grants pursuit view trigger plan := by
  intro grants
  simp only [Grants, instantiate, bind, Except.bind] at grants
  cases selected : selects pursuit trigger with
  | error panic => simp [selected] at grants
  | ok selected => simp_all

namespace Offer

/-- The schemes that were drawn are left used, and the others as they were. -/
theorem left_getElem? (schemes : List (Scheme V)) (places : List Nat) (place : Nat) :
    (left schemes places)[place]? =
      schemes[place]?.map fun scheme => if place ∈ places then scheme.used else scheme := by
  induction places generalizing schemes with
  | nil => simp [left]
  | cons first rest ih =>
    refine (ih (schemes.modify first Scheme.used)).trans ?_
    rw [List.getElem?_modify]
    by_cases same : first = place
    · subst same
      cases schemes[first]? <;> simp [Scheme.used_used]
    · have turned : place ≠ first := Ne.symm same
      simp [same, turned]

/-- Drawing twice is drawing from both lists of places. -/
theorem left_left (schemes : List (Scheme V)) (places others : List Nat) :
    left (left schemes places) others = left schemes (places ++ others) := by
  unfold left
  rw [List.foldl_append]

/-- Schemes that are used panic no sooner. -/
theorem calm_left {view : View V} {schemes : List (Scheme V)}
    (calm : ∀ scheme ∈ schemes, scheme.Calm view) (places : List Nat) :
    ∀ scheme ∈ left schemes places, scheme.Calm view := by
  intro scheme member
  obtain ⟨place, there⟩ := List.mem_iff_getElem?.mp member
  rw [left_getElem?] at there
  obtain ⟨before, was, rfl⟩ := Option.map_eq_some_iff.mp there
  have fine := calm before (List.mem_of_getElem? was)
  split
  · exact fine.used
  · exact fine

/-- A trigger goes to a scheme that makes a plan of it. -/
theorem Goes.grants {view : View V} {pursuit : Pursuit} {schemes : List (Scheme V)}
    {offer : Offer V} {choice : Choice V} {scheme : Scheme V}
    (goes : offer.Goes view pursuit schemes) (chosen : offer.choice? = some choice)
    (there : schemes[choice.place]? = some scheme) :
    scheme.Grants pursuit view offer.trigger choice.plan := by
  cases goes with
  | skips | passes => cases chosen
  | draws offered place first grants =>
    cases chosen
    rw [place] at there
    simp only [List.getElem?_append_right (Nat.le_refl _), Nat.sub_self, List.getElem?_cons_zero]
      at there
    cases there
    exact grants

variable {view : View V} {pursuit : Pursuit} {schemes : List (Scheme V)}
  {earlier offers : List (Offer V)} {place : Nat} {name : String}
  {selects : Pursuit → Trigger V → Except Panic Bool} {once : Trigger V → Plan V} {spent : Bool}

/-- No trigger goes to a one-shot scheme that handed out its plan. -/
theorem Follows.not_mem_drawn (follows : Follows view pursuit schemes earlier offers)
    (there : schemes[place]? = some (.oneShot name selects once spent))
    (gone : spent = true ∨ place ∈ drawn earlier) : place ∉ drawn offers := by
  induction offers generalizing earlier with
  | nil => simp [drawn]
  | cons offer rest ih =>
    obtain ⟨goes, behind⟩ := follows_cons.mp follows
    have later := ih behind (gone.imp_right fun member => by
      rw [drawn_append]
      exact List.mem_append_left _ member)
    have used : (left schemes (drawn earlier))[place]? =
        some (.oneShot name selects once true) := by
      rw [left_getElem?, there]
      rcases gone with rfl | member
      · simp [Scheme.used]
      · simp [Scheme.used, member]
    have elsewhere : ∀ choice, offer.choice? = some choice → choice.place ≠ place := by
      rintro choice chosen rfl
      exact Scheme.not_grants_spent (goes.grants chosen used)
    cases chosen : offer.choice? with
    | none => simpa [drawn, List.filterMap_cons, chosen] using later
    | some choice =>
      have different := Ne.symm (elsewhere choice chosen)
      simpa [drawn, List.filterMap_cons, chosen, different] using later

/-- At most one trigger goes to a one-shot scheme. -/
theorem Follows.count_drawn (follows : Follows view pursuit schemes earlier offers)
    (there : schemes[place]? = some (.oneShot name selects once spent)) :
    (drawn offers).count place ≤ 1 := by
  induction offers generalizing earlier with
  | nil => simp [drawn]
  | cons offer rest ih =>
    obtain ⟨-, behind⟩ := follows_cons.mp follows
    have later := ih behind
    cases chosen : offer.choice? with
    | none => simpa [drawn, List.filterMap_cons, chosen] using later
    | some choice =>
      by_cases same : choice.place = place
      · have gone : place ∈ drawn (earlier ++ [offer]) := by
          simp [drawn_append, chosen, same]
        have never := List.count_eq_zero.mpr (behind.not_mem_drawn there (.inr gone))
        unfold drawn at never ⊢
        simp [chosen, same, never]
      · simpa [drawn, List.filterMap_cons, chosen, same] using later

end Offer

/-- Calls of matching, one after the other, on the schemes that the one before left, with whatever
views, flags and triggers, and the places of the schemes that triggers went to. -/
inductive Career (start : List (Scheme V)) : List (Scheme V) → List Nat → Prop where
  | begins : Career start start []
  | call {schemes : List (Scheme V)} {places : List Nat} {view : View V} {pursuit : Pursuit}
      {triggers : List (Trigger V)} {offers : List (Offer V)} {result : Matches V}
      (before : Career start schemes places)
      (matched : Matched view pursuit schemes triggers offers result) :
      Career start result.schemes (places ++ Offer.drawn offers)

/-- What is left of the schemes tells which ones were used. -/
theorem Career.left {start schemes : List (Scheme V)} {places : List Nat}
    (career : Career start schemes places) : schemes = Offer.left start places := by
  induction career with
  | begins => rfl
  | call before matched ih => rw [matched.schemes, ih, Offer.left_left]

/-- A one-shot scheme makes at most one plan in its life, and none if it was used before. -/
theorem Career.once {start schemes : List (Scheme V)} {places : List Nat}
    (career : Career start schemes places) {place : Nat} {name : String}
    {selects : Pursuit → Trigger V → Except Panic Bool} {once : Trigger V → Plan V} {spent : Bool}
    (there : start[place]? = some (.oneShot name selects once spent)) :
    places.count place ≤ 1 ∧ (spent = true → place ∉ places) := by
  induction career with
  | begins => simp
  | @call schemes places view pursuit triggers offers result before matched ih =>
    have now : schemes[place]? =
        some (.oneShot name selects once (spent || decide (place ∈ places))) := by
      rw [before.left, Offer.left_getElem?, there]
      by_cases member : place ∈ places <;> simp [member, Scheme.used]
    have few := matched.follows.count_drawn now
    rw [List.count_append, List.mem_append]
    by_cases gone : spent = true ∨ place ∈ places
    · have never := matched.follows.not_mem_drawn now (.inl (by simpa using gone))
      rw [List.count_eq_zero.mpr never]
      exact ⟨ih.1, fun isSpent => not_or.mpr ⟨ih.2 isSpent, never⟩⟩
    · obtain ⟨fresh, absent⟩ := not_or.mp gone
      rw [List.count_eq_zero.mpr absent]
      exact ⟨by simpa using few, fun isSpent => absurd isSpent fresh⟩

/-! ## Calls of matching -/

namespace Matched

variable {view : View V} {pursuit : Pursuit} {schemes : List (Scheme V)}
  {triggers : List (Trigger V)} {offers : List (Offer V)} {result : Matches V}

/-- Where no scheme panics, every trigger has its turn. -/
theorem complete (matched : Matched view pursuit schemes triggers offers result)
    (calm : ∀ scheme ∈ schemes, scheme.Calm view) :
    offers.map (·.trigger) = triggers ∧ result.broken = none := by
  obtain ⟨rest, rfl, ends⟩ := matched.ends
  rw [matched.schemes] at ends
  generalize result.broken = broken at ends ⊢
  cases ends with
  | completes => simp
  | breaks offered place first panics =>
    have fine := Offer.calm_left calm _ _ (place ▸ List.mem_append_right _ List.mem_cons_self)
    obtain ⟨made, fine⟩ := fine result.pursuit _
    rw [panics] at fine
    cases fine

/-- The flags that are up afterwards were up before, or are those of goals that were hit. -/
theorem isPursued_iff (matched : Matched view pursuit schemes triggers offers result)
    (goal : GoalId) : result.pursuit.isPursued goal = true ↔
      pursuit.isPursued goal = true ∨ goal ∈ result.hits.filterMap Hit.target? := by
  rw [matched.pursuit, matched.hits, Offer.flags, Hit.isPursued_flags]
  simp [Hit.Pursues, Hit.target?]

end Matched

/-- Matching with schemes, for whatever triggers, schemes and flags. Where no scheme panics, every
trigger has its turn. A call is the one with its offers: each trigger in order is skipped if it is a
goal that is pursued by then, and otherwise goes to the first of the schemes, as they are by then,
that makes a plan of it, whatever the schemes behind would do; a scheme that panics ends the call.
No goal is hit twice or was pursued before, and the flags that are set are those of the goals in the
hits. Over any calls one after the other, a one-shot scheme makes at most one plan. -/
theorem matchSchemes_matched (view : View V) (pursuit : Pursuit) (triggers : List (Trigger V))
    (schemes : List (Scheme V)) :
    (∀ result, matchSchemes view pursuit triggers schemes = result ↔
      ∃ offers, Matched view pursuit schemes triggers offers result) ∧
    (∀ offers result, Matched view pursuit schemes triggers offers result →
      ((∀ scheme ∈ schemes, scheme.Calm view) →
        offers.map (·.trigger) = triggers ∧ result.broken = none) ∧
      (result.hits.filterMap Hit.target?).Nodup ∧
      (∀ goal ∈ result.hits.filterMap Hit.target?, pursuit.isPursued goal = false) ∧
      ∀ goal, result.pursuit.isPursued goal = true ↔
        pursuit.isPursued goal = true ∨ goal ∈ result.hits.filterMap Hit.target?) ∧
    ∀ now places, Career schemes now places →
      ∀ place name selects once spent, schemes[place]? = some (.oneShot name selects once spent) →
        places.count place ≤ 1 ∧ (spent = true → place ∉ places) := by
  refine ⟨fun result => matchSchemes_iff, fun offers result matched => ?_,
    fun now places career place name selects once spent there => career.once there⟩
  have call := matchSchemes_iff.mpr ⟨offers, matched⟩
  have fresh := matchFrom_fresh view pursuit [] pursuit schemes triggers (.aimless rfl)
  rw [show matchFrom view [] pursuit schemes triggers = result from call] at fresh
  exact ⟨matched.complete, fresh.distinct, fresh.unflagged, matched.isPursued_iff⟩

namespace Market

/-- A scheme that is used once, for an event, and one for all triggers. -/
def clerks : List (Scheme vocabulary) :=
  [.oneShot "once" (fun _ trigger => .ok !trigger.isGoal) (fun _ => resultPlan (.ok none)) false,
   .rule "always" fun _ _ _ => .ok (some (resultPlan (.ok none)))]

/-- A goal, an event, the goal again, and another event. -/
def counter : List (Trigger vocabulary) :=
  [.goal { id := ⟨0⟩, goal := Aim.unrelated }, .external .unit,
   .goal { id := ⟨0⟩, goal := Aim.unrelated }, .external .unit]

/-- The schemes of the clerks do not panic. -/
theorem clerks_calm (view : View vocabulary) : ∀ scheme ∈ clerks, scheme.Calm view := by
  simp only [clerks, List.forall_mem_cons]
  refine ⟨fun pursuit trigger => ?_, fun pursuit trigger => ⟨_, rfl⟩, by simp⟩
  simp only [Scheme.instantiate, bind, Except.bind]
  split <;> exact ⟨_, rfl⟩

end Market

/-- The goal has a plan once, and so has the one-shot scheme, also in a second call. -/
theorem matchSchemes_matched_counter :
    ∃ offers result, Matched Market.blank .none Market.clerks Market.counter offers result ∧
      offers.map (·.trigger) = Market.counter ∧
      result.hits.map (·.name) = ["always", "once", "always"] ∧
      (result.hits.filterMap Hit.target?).Nodup ∧
      ∃ others later,
        Matched Market.blank result.pursuit result.schemes Market.counter others later ∧
        later.hits.map (·.name) = ["always", "always"] ∧
        ([] ++ Offer.drawn offers ++ Offer.drawn others).count 0 ≤ 1 := by
  obtain ⟨called, tells, once⟩ :=
    matchSchemes_matched Market.blank .none Market.counter Market.clerks
  obtain ⟨offers, matched⟩ := (called _).mp rfl
  obtain ⟨complete, distinct, -⟩ := tells _ _ matched
  obtain ⟨others, again⟩ := (matchSchemes_matched Market.blank _ Market.counter _).1 _ |>.mp rfl
  have career := (Career.begins.call matched).call again
  exact ⟨offers, _, matched, (complete (Market.clerks_calm _)).1, by decide +kernel, distinct,
    others, _, again, by decide +kernel, (once _ _ career 0 _ _ _ _ rfl).1⟩

end Deliberation
