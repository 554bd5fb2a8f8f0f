import Deliberation.Proofs.Requests
import Mathlib.Data.List.Dedup

/-!
# The book of goals

Goals come to an agent in two ways: they come into its inbox and wait for a cycle to drain it, or a
plan requests them and they wait for the end of its cycle. They go when a cycle checks them and finds
them achieved, and when the agent retires. A log of such events determines which goals are held
(`GoalBook.of`).

What the book says can be read off the log without keeping a book: a goal is held when some event
adopted it and no event since has ended it (`GoalBook.mem_held_iff`). The goals are held in the order
in which they last came in (`GoalBook.held_sublist`).
-/

namespace Deliberation

variable {V : Vocabulary}

/-- Whether the predicate of a goal holds on contexts. -/
def GoalHandle.isAchieved (handle : GoalHandle V) (contexts : Contexts V.Object) : Bool :=
  match V.holds handle.goal contexts with
  | .ok true => true
  | _ => false

/-- What matters to the goals of an agent. -/
inductive GoalEvent (V : Vocabulary) where
  /-- A goal comes into the inbox. -/
  | comes (handle : GoalHandle V)
  /-- A plan requests a goal. -/
  | requests (handle : GoalHandle V)
  /-- A cycle begins: the inbox is drained. -/
  | drains
  /-- The goals that are held are checked. -/
  | checks (contexts : Contexts V.Object)
  /-- A step of the goal category starts from triggers. -/
  | offers (triggers : List (Trigger V))
  /-- A cycle ends: what its plans requested is applied. -/
  | applies
  /-- The agent drops everything. -/
  | retires

namespace GoalEvent

/-- The goal that an event brings up. -/
def handle? : GoalEvent V → Option (GoalHandle V)
  | comes handle | requests handle => some handle
  | _ => none

/-- Whether an event ends the tenure of a goal. -/
def ends (handle : GoalHandle V) : GoalEvent V → Bool
  | checks contexts => handle.isAchieved contexts
  | retires => true
  | _ => false

/-- Whether an event leaves the goals that are held alone. -/
def isAside : GoalEvent V → Bool
  | comes _ | requests _ | offers _ => true
  | _ => false

end GoalEvent

/-- Handles of one identity are one handle. -/
def Coherent (log : List (GoalEvent V)) : Prop :=
  ∀ first ∈ log.filterMap GoalEvent.handle?, ∀ second ∈ log.filterMap GoalEvent.handle?,
    first.id = second.id → first = second

/-- Where the handles of a log are coherent, they were so earlier. -/
theorem Coherent.past {past later : List (GoalEvent V)} (coherent : Coherent (past ++ later)) :
    Coherent past := by
  intro first inPast second inPast'
  rw [Coherent, List.filterMap_append] at coherent
  exact coherent first (List.mem_append_left _ inPast) second (List.mem_append_left _ inPast')

/-! ## Keeping the book -/

/-- An account of goals. -/
structure GoalBook (V : Vocabulary) where
  /-- What waits in the inbox. -/
  inbox : List (GoalHandle V)
  /-- What plans of the present cycle have requested. -/
  requested : List (GoalHandle V)
  held : List (GoalHandle V)
  /-- Every goal that was ever taken in, in order, as often as it was. -/
  entered : List (GoalHandle V)

namespace GoalBook

/-- Nothing has happened yet. -/
def empty : GoalBook V := { inbox := [], requested := [], held := [], entered := [] }

/-- Take in the new ones among goals. -/
def takeIn (book : GoalBook V) (handles : List (GoalHandle V)) : GoalBook V :=
  { book with
    held := book.held ++ newGoals book.held handles
    entered := book.entered ++ newGoals book.held handles }

/-- Account for an event. -/
def note (book : GoalBook V) : GoalEvent V → GoalBook V
  | .comes handle => { book with inbox := book.inbox ++ [handle] }
  | .requests handle => { book with requested := book.requested ++ [handle] }
  | .drains => { book.takeIn book.inbox with inbox := [], requested := [] }
  | .checks contexts =>
    { book with held := book.held.filter fun handle => !handle.isAchieved contexts }
  | .offers _ => book
  | .applies => book.takeIn book.requested
  | .retires => { book with held := [] }

/-- Account for events one after the other. -/
def noteAll (book : GoalBook V) (events : List (GoalEvent V)) : GoalBook V :=
  events.foldl note book

/-- The account of a log. -/
def of (log : List (GoalEvent V)) : GoalBook V := empty.noteAll log

/-- Events in a row are noted one after the other. -/
theorem noteAll_append (book : GoalBook V) (first second : List (GoalEvent V)) :
    book.noteAll (first ++ second) = (book.noteAll first).noteAll second :=
  List.foldl_append ..

/-- The book of a longer log goes on with the book of its first part. -/
theorem of_append (log events : List (GoalEvent V)) : of (log ++ events) = (of log).noteAll events :=
  noteAll_append ..

/-- The book of a log with one more event notes this event. -/
theorem of_snoc (log : List (GoalEvent V)) (event : GoalEvent V) :
    of (log ++ [event]) = (of log).note event :=
  noteAll_append ..

/-- Goals that come in wait in the inbox. -/
theorem noteAll_comes (book : GoalBook V) (handles : List (GoalHandle V)) :
    book.noteAll (handles.map .comes) = { book with inbox := book.inbox ++ handles } := by
  induction handles generalizing book with
  | nil => simp [noteAll]
  | cons handle rest hypothesis =>
    refine (hypothesis (book.note (.comes handle))).trans ?_
    simp [note]

/-- Events that do not concern what is held leave it. -/
theorem held_noteAll_of_isAside (book : GoalBook V) {events : List (GoalEvent V)}
    (aside : ∀ event ∈ events, event.isAside = true) : (book.noteAll events).held = book.held := by
  induction events generalizing book with
  | nil => rfl
  | cons event rest hypothesis =>
    obtain ⟨first, others⟩ := List.forall_mem_cons.mp aside
    refine (hypothesis (book.note event) others).trans ?_
    cases event with
    | comes | requests | offers => rfl
    | drains | checks | applies | retires => cases first

end GoalBook

/-! ## Reading the log -/

/-- Something has happened since the last cycle began. -/
def SinceDrained (event : GoalEvent V) (log : List (GoalEvent V)) : Prop :=
  ∃ before after, log = before ++ event :: after ∧ .drains ∉ after

/-- An event adopts a goal: the goal has come into the inbox that is drained, or a plan of the cycle
that ends has requested it. -/
def Adopts (handle : GoalHandle V) (before : List (GoalEvent V)) : GoalEvent V → Prop
  | .drains => SinceDrained (.comes handle) before
  | .applies => SinceDrained (.requests handle) before
  | _ => False

/-- Some event adopted a goal, and no event since has ended its tenure. -/
def HeldSince (handle : GoalHandle V) (log : List (GoalEvent V)) : Prop :=
  ∃ before event after, log = before ++ event :: after ∧ Adopts handle before event ∧
    ∀ later ∈ after, later.ends handle = false

/-- An event of a log that goes on is the last one, or it was there before. -/
theorem snoc_eq_append_cons {Event : Type*} {log before after : List Event} {last event : Event} :
    log ++ [last] = before ++ event :: after ↔
      (log = before ∧ last = event ∧ after = []) ∨
        ∃ middle, log = before ++ event :: middle ∧ after = middle ++ [last] := by
  constructor
  · intro split
    rcases List.eq_nil_or_concat' after with rfl | ⟨middle, final, rfl⟩
    · obtain ⟨same, ends⟩ := List.append_inj' split rfl
      exact .inl ⟨same, (List.cons.inj ends).1, rfl⟩
    · rw [← List.cons_append, ← List.append_assoc] at split
      obtain ⟨same, ends⟩ := List.append_inj' split rfl
      obtain rfl := (List.cons.inj ends).1
      exact .inr ⟨middle, same, rfl⟩
  · rintro (⟨rfl, rfl, rfl⟩ | ⟨middle, rfl, rfl⟩)
    · rfl
    · simp

/-- Since the inbox was drained, an event has happened if it is the last one, or happened before. -/
theorem sinceDrained_snoc {sought event : GoalEvent V} {log : List (GoalEvent V)} :
    SinceDrained sought (log ++ [event]) ↔
      event = sought ∨ SinceDrained sought log ∧ event ≠ .drains := by
  constructor
  · rintro ⟨before, after, split, undrained⟩
    rcases snoc_eq_append_cons.mp split with ⟨-, same, -⟩ | ⟨middle, earlier, rfl⟩
    · exact .inl same
    · rw [List.mem_append, List.mem_singleton, not_or] at undrained
      exact .inr ⟨⟨before, middle, earlier, undrained.1⟩, Ne.symm undrained.2⟩
  · rintro (rfl | ⟨⟨before, after, earlier, undrained⟩, different⟩)
    · exact ⟨log, [], rfl, List.not_mem_nil⟩
    · refine ⟨before, after ++ [event], snoc_eq_append_cons.mpr (.inr ⟨after, earlier, rfl⟩), ?_⟩
      rw [List.mem_append, List.mem_singleton, not_or]
      exact ⟨undrained, Ne.symm different⟩

/-- A goal is held after an event that adopts it, or if it was held and the event does not end that.
-/
theorem heldSince_snoc {handle : GoalHandle V} {event : GoalEvent V} {log : List (GoalEvent V)} :
    HeldSince handle (log ++ [event]) ↔
      Adopts handle log event ∨ HeldSince handle log ∧ event.ends handle = false := by
  constructor
  · rintro ⟨before, adoption, after, split, adopts, endures⟩
    rcases snoc_eq_append_cons.mp split with ⟨rfl, rfl, -⟩ | ⟨middle, earlier, rfl⟩
    · exact .inl adopts
    · rw [List.forall_mem_append, List.forall_mem_singleton] at endures
      exact .inr ⟨⟨before, adoption, middle, earlier, adopts, endures.1⟩, endures.2⟩
  · rintro (adopts | ⟨⟨before, adoption, after, earlier, adopts, endures⟩, goesOn⟩)
    · exact ⟨log, event, [], rfl, adopts, by simp⟩
    · refine ⟨before, adoption, after ++ [event],
        snoc_eq_append_cons.mpr (.inr ⟨after, earlier, rfl⟩), adopts, ?_⟩
      rw [List.forall_mem_append, List.forall_mem_singleton]
      exact ⟨endures, goesOn⟩

namespace GoalBook

/-- Nothing is held at the start. -/
theorem not_heldSince_nil (handle : GoalHandle V) : ¬ HeldSince handle [] := by
  rintro ⟨before, event, after, split, -⟩
  exact List.append_ne_nil_of_right_ne_nil before (List.cons_ne_nil event after) split.symm

/-- Nothing has happened at the start. -/
theorem not_sinceDrained_nil (event : GoalEvent V) : ¬ SinceDrained event [] := by
  rintro ⟨before, after, split, -⟩
  exact List.append_ne_nil_of_right_ne_nil before (List.cons_ne_nil event after) split.symm

/-- What an event puts on a list that beginning a cycle empties has happened since the last cycle
began. -/
theorem mem_iff_sinceDrained {waiting : GoalBook V → List (GoalHandle V)}
    {brings : GoalEvent V} {handle : GoalHandle V} (start : handle ∉ waiting empty)
    (note : ∀ (book : GoalBook V) (event : GoalEvent V), handle ∈ waiting (book.note event) ↔
      event = brings ∨ handle ∈ waiting book ∧ event ≠ .drains) (log : List (GoalEvent V)) :
    handle ∈ waiting (of log) ↔ SinceDrained brings log := by
  induction log using List.reverseRecOn with
  | nil => exact iff_of_false start (not_sinceDrained_nil brings)
  | append_singleton log event hypothesis =>
    rw [of_snoc, note, sinceDrained_snoc, hypothesis]

/-- What waits has come in since the inbox was last drained. -/
theorem mem_inbox_iff (log : List (GoalEvent V)) (handle : GoalHandle V) :
    handle ∈ (of log).inbox ↔ SinceDrained (.comes handle) log := by
  refine mem_iff_sinceDrained List.not_mem_nil (fun book event => ?_) log
  cases event with
  | comes other => simp [note, or_comm, eq_comm]
  | drains => simp [note]
  | requests | checks | offers | applies | retires => simp [note, takeIn]

/-- What is requested was requested since the cycle began. -/
theorem mem_requested_iff (log : List (GoalEvent V)) (handle : GoalHandle V) :
    handle ∈ (of log).requested ↔ SinceDrained (.requests handle) log := by
  refine mem_iff_sinceDrained List.not_mem_nil (fun book event => ?_) log
  cases event with
  | requests other => simp [note, or_comm, eq_comm]
  | drains => simp [note]
  | comes | checks | offers | applies | retires => simp [note, takeIn]

/-! ## What the book says -/

/-- Where handles of one identity are one handle, taking goals in makes them held. -/
theorem mem_takeIn {book : GoalBook V} {handles : List (GoalHandle V)}
    (coherent : ∀ first ∈ book.held ++ handles, ∀ second ∈ book.held ++ handles,
      first.id = second.id → first = second) (handle : GoalHandle V) :
    handle ∈ (book.takeIn handles).held ↔ handle ∈ book.held ∨ handle ∈ handles := by
  rw [takeIn, List.mem_append]
  constructor
  · rintro (old | new)
    · exact .inl old
    · exact .inr ((newGoals_sublist book.held handles).subset new)
  · rintro (old | asked)
    · exact .inl old
    · by_cases known : handle.id ∈ book.held.map (·.id)
      · obtain ⟨other, old, same⟩ := List.mem_map.mp known
        rw [← coherent other (List.mem_append_left _ old) handle (List.mem_append_right _ asked)
          same]
        exact .inl old
      · have counted := count_newGoals book.held handles handle.id
        rw [if_pos ⟨List.mem_map_of_mem asked, known⟩] at counted
        have present : handle.id ∈ (newGoals book.held handles).map (·.id) :=
          List.count_pos_iff.mp (by rw [counted]; exact Nat.one_pos)
        obtain ⟨other, new, same⟩ := List.mem_map.mp present
        have asked' := (newGoals_sublist book.held handles).subset new
        rw [← coherent other (List.mem_append_right _ asked') handle
          (List.mem_append_right _ asked) same]
        exact .inr new

/-- What waits was brought up in the log. -/
theorem handle_of_sinceDrained {log : List (GoalEvent V)} {event : GoalEvent V}
    {handle : GoalHandle V} (since : SinceDrained event log) (brings : event.handle? = some handle) :
    handle ∈ log.filterMap GoalEvent.handle? := by
  obtain ⟨before, after, rfl, -⟩ := since
  exact List.mem_filterMap.mpr ⟨event, by simp, brings⟩

/-- A goal that waits in the inbox has come up in the log. -/
theorem handle_of_inbox {log : List (GoalEvent V)} {handle : GoalHandle V}
    (waits : handle ∈ (of log).inbox) : handle ∈ log.filterMap GoalEvent.handle? :=
  handle_of_sinceDrained ((mem_inbox_iff log handle).mp waits) rfl

/-- A goal that was requested has come up in the log. -/
theorem handle_of_requested {log : List (GoalEvent V)} {handle : GoalHandle V}
    (waits : handle ∈ (of log).requested) : handle ∈ log.filterMap GoalEvent.handle? :=
  handle_of_sinceDrained ((mem_requested_iff log handle).mp waits) rfl

/-- A goal that is held has come up in the log. -/
theorem handle_of_held {log : List (GoalEvent V)} {handle : GoalHandle V}
    (held : handle ∈ (of log).held) : handle ∈ log.filterMap GoalEvent.handle? := by
  induction log using List.reverseRecOn with
  | nil => cases held
  | append_singleton log event hypothesis =>
    rw [List.filterMap_append]
    refine List.mem_append_left _ ?_
    rw [of_snoc] at held
    cases event with
    | comes | requests | offers => exact hypothesis held
    | drains =>
      rcases List.mem_append.mp held with old | new
      · exact hypothesis old
      · exact handle_of_inbox ((newGoals_sublist _ _).subset new)
    | applies =>
      rcases List.mem_append.mp held with old | new
      · exact hypothesis old
      · exact handle_of_requested ((newGoals_sublist _ _).subset new)
    | checks contexts => exact hypothesis (List.mem_of_mem_filter held)
    | retires => cases held

/-- Taking in goals that the log has brought up makes them held. -/
theorem mem_takeIn_of_brought {log : List (GoalEvent V)} (coherent : Coherent log)
    {handles : List (GoalHandle V)}
    (brought : ∀ handle ∈ handles, handle ∈ log.filterMap GoalEvent.handle?)
    (handle : GoalHandle V) :
    handle ∈ ((of log).takeIn handles).held ↔ handle ∈ (of log).held ∨ handle ∈ handles := by
  have known : ∀ handle ∈ (of log).held ++ handles, handle ∈ log.filterMap GoalEvent.handle? :=
    List.forall_mem_append.mpr ⟨fun _ => handle_of_held, brought⟩
  refine mem_takeIn (fun first inFirst second inSecond => ?_) handle
  exact coherent first (known first inFirst) second (known second inSecond)

/-- A goal is held when some event adopted it and none has ended its tenure since. -/
theorem mem_held_iff {log : List (GoalEvent V)} (coherent : Coherent log)
    (handle : GoalHandle V) : handle ∈ (of log).held ↔ HeldSince handle log := by
  induction log using List.reverseRecOn with
  | nil => simp [of, noteAll, empty, not_heldSince_nil]
  | append_singleton log event hypothesis =>
    have before := hypothesis coherent.past
    rw [of_snoc, heldSince_snoc, ← before]
    cases event with
    | comes | requests | offers | checks | retires => simp [note, Adopts, GoalEvent.ends]
    | drains =>
      have taken := mem_takeIn_of_brought coherent.past (fun _ => handle_of_inbox) handle
      simpa [note, Adopts, GoalEvent.ends, ← mem_inbox_iff, or_comm] using taken
    | applies =>
      have taken := mem_takeIn_of_brought coherent.past (fun _ => handle_of_requested) handle
      simpa [note, Adopts, GoalEvent.ends, ← mem_requested_iff, or_comm] using taken

/-! ### The order -/

/-- What is new comes behind everything else. -/
theorem append_sublist_dedup {ids entered new : List GoalId} (ordered : ids.Sublist entered.dedup)
    (fresh : ∀ id ∈ new, id ∉ ids) (distinct : new.Nodup) :
    (ids ++ new).Sublist (entered ++ new).dedup := by
  induction entered generalizing ids with
  | nil =>
    obtain rfl := List.sublist_nil.mp ordered
    rw [List.nil_append, List.dedup_eq_self.mpr distinct]
  | cons id rest hypothesis =>
    have later : ∀ {ids : List GoalId}, (ids ++ new).Sublist (rest ++ new).dedup →
        (ids ++ new).Sublist (id :: rest ++ new).dedup := by
      intro ids within
      by_cases again : id ∈ rest ++ new
      · rwa [List.cons_append, List.dedup_cons_of_mem again]
      · rw [List.cons_append, List.dedup_cons_of_notMem again]
        exact within.cons id
    by_cases again : id ∈ rest
    · rw [List.dedup_cons_of_mem again] at ordered
      exact later (hypothesis ordered fresh)
    · rw [List.dedup_cons_of_notMem again] at ordered
      cases ordered with
      | cons _ within => exact later (hypothesis within fresh)
      | @cons_cons held _ _ within =>
        have unused : id ∉ rest ++ new := by
          rw [List.mem_append, not_or]
          exact ⟨again, fun isNew => fresh id isNew (List.mem_cons_self ..)⟩
        rw [List.cons_append, List.cons_append, List.dedup_cons_of_notMem unused]
        exact (hypothesis within fun other isNew inHeld =>
          fresh other isNew (List.mem_cons_of_mem _ inHeld)).cons_cons id

/-- Goals are held once each, in the order in which they last came in. -/
def Ordered (book : GoalBook V) : Prop :=
  (book.held.map (·.id)).Sublist (book.entered.map (·.id)).dedup

/-- A book in order stays so when it takes goals in. -/
theorem Ordered.takeIn {book : GoalBook V} (ordered : book.Ordered)
    (handles : List (GoalHandle V)) : (book.takeIn handles).Ordered := by
  have counted := count_newGoals book.held handles
  rw [Ordered, GoalBook.takeIn, List.map_append, List.map_append]
  refine append_sublist_dedup ordered ?_ ?_
  · intro id isNew isHeld
    have count := counted id
    rw [if_neg fun both => both.2 isHeld, List.count_eq_zero] at count
    exact count isNew
  · rw [List.nodup_iff_count_le_one]
    intro id
    rw [counted id]
    split <;> omega

/-- The book of a log is in order. -/
theorem of_ordered (log : List (GoalEvent V)) : (of log).Ordered := by
  induction log using List.reverseRecOn with
  | nil => exact List.Sublist.refl _
  | append_singleton log event hypothesis =>
    rw [of_snoc]
    cases event with
    | comes | requests | offers => exact hypothesis
    | drains => exact hypothesis.takeIn _
    | applies => exact hypothesis.takeIn _
    | checks contexts => exact (List.filter_sublist.map _).trans hypothesis
    | retires => exact List.nil_sublist _

/-- A book in order holds no goal twice. -/
theorem Ordered.nodup {book : GoalBook V} (ordered : book.Ordered) :
    (book.held.map (·.id)).Nodup :=
  (List.nodup_dedup _).sublist ordered

end GoalBook

end Deliberation
