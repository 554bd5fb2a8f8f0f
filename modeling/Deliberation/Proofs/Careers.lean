import Deliberation.Plan.Combinators
import Deliberation.Proofs.Requests

/-!
# The careers of plans

A plan is executed again and again, each time with what it kept in mind the last time.
`Script.Passage` says what an execution has done to the interceptors so far, and `Plan.Career` what
has become of a plan over a number of executions. Each operation may happen in any world, and an
execution may return an error: what holds of a career holds whenever and by whomever a plan is
executed.

A plan that `Plan.intercepting` builds removes the listed interceptors in its first execution, before
its body begins, and never again. Apart from that, its executions are those of the body, one for one
(`Plan.Career.intercepts`).
-/

namespace Deliberation

variable {V : Vocabulary}

/-- The removal of an interceptor from a category. -/
def Tweak.ofListed (entry : Category × InterceptorId) : Tweak V := removes entry.1 entry.2

/-! ## What operations lead to -/

namespace Script

/-- Where operations of a script lead, and how they change the interceptors on the way. -/
inductive Passage (script : Script V) : List (Tweak V) → Script V → Prop where
  | start : Passage script [] script
  | step {tweaks : List (Tweak V)} {before after : Script V} {number : BirthNumber}
      {turn next : Turn V} {wait : Wait} (passage : Passage script tweaks before)
      (advances : before.advance number turn = .blocked next wait after) :
      Passage script (tweaks ++ before.tweak?.toList) after

/-- The script, with one more in the memory that it leaves. -/
def counted (script : Script V) : Script V :=
  script.bind fun result memory => .done result (memory + 1)

/-- Counting leaves what a script does to the interceptors. -/
@[simp] theorem tweak?_counted (script : Script V) : script.counted.tweak? = script.tweak? := by
  cases script <;> rfl

/-- A counted script is done where the script is, with one more in its memory. -/
theorem counted_eq_done {script : Script V} {result : Except PlanError (Option V.Action)}
    {memory : Nat} (counted : script.counted = .done result memory) :
    ∃ inner, script = .done result inner ∧ memory = inner + 1 := by
  cases script with
  | done returned inner =>
    cases counted
    exact ⟨inner, rfl, rfl⟩
  | _ => cases counted

variable {script rest : Script V} {tweaks : List (Tweak V)} {removals : List (Category × InterceptorId)}

/-- Counting takes part in no operation. -/
theorem advance_counted {number : BirthNumber} {turn next : Turn V} {wait : Wait}
    (advances : script.counted.advance number turn = .blocked next wait rest) :
    ∃ own, script.advance number turn = .blocked next wait own ∧ rest = own.counted := by
  cases script with
  | done | panic => cases advances
  | reach agent arrival goesOn =>
    simp only [counted, bind, advance] at advances ⊢
    split at advances <;> cases advances <;> exact ⟨_, rfl, rfl⟩
  | _ =>
    cases advances
    exact ⟨_, rfl, rfl⟩

namespace Passage

/-- A passage through a counted script is one through the script. -/
theorem of_counted (passage : script.counted.Passage tweaks rest) :
    ∃ own, script.Passage tweaks own ∧ rest = own.counted := by
  induction passage with
  | start => exact ⟨script, .start, rfl⟩
  | step _ advances hypothesis =>
    obtain ⟨own, passage, rfl⟩ := hypothesis
    obtain ⟨after, goesOn, rfl⟩ := advance_counted advances
    rw [tweak?_counted]
    exact ⟨after, passage.step goesOn, rfl⟩

/-- The listed removals come first, in the order of the list, and then what follows them. -/
theorem of_removing (passage : (Plan.removing removals script).Passage tweaks rest) :
    (∃ done next todo, removals = done ++ next :: todo ∧ tweaks = done.map .ofListed ∧
        rest = Plan.removing (next :: todo) script) ∨
      ∃ own, script.Passage own rest ∧ tweaks = removals.map .ofListed ++ own := by
  induction passage with
  | start =>
    cases removals with
    | nil => exact .inr ⟨[], .start, rfl⟩
    | cons next todo => exact .inl ⟨[], next, todo, rfl, rfl, rfl⟩
  | step _ advances hypothesis =>
    rcases hypothesis with ⟨done, next, todo, rfl, rfl, rfl⟩ | ⟨own, passage, rfl⟩
    · cases advances
      cases todo with
      | nil => exact .inr ⟨[], .start, by simp [Plan.removing, tweak?, Tweak.ofListed]⟩
      | cons later todo =>
        refine .inl ⟨done ++ [next], later, todo, by simp, ?_, rfl⟩
        simp [Plan.removing, tweak?, Tweak.ofListed]
    · exact .inr ⟨_, passage.step advances, List.append_assoc ..⟩

end Passage

end Script

/-! ## What executions lead to -/

namespace Plan

/-- What has become of a plan over a number of executions, whatever they returned. -/
inductive Career (plan : Plan V) : Nat → Plan V → Prop where
  | fresh : Career plan 0 plan
  | executed {executions : Nat} {now : Plan V} {tweaks : List (Tweak V)}
      {result : Except PlanError (Option V.Action)} {memory : Nat}
      (career : Career plan executions now)
      (returns : now.start.Passage tweaks (.done result memory)) :
      Career plan (executions + 1) (now.remember memory)

variable {plan now body : Plan V} {executions : Nat} {tweaks : List (Tweak V)} {rest : Script V}
  {removals : List (Category × InterceptorId)}

/-- A plan goes by the same steps all its life. -/
theorem Career.step_eq (career : plan.Career executions now) : now.step = plan.step := by
  induction career with
  | fresh => rfl
  | executed _ _ hypothesis => exact hypothesis

/-- How an execution of an intercepting plan stands after a number of former executions: how it has
changed the interceptors, and where it is. -/
inductive Intercepts (removals : List (Category × InterceptorId)) (body : Plan V) :
    (executions : Nat) → List (Tweak V) → Script V → Prop where
  /-- The first execution is still at the list. -/
  | removing {done : List (Category × InterceptorId)} {next : Category × InterceptorId}
      {todo : List (Category × InterceptorId)} (listed : removals = done ++ next :: todo) :
      Intercepts removals body 0 (done.map .ofListed) (removing (next :: todo) body.start.counted)
  /-- The first execution has gone through the list, and it is the turn of the body. -/
  | begins {own : List (Tweak V)} {rest : Script V} (passage : body.start.Passage own rest) :
      Intercepts removals body 0 (removals.map .ofListed ++ own) rest.counted
  /-- A later execution is one of the body, which goes by the same steps. -/
  | goesOn {executions : Nat} {inner : Plan V} {own : List (Tweak V)} {rest : Script V}
      (career : body.Career (executions + 1) inner) (same : inner.step = body.step)
      (passage : inner.start.Passage own rest) :
      Intercepts removals body (executions + 1) own rest.counted

/-- An intercepting plan after a number of executions, when its body has become `inner`. -/
def intercepted (removals : List (Category × InterceptorId)) (body inner : Plan V) : Nat → Plan V
  | 0 => intercepting removals body
  | _ + 1 => (intercepting removals body).remember (inner.memory + 1)

/-- What the first execution of an intercepting plan comes to. -/
theorem passage_intercepting (passage : (intercepting removals body).start.Passage tweaks rest) :
    (∃ done next todo, removals = done ++ next :: todo ∧ tweaks = done.map .ofListed ∧
        rest = removing (next :: todo) body.start.counted) ∨
      ∃ own left, body.start.Passage own left ∧ tweaks = removals.map .ofListed ++ own ∧
        rest = left.counted := by
  rcases Script.Passage.of_removing passage with listed | ⟨own, behind, rfl⟩
  · exact .inl listed
  · obtain ⟨left, begins, ends⟩ := Script.Passage.of_counted behind
    exact .inr ⟨own, left, begins, rfl, ends⟩

/-- What a later execution of an intercepting plan comes to. -/
theorem passage_intercepted {inner : Plan V} (same : inner.step = body.step)
    (passage : (intercepted removals body inner (executions + 1)).start.Passage tweaks rest) :
    ∃ left, inner.start.Passage tweaks left ∧ rest = left.counted := by
  have start : (intercepted removals body inner (executions + 1)).start = inner.start.counted := by
    rw [Plan.start, Plan.start, same]
    rfl
  rw [start] at passage
  exact passage.of_counted

/-- Executing an intercepting plan executes its body. -/
theorem Career.inner (career : (intercepting removals body).Career executions now) :
    ∃ inner, body.Career executions inner ∧ now = intercepted removals body inner executions := by
  induction career with
  | fresh => exact ⟨body, .fresh, rfl⟩
  | @executed executions now tweaks result memory _ returns hypothesis =>
    obtain ⟨inner, career, rfl⟩ := hypothesis
    -- The execution returned from the body, with one more in its memory.
    have returned : ∃ own left, inner.start.Passage own left ∧
        (.done result memory : Script V) = left.counted := by
      cases executions with
      | zero =>
        cases career
        rcases passage_intercepting returns with ⟨_, _, _, -, -, unfinished⟩ |
          ⟨own, left, passage, -, ends⟩
        · cases unfinished
        · exact ⟨own, left, passage, ends⟩
      | succ executions =>
        obtain ⟨left, passage, ends⟩ := passage_intercepted career.step_eq returns
        exact ⟨tweaks, left, passage, ends⟩
    obtain ⟨own, left, passage, ends⟩ := returned
    obtain ⟨memory, rfl, rfl⟩ := Script.counted_eq_done ends.symm
    refine ⟨inner.remember memory, .executed career passage, ?_⟩
    cases executions <;> rfl

/-- The first execution of an intercepting plan removes the listed interceptors before the body
begins, and no later one removes any; apart from that, every execution does what the body does in
it. -/
theorem Career.intercepts (career : (intercepting removals body).Career executions now)
    (passage : now.start.Passage tweaks rest) :
    Intercepts removals body executions tweaks rest := by
  obtain ⟨inner, innerCareer, rfl⟩ := career.inner
  cases executions with
  | zero =>
    cases innerCareer
    rcases passage_intercepting passage with ⟨done, next, todo, listed, rfl, rfl⟩ |
        ⟨own, left, begins, rfl, rfl⟩
    · exact .removing listed
    · exact .begins begins
  | succ executions =>
    obtain ⟨left, goesOn, rfl⟩ := passage_intercepted innerCareer.step_eq passage
    exact .goesOn innerCareer innerCareer.step_eq goesOn

end Plan

end Deliberation
