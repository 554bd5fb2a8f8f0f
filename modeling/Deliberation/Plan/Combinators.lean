import Deliberation.Plan

/-!
# Building plans

`Plan.once` runs a script once and finishes by itself. `Plan.repeating` runs a script per execution
and leaves finishing to the script. `Plan.doubled` executes a plan twice within one execution.
`Plan.intercepting` removes listed interceptors before its body first runs.
-/

namespace Deliberation

variable {V : Vocabulary}

/-- Run a script and continue with its result and memory. -/
def Script.bind (script : Script V)
    (next : Except PlanError (Option V.Action) → Nat → Script V) : Script V :=
  match script with
  | .done result memory => next result memory
  | .panic cause => .panic cause
  | .finish rest => .finish (rest.bind next)
  | .isFinished rest => .isFinished fun finished => (rest finished).bind next
  | .observe rest => .observe fun view => (rest view).bind next
  | .change capability update rest => .change capability update (rest.bind next)
  | .raise payload rest => .raise payload (rest.bind next)
  | .adoptGoal handle rest => .adoptGoal handle (rest.bind next)
  | .adoptPlan plan rest => .adoptPlan plan (rest.bind next)
  | .requestStop rest => .requestStop (rest.bind next)
  | .nameInterceptor name rest => .nameInterceptor name fun id => (rest id).bind next
  | .interceptorNamed name rest => .interceptorNamed name fun id => (rest id).bind next
  | .addInterceptor category interceptor rest => .addInterceptor category interceptor (rest.bind next)
  | .removeInterceptor category id rest =>
    .removeInterceptor category id fun removed => (rest removed).bind next
  | .send message rest => .send message fun outcome => (rest outcome).bind next
  | .reach agent arrival rest => .reach agent arrival fun found => (rest found).bind next
  | .note entry rest => .note entry (rest.bind next)
  | .await gate rest => .await gate (rest.bind next)
  | .sleep milliseconds rest => .sleep milliseconds (rest.bind next)

namespace Plan

/-- A plan that finishes with its first execution. Executed again, it does nothing. -/
def once (body : Script V) : Plan V :=
  mk 0 fun
    | 0 => .finish (body.bind fun result _ => .done result 1)
    | memory + 1 => .finish (.done (.ok none) (memory + 1))

/-- A plan whose execution number n, counted from one, runs `body n`. -/
def repeating (body : Nat → Script V) : Plan V :=
  mk 0 fun executed => (body (executed + 1)).bind fun result _ => .done result (executed + 1)

/-- Execute a plan twice within one execution and combine the actions. An error ends the
execution. -/
def doubled (combine : Option V.Action → Option V.Action → Option V.Action) (plan : Plan V) :
    Plan V :=
  mk plan.memory fun memory =>
    (plan.step memory).bind fun first memory =>
      match first with
      | .error cause => .done (.error cause) memory
      | .ok first =>
        (plan.step memory).bind fun second memory =>
          match second with
          | .error cause => .done (.error cause) memory
          | .ok second => .done (.ok (combine first second)) memory

/-- Remove interceptors, whether or not they are still registered. -/
def removing (removals : List (Category × InterceptorId)) (next : Script V) : Script V :=
  removals.foldr (fun (category, id) rest => .removeInterceptor category id fun _ => rest) next

/-- A plan that removes the listed interceptors in its first execution, before the body runs. The
memory is one more than that of the body, and zero before the first execution. -/
def intercepting (removals : List (Category × InterceptorId)) (body : Plan V) : Plan V :=
  mk 0 fun
    | 0 => removing removals ((body.step body.memory).bind fun result memory =>
        .done result (memory + 1))
    | memory + 1 => (body.step memory).bind fun result memory => .done result (memory + 1)

end Plan

/-- A one-shot scheme whose plan removes interceptors when it first runs. The body is chosen by the
trigger that the plan was instantiated for. -/
def Scheme.enhanced (name : String) (selects : Pursuit → Trigger V → Except Panic Bool)
    (removals : List (Category × InterceptorId)) (body : Trigger V → Plan V) : Scheme V :=
  .oneShot name selects (fun trigger => Plan.intercepting removals (body trigger)) false

end Deliberation
