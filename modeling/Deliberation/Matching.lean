import Deliberation.Plan

/-!
# Matching triggers

`scanInterceptors` offers the live triggers to each interceptor in turn; `matchSchemes` offers each
trigger to the schemes in turn. Both flag the goal of a trigger that caused a plan before they go
on, hand one-shot plans out once, and stop where a predicate panics. What was changed up to there
stays changed: flags, handed-out plans, but not the list of interceptors, from which the fired ones
are removed only when the scan is complete.
-/

namespace Deliberation

variable {V : Vocabulary}

/-- A plan with the trigger it was instantiated for and the name of the scheme that made it. -/
structure Hit (V : Vocabulary) where
  name : String
  trigger : Trigger V
  plan : Plan V

/-- The rendering of a hit shows its trigger. -/
def Hit.render (renderTrigger : Trigger V → String) (hit : Hit V) : String :=
  Text.openRecord "Instantiated" [("trigger", renderTrigger hit.trigger)]

namespace Scheme

/-- What a scheme makes of a trigger, and the scheme afterwards. -/
def instantiate (scheme : Scheme V) (pursuit : Pursuit) (view : View V) (trigger : Trigger V) :
    Except Panic (Option (Plan V) × Scheme V) :=
  match scheme with
  | .rule _ attempt => do
    let plan? ← attempt pursuit view trigger
    .ok (plan?, scheme)
  | .oneShot name selects plan spent => do
    let selected ← selects pursuit trigger
    if selected && !spent then .ok (some (plan trigger), .oneShot name selects plan true)
    else .ok (none, scheme)

/-- Try a scheme on triggers one after the other: on which ones it hands out a plan, and the scheme
afterwards. -/
def attemptEach (pursuit : Pursuit) (view : View V) :
    Scheme V → List (Trigger V) → Except Panic (List Bool × Scheme V)
  | scheme, [] => .ok ([], scheme)
  | scheme, trigger :: rest => do
    let (plan?, scheme) ← scheme.instantiate pursuit view trigger
    let (later, scheme) ← attemptEach pursuit view scheme rest
    .ok (plan?.isSome :: later, scheme)

end Scheme

/-! ## Interceptors -/

/-- Where an interceptor fires: the triggers before, the trigger, the triggers after, the plan and
the scheme afterwards. -/
structure Firing (V : Vocabulary) where
  before : List (Trigger V)
  trigger : Trigger V
  after : List (Trigger V)
  plan : Plan V
  scheme : Scheme V

/-- Find the first trigger for which a scheme makes a plan. -/
def firstFiring (pursuit : Pursuit) (view : View V) (scheme : Scheme V) :
    List (Trigger V) → Except Panic (Option (Firing V))
  | [] => .ok none
  | trigger :: rest => do
    match ← scheme.instantiate pursuit view trigger with
    | (some plan, scheme) => .ok (some { before := [], trigger, after := rest, plan, scheme })
    | (none, _) =>
      let found ← firstFiring pursuit view scheme rest
      .ok (found.map fun firing => { firing with before := trigger :: firing.before })

/-- The result of a scan. `interceptors` holds what is left: without the fired ones, unless the scan
broke off. -/
structure Scan (V : Vocabulary) where
  hits : List (Hit V)
  triggers : List (Trigger V)
  interceptors : List (Interceptor V)
  pursuit : Pursuit
  broken : Option Panic

/-- Scan a list of interceptors. `scanned` holds the interceptors already passed, latest first, each
with whether it fired. -/
def scanFrom (view : View V) : (scanned : List (Interceptor V × Bool)) → (hits : List (Hit V)) →
    List (Trigger V) → Pursuit → List (Interceptor V) → Scan V
  | scanned, hits, triggers, pursuit, [] =>
    { hits := hits.reverse, triggers, pursuit, broken := none,
      interceptors := (scanned.reverse.filter (!·.2)).map (·.1) }
  | scanned, hits, triggers, pursuit, interceptor :: rest =>
    match firstFiring pursuit view interceptor.scheme triggers with
    | .error panic =>
      { hits := hits.reverse, triggers, pursuit, broken := some panic,
        interceptors := scanned.reverse.map (·.1) ++ interceptor :: rest }
    | .ok none => scanFrom view ((interceptor, false) :: scanned) hits triggers pursuit rest
    | .ok (some firing) =>
      let left :=
        if interceptor.consumes && !firing.trigger.isGoal then firing.before ++ firing.after
        else triggers
      let hit : Hit V :=
        { name := interceptor.scheme.name, trigger := firing.trigger, plan := firing.plan }
      scanFrom view ((interceptor.withScheme firing.scheme, true) :: scanned) (hit :: hits) left
        (firing.trigger.markPursued pursuit) rest

/-- Offer the triggers to each interceptor, in order. An interceptor fires on the first trigger it
makes a plan for and is then removed; a consuming one takes the trigger with it unless that is a
goal. Goals are offered whether or not they are pursued. -/
def scanInterceptors (view : View V) (pursuit : Pursuit) (triggers : List (Trigger V))
    (interceptors : List (Interceptor V)) : Scan V :=
  scanFrom view [] [] triggers pursuit interceptors

/-! ## Schemes -/

/-- The first plan that a list of schemes makes of a trigger, with the name of its scheme, and the
schemes afterwards. Schemes behind the first that makes a plan are not consulted. -/
def firstPlan (pursuit : Pursuit) (view : View V) (trigger : Trigger V) :
    List (Scheme V) → Except Panic (Option (String × Plan V) × List (Scheme V))
  | [] => .ok (none, [])
  | scheme :: rest => do
    match ← scheme.instantiate pursuit view trigger with
    | (some plan, used) => .ok (some (scheme.name, plan), used :: rest)
    | (none, scheme) =>
      let (found, rest) ← firstPlan pursuit view trigger rest
      .ok (found, scheme :: rest)

/-- The result of matching triggers with schemes. -/
structure Matches (V : Vocabulary) where
  hits : List (Hit V)
  schemes : List (Scheme V)
  pursuit : Pursuit
  broken : Option Panic

/-- Match triggers one after the other. -/
def matchFrom (view : View V) : (hits : List (Hit V)) → Pursuit → List (Scheme V) →
    List (Trigger V) → Matches V
  | hits, pursuit, schemes, [] => { hits := hits.reverse, schemes, pursuit, broken := none }
  | hits, pursuit, schemes, trigger :: rest =>
    if trigger.isPursuedGoal pursuit then matchFrom view hits pursuit schemes rest
    else
      match firstPlan pursuit view trigger schemes with
      | .error panic => { hits := hits.reverse, schemes, pursuit, broken := some panic }
      | .ok (none, schemes) => matchFrom view hits pursuit schemes rest
      | .ok (some (name, plan), schemes) =>
        matchFrom view ({ name, trigger, plan } :: hits) (trigger.markPursued pursuit) schemes rest

/-- Offer each trigger to the schemes, in order; the first scheme that makes a plan wins. A goal
that is pursued at its turn is passed over. -/
def matchSchemes (view : View V) (pursuit : Pursuit) (triggers : List (Trigger V))
    (schemes : List (Scheme V)) : Matches V :=
  matchFrom view [] pursuit schemes triggers

end Deliberation
