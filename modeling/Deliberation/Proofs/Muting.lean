import Deliberation.Proofs.Transcript

/-!
# Plans without their requests

What a plan requests, an internal trigger, a goal, a plan or a stop, is put aside until its cycle
ends. Here the requests are taken out: `Script.muted` is a script that does everything else, and the
schemes and interceptors of a muted agent hand out muted plans. What a muted agent senses, it senses
as the agent does (`World.senseTriggers_mute`).
-/

namespace Deliberation

variable {V : Vocabulary}

/-! ## Plans, schemes and interceptors -/

mutual

/-- A script without its requests. -/
def Script.muted : Script V → Script V
  | .done result memory => .done result memory
  | .panic cause => .panic cause
  | .finish next => .finish next.muted
  | .isFinished next => .isFinished fun finished => (next finished).muted
  | .observe next => .observe fun view => (next view).muted
  | .change capability update next => .change capability update next.muted
  | .raise _ next | .adoptGoal _ next | .adoptPlan _ next | .requestStop next => next.muted
  | .nameInterceptor name next => .nameInterceptor name fun id => (next id).muted
  | .interceptorNamed name next => .interceptorNamed name fun id? => (next id?).muted
  | .addInterceptor category interceptor next =>
    .addInterceptor category interceptor.muted next.muted
  | .removeInterceptor category id next =>
    .removeInterceptor category id fun registered => (next registered).muted
  | .send message next => .send message fun outcome => (next outcome).muted
  | .reach agent arrival next => .reach agent arrival fun found => (next found).muted
  | .note entry next => .note entry next.muted
  | .await gate next => .await gate next.muted
  | .sleep milliseconds next => .sleep milliseconds next.muted

/-- A plan whose executions request nothing. -/
def Plan.muted : Plan V → Plan V
  | .mk memory step => .mk memory fun memory => (step memory).muted

/-- A scheme that hands out muted plans. -/
def Scheme.muted : Scheme V → Scheme V
  | .rule name attempt =>
    .rule name fun pursuit view trigger => mutedAnswer (attempt pursuit view trigger)
  | .oneShot name selects plan spent =>
    .oneShot name selects (fun trigger => (plan trigger).muted) spent

/-- An interceptor that hands out muted plans. -/
def Interceptor.muted : Interceptor V → Interceptor V
  | .mk id consumes scheme => .mk id consumes scheme.muted

/-- What a rule answers when it hands out muted plans. -/
def mutedAnswer : Except Panic (Option (Plan V)) → Except Panic (Option (Plan V))
  | .error panic => .error panic
  | .ok none => .ok none
  | .ok (some plan) => .ok (some plan.muted)

end

/-- A muted plan starts with the muted script. -/
@[simp] theorem Plan.start_muted (plan : Plan V) : plan.muted.start = plan.start.muted := by
  cases plan
  rfl

/-- What a muted plan remembers is what the plan remembers. -/
@[simp] theorem Plan.remember_muted (plan : Plan V) (memory : Nat) :
    plan.muted.remember memory = (plan.remember memory).muted := by
  cases plan
  rfl

/-- Muting leaves the name of a scheme. -/
@[simp] theorem Scheme.name_muted (scheme : Scheme V) : scheme.muted.name = scheme.name := by
  cases scheme <;> rfl

/-- Muting leaves the identity of an interceptor. -/
@[simp] theorem Interceptor.id_muted (interceptor : Interceptor V) :
    interceptor.muted.id = interceptor.id := by
  cases interceptor
  rfl

/-- A muted interceptor consumes its trigger if the interceptor does. -/
@[simp] theorem Interceptor.consumes_muted (interceptor : Interceptor V) :
    interceptor.muted.consumes = interceptor.consumes := by
  cases interceptor
  rfl

/-- The scheme of a muted interceptor is its muted scheme. -/
@[simp] theorem Interceptor.scheme_muted (interceptor : Interceptor V) :
    interceptor.muted.scheme = interceptor.scheme.muted := by
  cases interceptor
  rfl

/-- Muting goes with giving an interceptor another scheme. -/
@[simp] theorem Interceptor.withScheme_muted (interceptor : Interceptor V) (scheme : Scheme V) :
    interceptor.muted.withScheme scheme.muted = (interceptor.withScheme scheme).muted := by
  cases interceptor
  rfl

/-! ### Interceptors of an agent -/

/-- A map over all categories goes with setting one of them. -/
theorem PerCategory.set_map {α β : Type} (change : α → β) (family : PerCategory α)
    (category : Category) (value : α) :
    (family.map change).set category (change value) = (family.set category value).map change := by
  cases category <;> rfl

namespace Interceptors

/-- Interceptors that hand out muted plans. -/
def muted (interceptors : Interceptors V) : Interceptors V :=
  interceptors.map (List.map Interceptor.muted)

variable (interceptors : Interceptors V) (category : Category)

/-- Muting goes category by category. -/
theorem get_muted : interceptors.muted.get category =
    (interceptors.get category).map Interceptor.muted :=
  PerCategory.get_map _ _ _

/-- Muting goes with replacing the list of a category. -/
theorem set_muted (list : List (Interceptor V)) :
    interceptors.muted.set category (list.map Interceptor.muted) =
      muted (interceptors.set category list) :=
  PerCategory.set_map _ _ _ _

/-- Muting goes with adding an interceptor. -/
theorem add_muted (interceptor : Interceptor V) :
    interceptors.muted.add category interceptor.muted =
      (interceptors.add category interceptor).muted := by
  simp only [add, PerCategory.modify, get_muted, ← set_muted, List.map_append, List.map_singleton]

/-- A muted family has the interceptors that the family has. -/
theorem contains_muted (id : InterceptorId) :
    interceptors.muted.contains category id = interceptors.contains category id := by
  simp [contains, get_muted, Function.comp_def]

/-- Muting goes with removing an interceptor. -/
theorem remove_muted (id : InterceptorId) :
    interceptors.muted.remove category id = (interceptors.remove category id).muted := by
  simp only [remove, PerCategory.modify, get_muted, ← set_muted, List.filter_map]
  simp [Function.comp_def]

end Interceptors

/-! ## Matching -/

/-- A hit whose plan requests nothing. -/
def Hit.muted (hit : Hit V) : Hit V := { hit with plan := hit.plan.muted }

/-- A firing of a muted scheme. -/
def Firing.muted (firing : Firing V) : Firing V :=
  { firing with plan := firing.plan.muted, scheme := firing.scheme.muted }

/-- A scan with muted hits and interceptors. -/
def Scan.muted (scan : Scan V) : Scan V :=
  { scan with
    hits := scan.hits.map Hit.muted
    interceptors := scan.interceptors.map Interceptor.muted }

/-- Matches with muted hits and schemes. -/
def Matches.muted (found : Matches V) : Matches V :=
  { found with hits := found.hits.map Hit.muted, schemes := found.schemes.map Scheme.muted }

section matching

variable (pursuit : Pursuit) (view : View V)

/-- A muted scheme makes plans of the triggers of which the scheme makes them. -/
theorem Scheme.instantiate_muted (scheme : Scheme V) (trigger : Trigger V) :
    scheme.muted.instantiate pursuit view trigger =
      (scheme.instantiate pursuit view trigger).map
        (Prod.map (Option.map Plan.muted) Scheme.muted) := by
  cases scheme with
  | rule name attempt =>
    simp only [muted, instantiate, bind, Except.bind]
    rcases attempt pursuit view trigger with panic | _ | plan <;> rfl
  | oneShot name selects plan spent =>
    simp only [muted, instantiate, bind, Except.bind]
    rcases selects pursuit trigger with panic | selected
    · rfl
    · cases selected <;> cases spent <;> rfl

/-- A muted scheme fires for the same trigger, with the muted plan. -/
theorem firstFiring_muted (scheme : Scheme V) (triggers : List (Trigger V)) :
    firstFiring pursuit view scheme.muted triggers =
      (firstFiring pursuit view scheme triggers).map (Option.map Firing.muted) := by
  induction triggers with
  | nil => rfl
  | cons trigger rest ih =>
    simp only [firstFiring, Scheme.instantiate_muted, bind, Except.bind]
    rcases scheme.instantiate pursuit view trigger with panic | ⟨_ | plan, used⟩
    · rfl
    · simp only [Except.map, Prod.map, Option.map]
      rw [ih]
      rcases firstFiring pursuit view scheme rest with panic | _ | firing <;> rfl
    · rfl

/-- A scan of muted interceptors is the muted scan: the same interceptors fire for the same
triggers. -/
theorem scanFrom_muted (interceptors : List (Interceptor V))
    (scanned : List (Interceptor V × Bool)) (hits : List (Hit V)) (triggers : List (Trigger V)) :
    scanFrom view (scanned.map (Prod.map Interceptor.muted id)) (hits.map Hit.muted) triggers
        pursuit (interceptors.map Interceptor.muted) =
      (scanFrom view scanned hits triggers pursuit interceptors).muted := by
  induction interceptors generalizing scanned hits triggers pursuit with
  | nil =>
    simp [scanFrom, Scan.muted, List.filter_map, Function.comp_def]
  | cons interceptor rest ih =>
    simp only [List.map_cons, scanFrom, Interceptor.scheme_muted, firstFiring_muted]
    rcases firstFiring pursuit view interceptor.scheme triggers with panic | _ | firing
    · simp [Except.map, Scan.muted, Function.comp_def]
    · exact ih pursuit ((interceptor, false) :: scanned) hits triggers
    · let hit : Hit V :=
        { name := interceptor.scheme.name, trigger := firing.trigger, plan := firing.plan }
      have later := ih (firing.trigger.markPursued pursuit)
        ((interceptor.withScheme firing.scheme, true) :: scanned) (hit :: hits)
        (if interceptor.consumes && !firing.trigger.isGoal then firing.before ++ firing.after
          else triggers)
      simpa [Except.map, Firing.muted, Hit.muted, hit] using later

/-- Of muted schemes the same one has a plan for a trigger, and its plan is muted. -/
theorem firstPlan_muted (trigger : Trigger V) (schemes : List (Scheme V)) :
    firstPlan pursuit view trigger (schemes.map Scheme.muted) =
      (firstPlan pursuit view trigger schemes).map
        (Prod.map (Option.map (Prod.map id Plan.muted)) (List.map Scheme.muted)) := by
  induction schemes with
  | nil => rfl
  | cons scheme rest ih =>
    simp only [List.map_cons, firstPlan, Scheme.instantiate_muted, bind, Except.bind]
    rcases scheme.instantiate pursuit view trigger with panic | ⟨_ | plan, used⟩
    · rfl
    · simp only [Except.map, Prod.map, Option.map]
      rw [ih]
      rcases firstPlan pursuit view trigger rest with panic | ⟨found, left⟩ <;> rfl
    · simp [Except.map]

/-- Matching muted schemes gives the same hits with muted plans. -/
theorem matchFrom_muted (triggers : List (Trigger V)) (hits : List (Hit V))
    (schemes : List (Scheme V)) :
    matchFrom view (hits.map Hit.muted) pursuit (schemes.map Scheme.muted) triggers =
      (matchFrom view hits pursuit schemes triggers).muted := by
  induction triggers generalizing hits schemes pursuit with
  | nil => simp [matchFrom, Matches.muted]
  | cons trigger rest ih =>
    simp only [matchFrom, firstPlan_muted]
    split
    · exact ih pursuit hits schemes
    · rcases firstPlan pursuit view trigger schemes with panic | ⟨_ | ⟨name, plan⟩, left⟩
      · simp [Except.map, Matches.muted]
      · exact ih pursuit hits left
      · exact ih (trigger.markPursued pursuit) ({ name, trigger, plan } :: hits) left

end matching

/-! ## Agents and worlds -/

/-- An active plan that requests nothing. -/
def ActivePlan.muted (active : ActivePlan V) : ActivePlan V :=
  { active with plan := active.plan.muted }

/-- An agent whose plans request nothing, neither those that it has nor those that it is given. Its
shutdown plans are left as they are. -/
def Agent.muted (agent : Agent V) : Agent V :=
  { agent with
    schemes := agent.schemes.map (List.map Scheme.muted)
    plans := agent.plans.map ActivePlan.muted
    interceptors := agent.interceptors.muted }

/-- The active plans of muted hits are the muted active plans. -/
@[simp] theorem activated_muted (hits : List (Hit V)) :
    activated (hits.map Hit.muted) = (activated hits).map ActivePlan.muted := by
  simp [activated, Hit.muted, ActivePlan.muted, ActivePlan.instantiated, Function.comp_def]

/-- Goals are adopted by a muted agent as by any other. -/
theorem Agent.adoptAll_muted (handles : List (GoalHandle V)) (agent : Agent V) :
    handles.foldl Agent.adopt agent.muted = (handles.foldl Agent.adopt agent).muted := by
  induction handles generalizing agent with
  | nil => rfl
  | cons handle rest ih =>
    have held : agent.muted.holds handle = agent.holds handle := rfl
    have once : agent.muted.adopt handle = (agent.adopt handle).muted := by
      simp only [adopt, held]
      split <;> rfl
    rw [List.foldl_cons, List.foldl_cons, once, ih]

namespace World

/-- The world in which the plans of an agent request nothing. -/
def mute (world : World V) (number : BirthNumber) : World V :=
  world.modifyAgent number Agent.muted

variable (world : World V) (number : BirthNumber)

/-- Muting an agent leaves the number of agents. -/
@[simp] theorem size_mute : (world.mute number).agents.size = world.agents.size :=
  size_modifyAgent world number _

/-- The agent itself is muted. -/
@[simp] theorem agent_mute : (world.mute number).agent number = (world.agent number).muted := by
  by_cases inside : number < world.agents.size
  · exact agent_modifyAgent_self world _ inside
  · unfold mute
    rw [modifyAgent_outside world _ (Nat.le_of_not_lt inside),
      agent_outside world (Nat.le_of_not_lt inside)]
    rfl

/-- Muting leaves the messenger. -/
@[simp] theorem messenger_mute : (world.mute number).messenger = world.messenger := rfl

/-- The agents of a muted world are alive where they were. -/
@[simp] theorem isAlive_mute : (world.mute number).isAlive = world.isAlive := rfl

/-- Muting goes with entries in the journal. -/
@[simp] theorem log_mute (entry : JournalEntry V) :
    (world.mute number).log entry = (world.log entry).mute number := rfl

/-- To mute an agent keeps everything of the agents but plans, schemes and interceptors. -/
theorem field_mute {α : Type} (field : Agent V → α)
    (keeps : ∀ agent : Agent V, field agent.muted = field agent) (other : BirthNumber) :
    field ((world.mute number).agent other) = field (world.agent other) :=
  field_modifyAgent field world number other _ (keeps _)

/-- What a change does to the muted agent. -/
theorem modifyAgent_mute {change other : Agent V → Agent V}
    (same : other (world.agent number).muted = (change (world.agent number)).muted) :
    (world.mute number).modifyAgent number other =
      (world.modifyAgent number change).mute number := by
  unfold mute
  rw [modifyAgent_modifyAgent, modifyAgent_modifyAgent]
  exact modifyAgent_congr same

/-! ### Arrivals and deliveries -/

/-- Muting goes with waking any agent. -/
theorem wake_mute (other : BirthNumber) :
    (world.mute number).wake other = (world.wake other).mute number := by
  have done := world.field_mute number Agent.done (fun _ => rfl) other
  have scheduler := world.field_mute number Agent.scheduler (fun _ => rfl) other
  have id := world.field_mute number Agent.id (fun _ => rfl) other
  simp only [wake, schedule, done, scheduler, id]
  split
  · rfl
  · split <;> rfl

/-- Muting goes with arrivals at any agent. -/
theorem arrive_mute (other : BirthNumber) (arrival : Arrival V) :
    (world.mute number).arrive other arrival = (world.arrive other arrival).mute number := by
  unfold arrive
  rw [← wake_mute]
  refine congrArg (wake · other) ?_
  by_cases same : other = number
  · subst same
    exact modifyAgent_mute world other rfl
  · exact modifyAgent_comm world same _ _

/-- A delivery does not depend on what the plans of an agent request. -/
theorem deliverTo_mute (receiver : AgentId) (message : Message) :
    (world.mute number).deliverTo receiver message =
      Prod.map (·.mute number) id (world.deliverTo receiver message) := by
  simp only [deliverTo, messenger_mute, isAlive_mute, log_mute]
  split
  · split
    · rfl
    · split
      · rw [arrive_mute]
        rfl
      · split
        · rw [arrive_mute]
          rfl
        · rfl
  · split
    · rfl
    · rw [arrive_mute]
      rfl

/-- Deliveries do not depend on what the plans of an agent request. -/
theorem deliverAll_mute (message : Message) (receivers : List AgentId) :
    (world.mute number).deliverAll message receivers =
      Prod.map (·.mute number) id (world.deliverAll message receivers) := by
  induction receivers generalizing world with
  | nil => rfl
  | cons receiver rest ih =>
    simp only [deliverAll, deliverTo_mute, Prod.map_fst, Prod.map_snd, ih]
    rfl

/-- What a muted agent sends is delivered as if another had sent it. -/
theorem send_mute (message : Message) :
    (world.mute number).send number message =
      Prod.map (·.mute number) id (world.send number message) := by
  simp only [send, agent_mute]
  split <;> rename_i connected
  · rw [if_pos (show (world.agent number).connected = true from connected)]
    exact deliverAll_mute world number message _
  · rw [if_neg (show ¬(world.agent number).connected = true from connected)]
    rfl

/-! ### The stages before the act stage -/

/-- A muted agent drains its inbox as the agent does. -/
theorem drain_mute :
    (world.mute number).drain number = Prod.map (·.mute number) id (world.drain number) := by
  simp only [drain, agent_mute]
  refine Prod.ext (modifyAgent_mute world number ?_) rfl
  have adopted := Agent.adoptAll_muted (world.agent number).inbox.goals
    { world.agent number with inbox := Inbox.empty }
  exact congrArg (fun agent : Agent V =>
    { agent with stopping := agent.stopping || (world.agent number).inbox.stopRequested }) adopted

/-- A muted agent drops the same goals as the agent. -/
theorem sweep_mute :
    (world.mute number).sweep number = Prod.map (·.mute number) id (world.sweep number) := by
  simp only [sweep, agent_mute]
  let swept := sweepGoals (world.agent number).contexts world.pursuit (world.agent number).goals
  exact Prod.ext (modifyAgent_mute { world with pursuit := swept.2.1 } number rfl) rfl

/-- The interceptors of a muted agent scan triggers as those of the agent. -/
theorem intercepted_mute (category : Category) (triggers : List (Trigger V)) :
    (world.mute number).intercepted number category triggers =
      (world.intercepted number category triggers).muted := by
  simp only [intercepted, agent_mute]
  exact (congrArg (scanFrom _ [] [] triggers _) (Interceptors.get_muted _ category)).trans
    (scanFrom_muted _ _ ((world.agent number).interceptors.get category) [] [] triggers)

/-- The schemes of a muted agent match triggers as those of the agent. -/
theorem matched_mute (category : Category) (triggers : List (Trigger V)) :
    (world.mute number).matched number category triggers =
      (world.matched number category triggers).muted := by
  simp only [matched, agent_mute, intercepted_mute]
  exact (congrArg (matchFrom _ [] _ · _) (PerCategory.get_map _ _ category)).trans
    (matchFrom_muted _ _ _ [] ((world.agent number).schemes.get category))

/-- What a scan of interceptors leaves behind. -/
def scanned (category : Category) (scan : Scan V) : World V :=
  { world with pursuit := scan.pursuit }.modifyAgent number fun agent =>
    { agent with interceptors := agent.interceptors.set category scan.interceptors }

/-- What matching with schemes leaves behind. -/
def sorted (category : Category) (found : Matches V) : World V :=
  { world with pursuit := found.pursuit }.modifyAgent number fun agent =>
    { agent with schemes := agent.schemes.set category found.schemes }

/-- Muting goes with what a scan leaves in the world. -/
theorem scanned_mute (category : Category) (scan : Scan V) :
    (world.mute number).scanned number category scan.muted =
      (world.scanned number category scan).mute number := by
  refine modifyAgent_mute { world with pursuit := scan.pursuit } number ?_
  exact congrArg (fun interceptors => { (world.agent number).muted with interceptors })
    (Interceptors.set_muted _ category _)

/-- Muting goes with what matching leaves in the world. -/
theorem sorted_mute (category : Category) (found : Matches V) :
    (world.mute number).sorted number category found.muted =
      (world.sorted number category found).mute number := by
  refine modifyAgent_mute { world with pursuit := found.pursuit } number ?_
  exact congrArg (fun schemes => { (world.agent number).muted with schemes })
    (PerCategory.set_map _ _ _ _)

/-- A sense step in its parts: the scan, the matching of what it left, and which of the two broke
off. -/
theorem senseTriggers_eq (category : Category) (triggers : List (Trigger V)) :
    world.senseTriggers number category triggers =
      let scan := world.intercepted number category triggers
      let found := world.matched number category triggers
      match scan.broken with
      | some panic => (world.scanned number category scan, some panic)
      | none =>
        let sensed := (world.scanned number category scan).sorted number category found
        match found.broken with
        | some panic => (sensed, some panic)
        | none =>
          (sensed.modifyAgent number fun agent =>
            { agent with plans := agent.plans ++ activated (scan.hits ++ found.hits) }, none) :=
  rfl

/-- A sense step finds for a muted agent what it finds for the agent, with muted plans. -/
theorem senseTriggers_mute (category : Category) (triggers : List (Trigger V)) :
    (world.mute number).senseTriggers number category triggers =
      Prod.map (·.mute number) id (world.senseTriggers number category triggers) := by
  simp only [senseTriggers_eq, intercepted_mute, matched_mute, scanned_mute, sorted_mute]
  generalize world.intercepted number category triggers = scan
  generalize world.matched number category triggers = found
  rcases broken : scan.broken with _ | panic
  · rcases brokenLater : found.broken with _ | panic
    · simp only [Scan.muted, Matches.muted, broken, brokenLater]
      refine Prod.ext (modifyAgent_mute _ number ?_) rfl
      simp [Agent.muted, ← activated_muted]
    · simp only [Scan.muted, Matches.muted, broken, brokenLater]
      rfl
  · simp only [Scan.muted, broken]
    rfl

end World

end Deliberation
