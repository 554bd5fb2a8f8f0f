import Deliberation.Proofs.MutedStrides
import Mathlib.Data.List.Induction

/-!
# The minutes of a cycle

The plans of a cycle request internal triggers, goals, plans and a stop. The `Minutes` of a cycle
take down what they request, how they change the interceptors, and what else arrives meanwhile. A
muted agent, whose plans request nothing, has the same minutes without requests
(`Minutes.note_muted`).
-/

namespace Deliberation

variable {V : Vocabulary}

/-! ## Changes of the interceptors -/

/-- How a plan changes the interceptors of its agent. -/
inductive Tweak (V : Vocabulary) where
  | adds (category : Category) (interceptor : Interceptor V)
  | removes (category : Category) (id : InterceptorId)

/-- How a script is about to change the interceptors. -/
def Script.tweak? : Script V → Option (Tweak V)
  | addInterceptor category interceptor _ => some (.adds category interceptor)
  | removeInterceptor category id _ => some (.removes category id)
  | _ => none

namespace Tweak

/-- The interceptors after a change. -/
def apply (interceptors : Interceptors V) : Tweak V → Interceptors V
  | adds category interceptor => interceptors.add category interceptor
  | removes category id => interceptors.remove category id

/-- Whether an identity is registered after a change, if the change concerns it. -/
def verdict? (category : Category) (id : InterceptorId) : Tweak V → Option Bool
  | adds other interceptor => if other = category ∧ interceptor.id = id then some true else none
  | removes other removed => if other = category ∧ removed = id then some false else none

/-- The same change, with muted plans. -/
def muted : Tweak V → Tweak V
  | adds category interceptor => adds category interceptor.muted
  | removes category id => removes category id

/-- A change of the interceptors decides about those that it names and leaves the others. -/
theorem contains_apply (interceptors : Interceptors V) (tweak : Tweak V) (category : Category)
    (id : InterceptorId) : (apply interceptors tweak).contains category id =
      (tweak.verdict? category id).getD (interceptors.contains category id) := by
  cases tweak with
  | adds other interceptor =>
    simp only [apply, verdict?, Interceptors.contains, Interceptors.add, PerCategory.modify]
    by_cases here : other = category
    · subst here
      by_cases same : interceptor.id = id <;> simp [same]
    · simp [here, PerCategory.get_set_of_ne _ _ (Ne.symm here)]
  | removes other removed =>
    simp only [apply, verdict?, Interceptors.contains, Interceptors.remove, PerCategory.modify]
    by_cases here : other = category
    · subst here
      by_cases same : removed = id
      · subst same
        simp
      · simp only [PerCategory.get_set_self, List.any_filter, same, and_false, if_false,
          Option.getD_none]
        refine List.any_congr rfl fun interceptor => ?_
        by_cases known : interceptor.id = id
        · simp [known, Ne.symm same]
        · simp [known]
    · simp [here, PerCategory.get_set_of_ne _ _ (Ne.symm here)]

/-- The last change that concerns an identity decides whether it is registered. -/
theorem contains_foldl (interceptors : Interceptors V) (tweaks : List (Tweak V))
    (category : Category) (id : InterceptorId) :
    (tweaks.foldl apply interceptors).contains category id =
      (tweaks.filterMap (verdict? category id)).getLast?.getD
        (interceptors.contains category id) := by
  induction tweaks using List.reverseRecOn with
  | nil => rfl
  | append_singleton tweaks tweak ih =>
    rw [List.foldl_append, List.foldl_cons, List.foldl_nil, contains_apply, ih,
      List.filterMap_append]
    cases decided : tweak.verdict? category id <;> simp [decided]

end Tweak

/-! ## Goals that are adopted -/

/-- Of the requested goals those that are not held and were not requested before. -/
def newGoals (held requested : List (GoalHandle V)) : List (GoalHandle V) :=
  (requested.zipIdx.filter fun (handle, place) =>
    handle.id ∉ (held ++ requested.take place).map (·.id)).map Prod.fst

/-- One more request adds a goal that was neither held nor requested before. -/
theorem newGoals_append (held requested : List (GoalHandle V)) (handle : GoalHandle V) :
    newGoals held (requested ++ [handle]) =
      newGoals held requested ++
        if handle.id ∈ (held ++ requested).map (·.id) then [] else [handle] := by
  have before : ∀ entry ∈ requested.zipIdx,
      (requested ++ [handle]).take entry.2 = requested.take entry.2 := by
    intro entry member
    have inside := List.snd_lt_of_mem_zipIdx member
    exact List.take_append_of_le_length (by omega)
  have earlier : requested.zipIdx.filter (fun (other, place) =>
      other.id ∉ (held ++ (requested ++ [handle]).take place).map (·.id)) =
        requested.zipIdx.filter fun (other, place) =>
          other.id ∉ (held ++ requested.take place).map (·.id) :=
    List.filter_congr fun entry member => by simp only [before entry member]
  have behind : (requested ++ [handle]).take requested.length = requested := List.take_left
  have last : ([handle].zipIdx (0 + requested.length)).filter (fun (other, place) =>
      other.id ∉ (held ++ (requested ++ [handle]).take place).map (·.id)) =
        if handle.id ∈ (held ++ requested).map (·.id) then []
        else [(handle, requested.length)] := by
    rw [List.zipIdx_singleton, Nat.zero_add, List.filter_cons, List.filter_nil]
    simp only [behind, decide_not, Bool.not_eq_true', decide_eq_false_iff_not, ite_not]
  rw [newGoals, List.zipIdx_append, List.filter_append, List.map_append, earlier, last]
  split <;> rfl

/-- New goals come in the order in which they were requested. -/
theorem newGoals_sublist (held requested : List (GoalHandle V)) :
    (newGoals held requested).Sublist requested := by
  induction requested using List.reverseRecOn with
  | nil => exact .slnil
  | append_singleton requested handle ih =>
    rw [newGoals_append]
    refine ih.append ?_
    split
    · exact List.nil_sublist _
    · exact .refl _

/-- A goal that is requested is taken over once, if it is not held. -/
theorem count_newGoals (held requested : List (GoalHandle V)) (goal : GoalId) :
    ((newGoals held requested).map (·.id)).count goal =
      if goal ∈ requested.map (·.id) ∧ goal ∉ held.map (·.id) then 1 else 0 := by
  induction requested using List.reverseRecOn with
  | nil => rfl
  | append_singleton requested handle ih =>
    rw [newGoals_append, List.map_append, List.count_append, ih]
    by_cases same : handle.id = goal
    · subst same
      by_cases held : handle.id ∈ held.map (·.id) <;>
        by_cases asked : handle.id ∈ requested.map (·.id) <;> simp [held, asked]
    · have kept : (((if handle.id ∈ (held ++ requested).map (·.id) then [] else [handle]).map
          GoalHandle.id).count goal) = 0 := by
        split <;> simp [same]
      rw [kept]
      simp [Ne.symm same]

/-- To adopt goals puts the new ones behind those that are held. -/
theorem Agent.goals_adoptAll (requested : List (GoalHandle V)) (agent : Agent V) :
    (requested.foldl Agent.adopt agent).goals = agent.goals ++ newGoals agent.goals requested := by
  induction requested using List.reverseRecOn with
  | nil => exact (List.append_nil _).symm
  | append_singleton requested handle ih =>
    have taken : handle.id ∈ (newGoals agent.goals requested).map (·.id) ↔
        handle.id ∈ requested.map (·.id) ∧ handle.id ∉ agent.goals.map (·.id) := by
      rw [← List.count_pos_iff, count_newGoals]
      split <;> rename_i new
      · exact ⟨fun _ => new, fun _ => Nat.one_pos⟩
      · exact ⟨fun none => absurd none (Nat.lt_irrefl 0), fun taken => absurd taken new⟩
    have known : (requested.foldl Agent.adopt agent).holds handle = true ↔
        handle.id ∈ (agent.goals ++ requested).map (·.id) := by
      have holds : (requested.foldl Agent.adopt agent).holds handle = true ↔
          handle.id ∈ (agent.goals ++ newGoals agent.goals requested).map (·.id) := by
        simp [Agent.holds, ih]
      rw [holds, List.map_append, List.map_append, List.mem_append, List.mem_append, taken]
      tauto
    rw [List.foldl_append, List.foldl_cons, List.foldl_nil, newGoals_append, adopt]
    by_cases held : handle.id ∈ (agent.goals ++ requested).map (·.id)
    · rw [if_pos (known.mpr held), if_pos held, ih, List.append_nil]
    · rw [if_neg (mt known.mp held), if_neg held, ← List.append_assoc, ← ih]

/-! ## Minutes -/

/-- What is taken down of a cycle. -/
structure Minutes (V : Vocabulary) where
  /-- What arrived at the agent since it drained its inbox. -/
  arrived : List (Arrival V)
  /-- What plans requested. -/
  requests : Effects V
  /-- The interceptors that the sense stage left. -/
  sensed : Interceptors V
  /-- How plans changed the interceptors. -/
  tweaks : List (Tweak V)

namespace Minutes

/-- Nothing has happened yet. -/
def opening : Minutes V :=
  { arrived := [], requests := Effects.none, sensed := Interceptors.none, tweaks := [] }

/-- Take down the stride that a cycle makes from a phase in a world. -/
def note (minutes : Minutes V) (world : World V) (number : BirthNumber) : Phase V → Minutes V
  | .sensing _ [] _ => { minutes with sensed := (world.agent number).interceptors }
  | .acting script _ _ _ _ _ =>
    { minutes with
      arrived := minutes.arrived ++ arrivalsAt number (script.deeds number world)
      requests := minutes.requests.heed script
      tweaks := minutes.tweaks ++ script.tweak?.toList }
  | _ => minutes

/-- The interceptors after the changes so far. -/
def interceptors (minutes : Minutes V) : Interceptors V :=
  minutes.tweaks.foldl Tweak.apply minutes.sensed

/-- Whether an interceptor is registered by the changes so far: the last one that concerns it
decides, and without any the interceptors of the sense stage do. -/
def registers (minutes : Minutes V) (category : Category) (id : InterceptorId) : Bool :=
  (minutes.tweaks.filterMap (Tweak.verdict? category id)).getLast?.getD
    (minutes.sensed.contains category id)

/-- What the minutes are without any requests. -/
def muted (minutes : Minutes V) : Minutes V :=
  { minutes with
    requests := Effects.none
    sensed := minutes.sensed.muted
    tweaks := minutes.tweaks.map Tweak.muted }

end Minutes

/-! ### The minutes of a muted agent -/

namespace World

variable (world : World V) (number : BirthNumber)

/-- What a delivery lets arrive does not depend on what an agent requests. -/
theorem mailTo_mute (receiver : AgentId) (message : Message) :
    (world.mute number).mailTo receiver message = world.mailTo receiver message := rfl

/-- What deliveries let arrive does not depend on what an agent requests. -/
theorem mailToAll_mute (message : Message) (receivers : List AgentId) :
    (world.mute number).mailToAll message receivers = world.mailToAll message receivers := by
  induction receivers generalizing world with
  | nil => rfl
  | cons receiver rest ih =>
    simp only [mailToAll, mailTo_mute, deliverTo_mute, Prod.map_fst, ih]

/-- What a muted agent sends arrives as from the agent. -/
theorem mailFrom_mute (message : Message) :
    (world.mute number).mailFrom number message = world.mailFrom number message := by
  simp only [mailFrom, agent_mute]
  exact congrArg (if (world.agent number).connected then · else [])
    (mailToAll_mute world number message _)

end World

section muted

variable {world : World V} {number : BirthNumber} {script : Script V} {phase : Phase V}

/-- A request lets nothing arrive. -/
theorem Script.arrivals_of_isRequest (request : script.isRequest = true) :
    arrivalsAt number (script.deeds number world) = [] := by
  cases script with
  | raise | adoptGoal | adoptPlan | requestStop => rfl
  | _ => cases request

/-- Unless it is a request, an operation of a muted script has the same deeds. -/
theorem Script.deeds_muted (noRequest : script.isRequest = false) :
    script.muted.deeds number (world.mute number) = script.deeds number world := by
  cases script with
  | raise | adoptGoal | adoptPlan | requestStop => cases noRequest
  | send message rest => exact world.mailFrom_mute number message
  | _ => rfl

/-- Unless it is a request, a muted script changes the interceptors by muted ones. -/
theorem Script.tweak?_muted (noRequest : script.isRequest = false) :
    script.muted.tweak? = script.tweak?.map Tweak.muted := by
  cases script with
  | raise | adoptGoal | adoptPlan | requestStop => cases noRequest
  | _ => rfl

/-- A request changes no interceptors. -/
theorem Script.tweak?_of_isRequest (request : script.isRequest = true) : script.tweak? = none := by
  cases script with
  | raise | adoptGoal | adoptPlan | requestStop => rfl
  | _ => cases request

/-- Unless it is a request, an operation buffers nothing. -/
theorem Script.heed_muted (noRequest : script.isRequest = false) (effects : Effects V) :
    effects.heed script.muted = effects := by
  cases script with
  | raise | adoptGoal | adoptPlan | requestStop => cases noRequest
  | _ => rfl

/-- In the minutes of a muted agent there are no requests. -/
theorem Minutes.note_muted_of_isRequest (minutes : Minutes V) (request : phase.isRequest = true) :
    (minutes.note world number phase).muted = minutes.muted := by
  cases phase with
  | acting script finished active pending steps progress =>
    simp only [note, muted, Script.arrivals_of_isRequest request,
      Script.tweak?_of_isRequest request, Option.toList_none, List.append_nil]
  | _ => cases request

/-- The minutes of a muted agent are the same but for the requests. -/
theorem Minutes.note_muted (minutes : Minutes V) (noRequest : phase.isRequest = false) :
    (minutes.note world number phase).muted =
      minutes.muted.note (world.mute number) number phase.muted := by
  match phase with
  | .sensing inbox [] acts =>
    simp only [note, Phase.muted, World.agent_mute]
    rfl
  | .acting script finished active pending steps progress =>
    have tweaks : (script.tweak?.map Tweak.muted).toList =
        script.tweak?.toList.map Tweak.muted := by
      cases script.tweak? <;> rfl
    simp only [note, muted, Phase.muted, Script.deeds_muted noRequest, Script.heed_muted noRequest,
      Script.tweak?_muted noRequest, tweaks, List.map_append]
  | .waking | .sweeping .. | .sensing _ (_ :: _) _ | .planning .. | .closing .. | .parting ..
  | .finished .. => rfl

end muted

end Deliberation
