import Deliberation.Blueprint
import Deliberation.Proofs.Registries

/-!
# Composing designs

A `Draft` is how a design comes about: the calls that make it, where one of them may include a whole
other draft. Apart from the step lists a draft amounts to a list of `Part`s, those of an included
draft standing where it was included. Every list of the blueprint is a selection from that list in
its order, and a capability leads to the object of the last part that registers it
(`Draft.madeOf`). Composition is then the concatenation of lists of parts.
-/

namespace Deliberation

variable {V : Vocabulary}

/-- One thing that a draft adds to a design. -/
inductive Part (V : Vocabulary) where
  | scheme (category : Category) (added : Scheme V)
  | context (capabilities : List Capability) (added : V.Object)
  | interceptor (category : Category) (added : Interceptor V)
  | initialPlan (added : Plan V)
  | shutdownPlan (added : Plan V)

namespace Part

/-- The scheme that a part adds to a category. -/
def scheme? (category : Category) : Part V → Option (Scheme V)
  | scheme under added => if under = category then some added else none
  | _ => none

/-- The object that a part makes reachable under a capability. -/
def object? (capability : Capability) : Part V → Option V.Object
  | context capabilities added => if capability ∈ capabilities then some added else none
  | _ => none

/-- The interceptor that a part adds to a category. -/
def interceptor? (category : Category) : Part V → Option (Interceptor V)
  | interceptor under added => if under = category then some added else none
  | _ => none

/-- The plan that a part adds to those that are active from the first cycle on. -/
def initialPlan? : Part V → Option (Plan V)
  | initialPlan added => some added
  | _ => none

/-- The plan that a part adds to those that run when the agent stops. -/
def shutdownPlan? : Part V → Option (Plan V)
  | shutdownPlan added => some added
  | _ => none

/-- Add a part to a design. -/
def addTo (design : Design V) : Part V → Design V
  | scheme category added => design.withScheme category added
  | context capabilities added => design.withContext capabilities added
  | interceptor category added => design.withInterceptor category added
  | initialPlan added => design.withInitialPlan added
  | shutdownPlan added => design.withShutdownPlan added

end Part

/-- How a design comes about. -/
inductive Draft (V : Vocabulary) where
  | empty
  | adding (draft : Draft V) (part : Part V)
  | withSenseSteps (draft : Draft V) (steps : List SenseStep)
  | withActSteps (draft : Draft V) (steps : List ActStep)
  | including (first second : Draft V)

namespace Draft

/-- The design that comes about. -/
def design : Draft V → Design V
  | empty => Design.empty
  | adding draft part => part.addTo draft.design
  | withSenseSteps draft steps => draft.design.withSenseSteps steps
  | withActSteps draft steps => draft.design.withActSteps steps
  | including first second => first.design.including second.design

/-- What was added, in order. -/
def parts : Draft V → List (Part V)
  | empty => []
  | adding draft part => draft.parts ++ [part]
  | withSenseSteps draft _ => draft.parts
  | withActSteps draft _ => draft.parts
  | including first second => first.parts ++ second.parts

/-- The agent that is built. -/
def blueprint (draft : Draft V) : Blueprint V := draft.design.build

end Draft

/-! ## Sorting the interceptors -/

/-- An item, if it is filed under the category. -/
def filedUnder {α : Type} (category : Category) (item : Category × α) : Option α :=
  if item.1 = category then some item.2 else none

/-- An interceptor goes behind those of its category, and the others stay as they are. -/
theorem Interceptors.get_add (interceptors : Interceptors V) (item : Category × Interceptor V)
    (category : Category) :
    (interceptors.add item.1 item.2).get category =
      interceptors.get category ++ (filedUnder category item).toList := by
  rw [Interceptors.add, PerCategory.modify, filedUnder]
  split
  case isTrue same =>
    rw [same, PerCategory.get_set_self]
    rfl
  case isFalse different =>
    rw [PerCategory.get_set_of_ne _ _ (Ne.symm different)]
    exact (List.append_nil _).symm

/-- Sorting keeps the order within every category. -/
theorem Design.get_build_interceptors (design : Design V) (category : Category) :
    design.build.interceptors.get category =
      design.interceptors.filterMap (filedUnder category) := by
  rw [Design.build]
  induction design.interceptors using List.reverseRecOn with
  | nil => exact PerCategory.get_fill ..
  | append_singleton items item hypothesis =>
    rw [List.foldl_append, List.foldl_cons, List.foldl_nil, Interceptors.get_add, hypothesis,
      List.filterMap_append]
    cases filed : filedUnder category item with
    | none => simp [filed]
    | some interceptor => simp [filed]

/-! ## What a design is made of -/

namespace Design

/-- Including designs is associative. -/
theorem including_assoc (first second third : Design V) :
    (first.including second).including third = first.including (second.including third) := by
  simp only [including, PerCategory.append, List.append_assoc, Contexts.merge_assoc]

/-- Including nothing changes nothing. -/
theorem including_empty (design : Design V) : design.including empty = design := by
  simp only [including, empty, PerCategory.append, PerCategory.fill, List.append_nil,
    Contexts.merge_empty]

/-- Adding a part includes the design that has no other part. -/
theorem addTo_eq_including (design : Design V) (part : Part V) :
    part.addTo design = design.including (part.addTo empty) := by
  cases part with
  | scheme category added =>
    cases category <;>
      simp [Part.addTo, withScheme, including, empty, PerCategory.modify, PerCategory.set,
        PerCategory.get, PerCategory.append, PerCategory.fill]
  | context capabilities added =>
    simp [Part.addTo, withContext, including, empty, PerCategory.append, PerCategory.fill,
      Contexts.merge_register]
  | interceptor category added =>
    simp [Part.addTo, withInterceptor, including, empty, PerCategory.append, PerCategory.fill]
  | initialPlan added =>
    simp [Part.addTo, withInitialPlan, including, empty, PerCategory.append, PerCategory.fill]
  | shutdownPlan added =>
    simp [Part.addTo, withShutdownPlan, including, empty, PerCategory.append, PerCategory.fill]

end Design

/-- A blueprint holds exactly the given parts, in their order, the later registrations winning. -/
structure Blueprint.MadeOf (blueprint : Blueprint V) (parts : List (Part V)) : Prop where
  schemes : ∀ category, blueprint.schemes.get category = parts.filterMap (Part.scheme? category)
  contexts : ∀ capability,
    blueprint.contexts.find? capability = (parts.filterMap (Part.object? capability)).getLast?
  distinct : blueprint.contexts.Distinct
  interceptors : ∀ category,
    blueprint.interceptors.get category = parts.filterMap (Part.interceptor? category)
  initialPlans : blueprint.initialPlans = parts.filterMap Part.initialPlan?
  shutdownPlans : blueprint.shutdownPlans = parts.filterMap Part.shutdownPlan?

/-- A blueprint has the parts of a first one and behind them those of a second one. The second one
is asked first for a capability, and only the steps of the first one count. -/
structure Blueprint.Composes (whole first second : Blueprint V) : Prop where
  schemes : ∀ category,
    whole.schemes.get category = first.schemes.get category ++ second.schemes.get category
  contexts : ∀ capability,
    whole.contexts.find? capability =
      (second.contexts.find? capability).or (first.contexts.find? capability)
  interceptors : ∀ category,
    whole.interceptors.get category =
      first.interceptors.get category ++ second.interceptors.get category
  initialPlans : whole.initialPlans = first.initialPlans ++ second.initialPlans
  shutdownPlans : whole.shutdownPlans = first.shutdownPlans ++ second.shutdownPlans
  senseSteps : whole.senseSteps = first.senseSteps
  actSteps : whole.actSteps = first.actSteps

namespace Design

/-- What is built from an included design stands behind what is built without it. -/
theorem build_including (first : Design V) {second : Design V}
    (distinct : second.contexts.Distinct) :
    (first.including second).build.Composes first.build second.build where
  schemes := fun _ => PerCategory.get_append ..
  contexts := Contexts.find?_merge _ distinct
  interceptors := by
    intro category
    rw [get_build_interceptors, get_build_interceptors, get_build_interceptors, including,
      List.filterMap_append]
  initialPlans := rfl
  shutdownPlans := rfl
  senseSteps := rfl
  actSteps := rfl

end Design

namespace Blueprint.MadeOf

variable {whole first second : Blueprint V} {parts others : List (Part V)}

/-- The empty design is made of no parts. -/
theorem of_empty : (Design.empty : Design V).build.MadeOf [] where
  schemes := fun _ => PerCategory.get_fill ..
  contexts := fun _ => rfl
  distinct := Contexts.distinct_empty
  interceptors := fun _ => PerCategory.get_fill ..
  initialPlans := rfl
  shutdownPlans := rfl

/-- A design with a single part is made of it. -/
theorem of_singleton (part : Part V) : (part.addTo Design.empty).build.MadeOf [part] where
  schemes := by
    intro category
    cases part with
    | scheme under added => cases under <;> cases category <;> rfl
    | _ => exact PerCategory.get_fill ..
  contexts := by
    intro capability
    cases part with
    | context capabilities added =>
      refine (Contexts.find?_register _ _ _ _).trans ?_
      split
      case isTrue held => simp [Part.object?, held]
      case isFalse free => simp [Part.object?, free, Design.empty, Contexts.find?_empty]
    | _ => rfl
  distinct := by
    cases part with
    | context capabilities added => exact Contexts.distinct_empty.register _ _
    | _ => exact Contexts.distinct_empty
  interceptors := by
    intro category
    rw [Design.get_build_interceptors]
    cases part with
    | interceptor under added => rfl
    | _ => rfl
  initialPlans := by cases part <;> rfl
  shutdownPlans := by cases part <;> rfl

/-- Composing blueprints puts their parts one behind the other. -/
theorem of_composes (composes : whole.Composes first second) (distinct : whole.contexts.Distinct)
    (made : first.MadeOf parts) (made' : second.MadeOf others) :
    whole.MadeOf (parts ++ others) where
  schemes := by
    intro category
    rw [composes.schemes, made.schemes, made'.schemes, List.filterMap_append]
  contexts := by
    intro capability
    rw [composes.contexts, made.contexts, made'.contexts, List.filterMap_append,
      List.getLast?_append]
  distinct := distinct
  interceptors := by
    intro category
    rw [composes.interceptors, made.interceptors, made'.interceptors, List.filterMap_append]
  initialPlans := by
    rw [composes.initialPlans, made.initialPlans, made'.initialPlans, List.filterMap_append]
  shutdownPlans := by
    rw [composes.shutdownPlans, made.shutdownPlans, made'.shutdownPlans, List.filterMap_append]

/-- A design that includes another one is made of the parts of both. -/
theorem including {first second : Design V} (made : first.build.MadeOf parts)
    (made' : second.build.MadeOf others) :
    (first.including second).build.MadeOf (parts ++ others) :=
  of_composes (first.build_including made'.distinct) (made.distinct.merge _) made made'

/-- A design to which a part is added is made of one part more. -/
theorem adding {design : Design V} (made : design.build.MadeOf parts) (part : Part V) :
    (part.addTo design).build.MadeOf (parts ++ [part]) := by
  rw [Design.addTo_eq_including]
  exact made.including (of_singleton part)

end Blueprint.MadeOf

namespace Draft

/-- A draft makes the blueprint of its parts. -/
theorem madeOf (draft : Draft V) : draft.blueprint.MadeOf draft.parts := by
  induction draft with
  | empty => exact .of_empty
  | adding draft part hypothesis => exact hypothesis.adding part
  | withSenseSteps draft steps hypothesis => exact { hypothesis with }
  | withActSteps draft steps hypothesis => exact { hypothesis with }
  | including first second hypothesis hypothesis' => exact hypothesis.including hypothesis'

/-- Inclusion is associative and an empty draft adds nothing. The blueprint of a draft that includes
another composes the blueprints of the two, and every blueprint is what the parts of its draft come
to, however the draft was put together. -/
theorem composition (first second third : Draft V) :
    ((first.including second).including third).blueprint =
        (first.including (second.including third)).blueprint ∧
      (first.including empty).blueprint = first.blueprint ∧
      (first.including second).blueprint.Composes first.blueprint second.blueprint ∧
      first.blueprint.MadeOf first.parts := by
  refine ⟨?_, ?_, ?_, first.madeOf⟩
  · exact congrArg Design.build (Design.including_assoc ..)
  · exact congrArg Design.build (Design.including_empty _)
  · exact first.design.build_including second.madeOf.distinct

example (capability : Capability) (earlier later : V.Object) :
    ((empty.adding (.context [capability] earlier)).including
      (empty.adding (.context [capability] later))).blueprint.contexts.find? capability =
        some later := by
  simp [madeOf _ |>.contexts, parts, Part.object?]

end Draft

end Deliberation
