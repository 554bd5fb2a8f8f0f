/-!
# Trigger categories

The four categories of triggers, in the order in which a cycle handles them, and families indexed by
them. An agent keeps one list of schemes and one list of interceptors per category.
-/

namespace Deliberation

/-- Where a trigger comes from: a goal of the agent, its environment, the agent itself, or another
agent. -/
inductive Category where
  | goal
  | external
  | internal
  | message
  deriving DecidableEq, Inhabited, Repr

namespace Category

/-- All categories in their handling order. -/
def all : List Category := [goal, external, internal, message]

/-- The lower-case name. -/
def name : Category → String
  | goal => "goal"
  | external => "external"
  | internal => "internal"
  | message => "message"

instance : ToString Category := ⟨name⟩

/-- The capitalised name, under which a category is stored. -/
def tag : Category → String
  | goal => "Goal"
  | external => "External"
  | internal => "Internal"
  | message => "Message"

/-- The category that a tag names. -/
def ofTag? (text : String) : Option Category := all.find? (·.tag == text)

/-- The category that a lower-case name names. -/
def ofName? (text : String) : Option Category := all.find? (·.name == text)

end Category

/-- One value per category. -/
structure PerCategory (α : Type) where
  goal : α
  external : α
  internal : α
  message : α
  deriving Inhabited, DecidableEq

namespace PerCategory

variable {α β : Type}

/-- The same value for every category. -/
def fill (value : α) : PerCategory α :=
  { goal := value, external := value, internal := value, message := value }

/-- The value of one category. -/
def get (family : PerCategory α) : Category → α
  | .goal => family.goal
  | .external => family.external
  | .internal => family.internal
  | .message => family.message

/-- Replace the value of one category. -/
def set (family : PerCategory α) (category : Category) (value : α) : PerCategory α :=
  match category with
  | .goal => { family with goal := value }
  | .external => { family with external := value }
  | .internal => { family with internal := value }
  | .message => { family with message := value }

/-- Change the value of one category. -/
def modify (family : PerCategory α) (category : Category) (change : α → α) : PerCategory α :=
  family.set category (change (family.get category))

/-- Change every value. -/
def map (change : α → β) (family : PerCategory α) : PerCategory β :=
  { goal := change family.goal, external := change family.external,
    internal := change family.internal, message := change family.message }

/-- The values in category order. -/
def toList (family : PerCategory α) : List α :=
  [family.goal, family.external, family.internal, family.message]

/-- Put the lists of a second family behind those of a first. -/
def append (first second : PerCategory (List α)) : PerCategory (List α) :=
  { goal := first.goal ++ second.goal, external := first.external ++ second.external,
    internal := first.internal ++ second.internal, message := first.message ++ second.message }

/-- The number of items in all lists. -/
def total (family : PerCategory (List α)) : Nat :=
  family.goal.length + family.external.length + family.internal.length + family.message.length

/-- A filled family has the same value for every category. -/
@[simp] theorem get_fill (value : α) (category : Category) : (fill value).get category = value := by
  cases category <;> rfl

/-- A category that was set has its new value. -/
@[simp] theorem get_set_self (family : PerCategory α) (category : Category) (value : α) :
    (family.set category value).get category = value := by
  cases category <;> rfl

/-- Setting a category leaves the others. -/
theorem get_set_of_ne (family : PerCategory α) {category other : Category} (value : α)
    (different : other ≠ category) : (family.set category value).get other = family.get other := by
  cases category <;> cases other <;> first | rfl | exact absurd rfl different

/-- Mapping a family maps the value of every category. -/
@[simp] theorem get_map (change : α → β) (family : PerCategory α) (category : Category) :
    (family.map change).get category = change (family.get category) := by
  cases category <;> rfl

/-- Families of lists are appended category by category. -/
@[simp] theorem get_append (first second : PerCategory (List α)) (category : Category) :
    (first.append second).get category = first.get category ++ second.get category := by
  cases category <;> rfl

end PerCategory

end Deliberation
