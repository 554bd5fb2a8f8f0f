import Deliberation.Text.Record

/-!
# Contexts

An agent's contexts are objects reachable under capabilities. A capability is a name; an object may
be reachable under several of them, and a later registration takes a capability over. Objects may
change in place, the registration itself does not change once the agent exists.

`find?` is the view of a registry: `find?_register` and `find?_merge` say what each operation does
to it.
-/

namespace Deliberation

/-- The name under which a context is looked up. -/
abbrev Capability := String

/-- One object and the capabilities under which it is reachable. -/
structure ContextEntry (Object : Type) where
  capabilities : List Capability
  object : Object
  deriving Inhabited

/-- The contexts of an agent. -/
structure Contexts (Object : Type) where
  entries : List (ContextEntry Object)
  deriving Inhabited

namespace Contexts

variable {Object : Type}

/-- No context. -/
def empty : Contexts Object := ⟨[]⟩

/-- The first object reachable under a capability. -/
def findIn? (capability : Capability) : List (ContextEntry Object) → Option Object
  | [] => none
  | entry :: rest =>
    if capability ∈ entry.capabilities then some entry.object else findIn? capability rest

/-- The object reachable under a capability. -/
def find? (contexts : Contexts Object) (capability : Capability) : Option Object :=
  findIn? capability contexts.entries

/-- Whether some object is reachable under a capability. -/
def contains (contexts : Contexts Object) (capability : Capability) : Bool :=
  (contexts.find? capability).isSome

/-- Take capabilities away from every entry, and drop the entries that are left without any. -/
def withdraw (capabilities : List Capability) (entries : List (ContextEntry Object)) :
    List (ContextEntry Object) :=
  (entries.map fun entry =>
    { entry with capabilities := entry.capabilities.filter (· ∉ capabilities) }).filter
    fun entry => !entry.capabilities.isEmpty

/-- Make an object reachable under the given capabilities. -/
def register (contexts : Contexts Object) (capabilities : List Capability) (object : Object) :
    Contexts Object :=
  ⟨withdraw capabilities contexts.entries ++ [⟨capabilities, object⟩]⟩

/-- Register every object of a second registry; its registrations win. -/
def merge (first second : Contexts Object) : Contexts Object :=
  second.entries.foldl (fun contexts entry => contexts.register entry.capabilities entry.object)
    first

/-- Change the object reachable under a capability, if there is one. -/
def modify (contexts : Contexts Object) (capability : Capability) (change : Object → Object) :
    Contexts Object :=
  ⟨contexts.entries.map fun entry =>
    if capability ∈ entry.capabilities then { entry with object := change entry.object } else entry⟩

/-- All capabilities in ascending order. -/
def capabilities (contexts : Contexts Object) : List Capability :=
  (contexts.entries.flatMap (·.capabilities)).mergeSort (fun first second => first ≤ second)

/-- The number of capabilities. -/
def size (contexts : Contexts Object) : Nat := contexts.capabilities.length

/-- The rendering lists the capabilities. -/
def render (contexts : Contexts Object) : String :=
  Text.record "ContextContainer"
    [("keys", Text.bracketed (contexts.capabilities.map fun name => "\"" ++ name ++ "\""))]

end Contexts

end Deliberation
