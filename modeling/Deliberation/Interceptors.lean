import Deliberation.Plan

/-!
# The interceptors of an agent

Four lists of interceptors, one per category, in registration order.
-/

namespace Deliberation

variable {V : Vocabulary}

/-- The registered interceptors, per category. -/
abbrev Interceptors (V : Vocabulary) := PerCategory (List (Interceptor V))

namespace Interceptors

/-- No interceptor. -/
def none : Interceptors V := PerCategory.fill []

/-- Register an interceptor behind the others of its category. -/
def add (interceptors : Interceptors V) (category : Category) (interceptor : Interceptor V) :
    Interceptors V :=
  interceptors.modify category (· ++ [interceptor])

/-- Whether an interceptor is registered under a category. -/
def contains (interceptors : Interceptors V) (category : Category) (id : InterceptorId) : Bool :=
  (interceptors.get category).any (·.id == id)

/-- Remove an interceptor from a category. -/
def remove (interceptors : Interceptors V) (category : Category) (id : InterceptorId) :
    Interceptors V :=
  interceptors.modify category (·.filter (·.id != id))

/-- The number of interceptors per category. -/
def counts (interceptors : Interceptors V) : List Nat := (interceptors.map List.length).toList

/-- Whether no category holds an interceptor. -/
def isEmpty (interceptors : Interceptors V) : Bool := interceptors.toList.all (·.isEmpty)

end Interceptors

/-- Names of interceptors. A name stands for the interceptor that was last created under it, and
identities are handed out in order. -/
structure NameBook where
  next : Nat
  names : List (String × InterceptorId)
  deriving Inhabited

namespace NameBook

/-- No name is known. -/
def empty : NameBook := { next := 0, names := [] }

/-- Create an identity under a name. -/
def create (book : NameBook) (name : String) : InterceptorId × NameBook :=
  let id : InterceptorId := ⟨book.next⟩
  (id, { next := book.next + 1, names := (name, id) :: book.names })

/-- The identity that a name stands for. -/
def find? (book : NameBook) (name : String) : Option InterceptorId := book.names.lookup name

/-- The name that stands for an identity. -/
def nameOf? (book : NameBook) (id : InterceptorId) : Option String :=
  (book.names.find? (·.2 == id)).map (·.1)

end NameBook

end Deliberation
