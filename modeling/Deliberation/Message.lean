import Deliberation.Identifier
import Deliberation.Time.Rfc3339
import Deliberation.Text.Quoted
import Deliberation.Text.Record

/-!
# Messages

A message goes from one agent to the listed receivers, or to every other registered agent when it
lists none. Its parameters are kept in the order of their keys, with one value per key.
-/

namespace Deliberation

/-- Parameters in ascending order of their keys. -/
abbrev Parameters := List (String × String)

namespace Parameters

/-- Set a parameter; an equal key loses its former value. -/
def insert (key value : String) : Parameters → Parameters
  | [] => [(key, value)]
  | (other, held) :: rest =>
    if key < other then (key, value) :: (other, held) :: rest
    else if key = other then (key, value) :: rest
    else (other, held) :: insert key value rest

/-- The value of a parameter. -/
def find? (parameters : Parameters) (key : String) : Option String := parameters.lookup key

end Parameters

/-- A message between agents. -/
structure Message where
  sender : AgentId
  receivers : List AgentId
  content : String
  parameters : Parameters
  sentAt : Instant
  deriving DecidableEq, Inhabited

namespace Message

/-- A message from a sender to everybody, without parameters. -/
def broadcast (sender : AgentId) (content : String) : Message :=
  { sender, receivers := [], content, parameters := [], sentAt := Instant.epoch }

/-- Add a receiver. -/
def addressedTo (message : Message) (receiver : AgentId) : Message :=
  { message with receivers := message.receivers ++ [receiver] }

/-- Set a parameter. -/
def withParameter (message : Message) (key value : String) : Message :=
  { message with parameters := message.parameters.insert key value }

/-- The value of a parameter. -/
def parameter? (message : Message) (key : String) : Option String := message.parameters.find? key

/-- Whether the message lists no receiver. -/
def isBroadcast (message : Message) : Bool := message.receivers.isEmpty

/-- The rendering shows every field. -/
def render (message : Message) : String :=
  Text.record "Message"
    [("sender", message.sender.render),
     ("receivers", Text.bracketed (message.receivers.map AgentId.render)),
     ("content", Text.quoted message.content),
     ("parameters", Text.braced
       (message.parameters.map fun (key, value) => (Text.quoted key, Text.quoted value))),
     ("sent_at", message.sentAt.toText)]

end Message

end Deliberation
