import Deliberation.Category
import Deliberation.Codec
import Deliberation.Json.Decode
import Deliberation.Json.Writer

/-!
# The JSON wire format of messages

`Message.toJson` writes the five fields in their order, `Message.decode` reads them in any order, and
`Codec.json` carries messages in this form. Parameters may be left out.
-/

namespace Deliberation

/-- Read an identity in any accepted spelling. -/
def AgentId.decode : Json.Decoder AgentId :=
  Json.textAs fun text => (Identifier.ofText? text).map AgentId.mk

/-- Read a category by its tag. -/
def Category.decode : Json.Decoder Category := Json.choice Category.ofTag?

namespace Message

/-- The message in compact JSON. -/
def toJson (message : Message) : String :=
  Json.object
    [("sender", Json.quote message.sender.toText),
     ("receivers", Json.array (message.receivers.map fun receiver => Json.quote receiver.toText)),
     ("content", Json.quote message.content),
     ("parameters", Json.object (message.parameters.map fun (key, value) => (key, Json.quote value))),
     ("sent_at", Json.quote message.sentAt.toText)]

/-- The fields that have been read. -/
structure Fields where
  sender : Option AgentId
  receivers : Option (List AgentId)
  content : Option String
  parameters : Option (List (String × String))
  sentAt : Option Instant

/-- Read one field. -/
def readField (fields : Fields) (name : String) (tree : Json.Tree) : Except Json.Fault Fields :=
  match name with
  | "sender" => do .ok { fields with sender := ← Json.once fields.sender AgentId.decode tree }
  | "receivers" => do
    .ok { fields with receivers := ← Json.once fields.receivers (Json.list AgentId.decode) tree }
  | "content" => do .ok { fields with content := ← Json.once fields.content Json.text tree }
  | "parameters" => do
    .ok { fields with parameters := ← Json.once fields.parameters (Json.entries Json.text) tree }
  | "sent_at" => do
    .ok { fields with sentAt := ← Json.once fields.sentAt (Json.textAs Instant.ofText?) tree }
  | _ => Json.ignore fields tree

/-- Read a message. Of several parameters with one key the last counts. -/
def decode : Json.Decoder Message := fun tree => do
  let fields ← Json.record ["sender", "receivers", "content", "parameters", "sent_at"] false
    readField
    { sender := none, receivers := none, content := none, parameters := none, sentAt := none } tree
  .ok
    { sender := ← Json.required fields.sender, receivers := ← Json.required fields.receivers,
      content := ← Json.required fields.content
      parameters := (fields.parameters.getD []).foldl
        (fun parameters (key, value) => parameters.insert key value) []
      sentAt := ← Json.required fields.sentAt }

end Message

namespace Codec

/-- The reason given for a text that is no message. -/
def faultReason : Json.Fault → String
  | .malformed => "malformed text"
  | .incomplete => "incomplete text"
  | .mismatched => "not a message"

/-- Messages as JSON. -/
def json : Codec :=
  { encode := fun message => .ok (Text.Glyph.ofText message.toJson)
    decode := fun glyphs =>
      (Json.decodeText Message.decode glyphs).mapError fun fault => .decode (faultReason fault) }

/-- A codec that changes what it decodes. -/
def transforming (change : Message → Message) (codec : Codec) : Codec :=
  { codec with decode := fun glyphs => (codec.decode glyphs).map change }

/-- A codec that refuses to encode some messages. -/
def refusingToEncode (refuses : Message → Bool) (reason : String) (codec : Codec) : Codec :=
  { codec with
    encode := fun message =>
      if refuses message then .error (.encode reason) else codec.encode message }

/-- A codec that refuses to hand out some messages it has decoded. -/
def refusingToDecode (refuses : Message → Bool) (reason : String) (codec : Codec) : Codec :=
  { codec with
    decode := fun glyphs => do
      let message ← codec.decode glyphs
      if refuses message then .error (.decode reason) else .ok message }

end Codec

end Deliberation
