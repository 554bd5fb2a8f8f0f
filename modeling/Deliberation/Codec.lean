import Deliberation.Message
import Deliberation.Text.Glyph

/-!
# Wire formats for messages

A codec turns messages into glyphs and back. A messenger with a codec passes every message through
it, so a receiver sees what survives the wire.
-/

namespace Deliberation

/-- Why a message cannot be carried. -/
inductive CodecError where
  | encode (reason : String)
  | decode (reason : String)
  deriving DecidableEq, Inhabited

/-- The wording of a codec error. -/
def CodecError.message : CodecError → String
  | .encode reason => "failed to encode message: " ++ reason
  | .decode reason => "failed to decode message: " ++ reason

/-- A wire format for messages. -/
structure Codec where
  encode : Message → Except CodecError (List Text.Glyph)
  decode : List Text.Glyph → Except CodecError Message

/-- Carry a message over the wire. -/
def Codec.carry (codec : Codec) (message : Message) : Except CodecError Message := do
  codec.decode (← codec.encode message)

end Deliberation
