import Deliberation.Text.Record
import Deliberation.Json.Writer

/-!
# Payloads

The content of external and internal triggers is a value of one of seven types. A payload is only
ever asked whether it has a given type and which value it then holds; the type's name shows in
renderings.
-/

namespace Deliberation

/-- The types of payloads. -/
inductive PayloadType where
  | byte
  | word
  | integer
  | flag
  | unit
  | label
  | text
  deriving DecidableEq, Inhabited

/-- A typed value. A label is a fixed text and differs from a text with the same characters. -/
inductive Payload where
  | byte (value : UInt8)
  | word (value : UInt32)
  | integer (value : Int)
  | flag (value : Bool)
  | unit
  | label (value : String)
  | text (value : String)
  deriving DecidableEq, Inhabited

namespace PayloadType

/-- All types in their listing order. -/
def all : List PayloadType := [byte, word, integer, flag, unit, label, text]

/-- The short name of a type. -/
def name : PayloadType → String
  | byte => "u8"
  | word => "u32"
  | integer => "i64"
  | flag => "bool"
  | unit => "unit"
  | label => "str"
  | text => "string"

/-- The full name of a type, which renderings show. -/
def fullName : PayloadType → String
  | byte => "u8"
  | word => "u32"
  | integer => "i64"
  | flag => "bool"
  | unit => "()"
  | label => "&str"
  | text => "alloc::string::String"

/-- The type that a short name names. -/
def ofName? (text : String) : Option PayloadType := all.find? (·.name == text)

end PayloadType

namespace Payload

/-- The type of a payload. -/
def type : Payload → PayloadType
  | byte _ => .byte
  | word _ => .word
  | integer _ => .integer
  | flag _ => .flag
  | unit => .unit
  | label _ => .label
  | text _ => .text

/-- Whether a payload has a type. -/
def is (payload : Payload) (type : PayloadType) : Bool := payload.type == type

/-- The value in compact JSON. -/
def valueJson : Payload → String
  | byte value => toString value.toNat
  | word value => toString value.toNat
  | integer value => toString value
  | flag value => if value then "true" else "false"
  | unit => "null"
  | label value => Json.quote value
  | text value => Json.quote value

/-- The pair of type name and value in compact JSON. -/
def toJson (payload : Payload) : String :=
  "[" ++ Json.quote payload.type.name ++ "," ++ payload.valueJson ++ "]"

/-- The rendering shows the type only. -/
def render (payload : Payload) : String :=
  Text.openRecord "Payload" [("type", "\"" ++ payload.type.fullName ++ "\"")]

end Payload

end Deliberation
