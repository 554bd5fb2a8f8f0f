/-!
# Text read from bytes

A `Glyph` is a character or a stray byte that begins no well-formed character. `Glyph.ofBytes` reads
bytes as UTF-8; the shortest form is the only accepted one, and surrogates are no characters.
`Glyph.text?` gives the string that the bytes write, if no byte is stray.
-/

namespace Deliberation.Text

/-- A character, or a byte that begins no character. -/
inductive Glyph where
  | character (value : Char)
  | stray (byte : UInt8)
  deriving DecidableEq, Inhabited

namespace Glyph

/-- The number of bytes that a glyph was read from. -/
def width : Glyph → Nat
  | .character value => value.utf8Size
  | .stray _ => 1

/-- The number of bytes that glyphs were read from. -/
def widthOf : List Glyph → Nat
  | [] => 0
  | glyph :: rest => glyph.width + widthOf rest

/-- The six low bits of a continuation byte. -/
def continuation? (byte : UInt8) : Option Nat :=
  if 0x80 ≤ byte ∧ byte < 0xC0 then some (byte.toNat - 0x80) else none

/-- The character with a code point of at least `least`, if it is one. -/
def scalar? (least code : Nat) : Option Char :=
  if h : code.isValidChar then
    if least ≤ code then some (Char.ofNatAux code h) else none
  else none

/-- The character that begins with `first` and the number of further bytes it takes. -/
def leading? (first : UInt8) (rest : List UInt8) : Option (Char × Nat) :=
  if first < 0x80 then (scalar? 0 first.toNat).map (·, 0)
  else if 0xC0 ≤ first ∧ first < 0xE0 then
    match rest with
    | second :: _ => do
      let b ← continuation? second
      let code := (first.toNat - 0xC0) * 64 + b
      (scalar? 0x80 code).map (·, 1)
    | [] => none
  else if 0xE0 ≤ first ∧ first < 0xF0 then
    match rest with
    | second :: third :: _ => do
      let b ← continuation? second
      let c ← continuation? third
      let code := ((first.toNat - 0xE0) * 64 + b) * 64 + c
      (scalar? 0x800 code).map (·, 2)
    | _ => none
  else if 0xF0 ≤ first ∧ first < 0xF8 then
    match rest with
    | second :: third :: fourth :: _ => do
      let b ← continuation? second
      let c ← continuation? third
      let d ← continuation? fourth
      let code := (((first.toNat - 0xF0) * 64 + b) * 64 + c) * 64 + d
      (scalar? 0x10000 code).map (·, 3)
    | _ => none
  else none

/-- Read bytes, passing over the first `skip` of them. -/
def ofBytesAfter : (skip : Nat) → List UInt8 → List Glyph
  | _, [] => []
  | skip + 1, _ :: rest => ofBytesAfter skip rest
  | 0, first :: rest =>
    match leading? first rest with
    | some (value, further) => .character value :: ofBytesAfter further rest
    | none => .stray first :: ofBytesAfter 0 rest

/-- Read bytes as UTF-8. -/
def ofBytes (bytes : List UInt8) : List Glyph := ofBytesAfter 0 bytes

/-- The glyphs of a string. -/
def ofText (text : String) : List Glyph := text.toList.map .character

/-- The characters of glyphs of which none is stray. -/
def characters? : List Glyph → Option (List Char)
  | [] => some []
  | .character value :: rest => (characters? rest).map (value :: ·)
  | .stray _ :: _ => none

/-- The string that glyphs write, if none is stray. -/
def text? (glyphs : List Glyph) : Option String := (characters? glyphs).map String.ofList

end Glyph

end Deliberation.Text
