import Deliberation.Magnitude
import Deliberation.Text.Glyph
import Deliberation.Word

/-!
# JSON literals

Strings and numbers, read in two ways. A value that is wanted is read strictly: a string has to
write characters, a number has to fit a floating-point number. A value that is passed over only has
to follow the grammar. The strict reading gives the content; the rest of the text is that of the
lenient one, and the two agree on it where both succeed.
-/

namespace Deliberation.Json

open Deliberation.Text

/-- Why a text cannot be read as what is wanted. -/
inductive Fault where
  /-- It does not follow the grammar. -/
  | malformed
  /-- It ends too early. -/
  | incomplete
  /-- It writes something else. -/
  | mismatched
  deriving DecidableEq, Inhabited

/-! ## Strings -/

/-- The value of a glyph that is a hexadecimal digit. -/
def hexGlyph? : Glyph → Option Nat
  | .character value => hexValue? value
  | .stray _ => none

/-- The number that four hexadecimal digits write. -/
def codeUnit? (a b c d : Glyph) : Option Nat := do
  some ((((← hexGlyph? a) * 16 + (← hexGlyph? b)) * 16 + (← hexGlyph? c)) * 16 + (← hexGlyph? d))

/-- The fault of a text that does not go on with four hexadecimal digits: it ends too early if fewer
than four bytes are left. -/
def codeUnitFault (rest : List Glyph) : Fault :=
  if Glyph.widthOf rest < 4 then .incomplete else .malformed

/-- The character behind a backslash, for the two-letter escapes. -/
def escape? : Char → Option Char
  | '"' => some '"'
  | '\\' => some '\\'
  | '/' => some '/'
  | 'b' => some '\x08'
  | 'f' => some '\x0c'
  | 'n' => some '\n'
  | 'r' => some '\r'
  | 't' => some '\t'
  | _ => none

/-- Whether a glyph must not stand in a string as it is. -/
def isControl : Glyph → Bool
  | .character value => value.toNat < 0x20
  | .stray _ => false

/-- What follows a string, the opening quote of which has been read. -/
def afterString : List Glyph → Except Fault (List Glyph)
  | [] => .error .incomplete
  | .character '"' :: rest => .ok rest
  | .character '\\' :: [] => .error .incomplete
  | .character '\\' :: .character 'u' :: a :: b :: c :: d :: rest =>
    if (codeUnit? a b c d).isSome then afterString rest else .error .malformed
  | .character '\\' :: .character 'u' :: rest => .error (codeUnitFault rest)
  | .character '\\' :: .character letter :: rest =>
    if (escape? letter).isSome then afterString rest else .error .malformed
  | .character '\\' :: .stray _ :: _ => .error .malformed
  | glyph :: rest => if isControl glyph then .error .malformed else afterString rest

/-- Whether a code unit is the first of a surrogate pair. -/
def isLeadingSurrogate (unit : Nat) : Bool := 0xD800 ≤ unit && unit < 0xDC00

/-- Whether a code unit is the second of a surrogate pair. -/
def isTrailingSurrogate (unit : Nat) : Bool := 0xDC00 ≤ unit && unit < 0xE000

/-- The character of a surrogate pair. -/
def pairCharacter (leading trailing : Nat) : Char :=
  Char.ofNat ((leading - 0xD800) * 0x400 + (trailing - 0xDC00) + 0x10000)

/-- The fault of a text that does not go on with another escaped code unit. -/
def pairFault : List Glyph → Fault
  | [] => .incomplete
  | .character '\\' :: [] => .incomplete
  | .character '\\' :: .character 'u' :: rest => codeUnitFault rest
  | _ => .malformed

/-- The characters of a string, the opening quote of which has been read. The string is none if a
stray byte stands in it, which shows only at its end. -/
def stringContent : List Glyph → Except Fault (Option (List Char))
  | [] => .error .incomplete
  | .character '"' :: _ => .ok (some [])
  | .character '\\' :: [] => .error .incomplete
  | .character '\\' :: .character 'u' :: a :: b :: c :: d :: rest =>
    match codeUnit? a b c d with
    | none => .error .malformed
    | some unit =>
      if isTrailingSurrogate unit then .error .malformed
      else if isLeadingSurrogate unit then
        match rest with
        | .character '\\' :: .character 'u' :: e :: f :: g :: h :: rest =>
          match codeUnit? e f g h with
          | none => .error .malformed
          | some second =>
            if isTrailingSurrogate second then
              (stringContent rest).map (·.map (pairCharacter unit second :: ·))
            else .error .malformed
        | rest => .error (pairFault rest)
      else (stringContent rest).map (·.map (Char.ofNat unit :: ·))
  | .character '\\' :: .character 'u' :: rest => .error (codeUnitFault rest)
  | .character '\\' :: .character letter :: rest =>
    match escape? letter with
    | some value => (stringContent rest).map (·.map (value :: ·))
    | none => .error .malformed
  | .character '\\' :: .stray _ :: _ => .error .malformed
  | .character value :: rest =>
    if value.toNat < 0x20 then .error .malformed
    else (stringContent rest).map (·.map (value :: ·))
  | .stray _ :: rest => (stringContent rest).map fun _ => none

/-- The text of a string, the opening quote of which has been read. -/
def stringText (glyphs : List Glyph) : Except Fault String :=
  match stringContent glyphs with
  | .ok (some characters) => .ok (String.ofList characters)
  | .ok none => .error .malformed
  | .error fault => .error fault

/-! ## Numbers -/

/-- Whether a glyph is a decimal digit. -/
def isDigit : Glyph → Bool
  | .character value => value.isDigit
  | .stray _ => false

/-- The leading decimal digits and what follows them. -/
def digits : List Glyph → List Char × List Glyph
  | .character value :: rest =>
    if value.isDigit then
      let (more, rest) := digits rest
      (value :: more, rest)
    else ([], .character value :: rest)
  | rest => ([], rest)

/-- The fault of missing digits: where the text ends, a wanted number is incomplete and one that is
passed over malformed. -/
def missingDigits (wanted : Bool) (rest : List Glyph) : Fault :=
  if wanted && rest.isEmpty then .incomplete else .malformed

/-- The digits before the point: a zero, or digits that do not begin with a zero. -/
def wholePart (wanted : Bool) (glyphs : List Glyph) : Except Fault (List Char × List Glyph) :=
  match digits glyphs with
  | ([], rest) => .error (missingDigits wanted rest)
  | ('0' :: _ :: _, _) => .error .malformed
  | found => .ok found

/-- The digits behind a point. -/
def fractionPart (wanted : Bool) : List Glyph → Except Fault (Option (List Char) × List Glyph)
  | .character '.' :: rest =>
    match digits rest with
    | ([], rest) => .error (missingDigits wanted rest)
    | (found, rest) => .ok (some found, rest)
  | rest => .ok (none, rest)

/-- The digits of an exponent and its sign. -/
def exponentDigits (wanted negative : Bool) (glyphs : List Glyph) :
    Except Fault (Option Int × List Glyph) :=
  match digits glyphs with
  | ([], rest) => .error (missingDigits wanted rest)
  | (found, rest) =>
    .ok (some (if negative then -(decimal found : Int) else decimal found), rest)

/-- An exponent. -/
def exponentPart (wanted : Bool) : List Glyph → Except Fault (Option Int × List Glyph)
  | .character 'e' :: .character '-' :: rest | .character 'E' :: .character '-' :: rest =>
    exponentDigits wanted true rest
  | .character 'e' :: .character '+' :: rest | .character 'E' :: .character '+' :: rest =>
    exponentDigits wanted false rest
  | .character 'e' :: rest | .character 'E' :: rest => exponentDigits wanted false rest
  | rest => .ok (none, rest)

/-- Read a number. -/
def numeral (wanted : Bool) (glyphs : List Glyph) : Except Fault (Numeral × List Glyph) := do
  let (negative, rest) :=
    match glyphs with
    | .character '-' :: rest => (true, rest)
    | rest => (false, rest)
  let (whole, rest) ← wholePart wanted rest
  let (fraction, rest) ← fractionPart wanted rest
  let (exponent, rest) ← exponentPart wanted rest
  .ok ({ negative, whole, fraction := fraction.getD [], exponent := exponent.getD 0,
         integral := fraction.isNone && exponent.isNone }, rest)

/-- Read digits behind a significand for as long as it stays a long word, and leave the others. -/
def extend (significand : Nat) : List Char → Nat × List Char
  | [] => (significand, [])
  | digit :: rest =>
    let extended := significand * 10 + (digit.toNat - 48)
    if extended ≤ largestLongWord then extend extended rest else (significand, digit :: rest)

/-- Whether a number is too large. It is taken as the significand that a long word can keep, times a
power of ten; both factors and their product are rounded, and the product has to be finite. -/
def isOutOfRange (numeral : Numeral) : Bool :=
  let (whole, left) := extend 0 numeral.whole
  let (significand, ignored) := extend whole numeral.fraction
  let scale := numeral.scale + left.length + ignored.length
  if significand = 0 ∨ scale < 0 then false
  else if 308 < scale then true
  else
    let power := Magnitude.ofNat (Nat.pow 10 scale.toNat)
    !((Magnitude.ofNat significand).times power).isFinite

/-- The natural number that is written, if it is written as one and is small enough. -/
def naturalOf? (numeral : Numeral) : Option Nat :=
  if numeral.integral && !numeral.negative && numeral.significand ≤ largestLongWord then
    some numeral.significand
  else none

end Deliberation.Json
