import Deliberation.Time.Instant
import Deliberation.Text.Blank
import Deliberation.Text.Digit

/-!
# Instants in RFC 3339

`Instant.toText` writes an instant in coordinated universal time with the letter `Z` and as many
fraction digits as it needs: none, three, six or nine. Years outside 0 to 9999 carry a sign and at
least four digits.

`Instant.ofText?` reads more than is written: short numbers, blanks before each number, a letter `t`
or a blank between date and time, any number of fraction digits, and any offset below one day.
-/

namespace Deliberation.Instant

open Deliberation.Text

/-! ## Writing -/

/-- A number with zeros in front up to a width. -/
def padded (width number : Nat) : List Char :=
  let digits := Nat.toDigits 10 number
  List.replicate (width - digits.length) '0' ++ digits

/-- A year: four digits, or a sign and at least four digits outside 0 to 9999. -/
def yearText (year : Int) : List Char :=
  if 0 ≤ year ∧ year ≤ 9999 then padded 4 year.toNat
  else if year < 0 then '-' :: padded 4 year.natAbs
  else '+' :: padded 4 year.natAbs

/-- A fraction of a second: none, or a point and three, six or nine digits. -/
def fractionText (nanoseconds : Nat) : List Char :=
  if nanoseconds = 0 then []
  else if nanoseconds % 1000000 = 0 then '.' :: padded 3 (nanoseconds / 1000000)
  else if nanoseconds % 1000 = 0 then '.' :: padded 6 (nanoseconds / 1000)
  else '.' :: padded 9 nanoseconds

/-- The written form in characters. A leap second counts as second 60 of its minute. -/
def characters (instant : Instant) : List Char :=
  let date := Date.ofDays instant.day
  let clock := instant.secondOfDay
  let leap := secondNanoseconds ≤ instant.nanoseconds
  let second := clock % 60 + (if leap then 1 else 0)
  let fraction := if leap then instant.nanoseconds - secondNanoseconds else instant.nanoseconds
  yearText date.year ++ '-' :: padded 2 date.month ++ '-' :: padded 2 date.day ++
    'T' :: padded 2 (clock / 3600) ++ ':' :: padded 2 (clock / 60 % 60) ++
    ':' :: padded 2 second ++ fractionText fraction ++ ['Z']

/-- The written form. -/
def toText (instant : Instant) : String := String.ofList instant.characters

/-! ## Reading -/

/-- The leading decimal digits, at most `limit` of them, and the rest. -/
def digitsUpTo : (limit : Nat) → List Char → List Char × List Char
  | 0, text => ([], text)
  | _ + 1, [] => ([], [])
  | limit + 1, character :: rest =>
    if character.isDigit then
      let (digits, rest) := digitsUpTo limit rest
      (character :: digits, rest)
    else ([], character :: rest)

/-- A number of one to `limit` digits behind optional blanks. -/
def shortNumber? (limit : Nat) (text : List Char) : Option (Nat × List Char) :=
  match digitsUpTo limit (trimStart text) with
  | ([], _) => none
  | (digits, rest) => some (decimal digits, rest)

/-- A year: at most four digits, or a sign and any number of digits. -/
def year? (text : List Char) : Option (Int × List Char) :=
  match trimStart text with
  | '-' :: rest =>
    match rest.span Char.isDigit with
    | ([], _) => none
    | (digits, rest) => some (-(decimal digits : Int), rest)
  | '+' :: rest =>
    match rest.span Char.isDigit with
    | ([], _) => none
    | (digits, rest) => some ((decimal digits : Int), rest)
  | text => (shortNumber? 4 text).map fun (year, rest) => ((year : Int), rest)

/-- One expected character, behind optional blanks. -/
def mark? (expected : Char) (text : List Char) : Option (List Char) :=
  match trimStart text with
  | character :: rest => if character = expected then some rest else none
  | [] => none

/-- An optional fraction: a point and at least one digit, of which nine count. -/
def fraction? (text : List Char) : Option (Nat × List Char) :=
  match text with
  | '.' :: rest =>
    match rest.span Char.isDigit with
    | ([], _) => none
    | (digits, rest) =>
      let counted := digits.take 9
      some (decimal counted * Nat.pow 10 (9 - counted.length), rest)
  | _ => some (0, text)

/-- Whether a character separates the hours of an offset from its minutes. -/
def isOffsetSeparator (character : Char) : Bool := character == ':' || isBlank character

/-- The hours and minutes of an offset, in seconds. -/
def offsetSize? (text : List Char) : Option (Nat × List Char) :=
  match text with
  | h1 :: h2 :: rest =>
    if h1.isDigit && h2.isDigit then
      match rest.dropWhile isOffsetSeparator with
      | m1 :: m2 :: rest =>
        if m1.isDigit && m2.isDigit && m1 < '6' then
          some (decimal [h1, h2] * 3600 + decimal [m1, m2] * 60, rest)
        else none
      | _ => none
    else none
  | _ => none

/-- An offset from universal time in seconds: `Z`, `UTC` in either case, or a sign with hours and
minutes. Both the hyphen and the minus sign count as negative. -/
def offset? (text : List Char) : Option (Int × List Char) :=
  match text with
  | 'Z' :: rest | 'z' :: rest => some (0, rest)
  | '+' :: rest => (offsetSize? rest).map fun (size, rest) => ((size : Int), rest)
  | '-' :: rest | '−' :: rest => (offsetSize? rest).map fun (size, rest) => (-(size : Int), rest)
  | u :: t :: c :: rest =>
    if u.toLower = 'u' ∧ t.toLower = 't' ∧ c.toLower = 'c' then some (0, rest) else none
  | _ => none

/-- The instant of a local date and clock time at an offset, if the date exists and is in range. -/
def ofLocal? (date : Date) (hour minute second fraction : Nat) (offset : Int) : Option Instant :=
  let leap := second = 60
  let clock : Int := hour * 3600 + minute * 60 + (if leap then 59 else second)
  let seconds := date.toDays * daySeconds + clock - offset
  let instant : Instant :=
    { seconds, nanoseconds := if leap then secondNanoseconds + fraction else fraction }
  if date.IsValid ∧ hour < 24 ∧ minute < 60 ∧ second ≤ 60 ∧
      -daySeconds < offset ∧ offset < daySeconds ∧
      firstDay ≤ date.toDays ∧ date.toDays ≤ lastDay ∧
      firstDay ≤ instant.day ∧ instant.day ≤ lastDay then
    some instant
  else none

/-- Read the written form of an instant, with blanks allowed after it. -/
def ofCharacters? (text : List Char) : Option Instant := do
  let (year, text) ← year? text
  let text ← mark? '-' text
  let (month, text) ← shortNumber? 2 text
  let text ← mark? '-' text
  let (day, text) ← shortNumber? 2 text
  let text ←
    match text with
    | 't' :: rest | 'T' :: rest | ' ' :: rest => some rest
    | _ => none
  let (hour, text) ← shortNumber? 2 text
  let text ← mark? ':' text
  let (minute, text) ← shortNumber? 2 text
  let text ← mark? ':' text
  let (second, text) ← shortNumber? 2 text
  let (fraction, text) ← fraction? text
  let (offset, text) ← offset? (trimStart text)
  if (trimStart text).isEmpty then ofLocal? { year, month, day } hour minute second fraction offset
  else none

/-- Read the written form of an instant, with blanks allowed after it. -/
def ofText? (text : String) : Option Instant := ofCharacters? text.toList

end Deliberation.Instant
