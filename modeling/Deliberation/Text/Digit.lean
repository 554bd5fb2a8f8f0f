/-!
# Digits

Hexadecimal and decimal digits, written and read.
-/

namespace Deliberation.Text

/-- The lower-case digit of a number below sixteen. -/
def hexDigit (digit : Nat) : Char :=
  if digit < 10 then Char.ofNat (48 + digit) else Char.ofNat (87 + digit)

/-- The value of a hexadecimal digit of either case. -/
def hexValue? (character : Char) : Option Nat :=
  if '0' ≤ character ∧ character ≤ '9' then some (character.toNat - 48)
  else if 'a' ≤ character ∧ character ≤ 'f' then some (character.toNat - 87)
  else if 'A' ≤ character ∧ character ≤ 'F' then some (character.toNat - 55)
  else none

/-- The `count` lowest hexadecimal digits of a number, most significant first. -/
def hexDigits : (count number : Nat) → List Char
  | 0, _ => []
  | count + 1, number => hexDigits count (number / 16) ++ [hexDigit (number % 16)]

/-- The number that digits write in a base, if every character is a digit of that base. -/
def number? (base : Nat) (digits : List Char) : Option Nat :=
  digits.foldl
    (fun number? digit => do
      let number ← number?
      let value ← hexValue? digit
      if value < base then some (number * base + value) else none)
    (some 0)

/-- The number that decimal digits write; no digit writes zero. -/
def decimal (digits : List Char) : Nat :=
  digits.foldl (fun number digit => number * 10 + (digit.toNat - 48)) 0

/-- The number that decimal digits write after an optional plus sign, if there are digits. -/
def natural? (characters : List Char) : Option Nat :=
  let digits :=
    match characters with
    | '+' :: rest => rest
    | characters => characters
  if !digits.isEmpty && digits.all Char.isDigit then some (decimal digits) else none

/-- A number in lower-case hexadecimal without leading zeros. -/
def hexText (number : Nat) : String := String.ofList (Nat.toDigits 16 number)

end Deliberation.Text
