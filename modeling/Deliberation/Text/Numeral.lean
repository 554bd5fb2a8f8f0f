import Deliberation.Text.Digit

/-!
# Numerals

A decimal number as it is written: its digits, the place of the point and its exponent. Its value is
the `significand` times ten to the power of the `scale`.
-/

namespace Deliberation.Text

/-- The parts of a number. -/
structure Numeral where
  negative : Bool
  whole : List Char
  fraction : List Char
  exponent : Int
  /-- Whether neither a fraction nor an exponent is written. -/
  integral : Bool

namespace Numeral

/-- The digits of the number without the point. -/
def significand (numeral : Numeral) : Nat := decimal (numeral.whole ++ numeral.fraction)

/-- The power of ten that scales the significand. -/
def scale (numeral : Numeral) : Int := numeral.exponent - numeral.fraction.length

/-- The exponent behind its mark: digits with an optional sign. -/
def exponentOf? (text : List Char) : Option Int :=
  let signed (sign : Int) (digits : List Char) : Option Int :=
    if !digits.isEmpty && digits.all Char.isDigit then some (sign * decimal digits) else none
  match text with
  | '-' :: digits => signed (-1) digits
  | '+' :: digits => signed 1 digits
  | digits => signed 1 digits

/-- Read a number without its sign: digits with an optional point between, before or behind them,
and an optional exponent. -/
def ofUnsigned? (negative : Bool) (text : List Char) : Option Numeral :=
  let (whole, rest) := text.span Char.isDigit
  let (fraction, rest) :=
    match rest with
    | '.' :: rest => rest.span Char.isDigit
    | rest => ([], rest)
  if whole.isEmpty && fraction.isEmpty then none
  else
    match rest with
    | [] => some { negative, whole, fraction, exponent := 0, integral := false }
    | 'e' :: rest | 'E' :: rest =>
      (exponentOf? rest).map fun exponent =>
        { negative, whole, fraction, exponent, integral := false }
    | _ => none

end Numeral

end Deliberation.Text
