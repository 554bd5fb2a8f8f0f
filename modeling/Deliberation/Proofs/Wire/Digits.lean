import Deliberation.Identifier
import Deliberation.Time.Rfc3339
import Mathlib.Data.Nat.Digits.Lemmas

/-!
# Numbers in digits

What is written in digits is read as the number that was written: decimal numbers with zeros in front
(`Instant.decimal_padded`), hexadecimal ones of a fixed width (`Text.number?_hexDigits`), and
identifiers in their hyphenated form (`Identifier.ofText?_toText`).
-/

namespace Deliberation

open Deliberation.Text

/-! ## Decimal digits -/

/-- A digit is visible. -/
theorem Text.isBlank_of_isDigit {character : Char} (digit : character.isDigit = true) :
    isBlank character = false := by
  have low : 48 ≤ character.toNat := by simpa using (Char.isDigit_iff_toNat.mp digit).1
  have high : character.toNat ≤ 57 := by simpa using (Char.isDigit_iff_toNat.mp digit).2
  unfold isBlank
  simp
  omega

/-- The value of digits is the library's. -/
theorem Text.decimal_eq_ofDigitChars (digits : List Char) :
    decimal digits = Nat.ofDigitChars 10 digits 0 := by
  rw [Nat.ofDigitChars_eq_foldl]
  simp only [Nat.mul_comm 10]
  rfl

/-- A number is read from its decimal digits. -/
theorem Text.decimal_toDigits (number : Nat) : decimal (Nat.toDigits 10 number) = number := by
  rw [decimal_eq_ofDigitChars, Nat.ofDigitChars_ten_toDigits]

/-- Zeros in front do not count. -/
theorem Text.decimal_zeros (count : Nat) (digits : List Char) :
    decimal (List.replicate count '0' ++ digits) = decimal digits := by
  induction count with
  | zero => rfl
  | succ count ih => exact ih

/-- Digits write a number below the power of ten that their count tells. -/
theorem Text.decimal_lt {digits : List Char}
    (areDigits : ∀ character ∈ digits, character.isDigit = true) :
    decimal digits < 10 ^ digits.length := by
  induction digits using List.reverseRecOn with
  | nil => decide
  | append_singleton digits last ih =>
    have before := ih fun character member => areDigits character (List.mem_append_left _ member)
    have digit := areDigits last List.mem_concat_self
    have high : last.toNat ≤ 57 := by simpa using (Char.isDigit_iff_toNat.mp digit).2
    have read : decimal (digits ++ [last]) = decimal digits * 10 + (last.toNat - 48) := by
      unfold decimal
      rw [List.foldl_append]
      rfl
    rw [read, List.length_append, List.length_singleton, Nat.pow_succ]
    omega

namespace Instant

/-- The value of a padded number is the number. -/
theorem decimal_padded (width number : Nat) : decimal (padded width number) = number := by
  unfold padded
  rw [decimal_zeros, decimal_toDigits]

/-- A padded number consists of digits. -/
theorem isDigit_padded (width number : Nat) :
    ∀ character ∈ padded width number, character.isDigit = true := by
  intro character member
  rcases List.mem_append.mp member with zero | digit
  · rw [(List.mem_replicate.mp zero).2]
    rfl
  · exact Nat.isDigit_of_mem_toDigits (by decide) (by decide) digit

/-- A number that fits is padded to the width. -/
theorem length_padded {width number : Nat} (positive : 0 < width) (small : number < 10 ^ width) :
    (padded width number).length = width := by
  have digits := (Nat.length_toDigits_le_iff (by decide) positive).mpr small
  unfold padded
  rw [List.length_append, List.length_replicate]
  exact Nat.sub_add_cancel digits

/-- A padded number has a digit. -/
theorem padded_ne_nil (width number : Nat) : padded width number ≠ [] := by
  unfold padded
  exact List.append_ne_nil_of_right_ne_nil _ Nat.toDigits_ne_nil

end Instant

/-! ## Hexadecimal digits -/

namespace Text

/-- A hexadecimal digit has the value that it was made from. -/
theorem hexValue?_hexDigit : ∀ digit < 16, hexValue? (hexDigit digit) = some digit := by decide

/-- There are as many hexadecimal digits as wanted. -/
@[simp] theorem length_hexDigits (count number : Nat) : (hexDigits count number).length = count := by
  induction count generalizing number with
  | zero => rfl
  | succ count ih => simp [hexDigits, ih]

/-- One more digit at the end of a number multiplies by the base and adds. -/
theorem number?_concat (base : Nat) (digits : List Char) (digit : Char) :
    number? base (digits ++ [digit]) =
      (number? base digits).bind fun number =>
        (hexValue? digit).bind fun value =>
          if value < base then some (number * base + value) else none := by
  unfold number?
  rw [List.foldl_append]
  rfl

/-- The lowest hexadecimal digits of a number write its remainder. -/
theorem number?_hexDigits (count number : Nat) :
    number? 16 (hexDigits count number) = some (number % 16 ^ count) := by
  induction count generalizing number with
  | zero => simp [hexDigits, number?, Nat.mod_one]
  | succ count ih =>
    have last : number % 16 < 16 := Nat.mod_lt _ (by decide)
    rw [hexDigits, number?_concat, ih, hexValue?_hexDigit _ last]
    simp only [Option.bind_some, last, if_true]
    rw [Nat.pow_succ', Nat.mod_mul, Nat.mul_comm, Nat.add_comm]

end Text

/-! ## Identifiers -/

namespace Identifier

/-- An identifier is read from its digits. -/
theorem ofDigits?_hexDigits (identifier : Identifier) :
    ofDigits? (hexDigits 32 identifier.value.toNat) = some identifier := by
  have small : identifier.value.toNat < 16 ^ 32 := identifier.value.isLt
  unfold ofDigits?
  rw [if_pos (length_hexDigits _ _), number?_hexDigits, Nat.mod_eq_of_lt small]
  simp [ofNat]

/-- Groups of 8, 4, 4, 4 and 12 digits with hyphens between them. -/
theorem ofHyphenated?_groups {first second third fourth fifth : List Char}
    (firstLength : first.length = 8) (secondLength : second.length = 4)
    (thirdLength : third.length = 4) (fourthLength : fourth.length = 4)
    (fifthLength : fifth.length = 12) :
    ofHyphenated?
        (first ++ '-' :: second ++ '-' :: third ++ '-' :: fourth ++ '-' :: fifth) =
      ofDigits? (first ++ second ++ third ++ fourth ++ fifth) := by
  unfold ofHyphenated?
  simp (disch := omega) [List.take_append, List.drop_append, List.drop_of_length_le,
    List.take_of_length_le, firstLength, secondLength, thirdLength, fourthLength, fifthLength]

/-- An identifier is written with 36 characters. -/
theorem length_characters (identifier : Identifier) : identifier.characters.length = 36 := by
  simp [characters]

/-- An identifier is read as it was written. -/
theorem ofText?_toText (identifier : Identifier) : ofText? identifier.toText = some identifier := by
  unfold ofText? toText ofCharacters?
  rw [String.toList_ofList, length_characters]
  simp only [Nat.reduceEqDiff, if_false, if_true]
  unfold characters
  simp only
  rw [ofHyphenated?_groups (by simp) (by simp) (by simp) (by simp) (by simp)]
  rw [← List.take_add, ← List.take_add, ← List.take_add, List.take_append_drop]
  exact ofDigits?_hexDigits identifier

end Identifier

end Deliberation
