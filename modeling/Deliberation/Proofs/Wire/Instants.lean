import Deliberation.Proofs.Wire.Calendar
import Deliberation.Proofs.Wire.Digits

/-!
# Instants that are written and read

An instant that is supported and settled is read as it was written. There is one lemma for each part
of the written form. A part is read up to the next one: numbers of a fixed width end by their width,
years and fractions where no digit follows. Nothing else is read (`Instant.ofText?_isSettled`).

A leap second within a minute is written like the second after it, and is read as that
(`Instant.ofText?_toText`).
-/

namespace Deliberation

open Deliberation.Text

/-! ## Blanks and digits -/

/-- Trimming stops at a visible character. -/
theorem Text.trimStart_cons {character : Char} (rest : List Char)
    (visible : isBlank character = false) :
    trimStart (character :: rest) = character :: rest := by
  simp [trimStart, visible]

/-- Trimming stops at digits. -/
theorem Text.trimStart_digits {digits : List Char}
    (areDigits : ∀ character ∈ digits, character.isDigit = true) (some : digits ≠ [])
    (rest : List Char) : trimStart (digits ++ rest) = digits ++ rest := by
  cases digits with
  | nil => exact absurd rfl some
  | cons first more =>
    exact trimStart_cons _ (isBlank_of_isDigit (areDigits first List.mem_cons_self))

/-- A text that starts with digits does not start with something else. -/
theorem Text.digits_ne_cons {digits rest more : List Char} {other : Char}
    (areDigits : ∀ character ∈ digits, character.isDigit = true) (some : digits ≠ [])
    (noDigit : other.isDigit = false) : digits ++ rest ≠ other :: more := by
  cases digits with
  | nil => exact absurd rfl some
  | cons first others =>
    intro equal
    have digit := areDigits first List.mem_cons_self
    rw [(List.cons.inj equal).1, noDigit] at digit
    cases digit

/-- No digit stands in front of a text. -/
def Text.EndsDigits (text : List Char) : Prop := text.head?.all (fun first => !first.isDigit) = true

/-- Digits that end are split off as a whole. -/
theorem Text.span_digits {digits rest : List Char}
    (areDigits : ∀ character ∈ digits, character.isDigit = true) (ends : EndsDigits rest) :
    (digits ++ rest).span Char.isDigit = (digits, rest) := by
  rw [List.span_eq_takeWhile_dropWhile, List.takeWhile_append_of_pos areDigits,
    List.dropWhile_append_of_pos areDigits]
  cases rest with
  | nil => simp
  | cons first more =>
    have other : first.isDigit = false := by simpa [EndsDigits] using ends
    simp [other]

namespace Instant

/-! ## Numbers -/

/-- As many digits as there are can be read off. -/
theorem digitsUpTo_append {digits : List Char}
    (areDigits : ∀ character ∈ digits, character.isDigit = true) (rest : List Char) :
    digitsUpTo digits.length (digits ++ rest) = (digits, rest) := by
  induction digits with
  | nil => rfl
  | cons first more ih =>
    have digit := areDigits first List.mem_cons_self
    have others := ih fun character member => areDigits character (List.mem_cons_of_mem _ member)
    simp [digitsUpTo, digit, others]

/-- A number of a fixed width ends by its width. -/
theorem shortNumber?_padded {width number : Nat} (positive : 0 < width)
    (small : number < 10 ^ width) (rest : List Char) :
    shortNumber? width (padded width number ++ rest) = some (number, rest) := by
  have digits := isDigit_padded width number
  have read := digitsUpTo_append digits rest
  rw [length_padded positive small] at read
  unfold shortNumber?
  rw [trimStart_digits digits (padded_ne_nil _ _), read]
  split
  · rename_i empty
    exact absurd (congrArg Prod.fst empty) (padded_ne_nil _ _)
  · rename_i split
    cases split
    rw [decimal_padded]

/-- A mark that is expected is read off. -/
theorem mark?_cons {expected : Char} (rest : List Char) (visible : isBlank expected = false) :
    mark? expected (expected :: rest) = some rest := by
  unfold mark?
  rw [trimStart_cons _ visible]
  exact if_pos rfl

/-! ## Years and fractions -/

/-- A year with a sign is read with as many digits as it has. -/
theorem year?_signed {sign : Char} (signed : sign = '-' ∨ sign = '+') (number : Nat)
    {rest : List Char} (ends : EndsDigits rest) :
    year? (sign :: (padded 4 number ++ rest)) =
      some (if sign = '-' then -(number : Int) else number, rest) := by
  have read := span_digits (isDigit_padded 4 number) ends
  unfold year?
  rcases signed with rfl | rfl
  all_goals
    rw [trimStart_cons _ (by decide)]
    simp only [read]
    split
    · rename_i empty
      exact absurd (congrArg Prod.fst empty) (padded_ne_nil _ _)
    · rename_i split
      cases split
      rw [decimal_padded]
      rfl

/-- A year is read up to where no digit follows. -/
theorem year?_yearText (year : Int) {rest : List Char} (ends : EndsDigits rest) :
    year? (yearText year ++ rest) = some (year, rest) := by
  unfold yearText
  split
  · rename_i plain
    have small : year.toNat < 10 ^ 4 := by omega
    have number : (year.toNat : Int) = year := by omega
    have read := shortNumber?_padded (by decide) small rest
    have digits := isDigit_padded 4 year.toNat
    have trimmed := trimStart_digits digits (padded_ne_nil _ _) rest
    unfold year?
    rw [trimmed]
    split
    · rename_i more equal
      exact absurd equal (digits_ne_cons digits (padded_ne_nil _ _) rfl)
    · rename_i more equal
      exact absurd equal (digits_ne_cons digits (padded_ne_nil _ _) rfl)
    · rw [read, Option.map_some]
      exact congrArg (fun year => some (year, rest)) number
  · split
    · rename_i negative
      rw [List.cons_append, year?_signed (.inl rfl) _ ends, if_pos rfl]
      have number : -(year.natAbs : Int) = year := by omega
      rw [number]
    · rename_i later
      rw [List.cons_append, year?_signed (.inr rfl) _ ends, if_neg (by decide)]
      have number : (year.natAbs : Int) = year := by omega
      rw [number]

/-- A fraction is read in nanoseconds, whatever its width is. -/
theorem fraction?_padded {width number : Nat} (positive : 0 < width) (within : width ≤ 9)
    (small : number < 10 ^ width) {rest : List Char} (ends : EndsDigits rest) :
    fraction? ('.' :: (padded width number ++ rest)) =
      some (number * 10 ^ (9 - width), rest) := by
  have read := span_digits (isDigit_padded width number) ends
  have length := length_padded positive small
  unfold fraction?
  simp only [read]
  split
  · rename_i empty
    exact absurd (congrArg Prod.fst empty) (padded_ne_nil _ _)
  · rename_i split
    cases split
    rw [List.take_of_length_le (by omega), decimal_padded, length]
    rfl

/-- A fraction is read up to where no digit follows. -/
theorem fraction?_fractionText {nanoseconds : Nat} (small : nanoseconds < secondNanoseconds)
    (rest : List Char) :
    fraction? (fractionText nanoseconds ++ 'Z' :: rest) = some (nanoseconds, 'Z' :: rest) := by
  have ends : EndsDigits ('Z' :: rest) := rfl
  unfold secondNanoseconds at small
  unfold fractionText
  split
  · rename_i none
    rw [none]
    rfl
  · split
    · rw [List.cons_append, fraction?_padded (by decide) (by decide) (by omega) ends]
      congr 2
      omega
    · split
      · rw [List.cons_append, fraction?_padded (by decide) (by decide) (by omega) ends]
        congr 2
        omega
      · rw [List.cons_append, fraction?_padded (by decide) (by decide) (by omega) ends]
        congr 2
        omega

/-! ## The whole form -/

/-- The parts of the written form of an instant are read as date, clock time and fraction. -/
theorem ofCharacters?_parts (year : Int) {month day hour minute second fraction : Nat}
    (monthSmall : month < 100) (daySmall : day < 100) (hourSmall : hour < 100)
    (minuteSmall : minute < 100) (secondSmall : second < 100)
    (fractionSmall : fraction < secondNanoseconds) :
    ofCharacters?
        (yearText year ++ '-' :: padded 2 month ++ '-' :: padded 2 day ++
          'T' :: padded 2 hour ++ ':' :: padded 2 minute ++
          ':' :: padded 2 second ++ fractionText fraction ++ ['Z']) =
      ofLocal? { year, month, day } hour minute second fraction 0 := by
  have short : ∀ {number : Nat} (rest : List Char), number < 100 →
      shortNumber? 2 (padded 2 number ++ rest) = some (number, rest) :=
    fun rest small => shortNumber?_padded (by decide) small rest
  have ends : ∀ rest, EndsDigits ('-' :: rest) := fun _ => rfl
  have zone : trimStart ['Z'] = ['Z'] := by decide
  simp only [List.append_assoc, List.cons_append]
  unfold ofCharacters?
  rw [year?_yearText year (ends _)]
  simp only [Option.bind_eq_bind, Option.bind_some, mark?_cons _ (by decide : isBlank '-' = false),
    mark?_cons _ (by decide : isBlank ':' = false), short _ monthSmall, short _ daySmall,
    short _ hourSmall, short _ minuteSmall, short _ secondSmall,
    fraction?_fractionText fractionSmall, zone]
  rfl

/-- A day and a second of it make up the seconds of an instant. -/
theorem seconds_eq (instant : Instant) :
    instant.seconds = instant.day * daySeconds + instant.secondOfDay ∧
      instant.secondOfDay < 86400 := by
  have days : instant.day = instant.seconds / 86400 :=
    Int.fdiv_eq_ediv_of_nonneg _ (by decide)
  unfold secondOfDay daySeconds
  omega

/-- An instant that is supported and settled is made of its date, its clock time and its fraction. In
a leap second the clock shows second 60. -/
theorem ofLocal?_ofDays {instant : Instant} (valid : instant.IsValid) (settled : instant.IsSettled) :
    ofLocal? (Date.ofDays instant.day) (instant.secondOfDay / 3600) (instant.secondOfDay / 60 % 60)
        (instant.secondOfDay % 60 + if secondNanoseconds ≤ instant.nanoseconds then 1 else 0)
        (if secondNanoseconds ≤ instant.nanoseconds then instant.nanoseconds - secondNanoseconds
          else instant.nanoseconds) 0 =
      some instant := by
  obtain ⟨notBefore, notAfter, -⟩ := valid
  obtain ⟨seconds, clock⟩ := instant.seconds_eq
  have date := Date.ofDays_isValid instant.day
  have made : ∀ second fraction : Nat, second ≤ 60 →
      (if second = 60 then 59 else second) = instant.secondOfDay % 60 →
      (if second = 60 then secondNanoseconds + fraction else fraction) = instant.nanoseconds →
        ofLocal? (Date.ofDays instant.day) (instant.secondOfDay / 3600)
          (instant.secondOfDay / 60 % 60) second fraction 0 = some instant := by
    intro second fraction shown clockSecond nanoseconds
    have total : instant.day * daySeconds + (((instant.secondOfDay / 3600 : Nat) : Int) * 3600 +
        ((instant.secondOfDay / 60 % 60 : Nat) : Int) * 60 +
          ((instant.secondOfDay % 60 : Nat) : Int)) - 0 = instant.seconds := by
      omega
    unfold ofLocal?
    simp only [Date.toDays_ofDays, clockSecond, nanoseconds, total]
    refine if_pos ?_
    unfold daySeconds
    exact ⟨date, by omega, by omega, shown, by omega, by omega, notBefore, notAfter, notBefore,
      notAfter⟩
  by_cases isLeap : secondNanoseconds ≤ instant.nanoseconds
  · have last : instant.secondOfDay % 60 = 59 := settled isLeap
    refine made _ _ ?_ ?_ ?_ <;> simp [isLeap, last]
  · have small : instant.secondOfDay % 60 < 60 := Nat.mod_lt _ (by decide)
    refine made _ _ ?_ ?_ ?_ <;> simp only [isLeap, if_false, Nat.add_zero]
    · omega
    · exact if_neg (by omega)
    · exact if_neg (by omega)

/-- An instant that is supported and settled is read as it was written. -/
theorem ofText?_toText_of_isSettled {instant : Instant} (valid : instant.IsValid)
    (settled : instant.IsSettled) : ofText? instant.toText = some instant := by
  obtain ⟨monthPositive, monthSmall, dayPositive, daySmall⟩ := Date.ofDays_isValid instant.day
  obtain ⟨-, clock⟩ := instant.seconds_eq
  have days := Date.daysInMonth_le (Date.ofDays instant.day).year (Date.ofDays instant.day).month
  have fraction : (if secondNanoseconds ≤ instant.nanoseconds then
      instant.nanoseconds - secondNanoseconds else instant.nanoseconds) < secondNanoseconds := by
    obtain ⟨-, -, leap⟩ := valid
    unfold secondNanoseconds at *
    split <;> omega
  have second : instant.secondOfDay % 60 +
      (if secondNanoseconds ≤ instant.nanoseconds then 1 else 0) < 100 := by
    split <;> omega
  unfold ofText? toText
  rw [String.toList_ofList]
  unfold characters
  simp only
  rw [ofCharacters?_parts _ (by omega) (by omega) (by omega) (by omega) second fraction]
  exact ofLocal?_ofDays valid settled

/-! ## Leap seconds within a minute -/

/-- The instant that the written form shows: a leap second that does not end a minute shows as the
second after it. -/
def settled (instant : Instant) : Instant :=
  if secondNanoseconds ≤ instant.nanoseconds ∧ instant.secondOfDay % 60 ≠ 59 then
    { seconds := instant.seconds + 1, nanoseconds := instant.nanoseconds - secondNanoseconds }
  else instant

variable {instant : Instant}

/-- An instant that needs no settling stays as it is. -/
theorem settled_of_isSettled (settled : instant.IsSettled) : instant.settled = instant :=
  if_neg fun within => within.2 (settled within.1)

/-- The second after one that does not end a minute belongs to the same day. -/
theorem day_succ (within : instant.secondOfDay % 60 ≠ 59) (nanoseconds : Nat) :
    day { seconds := instant.seconds + 1, nanoseconds } = instant.day := by
  have days : instant.day = instant.seconds / 86400 :=
    Int.fdiv_eq_ediv_of_nonneg _ (by decide)
  have later : day { seconds := instant.seconds + 1, nanoseconds } =
      (instant.seconds + 1) / 86400 := Int.fdiv_eq_ediv_of_nonneg _ (by decide)
  unfold secondOfDay daySeconds at within
  omega

/-- Within a minute the second of the day goes up by one. -/
theorem secondOfDay_succ (within : instant.secondOfDay % 60 ≠ 59) (nanoseconds : Nat) :
    secondOfDay { seconds := instant.seconds + 1, nanoseconds } = instant.secondOfDay + 1 := by
  have seconds := instant.seconds_eq.1
  have later : secondOfDay { seconds := instant.seconds + 1, nanoseconds } =
      (instant.seconds + 1 - day { seconds := instant.seconds + 1, nanoseconds } *
        daySeconds).toNat := rfl
  rw [later, day_succ within]
  omega

/-- A settled instant needs no settling. -/
theorem settled_isSettled (valid : instant.IsValid) : instant.settled.IsSettled := by
  obtain ⟨-, -, small⟩ := valid
  unfold settled
  split
  · intro leap
    simp only at leap
    omega
  · rename_i ends
    intro leap
    by_contra within
    exact ends ⟨leap, within⟩

/-- A settled instant is valid. -/
theorem settled_isValid (valid : instant.IsValid) : instant.settled.IsValid := by
  unfold settled
  split
  · rename_i leap
    obtain ⟨notBefore, notAfter, small⟩ := valid
    refine ⟨?_, ?_, Nat.lt_of_le_of_lt (Nat.sub_le _ _) small⟩ <;> rw [day_succ leap.2]
    · exact notBefore
    · exact notAfter
  · exact valid

/-- Settling an instant does not change its written form. -/
theorem toText_settled (valid : instant.IsValid) : instant.settled.toText = instant.toText := by
  unfold settled
  split
  · rename_i leap
    obtain ⟨isLeap, within⟩ := leap
    obtain ⟨-, -, small⟩ := valid
    have minute : (instant.secondOfDay + 1) / 60 = instant.secondOfDay / 60 := by omega
    have hour : (instant.secondOfDay + 1) / 3600 = instant.secondOfDay / 3600 := by omega
    have second : (instant.secondOfDay + 1) % 60 = instant.secondOfDay % 60 + 1 := by omega
    have noLeap : ¬ secondNanoseconds ≤ instant.nanoseconds - secondNanoseconds := by omega
    simp only [toText, characters, day_succ within, secondOfDay_succ within, minute, hour, second,
      if_pos isLeap, if_neg noLeap, Nat.add_zero]
  · rfl

/-- An instant that is supported is read as what its written form shows. -/
theorem ofText?_toText (valid : instant.IsValid) :
    ofText? instant.toText = some instant.settled := by
  rw [← toText_settled valid]
  exact ofText?_toText_of_isSettled (settled_isValid valid) (settled_isSettled valid)

/-! ## What is read is settled -/

/-- At most nine digits of a fraction count. -/
theorem fraction?_lt {text rest : List Char} {fraction : Nat}
    (read : fraction? text = some (fraction, rest)) : fraction < secondNanoseconds := by
  unfold fraction? at read
  split at read
  · rename_i digits
    rw [List.span_eq_takeWhile_dropWhile] at read
    split at read
    · cases read
    · rename_i spanned
      cases read
      have digits := congrArg Prod.fst spanned
      simp only at digits
      subst digits
      have areDigits : ∀ character ∈ (List.takeWhile Char.isDigit digits).take 9,
          character.isDigit = true := fun character member =>
        List.all_eq_true.mp List.all_takeWhile character (List.mem_of_mem_take member)
      have short := List.length_take_le 9 (List.takeWhile Char.isDigit digits)
      have small := decimal_lt areDigits
      generalize (List.takeWhile Char.isDigit digits).take 9 = counted at short small ⊢
      calc decimal counted * Nat.pow 10 (9 - counted.length)
          < 10 ^ counted.length * 10 ^ (9 - counted.length) :=
            Nat.mul_lt_mul_of_pos_right small (Nat.pow_pos (by decide))
        _ = secondNanoseconds := by
            rw [← Nat.pow_add, Nat.add_sub_cancel' short]
            rfl
  · cases read
    decide

/-- An offset that is read consists of whole minutes. -/
theorem offsetSize?_dvd {text rest : List Char} {size : Nat}
    (read : offsetSize? text = some (size, rest)) : 60 ∣ size := by
  unfold offsetSize? at read
  split at read
  · split at read
    · split at read
      · split at read
        · cases read
          omega
        · cases read
      · cases read
    · cases read
  · cases read

/-- Offsets are made of minutes. -/
theorem offset?_dvd {text rest : List Char} {offset : Int}
    (read : offset? text = some (offset, rest)) : 60 ∣ offset := by
  unfold offset? at read
  split at read
  · cases read
    exact Int.dvd_zero _
  · cases read
    exact Int.dvd_zero _
  · obtain ⟨⟨size, after⟩, sized, equal⟩ := Option.map_eq_some_iff.mp read
    cases equal
    exact Int.natCast_dvd_natCast.mpr (offsetSize?_dvd sized)
  · obtain ⟨⟨size, after⟩, sized, equal⟩ := Option.map_eq_some_iff.mp read
    cases equal
    exact Int.dvd_neg.mpr (Int.natCast_dvd_natCast.mpr (offsetSize?_dvd sized))
  · obtain ⟨⟨size, after⟩, sized, equal⟩ := Option.map_eq_some_iff.mp read
    cases equal
    exact Int.dvd_neg.mpr (Int.natCast_dvd_natCast.mpr (offsetSize?_dvd sized))
  · obtain ⟨-, equal⟩ := Option.ite_none_right_eq_some.mp read
    cases equal
    exact Int.dvd_zero _
  · cases read

/-- A leap second is the last second of its minute, at any offset. -/
theorem ofLocal?_isSettled {date : Date} {hour minute second fraction : Nat} {offset : Int}
    (small : fraction < secondNanoseconds) (minutes : 60 ∣ offset)
    (read : ofLocal? date hour minute second fraction offset = some instant) :
    instant.IsValid ∧ instant.IsSettled := by
  obtain ⟨supported, made⟩ := Option.ite_none_right_eq_some.mp read
  obtain ⟨_, _, _, _, _, _, _, _, notBefore, notAfter⟩ := supported
  rw [Option.some.injEq] at made
  rw [made] at notBefore notAfter
  by_cases leap : second = 60
  · obtain ⟨shift, rfl⟩ := minutes
    obtain ⟨seconds, clock⟩ := instant.seconds_eq
    unfold IsValid IsSettled secondNanoseconds daySeconds at *
    subst made
    simp only [leap, if_true] at seconds notBefore notAfter ⊢
    exact ⟨⟨notBefore, notAfter, by omega⟩, fun _ => by omega⟩
  · simp only [leap, if_false] at made
    have ordinary : instant.nanoseconds < secondNanoseconds := made ▸ small
    exact ⟨⟨notBefore, notAfter, by omega⟩, fun isLeap => absurd ordinary (Nat.not_lt_of_le isLeap)⟩

/-- What holds of everything that is read in two steps. -/
theorem of_bind {α β : Type} {first : Option α} {next : α → Option β} {holds : β → Prop}
    (afterwards : ∀ value, first = some value → ∀ result, next value = some result → holds result) :
    ∀ result, first >>= next = some result → holds result := by
  intro result read
  obtain ⟨value, before, after⟩ := Option.bind_eq_some_iff.mp read
  exact afterwards value before result after

/-- What is read is supported and settled. -/
theorem ofCharacters?_isSettled (text : List Char) :
    ∀ instant, ofCharacters? text = some instant → instant.IsValid ∧ instant.IsSettled := by
  unfold ofCharacters?
  refine of_bind fun (year, _) _ => of_bind fun _ _ => of_bind fun (month, _) _ => of_bind fun _ _ =>
    of_bind fun (day, _) _ => ?_
  dsimp only
  split
  case h_4 => exact of_bind nofun
  all_goals
    refine of_bind fun _ _ => of_bind fun (hour, _) _ => of_bind fun _ _ =>
      of_bind fun (minute, _) _ => of_bind fun _ _ => of_bind fun (second, _) _ =>
      of_bind fun (fraction, _) fractionRead => of_bind fun (offset, _) offsetRead => ?_
    intro instant read
    dsimp only at read
    split at read
    · exact ofLocal?_isSettled (fraction?_lt fractionRead) (offset?_dvd offsetRead) read
    · cases read

/-- What is read of a text is supported and settled. -/
theorem ofText?_isSettled {text : String} (read : ofText? text = some instant) :
    instant.IsValid ∧ instant.IsSettled :=
  ofCharacters?_isSettled text.toList instant read

end Instant

end Deliberation
