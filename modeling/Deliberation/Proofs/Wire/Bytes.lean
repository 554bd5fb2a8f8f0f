import Deliberation.Text.Glyph
import Mathlib.Data.List.Basic

/-!
# Texts as bytes

The bytes of a string in UTF-8 are read as its characters, and none of them is stray
(`Glyph.ofBytes_toUTF8`); bytes without a stray one are those of a string (`Glyph.text?_ofBytes`). A
character takes one to four bytes; for each length there is one lemma on what `Glyph.leading?` makes
of them, and one on the bytes that it reads as a character.
-/

namespace Deliberation.Text.Glyph

variable {character : Char} {code : Nat}

/-! ## Single bytes -/

/-- A code that is that of a character, and not too small for its length, is read as this character.
-/
theorem scalar?_eq_some {least : Nat} (same : code = character.toNat) (enough : least ≤ code) :
    scalar? least code = some character := by
  subst same
  have valid : character.toNat.isValidChar := character.valid
  unfold scalar?
  rw [dif_pos valid, if_pos enough]
  rfl

/-- A small number is the value of its byte. -/
theorem toNat_byte (small : code < 256) : (UInt8.ofNat code).toNat = code := by
  rw [UInt8.toNat_ofNat', Nat.mod_eq_of_lt small]

/-- Bytes compare as the numbers that they are made from. -/
theorem byte_lt (small : code < 256) (bound : UInt8) :
    UInt8.ofNat code < bound ↔ code < bound.toNat := by
  rw [UInt8.lt_iff_toNat_lt, toNat_byte small]

/-- A byte is at least a bound if the number that it is made from is. -/
theorem le_byte (small : code < 256) (bound : UInt8) :
    bound ≤ UInt8.ofNat code ↔ bound.toNat ≤ code := by
  rw [UInt8.le_iff_toNat_le, toNat_byte small]

/-- Six bits behind the mark of a continuation are read as these bits. -/
theorem continuation?_byte {bits : Nat} (small : bits < 64) :
    continuation? (UInt8.ofNat (bits + 128)) = some bits := by
  unfold continuation?
  simp (disch := omega) only [le_byte, byte_lt, toNat_byte, Nat.add_sub_cancel, UInt8.reduceToNat]
  exact if_pos ⟨Nat.le_add_left 128 bits, Nat.add_lt_add_right small 128⟩

/-! ## Whole characters -/

variable {a b c d : Nat} (rest : List UInt8)

/-- A byte below 128 is a character by itself. -/
theorem leading?_one (small : a < 128) (same : a = character.toNat) :
    leading? (UInt8.ofNat a) rest = some (character, 0) := by
  unfold leading?
  rw [if_pos ((byte_lt (by omega) 0x80).mpr small), toNat_byte (by omega),
    scalar?_eq_some same (Nat.zero_le a)]
  rfl

/-- Two bytes with eleven bits are read as the character of these bits. -/
theorem leading?_two (aSmall : a < 32) (bSmall : b < 64) (same : a * 64 + b = character.toNat)
    (enough : 0x80 ≤ a * 64 + b) :
    leading? (UInt8.ofNat (a + 192)) (UInt8.ofNat (b + 128) :: rest) = some (character, 1) := by
  unfold leading?
  simp (disch := omega) only [byte_lt, le_byte, toNat_byte, continuation?_byte bSmall,
    Option.bind_eq_bind, Option.bind_some, UInt8.reduceToNat, Nat.add_sub_cancel]
  rw [if_neg (by omega), if_pos (by omega), scalar?_eq_some same enough]
  rfl

/-- Three bytes with sixteen bits are read as the character of these bits. -/
theorem leading?_three (aSmall : a < 16) (bSmall : b < 64) (cSmall : c < 64)
    (same : (a * 64 + b) * 64 + c = character.toNat) (enough : 0x800 ≤ (a * 64 + b) * 64 + c) :
    leading? (UInt8.ofNat (a + 224)) (UInt8.ofNat (b + 128) :: UInt8.ofNat (c + 128) :: rest) =
      some (character, 2) := by
  unfold leading?
  simp (disch := omega) only [byte_lt, le_byte, toNat_byte, continuation?_byte bSmall,
    continuation?_byte cSmall, Option.bind_eq_bind, Option.bind_some, UInt8.reduceToNat,
    Nat.add_sub_cancel]
  rw [if_neg (by omega), if_neg (by omega), if_pos (by omega), scalar?_eq_some same enough]
  rfl

/-- Four bytes with twenty-one bits are read as the character of these bits. -/
theorem leading?_four (aSmall : a < 8) (bSmall : b < 64) (cSmall : c < 64) (dSmall : d < 64)
    (same : ((a * 64 + b) * 64 + c) * 64 + d = character.toNat)
    (enough : 0x10000 ≤ ((a * 64 + b) * 64 + c) * 64 + d) :
    leading? (UInt8.ofNat (a + 240))
        (UInt8.ofNat (b + 128) :: UInt8.ofNat (c + 128) :: UInt8.ofNat (d + 128) :: rest) =
      some (character, 3) := by
  unfold leading?
  simp (disch := omega) only [byte_lt, le_byte, toNat_byte, continuation?_byte bSmall,
    continuation?_byte cSmall, continuation?_byte dSmall, Option.bind_eq_bind, Option.bind_some,
    UInt8.reduceToNat, Nat.add_sub_cancel]
  rw [if_neg (by omega), if_neg (by omega), if_neg (by omega), if_pos (by omega),
    scalar?_eq_some same enough]
  rfl

/-- The bytes of a character are read as the character. -/
theorem leading?_utf8EncodeChar (character : Char) (rest : List UInt8) :
    ∃ first more, String.utf8EncodeChar character = first :: more ∧
      leading? first (more ++ rest) = some (character, more.length) := by
  have valid : character.val.toNat < 0x110000 := by
    have scalar := character.valid
    simp only [UInt32.isValidChar, Nat.isValidChar] at scalar
    omega
  have same : character.val.toNat = character.toNat := rfl
  have small : ∀ number, number % 64 < 64 := fun number => Nat.mod_lt _ (by decide)
  unfold String.utf8EncodeChar
  generalize character.val.toNat = code at valid same ⊢
  simp only
  split
  · exact ⟨_, _, rfl, leading?_one _ (by omega) same⟩
  · split
    · exact ⟨_, _, rfl, leading?_two _ (by omega) (small _) (by omega) (by omega)⟩
    · split
      · exact ⟨_, _, rfl,
          leading?_three _ (by omega) (small _) (small _) (by omega) (by omega)⟩
      · exact ⟨_, _, rfl,
          leading?_four _ (by omega) (small _) (small _) (small _) (by omega) (by omega)⟩

/-! ## Texts -/

/-- Reading goes on behind the bytes that belong to a character. -/
theorem ofBytesAfter_append (bytes rest : List UInt8) :
    ofBytesAfter bytes.length (bytes ++ rest) = ofBytes rest := by
  induction bytes with
  | nil => rfl
  | cons first more ih => exact ih

/-- The bytes of characters are read as these characters. -/
theorem ofBytes_flatMap (characters : List Char) :
    ofBytes (characters.flatMap String.utf8EncodeChar) = characters.map .character := by
  induction characters with
  | nil => rfl
  | cons first more ih =>
    obtain ⟨byte, further, encoded, leads⟩ :=
      leading?_utf8EncodeChar first (more.flatMap String.utf8EncodeChar)
    rw [List.flatMap_cons, encoded, List.cons_append, ofBytes, ofBytesAfter, leads]
    simp only [ofBytesAfter_append, ih, List.map_cons]

/-- The bytes of a text are those of its characters. -/
theorem toUTF8_toList (text : String) :
    text.toUTF8.data.toList = text.toList.flatMap String.utf8EncodeChar := by
  have bytes : text.toUTF8 = text.toList.utf8Encode := by
    rw [← String.toByteArray_ofList, String.ofList_toList]
    rfl
  rw [bytes]
  exact List.toList_data_toByteArray

/-- The bytes of a string are read as its characters. -/
theorem ofBytes_toUTF8 (text : String) : ofBytes text.toUTF8.data.toList = ofText text := by
  rw [toUTF8_toList]
  exact ofBytes_flatMap text.toList

/-- A text is read from its own characters. -/
theorem text?_ofText (text : String) : text? (ofText text) = some text := by
  have read : ∀ characters : List Char,
      characters? (characters.map .character) = some characters := by
    intro characters
    induction characters with
    | nil => rfl
    | cons first more ih => rw [List.map_cons, characters?, ih, Option.map_some]
  rw [text?, ofText, read, Option.map_some, String.ofList_toList]

/-! ## Well-formed bytes -/

/-- A character made from a valid code has this code. -/
theorem toNat_ofNatAux (valid : code.isValidChar) :
    (Char.ofNatAux code valid).val.toNat = code := by
  unfold Char.ofNatAux UInt32.toNat
  exact BitVec.toNat_ofNatLT _ _

/-- A code that is read as a character is its code, and not too small for its length. -/
theorem of_scalar? {least : Nat} (found : scalar? least code = some character) :
    character.val.toNat = code ∧ least ≤ code := by
  unfold scalar? at found
  by_cases valid : code.isValidChar
  · rw [dif_pos valid] at found
    by_cases enough : least ≤ code
    · rw [if_pos enough] at found
      cases found
      exact ⟨toNat_ofNatAux valid, enough⟩
    · rw [if_neg enough] at found
      cases found
  · rw [dif_neg valid] at found
    cases found

/-- A byte that is read as a continuation consists of its bits and the mark. -/
theorem of_continuation? {byte : UInt8} {bits : Nat} (found : continuation? byte = some bits) :
    bits < 64 ∧ bits + 128 = byte.toNat := by
  unfold continuation? at found
  split at found
  · rename_i range
    simp only [UInt8.le_iff_toNat_le, UInt8.lt_iff_toNat_lt, UInt8.reduceToNat] at range
    have equal : byte.toNat - 128 = bits := Option.some.inj found
    omega
  · cases found

/-- A byte is made from its value. -/
theorem byte_eq {byte : UInt8} (same : code = byte.toNat) : UInt8.ofNat code = byte :=
  same ▸ UInt8.ofNat_toNat

section

variable {first second third fourth : UInt8} {a b c d : Nat}

/-- A character that is read from one byte is written as this byte. -/
theorem utf8EncodeChar_one (range : first.toNat < 128)
    (found : scalar? 0 first.toNat = some character) :
    String.utf8EncodeChar character = [first] := by
  obtain ⟨same, _⟩ := of_scalar? found
  simp only [String.utf8EncodeChar, same]
  rw [if_pos (by omega), byte_eq rfl]

/-- A character that is read from two bytes is written as these bytes. -/
theorem utf8EncodeChar_two (lead : a + 192 = first.toNat) (small : a < 32)
    (isB : continuation? second = some b) (found : scalar? 0x80 (a * 64 + b) = some character) :
    String.utf8EncodeChar character = [first, second] := by
  obtain ⟨same, enough⟩ := of_scalar? found
  obtain ⟨bSmall, isSecond⟩ := of_continuation? isB
  simp only [String.utf8EncodeChar, same]
  rw [if_neg (by omega), if_pos (by omega)]
  congr
  · exact byte_eq (by omega)
  · exact byte_eq (by omega)

/-- A character that is read from three bytes is written as these bytes. -/
theorem utf8EncodeChar_three (lead : a + 224 = first.toNat) (small : a < 16)
    (isB : continuation? second = some b) (isC : continuation? third = some c)
    (found : scalar? 0x800 ((a * 64 + b) * 64 + c) = some character) :
    String.utf8EncodeChar character = [first, second, third] := by
  obtain ⟨same, enough⟩ := of_scalar? found
  obtain ⟨bSmall, isSecond⟩ := of_continuation? isB
  obtain ⟨cSmall, isThird⟩ := of_continuation? isC
  simp only [String.utf8EncodeChar, same]
  rw [if_neg (by omega), if_neg (by omega), if_pos (by omega)]
  congr
  · exact byte_eq (by omega)
  · exact byte_eq (by omega)
  · exact byte_eq (by omega)

/-- A character that is read from four bytes is written as these bytes. -/
theorem utf8EncodeChar_four (lead : a + 240 = first.toNat) (small : a < 8)
    (isB : continuation? second = some b) (isC : continuation? third = some c)
    (isD : continuation? fourth = some d)
    (found : scalar? 0x10000 (((a * 64 + b) * 64 + c) * 64 + d) = some character) :
    String.utf8EncodeChar character = [first, second, third, fourth] := by
  obtain ⟨same, enough⟩ := of_scalar? found
  obtain ⟨bSmall, isSecond⟩ := of_continuation? isB
  obtain ⟨cSmall, isThird⟩ := of_continuation? isC
  obtain ⟨dSmall, isFourth⟩ := of_continuation? isD
  simp only [String.utf8EncodeChar, same]
  rw [if_neg (by omega), if_neg (by omega), if_neg (by omega)]
  congr
  · exact byte_eq (by omega)
  · exact byte_eq (by omega)
  · exact byte_eq (by omega)
  · exact byte_eq (by omega)

end

/-- What is read as a character are the bytes of the character. -/
theorem utf8EncodeChar_of_leading? {first : UInt8} {rest : List UInt8} {further : Nat}
    (leads : leading? first rest = some (character, further)) :
    ∃ more tail, rest = more ++ tail ∧ more.length = further ∧
      String.utf8EncodeChar character = first :: more := by
  unfold leading? at leads
  simp only [UInt8.le_iff_toNat_le, UInt8.lt_iff_toNat_lt, UInt8.reduceToNat,
    Option.bind_eq_bind] at leads
  split at leads
  · rename_i range
    obtain ⟨value, found, equal⟩ := Option.map_eq_some_iff.mp leads
    cases equal
    exact ⟨[], rest, rfl, rfl, utf8EncodeChar_one range found⟩
  · split at leads
    · rename_i range
      split at leads
      · obtain ⟨b, isB, leads⟩ := Option.bind_eq_some_iff.mp leads
        obtain ⟨value, found, equal⟩ := Option.map_eq_some_iff.mp leads
        cases equal
        exact ⟨[_], _, rfl, rfl, utf8EncodeChar_two (by omega) (by omega) isB found⟩
      · cases leads
    · split at leads
      · rename_i range
        split at leads
        · obtain ⟨b, isB, leads⟩ := Option.bind_eq_some_iff.mp leads
          obtain ⟨c, isC, leads⟩ := Option.bind_eq_some_iff.mp leads
          obtain ⟨value, found, equal⟩ := Option.map_eq_some_iff.mp leads
          cases equal
          exact ⟨[_, _], _, rfl, rfl,
            utf8EncodeChar_three (by omega) (by omega) isB isC found⟩
        · cases leads
      · split at leads
        · rename_i range
          split at leads
          · obtain ⟨b, isB, leads⟩ := Option.bind_eq_some_iff.mp leads
            obtain ⟨c, isC, leads⟩ := Option.bind_eq_some_iff.mp leads
            obtain ⟨d, isD, leads⟩ := Option.bind_eq_some_iff.mp leads
            obtain ⟨value, found, equal⟩ := Option.map_eq_some_iff.mp leads
            cases equal
            exact ⟨[_, _, _], _, rfl, rfl,
              utf8EncodeChar_four (by omega) (by omega) isB isC isD found⟩
          · cases leads
        · cases leads

/-- Bytes that are read as characters without a fault are the bytes of these characters. -/
theorem flatMap_of_characters? {bytes : List UInt8} {characters : List Char}
    (found : characters? (ofBytes bytes) = some characters) :
    bytes = characters.flatMap String.utf8EncodeChar := by
  induction characters generalizing bytes with
  | nil =>
    cases bytes with
    | nil => rfl
    | cons first rest =>
      simp only [ofBytes, ofBytesAfter] at found
      split at found
      · obtain ⟨_, _, equal⟩ := Option.map_eq_some_iff.mp found
        cases equal
      · cases found
  | cons character more ih =>
    cases bytes with
    | nil => cases found
    | cons first rest =>
      simp only [ofBytes, ofBytesAfter] at found
      split at found
      · rename_i value further leads
        obtain ⟨others, foundMore, equal⟩ := Option.map_eq_some_iff.mp found
        obtain ⟨own, tail, split, length, encoded⟩ := utf8EncodeChar_of_leading? leads
        cases equal
        subst split
        rw [← length, ofBytesAfter_append] at foundMore
        rw [List.flatMap_cons, encoded, ← ih foundMore, List.cons_append]
      · cases found

/-- Bytes write a text if and only if they are its bytes in UTF-8. -/
theorem text?_ofBytes {bytes : List UInt8} {text : String} :
    text? (ofBytes bytes) = some text ↔ bytes = text.toUTF8.data.toList := by
  constructor
  · intro read
    obtain ⟨characters, found, rfl⟩ := Option.map_eq_some_iff.mp read
    rw [toUTF8_toList, String.toList_ofList]
    exact flatMap_of_characters? found
  · rintro rfl
    rw [ofBytes_toUTF8, text?_ofText]

end Deliberation.Text.Glyph
