import Deliberation.Proofs.Wire.Bytes
import Deliberation.Proofs.Wire.Digits
import Deliberation.Settings

/-!
# Loading settings

`Settings.ofFile` has one outcome for each state of a file and a variable, and `Settings.Loads` lists
them in the order in which one takes precedence over the next: the file is no text, its text is no
settings, the variable is a text that means no size of a worker pool, or the settings are there.
`PoolSizeText` is the language of the texts that do mean a size. `Settings.ofFile_eq_iff` says that
loading follows these rules.
-/

namespace Deliberation

open Deliberation.Text

/-! ## Trimming -/

namespace Text

/-- What is between blanks is left, if it neither starts nor ends with one. -/
theorem trim_between {before middle after : List Char} (blankBefore : ∀ c ∈ before, isBlank c)
    (blankAfter : ∀ c ∈ after, isBlank c) (first : ∀ c, middle.head? = some c → ¬ isBlank c)
    (last : ∀ c, middle.getLast? = some c → ¬ isBlank c) (ne_nil : middle ≠ []) :
    trim (before ++ middle ++ after) = middle := by
  have start : ∀ {blanks rest : List Char}, (∀ c ∈ blanks, isBlank c) → rest ≠ [] →
      (∀ c, rest.head? = some c → ¬ isBlank c) → trimStart (blanks ++ rest) = rest := by
    intro blanks rest allBlank ne_nil head
    unfold trimStart
    rw [List.dropWhile_append_of_pos allBlank]
    cases rest with
    | nil => exact absurd rfl ne_nil
    | cons c rest => exact List.dropWhile_cons_of_neg (head c rfl)
  unfold trim
  rw [List.append_assoc, start blankBefore (by simp [ne_nil]), List.reverse_append,
    start (by simpa using blankAfter) (by simpa using ne_nil), List.reverse_reverse]
  · intro c head
    rw [List.head?_reverse] at head
    exact last c head
  · intro c head
    rw [List.head?_append_of_ne_nil _ ne_nil] at head
    exact first c head

/-- Only blanks are taken away. -/
theorem exists_eq_trim (characters : List Char) :
    ∃ before after, characters = before ++ trim characters ++ after ∧
      (∀ c ∈ before, isBlank c) ∧ ∀ c ∈ after, isBlank c := by
  have blank : ∀ rest : List Char, ∀ c ∈ rest.takeWhile isBlank, isBlank c = true :=
    fun rest => List.all_eq_true.mp List.all_takeWhile
  refine ⟨characters.takeWhile isBlank,
    ((trimStart characters).reverse.takeWhile isBlank).reverse, ?_, blank _, ?_⟩
  · have behind : trim characters ++ ((trimStart characters).reverse.takeWhile isBlank).reverse =
        trimStart characters := by
      unfold trim
      rw [← List.reverse_append]
      exact (congrArg List.reverse List.takeWhile_append_dropWhile).trans (List.reverse_reverse _)
    rw [List.append_assoc, behind]
    exact List.takeWhile_append_dropWhile.symm
  · intro c member
    exact blank _ c (List.mem_reverse.mp member)

/-! ## Numbers -/

/-- A number is read from digits behind an optional plus sign, and from nothing else. -/
theorem natural?_eq_some_iff {characters : List Char} {number : Nat} :
    natural? characters = some number ↔
      ∃ sign digits, characters = sign ++ digits ∧ (sign = [] ∨ sign = ['+']) ∧ digits ≠ [] ∧
        (∀ c ∈ digits, c.isDigit) ∧ Nat.ofDigitChars 10 digits 0 = number := by
  have unsigned : ∀ digits : List Char,
      (if !digits.isEmpty && digits.all Char.isDigit then some (decimal digits) else none) =
          some number ↔
        digits ≠ [] ∧ (∀ c ∈ digits, c.isDigit) ∧ Nat.ofDigitChars 10 digits 0 = number := by
    intro digits
    rw [← decimal_eq_ofDigitChars]
    simp [and_assoc]
  unfold natural?
  simp only
  split
  · rename_i rest
    rw [unsigned]
    constructor
    · exact fun parts => ⟨['+'], rest, rfl, .inr rfl, parts⟩
    · rintro ⟨sign, digits, equal, rfl | rfl, ne_nil, areDigits, value⟩
      · cases equal
        exact absurd (areDigits '+' List.mem_cons_self) (by decide)
      · cases equal
        exact ⟨ne_nil, areDigits, value⟩
  · rename_i plain
    rw [unsigned]
    constructor
    · exact fun parts => ⟨[], characters, rfl, .inl rfl, parts⟩
    · rintro ⟨sign, digits, rfl, rfl | rfl, parts⟩
      · exact parts
      · exact absurd rfl (plain digits)

end Text

/-! ## Sizes of worker pools -/

/-- A text means a size: between blanks stand an optional plus sign and decimal digits, and they
write a positive number of at most 64 bits. -/
inductive PoolSizeText : List Char → Nat → Prop where
  | written {before sign digits after : List Char} {size : Nat}
      (blankBefore : ∀ c ∈ before, isBlank c) (signed : sign = [] ∨ sign = ['+'])
      (ne_nil : digits ≠ []) (areDigits : ∀ c ∈ digits, c.isDigit)
      (value : Nat.ofDigitChars 10 digits 0 = size) (positive : 1 ≤ size)
      (small : size ≤ 2 ^ 64 - 1) (blankAfter : ∀ c ∈ after, isBlank c) :
      PoolSizeText (before ++ (sign ++ digits) ++ after) size

namespace Settings

/-- The sizes that are read are those of the texts that mean one. -/
theorem poolSizeOf?_eq_some_iff {text : String} {size : Nat} :
    poolSizeOf? text = some size ↔ PoolSizeText text.toList size := by
  have bound : largestLongWord = 2 ^ 64 - 1 := rfl
  unfold poolSizeOf?
  rw [Option.bind_eq_bind, Option.bind_eq_some_iff, bound]
  constructor
  · rintro ⟨number, read, fits⟩
    split at fits
    · rename_i range
      cases fits
      obtain ⟨before, after, split, blankBefore, blankAfter⟩ := exists_eq_trim text.toList
      obtain ⟨sign, digits, equal, signed, ne_nil, areDigits, value⟩ :=
        natural?_eq_some_iff.mp read
      rw [split, equal]
      exact .written blankBefore signed ne_nil areDigits value range.1 range.2 blankAfter
    · cases fits
  · intro means
    generalize text.toList = characters at means
    obtain ⟨blankBefore, signed, ne_nil, areDigits, value, positive, small, blankAfter⟩ := means
    rename_i before sign digits after
    refine ⟨size, ?_, if_pos ⟨positive, small⟩⟩
    have inner : ∀ c ∈ sign ++ digits, ¬ isBlank c := by
      intro c member
      rcases List.mem_append.mp member with inSign | inDigits
      · rcases signed with rfl | rfl
        · cases inSign
        · cases List.mem_singleton.mp inSign
          decide
      · simp [isBlank_of_isDigit (areDigits c inDigits)]
    rw [trim_between blankBefore blankAfter (fun c head => inner c (List.mem_of_head? head))
      (fun c last => inner c (List.mem_of_getLast? last))
      (List.append_ne_nil_of_right_ne_nil _ ne_nil)]
    exact natural?_eq_some_iff.mpr ⟨sign, digits, rfl, signed, ne_nil, areDigits, value⟩

example : poolSizeOf? " +007\u00A0" = some 7 := by decide +kernel

/-- A text that means no pool size is in no form of one. -/
theorem poolSizeOf?_eq_none_iff {text : String} :
    poolSizeOf? text = none ↔ ∀ size, ¬ PoolSizeText text.toList size := by
  rw [Option.eq_none_iff_forall_ne_some]
  exact forall_congr' fun size => not_congr poolSizeOf?_eq_some_iff

/-! ## Outcomes -/

/-- A file or a variable holds a text: its bytes are those of the text. -/
def Holds (bytes : Option (List UInt8)) (text : String) : Prop :=
  bytes = some text.toUTF8.data.toList

/-- Bytes are read as a text if they hold it. -/
theorem bind_text?_eq_some_iff {bytes : Option (List UInt8)} {text : String} :
    (bytes.map Glyph.ofBytes).bind Glyph.text? = some text ↔ Holds bytes text := by
  cases bytes with
  | none => simp [Holds]
  | some bytes => simp [Holds, Glyph.text?_ofBytes]

/-- Bytes that are read as no text hold none. -/
theorem bind_text?_eq_none_iff {bytes : Option (List UInt8)} :
    (bytes.map Glyph.ofBytes).bind Glyph.text? = none ↔ ∀ text, ¬ Holds bytes text := by
  rw [Option.eq_none_iff_forall_ne_some]
  exact forall_congr' fun text => not_congr bind_text?_eq_some_iff

/-- What comes of loading settings from a file, given a variable: each outcome under its conditions. -/
inductive Loads (file override : Option (List UInt8)) : Except SettingsError Settings → Prop where
  /-- There is no file, or it holds no text. -/
  | unreadable (unheld : ∀ text, ¬ Holds file text) : Loads file override (.error .unreadable)
  /-- The text of the file is no settings, whatever the variable says. -/
  | malformed {text : String} (holds : Holds file text) (faulty : ofYaml? text = none) :
      Loads file override (.error .malformed)
  /-- The variable holds a text that means no size. It is reported as it stands. -/
  | refused {text value : String} {settings : Settings} (holds : Holds file text)
      (read : ofYaml? text = some settings) (set : Holds override value)
      (meaningless : ∀ size, ¬ PoolSizeText value.toList size) :
      Loads file override (.error (.invalidVariable "CADENCE_POOL_SIZE" value))
  /-- The variable holds no text, and the settings are those of the file. -/
  | unchanged {text : String} {settings : Settings} (holds : Holds file text)
      (read : ofYaml? text = some settings) (unset : ∀ value, ¬ Holds override value) :
      Loads file override (.ok settings)
  /-- The variable replaces the size of the worker pool, and nothing else. -/
  | replaced {text value : String} {settings : Settings} {poolSize : Nat}
      (holds : Holds file text) (read : ofYaml? text = some settings)
      (set : Holds override value) (means : PoolSizeText value.toList poolSize) :
      Loads file override (.ok { settings with executor := { settings.executor with poolSize } })

/-- Loading settings has one of the outcomes that are listed. -/
theorem loads_ofFile (file override : Option (List UInt8)) :
    Loads file override (ofFile (file.map Glyph.ofBytes) (override.map Glyph.ofBytes)) := by
  unfold ofFile withVariable
  split
  · rename_i missing
    exact .unreadable (bind_text?_eq_none_iff.mp missing)
  · rename_i text held
    have holds := bind_text?_eq_some_iff.mp held
    split
    · rename_i faulty
      exact .malformed holds faulty
    · rename_i settings read
      split
      · rename_i unset
        exact .unchanged holds read (bind_text?_eq_none_iff.mp unset)
      · rename_i value held
        have set := bind_text?_eq_some_iff.mp held
        split
        · rename_i poolSize means
          exact .replaced holds read set (poolSizeOf?_eq_some_iff.mp means)
        · rename_i meaningless
          exact .refused holds read set (poolSizeOf?_eq_none_iff.mp meaningless)

/-- Loading settings has the outcome that is listed for the file and the variable, and no other. -/
theorem ofFile_eq_iff (file override : Option (List UInt8))
    (outcome : Except SettingsError Settings) :
    ofFile (file.map Glyph.ofBytes) (override.map Glyph.ofBytes) = outcome ↔
      Loads file override outcome := by
  constructor
  · rintro rfl
    exact loads_ofFile file override
  · intro loads
    unfold ofFile withVariable
    cases loads with
    | unreadable missing => rw [bind_text?_eq_none_iff.mpr missing]
    | malformed holds faulty => simp only [bind_text?_eq_some_iff.mpr holds, faulty]
    | refused holds read set meaningless =>
      simp only [bind_text?_eq_some_iff.mpr holds, read, bind_text?_eq_some_iff.mpr set,
        poolSizeOf?_eq_none_iff.mpr meaningless, poolSizeVariable]
    | unchanged holds read unset =>
      simp only [bind_text?_eq_some_iff.mpr holds, read, bind_text?_eq_none_iff.mpr unset]
    | replaced holds read set means =>
      simp only [bind_text?_eq_some_iff.mpr holds, read, bind_text?_eq_some_iff.mpr set,
        poolSizeOf?_eq_some_iff.mpr means]

end Settings

end Deliberation
