import Deliberation.Json.Tree
import Deliberation.Json.Writer
import Deliberation.Proofs.Wire.Digits

/-!
# JSON texts and their trees

`Spells text tree` says that the reader, set on the text, comes out behind it with the tree. What the
writer makes is spelled so: strings (`Spells.quote`), arrays (`Spells.array`) and objects
(`Spells.object`) of parts that are. The fuel that suffices is the length of the text, so a document
that holds nothing else is read as its tree (`Spells.document`).
-/

namespace Deliberation.Json

open Deliberation.Text

/-! ## Strings -/

/-- The escape of a control character is read as its code. -/
theorem codeUnit?_low {code : Nat} (small : code < 0x20) :
    codeUnit? (.character '0') (.character '0') (.character (hexDigit (code / 16)))
      (.character (hexDigit (code % 16))) = some code := by
  have high := hexValue?_hexDigit (code / 16) (by omega)
  have low := hexValue?_hexDigit (code % 16) (by omega)
  have zero : hexValue? '0' = some 0 := by decide
  simp only [codeUnit?, hexGlyph?, zero, high, low, Option.bind_eq_bind, Option.bind_some,
    Option.some.injEq]
  omega

variable {character : Char}

/-- A character that needs no escape is passed over. -/
theorem afterString_plain (noQuote : character ≠ '"') (noBackslash : character ≠ '\\')
    (printable : ¬character.toNat < 0x20) (rest : List Glyph) :
    afterString (.character character :: rest) = afterString rest := by
  rw [afterString.eq_def]
  split
  case h_8 glyph more _ _ _ _ equal =>
    cases equal
    exact if_neg (by simp [isControl, printable])
  all_goals simp_all

/-- A character that needs no escape stands for itself. -/
theorem stringContent_plain (noQuote : character ≠ '"') (noBackslash : character ≠ '\\')
    (printable : ¬character.toNat < 0x20) (rest : List Glyph) :
    stringContent (.character character :: rest) =
      (stringContent rest).map (·.map (character :: ·)) := by
  rw [stringContent.eq_def]
  split
  case h_8 value more _ _ _ _ equal =>
    cases equal
    exact if_neg printable
  all_goals simp_all

/-- A control character is written with its code. -/
theorem stringContent_control (control : character.toNat < 0x20) (rest : List Glyph) :
    stringContent (.character '\\' :: .character 'u' :: .character '0' :: .character '0' ::
        .character (hexDigit (character.toNat / 16)) ::
        .character (hexDigit (character.toNat % 16)) :: rest) =
      (stringContent rest).map (·.map (character :: ·)) := by
  have trailing : isTrailingSurrogate character.toNat = false := by
    simp [isTrailingSurrogate]
    omega
  have leading : isLeadingSurrogate character.toNat = false := by
    simp [isLeadingSurrogate]
    omega
  rw [stringContent, codeUnit?_low control]
  simp only [trailing, leading, Char.ofNat_toNat]
  rfl

/-- A character that is written in a string is passed over. -/
theorem afterString_escaped (character : Char) (rest : List Glyph) :
    afterString ((escaped character).map .character ++ rest) = afterString rest := by
  unfold escaped
  split
  case h_8 noQuote noBackslash _ _ _ _ _ =>
    split
    · rename_i control
      simp [afterString, codeUnit?_low control]
    · rename_i printable
      exact afterString_plain noQuote noBackslash printable rest
  all_goals simp [afterString, escape?]

/-- A character that is written in a string is read. -/
theorem stringContent_escaped (character : Char) (rest : List Glyph) :
    stringContent ((escaped character).map .character ++ rest) =
      (stringContent rest).map (·.map (character :: ·)) := by
  unfold escaped
  split
  case h_8 noQuote noBackslash _ _ _ _ _ =>
    split
    · rename_i control
      exact stringContent_control control rest
    · rename_i printable
      exact stringContent_plain noQuote noBackslash printable rest
  all_goals simp [stringContent, escape?]

/-- The characters of a string are passed over up to its closing quote. -/
theorem afterString_characters (text : List Char) (rest : List Glyph) :
    afterString ((text.flatMap escaped).map .character ++ .character '"' :: rest) = .ok rest := by
  induction text with
  | nil => simp [afterString]
  | cons first more ih =>
    rw [List.flatMap_cons, List.map_append, List.append_assoc, afterString_escaped, ih]

/-- The characters of a string are read up to its closing quote. -/
theorem stringContent_characters (text : List Char) (rest : List Glyph) :
    stringContent ((text.flatMap escaped).map .character ++ .character '"' :: rest) =
      .ok (some text) := by
  induction text with
  | nil => simp [stringContent]
  | cons first more ih =>
    rw [List.flatMap_cons, List.map_append, List.append_assoc, stringContent_escaped, ih]
    rfl

/-- The node of a string without faults. -/
def StringNode.of (text : String) : StringNode := { text := .ok text, skipped := none }

/-- A quoted text is the escaped text between quotation marks. -/
theorem ofText_quote (text : String) :
    Glyph.ofText (quote text) =
      .character '"' ::
        ((text.toList.flatMap escaped).map Glyph.character ++ [.character '"']) := by
  simp [Glyph.ofText, quote, quoteCharacters]

/-- A quoted string is read behind its opening quote. -/
theorem stringNode_characters (text : String) (rest : List Glyph) :
    stringNode ((text.toList.flatMap escaped).map .character ++ .character '"' :: rest) =
      (.of text, some rest) := by
  unfold stringNode stringText
  rw [afterString_characters, stringContent_characters]
  simp [StringNode.of]

/-! ## Values -/

/-- Skipping stops at a visible character. -/
theorem skipSpace_cons {glyph : Glyph} (rest : List Glyph) (visible : isSpace glyph = false) :
    skipSpace (glyph :: rest) = glyph :: rest := by
  simp [skipSpace, visible]

/-- A text is read as a tree, whatever follows it. It does not look like the end of an array. -/
structure Spells (text : String) (tree : Tree) : Prop where
  opens : ∃ first more, Glyph.ofText text = first :: more ∧ isSpace first = false ∧
    first ≠ .character ']'
  reads : ∀ fuel rest, (Glyph.ofText text).length ≤ fuel →
    value fuel (Glyph.ofText text ++ rest) = (tree, some rest)

/-- A string is read as it was quoted. -/
theorem Spells.quote (text : String) : Spells (quote text) (.string (.of text)) where
  opens := ⟨_, _, ofText_quote text, rfl, by decide⟩
  reads fuel rest enough := by
    rw [ofText_quote] at enough ⊢
    cases fuel with
    | zero => simp at enough
    | succ fuel =>
      rw [List.cons_append, List.append_assoc, value, skipSpace_cons _ rfl]
      simp only [List.cons_append, List.nil_append, stringNode_characters]

/-! ## Arrays and objects -/

/-- The glyphs of texts in a row are those of the first and of the second one. -/
theorem ofText_append (first second : String) :
    Glyph.ofText (first ++ second) = Glyph.ofText first ++ Glyph.ofText second := by
  simp [Glyph.ofText]

/-- Glyphs with commas between them. -/
def joined (texts : List (List Glyph)) : List Glyph := List.intercalate [.character ','] texts

/-- The first two of the joined texts are separated by a comma. -/
theorem joined_cons_cons (first second : List Glyph) (rest : List (List Glyph)) :
    joined (first :: second :: rest) = first ++ .character ',' :: joined (second :: rest) := by
  simp [joined, List.intercalate_cons_cons]

/-- Texts with commas between them are joined glyph by glyph. -/
theorem ofText_intercalate (texts : List String) :
    Glyph.ofText (String.intercalate "," texts) = joined (texts.map Glyph.ofText) := by
  unfold Glyph.ofText
  rw [String.toList_intercalate]
  induction texts with
  | nil => rfl
  | cons first rest ih =>
    cases rest with
    | nil => simp [joined]
    | cons second rest =>
      simp only [List.map_cons] at ih ⊢
      rw [List.intercalate_cons_cons, joined_cons_cons, List.map_append, ih]
      simp

/-- Items are read up to the end of their array. -/
theorem valuesFrom_joined {items : List (String × Tree)}
    (spelled : ∀ item ∈ items, Spells item.1 item.2) (some : items ≠ []) (fuel : Nat)
    (rest : List Glyph) (enough : (joined (items.map (Glyph.ofText ·.1))).length < fuel) :
    valuesFrom fuel (joined (items.map (Glyph.ofText ·.1)) ++ .character ']' :: rest) =
      (items.map (·.2), none, .some rest) := by
  induction items generalizing fuel with
  | nil => exact absurd rfl some
  | cons item more ih =>
    have reads := (spelled item List.mem_cons_self).reads
    cases fuel with
    | zero => cases enough
    | succ fuel =>
      cases more with
      | nil =>
        simp only [List.map_cons, List.map_nil, joined, List.intercalate_singleton] at enough ⊢
        rw [valuesFrom, reads fuel _ (Nat.le_of_lt_succ enough)]
        simp (disch := decide) only [skipSpace_cons]
      | cons next others =>
        have later := ih (fun item member => spelled item (List.mem_cons_of_mem _ member))
          (List.cons_ne_nil _ _)
        simp only [List.map_cons, joined_cons_cons, List.length_append, List.length_cons] at enough
        simp only [List.map_cons, joined_cons_cons, List.append_assoc, List.cons_append] at later ⊢
        rw [valuesFrom, reads fuel _ (by omega)]
        simp (disch := decide) only [skipSpace_cons]
        rw [later fuel (by omega)]

/-- The first item of an array does not look like its end. -/
theorem joined_opens {items : List (String × Tree)}
    (spelled : ∀ item ∈ items, Spells item.1 item.2) (some : items ≠ []) :
    ∃ first more, joined (items.map (Glyph.ofText ·.1)) = first :: more ∧ isSpace first = false ∧
      first ≠ .character ']' := by
  cases items with
  | nil => exact absurd rfl some
  | cons item more =>
    obtain ⟨first, others, text, visible, open_⟩ := (spelled item List.mem_cons_self).opens
    cases more with
    | nil => exact ⟨first, others, by simp [joined, text], visible, open_⟩
    | cons next later =>
      refine ⟨first, others ++ .character ',' :: joined ((next :: later).map (Glyph.ofText ·.1)),
        ?_, visible, open_⟩
      rw [List.map_cons, List.map_cons, joined_cons_cons, text]
      rfl

/-- An array is read as its items. -/
theorem Spells.array {items : List (String × Tree)}
    (spelled : ∀ item ∈ items, Spells item.1 item.2) :
    Spells (array (items.map (·.1))) (.array (items.map (·.2)) none) := by
  have text : Glyph.ofText (Json.array (items.map (·.1))) =
      .character '[' :: (joined (items.map (Glyph.ofText ·.1)) ++ [.character ']']) := by
    unfold Json.array
    rw [ofText_append, ofText_append, ofText_intercalate, List.map_map]
    rfl
  refine { opens := ⟨_, _, text, rfl, by decide⟩, reads := fun fuel rest enough => ?_ }
  rw [text] at enough ⊢
  simp only [List.length_cons, List.length_append, List.length_nil] at enough
  cases fuel with
  | zero => cases enough
  | succ fuel =>
    rw [List.cons_append, List.append_assoc, List.singleton_append, value,
      skipSpace_cons _ (by decide)]
    by_cases empty : items = []
    · subst empty
      simp (disch := decide) only [List.map_nil, joined, List.intercalate_nil, List.nil_append,
        skipSpace_cons]
    · have read := valuesFrom_joined spelled empty fuel rest (by omega)
      obtain ⟨first, more, opens, visible, open_⟩ := joined_opens spelled empty
      rw [opens] at read ⊢
      simp only [List.cons_append, skipSpace_cons _ visible] at read ⊢
      split
      · rename_i closed
        exact absurd (List.cons.inj closed).1 open_
      · rename_i closed
        cases closed
      · rw [read]

/-- A member of an object: its name, its text and its tree. -/
abbrev Member := String × String × Tree

/-- The glyphs of a member. -/
def Member.glyphs (member : Member) : List Glyph :=
  Glyph.ofText (quote member.1 ++ ":" ++ member.2.1)

/-- A member is written as its quoted name, a colon and its value. -/
theorem Member.glyphs_eq (member : Member) :
    member.glyphs = .character '"' ::
      ((member.1.toList.flatMap escaped).map Glyph.character ++ .character '"' ::
        .character ':' :: Glyph.ofText member.2.1) := by
  unfold Member.glyphs
  rw [ofText_append, ofText_append, ofText_quote]
  simp [Glyph.ofText]

/-- Members begin with the name of the first one. -/
theorem joined_members_opens {members : List Member} (some : members ≠ []) :
    ∃ more, joined (members.map Member.glyphs) = .character '"' :: more := by
  cases members with
  | nil => exact absurd rfl some
  | cons member more =>
    rw [List.map_cons, member.glyphs_eq]
    cases more with
    | nil => exact ⟨_, List.intercalate_singleton⟩
    | cons next later => exact ⟨_, joined_cons_cons _ _ _⟩

/-- Members are read up to the end of their object. -/
theorem membersFrom_joined {members : List Member}
    (spelled : ∀ member ∈ members, Spells member.2.1 member.2.2) (some : members ≠ []) (fuel : Nat)
    (rest : List Glyph) (enough : (joined (members.map Member.glyphs)).length < fuel) :
    membersFrom fuel (joined (members.map Member.glyphs) ++ .character '\x7d' :: rest) =
      (members.map fun member => (.of member.1, member.2.2), none, .some rest) := by
  induction members generalizing fuel with
  | nil => exact absurd rfl some
  | cons member more ih =>
    have reads := (spelled member List.mem_cons_self).reads
    cases fuel with
    | zero => cases enough
    | succ fuel =>
      cases more with
      | nil =>
        simp only [List.map_cons, List.map_nil, joined, List.intercalate_singleton,
          member.glyphs_eq, List.length_cons, List.length_append] at enough ⊢
        rw [List.cons_append, List.append_assoc, List.cons_append, List.cons_append, membersFrom,
          skipSpace_cons _ (by decide)]
        simp (disch := decide) only [stringNode_characters, skipSpace_cons]
        rw [reads fuel _ (by omega)]
        simp (disch := decide) only [skipSpace_cons]
      | cons next others =>
        have later := ih (fun item member => spelled item (List.mem_cons_of_mem _ member))
          (List.cons_ne_nil _ _)
        simp only [List.map_cons, joined_cons_cons, member.glyphs_eq, List.length_append,
          List.length_cons] at enough
        simp only [List.map_cons, joined_cons_cons, member.glyphs_eq, List.append_assoc,
          List.cons_append] at later ⊢
        rw [membersFrom, skipSpace_cons _ (by decide)]
        simp (disch := decide) only [stringNode_characters, skipSpace_cons]
        rw [reads fuel _ (by omega)]
        simp (disch := decide) only [skipSpace_cons]
        rw [later fuel (by omega)]

/-- An object is read as its members. -/
theorem Spells.object {members : List Member}
    (spelled : ∀ member ∈ members, Spells member.2.1 member.2.2) :
    Spells (object (members.map fun member => (member.1, member.2.1)))
      (.object (members.map fun member => (.of member.1, member.2.2)) none) := by
  have text : Glyph.ofText (Json.object (members.map fun member => (member.1, member.2.1))) =
      .character '\x7b' :: (joined (members.map Member.glyphs) ++ [.character '\x7d']) := by
    unfold Json.object
    rw [ofText_append, ofText_append, ofText_intercalate, List.map_map, List.map_map]
    rfl
  refine { opens := ⟨_, _, text, rfl, by decide⟩, reads := fun fuel rest enough => ?_ }
  rw [text] at enough ⊢
  simp only [List.length_cons, List.length_append, List.length_nil] at enough
  cases fuel with
  | zero => cases enough
  | succ fuel =>
    rw [List.cons_append, List.append_assoc, List.singleton_append, value,
      skipSpace_cons _ (by decide)]
    by_cases empty : members = []
    · subst empty
      simp (disch := decide) only [List.map_nil, joined, List.intercalate_nil, List.nil_append,
        skipSpace_cons]
    · have read := membersFrom_joined spelled empty fuel rest (by omega)
      obtain ⟨more, opens⟩ := joined_members_opens empty
      rw [opens] at read ⊢
      simp (disch := decide) only [List.cons_append, skipSpace_cons] at read ⊢
      split
      · rename_i closed
        simp at closed
      · rw [read]

/-- A text that stands alone is read as its tree. -/
theorem Spells.document {text : String} {tree : Tree} (spells : Spells text tree) :
    Document.ofGlyphs (Glyph.ofText text) = { root := tree, trailing := false } := by
  have read := spells.reads (2 * (Glyph.ofText text).length + 2) [] (by omega)
  rw [List.append_nil] at read
  unfold Document.ofGlyphs
  rw [read]
  rfl

end Deliberation.Json
