import Deliberation.Text.Blank
import Deliberation.Yaml.Value
import Mathlib.Data.List.Basic

/-!
# Blank documents

What YAML makes of a text of blanks. The reader passes over spaces and line breaks. Behind them the
text is over, or goes on with a tab, which starts no token, or with another blank, such as a
no-break space, which starts a plain scalar that takes the rest (`Lexer.tokens?_start`). So a blank
text is a document if and only if it is legible, and what it then means is no mapping.
-/

namespace Deliberation

open Deliberation.Text

namespace Yaml

/-! ## Characters -/

/-- Whether a character may stand in front of any token: a space, or the end of a line. -/
def isFiller (character : Char) : Bool := character == ' ' || isBreak character

/-- A blank is no other character. -/
theorem ne_of_isBlank {c other : Char} (blank : isBlank c) (inked : isBlank other = false) :
    c ≠ other := by
  rintro rfl
  rw [inked] at blank
  cases blank

/-- A blank does not compare equal to another character. -/
theorem beq_of_isBlank {c other : Char} (blank : isBlank c) (inked : isBlank other = false) :
    (c == other) = false := beq_false_of_ne (ne_of_isBlank blank inked)

/-- The end of a line is blank. -/
theorem isBlank_of_isBreak {c : Char} (ends : isBreak c) : isBlank c := by
  simp only [isBreak, Bool.or_eq_true, beq_iff_eq, or_assoc] at ends
  rcases ends with rfl | rfl | code | code | code
  · rfl
  · rfl
  all_goals simp [isBlank, code]

/-- Spaces and tabs are blank. -/
theorem isBlank_of_isSpacing {c : Char} (spacing : isSpacing c) : isBlank c := by
  simp only [isSpacing, Bool.or_eq_true, beq_iff_eq] at spacing
  rcases spacing with rfl | rfl <;> rfl

/-! ## Cursors -/

namespace Cursor

/-- To drop what a test takes is to drop while it holds. -/
theorem drop_length_takeWhile (test : Char → Bool) (characters : List Char) :
    characters.drop (characters.takeWhile test).length = characters.dropWhile test := by
  have behind : (characters.takeWhile test ++ characters.dropWhile test).drop
      (characters.takeWhile test).length = characters.dropWhile test := List.drop_left
  rwa [List.takeWhile_append_dropWhile] at behind

/-- A cursor that takes characters stands behind them. -/
@[simp] theorem takeWhile_rest (cursor : Cursor) (test : Char → Bool) :
    (cursor.takeWhile test).2.rest = cursor.rest.dropWhile test :=
  drop_length_takeWhile test cursor.rest

/-- A cursor that skips characters stands behind them. -/
@[simp] theorem skipWhile_rest (cursor : Cursor) (test : Char → Bool) :
    (cursor.skipWhile test).rest = cursor.rest.dropWhile test :=
  takeWhile_rest cursor test

/-- Before blanks a cursor is at no other character. -/
theorem isAt_eq_false {cursor : Cursor} {character : Char}
    (blank : ∀ c ∈ cursor.rest, isBlank c) (inked : isBlank character = false) :
    cursor.isAt character = false := by
  unfold isAt
  cases rest : cursor.rest with
  | nil => rfl
  | cons c _ =>
    have := ne_of_isBlank (blank c (by simp [rest])) inked
    simpa using this

/-- Before blanks a cursor is at no indicator. -/
theorem isAtIndicator_eq_false {cursor : Cursor} (mark : Char)
    (blank : ∀ c ∈ cursor.rest, isBlank c) (inked : isBlank mark = false) :
    cursor.isAtIndicator mark = false := by
  unfold isAtIndicator
  cases rest : cursor.rest with
  | nil => simp
  | cons c _ =>
    have := ne_of_isBlank (blank c (by simp [rest])) inked
    simp [this]

/-- Before blanks a cursor is at no document mark. -/
theorem isAtDocumentMark_eq_false {cursor : Cursor} (blank : ∀ c ∈ cursor.rest, isBlank c) :
    cursor.isAtDocumentMark = false := by
  simp only [isAtDocumentMark, isAtIndicator_eq_false '-' blank rfl,
    isAtIndicator_eq_false '.' blank rfl, Bool.or_self]

/-- Where there is no line break to read, the text ends or goes on with another character. -/
theorem not_isBreak_of_lineBreak? {cursor : Cursor} (missing : cursor.lineBreak? = none) :
    ∀ c ∈ cursor.rest.head?, ¬ isBreak c := by
  intro c head
  unfold lineBreak? at missing
  split at missing
  · cases missing
  · rename_i character rest _ split
    obtain rfl : character = c := by simpa [split] using head
    split at missing
    · cases missing
    · assumption
  · rename_i split
    simp [split] at head

/-- A line break takes at least one character and counts as one. -/
theorem exists_of_lineBreak? {cursor next : Cursor} {counted : Char}
    (read : cursor.lineBreak? = some (counted, next)) :
    isBreak counted ∧ ∃ breaks, breaks ≠ [] ∧ (∀ c ∈ breaks, isBreak c) ∧
      cursor.rest = breaks ++ next.rest := by
  unfold lineBreak? at read
  split at read
  · rename_i rest split
    cases read
    exact ⟨rfl, ['\r', '\n'], by simp, by simp [isBreak], split⟩
  · rename_i character rest _ split
    split at read
    · rename_i ends
      cases read
      refine ⟨?_, [character], by simp, by simpa using ends, split⟩
      split
      · rfl
      · exact ends
    · cases read
  · cases read

end Cursor

/-! ## Gaps -/

/-- A gap made of blanks reads as blanks. -/
theorem Gap.text_blank {gap : Gap} (blanks : ∀ c ∈ gap.blanks, isBlank c)
    (breaks : ∀ c ∈ gap.breaks, isBlank c) : ∀ c ∈ gap.text, isBlank c := by
  unfold Gap.text
  split
  · exact blanks
  · simp [isBlank]
  · rename_i more split
    intro c member
    exact breaks c (by simp [split, member])
  · exact breaks

/-- Behind a line break, no tab is refused where no indentation is asked for. -/
theorem exists_breaksFrom (fuel : Nat) (cursor : Cursor) :
    ∃ breaks next, breaksFrom fuel 0 cursor = some (breaks, next) ∧ next.rest <:+ cursor.rest ∧
      ∀ c ∈ breaks, isBreak c := by
  induction fuel generalizing cursor with
  | zero => exact ⟨[], cursor, rfl, List.suffix_rfl, by simp⟩
  | succ fuel ih =>
    have skipped : (cursor.skip 1).rest <:+ cursor.rest := List.drop_suffix 1 cursor.rest
    unfold breaksFrom
    split
    · rename_i first behind read
      obtain ⟨ends, taken, -, -, rest⟩ := Cursor.exists_of_lineBreak? read
      obtain ⟨breaks, next, more, suffix, areBreaks⟩ := ih behind
      refine ⟨first :: breaks, next, by simp [more], ?_, by simpa [ends] using areBreaks⟩
      exact suffix.trans ⟨taken, rest.symm⟩
    · split
      · obtain ⟨breaks, next, more, suffix, areBreaks⟩ := ih (cursor.skip 1)
        exact ⟨breaks, next, more, suffix.trans skipped, areBreaks⟩
      · split
        · rw [if_neg (by omega)]
          obtain ⟨breaks, next, more, suffix, areBreaks⟩ := ih (cursor.skip 1)
          exact ⟨breaks, next, more, suffix.trans skipped, areBreaks⟩
        · exact ⟨[], cursor, rfl, List.suffix_rfl, by simp⟩

/-- A gap takes at least one character and counts as blanks. -/
theorem exists_gap {cursor : Cursor} (separated : cursor.rest.head?.any isSeparator) :
    ∃ space next, gap 0 cursor = some (space, next) ∧ next.rest <:+ cursor.rest ∧
      next.rest.length < cursor.rest.length ∧ ∀ c ∈ space.text, isBlank c := by
  have blanks : ∀ c ∈ (cursor.takeWhile isSpacing).1, isBlank c := fun c member =>
    isBlank_of_isSpacing (List.all_eq_true.mp List.all_takeWhile c member)
  have behind : (cursor.takeWhile isSpacing).2.rest <:+ cursor.rest := by
    rw [Cursor.takeWhile_rest]
    exact List.dropWhile_suffix isSpacing
  simp only [gap]
  split
  · rename_i missing
    refine ⟨_, _, rfl, behind, ?_, Gap.text_blank blanks (by simp)⟩
    have noBreak := Cursor.not_isBreak_of_lineBreak? missing
    rw [Cursor.takeWhile_rest] at noBreak ⊢
    cases rest : cursor.rest with
    | nil => simp [rest] at separated
    | cons c rest' =>
      rw [rest] at noBreak
      by_cases spacing : isSpacing c
      · rw [List.dropWhile_cons_of_pos spacing]
        exact Nat.lt_succ_of_le (List.dropWhile_suffix isSpacing).length_le
      · rw [List.dropWhile_cons_of_neg spacing] at noBreak
        simp [rest, isSeparator, spacing, noBreak c rfl] at separated
  · rename_i first afterBreak read
    obtain ⟨ends, taken, ne_nil, -, rest⟩ := Cursor.exists_of_lineBreak? read
    obtain ⟨breaks, next, more, suffix, areBreaks⟩ :=
      exists_breaksFrom afterBreak.rest.length afterBreak
    refine ⟨_, next, by rw [more]; rfl, suffix.trans (.trans ⟨taken, rest.symm⟩ behind), ?_, ?_⟩
    · have taken := List.length_pos_iff.mpr ne_nil
      have := suffix.length_le
      have := behind.length_le
      rw [rest, List.length_append] at this
      omega
    · refine Gap.text_blank blanks fun c member => isBlank_of_isBreak ?_
      rcases List.mem_cons.mp member with rfl | member
      · exact ends
      · exact areBreaks c member

/-! ## Plain scalars -/

/-- A word of blanks goes on to the next separator. -/
theorem plainWord_blank {characters : List Char} (blank : ∀ c ∈ characters, isBlank c) :
    plainWord false characters = some (characters.takeWhile (!isSeparator ·)) := by
  induction characters with
  | nil => rfl
  | cons c rest ih =>
    have further := ih fun c member => blank c (by simp [member])
    unfold plainWord
    split
    · rename_i eq
      cases eq
    · rename_i eq
      exact absurd (List.cons.inj eq).1 (ne_of_isBlank (blank c (by simp)) rfl)
    · rename_i eq
      obtain ⟨rfl, rfl⟩ := List.cons.inj eq
      by_cases separates : isSeparator c
      · simp [separates]
      · simp [separates, further]

/-- Behind a word there is a separator or the end of the text. -/
theorem dropWhile_eq_nil {characters : List Char}
    (joined : ¬ (characters.dropWhile (!isSeparator ·)).head?.any isSeparator) :
    characters.dropWhile (!isSeparator ·) = [] := by
  have stops := List.head?_dropWhile_not (!isSeparator ·) characters
  cases rest : characters.dropWhile (!isSeparator ·) with
  | nil => rfl
  | cons c _ =>
    simp only [rest, List.head?_cons, Option.any_some, Bool.not_eq_false'] at stops joined
    exact absurd stops joined

/-- A plain scalar of blanks goes to the end of the text, where no indentation is asked for. -/
theorem exists_plainFrom {fuel : Nat} {text gapText : List Char} (multiline : Bool)
    {cursor : Cursor} (enough : cursor.rest.length < fuel)
    (blank : ∀ c ∈ cursor.rest, isBlank c) (blankText : ∀ c ∈ text, isBlank c)
    (blankGap : ∀ c ∈ gapText, isBlank c) :
    ∃ scalar, plainFrom false 0 fuel text gapText multiline cursor = some scalar ∧
      scalar.cursor.rest = [] ∧ ∀ c ∈ scalar.text, isBlank c := by
  -- Each gap takes a character, so the fuel lasts to the end of the text.
  induction fuel generalizing text gapText multiline cursor with
  | zero => cases enough
  | succ fuel ih =>
    have mark := Cursor.isAtDocumentMark_eq_false blank
    have comment : cursor.isAt '#' = false := Cursor.isAt_eq_false blank rfl
    unfold plainFrom
    rw [mark, comment, plainWord_blank blank]
    simp only [Bool.or_self, Bool.false_eq_true, if_false, Option.bind_some, Option.bind_eq_bind]
    have word : ∀ c ∈ cursor.rest.takeWhile (!isSeparator ·), isBlank c := fun c member =>
      blank c (List.takeWhile_subset _ member)
    have wordText : ∀ c ∈ (if (cursor.rest.takeWhile (!isSeparator ·)).isEmpty then text
        else text ++ gapText ++ cursor.rest.takeWhile (!isSeparator ·)), isBlank c := by
      split
      · exact blankText
      · exact List.forall_mem_append.mpr ⟨List.forall_mem_append.mpr ⟨blankText, blankGap⟩, word⟩
    have behind : (cursor.skip (cursor.rest.takeWhile (!isSeparator ·)).length).rest =
        cursor.rest.dropWhile (!isSeparator ·) := Cursor.drop_length_takeWhile _ _
    split
    · rename_i separated
      obtain ⟨space, next, read, suffix, shorter, blankSpace⟩ := exists_gap separated
      rw [read]
      simp only [Option.bind_some]
      rw [if_neg (by simp)]
      rw [behind] at suffix shorter
      have within := suffix.trans (List.dropWhile_suffix _)
      have := (List.dropWhile_suffix (l := cursor.rest) (!isSeparator ·)).length_le
      exact ih _ (by omega) (fun c member => blank c (within.subset member)) wordText blankSpace
    · rename_i joined
      rw [behind] at joined
      exact ⟨_, rfl, behind.trans (dropWhile_eq_nil joined), wordText⟩

/-! ## Tokens -/

namespace Lexer

/-- The reader is outside of all collections, and no key has to follow. -/
structure Idle (lexer : Lexer) : Prop where
  columns : lexer.columns = []
  outer : lexer.outer = []
  place : ¬ lexer.place.any (·.required)

/-- A place at which no key is required can be given up. -/
theorem forget_eq {place : Option KeyPlace} (free : ¬ place.any (·.required)) :
    forget place = some none := if_neg free

/-- Behind the spaces of a line, the same fillers follow as before them. -/
theorem dropWhile_space (characters : List Char) :
    (characters.dropWhile (· == ' ')).dropWhile isFiller = characters.dropWhile isFiller := by
  have spaces : ∀ c ∈ characters.takeWhile (· == ' '), isFiller c := fun c member => by
    have space := List.all_eq_true.mp List.all_takeWhile c member
    simp only [isFiller, space, Bool.true_or]
  conv_rhs => rw [← List.takeWhile_append_dropWhile (p := (· == ' ')) (l := characters)]
  exact (List.dropWhile_append_of_pos spaces).symm

/-- Behind the spaces of a line, there are no fillers if the line goes on. -/
theorem dropWhile_filler {characters : List Char}
    (goesOn : ∀ c ∈ (characters.dropWhile (· == ' ')).head?, ¬ isBreak c) :
    (characters.dropWhile (· == ' ')).dropWhile isFiller = characters.dropWhile (· == ' ') := by
  have noSpace := List.head?_dropWhile_not (· == ' ') characters
  cases rest : characters.dropWhile (· == ' ') with
  | nil => rfl
  | cons c _ =>
    simp only [rest, List.head?_cons] at goesOn noSpace
    exact List.dropWhile_cons_of_neg (by simp [isFiller, noSpace, goesOn c rfl])

/-- Where a key may start, passing over blanks ends at the first character that is neither a space
nor ends a line. -/
theorem skipSpace_blank {fuel : Nat} {cursor : Cursor} (enough : cursor.rest.length < fuel)
    (blank : ∀ c ∈ cursor.rest, isBlank c) :
    (skipSpace false fuel true cursor).1.rest = cursor.rest.dropWhile isFiller := by
  induction fuel generalizing cursor with
  | zero => cases enough
  | succ fuel ih =>
    have mark : cursor.isAt byteOrderMark = false := Cursor.isAt_eq_false blank rfl
    have suffix := List.dropWhile_suffix (l := cursor.rest) (· == ' ')
    have comment : (cursor.skipWhile (· == ' ')).isAt '#' = false := by
      refine Cursor.isAt_eq_false (fun c member => blank c ?_) rfl
      rw [Cursor.skipWhile_rest] at member
      exact suffix.subset member
    unfold skipSpace
    simp only [mark, Bool.and_false, Bool.false_eq_true, if_false, Bool.not_true, Bool.or_self,
      Bool.false_and, Bool.or_false, comment, Bool.not_false]
    rw [← dropWhile_space cursor.rest, ← Cursor.skipWhile_rest cursor (· == ' ')]
    rw [← Cursor.skipWhile_rest cursor (· == ' ')] at suffix
    split
    · rename_i next read
      obtain ⟨-, breaks, ne_nil, ends, rest⟩ := Cursor.exists_of_lineBreak? read
      have fillers : ∀ c ∈ breaks, isFiller c := fun c member => by simp [isFiller, ends c member]
      have within : next.rest <:+ cursor.rest := .trans ⟨breaks, rest.symm⟩ suffix
      have := suffix.length_le
      have := List.length_pos_iff.mpr ne_nil
      rw [rest, List.dropWhile_append_of_pos fillers]
      rw [rest, List.length_append] at *
      exact ih (by omega) fun c member => blank c (within.subset member)
    · rename_i missing
      have noBreak := Cursor.not_isBreak_of_lineBreak? missing
      rw [Cursor.skipWhile_rest] at noBreak ⊢
      exact (dropWhile_filler noBreak).symm

/-- At the end of the text there is nothing to pass over. -/
theorem skipSpace_end (inFlow keyAllowed : Bool) (fuel : Nat) {cursor : Cursor}
    (finished : cursor.rest = []) : (skipSpace inFlow fuel keyAllowed cursor).1.rest = [] := by
  cases fuel with
  | zero => exact finished
  | succ fuel => simp [skipSpace, Cursor.isAt, Cursor.lineBreak?, finished]

/-- An idle reader that gives up stale places stays idle and where it is. -/
theorem Idle.refreshAll {lexer : Lexer} (idle : lexer.Idle) :
    ∃ next, lexer.refreshAll = some next ∧ next.Idle ∧ next.cursor = lexer.cursor ∧
      next.tokens = lexer.tokens := by
  have refreshed : ∃ place, refresh lexer.cursor lexer.place = some place ∧
      ¬ place.any (·.required) := by
    unfold refresh
    split
    · exact ⟨none, forget_eq idle.place, by simp⟩
    · exact ⟨lexer.place, rfl, idle.place⟩
  obtain ⟨place, fresh, free⟩ := refreshed
  refine ⟨{ lexer with place }, ?_, ⟨idle.columns, idle.outer, free⟩, rfl, rfl⟩
  simp [Lexer.refreshAll, fresh, idle.outer]

/-- An idle reader has no block collections to end. -/
theorem Idle.unroll {lexer : Lexer} (idle : lexer.Idle) (column : Int) :
    lexer.unroll column = lexer := by
  obtain ⟨cursor, tokens, columns, place, outer, keyAllowed⟩ := lexer
  obtain rfl : columns = [] := idle.columns
  simp [Lexer.unroll]

/-- An idle reader that remembers a place for a key stays idle and where it is. -/
theorem Idle.savePlace {lexer : Lexer} (idle : lexer.Idle) :
    ∃ next, lexer.savePlace = some next ∧ next.Idle ∧ next.cursor = lexer.cursor ∧
      next.tokens = lexer.tokens := by
  unfold Lexer.savePlace
  split
  · have dropped : lexer.dropPlace = some { lexer with place := none } := by
      simp [dropPlace, forget_eq idle.place]
    rw [dropped]
    refine ⟨_, rfl, ⟨idle.columns, idle.outer, ?_⟩, rfl, rfl⟩
    -- The column of no collection is minus one, where nothing stands.
    simp [indent, idle.columns]
  · exact ⟨lexer, rfl, idle, rfl, rfl⟩

/-- An idle reader leaves a document without a token. -/
theorem Idle.leaveDocument {lexer : Lexer} (idle : lexer.Idle) :
    ∃ next, lexer.leaveDocument = some next ∧ next.tokens = lexer.tokens := by
  refine ⟨({ lexer with place := none } : Lexer).allowKey false, ?_, rfl⟩
  simp [Lexer.leaveDocument, idle.unroll, dropPlace, forget_eq idle.place]

/-- Outside of all collections, the reader goes to the next token. The tokens end where the text
does. -/
theorem Idle.exists_tokens? {lexer : Lexer} (idle : lexer.Idle) (fuel : Nat) :
    ∃ next : Lexer, next.Idle ∧ next.cursor = lexer.toToken.cursor ∧ next.tokens = lexer.tokens ∧
      (next.cursor.rest = [] → tokens? (fuel + 1) lexer = some lexer.tokens.toList) ∧
      ∀ first rest, next.cursor.rest = first :: rest →
        tokens? (fuel + 1) lexer = (next.token first rest).bind (tokens? fuel) := by
  have moved : lexer.toToken.Idle := ⟨idle.columns, idle.outer, idle.place⟩
  obtain ⟨next, refreshed, idle, cursor, tokens⟩ := moved.refreshAll
  obtain ⟨last, left, lastTokens⟩ := idle.leaveDocument
  refine ⟨next, idle, cursor, tokens, fun finished => ?_, fun first rest more => ?_⟩
  · simp only [tokens?, refreshed, Option.bind_eq_bind, Option.bind_some, idle.unroll, finished,
      left, lastTokens, tokens]
    rfl
  · simp only [tokens?, refreshed, Option.bind_eq_bind, Option.bind_some, idle.unroll, more]

/-- Of the blanks that are no filler all but the tab may start a plain scalar. -/
theorem startsPlain_blank {inFlow : Bool} {first : Char} {rest : List Char} (blank : isBlank first)
    (starts : ¬ isFiller first) : startsPlain inFlow first rest = (first != '\t') := by
  have separator : isSeparator first = (first == '\t') := by
    simp only [isFiller, Bool.or_eq_true, not_or, Bool.not_eq_true] at starts
    simp [isSeparator, isSpacing, starts]
  have inked : ("-?:,[]\x7b\x7d#&*!|>'\"%@\x60".toList.all (!isBlank ·)) = true := rfl
  have indicator : "-?:,[]\x7b\x7d#&*!|>'\"%@\x60".toList.contains first = false := by
    rw [List.contains_eq_any_beq, List.any_eq_false]
    intro c member
    have := List.all_eq_true.mp inked c member
    simp only [Bool.not_eq_eq_eq_not, Bool.not_true] at this
    simp [beq_of_isBlank blank this]
  have hyphen : (first == '-') = false := beq_of_isBlank blank rfl
  have question : (first == '?') = false := beq_of_isBlank blank rfl
  have colon : (first == ':') = false := beq_of_isBlank blank rfl
  simp only [startsPlain, separator, indicator, hyphen, question, colon]
  simp [bne]

/-- A blank that does not count as one in front of a token starts a plain scalar, but a tab starts
nothing. -/
theorem token_blank {lexer : Lexer} {first : Char} {rest : List Char}
    (more : lexer.cursor.rest = first :: rest) (blank : ∀ c ∈ lexer.cursor.rest, isBlank c)
    (starts : ¬ isFiller first) :
    lexer.token first rest = if first = '\t' then none else lexer.plain := by
  have blankFirst := blank first (by simp [more])
  have ne {c : Char} (inked : isBlank c = false) := beq_of_isBlank blankFirst inked
  have noStart := Cursor.isAtIndicator_eq_false '-' blank rfl
  have noEnd := Cursor.isAtIndicator_eq_false '.' blank rfl
  simp only [token, ne (c := '%') rfl, noStart, noEnd, Bool.and_false, Bool.false_eq_true, if_false]
  split
  case h_11 =>
    simp only [startsPlain_blank blankFirst starts, ne (c := '-') rfl, ne (c := '?') rfl,
      ne (c := ':') rfl, ne (c := '|') rfl, ne (c := '>') rfl]
    simp
  all_goals exact absurd blankFirst (by decide)

/-- A plain scalar of blanks outside of all collections goes to the end of the text. -/
theorem Idle.exists_plain {lexer : Lexer} (idle : lexer.Idle)
    (blank : ∀ c ∈ lexer.cursor.rest, isBlank c) :
    ∃ spelling next, lexer.plain = some next ∧ next.Idle ∧ next.cursor.rest = [] ∧
      next.tokens = lexer.tokens.push (.scalar .plain spelling) ∧
      ∀ c ∈ spelling.toList, isBlank c := by
  obtain ⟨saved, save, idle, cursor, tokens⟩ := idle.savePlace
  rw [← cursor] at blank
  obtain ⟨scalar, read, finished, blankText⟩ := exists_plainFrom false (Nat.lt_succ_self _) blank
    (List.forall_mem_nil _) (List.forall_mem_nil _)
  have scalarRead : plainScalar saved.inFlow (saved.indent + 1) saved.cursor = some scalar := by
    simp only [plainScalar, inFlow, indent, idle.columns, idle.outer]
    exact read
  let token := Token.scalar .plain (String.ofList scalar.text)
  refine ⟨String.ofList scalar.text, (saved.allowKey scalar.multiline).emit token scalar.cursor, ?_,
    ⟨idle.columns, idle.outer, idle.place⟩, finished, ?_, by simpa using blankText⟩
  · simp only [plain, save, scalarRead, Option.bind_eq_bind, Option.bind_some, token]
  · simp only [emit, push, allowKey, tokens, token]

/-- A reader starts out idle. -/
theorem start_idle (text : List Char) : (start text).Idle := ⟨rfl, rfl, by simp [start]⟩

/-- Behind the last token there are no others. -/
theorem Idle.tokens?_end {lexer : Lexer} (idle : lexer.Idle) (fuel : Nat)
    (finished : lexer.cursor.rest = []) : tokens? (fuel + 1) lexer = some lexer.tokens.toList := by
  obtain ⟨next, -, cursor, -, ended, -⟩ := idle.exists_tokens? fuel
  refine ended ?_
  rw [cursor]
  exact skipSpace_end lexer.inFlow lexer.keyAllowed (lexer.cursor.rest.length + 1) finished

/-- Behind spaces and line breaks, a blank text is over, or it goes on with a plain scalar, or with
a tab that no token starts with. -/
theorem tokens?_start {text : List Char} (blank : ∀ c ∈ text, isBlank c) :
    ((text.dropWhile isFiller).head? = some '\t' →
        tokens? (text.length + 1) (start text) = none) ∧
      ((text.dropWhile isFiller).head? ≠ some '\t' →
        tokens? (text.length + 1) (start text) = some [] ∨
          ∃ spelling, tokens? (text.length + 1) (start text) = some [.scalar .plain spelling] ∧
            ∀ c ∈ spelling.toList, isBlank c) := by
  obtain ⟨next, idle, cursor, tokens, ended, goesOn⟩ := (start_idle text).exists_tokens? text.length
  have rest : next.cursor.rest = text.dropWhile isFiller := by
    rw [cursor]
    exact skipSpace_blank (Nat.lt_succ_self _) blank
  have blankRest : ∀ c ∈ next.cursor.rest, isBlank c := fun c member =>
    blank c ((List.dropWhile_suffix isFiller).subset (rest ▸ member))
  cases split : text.dropWhile isFiller with
  | nil => exact ⟨fun tab => (by cases tab), fun _ => .inl (ended (rest.trans split))⟩
  | cons first others =>
    have more := rest.trans split
    have starts : ¬ isFiller first := by
      have stops := List.head?_dropWhile_not isFiller text
      simpa [split] using stops
    rw [goesOn first others more, token_blank more blankRest starts, List.head?_cons]
    refine ⟨fun tab => ?_, fun noTab => .inr ?_⟩
    · rw [if_pos (Option.some.inj tab)]
      rfl
    · rw [if_neg fun tab => noTab (congrArg some tab)]
      obtain ⟨spelling, last, plain, lastIdle, finished, lastTokens, blankSpelling⟩ :=
        idle.exists_plain blankRest
      refine ⟨spelling, ?_, blankSpelling⟩
      obtain ⟨fuel, length⟩ : ∃ fuel, text.length = fuel + 1 := by
        have := (List.dropWhile_suffix (l := text) isFiller).length_le
        rw [split, List.length_cons] at this
        exact ⟨text.length - 1, by omega⟩
      rw [plain, Option.bind_some, length, lastIdle.tokens?_end fuel finished, lastTokens, tokens]
      rfl

end Lexer

/-! ## Documents -/

/-- Whether a blank text is a document: all its characters may occur in one, and behind spaces and
line breaks no tab is first. -/
def IsLegible (text : List Char) : Prop :=
  text.all isPrintable ∧ (text.dropWhile isFiller).head? ≠ some '\t'

instance : DecidablePred IsLegible := fun _ => inferInstanceAs (Decidable (_ ∧ _))

/-! ## Meanings -/

/-- A blank is no hexadecimal digit. -/
theorem hexValue?_blank {c : Char} (blank : isBlank c) : hexValue? c = none := by
  simp only [isBlank, Bool.or_eq_true, Bool.and_eq_true, decide_eq_true_eq, beq_iff_eq] at blank
  simp only [hexValue?, Char.le_def, UInt32.le_iff_toNat_le]
  rw [if_neg, if_neg, if_neg]
  all_goals
    rintro ⟨least, most⟩
    simp only [Char.toNat_val, Char.reduceToNat] at least most
    omega

/-- A blank spelling is no integer. -/
theorem integerOf?_blank {characters : List Char} (blank : ∀ c ∈ characters, isBlank c) :
    integerOf? characters = none := by
  cases characters with
  | nil => rfl
  | cons c rest =>
    have ne {other : Char} (inked : isBlank other = false) : c ≠ other :=
      ne_of_isBlank (blank c (by simp)) inked
    have digits : numberIn? 10 (c :: rest) = none := by
      simp only [numberIn?, List.isEmpty_cons, Bool.false_eq_true, if_false, number?,
        List.foldl_cons, hexValue?_blank (blank c (by simp))]
      exact List.foldl_fixed' (fun _ => rfl) rest
    have natural : naturalOf? (c :: rest) = none := by
      unfold naturalOf?
      split
      · rename_i eq
        exact absurd (List.cons.inj eq).1 (ne rfl)
      · unfold unsigned?
        split
        iterate 3
          rename_i eq
          exact absurd (List.cons.inj eq).1 (ne rfl)
        · simp only [digits, ite_self]
    unfold integerOf?
    split
    · rename_i eq
      exact absurd (List.cons.inj eq).1 (ne rfl)
    · rw [natural]
      rfl

/-- A blank spelling means nothing that has fields. -/
theorem exists_ofSpelling? {spelling : String} (blank : ∀ c ∈ spelling.toList, isBlank c)
    (name : String) :
    ∃ value, Value.ofSpelling? spelling = some value ∧ value.find? name = none := by
  have fitting : Value.fitting spelling = some none := by
    simp only [Value.fitting, integerOf?_blank blank]
  unfold Value.ofSpelling?
  rw [fitting]
  split
  · exact ⟨.null, rfl, rfl⟩
  · split
    · exact ⟨.flag _, rfl, rfl⟩
    · simp only [Option.bind_eq_bind, Option.bind_some]
      split
      · exact ⟨.text spelling, rfl, rfl⟩
      · cases decimalOf? spelling
        · exact ⟨.text spelling, rfl, rfl⟩
        · exact ⟨.decimal _, rfl, rfl⟩

/-- A document of one plain scalar. -/
theorem ofTokens?_plain (spelling : String) :
    (Document.ofTokens? [.scalar .plain spelling]).bind Value.ofDocument? =
      Value.ofSpelling? spelling := by
  have document : Document.ofTokens? [.scalar .plain spelling] =
    some { root := some (.scalar .plain none spelling), anchored := [] } := rfl
  rw [document, Option.bind_some]
  unfold Value.ofDocument? Value.ofNode?
  simp [Document.target, Value.ofScalar?, Value.ofUntagged?, Node.places, Function.comp_def]

/-- A blank text that is a document means nothing that has fields. -/
theorem exists_ofDocument? {text : String} (blank : ∀ c ∈ text.toList, isBlank c)
    (legible : IsLegible text.toList) (name : String) :
    ∃ value, (Document.ofText? text).bind Value.ofDocument? = some value ∧
      value.find? name = none := by
  obtain ⟨printable, noTab⟩ := legible
  have tokens : Token.ofText? text.toList =
      Lexer.tokens? (text.toList.length + 1) (Lexer.start text.toList) :=
    if_pos printable
  rcases (Lexer.tokens?_start blank).2 noTab with none | ⟨spelling, one, blankSpelling⟩
  · refine ⟨.null, ?_, rfl⟩
    simp [Document.ofText?, tokens, none, Document.ofTokens?, Value.ofDocument?]
  · obtain ⟨value, means, noField⟩ := exists_ofSpelling? blankSpelling name
    refine ⟨value, ?_, noField⟩
    simp only [Document.ofText?, tokens, one, Option.bind_eq_bind, Option.bind_some,
      ofTokens?_plain, means]

/-- Any other blank text is no document. -/
theorem ofText?_eq_none {text : String} (blank : ∀ c ∈ text.toList, isBlank c)
    (illegible : ¬ IsLegible text.toList) : Document.ofText? text = none := by
  have tokens : Token.ofText? text.toList = none := by
    unfold Token.ofText?
    split
    · rename_i printable
      refine (Lexer.tokens?_start blank).1 ?_
      by_contra noTab
      exact illegible ⟨printable, noTab⟩
    · rfl
  simp [Document.ofText?, tokens]

end Yaml

end Deliberation
