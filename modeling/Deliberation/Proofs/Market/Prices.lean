import Deliberation.Market.Population
import Deliberation.Proofs.Wire.Digits
import Mathlib.Tactic.Ring

/-!
# Prices

A drawn price lies between one and the bound of its book, so it is a word as long as the bound is
one. A price that is a word survives its way through a message: the receiver reads the price that
the sender wrote, whatever else the message says.
-/

namespace Deliberation

/-! ## Prices that are drawn -/

/-- A number below a bound is below it, also when the second word carries. -/
theorem Generator.below_lt (bound : Nat) (generator : Generator) (positive : 0 < bound)
    (word : bound ≤ wordCount) : (generator.below bound).1 < bound := by
  have small : generator.next.1.toNat < wordCount := generator.next.1.toNat_lt
  have product : generator.next.1.toNat * bound + bound ≤ wordCount * bound := by
    calc generator.next.1.toNat * bound + bound
        = (generator.next.1.toNat + 1) * bound := by ring
      _ ≤ wordCount * bound := Nat.mul_le_mul_right bound small
  simp only [below]
  generalize generator.next.1.toNat * bound = scaled at product ⊢
  have parts := Nat.div_add_mod scaled wordCount
  have high : scaled / wordCount < bound := Nat.div_lt_of_lt_mul (by omega)
  split
  · rename_i carries
    split
    · -- a carry out of the last number would need more than the product leaves room for
      refine Nat.lt_of_le_of_ne high fun full => ?_
      have filled : wordCount * (scaled / wordCount) + wordCount = wordCount * bound :=
        congrArg (wordCount * ·) full
      rw [Nat.mod_eq_of_lt (by omega : wordCount - bound < wordCount)] at carries
      omega
    · exact high
  · exact high

/-- A number up to a largest one is positive and no larger. -/
theorem Generator.upTo_mem (largest : Nat) (generator : Generator) (positive : 0 < largest)
    (word : largest ≤ wordCount) :
    0 < (generator.upTo largest).1 ∧ (generator.upTo largest).1 ≤ largest :=
  ⟨Nat.succ_pos _, generator.below_lt largest positive word⟩

/-- Prices are bounded as the population says, but never by zero. -/
theorem Market.Book.maxPrice_ofSeed (seed : UInt64) (maxPrice : Nat) :
    (Book.ofSeed seed maxPrice).maxPrice = max maxPrice 1 := rfl

/-- The prices that a book draws are words if its bound is one. -/
theorem Market.Book.nextPrice_lt (book : Market.Book) (positive : 0 < book.maxPrice)
    (word : book.maxPrice ≤ largestWord) : book.nextPrice.1 < wordCount := by
  have bounded : largestWord < wordCount := by decide
  have drawn := book.random.upTo_mem book.maxPrice positive (Nat.le_of_lt (word.trans_lt bounded))
  exact (drawn.2.trans word).trans_lt bounded

/-! ## Prices that are written -/

/-- A number is read from its decimal digits. -/
theorem Text.natural?_toDigits (number : Nat) :
    Text.natural? (Nat.toDigits 10 number) = some number := by
  have digits : ∀ character ∈ Nat.toDigits 10 number, character.isDigit = true :=
    fun _ member => Nat.isDigit_of_mem_toDigits (by decide) (by decide) member
  have unsigned : ∀ rest, Nat.toDigits 10 number ≠ '+' :: rest := by
    intro rest signed
    have digit := digits '+' (signed ▸ List.mem_cons_self)
    cases digit
  unfold Text.natural?
  split
  · rename_i rest signed
    exact absurd signed (unsigned rest)
  · simp [Nat.toDigits_ne_nil, List.all_eq_true.mpr digits, Text.decimal_toDigits]

namespace Market

/-- Every price that is read is a word. -/
theorem price_lt {message : Message} {price : Nat} (carried : priceOf? message = some price) :
    price < wordCount := by
  unfold priceOf? at carried
  obtain ⟨text, -, carried⟩ := Option.bind_eq_some_iff.mp carried
  obtain ⟨number, -, carried⟩ := Option.bind_eq_some_iff.mp carried
  split at carried
  · rename_i small
    cases carried
    exact small
  · cases carried

/-- A price that is a word is read as it was written. -/
theorem priceOf?_written {message : Message} {price : Nat}
    (written : message.parameters = [(priceKey, toString price)]) (word : price < wordCount) :
    priceOf? message = some price := by
  have carried : message.parameter? priceKey = some (toString price) := by
    unfold Message.parameter? Parameters.find?
    rw [written]
    exact List.lookup_cons_self
  unfold priceOf?
  rw [carried]
  simp [Text.natural?_toDigits, word]

end Market

end Deliberation
