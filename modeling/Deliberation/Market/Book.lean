import Deliberation.Random

/-!
# Trader books

A trader's book holds its reservation price, which is the most it pays, the bound of all prices, the
number of sales, and the generator that its prices are drawn from. All that is random in a book
follows from its seed.
-/

namespace Deliberation.Market

/-- The private state of a trader. -/
structure Book where
  reservation : Nat
  maxPrice : Nat
  sold : UInt32
  random : Generator

namespace Book

/-- A book without sales. Its reservation price is the first number drawn; prices are at least
one. -/
def ofSeed (seed : UInt64) (maxPrice : Nat) : Book :=
  let maxPrice := max maxPrice 1
  let drawn := (Generator.ofSeed seed).upTo maxPrice
  { reservation := drawn.1, maxPrice, sold := 0, random := drawn.2 }

/-- Draw a price. -/
def nextPrice (book : Book) : Nat × Book :=
  let (price, random) := book.random.upTo book.maxPrice
  (price, { book with random })

/-- Count one more sale. -/
def recordSale (book : Book) : Book := { book with sold := book.sold + 1 }

end Book

end Deliberation.Market
