/-!
# Ranges of code points

Properties of characters are tables of ranges.
-/

namespace Deliberation.Text

/-- Whether some range, ends included, holds a code point. -/
def isWithin (ranges : Array (Nat × Nat)) (code : Nat) : Bool :=
  ranges.any fun (first, last) => first ≤ code && code ≤ last

end Deliberation.Text
