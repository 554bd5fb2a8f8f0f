/-!
# Words

How many numbers words of 32 bits and long words of 64 bits can hold.
-/

namespace Deliberation

/-- The number of words of 32 bits. -/
def wordCount : Nat := 0x100000000

/-- The number of long words of 64 bits. -/
def longWordCount : Nat := 0x10000000000000000

/-- The largest word. -/
def largestWord : Nat := wordCount - 1

/-- The largest long word. -/
def largestLongWord : Nat := longWordCount - 1

end Deliberation
