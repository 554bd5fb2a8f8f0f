import Deliberation.Word

/-!
# Reproducible randomness

A generator is a position in the word stream of a ChaCha cipher with twelve rounds.
`Generator.ofSeed` expands a 64-bit seed into the key, `Generator.below` draws a number from a
half-open range, and `shuffle` permutes a list. Everything random in a run comes from here, so two
runs from the same seed draw the same numbers in the same order.
-/

namespace Deliberation

/-- A position in the word stream that a key of eight words determines. -/
structure Generator where
  key : Vector UInt32 8
  position : Nat

namespace Generator

/-- Rotate a word to the left; the amount is below the word's width. -/
def rotateLeft (word : UInt32) (amount : UInt32) : UInt32 :=
  (word <<< amount) ||| (word >>> (32 - amount))

/-- One quarter round of the cipher, on four positions of the sixteen-word state. -/
def quarterRound (state : Vector UInt32 16) (a b c d : Fin 16) : Vector UInt32 16 :=
  let state := state.set a (state[a] + state[b])
  let state := state.set d (rotateLeft (state[d] ^^^ state[a]) 16)
  let state := state.set c (state[c] + state[d])
  let state := state.set b (rotateLeft (state[b] ^^^ state[c]) 12)
  let state := state.set a (state[a] + state[b])
  let state := state.set d (rotateLeft (state[d] ^^^ state[a]) 8)
  let state := state.set c (state[c] + state[d])
  state.set b (rotateLeft (state[b] ^^^ state[c]) 7)

/-- A column round followed by a diagonal round. -/
def doubleRound (state : Vector UInt32 16) : Vector UInt32 16 :=
  let state := quarterRound state 0 4 8 12
  let state := quarterRound state 1 5 9 13
  let state := quarterRound state 2 6 10 14
  let state := quarterRound state 3 7 11 15
  let state := quarterRound state 0 5 10 15
  let state := quarterRound state 1 6 11 12
  let state := quarterRound state 2 7 8 13
  quarterRound state 3 4 9 14

/-- The state a block starts from: the four constants, the key, the block counter and a zero nonce. -/
def initialState (key : Vector UInt32 8) (block : Nat) : Vector UInt32 16 :=
  #v[0x61707865, 0x3320646e, 0x79622d32, 0x6b206574,
     key[0], key[1], key[2], key[3], key[4], key[5], key[6], key[7],
     UInt32.ofNat block, UInt32.ofNat (block / wordCount), 0, 0]

/-- The sixteen words of one block: six double rounds, added to the starting state. -/
def block (key : Vector UInt32 8) (index : Nat) : Vector UInt32 16 :=
  let start := initialState key index
  let mixed := doubleRound (doubleRound (doubleRound (doubleRound (doubleRound (doubleRound start)))))
  start.zipWith (· + ·) mixed

/-- The next word of the stream. -/
def next (generator : Generator) : UInt32 × Generator :=
  let words := block generator.key (generator.position / 16)
  (words.get ⟨generator.position % 16, Nat.mod_lt _ (by decide)⟩,
    { generator with position := generator.position + 1 })

/-- The multiplier of the linear congruence that expands a seed. -/
def seedMultiplier : UInt64 := 6364136223846793005

/-- The increment of the linear congruence that expands a seed. -/
def seedIncrement : UInt64 := 11634580027462260723

/-- One step of the seed expansion: the word it yields and the state after it. -/
def expandSeed (state : UInt64) : UInt32 × UInt64 :=
  let state := state * seedMultiplier + seedIncrement
  let mixed := (((state >>> 18) ^^^ state) >>> 27).toUInt32
  let amount := (state >>> 59).toUInt32
  ((mixed >>> amount) ||| (mixed <<< ((32 - amount) % 32)), state)

/-- The generator that a 64-bit seed determines. -/
def ofSeed (seed : UInt64) : Generator :=
  let (w0, s) := expandSeed seed
  let (w1, s) := expandSeed s
  let (w2, s) := expandSeed s
  let (w3, s) := expandSeed s
  let (w4, s) := expandSeed s
  let (w5, s) := expandSeed s
  let (w6, s) := expandSeed s
  let (w7, _) := expandSeed s
  { key := #v[w0, w1, w2, w3, w4, w5, w6, w7], position := 0 }

/-- A number below `bound`, for a bound that fits a word. One word is scaled to the range; a second
word decides the carry when the first leaves it open. -/
def below (bound : Nat) (generator : Generator) : Nat × Generator :=
  let (word, generator) := generator.next
  let product := word.toNat * bound
  let high := product / wordCount
  let low := product % wordCount
  if low > (wordCount - bound) % wordCount then
    let (second, generator) := generator.next
    if wordCount ≤ low + second.toNat * bound / wordCount then (high + 1, generator)
    else (high, generator)
  else (high, generator)

/-- A number from one to `largest`, both included. -/
def upTo (largest : Nat) (generator : Generator) : Nat × Generator :=
  let (number, generator) := generator.below largest
  (number + 1, generator)

end Generator

namespace Shuffle

/-- What a shuffle carries from one position to the next: the drawn number that still holds
`pending` swap targets, and the generator. -/
structure Draws where
  chunk : Nat
  pending : Nat
  generator : Generator

/-- The product `first * (first + 1) * …` of as many factors as fit a word, and the first factor
left out. Thirty-two factors never fit, so that many steps suffice. -/
def chunkBound : (steps product factor : Nat) → Nat × Nat
  | 0, product, factor => (product, factor)
  | steps + 1, product, factor =>
    if product * factor < wordCount then chunkBound steps (product * factor) (factor + 1)
    else (product, factor)

/-- The swap target of position `index`, which is at most `index`. One drawn number serves several
positions: each takes the remainder by its own range and leaves the quotient. -/
def target (index : Nat) (draws : Draws) : Nat × Draws :=
  let range := index + 1
  let draws :=
    if draws.pending = 0 then
      let (bound, factor) := chunkBound 32 range (range + 1)
      let (chunk, generator) := draws.generator.below bound
      { chunk, pending := factor - range - 1, generator }
    else { draws with pending := draws.pending - 1 }
  if draws.pending = 0 then (draws.chunk, draws)
  else (draws.chunk % range, { draws with chunk := draws.chunk / range })

/-- Exchange each of `count` positions from `index` on with its target. -/
def exchange {α : Type} : (count index : Nat) → Array α → Draws → Array α × Generator
  | 0, _, items, draws => (items, draws.generator)
  | count + 1, index, items, draws =>
    let (chosen, draws) := target index draws
    exchange count (index + 1) (items.swapIfInBounds index chosen) draws

end Shuffle

/-- Permute a list with the generator's next words. A list of at most one item draws nothing. -/
def shuffle {α : Type} (items : List α) (generator : Generator) : List α × Generator :=
  if items.length ≤ 1 then (items, generator)
  else
    let (permuted, generator) :=
      Shuffle.exchange items.length 0 items.toArray { chunk := 0, pending := 1, generator }
    (permuted.toList, generator)

end Deliberation
