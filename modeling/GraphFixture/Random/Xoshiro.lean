import GraphFixture.Random.Source

/-!
# The seeded word generator

Words come from the xoshiro256++ generator.  Its four state words are filled
from one 64-bit seed by eight steps of a permuted congruential generator, two
32-bit outputs to a state word.
-/

namespace GraphFixture

/-- The four state words of the generator. -/
structure Xoshiro where
  s0 : UInt64
  s1 : UInt64
  s2 : UInt64
  s3 : UInt64
  deriving DecidableEq, Repr, Inhabited

namespace Xoshiro

/-- Rotate a word to the left by an amount between one and sixty-three. -/
def rotateLeft (word amount : UInt64) : UInt64 :=
  (word <<< amount) ||| (word >>> (64 - amount))

/-- The word that a state gives. -/
def output (state : Xoshiro) : UInt64 :=
  rotateLeft (state.s0 + state.s3) 23 + state.s0

/-- The linear step from one state to the next. -/
def step (state : Xoshiro) : Xoshiro :=
  let shifted := state.s1 <<< 17
  let mixed2 := state.s2 ^^^ state.s0
  let mixed3 := state.s3 ^^^ state.s1
  { s0 := state.s0 ^^^ mixed3
    s1 := state.s1 ^^^ mixed2
    s2 := mixed2 ^^^ shifted
    s3 := rotateLeft mixed3 45 }

/-- A state gives its word and steps on. -/
instance : WordSource Xoshiro where
  draw state := (state.output, state.step)

/-- The number of states, one for each choice of four words.  After that many
words the generator repeats itself. -/
def stateCount : Nat :=
  UInt64.size * UInt64.size * UInt64.size * UInt64.size

/-! ## Seeding -/

/-- One step of the congruential sequence behind the seeding. -/
def seedStep (state : UInt64) : UInt64 :=
  state * 6364136223846793005 + 11634580027462260723

/-- The 32-bit output of a congruential state: its xor-shifted high bits,
rotated to the right by its top five bits. -/
def seedOutput (state : UInt64) : UInt32 :=
  let shifted := (((state >>> 18) ^^^ state) >>> 27).toUInt32
  let amount := (state >>> 59).toUInt32
  (shifted >>> amount) ||| (shifted <<< (32 - amount))

/-- A state word made from two consecutive outputs, the low half first, and
the congruential state after them. -/
def seedWord (state : UInt64) : UInt64 × UInt64 :=
  let low := seedStep state
  let high := seedStep low
  ((seedOutput low).toUInt64 ||| ((seedOutput high).toUInt64 <<< 32), high)

/-- The state that a seed stands for: four words drawn one after the other. -/
def ofSeed (seed : UInt64) : Xoshiro :=
  let (s0, state) := seedWord seed
  let (s1, state) := seedWord state
  let (s2, state) := seedWord state
  let (s3, _) := seedWord state
  { s0, s1, s2, s3 }

end Xoshiro
end GraphFixture
