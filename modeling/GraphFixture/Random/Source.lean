/-!
# Sources of random words

A word source is a state from which 64-bit words are drawn one at a time.  Seen
as a whole it is an infinite sequence of words; drawing takes the first one
off.  Besides the generic interface this module holds the sources whose words
are written down by hand, a meter that counts draws, and a handle through which
a source is drawn from without its kind being known.
-/

namespace GraphFixture

/-- A source of random 64-bit words: each draw gives one word and the source
that is left. -/
class WordSource (Source : Type) where
  draw : Source → UInt64 × Source

namespace WordSource

variable {Source : Type} [WordSource Source]

/-- The source that is left after a number of draws. -/
def advance : Nat → Source → Source
  | 0, source => source
  | count + 1, source => advance count (draw source).2

/-- The word that the draw at a position gives. -/
def wordAt (source : Source) (position : Nat) : UInt64 :=
  (draw (advance position source)).1

@[simp] theorem advance_zero (source : Source) : advance 0 source = source :=
  rfl

@[simp] theorem advance_succ (count : Nat) (source : Source) :
    advance (count + 1) source = advance count (draw source).2 :=
  rfl

/-- Drawing in two rounds leaves what drawing in one round leaves. -/
theorem advance_add (first second : Nat) (source : Source) :
    advance (first + second) source = advance second (advance first source) := by
  induction first generalizing source with
  | zero => simp
  | succ first inductionHypothesis =>
      rw [Nat.succ_add, advance_succ, inductionHypothesis, advance_succ]

theorem wordAt_advance (count position : Nat) (source : Source) :
    wordAt (advance count source) position = wordAt source (count + position) := by
  unfold wordAt
  rw [advance_add]

end WordSource

/-! ## Written words -/

/-- A finite script of words, after which every word is zero. -/
structure Script where
  words : List UInt64
  deriving DecidableEq, Repr, Inhabited

namespace Script

/-- A script draws its words and then zeros for ever. -/
instance : WordSource Script where
  draw
    | ⟨[]⟩ => (0, ⟨[]⟩)
    | ⟨word :: words⟩ => (word, ⟨words⟩)

end Script

/-- The words of an arithmetic progression, modulo the size of a word. -/
structure Progression where
  next : UInt64
  step : UInt64
  deriving DecidableEq, Repr, Inhabited

/-- A progression draws its next word and moves on by its step. -/
instance : WordSource Progression where
  draw progression :=
    (progression.next, { progression with next := progression.next + progression.step })

/-! ## Counting draws -/

/-- A source together with the number of words drawn from it so far. -/
structure Metered (Source : Type) where
  source : Source
  drawn : Nat
  deriving DecidableEq, Repr

namespace Metered

variable {Source : Type} [WordSource Source]

/-- A source from which nothing has been drawn yet. -/
def start (source : Source) : Metered Source :=
  ⟨source, 0⟩

/-- A metered source draws as before and counts. -/
instance : WordSource (Metered Source) where
  draw metered :=
    let (word, source) := WordSource.draw metered.source
    (word, ⟨source, metered.drawn + 1⟩)

end Metered

/-! ## Handles -/

/-- A source behind a handle.  How a word is drawn is a value that the handle
carries along, not something known from the kind of the source. -/
structure Handle (Source : Type) where
  take : Source → UInt64 × Source
  source : Source

namespace Handle

variable {Source : Type}

/-- A handle draws from the source behind it. -/
instance : WordSource (Handle Source) where
  draw handle :=
    let (word, source) := handle.take handle.source
    (word, { handle with source })

/-- The handle of a source. -/
def of [WordSource Source] (source : Source) : Handle Source :=
  ⟨WordSource.draw, source⟩

end Handle
end GraphFixture
