import GraphFixture.Proofs.Generator.Completion
import GraphFixture.Proofs.Session.Walk

/-!
# Sampling ends on sources whose zeros recur

A word may be rejected again and again, but the word zero is accepted under every
bound.  A source that never runs out of zeros, whatever has been drawn from it,
supplies any number of accepted words, so that every step of a session finds the
words that it needs.  A script is followed by zeros from its end on.  A seeded
generator comes back to a state whose output is zero, since it runs through all of
its states.
-/

namespace GraphFixture

namespace WordSource

variable {Source : Type} [WordSource Source]

/-- However many words are drawn, the word zero is still to come. -/
def ZeroRecurs (source : Source) : Prop :=
  ∀ count, ∃ ahead, count ≤ ahead ∧ wordAt source ahead = 0

theorem ZeroRecurs.advance {source : Source} (recurs : ZeroRecurs source) (length : Nat) :
    ZeroRecurs (WordSource.advance length source) := by
  intro count
  obtain ⟨ahead, later, isZero⟩ := recurs (length + count)
  have past : length ≤ ahead := Nat.le_of_add_right_le later
  refine ⟨ahead - length, Nat.le_sub_of_add_le' later, ?_⟩
  rw [wordAt_advance, Nat.add_sub_of_le past]
  exact isZero

end WordSource

/-- From every state but zero the zeros of the seeded generator recur. -/
theorem Xoshiro.zeroRecurs {state : Xoshiro} (nonzero : state ≠ 0) :
    WordSource.ZeroRecurs state := by
  intro count
  obtain ⟨ahead, _, isZero⟩ := exists_wordAt_eq_zero (advance_ne_zero nonzero count)
  rw [WordSource.wordAt_advance] at isZero
  exact ⟨count + ahead, Nat.le_add_right count ahead, isZero⟩

namespace Bounded

theorem one_le_length_numbers_first {Source : Type} [WordSource Source] {bound : UInt64}
    {ahead : Nat} {source : Source}
    (accepted : accepts bound (WordSource.wordAt source ahead) = true) :
    1 ≤ (numbers bound (WordSource.first (ahead + 1) source)).length := by
  have last : numbers bound (WordSource.first 1 (WordSource.advance ahead source)) =
      [scale bound (WordSource.wordAt source ahead)] :=
    numbers_cons_of_accepts [] accepted
  rw [WordSource.first_add, numbers_append, last, List.length_append]
  exact Nat.le_add_left 1 _

/-- Recurring zeros are enough accepted words for any number of draws. -/
theorem supplies_of_zeroRecurs {Source : Type} [WordSource Source] {source : Source}
    (recurs : WordSource.ZeroRecurs source) (bound : UInt64) (count : Nat) :
    Supplies bound count source := by
  induction count generalizing source with
  | zero => exact ⟨0, Nat.zero_le _⟩
  | succ count inductionHypothesis =>
      obtain ⟨ahead, _, isZero⟩ := recurs 0
      have first := one_le_length_numbers_first (isZero ▸ accepts_zero bound)
      obtain ⟨length, later⟩ := inductionHypothesis (recurs.advance (ahead + 1))
      refine ⟨ahead + 1 + length, ?_⟩
      rw [WordSource.first_add, numbers_append, List.length_append, Nat.add_comm count 1]
      exact Nat.add_le_add first later

/-- Right after a script every further word is accepted. -/
theorem le_length_numbers_script (bound : UInt64) (words : List UInt64) (count : Nat) :
    count ≤ (numbers bound
      (WordSource.first (words.length + count) (Script.mk words))).length := by
  have zeros : (numbers bound (List.replicate count 0)).length = count := by
    simp [numbers, accepts_zero]
  rw [WordSource.first_add, Script.first_length, Script.advance_length, Script.first_of_nil,
    numbers_append, List.length_append, zeros]
  exact Nat.le_add_left count _

end Bounded

/-- Where enough words are accepted, a fixture is drawn and no further word is used. -/
theorem Generator.exists_drawFixture_of_le {Source : Type} [WordSource Source]
    (generator : Generator) (fits : Fixture.fits generator.nodeCount = true)
    (seed : Option UInt64) {patience length : Nat} {source : Source} (patient : length ≤ patience)
    (enough : Fixture.childCount generator.nodeCount ≤
      (Bounded.numbers generator.nodeCount (WordSource.first length source)).length) :
    ∃ fixture, ∃ used ≤ length, generator.drawFixture seed patience source =
      .ok (fixture, WordSource.advance used source) := by
  obtain ⟨used, within, spans⟩ := Bounded.exists_spans_of_le enough
  exact ⟨_, used, within,
    generator.drawFixture_of_spans fits seed (Nat.le_trans within patient) spans⟩

namespace Session

/-- If a step asks for a fixture, then for one that has nodes and fits. -/
def Step.Answerable (step : Step) : Prop :=
  step.Fits ∧ step.nodeCount? ≠ some 0

instance : DecidablePred Step.Answerable := fun step =>
  inferInstanceAs (Decidable (step.Fits ∧ step.nodeCount? ≠ some 0))

variable {Source : Type} [WordSource Source]

/-- A walk answers every step, and none with a failure. -/
theorem Walks.answers {steps : List Step} {source : Source}
    {outcomes : List (Reply × Source)} (walks : Walks steps source outcomes)
    (answerable : ∀ step ∈ steps, step.Answerable) :
    outcomes.length = steps.length ∧
      ∀ outcome ∈ outcomes, ∀ error, outcome.1 ≠ .failure error := by
  induction walks with
  | nil => exact ⟨rfl, by simp⟩
  | @cons step steps _ _ _ _ taken _ inductionHypothesis =>
      obtain ⟨sameLength, settled⟩ := inductionHypothesis fun other member =>
        answerable other (List.mem_cons_of_mem step member)
      refine ⟨congrArg Nat.succ sameLength, ?_⟩
      rw [List.forall_mem_cons]
      refine ⟨fun error failed => ?_, settled⟩
      exact (answerable step List.mem_cons_self).2 (taken.refused_of_failure failed).1

/-- Recurring zeros let a walk go through any session. -/
theorem exists_walks_of_zeroRecurs (steps : List Step) {source : Source}
    (recurs : WordSource.ZeroRecurs source) : ∃ outcomes, Walks steps source outcomes := by
  induction steps generalizing source with
  | nil => exact ⟨[], .nil source⟩
  | cons step steps inductionHypothesis =>
      have supplied : step.Supplied source := fun nodeCount _ _ =>
        Bounded.supplies_of_zeroRecurs recurs nodeCount (Fixture.childCount nodeCount)
      obtain ⟨reply, length, taken⟩ := exists_takes_iff_supplied.mpr supplied
      obtain ⟨outcomes, later⟩ := inductionHypothesis (recurs.advance length)
      exact ⟨_, .cons taken later⟩

/-- Sampling ends.  On a source whose zeros recur every session completes, and every
step gets what it asks for.  After a script at most as many further words are drawn
as there are children.  From every seed a generator samples a fixture. -/
theorem sampling_completes :
    (∀ (Source : Type) [WordSource Source] (source : Source), WordSource.ZeroRecurs source →
      ∀ steps : List Step, (∀ step ∈ steps, step.Answerable) →
        ∃ outcomes, Completes steps source outcomes ∧ outcomes.length = steps.length ∧
          ∀ outcome ∈ outcomes, ∀ error, outcome.1 ≠ .failure error) ∧
    ∀ generator : Generator, Fixture.fits generator.nodeCount = true →
      (∀ words patience, words.length + Fixture.childCount generator.nodeCount ≤ patience →
        ∃ fixture rest,
          generator.sampleWith patience (Metered.start (Script.mk words)) = .ok (fixture, rest) ∧
            rest.drawn ≤ words.length + Fixture.childCount generator.nodeCount) ∧
      ∀ (entropy : Except String UInt64) (seed : UInt64),
        generator.seed.or entropy.toOption = some seed →
          ∃ fixture, generator.sample entropy = .ok fixture := by
  refine ⟨?_, fun generator fits => ⟨?_, ?_⟩⟩
  · intro Source _ source recurs steps answerable
    have fits : ∀ step ∈ steps, step.Fits := fun step member => (answerable step member).1
    obtain ⟨outcomes, walks⟩ := exists_walks_of_zeroRecurs steps recurs
    exact ⟨outcomes, walks.completes fits, walks.answers answerable⟩
  · intro words patience patient
    have enough := Bounded.le_length_numbers_script generator.nodeCount words
      (Fixture.childCount generator.nodeCount)
    rw [← Metered.first_start] at enough
    obtain ⟨fixture, used, within, sampled⟩ :=
      generator.exists_drawFixture_of_le fits none patient enough
    refine ⟨fixture, _, sampled, ?_⟩
    rw [Metered.drawn_advance_start]
    exact within
  · intro entropy seed used
    exact generator.exists_sample fits used

/-- A session on the source of a seed completes, and so do samplings from a script
with a rejected word and from a seed. -/
theorem sampling_completes_seven :
    let steps : List Step := [.sample 3, .word, .sampleByHandle 1, .render 2 .expanded]
    let generator : Generator := ⟨1, some 7, by decide⟩
    (∃ outcomes, Completes steps (Xoshiro.ofSeed 7) outcomes ∧ outcomes.length = 4) ∧
      (∃ fixture rest,
        generator.sampleWith 9 (Metered.start (Script.mk [0x8000000000000000])) =
          .ok (fixture, rest) ∧ rest.drawn ≤ 9) ∧
      ∃ fixture, generator.sample (.error "unavailable") = .ok fixture := by
  intro steps generator
  have answerable : ∀ step ∈ steps, step.Answerable := by decide
  have fits : Fixture.fits generator.nodeCount = true := by decide
  obtain ⟨sessions, samples⟩ := sampling_completes
  obtain ⟨outcomes, completes, sameLength, _⟩ := sessions Xoshiro (Xoshiro.ofSeed 7)
    (Xoshiro.zeroRecurs (Xoshiro.ofSeed_ne_zero 7)) steps answerable
  obtain ⟨scripted, seeded⟩ := samples generator fits
  exact ⟨⟨outcomes, completes, sameLength⟩, scripted [0x8000000000000000] 9 (by decide),
    seeded (.error "unavailable") 7 rfl⟩

end Session
end GraphFixture
