import GraphFixture.Proofs.Generator.Drawing
import GraphFixture.Proofs.Random.Period
import GraphFixture.Proofs.Random.Seeding

/-!
# Sampling from a seed completes

A draw ends as soon as an accepted word comes.  The word zero is accepted under
every bound.  No seed gives the zero state, and from any other state the
generator runs through all of them, also through one whose output is zero.  So
every draw ends before the states are used up, and with it the sampling of a
fixture from a seed.
-/

namespace GraphFixture

namespace Bounded

theorem accepts_zero (bound : UInt64) : accepts bound 0 = true := by
  rw [accepts, UInt64.zero_mul]
  exact decide_eq_true UInt64.zero_le

variable {Source : Type} [WordSource Source]

/-- An accepted word ahead, within the patience, ends a draw there or earlier. -/
theorem exists_draw_of_accepts_wordAt {bound : UInt64} {ahead patience : Nat} {source : Source}
    (enough : ahead < patience)
    (accepted : accepts bound (WordSource.wordAt source ahead) = true) :
    ∃ number used,
      draw bound patience source = some (number, WordSource.advance used source) := by
  induction ahead generalizing patience source with
  | zero =>
      obtain ⟨less, rfl⟩ := Nat.exists_eq_succ_of_ne_zero (Nat.ne_of_gt enough)
      exact ⟨_, 1, draw_of_accepts less accepted⟩
  | succ ahead inductionHypothesis =>
      obtain ⟨less, rfl⟩ := Nat.exists_eq_succ_of_ne_zero (Nat.ne_of_gt (Nat.zero_lt_of_lt enough))
      cases decision : accepts bound (WordSource.draw source).1 with
      | true => exact ⟨_, 1, draw_of_accepts less decision⟩
      | false =>
          have acceptedLater : accepts bound
              (WordSource.wordAt (WordSource.draw source).2 ahead) = true := accepted
          obtain ⟨number, used, drawn⟩ :=
            inductionHypothesis (Nat.lt_of_succ_lt_succ enough) acceptedLater
          exact ⟨number, used + 1, (draw_of_rejects less decision).trans drawn⟩

end Bounded

namespace Xoshiro

theorem advance_eq_iterate_step (count : Nat) (state : Xoshiro) :
    WordSource.advance count state = step^[count] state := by
  induction count generalizing state with
  | zero => rfl
  | succ count inductionHypothesis =>
      rw [WordSource.advance_succ, inductionHypothesis]
      rfl

theorem advance_ne_zero {state : Xoshiro} (nonzero : state ≠ 0) (count : Nat) :
    WordSource.advance count state ≠ 0 := by
  obtain ⟨before, _, rfl⟩ := exists_iterate_step_origin nonzero
  rw [advance_eq_iterate_step, ← Function.iterate_add_apply]
  exact iterate_step_ne_zero _

/-- From every state but zero the word zero comes before the states are used up. -/
theorem exists_wordAt_eq_zero {state : Xoshiro} (nonzero : state ≠ 0) :
    ∃ ahead < stateCount, WordSource.wordAt state ahead = 0 := by
  obtain ⟨ahead, early, reached⟩ :=
    exists_iterate_step nonzero (by decide : (⟨0, 1, 0, 0⟩ : Xoshiro) ≠ 0)
  refine ⟨ahead, Nat.lt_trans early (by decide), ?_⟩
  rw [WordSource.wordAt, advance_eq_iterate_step, reached]
  rfl

/-- Any number of draws from a state that is not zero succeeds. -/
theorem exists_drawMany {state : Xoshiro} (nonzero : state ≠ 0) (bound : UInt64) (count : Nat) :
    ∃ outcome, Bounded.drawMany bound stateCount count state = some outcome := by
  induction count generalizing state with
  | zero => exact ⟨_, rfl⟩
  | succ count inductionHypothesis =>
      obtain ⟨ahead, enough, isZero⟩ := exists_wordAt_eq_zero nonzero
      have accepted : Bounded.accepts bound (WordSource.wordAt state ahead) = true :=
        isZero ▸ Bounded.accepts_zero bound
      obtain ⟨number, used, drawn⟩ := Bounded.exists_draw_of_accepts_wordAt enough accepted
      obtain ⟨⟨later, rest⟩, drawnLater⟩ := inductionHypothesis (advance_ne_zero nonzero used)
      exact ⟨(number :: later, rest), Bounded.drawMany_succ_eq_some_iff.mpr
        ⟨_, _, _, drawn, drawnLater, rfl⟩⟩

end Xoshiro

namespace Generator

/-- Every seed gives a fixture whose blocks fit into one list.  Handed in as a
source, the generator of the seed gives the same blocks. -/
theorem exists_sampleSeeded (generator : Generator)
    (fits : Fixture.fits generator.nodeCount = true) (seed : UInt64) :
    ∃ fixture sampled rest, generator.sampleSeeded seed = .ok fixture ∧
      generator.sampleWith Xoshiro.stateCount (Xoshiro.ofSeed seed) = .ok (sampled, rest) ∧
      fixture.blocks = sampled.blocks := by
  obtain ⟨⟨targets, rest⟩, drawn⟩ := Xoshiro.exists_drawMany (Xoshiro.ofSeed_ne_zero seed)
    generator.nodeCount (Fixture.childCount generator.nodeCount)
  refine ⟨Fixture.ofTargets generator.nodeCount (some seed) targets,
    Fixture.ofTargets generator.nodeCount none targets, rest, ?_, ?_, rfl⟩
  · rw [sampleSeeded, drawFixture_eq generator fits, drawn]
    rfl
  · rw [sampleWith, drawFixture_eq generator fits, drawn]

/-- A generator that settles on a seed samples a fixture. -/
theorem exists_sample (generator : Generator)
    (fits : Fixture.fits generator.nodeCount = true) {entropy : Except String UInt64}
    {seed : UInt64} (used : generator.seed.or entropy.toOption = some seed) :
    ∃ fixture, generator.sample entropy = .ok fixture := by
  obtain ⟨fixture, _, _, seeded, _⟩ := generator.exists_sampleSeeded fits seed
  exact ⟨fixture, sample_eq_ok_iff.mpr ⟨seed, used, seeded⟩⟩

end Generator
end GraphFixture
