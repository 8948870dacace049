import GraphFixture.Proofs.Generator.Drawing
import GraphFixture.Proofs.Random.Uniformity

/-!
# Targets are jointly uniform

The word lists that a fixture uses up are counted by their first word: it is
either accepted, and stands for the first target, or rejected.  Since every
target has equally many words, the count depends on the number of targets and
of words alone, not on the targets.
-/

namespace GraphFixture

namespace Bounded

variable {bound : UInt64}

/-- The spans of a length whose accepted words give the numbers of a row. -/
def spansOf (bound : UInt64) (row : List UInt64) (length : Nat) :
    Set (List UInt64) :=
  {words | words.length = length ∧ numbers bound words = row ∧
    EndsAccepted bound words}

/-- The words that are thrown away under a bound. -/
def rejectedWords (bound : UInt64) : Set UInt64 :=
  {word | accepts bound word = false}

/-- Some words put in front of some lists make as many lists as there are
pairs. -/
theorem encard_image2_cons (heads : Set UInt64) (tails : Set (List UInt64)) :
    (Set.image2 List.cons heads tails).encard = heads.encard * tails.encard := by
  have injective : Function.Injective fun pair : UInt64 × List UInt64 =>
      pair.1 :: pair.2 := by
    intro left right equal
    obtain ⟨sameHead, sameTail⟩ := List.cons.inj equal
    exact Prod.ext sameHead sameTail
  rw [← Set.image_prod, injective.encard_image, Set.encard_prod]

theorem spansOf_zero_of_nil : spansOf bound [] 0 = {[]} := by
  ext words
  rw [spansOf, Set.mem_ofPred_eq, Set.mem_singleton_iff, List.length_eq_zero_iff]
  constructor
  · rintro ⟨empty, _⟩
    exact empty
  · rintro rfl
    exact ⟨rfl, rfl, endsAccepted_nil bound⟩

theorem spansOf_zero_of_cons (number : UInt64) (row : List UInt64) :
    spansOf bound (number :: row) 0 = ∅ := by
  rw [Set.eq_empty_iff_forall_notMem]
  rintro words ⟨empty, numbers_eq, _⟩
  rw [List.length_eq_zero_iff.mp empty, numbers_nil] at numbers_eq
  exact absurd numbers_eq (by simp)

theorem spansOf_succ_of_nil (length : Nat) :
    spansOf bound [] (length + 1) = ∅ := by
  rw [Set.eq_empty_iff_forall_notMem]
  rintro words ⟨longer, numbers_eq, ends⟩
  cases words with
  | nil => simp at longer
  | cons word words =>
      cases decision : accepts bound word with
      | true => simp [numbers_cons_of_accepts words decision] at numbers_eq
      | false =>
          rw [numbers_cons_of_rejects words decision] at numbers_eq
          exact ((endsAccepted_cons_of_rejects decision).mp ends).2 numbers_eq

/-- A span starts with an accepted word of its first number or with a rejected
word. -/
theorem spansOf_succ_of_cons (number : UInt64) (row : List UInt64)
    (length : Nat) :
    spansOf bound (number :: row) (length + 1) =
      Set.image2 List.cons (wordsOf bound number) (spansOf bound row length) ∪
        Set.image2 List.cons (rejectedWords bound)
          (spansOf bound (number :: row) length) := by
  ext words
  rw [Set.mem_union, Set.mem_image2, Set.mem_image2]
  constructor
  · rintro ⟨longer, numbers_eq, ends⟩
    cases words with
    | nil => simp at longer
    | cons word words =>
        have shorter := Nat.succ.inj longer
        cases decision : accepts bound word with
        | true =>
            rw [numbers_cons_of_accepts words decision] at numbers_eq
            obtain ⟨first, others⟩ := List.cons.inj numbers_eq
            have endsLater := (endsAccepted_cons_of_accepts decision).mp ends
            exact Or.inl ⟨word, ⟨decision, first⟩, words,
              ⟨shorter, others, endsLater⟩, rfl⟩
        | false =>
            rw [numbers_cons_of_rejects words decision] at numbers_eq
            have endsLater := ((endsAccepted_cons_of_rejects decision).mp ends).1
            exact Or.inr ⟨word, decision, words,
              ⟨shorter, numbers_eq, endsLater⟩, rfl⟩
  · rintro (⟨word, ⟨accepted, rfl⟩, words, ⟨rfl, rfl, ends⟩, rfl⟩ |
      ⟨word, rejected, words, ⟨rfl, numbers_eq, ends⟩, rfl⟩)
    · exact ⟨rfl, numbers_cons_of_accepts words accepted,
        (endsAccepted_cons_of_accepts accepted).mpr ends⟩
    · refine ⟨rfl, ?_, (endsAccepted_cons_of_rejects rejected).mpr ⟨ends, ?_⟩⟩
      · rw [numbers_cons_of_rejects words rejected, numbers_eq]
      · rw [numbers_eq]
        exact List.cons_ne_nil number row

/-- The number of spans, when every number has equally many accepted words. -/
def spanCount (each rejected : ℕ∞) : (count length : Nat) → ℕ∞
  | 0, 0 => 1
  | 0, _ + 1 => 0
  | _ + 1, 0 => 0
  | count + 1, length + 1 =>
      each * spanCount each rejected count length +
        rejected * spanCount each rejected (count + 1) length

/-- The number of spans depends on the length of the row alone. -/
theorem encard_spansOf {row : List UInt64} (below : ∀ number ∈ row, number < bound)
    (length : Nat) :
    (spansOf bound row length).encard =
      spanCount (2 ^ (leadingZeros bound).toNat) (rejectedWords bound).encard
        row.length length := by
  induction length generalizing row with
  | zero =>
      cases row with
      | nil =>
          rw [spansOf_zero_of_nil, Set.encard_singleton]
          rfl
      | cons number row =>
          rw [spansOf_zero_of_cons, Set.encard_empty]
          rfl
  | succ length inductionHypothesis =>
      cases row with
      | nil =>
          rw [spansOf_succ_of_nil, Set.encard_empty]
          rfl
      | cons number row =>
          have belowLater : ∀ other ∈ row, other < bound := fun other member =>
            below other (List.mem_cons_of_mem number member)
          have apart : Disjoint
              (Set.image2 List.cons (wordsOf bound number) (spansOf bound row length))
              (Set.image2 List.cons (rejectedWords bound)
                (spansOf bound (number :: row) length)) := by
            rw [Set.disjoint_left]
            rintro _ ⟨word, ⟨accepted, _⟩, words, _, rfl⟩ ⟨other, rejected, _, _, equal⟩
            rw [(List.cons.inj equal).1, rejectedWords, Set.mem_ofPred_eq,
              accepted] at rejected
            exact absurd rejected (by decide)
          rw [spansOf_succ_of_cons, Set.encard_union_eq apart, encard_image2_cons,
            encard_image2_cons, encard_wordsOf (below number List.mem_cons_self),
            inductionHypothesis belowLater, inductionHypothesis below]
          rfl

theorem spanCount_of_lt (each rejected : ℕ∞) {count length : Nat}
    (fewer : length < count) : spanCount each rejected count length = 0 := by
  induction length generalizing count with
  | zero =>
      cases count with
      | zero => exact absurd fewer (Nat.lt_irrefl 0)
      | succ count => rfl
  | succ length inductionHypothesis =>
      cases count with
      | zero => exact absurd fewer (Nat.not_lt_zero _)
      | succ count =>
          rw [spanCount, inductionHypothesis (Nat.lt_of_succ_lt_succ fewer),
            inductionHypothesis (Nat.lt_of_succ_lt fewer), mul_zero, mul_zero,
            add_zero]

/-- Without rejected words every number has its own choice. -/
theorem spanCount_self (each rejected : ℕ∞) (count : Nat) :
    spanCount each rejected count count = each ^ count := by
  induction count with
  | zero => exact (pow_zero each).symm
  | succ count inductionHypothesis =>
      rw [spanCount, inductionHypothesis, spanCount_of_lt each rejected count.lt_succ_self,
        mul_zero, add_zero, pow_succ']

end Bounded

/-! ## Runs of a generator -/

namespace Generator

/-- The word lists of a length that a generator uses up to the last word, and
no further, while it samples a fixture with the given targets. -/
def exactRuns (generator : Generator) (targets : List UInt64) (length : Nat) :
    Set (List UInt64) :=
  {words | words.length = length ∧ ∃ patience fixture rest,
    generator.sampleWith patience (Metered.start (Script.mk words)) =
      .ok (fixture, rest) ∧
    rest.drawn = length ∧ fixture.targets = targets}

/-- The exact runs of a generator are the spans that give the targets. -/
theorem exactRuns_eq_spansOf (generator : Generator)
    (fits : Fixture.fits generator.nodeCount = true) {targets : List UInt64}
    (full : targets.length = Fixture.childCount generator.nodeCount)
    (length : Nat) :
    generator.exactRuns targets length =
      Bounded.spansOf generator.nodeCount targets length := by
  have first_eq (words : List UInt64) :
      WordSource.first words.length (Metered.start (Script.mk words)) = words := by
    rw [Metered.first_start, Script.first_length]
  ext words
  constructor
  · rintro ⟨rfl, patience, fixture, rest, sampled, drawn, rfl⟩
    obtain ⟨length, spans, fixture_eq, rest_eq⟩ := exists_spans_of_drawFixture sampled
    have sameLength : length = words.length := by
      rw [← drawn, rest_eq, Metered.drawn_advance_start]
    rw [sameLength, first_eq] at spans fixture_eq
    refine ⟨rfl, ?_, spans.endsAccepted⟩
    rw [fixture_eq, Fixture.targets_ofTargets_of_length spans.length_numbers]
  · rintro ⟨rfl, numbers_eq, ends⟩
    have spans : Bounded.Spans generator.nodeCount
        (Fixture.childCount generator.nodeCount)
        (WordSource.first words.length (Metered.start (Script.mk words))) := by
      rw [first_eq]
      exact ⟨numbers_eq ▸ full, ends⟩
    have sampled := generator.drawFixture_of_spans fits none
      (Nat.le_refl words.length) spans
    rw [first_eq, numbers_eq] at sampled
    exact ⟨rfl, words.length, _, _, sampled, Metered.drawn_advance_start _ _,
      Fixture.targets_ofTargets_of_length full none⟩

/-- A row of targets that a fixture may have: one for each child, all of them
below the node count. -/
def IsTargetRow (generator : Generator) (targets : List UInt64) : Prop :=
  targets.length = Fixture.childCount generator.nodeCount ∧
    ∀ target ∈ targets, target < generator.nodeCount

theorem encard_exactRuns {generator : Generator}
    (fits : Fixture.fits generator.nodeCount = true) {targets : List UInt64}
    (row : generator.IsTargetRow targets) (length : Nat) :
    (generator.exactRuns targets length).encard =
      Bounded.spanCount (2 ^ (Bounded.leadingZeros generator.nodeCount).toNat)
        (Bounded.rejectedWords generator.nodeCount).encard
        (Fixture.childCount generator.nodeCount) length := by
  rw [exactRuns_eq_spansOf generator fits row.1, Bounded.encard_spansOf row.2, row.1]

/-- All rows of targets are equally likely.  For every number of words, as many
word lists lead to one row as to any other; without rejected words every target
has the same number of words to itself, a power of two, and at least half of
all words are accepted.  The zone of acceptance is computed without wrapping. -/
theorem targets_jointly_uniform (generator : Generator)
    (fits : Fixture.fits generator.nodeCount = true) :
    (∀ targets others, generator.IsTargetRow targets →
      generator.IsTargetRow others → ∀ length,
        (generator.exactRuns targets length).encard =
          (generator.exactRuns others length).encard) ∧
    (∀ targets, generator.IsTargetRow targets →
      (generator.exactRuns targets
        (Fixture.childCount generator.nodeCount)).encard =
          2 ^ (Fixture.childCount generator.nodeCount *
            (Bounded.leadingZeros generator.nodeCount).toNat) ∧
      (generator.exactRuns targets
        (Fixture.childCount generator.nodeCount)).Nonempty) ∧
    (∀ target < generator.nodeCount,
      {word | Bounded.accepts generator.nodeCount word = true ∧
        Bounded.scale generator.nodeCount word = target}.encard =
          2 ^ (Bounded.leadingZeros generator.nodeCount).toNat) ∧
    2 ^ 63 ≤ {word | Bounded.accepts generator.nodeCount word = true}.encard ∧
    generator.nodeCount.toNat *
      2 ^ (Bounded.leadingZeros generator.nodeCount).toNat < 2 ^ 64 ∧
    (Bounded.zone generator.nodeCount).toNat =
      generator.nodeCount.toNat *
        2 ^ (Bounded.leadingZeros generator.nodeCount).toNat - 1 := by
  have nonzero := generator.nodeCount_ne_zero
  obtain ⟨lower, upper⟩ := Bounded.window_bounds nonzero
  refine ⟨?_, ?_, ?_, ?_, upper, Bounded.toNat_zone nonzero⟩
  · intro targets others row otherRow length
    rw [encard_exactRuns fits row, encard_exactRuns fits otherRow]
  · intro targets row
    have count := encard_exactRuns fits row (Fixture.childCount generator.nodeCount)
    rw [Bounded.spanCount_self, ← pow_mul, Nat.mul_comm] at count
    refine ⟨count, ?_⟩
    rw [← Set.encard_ne_zero, count]
    exact pow_ne_zero _ two_ne_zero
  · intro target below
    exact Bounded.encard_wordsOf below
  · rw [Bounded.encard_accepts nonzero]
    exact_mod_cast lower

/-- With three nodes every word list without rejected words that leads to a
given row is one of a power of two. -/
theorem targets_jointly_uniform_three :
    Fixture.fits 3 = true ∧
      ((Generator.mk 3 none (by decide)).exactRuns
        (List.replicate 16 2) 16).encard = 2 ^ (16 * 62) := by
  have row : (Generator.mk 3 none (by decide)).IsTargetRow (List.replicate 16 2) := by
    refine ⟨by decide, ?_⟩
    intro target member
    rw [List.eq_of_mem_replicate member]
    decide
  have fits : Fixture.fits 3 = true := by decide
  have uniform := targets_jointly_uniform ⟨3, none, by decide⟩ fits
  exact ⟨fits, (uniform.2.1 _ row).1⟩

end Generator
end GraphFixture
