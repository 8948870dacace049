import GraphFixture.Random.Source

/-!
# Uniform draws below a bound

A word is turned into a number below a bound by taking the high half of their
double-width product.  Words whose low half exceeds the zone of the bound are
thrown away, so that every number below the bound comes from equally many
words.  The search for an accepted word gives up after a stated number of
words, its patience; a longer patience never changes an answer.
-/

namespace GraphFixture
namespace Bounded

/-- The number of zero bits above the highest one bit of a positive word. -/
def leadingZeros (bound : UInt64) : UInt64 :=
  63 - bound.log2

/-- The greatest low half that is accepted under a bound. -/
def zone (bound : UInt64) : UInt64 :=
  (bound <<< leadingZeros bound) - 1

/-- Acceptance of a word under a bound: the low half of the product lies in
the zone. -/
def accepts (bound word : UInt64) : Bool :=
  word * bound ≤ zone bound

/-- The number that a word stands for: the high half of the product. -/
def scale (bound word : UInt64) : UInt64 :=
  UInt64.ofNat (word.toNat * bound.toNat / UInt64.size)

theorem toNat_pos {bound : UInt64} (nonzero : bound ≠ 0) : 0 < bound.toNat := by
  rw [Nat.pos_iff_ne_zero]
  intro zero
  exact nonzero (UInt64.toNat_inj.mp zero)

theorem one_le_iff_ne_zero {bound : UInt64} : 1 ≤ bound ↔ bound ≠ 0 :=
  UInt64.not_lt.symm.trans (not_congr UInt64.lt_one_iff)

/-- The high half of a product is below either factor, so no bit of it is lost. -/
theorem toNat_scale {bound : UInt64} (nonzero : bound ≠ 0) (word : UInt64) :
    (scale bound word).toNat = word.toNat * bound.toNat / UInt64.size ∧
      (scale bound word).toNat < bound.toNat := by
  have small : word.toNat * bound.toNat / UInt64.size < bound.toNat := by
    rw [Nat.div_lt_iff_lt_mul (by decide), Nat.mul_comm]
    exact Nat.mul_lt_mul_of_pos_left word.toNat_lt (toNat_pos nonzero)
  have value : (scale bound word).toNat = word.toNat * bound.toNat / UInt64.size := by
    rw [scale, UInt64.toNat_ofNat']
    exact Nat.mod_eq_of_lt (Nat.lt_trans small bound.toNat_lt)
  exact ⟨value, value ▸ small⟩

/-- Every word stands for a number below the bound. -/
theorem scale_lt {bound : UInt64} (nonzero : bound ≠ 0) (word : UInt64) :
    scale bound word < bound :=
  UInt64.lt_iff_toNat_lt.mpr (toNat_scale nonzero word).2

variable {Source : Type} [WordSource Source]

/-- Draw words until one is accepted, at most as many as the patience. -/
def draw (bound : UInt64) : (patience : Nat) → Source → Option (UInt64 × Source)
  | 0, _ => none
  | patience + 1, source =>
      let (word, rest) := WordSource.draw source
      if accepts bound word then
        some (scale bound word, rest)
      else
        draw bound patience rest

@[simp] theorem draw_zero (bound : UInt64) (source : Source) :
    draw bound 0 source = none :=
  rfl

/-- An accepted word is used up and gives its number. -/
theorem draw_of_accepts {bound : UInt64} {source : Source} (patience : Nat)
    (accepted : accepts bound (WordSource.draw source).1 = true) :
    draw bound (patience + 1) source =
      some (scale bound (WordSource.draw source).1, (WordSource.draw source).2) := by
  simp [draw, accepted]

/-- A rejected word is used up and the search goes on. -/
theorem draw_of_rejects {bound : UInt64} {source : Source} (patience : Nat)
    (rejected : accepts bound (WordSource.draw source).1 = false) :
    draw bound (patience + 1) source =
      draw bound patience (WordSource.draw source).2 := by
  simp [draw, rejected]

/-- A longer patience leaves a found number as it is. -/
theorem draw_of_le {bound : UInt64} {patience longer : Nat} {source : Source}
    {outcome : UInt64 × Source} (atMost : patience ≤ longer)
    (drawn : draw bound patience source = some outcome) :
    draw bound longer source = some outcome := by
  induction patience generalizing longer source with
  | zero => simp at drawn
  | succ patience inductionHypothesis =>
      obtain ⟨longer, rfl⟩ : ∃ less, longer = less + 1 :=
        ⟨longer - 1, (Nat.sub_add_cancel (Nat.le_trans (Nat.succ_pos patience) atMost)).symm⟩
      cases decision : accepts bound (WordSource.draw source).1 with
      | true =>
          rw [draw_of_accepts patience decision] at drawn
          rw [draw_of_accepts longer decision, drawn]
      | false =>
          rw [draw_of_rejects patience decision] at drawn
          rw [draw_of_rejects longer decision]
          exact inductionHypothesis (Nat.le_of_succ_le_succ atMost) drawn

end Bounded
end GraphFixture
