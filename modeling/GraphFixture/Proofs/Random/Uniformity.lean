import GraphFixture.Random.Bounded
import Mathlib.Data.Set.Card.Arithmetic
import Mathlib.Order.Interval.Set.Nat

/-!
# Every number comes from equally many words

The accepted words of a number are those whose product with the bound falls
into a window at the start of the number's block of the double-width range.
All windows have the same width, a multiple of the bound by a power of two, so
every number has as many accepted words as that power says.
-/

namespace GraphFixture
namespace Bounded

variable {bound : UInt64}

/-! ## The zone -/

theorem toNat_leadingZeros (nonzero : bound ≠ 0) :
    (leadingZeros bound).toNat = 63 - bound.toNat.log2 := by
  have small : bound.toNat.log2 < 64 :=
    (Nat.log2_lt (toNat_pos nonzero).ne').mpr bound.toNat_lt
  have toNat_log2 : bound.log2.toNat = bound.toNat.log2 := rfl
  rw [leadingZeros, UInt64.toNat_sub_of_le, toNat_log2]
  · rfl
  · rw [UInt64.le_iff_toNat_le, toNat_log2]
    exact Nat.le_of_lt_succ small

/-- The width of the window in which the products of accepted words lie. -/
def window (bound : UInt64) : Nat :=
  bound.toNat * 2 ^ (leadingZeros bound).toNat

/-- Shifting a bound by its leading zeros fills the word: its highest bit is
set and none is lost. -/
theorem window_bounds (nonzero : bound ≠ 0) :
    2 ^ 63 ≤ window bound ∧ window bound < 2 ^ 64 := by
  have positive := (toNat_pos nonzero).ne'
  have small : bound.toNat.log2 < 64 :=
    (Nat.log2_lt positive).mpr bound.toNat_lt
  have lower := Nat.log2_self_le positive
  have upper : bound.toNat < 2 ^ (bound.toNat.log2 + 1) := Nat.lt_log2_self
  rw [window, toNat_leadingZeros nonzero]
  constructor
  · calc
      2 ^ 63 = 2 ^ bound.toNat.log2 * 2 ^ (63 - bound.toNat.log2) := by
        rw [← Nat.pow_add]
        congr 1
        omega
      _ ≤ bound.toNat * 2 ^ (63 - bound.toNat.log2) :=
        Nat.mul_le_mul_right _ lower
  · calc
      bound.toNat * 2 ^ (63 - bound.toNat.log2)
          < 2 ^ (bound.toNat.log2 + 1) * 2 ^ (63 - bound.toNat.log2) :=
        Nat.mul_lt_mul_of_pos_right upper (Nat.two_pow_pos _)
      _ = 2 ^ 64 := by
        rw [← Nat.pow_add]
        congr 1
        omega

/-- The zone is computed without wrapping. -/
theorem toNat_zone (nonzero : bound ≠ 0) :
    (zone bound).toNat = window bound - 1 := by
  obtain ⟨lower, upper⟩ := window_bounds nonzero
  have inWord : (leadingZeros bound).toNat % 64 = (leadingZeros bound).toNat := by
    rw [toNat_leadingZeros nonzero]
    omega
  have shifted : (bound <<< leadingZeros bound).toNat = window bound := by
    rw [UInt64.toNat_shiftLeft, inWord, Nat.shiftLeft_eq]
    exact Nat.mod_eq_of_lt upper
  rw [zone, UInt64.toNat_sub_of_le, shifted]
  · rfl
  · rw [UInt64.le_iff_toNat_le, shifted]
    exact Nat.le_trans (by decide) lower

/-! ## The words of a number -/

/-- Acceptance bounds the low half of the product by the width of the window. -/
theorem accepts_iff (nonzero : bound ≠ 0) (word : UInt64) :
    accepts bound word = true ↔
      word.toNat * bound.toNat % 2 ^ 64 < window bound := by
  have positive : 0 < window bound :=
    Nat.lt_of_lt_of_le (by decide) (window_bounds nonzero).1
  rw [accepts, decide_eq_true_iff, UInt64.le_iff_toNat_le, UInt64.toNat_mul,
    toNat_zone nonzero]
  omega

/-- The accepted words that stand for a number. -/
def wordsOf (bound target : UInt64) : Set UInt64 :=
  {word | accepts bound word = true ∧ scale bound word = target}

/-- The least word whose product with the bound reaches the block of a
number. -/
def leastWord (bound target : UInt64) : Nat :=
  (target.toNat * 2 ^ 64 + (bound.toNat - 1)) / bound.toNat

/-- Multiples reach a number exactly from its rounded quotient on. -/
theorem ceiling_le_iff {divisor : Nat} (positive : 0 < divisor)
    (number factor : Nat) :
    (number + (divisor - 1)) / divisor ≤ factor ↔ number ≤ factor * divisor := by
  rw [← Nat.lt_succ_iff, Nat.div_lt_iff_lt_mul positive, Nat.succ_mul]
  omega

/-- The values whose product with the bound lies in the window of a number are
consecutive, as many as the window is wide in multiples of the bound. -/
theorem leastWord_le_and_lt_iff (nonzero : bound ≠ 0) (target : UInt64)
    (value : Nat) :
    leastWord bound target ≤ value ∧
        value < leastWord bound target + 2 ^ (leadingZeros bound).toNat ↔
      target.toNat * 2 ^ 64 ≤ value * bound.toNat ∧
        value * bound.toNat < target.toNat * 2 ^ 64 + window bound := by
  have positive := toNat_pos nonzero
  have reaches := ceiling_le_iff positive (target.toNat * 2 ^ 64)
  rw [leastWord, reaches]
  refine and_congr_right fun _ => ?_
  by_cases low : value < 2 ^ (leadingZeros bound).toNat
  · have product : value * bound.toNat < window bound := by
      rw [window, Nat.mul_comm]
      exact Nat.mul_lt_mul_of_pos_left low positive
    exact ⟨fun _ => Nat.lt_of_lt_of_le product (Nat.le_add_left _ _),
      fun _ => Nat.lt_of_lt_of_le low (Nat.le_add_left _ _)⟩
  -- Otherwise the value lies a power of two above one that falls short.
  · have split : value * bound.toNat =
        (value - 2 ^ (leadingZeros bound).toNat) * bound.toNat + window bound := by
      rw [window, Nat.mul_comm bound.toNat, ← Nat.add_mul]
      congr 1
      omega
    have below := not_congr (reaches (value - 2 ^ (leadingZeros bound).toNat))
    rw [Nat.not_le, Nat.not_le] at below
    rw [split, Nat.add_lt_add_iff_right, ← below]
    omega

/-- The accepted words of a number are the values of its window. -/
theorem mem_wordsOf_iff (nonzero : bound ≠ 0) (target word : UInt64) :
    word ∈ wordsOf bound target ↔
      leastWord bound target ≤ word.toNat ∧
        word.toNat < leastWord bound target + 2 ^ (leadingZeros bound).toNat := by
  have upper := (window_bounds nonzero).2
  rw [leastWord_le_and_lt_iff nonzero, wordsOf, Set.mem_ofPred_eq,
    accepts_iff nonzero, ← UInt64.toNat_inj, (toNat_scale nonzero word).1,
    UInt64.size]
  omega

/-- Every number below the bound comes from the same number of words. -/
theorem encard_wordsOf {target : UInt64} (below : target < bound) :
    (wordsOf bound target).encard = 2 ^ (leadingZeros bound).toNat := by
  have nonzero : bound ≠ 0 := by
    rintro rfl
    exact absurd below UInt64.not_lt_zero
  have image : UInt64.toNat '' wordsOf bound target =
      Set.Ico (leastWord bound target)
        (leastWord bound target + 2 ^ (leadingZeros bound).toNat) := by
    ext value
    constructor
    · rintro ⟨word, member, rfl⟩
      exact (mem_wordsOf_iff nonzero target word).mp member
    · intro inWindow
      -- The window of the last number still ends within the words.
      have inWords : value < 2 ^ 64 := by
        have product := ((leastWord_le_and_lt_iff nonzero target value).mp inWindow).2
        have upper := (window_bounds nonzero).2
        have blocks : (target.toNat + 1) * 2 ^ 64 ≤ bound.toNat * 2 ^ 64 :=
          Nat.mul_le_mul_right _ (UInt64.lt_iff_toNat_lt.mp below)
        apply Nat.lt_of_mul_lt_mul_right (a := bound.toNat)
        omega
      refine ⟨UInt64.ofNat value, ?_, UInt64.toNat_ofNat_of_lt' inWords⟩
      rw [mem_wordsOf_iff nonzero, UInt64.toNat_ofNat_of_lt' inWords]
      exact inWindow
  have injective : Function.Injective UInt64.toNat := fun _ _ equal =>
    UInt64.toNat_inj.mp equal
  rw [← injective.encard_image, image, ← (Set.finite_Ico _ _).cast_ncard_eq,
    Set.ncard_Ico_nat, Nat.add_sub_cancel_left, Nat.cast_pow, Nat.cast_ofNat]

/-- As many words are accepted as the window is wide. -/
theorem encard_accepts (nonzero : bound ≠ 0) :
    {word | accepts bound word = true}.encard = window bound := by
  have cover : {word | accepts bound word = true} =
      ⋃ target : Fin bound.toNat, wordsOf bound (UInt64.ofNat target) := by
    ext word
    rw [Set.mem_iUnion]
    constructor
    · intro accepted
      exact ⟨⟨_, (toNat_scale nonzero word).2⟩, accepted, by simp⟩
    · rintro ⟨target, accepted, _⟩
      exact accepted
  have apart : Pairwise (Function.onFun Disjoint fun target : Fin bound.toNat =>
      wordsOf bound (UInt64.ofNat target)) := by
    intro left right different
    rw [Function.onFun, Set.disjoint_left]
    rintro word ⟨_, isLeft⟩ ⟨_, isRight⟩
    apply different
    apply Fin.ext
    have equal := congrArg UInt64.toNat (isLeft.symm.trans isRight)
    rwa [UInt64.toNat_ofNat_of_lt' (Nat.lt_trans left.isLt bound.toNat_lt),
      UInt64.toNat_ofNat_of_lt' (Nat.lt_trans right.isLt bound.toNat_lt)] at equal
  have each (target : Fin bound.toNat) :
      (wordsOf bound (UInt64.ofNat target)).encard =
        2 ^ (leadingZeros bound).toNat := by
    apply encard_wordsOf
    rw [UInt64.lt_iff_toNat_lt,
      UInt64.toNat_ofNat_of_lt' (Nat.lt_trans target.isLt bound.toNat_lt)]
    exact target.isLt
  rw [cover, Set.encard_iUnion_of_finite apart, finsum_congr each,
    finsum_eq_sum_of_fintype, Finset.sum_const, Finset.card_univ,
    Fintype.card_fin, window]
  norm_cast

end Bounded
end GraphFixture
