import GraphFixture.Proofs.Random.Linearity
import Mathlib.Data.Int.ModEq
import Mathlib.Data.LawfulXor.Basic
import Mathlib.Tactic.LinearCombination

/-!
# Seeding never gives the zero state

An output of the seeding is zero only for congruential states of a narrow form,
given by their five highest bits and their 27 lowest ones.  The congruential
step, taken three times, leads from no such state to another one.  So the first
and the fourth output are not both zero, and neither is the whole state.
-/

namespace GraphFixture
namespace Xoshiro

/-! ## Congruential states without an output -/

theorem eq_zero_of_rotation_eq_zero {word amount : UInt32} (small : amount.toNat < 32)
    (zero : (word >>> amount) ||| (word <<< (32 - amount)) = 0) : word = 0 := by
  rw [UInt32.or_eq_zero_iff] at zero
  have right := congrArg UInt32.toNat zero.1
  have left := congrArg UInt32.toNat zero.2
  rw [UInt32.toNat_shiftRight, Nat.mod_eq_of_lt small, Nat.shiftRight_eq_div_pow,
    UInt32.toNat_zero] at right
  rw [← UInt32.toNat_inj, UInt32.toNat_zero]
  have below : word.toNat < 2 ^ amount.toNat :=
    (Nat.div_eq_zero_iff.mp right).resolve_left (Nat.two_pow_pos _).ne'
  by_cases none : amount.toNat = 0
  · rw [none] at below
    omega
  · have opposite : (32 - amount).toNat % 32 = 32 - amount.toNat := by
      rw [UInt32.toNat_sub_of_le]
      · change (32 - amount.toNat) % 32 = _
        omega
      · rw [UInt32.le_iff_toNat_le]
        exact Nat.le_of_lt small
    rw [UInt32.toNat_shiftLeft, opposite, Nat.shiftLeft_eq, UInt32.toNat_zero] at left
    -- No bit is shifted out of the word, so the shifted word is zero as it stands.
    have kept : word.toNat * 2 ^ (32 - amount.toNat) < 2 ^ 32 := by
      calc word.toNat * 2 ^ (32 - amount.toNat)
          < 2 ^ amount.toNat * 2 ^ (32 - amount.toNat) :=
            Nat.mul_lt_mul_of_pos_right below (Nat.two_pow_pos _)
        _ = 2 ^ 32 := by
            rw [← Nat.pow_add]
            congr 1
            omega
    rw [Nat.mod_eq_of_lt kept] at left
    exact (Nat.mul_eq_zero.mp left).resolve_right (Nat.two_pow_pos _).ne'

/-- The high part of a congruential state without an output, by its five highest
bits. -/
def barren (top : Nat) : Nat :=
  top * 2 ^ 59 + (top * 2 ^ 14 + top / 16) * 2 ^ 27

/-- An output is zero only for a state whose high bits repeat. -/
theorem exists_barren_of_seedOutput_eq_zero {state : UInt64} (zero : seedOutput state = 0) :
    ∃ top < 32, ∃ low < 2 ^ 27, state.toNat = barren top + low := by
  have amountSmall : (state >>> 59).toUInt32.toNat < 32 := by
    rw [UInt64.toNat_toUInt32, UInt64.toNat_shiftRight, Nat.shiftRight_eq_div_pow]
    have inWord := state.toNat_lt
    change state.toNat / 2 ^ 59 % 2 ^ 32 < 32
    omega
  have shifted := congrArg UInt32.toNat (eq_zero_of_rotation_eq_zero amountSmall zero)
  rw [UInt64.toNat_toUInt32, UInt64.toNat_shiftRight, UInt64.toNat_xor,
    UInt64.toNat_shiftRight, UInt32.toNat_zero] at shifted
  change (state.toNat >>> 18 ^^^ state.toNat) >>> 27 % 2 ^ 32 = 0 at shifted
  rw [Nat.shiftRight_xor_distrib, Nat.xor_mod_two_pow, xor_eq_zero_iff,
    ← Nat.shiftRight_add, Nat.shiftRight_eq_div_pow, Nat.shiftRight_eq_div_pow] at shifted
  change state.toNat / 2 ^ 45 % 2 ^ 32 = state.toNat / 2 ^ 27 % 2 ^ 32 at shifted
  have inWord := state.toNat_lt
  refine ⟨state.toNat / 2 ^ 59, by omega, state.toNat % 2 ^ 27, Nat.mod_lt _ (by decide), ?_⟩
  have upper : state.toNat / 2 ^ 45 = state.toNat / 2 ^ 27 / 2 ^ 18 := by
    rw [Nat.div_div_eq_div_mul, ← Nat.pow_add]
  have topmost : state.toNat / 2 ^ 59 = state.toNat / 2 ^ 27 / 2 ^ 32 := by
    rw [Nat.div_div_eq_div_mul, ← Nat.pow_add]
  have split := Nat.div_add_mod state.toNat (2 ^ 27)
  have inPlace : state.toNat / 2 ^ 27 < 2 ^ 37 := by omega
  rw [upper] at shifted
  unfold barren
  rw [topmost]
  -- The middle bits repeat the top ones, then once more the topmost of these.
  generalize state.toNat / 2 ^ 27 = high at *
  have repeated : high / 2 ^ 18 = high % 2 ^ 32 := by omega
  have again : high % 2 ^ 32 / 2 ^ 18 = high / 2 ^ 32 / 16 := by omega
  omega

/-! ## Three steps -/

theorem toNat_seedStep (state : UInt64) :
    ((seedStep state).toNat : ℤ) ≡
      state.toNat * 6364136223846793005 + 11634580027462260723 [ZMOD 2 ^ 64] := by
  rw [seedStep, UInt64.toNat_add, UInt64.toNat_mul]
  change ((((state.toNat * 6364136223846793005) % 2 ^ 64 + 11634580027462260723) % 2 ^ 64 :
    Nat) : ℤ) ≡ _ [ZMOD 2 ^ 64]
  push_cast
  rw [Int.emod_add_emod]
  exact Int.mod_modEq _ _

/-- Three congruential steps make one with other constants. -/
theorem toNat_seedStep_thrice (state : UInt64) :
    ((seedStep (seedStep (seedStep state))).toNat : ℤ) ≡
      state.toNat * 793875393913628917 + 5507651024068337109 [ZMOD 2 ^ 64] := by
  have first := toNat_seedStep state
  have second := toNat_seedStep (seedStep state)
  have third := toNat_seedStep (seedStep (seedStep state))
  rw [Int.modEq_iff_dvd] at first second third ⊢
  omega

/-- A multiplier of the congruence with the small multiple that it makes of the
constant of three steps. -/
structure Multiplier where
  factor : ℤ
  multiple : ℤ
  multiple_modEq : factor * 793875393913628917 ≡ multiple [ZMOD 2 ^ 64]

namespace Multiplier

/-- The multiplier for the first word of a state. -/
def first : Multiplier :=
  ⟨259049552, 4190909584, by decide⟩

/-- The multiplier for the second word of a state. -/
def second : Multiplier :=
  ⟨-4407260749, -91439025, by decide⟩

/-- What the multiplier makes of the low bits of two states. -/
def combine (multiplier : Multiplier) (low later : ℤ) : ℤ :=
  multiplier.multiple * low - multiplier.factor * later

/-- The remainder that the high bits of two states leave for the combination of
their low bits. -/
def residue (multiplier : Multiplier) (top later : Nat) : ℤ :=
  multiplier.factor * barren later - multiplier.multiple * barren top -
    multiplier.factor * 5507651024068337109

/-- The one number from a start on that a remainder allows. -/
def settled (multiplier : Multiplier) (start : ℤ) (top later : Nat) : ℤ :=
  start + (multiplier.residue top later - start) % 2 ^ 64

theorem combine_modEq (multiplier : Multiplier) {state : UInt64} {top later low laterLow : Nat}
    (state_eq : state.toNat = barren top + low)
    (later_eq : (seedStep (seedStep (seedStep state))).toNat = barren later + laterLow) :
    multiplier.combine low laterLow ≡ multiplier.residue top later [ZMOD 2 ^ 64] := by
  have steps := (toNat_seedStep_thrice state).mul_left multiplier.factor
  have small := multiplier.multiple_modEq.mul_left (state.toNat : ℤ)
  rw [state_eq, later_eq] at steps
  rw [state_eq] at small
  rw [Int.modEq_iff_dvd] at steps small ⊢
  push_cast at steps small
  obtain ⟨stepsTurns, steps⟩ := steps
  obtain ⟨smallTurns, small⟩ := small
  refine ⟨-(stepsTurns + smallTurns), ?_⟩
  unfold combine residue
  linear_combination -steps - small

/-- A combination within one round of a start is settled by its remainder. -/
theorem combine_eq_settled (multiplier : Multiplier) {state : UInt64}
    {top later low laterLow : Nat} (start : ℤ)
    (state_eq : state.toNat = barren top + low)
    (later_eq : (seedStep (seedStep (seedStep state))).toNat = barren later + laterLow)
    (least : start ≤ multiplier.combine low laterLow)
    (greatest : multiplier.combine low laterLow < start + 2 ^ 64) :
    multiplier.combine low laterLow = multiplier.settled start top later := by
  have congruent := (multiplier.combine_modEq state_eq later_eq).sub_right start
  rw [Int.ModEq, Int.emod_eq_of_lt (by omega) (by omega)] at congruent
  unfold settled
  omega

end Multiplier

/-! ## No two outputs three steps apart are zero -/

/-- Whether the settled combinations give low bits that are in range, by
Cramer's rule.  The determinant of the two multipliers is `2 ^ 64`. -/
def lowBitsInRange (top later : Nat) : Bool :=
  let first := Multiplier.first.settled (-259049552 * (2 ^ 27 - 1)) top later
  let second := Multiplier.second.settled (-91439025 * (2 ^ 27 - 1)) top later
  let low := 4407260749 * first + 259049552 * second
  let laterLow := 4190909584 * second + 91439025 * first
  decide (0 ≤ low ∧ low < 2 ^ 91 ∧ 0 ≤ laterLow ∧ laterLow < 2 ^ 91)

theorem lowBitsInRange_eq_false :
    ∀ top < 32, ∀ later < 32, lowBitsInRange top later = false := by
  decide +kernel

/-- After three steps the output of a congruential state without one is not zero. -/
theorem seedOutput_thrice_ne_zero {state : UInt64} (zero : seedOutput state = 0) :
    seedOutput (seedStep (seedStep (seedStep state))) ≠ 0 := by
  intro laterZero
  obtain ⟨top, topSmall, low, lowSmall, state_eq⟩ := exists_barren_of_seedOutput_eq_zero zero
  obtain ⟨later, laterSmall, laterLow, laterLowSmall, later_eq⟩ :=
    exists_barren_of_seedOutput_eq_zero laterZero
  have first := Multiplier.first.combine_eq_settled (-259049552 * (2 ^ 27 - 1)) state_eq later_eq
    (by simp only [Multiplier.combine, Multiplier.first]; omega)
    (by simp only [Multiplier.combine, Multiplier.first]; omega)
  have second := Multiplier.second.combine_eq_settled (-91439025 * (2 ^ 27 - 1)) state_eq later_eq
    (by simp only [Multiplier.combine, Multiplier.second]; omega)
    (by simp only [Multiplier.combine, Multiplier.second]; omega)
  have outside := lowBitsInRange_eq_false top topSmall later laterSmall
  rw [lowBitsInRange, ← first, ← second, decide_eq_false_iff_not] at outside
  simp only [Multiplier.combine, Multiplier.first, Multiplier.second] at outside
  omega

/-- No seed gives the state that is zero throughout. -/
theorem ofSeed_ne_zero (seed : UInt64) : ofSeed seed ≠ 0 := by
  intro isZero
  have halves {low high : UInt32} (zero : low.toUInt64 ||| (high.toUInt64 <<< 32) = 0) :
      low = 0 ∧ high = 0 := by
    rw [UInt64.or_eq_zero_iff] at zero
    have lowHalf := congrArg UInt64.toNat zero.1
    have highHalf := congrArg UInt64.toNat zero.2
    rw [UInt64.toNat_shiftLeft, UInt32.toNat_toUInt64, UInt64.toNat_zero, Nat.shiftLeft_eq]
      at highHalf
    change high.toNat * 2 ^ 32 % 2 ^ 64 = 0 at highHalf
    have highSmall := high.toNat_lt
    rw [UInt32.toNat_toUInt64] at lowHalf
    exact ⟨UInt32.toNat_inj.mp lowHalf, UInt32.toNat_inj.mp (by rw [UInt32.toNat_zero]; omega)⟩
  have first := halves (congrArg s0 isZero)
  have second := halves (congrArg s1 isZero)
  exact seedOutput_thrice_ne_zero first.1 second.2

end Xoshiro
end GraphFixture
