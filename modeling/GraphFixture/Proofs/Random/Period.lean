import GraphFixture.Proofs.Random.Linearity
import GraphFixture.Proofs.Random.PackedPolynomial
import Mathlib.Dynamics.PeriodicPts.Defs

/-!
# The generator runs through all its states

The step of the generator satisfies a polynomial of degree 256.  Powers of the
step are computed modulo this polynomial: the step returns to a first state
after `2 ^ 256 - 1` steps, and not after that number divided by any of its
prime factors.  So the states on the way are pairwise different, and since
there are no more nonzero states, the step leads from any of them to any other.
-/

namespace GraphFixture
namespace Xoshiro

open Arithmetic

/-- The places of the bits of a number, read from the lowest. -/
def spread : (count bits : Nat) → Nat
  | 0, _ => 0
  | count + 1, bits => bits % 2 + Packed.radix * spread count (bits / 2)

theorem places_spread (count bits : Nat) : Packed.Places 1 count (spread count bits) := by
  induction count generalizing bits with
  | zero => exact .nil
  | succ count inductionHypothesis =>
      exact .cons (Nat.le_of_lt_succ (Nat.mod_lt _ (by decide))) (inductionHypothesis _)

/-- The polynomial of the step, and the quotient of the power of twice its
degree by it. -/
def stepModulus : Packed.Modulus where
  packed := spread 257 0x10003c03c3f3ecb1904b4edcf26259f850280002bcefd1a5e9d116f2bb0f0f001
  reciprocal := spread 257 0x10003c0396f32c298132b61f2778b69e1aa1297eadd5e76b793a906d956fbc489

theorem places_stepModulus : Packed.Places 1 (Packed.width + 1) stepModulus.packed :=
  places_spread 257 _

/-- The state from which the way through all states is counted. -/
def origin : Xoshiro :=
  ⟨1, 0, 0, 0⟩

/-- A packed polynomial in the step, applied to the first state. -/
def applied (packed : Nat) : Xoshiro :=
  Packed.combine step 257 packed origin

theorem applied_stepModulus : applied stepModulus.packed = 0 := by
  decide +kernel

theorem power_cycleLength : stepModulus.power cycleLength = some 1 := by
  decide +kernel

theorem power_part : ∀ factor ∈ cycleFactors,
    (stepModulus.power (cycleLength / factor)).any (fun packed => applied packed != origin) := by
  decide +kernel

/-! ## The way through all states -/

theorem iterate_step_origin {exponent packed : Nat} (small : exponent ≤ cycleLength)
    (computed : stepModulus.power exponent = some packed) :
    step^[exponent] origin = applied packed := by
  have annihilated : Packed.value linearStep stepModulus.packed • origin = 0 := by
    rw [← Packed.combine_eq_smul linearStep places_stepModulus]
    exact applied_stepModulus
  obtain ⟨places, acts⟩ := Packed.Modulus.value_power_smul linearStep two_eq_zero
    places_stepModulus annihilated (Nat.lt_of_le_of_lt small (by decide +kernel)) computed
  rw [← pow_linearStep_smul, ← acts, ← Packed.combine_eq_smul linearStep (places.extend 1)]
  rfl

/-- The step comes back to the first state after all nonzero states, and no
sooner. -/
theorem minimalPeriod_origin : Function.minimalPeriod step origin = cycleLength := by
  have returns : Function.IsPeriodicPt step cycleLength origin := by
    rw [Function.IsPeriodicPt, Function.IsFixedPt,
      iterate_step_origin (Nat.le_refl _) power_cycleLength]
    decide +kernel
  obtain ⟨rounds, cycleLength_eq⟩ := returns.minimalPeriod_dvd
  by_cases once : rounds = 1
  · rw [cycleLength_eq, once, Nat.mul_one]
  · -- Otherwise some prime factor of the length could be left out.
    obtain ⟨prime, isPrime, others, rounds_eq⟩ := Nat.exists_prime_and_dvd once
    have divides : prime ∣ cycleLength := by
      rw [cycleLength_eq, rounds_eq]
      exact ⟨_, Nat.mul_left_comm _ _ _⟩
    obtain ⟨packed, computed, elsewhere⟩ := Option.any_eq_true _ _ |>.mp
      (power_part prime (mem_cycleFactors_of_prime_dvd isPrime divides))
    have part : cycleLength / prime = Function.minimalPeriod step origin * others := by
      rw [cycleLength_eq, rounds_eq, Nat.mul_left_comm]
      exact Nat.mul_div_cancel_left _ isPrime.pos
    have returnsEarly : step^[cycleLength / prime] origin = origin := by
      rw [part]
      exact ((Function.isPeriodicPt_minimalPeriod step origin).mul_const others).eq
    rw [iterate_step_origin (Nat.div_le_self _ _) computed] at returnsEarly
    exact absurd returnsEarly (by simpa using elsewhere)

/-- The number of a state among all of them. -/
def number (state : Xoshiro) : Nat :=
  state.s0.toNat + 2 ^ 64 * state.s1.toNat + 2 ^ 128 * state.s2.toNat + 2 ^ 192 * state.s3.toNat

theorem number_injective : Function.Injective number := by
  intro left right equal
  have leftSmall := And.intro left.s0.toNat_lt (And.intro left.s1.toNat_lt left.s2.toNat_lt)
  have rightSmall := And.intro right.s0.toNat_lt (And.intro right.s1.toNat_lt right.s2.toNat_lt)
  unfold number at equal
  obtain ⟨left0, left1, left2, left3⟩ := left
  obtain ⟨right0, right1, right2, right3⟩ := right
  simp only [mk.injEq, ← UInt64.toNat_inj]
  dsimp only at equal leftSmall rightSmall
  omega

theorem number_le (state : Xoshiro) : number state ≤ cycleLength := by
  have first := state.s0.toNat_lt
  have second := state.s1.toNat_lt
  have third := state.s2.toNat_lt
  have fourth := state.s3.toNat_lt
  unfold number cycleLength
  omega

theorem number_pos {state : Xoshiro} (nonzero : state ≠ 0) : 0 < number state := by
  apply Nat.pos_of_ne_zero
  intro isZero
  exact nonzero (number_injective isZero)

theorem iterate_step_ne_zero (count : Nat) : step^[count] origin ≠ 0 := by
  intro isZero
  -- From the zero state the step would never come back.
  have returns := Function.isPeriodicPt_minimalPeriod step origin
  have stuck : step^[cycleLength * (count + 1)] origin = 0 := by
    obtain ⟨further, total⟩ : ∃ further, cycleLength * (count + 1) = further + count := by
      refine ⟨cycleLength * (count + 1) - count, (Nat.sub_add_cancel ?_).symm⟩
      exact Nat.le_trans (Nat.le_succ count)
        (Nat.le_mul_of_pos_left _ (by decide +kernel : 0 < cycleLength))
    rw [total, Function.iterate_add_apply, isZero]
    exact Function.iterate_fixed step_zero further
  have back := (returns.mul_const (count + 1)).eq
  rw [minimalPeriod_origin, stuck] at back
  exact absurd back (by decide)

/-- Every state but zero lies on the way from the first one. -/
theorem exists_iterate_step_origin {state : Xoshiro} (nonzero : state ≠ 0) :
    ∃ count < cycleLength, step^[count] origin = state := by
  have different : Set.InjOn (fun count => number (step^[count] origin))
      (Finset.range cycleLength) := by
    rw [Finset.coe_range, ← minimalPeriod_origin]
    exact number_injective.comp_injOn Function.iterate_injOn_Iio_minimalPeriod
  have onto : Set.SurjOn (fun count => number (step^[count] origin))
      (Finset.range cycleLength) (Finset.Icc 1 cycleLength) := by
    apply Finset.surjOn_of_injOn_of_card_le _ ?_ different
    · rw [Nat.card_Icc, Finset.card_range, Nat.add_sub_cancel]
    · intro count _
      rw [Finset.coe_Icc]
      exact ⟨number_pos (iterate_step_ne_zero count), number_le _⟩
  obtain ⟨count, inRange, sameNumber⟩ := onto (by
    rw [Finset.coe_Icc]
    exact ⟨number_pos nonzero, number_le state⟩ : number state ∈ _)
  refine ⟨count, ?_, number_injective sameNumber⟩
  simpa using inRange

/-- The step leads from every state but zero to every other one, within as many
steps as there are such states. -/
theorem exists_iterate_step {start goal : Xoshiro} (startNonzero : start ≠ 0)
    (goalNonzero : goal ≠ 0) : ∃ count < cycleLength, step^[count] start = goal := by
  obtain ⟨first, firstSmall, start_eq⟩ := exists_iterate_step_origin startNonzero
  obtain ⟨second, secondSmall, goal_eq⟩ := exists_iterate_step_origin goalNonzero
  have back := (Function.isPeriodicPt_minimalPeriod step origin).eq
  rw [minimalPeriod_origin] at back
  rw [← start_eq, ← goal_eq]
  by_cases ahead : first ≤ second
  · refine ⟨second - first, by omega, ?_⟩
    rw [← Function.iterate_add_apply, Nat.sub_add_cancel ahead]
  · -- The goal lies behind the start, so the way leads through the first state.
    refine ⟨second + (cycleLength - first), by omega, ?_⟩
    rw [← Function.iterate_add_apply, Nat.add_assoc, Nat.sub_add_cancel (Nat.le_of_lt firstSmall),
      Function.iterate_add_apply, back]

end Xoshiro
end GraphFixture
