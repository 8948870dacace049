import GraphFixture.Random.Xoshiro
import Mathlib.Algebra.Group.Hom.End
import Mathlib.Algebra.Module.Hom

/-!
# The linear step of the seeded generator

The states of the generator form a group under bitwise exclusive or, in which
every state is its own inverse.  One step respects the group, so it is linear
over the field of two elements.
-/

namespace GraphFixture
namespace Xoshiro

/-- The zero state, which the generator never leaves. -/
instance : Zero Xoshiro :=
  ⟨⟨0, 0, 0, 0⟩⟩

/-- The sum of two states is their bitwise exclusive or. -/
instance : Add Xoshiro :=
  ⟨fun left right =>
    ⟨left.s0 ^^^ right.s0, left.s1 ^^^ right.s1, left.s2 ^^^ right.s2, left.s3 ^^^ right.s3⟩⟩

/-- Every state is its own negative. -/
instance : Neg Xoshiro :=
  ⟨id⟩

theorem zero_def : (0 : Xoshiro) = ⟨0, 0, 0, 0⟩ :=
  rfl

theorem add_def (left right : Xoshiro) :
    left + right = ⟨left.s0 ^^^ right.s0, left.s1 ^^^ right.s1, left.s2 ^^^ right.s2,
      left.s3 ^^^ right.s3⟩ :=
  rfl

theorem add_self (state : Xoshiro) : state + state = 0 := by
  simp [add_def, zero_def]

/-- States form a group in which every state added to itself is zero. -/
instance : AddCommGroup Xoshiro where
  add_assoc first second third := by simp only [add_def, UInt64.xor_assoc]
  zero_add state := by simp [add_def, zero_def]
  add_zero state := by simp [add_def, zero_def]
  add_comm left right := by simp only [add_def, UInt64.xor_comm]
  neg_add_cancel := add_self
  nsmul := nsmulRec
  zsmul := zsmulRec

theorem rotateLeft_xor (left right : UInt64) :
    rotateLeft (left ^^^ right) 45 = rotateLeft left 45 ^^^ rotateLeft right 45 := by
  unfold rotateLeft
  apply UInt64.toBitVec_inj.mp
  ext bit inWord
  -- A bit comes from one of the two shifts only.
  by_cases low : bit < 45
  · simp [low]
  · have outside (word : UInt64) : word.toBitVec.getLsbD (19 + bit) = false :=
      BitVec.getLsbD_of_ge _ _ (by omega)
    simp [low, outside]

theorem step_add (left right : Xoshiro) : (left + right).step = left.step + right.step := by
  have shift : (left.s1 ^^^ right.s1) <<< 17 = (left.s1 <<< 17) ^^^ (right.s1 <<< 17) :=
    UInt64.shiftLeft_xor
  simp only [step, add_def]
  rw [shift, ← rotateLeft_xor]
  generalize left.s1 <<< 17 = leftShifted
  generalize right.s1 <<< 17 = rightShifted
  rw [mk.injEq]
  refine ⟨by ac_rfl, by ac_rfl, by ac_rfl, ?_⟩
  exact congrArg (rotateLeft · 45) (by ac_rfl)

@[simp] theorem step_zero : step 0 = 0 :=
  rfl

/-- The step as an endomorphism of the group of states. -/
def linearStep : AddMonoid.End Xoshiro where
  toFun := step
  map_zero' := step_zero
  map_add' := step_add

/-- Among the endomorphisms two is zero. -/
theorem two_eq_zero : (2 : AddMonoid.End Xoshiro) = 0 := by
  ext1 state
  change (2 : Nat) • state = 0
  rw [two_nsmul, add_self]

theorem pow_linearStep_smul (count : Nat) (state : Xoshiro) :
    linearStep ^ count • state = step^[count] state :=
  (congrFun (smul_iterate linearStep count) state).symm

end Xoshiro
end GraphFixture
