import GraphFixture.Fixture
import Mathlib.Data.List.GetD

/-!
# Dealing out targets

A complete fixture takes its targets from one row, four for each declaration in
block order.  Reading the targets of its blocks in order gives the row back.
-/

namespace GraphFixture

namespace Fixture

/-- A declaration depends on the four targets of its position alone. -/
theorem declarationAt_congr {target other : Nat → UInt64} (name : NodeName)
    {position place : Nat}
    (agree : ∀ slot < Declaration.arity,
      target (Declaration.arity * position + slot) =
        other (Declaration.arity * place + slot)) :
    declarationAt target name position = declarationAt other name place := by
  have first := agree 0 (by decide)
  have second := agree 1 (by decide)
  have third := agree 2 (by decide)
  have fourth := agree 3 (by decide)
  rw [Nat.add_zero, Nat.add_zero] at first
  rw [declarationAt, declarationAt, first, second, third, fourth]

/-- The first of two runs of targets that fills one position plays no part in
the later positions. -/
theorem declarationAt_append_succ {early : List UInt64}
    (full : early.length = Declaration.arity) (late : List UInt64)
    (name : NodeName) (position : Nat) :
    declarationAt (fun place => (early ++ late).getD place 0) name (position + 1) =
      declarationAt (fun place => late.getD place 0) name position := by
  apply declarationAt_congr
  intro slot _
  have beyond : early.length ≤ Declaration.arity * (position + 1) + slot := by
    rw [full, Nat.mul_succ]
    omega
  rw [List.getD_append_right _ _ _ _ beyond, full, Nat.mul_succ]
  congr 1
  omega

/-- The second of two runs of targets plays no part in the positions that the
first one fills. -/
theorem declarationAt_append_of_lt {early : List UInt64} {position : Nat}
    (filled : Declaration.arity * (position + 1) ≤ early.length)
    (late : List UInt64) (name : NodeName) :
    declarationAt (fun place => (early ++ late).getD place 0) name position =
      declarationAt (fun place => early.getD place 0) name position := by
  apply declarationAt_congr
  intro slot inside
  apply List.getD_append
  rw [Nat.mul_succ] at filled
  omega

/-- When one run of targets fills all nodes, a second run fills the root. -/
theorem completeBlocks_append {nodeCount : UInt64} {early : List UInt64}
    (full : early.length = Declaration.arity * nodeCount.toNat)
    (late : List UInt64) :
    completeBlocks nodeCount (fun place => (early ++ late).getD place 0) =
      (List.range nodeCount.toNat).map (fun index =>
        .node (declarationAt (fun place => early.getD place 0)
          (.indexed (UInt64.ofNat index)) index)) ++
      [.root (declarationAt (fun place => late.getD place 0) .root 0), .trailer] := by
  unfold completeBlocks
  congr 1
  · apply List.map_congr_left
    intro index member
    rw [declarationAt_append_of_lt]
    rw [full]
    exact Nat.mul_le_mul_left _ (List.mem_range.mp member)
  · congr 2
    apply declarationAt_congr
    intro slot _
    rw [List.getD_append_right _ _ _ _ (by rw [full]; omega), full]
    congr 1
    omega

/-- The targets at one position are four consecutive ones. -/
theorem targets_declarationAt (target : Nat → UInt64) (name : NodeName)
    (position : Nat) :
    (declarationAt target name position).targets =
      (List.range' (Declaration.arity * position) Declaration.arity).map target :=
  rfl

theorem flatMap_targets_declarationAt (target : Nat → UInt64)
    (name : Nat → NodeName) (count : Nat) :
    ((List.range count).flatMap fun position =>
        (declarationAt target (name position) position).targets) =
      (List.range (Declaration.arity * count)).map target := by
  induction count with
  | zero => rfl
  | succ count inductionHypothesis =>
      rw [List.range_succ, List.flatMap_append, inductionHypothesis,
        List.flatMap_singleton, targets_declarationAt, Nat.mul_succ,
        List.range_add, List.map_append, List.range'_eq_map_range]

/-- Reading the targets of a complete fixture gives back the row that they were
dealt out from. -/
theorem targets_ofTargets_of_length {nodeCount : UInt64}
    {targets : List UInt64} (full : targets.length = childCount nodeCount)
    (seed : Option UInt64) :
    (ofTargets nodeCount seed targets).targets = targets := by
  have row : (List.range targets.length).map (fun place => targets.getD place 0) =
      targets := by
    apply List.ext_getElem
    · simp
    · intro place inRow inTargets
      simp [List.getElem?_eq_getElem inTargets]
  calc
    (ofTargets nodeCount seed targets).targets
        = ((List.range nodeCount.toNat).flatMap fun index =>
            (declarationAt (fun place => targets.getD place 0)
              (.indexed (UInt64.ofNat index)) index).targets) ++
          (declarationAt (fun place => targets.getD place 0) .root
            nodeCount.toNat).targets := by
          simp [Fixture.targets, ofTargets, completeBlocks, List.flatMap_append,
            List.flatMap_map]
    _ = (List.range (childCount nodeCount)).map
          (fun place => targets.getD place 0) := by
          rw [flatMap_targets_declarationAt, targets_declarationAt, childCount,
            Nat.mul_succ, List.range_add, List.map_append,
            List.range'_eq_map_range]
    _ = targets := by
          rw [← full]
          exact row

end Fixture
end GraphFixture
