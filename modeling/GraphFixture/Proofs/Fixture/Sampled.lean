import GraphFixture.Proofs.Generator.Drawing

/-!
# Sampled fixtures

A fixture counts as sampled when a generator drew it, from its own seed, from
entropy or from a source that was handed in.  However it was drawn, its blocks
are dealt out from a row of targets, one for each child.
-/

namespace GraphFixture
namespace Fixture

/-- The fixtures that generators sample. -/
inductive Sampled : Fixture → Prop
  /-- From a source that was handed in. -/
  | handed {Source : Type} [WordSource Source] (generator : Generator)
      (patience : Nat) (source : Source) {rest : Source} {fixture : Fixture}
      (sampled : generator.sampleWith patience source = .ok (fixture, rest)) :
      Sampled fixture
  /-- From the seed of the generator or from entropy. -/
  | seeded (generator : Generator) (entropy : Except String UInt64)
      {fixture : Fixture} (sampled : generator.sample entropy = .ok fixture) :
      Sampled fixture

/-- A sampled fixture has nodes and is dealt out from a full row of targets, all
of them below the node count. -/
theorem Sampled.exists_dealt {fixture : Fixture} (sampled : fixture.Sampled) :
    fixture.nodeCount ≠ 0 ∧ ∃ targets : List UInt64,
      targets.length = childCount fixture.nodeCount ∧
      (∀ target ∈ targets, target < fixture.nodeCount) ∧
      fixture = ofTargets fixture.nodeCount fixture.seed targets := by
  have ofDrawn {Source : Type} [WordSource Source] {generator : Generator}
      {seed : Option UInt64} {patience : Nat} {source rest : Source}
      (drawn : generator.drawFixture seed patience source = .ok (fixture, rest)) :
      fixture.nodeCount ≠ 0 ∧ ∃ targets : List UInt64,
        targets.length = childCount fixture.nodeCount ∧
        (∀ target ∈ targets, target < fixture.nodeCount) ∧
        fixture = ofTargets fixture.nodeCount fixture.seed targets := by
    obtain ⟨length, spans, rfl, _⟩ := Generator.exists_spans_of_drawFixture drawn
    exact ⟨generator.nodeCount_ne_zero, _, spans.length_numbers,
      fun target => Bounded.lt_of_mem_numbers generator.nodeCount_ne_zero, rfl⟩
  cases sampled with
  | handed generator patience source sampled => exact ofDrawn sampled
  | seeded generator entropy sampled =>
      obtain ⟨seed, _, seeded⟩ := Generator.sample_eq_ok_iff.mp sampled
      obtain ⟨rest, drawn⟩ := Generator.sampleSeeded_eq_ok_iff.mp seeded
      exact ofDrawn drawn

theorem Sampled.nodeCount_ne_zero {fixture : Fixture} (sampled : fixture.Sampled) :
    fixture.nodeCount ≠ 0 :=
  sampled.exists_dealt.1

theorem Sampled.exists_blocks_eq {fixture : Fixture} (sampled : fixture.Sampled) :
    ∃ target, fixture.blocks = completeBlocks fixture.nodeCount target := by
  obtain ⟨_, targets, _, _, dealt⟩ := sampled.exists_dealt
  exact ⟨fun position => targets.getD position 0, congrArg Fixture.blocks dealt⟩

/-! ## The blocks of a complete fixture -/

variable {nodeCount : UInt64} {target : Nat → UInt64}

@[simp] theorem length_completeBlocks :
    (completeBlocks nodeCount target).length = nodeCount.toNat + 2 := by
  simp [completeBlocks]

/-- The blocks before the root are nodes, named by their positions. -/
theorem getElem?_completeBlocks_of_lt (target : Nat → UInt64) {position : Nat}
    (isNode : position < nodeCount.toNat) :
    (completeBlocks nodeCount target)[position]? =
      some (.node (declarationAt target (.indexed (UInt64.ofNat position)) position)) := by
  rw [completeBlocks, List.getElem?_append_left (by simpa using isNode)]
  simp [List.getElem?_range isNode]

/-- The root stands behind the nodes. -/
theorem getElem?_completeBlocks_root :
    (completeBlocks nodeCount target)[nodeCount.toNat]? =
      some (.root (declarationAt target .root nodeCount.toNat)) := by
  rw [completeBlocks, List.getElem?_append_right (by simp)]
  simp

/-- The trailer stands behind the root. -/
theorem getElem?_completeBlocks_trailer :
    (completeBlocks nodeCount target)[nodeCount.toNat + 1]? = some .trailer := by
  rw [completeBlocks, List.getElem?_append_right (by simp)]
  simp

/-- Of a block in a complete fixture the place tells the kind. -/
theorem kind_of_getElem?_completeBlocks {position : Nat} {block : Block}
    (found : (completeBlocks nodeCount target)[position]? = some block) :
    (position < nodeCount.toNat ∧ ∃ declaration, block = .node declaration) ∨
      (position = nodeCount.toNat ∧ ∃ declaration, block = .root declaration) ∨
      (position = nodeCount.toNat + 1 ∧ block = .trailer) := by
  have inside := (List.getElem?_eq_some_iff.mp found).1
  rw [length_completeBlocks] at inside
  rcases Nat.lt_trichotomy position nodeCount.toNat with isNode | rfl | beyond
  · rw [getElem?_completeBlocks_of_lt target isNode] at found
    exact .inl ⟨isNode, _, (Option.some.inj found).symm⟩
  · rw [getElem?_completeBlocks_root] at found
    exact .inr (.inl ⟨rfl, _, (Option.some.inj found).symm⟩)
  · obtain rfl : position = nodeCount.toNat + 1 := by omega
    rw [getElem?_completeBlocks_trailer] at found
    exact .inr (.inr ⟨rfl, (Option.some.inj found).symm⟩)

/-- The declarations of a complete fixture, the root being the last. -/
theorem filterMap_declaration?_completeBlocks :
    (completeBlocks nodeCount target).filterMap Block.declaration? =
      (List.range nodeCount.toNat).map (fun index =>
        declarationAt target (.indexed (UInt64.ofNat index)) index) ++
      [declarationAt target .root nodeCount.toNat] := by
  simp [completeBlocks, List.filterMap_map, Function.comp_def]

/-- Every declaration of a complete fixture is dealt out at some position. -/
theorem exists_declarationAt_of_mem {declaration : Declaration}
    (member : declaration ∈ (completeBlocks nodeCount target).filterMap Block.declaration?) :
    ∃ name position, declaration = declarationAt target name position := by
  rw [filterMap_declaration?_completeBlocks, List.mem_append, List.mem_map,
    List.mem_singleton] at member
  rcases member with ⟨index, _, rfl⟩ | rfl
  · exact ⟨_, index, rfl⟩
  · exact ⟨_, _, rfl⟩

/-- Complete block lists that start each other have the same node count. -/
theorem nodeCount_eq_of_completeBlocks_isPrefix {other : UInt64}
    {otherTarget : Nat → UInt64}
    (starts : completeBlocks nodeCount target <+: completeBlocks other otherTarget) :
    nodeCount = other := by
  have lengths := starts.length_le
  rw [length_completeBlocks, length_completeBlocks] at lengths
  rw [← UInt64.toNat_inj]
  apply Nat.le_antisymm
  · omega
  · -- Otherwise the root of the one stands where the other has a node.
    apply Nat.le_of_not_lt
    intro fewer
    obtain ⟨rest, equal⟩ := starts
    have inside : nodeCount.toNat < (completeBlocks nodeCount target).length := by
      rw [length_completeBlocks]
      omega
    have same := congrArg (·[nodeCount.toNat]?) equal
    simp only [List.getElem?_append_left inside, getElem?_completeBlocks_root,
      getElem?_completeBlocks_of_lt otherTarget fewer] at same
    exact absurd (Option.some.inj same) (by simp)

end Fixture
end GraphFixture
