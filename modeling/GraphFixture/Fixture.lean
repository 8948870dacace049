import GraphFixture.Block.Layout

/-!
# Fixtures

A fixture lists its blocks in the order in which they are written: the indexed
nodes, the root and the trailer.  It remembers the node count that it was made
for and, when it came from a seed, that seed.
-/

namespace GraphFixture

/-- A sampled list of blocks with the numbers that it came from. -/
structure Fixture where
  blocks : List Block
  nodeCount : UInt64
  seed : Option UInt64
  deriving DecidableEq, Repr

namespace Fixture

/-- The declarations of the node blocks, in order. -/
def nodes (fixture : Fixture) : List Declaration :=
  fixture.blocks.filterMap fun
    | .node declaration => some declaration
    | .root _ | .trailer => none

/-- The declaration of the root, if there is a root block. -/
def root? (fixture : Fixture) : Option Declaration :=
  fixture.blocks.findSome? fun
    | .root declaration => some declaration
    | .node _ | .trailer => none

/-- Every target of the fixture, block by block in slot order. -/
def targets (fixture : Fixture) : List UInt64 :=
  fixture.blocks.flatMap Block.targets

/-- The text of a fixture in a layout. -/
def render (fixture : Fixture) (layout : Layout) : List Char :=
  Block.render layout fixture.blocks

/-! ## Making a fixture from its targets -/

/-- How many children a fixture has in all. -/
def childCount (nodeCount : UInt64) : Nat :=
  Declaration.arity * (nodeCount.toNat + 1)

/-- The declaration at a position, its slots pointing to the four targets that
belong to the position. -/
def declarationAt (target : Nat → UInt64) (name : NodeName) (position : Nat) :
    Declaration :=
  Declaration.ofTargets name
    (target (Declaration.arity * position))
    (target (Declaration.arity * position + 1))
    (target (Declaration.arity * position + 2))
    (target (Declaration.arity * position + 3))

/-- The blocks of a complete fixture: every index in order, the root and the
trailer, the targets dealt out four at a time. -/
def completeBlocks (nodeCount : UInt64) (target : Nat → UInt64) : List Block :=
  (List.range nodeCount.toNat).map (fun index =>
    .node (declarationAt target (.indexed (UInt64.ofNat index)) index)) ++
  [.root (declarationAt target .root nodeCount.toNat), .trailer]

/-- The complete fixture whose children point to given targets, in order. -/
def ofTargets (nodeCount : UInt64) (seed : Option UInt64)
    (targets : List UInt64) : Fixture where
  blocks := completeBlocks nodeCount fun position => targets.getD position 0
  nodeCount := nodeCount
  seed := seed

/-! ## Comparing block lists -/

/-- The first position, within the common length, at which two lists differ. -/
def firstDifference (left right : List Block) : Option Nat :=
  (left.zip right).findIdx? fun pair => pair.1 != pair.2

/-! ## Capacity -/

/-- The greatest number of bytes that one list of blocks may occupy. -/
def maxListBytes : Nat :=
  UInt64.size / 2 - 1

/-- The number of bytes that one block occupies: its name, four children and
its kind, each in whole words. -/
def blockBytes : Nat :=
  88

/-- A node count fits when all its blocks together fit into one list.  The
number of blocks itself stays below the size of a word. -/
def fits (nodeCount : UInt64) : Bool :=
  min (nodeCount.toNat + 2) (UInt64.size - 1) * blockBytes ≤ maxListBytes

end Fixture
end GraphFixture
