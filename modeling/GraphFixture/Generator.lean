import GraphFixture.Fixture
import GraphFixture.Random.AnySource
import GraphFixture.Random.Bounded

/-!
# Generating fixtures

A recipe says how many nodes a fixture shall have and from which seed it shall
come.  A recipe without nodes is refused; any other becomes a generator.  A
generator draws the blocks of a fixture one after another, each target uniformly
and with replacement, either from a seeded source or from one that is handed in.
-/

namespace GraphFixture

/-- Why a recipe or a generator yields no fixture. -/
inductive FixtureError where
  /-- The recipe asks for no nodes. -/
  | invalidNodeCount (got : UInt64)
  /-- No seed was given and none could be drawn. -/
  | entropyUnavailable (cause : String)
  /-- The blocks do not fit into one list. -/
  | capacityOverflow
  /-- The source has no further word that could be accepted. -/
  | unendingDraw
  deriving DecidableEq, Repr

namespace FixtureError

/-- The stable code of an error that a caller is expected to handle. -/
def code? : FixtureError → Option String
  | .invalidNodeCount _ => some "INVALID_NODE_COUNT"
  | .entropyUnavailable _ => some "ENTROPY_UNAVAILABLE"
  | .capacityOverflow => none
  | .unendingDraw => none

/-- All stable codes. -/
def codes : List String :=
  ["INVALID_NODE_COUNT", "ENTROPY_UNAVAILABLE"]

/-- The text of an error. -/
def message : FixtureError → String
  | .invalidNodeCount got =>
      String.join ["node_count must be at least 1 (got ",
        String.ofList (Decimal.digits got.toNat), ")"]
  | .entropyUnavailable cause =>
      String.join
        ["failed to draw a fixture seed from operating-system entropy: ", cause]
  | .capacityOverflow => "capacity overflow"
  | .unendingDraw => "the random source has no acceptable word"

/-- The text of an error followed by the texts of what caused it. -/
def chain : FixtureError → List String
  | .entropyUnavailable cause =>
      [message (.entropyUnavailable cause), cause]
  | error => [error.message]

end FixtureError

/-- The node count of a recipe that does not set one. -/
def Recipe.standardNodeCount : UInt64 :=
  300

/-- How many nodes a fixture shall have and from which seed it shall come. -/
structure Recipe where
  nodeCount : UInt64 := Recipe.standardNodeCount
  seed : Option UInt64 := none
  deriving DecidableEq, Repr

/-- A recipe that has nodes. -/
structure Generator where
  nodeCount : UInt64
  seed : Option UInt64
  nodeCount_ne_zero : nodeCount ≠ 0
  deriving DecidableEq, Repr

namespace Recipe

/-- The recipe that names neither a node count nor a seed. -/
def standard : Recipe :=
  {}

instance : Inhabited Recipe :=
  ⟨standard⟩

/-- The generator of a recipe, refused when the recipe has no nodes. -/
def build (recipe : Recipe) : Except FixtureError Generator :=
  if nonzero : recipe.nodeCount ≠ 0 then
    .ok ⟨recipe.nodeCount, recipe.seed, nonzero⟩
  else
    .error (.invalidNodeCount recipe.nodeCount)

theorem build_of_ne_zero {recipe : Recipe} (nonzero : recipe.nodeCount ≠ 0) :
    recipe.build = .ok ⟨recipe.nodeCount, recipe.seed, nonzero⟩ :=
  dif_pos nonzero

end Recipe

namespace Generator

variable {Source : Type} [WordSource Source]

/-- Draw the target of one child. -/
def drawChild (generator : Generator) (patience : Nat) (label : Label)
    (source : Source) : Option (Child × Source) :=
  match Bounded.draw generator.nodeCount patience source with
  | none => none
  | some (target, rest) => some ({ label, target }, rest)

/-- Draw a declaration, one child for each label in order. -/
def drawDeclaration (generator : Generator) (patience : Nat) (name : NodeName)
    (source : Source) : Option (Declaration × Source) := do
  let (first, source) ← generator.drawChild patience .a source
  let (second, source) ← generator.drawChild patience .b source
  let (third, source) ← generator.drawChild patience .c source
  let (fourth, source) ← generator.drawChild patience .d source
  return ({ name, first, second, third, fourth }, source)

/-- Draw node blocks from an index on and put them after the blocks that there
are already. -/
def drawNodes (generator : Generator) (patience : Nat) :
    (count : Nat) → (index : UInt64) → (blocks : Array Block) → Source →
      Option (Array Block × Source)
  | 0, _, blocks, source => some (blocks, source)
  | count + 1, index, blocks, source =>
      match generator.drawDeclaration patience (.indexed index) source with
      | none => none
      | some (declaration, rest) =>
          generator.drawNodes patience count (index + 1)
            (blocks.push (.node declaration)) rest

/-- Draw the blocks of a fixture: every index in order, the root and, without
drawing, the trailer. -/
def drawBlocks (generator : Generator) (patience : Nat) (source : Source) :
    Option (List Block × Source) := do
  let (nodes, source) ←
    generator.drawNodes patience generator.nodeCount.toNat 0 #[] source
  let (root, source) ← generator.drawDeclaration patience .root source
  return (((nodes.push (.root root)).push .trailer).toList, source)

/-- Draw a fixture, once its blocks are known to fit. -/
def drawFixture (generator : Generator) (seed : Option UInt64)
    (patience : Nat) (source : Source) :
    Except FixtureError (Fixture × Source) :=
  if Fixture.fits generator.nodeCount then
    match generator.drawBlocks patience source with
    | some (blocks, rest) =>
        .ok ({ blocks, nodeCount := generator.nodeCount, seed }, rest)
    | none => .error .unendingDraw
  else
    .error .capacityOverflow

/-- Sample a fixture from a source that is handed in.  The fixture records no
seed, and the seed of the generator plays no part. -/
def sampleWith (generator : Generator) (patience : Nat) (source : Source) :
    Except FixtureError (Fixture × Source) :=
  generator.drawFixture none patience source

/-- Sample the fixture that a seed stands for. -/
def sampleSeeded (generator : Generator) (seed : UInt64) :
    Except FixtureError Fixture :=
  (generator.drawFixture (some seed) Xoshiro.stateCount (Xoshiro.ofSeed seed)).map
    Prod.fst

/-- The seed that a generator uses: its own, else one drawn from the entropy
of the operating system. -/
def chooseSeed (generator : Generator) (entropy : Except String UInt64) :
    Except FixtureError UInt64 :=
  match generator.seed with
  | some seed => .ok seed
  | none => entropy.mapError .entropyUnavailable

/-- Sample a fixture from the generator's seed or from operating-system
entropy. -/
def sample (generator : Generator) (entropy : Except String UInt64) :
    Except FixtureError Fixture :=
  (generator.chooseSeed entropy).bind generator.sampleSeeded

end Generator
end GraphFixture
