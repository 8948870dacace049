import GraphFixture.Proofs.Fixture.Sampled
import GraphFixture.Proofs.Generator.Completion

/-!
# The shape of sampled fixtures

Whatever the source, a sampled fixture of some node count has the nodes first, each
named by its place, then the root and then the trailer.  Every declaration carries
the four labels in order and points below the node count.  A fixture that a
generator samples by itself records its seed, and a generator with that seed samples
the same fixture again; a fixture from a source that was handed in owes nothing to
the seed of the generator.
-/

namespace GraphFixture

/-- A declaration has the four labels in order and points below a count. -/
structure Declaration.Proper (count : UInt64) (declaration : Declaration) : Prop where
  labels : declaration.children.map Child.label = Label.all
  constructed : ∀ child ∈ declaration.children, child.action = .construct
  below : ∀ child ∈ declaration.children, child.target < count
  /-- Of a single node every child is that node. -/
  sole : count = 1 → ∀ child ∈ declaration.children, child.target = 0

namespace Fixture

/-- A fixture is laid out as one with some number of nodes. -/
structure Shaped (count : UInt64) (fixture : Fixture) : Prop where
  nodeCount_eq : fixture.nodeCount = count
  length_blocks : fixture.blocks.length = count.toNat + 2
  node_at : ∀ index < count, ∃ declaration,
    fixture.blocks[index.toNat]? = some (.node declaration) ∧
      declaration.name = .indexed index
  root_at : ∃ declaration,
    fixture.blocks[count.toNat]? = some (.root declaration) ∧ declaration.name = .root
  trailer_at : fixture.blocks[count.toNat + 1]? = some .trailer
  /-- No other place holds a root. -/
  eq_of_root_at : ∀ position declaration,
    fixture.blocks[position]? = some (.root declaration) → position = count.toNat
  /-- No other place holds a trailer. -/
  eq_of_trailer_at : ∀ position,
    fixture.blocks[position]? = some .trailer → position = count.toNat + 1
  proper : ∀ declaration ∈ fixture.blocks.filterMap Block.declaration?,
    declaration.Proper count
  nodes_eq : fixture.nodes.map Block.node = fixture.blocks.take count.toNat
  root?_eq : fixture.root?.map Block.root = fixture.blocks[count.toNat]?

/-! ## Complete fixtures are shaped -/

variable {nodeCount : UInt64} {target : Nat → UInt64}

theorem proper_declarationAt (below : ∀ place, target place < nodeCount) (name : NodeName)
    (position : Nat) : (declarationAt target name position).Proper nodeCount := by
  have belowCount : ∀ child ∈ (declarationAt target name position).children,
      child.target < nodeCount := by
    intro child member
    have isTarget : child.target ∈ (declarationAt target name position).targets :=
      List.mem_map_of_mem member
    rw [targets_declarationAt, List.mem_map] at isTarget
    obtain ⟨place, _, target_eq⟩ := isTarget
    exact target_eq ▸ below place
  exact {
    labels := Declaration.labels_ofTargets _ _ _ _ _
    constructed := fun child _ => by cases child.action; rfl
    below := belowCount
    sole := fun single child member =>
      UInt64.lt_one_iff.mp (single ▸ belowCount child member) }

/-- A fixture with the blocks of a complete one, all targets below its node count, is
shaped. -/
theorem shaped_of_blocks_eq {fixture : Fixture}
    (below : ∀ place, target place < fixture.nodeCount)
    (blocks_eq : fixture.blocks = completeBlocks fixture.nodeCount target) :
    fixture.Shaped fixture.nodeCount where
  nodeCount_eq := rfl
  length_blocks := by rw [blocks_eq, length_completeBlocks]
  node_at index inRange := by
    rw [blocks_eq, getElem?_completeBlocks_of_lt target (UInt64.lt_iff_toNat_lt.mp inRange)]
    exact ⟨_, rfl, congrArg NodeName.indexed (UInt64.ofNat_toNat)⟩
  root_at := by
    rw [blocks_eq, getElem?_completeBlocks_root]
    exact ⟨_, rfl, rfl⟩
  trailer_at := by rw [blocks_eq, getElem?_completeBlocks_trailer]
  eq_of_root_at position declaration found := by
    rw [blocks_eq] at found
    rcases kind_of_getElem?_completeBlocks found with ⟨_, _, isNode⟩ | ⟨here, _⟩ | ⟨_, isTrailer⟩
    · exact nomatch isNode
    · exact here
    · exact nomatch isTrailer
  eq_of_trailer_at position found := by
    rw [blocks_eq] at found
    rcases kind_of_getElem?_completeBlocks found with ⟨_, _, isNode⟩ | ⟨_, _, isRoot⟩ | ⟨here, _⟩
    · exact nomatch isNode
    · exact nomatch isRoot
    · exact here
  proper declaration member := by
    rw [blocks_eq] at member
    obtain ⟨name, position, rfl⟩ := exists_declarationAt_of_mem member
    exact proper_declarationAt below name position
  nodes_eq := by
    rw [nodes, blocks_eq]
    simp [completeBlocks, List.filterMap_map, Function.comp_def]
  root?_eq := by
    have noneBefore (count : Nat) :
        (List.range count).findSome? (fun _ => (none : Option Declaration)) = none := by
      simp [List.findSome?_eq_none_iff]
    rw [root?, blocks_eq, getElem?_completeBlocks_root]
    simp [completeBlocks, List.findSome?_append, List.findSome?_map, Function.comp_def, noneBefore]

/-- Every sampled fixture is shaped for its node count. -/
theorem Sampled.shaped {fixture : Fixture} (sampled : fixture.Sampled) :
    fixture.Shaped fixture.nodeCount := by
  obtain ⟨nonzero, targets, _, below, dealt⟩ := sampled.exists_dealt
  apply shaped_of_blocks_eq _ (congrArg Fixture.blocks dealt)
  intro place
  rw [List.getD_eq_getElem?_getD]
  cases found : targets[place]? with
  | none => exact UInt64.lt_iff_toNat_lt.mpr (Bounded.toNat_pos nonzero)
  | some isTarget => exact below _ (List.mem_of_getElem? found)

end Fixture

/-! ## Seeds -/

/-- A fixture comes from a seed, which the recipe names or else entropy gives, and
records it.  From the recorded seed the same fixture is sampled again. -/
structure Recipe.Traced (recipe : Recipe) (entropy : Except String UInt64) (fixture : Fixture)
    (seed : UInt64) : Prop where
  used : recipe.seed.or entropy.toOption = some seed
  recorded : fixture.seed = some seed
  /-- The source of the seed, handed in, gives the same blocks. -/
  drawn : ∃ unseeded rest,
    (recipe.build.bind fun generator =>
      generator.sampleWith Xoshiro.stateCount (Xoshiro.ofSeed seed)) = .ok (unseeded, rest) ∧
    unseeded.blocks = fixture.blocks
  /-- Whatever entropy there is, it plays no part any more. -/
  replayed : ∀ other : Except String UInt64,
    (({ recipe with seed := fixture.seed } : Recipe).build.bind fun generator =>
      generator.sample other) = .ok fixture

namespace Generator

variable {generator : Generator} {fixture : Fixture}

/-- A generator with a seed of its own samples from that seed, whatever entropy there
is. -/
theorem sample_of_seed {seed : UInt64} (own : generator.seed = some seed)
    (entropy : Except String UInt64) : generator.sample entropy = generator.sampleSeeded seed := by
  rw [sample, chooseSeed, own]
  rfl

/-- From the same seed every generator of the same node count samples the same fixture. -/
theorem sampleSeeded_congr {other : Generator} (sameCount : generator.nodeCount = other.nodeCount)
    (seed : UInt64) : generator.sampleSeeded seed = other.sampleSeeded seed := by
  rw [sampleSeeded, sampleSeeded, drawFixture_congr sameCount]

theorem shaped_of_sample {entropy : Except String UInt64}
    (sampled : generator.sample entropy = .ok fixture) : fixture.Shaped generator.nodeCount := by
  obtain ⟨seed, _, seeded⟩ := sample_eq_ok_iff.mp sampled
  obtain ⟨rest, drawn⟩ := sampleSeeded_eq_ok_iff.mp seeded
  rw [← (nodeCount_and_seed_of_drawFixture drawn).1]
  exact (Fixture.Sampled.seeded generator entropy sampled).shaped

theorem shaped_of_sampleWith {Source : Type} [WordSource Source] {patience : Nat}
    {source rest : Source} (sampled : generator.sampleWith patience source = .ok (fixture, rest)) :
    fixture.Shaped generator.nodeCount := by
  rw [← (nodeCount_and_seed_of_drawFixture sampled).1]
  exact (Fixture.Sampled.handed generator patience source sampled).shaped

end Generator

namespace Recipe

/-- Another seed makes another generator of the same node count. -/
theorem build_with_seed {recipe : Recipe} (nonzero : recipe.nodeCount ≠ 0) (seed : Option UInt64) :
    ({ recipe with seed := seed } : Recipe).build = .ok ⟨recipe.nodeCount, seed, nonzero⟩ :=
  dif_pos nonzero

theorem exists_traced {recipe : Recipe} (nonzero : recipe.nodeCount ≠ 0)
    (fits : Fixture.fits recipe.nodeCount = true) {entropy : Except String UInt64}
    {fixture : Fixture}
    (sampled : Generator.sample ⟨recipe.nodeCount, recipe.seed, nonzero⟩ entropy = .ok fixture) :
    ∃ seed, recipe.Traced entropy fixture seed := by
  obtain ⟨seed, used, seeded⟩ := Generator.sample_eq_ok_iff.mp sampled
  obtain ⟨rest, drawn⟩ := Generator.sampleSeeded_eq_ok_iff.mp seeded
  obtain ⟨same, unseeded, left, sampledSame, drawnUnseeded, sameBlocks⟩ :=
    Generator.exists_sampleSeeded ⟨recipe.nodeCount, recipe.seed, nonzero⟩ fits seed
  obtain rfl : fixture = same := Except.ok.inj (seeded.symm.trans sampledSame)
  have recorded := (Generator.nodeCount_and_seed_of_drawFixture drawn).2
  refine ⟨seed, used, recorded, ⟨unseeded, left, ?_, sameBlocks.symm⟩, fun other => ?_⟩
  · rw [build_of_ne_zero nonzero]
    exact drawnUnseeded
  · rw [recorded, build_with_seed nonzero]
    calc Generator.sample ⟨recipe.nodeCount, some seed, nonzero⟩ other
        = Generator.sampleSeeded ⟨recipe.nodeCount, some seed, nonzero⟩ seed :=
          Generator.sample_of_seed rfl other
      _ = Generator.sampleSeeded ⟨recipe.nodeCount, recipe.seed, nonzero⟩ seed :=
          Generator.sampleSeeded_congr (by rfl) seed
      _ = .ok fixture := seeded

end Recipe

/-- Every recipe with nodes that fit makes a generator whose fixtures are shaped for
its node count.  Sampled by the generator itself, which succeeds from every seed,
a fixture can be traced back to its seed.  Sampled from a source that was handed in,
it records no seed, and the seed of the recipe makes no difference. -/
theorem sampled_fixtures_shaped (recipe : Recipe) (positive : 1 ≤ recipe.nodeCount)
    (fits : Fixture.fits recipe.nodeCount = true) :
    ∃ generator, recipe.build = .ok generator ∧
      (∀ entropy : Except String UInt64, (recipe.seed.or entropy.toOption).isSome →
        ∃ fixture, generator.sample entropy = .ok fixture) ∧
      (∀ entropy fixture, generator.sample entropy = .ok fixture →
        fixture.Shaped recipe.nodeCount ∧ ∃ seed, recipe.Traced entropy fixture seed) ∧
      (∀ (Source : Type) [WordSource Source] (patience : Nat) (source rest : Source) fixture,
        generator.sampleWith patience source = .ok (fixture, rest) →
          fixture.Shaped recipe.nodeCount ∧ fixture.seed = none ∧
            ∀ seed, (({ recipe with seed := seed } : Recipe).build.bind fun other =>
              other.sampleWith patience source) = .ok (fixture, rest)) := by
  have nonzero : recipe.nodeCount ≠ 0 := Bounded.one_le_iff_ne_zero.mp positive
  refine ⟨_, Recipe.build_of_ne_zero nonzero, ?_, ?_, ?_⟩
  · intro entropy settled
    obtain ⟨seed, used⟩ := Option.isSome_iff_exists.mp settled
    exact Generator.exists_sample ⟨recipe.nodeCount, recipe.seed, nonzero⟩ fits used
  · intro entropy fixture sampled
    exact ⟨Generator.shaped_of_sample sampled, Recipe.exists_traced nonzero fits sampled⟩
  · intro Source _ patience source rest fixture sampled
    refine ⟨Generator.shaped_of_sampleWith sampled,
      (Generator.nodeCount_and_seed_of_drawFixture sampled).2, fun seed => ?_⟩
    rw [Recipe.build_with_seed nonzero]
    calc Generator.sampleWith ⟨recipe.nodeCount, seed, nonzero⟩ patience source
        = Generator.sampleWith ⟨recipe.nodeCount, recipe.seed, nonzero⟩ patience source :=
          Generator.drawFixture_congr (by rfl) none patience source
      _ = .ok (fixture, rest) := sampled

/-- From the entropy five, two nodes are sampled and the five is recorded. -/
theorem sampled_fixtures_shaped_two :
    let recipe : Recipe := { nodeCount := 2 }
    1 ≤ recipe.nodeCount ∧ Fixture.fits recipe.nodeCount = true ∧
      ∃ fixture, (recipe.build.bind fun generator => generator.sample (.ok 5)) = .ok fixture ∧
        fixture.Shaped 2 ∧ recipe.Traced (.ok 5) fixture 5 := by
  intro recipe
  have positive : 1 ≤ recipe.nodeCount := by decide
  have fits : Fixture.fits recipe.nodeCount = true := by decide
  obtain ⟨generator, built, completes, ofSample, _⟩ :=
    sampled_fixtures_shaped recipe positive fits
  obtain ⟨fixture, sampled⟩ := completes (.ok 5) rfl
  obtain ⟨shaped, seed, traced⟩ := ofSample (.ok 5) fixture sampled
  obtain rfl : 5 = seed := Option.some.inj traced.used
  exact ⟨positive, fits, fixture, by rw [built]; exact sampled, shaped, traced⟩

end GraphFixture
