import GraphFixture.Generator
import GraphFixture.Proofs.Attempt
import GraphFixture.Proofs.Fixture.Dealing
import GraphFixture.Proofs.Random.Mirror

/-!
# Drawing a fixture is drawing its targets

A generator draws child by child, declaration by declaration and node by node.
All together it draws one row of targets, which the fixture deals out to its
slots in block order.  Nothing is drawn between two children, and nothing after
the root.
-/

namespace GraphFixture

namespace Generator

variable {Source : Type} [WordSource Source]

/-- Drawing a declaration is drawing its four targets. -/
theorem drawDeclaration_eq (generator : Generator) (patience : Nat)
    (name : NodeName) (source : Source) :
    generator.drawDeclaration patience name source =
      (Bounded.drawMany generator.nodeCount patience Declaration.arity source).map
        fun drawn =>
          (Fixture.declarationAt (fun place => drawn.1.getD place 0) name 0, drawn.2) := by
  have drawChild_eq (label : Label) (source : Source) :
      generator.drawChild patience label source =
        (Bounded.draw generator.nodeCount patience source).map fun next =>
          ({ label, target := next.1 }, next.2) := by
    unfold drawChild
    cases Bounded.draw generator.nodeCount patience source <;> rfl
  simp only [drawDeclaration, drawChild_eq, Declaration.arity, Bounded.drawMany_succ,
    Bounded.drawMany_zero, Option.bind_eq_bind, Option.bind_map, Option.map_bind, Option.map_some,
    Function.comp_def]
  rfl

/-- Drawing node blocks is drawing four targets for each of them. -/
theorem drawNodes_eq (generator : Generator) (patience count : Nat)
    (index : UInt64) (blocks : Array Block) (source : Source) :
    generator.drawNodes patience count index blocks source =
      (Bounded.drawMany generator.nodeCount patience (Declaration.arity * count)
        source).map fun drawn =>
          (blocks ++ ((List.range count).map fun position =>
            Block.node (Fixture.declarationAt (fun place => drawn.1.getD place 0)
              (.indexed (index + UInt64.ofNat position)) position)).toArray, drawn.2) := by
  induction count generalizing index blocks source with
  | zero => simp [drawNodes]
  | succ count inductionHypothesis =>
      have more : Declaration.arity * (count + 1) =
          Declaration.arity + Declaration.arity * count := by
        rw [Nat.mul_succ, Nat.add_comm]
      rw [drawNodes, drawDeclaration_eq, more, Bounded.drawMany_add]
      cases drawnFirst : Bounded.drawMany generator.nodeCount patience
          Declaration.arity source with
      | none => rfl
      | some first =>
          have full := Bounded.length_drawMany drawnFirst
          have filled : Declaration.arity * (0 + 1) ≤ first.1.length := by
            rw [full]
            decide
          have names (position : Nat) :
              index + UInt64.ofNat (position + 1) =
                index + 1 + UInt64.ofNat position := by
            rw [UInt64.ofNat_add, UInt64.add_comm (UInt64.ofNat position),
              ← UInt64.add_assoc]
            rfl
          rw [Option.map_some, Option.bind_some, Option.map_map]
          dsimp only
          rw [inductionHypothesis]
          congr 1
          funext later
          simp only [Function.comp_apply, List.range_succ_eq_map, List.map_cons,
            List.map_map, Function.comp_def, Nat.succ_eq_add_one, names,
            Fixture.declarationAt_append_succ full,
            Fixture.declarationAt_append_of_lt filled]
          simp

/-- Drawing the blocks of a fixture is drawing one row of targets and dealing
them out. -/
theorem drawBlocks_eq (generator : Generator) (patience : Nat)
    (source : Source) :
    generator.drawBlocks patience source =
      (Bounded.drawMany generator.nodeCount patience
        (Fixture.childCount generator.nodeCount) source).map fun drawn =>
          (Fixture.completeBlocks generator.nodeCount
            (fun place => drawn.1.getD place 0), drawn.2) := by
  have all : Fixture.childCount generator.nodeCount =
      Declaration.arity * generator.nodeCount.toNat + Declaration.arity := by
    rw [Fixture.childCount, Nat.mul_succ]
  rw [drawBlocks, drawNodes_eq, all, Bounded.drawMany_add]
  cases drawnNodes : Bounded.drawMany generator.nodeCount patience
      (Declaration.arity * generator.nodeCount.toNat) source with
  | none => rfl
  | some nodes =>
      have full := Bounded.length_drawMany drawnNodes
      simp only [Option.map_some, Option.bind_eq_bind, Option.bind_some,
        drawDeclaration_eq, Option.bind_map, Option.map_map, Function.comp_def]
      cases drawnRoot : Bounded.drawMany generator.nodeCount patience
          Declaration.arity nodes.2 with
      | none => rfl
      | some root =>
          simp only [Option.bind_some, Option.map_some,
            Fixture.completeBlocks_append full]
          simp

/-- Drawing a fixture is drawing one row of targets, provided that its blocks
fit. -/
theorem drawFixture_eq (generator : Generator)
    (fits : Fixture.fits generator.nodeCount = true) (seed : Option UInt64)
    (patience : Nat) (source : Source) :
    generator.drawFixture seed patience source =
      match Bounded.drawMany generator.nodeCount patience
          (Fixture.childCount generator.nodeCount) source with
      | some (targets, rest) =>
          .ok (Fixture.ofTargets generator.nodeCount seed targets, rest)
      | none => .error .unendingDraw := by
  rw [drawFixture, if_pos fits, drawBlocks_eq]
  cases Bounded.drawMany generator.nodeCount patience
      (Fixture.childCount generator.nodeCount) source <;> rfl

/-- Once the blocks fit, the source is the only thing that can fail. -/
theorem eq_unendingDraw_of_drawFixture (generator : Generator)
    (fits : Fixture.fits generator.nodeCount = true) {seed : Option UInt64}
    {patience : Nat} {source : Source} {error : FixtureError}
    (failed : generator.drawFixture seed patience source = .error error) :
    error = .unendingDraw := by
  rw [drawFixture_eq generator fits] at failed
  cases drawn : Bounded.drawMany generator.nodeCount patience
      (Fixture.childCount generator.nodeCount) source with
  | none =>
      rw [drawn] at failed
      exact (Except.error.inj failed).symm
  | some outcome =>
      rw [drawn] at failed
      exact absurd failed (by simp)

/-- A span for all children of a fixture makes up the fixture, given a patience
that is not shorter than the span. -/
theorem drawFixture_of_spans (generator : Generator)
    (fits : Fixture.fits generator.nodeCount = true) (seed : Option UInt64)
    {patience length : Nat} {source : Source} (enough : length ≤ patience)
    (spans : Bounded.Spans generator.nodeCount
      (Fixture.childCount generator.nodeCount) (WordSource.first length source)) :
    generator.drawFixture seed patience source =
      .ok (Fixture.ofTargets generator.nodeCount seed
        (Bounded.numbers generator.nodeCount (WordSource.first length source)),
        WordSource.advance length source) := by
  have drawn := Bounded.drawMany_of_span enough spans.endsAccepted
  rw [spans.length_numbers] at drawn
  rw [drawFixture_eq generator fits, drawn]

/-- A fixture that was drawn comes from a span for all its children, and the
words of the span are used up. -/
theorem exists_spans_of_drawFixture {generator : Generator}
    {seed : Option UInt64} {patience : Nat} {source rest : Source}
    {fixture : Fixture}
    (drawn : generator.drawFixture seed patience source = .ok (fixture, rest)) :
    ∃ length,
      Bounded.Spans generator.nodeCount (Fixture.childCount generator.nodeCount)
        (WordSource.first length source) ∧
      fixture = Fixture.ofTargets generator.nodeCount seed
        (Bounded.numbers generator.nodeCount (WordSource.first length source)) ∧
      rest = WordSource.advance length source := by
  cases fits : Fixture.fits generator.nodeCount with
  | false => simp [drawFixture, fits] at drawn
  | true =>
      rw [drawFixture_eq generator fits] at drawn
      cases complete : Bounded.drawMany generator.nodeCount patience
          (Fixture.childCount generator.nodeCount) source with
      | none =>
          rw [complete] at drawn
          exact absurd drawn (by simp)
      | some outcome =>
          obtain ⟨targets, left⟩ := outcome
          rw [complete] at drawn
          obtain ⟨rfl, rfl⟩ := Prod.mk.inj (Except.ok.inj drawn)
          obtain ⟨length, left_eq, targets_eq, ends⟩ :=
            Bounded.exists_span_of_drawMany complete
          refine ⟨length, ⟨?_, ends⟩, ?_, left_eq⟩
          · rw [targets_eq, Bounded.length_drawMany complete]
          · rw [targets_eq]

/-- Through a handle a generator draws the same fixture. -/
theorem drawFixture_handle (generator : Generator) (seed : Option UInt64)
    (patience : Nat) (source : Source) :
    generator.drawFixture seed patience (Handle.of source) =
      (generator.drawFixture seed patience source).map fun drawn =>
        (drawn.1, Handle.of drawn.2) := by
  cases fits : Fixture.fits generator.nodeCount with
  | false => simp [drawFixture, fits, Except.map]
  | true =>
      rw [drawFixture_eq generator fits, drawFixture_eq generator fits,
        Bounded.drawMany_mirror Handle.mirrors_of]
      cases Bounded.drawMany generator.nodeCount patience
        (Fixture.childCount generator.nodeCount) source <;> rfl

/-- Of a generator only the node count plays a part in drawing. -/
theorem drawFixture_congr {generator other : Generator}
    (sameCount : generator.nodeCount = other.nodeCount) (seed : Option UInt64)
    (patience : Nat) (source : Source) :
    generator.drawFixture seed patience source = other.drawFixture seed patience source := by
  cases fits : Fixture.fits generator.nodeCount with
  | false => simp [drawFixture, fits, ← sameCount]
  | true =>
      rw [drawFixture_eq generator fits, drawFixture_eq other (sameCount ▸ fits), sameCount]

/-- A fixture that was drawn is of the node count of the generator and records the
seed that it was drawn with. -/
theorem nodeCount_and_seed_of_drawFixture {generator : Generator} {seed : Option UInt64}
    {patience : Nat} {source rest : Source} {fixture : Fixture}
    (drawn : generator.drawFixture seed patience source = .ok (fixture, rest)) :
    fixture.nodeCount = generator.nodeCount ∧ fixture.seed = seed := by
  obtain ⟨_, _, rfl, _⟩ := exists_spans_of_drawFixture drawn
  exact ⟨rfl, rfl⟩

/-! ## Sampling from a seed -/

theorem chooseSeed_eq_ok_iff {generator : Generator} {entropy : Except String UInt64}
    {seed : UInt64} :
    generator.chooseSeed entropy = .ok seed ↔
      generator.seed.or entropy.toOption = some seed := by
  unfold chooseSeed
  cases generator.seed with
  | some own => simp
  | none =>
      rw [Option.none_or]
      apply Attempt.mapError_eq_ok_iff.trans
      cases entropy <;> simp [Except.toOption]

theorem sampleSeeded_eq_ok_iff {generator : Generator} {seed : UInt64} {fixture : Fixture} :
    generator.sampleSeeded seed = .ok fixture ↔
      ∃ rest, generator.drawFixture (some seed) Xoshiro.stateCount (Xoshiro.ofSeed seed) =
        .ok (fixture, rest) := by
  rw [sampleSeeded, Attempt.map_eq_ok_iff]
  constructor
  · rintro ⟨⟨_, rest⟩, drawn, rfl⟩
    exact ⟨rest, drawn⟩
  · rintro ⟨rest, drawn⟩
    exact ⟨_, drawn, rfl⟩

/-- A generator samples a fixture exactly by settling on a seed and drawing the
fixture from the source of that seed. -/
theorem sample_eq_ok_iff {generator : Generator} {entropy : Except String UInt64}
    {fixture : Fixture} :
    generator.sample entropy = .ok fixture ↔
      ∃ seed, generator.seed.or entropy.toOption = some seed ∧
        generator.sampleSeeded seed = .ok fixture := by
  simp only [sample, Attempt.bind_eq_ok_iff, chooseSeed_eq_ok_iff]

end Generator
end GraphFixture
