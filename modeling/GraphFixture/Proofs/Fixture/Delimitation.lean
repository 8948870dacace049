import GraphFixture.Proofs.Block.Unambiguity
import GraphFixture.Proofs.Fixture.Sampled

/-!
# Sampled fixtures delimit themselves

The root and the trailer end a sampled fixture at a place that only its node
count determines.  So no sampled fixture starts another one, neither as a block
list nor as a text, and a text that was cut off never passes for a whole one.
-/

namespace GraphFixture

/-! ## Where the layouts part -/

/-- The blank that follows the first opening brace. -/
def Layout.afterBrace : Layout → Char
  | .compact => ' '
  | .expanded => '\n'

/-- The text of a node block up to its first opening brace. -/
def Declaration.opening (declaration : Declaration) : List Char :=
  "node ".toList ++ declaration.name.text ++ " \x7b".toList

/-- Behind its first opening brace the text of a node block tells its layout. -/
theorem Block.text_node_eq (layout : Layout) (declaration : Declaration) :
    ∃ rest, (node declaration).text layout =
      declaration.opening ++ layout.afterBrace :: rest := by
  have woven : ∃ words gap gaps, (node declaration).text layout = Blank.weave
      ("node".toList :: declaration.name.text :: ['{'] :: words)
      ([' '] :: [' '] :: (layout.afterBrace :: gap) :: gaps) := by
    rw [text_eq_weave]
    cases layout <;> exact ⟨_, _, _, rfl⟩
  obtain ⟨words, gap, gaps, text_eq⟩ := woven
  rw [text_eq]
  unfold Declaration.opening
  simp only [Blank.weave_cons_cons, List.append_assoc]
  exact ⟨_, rfl⟩

/-- A text in one layout starts no text of the same blocks in the other one,
when the first block is a node. -/
theorem Block.layout_eq_of_render_isPrefix {first second : Layout}
    {declaration : Declaration} {others : List Block}
    (starts : render first (.node declaration :: others) <+:
      render second (.node declaration :: others)) :
    first = second := by
  have opens (layout : Layout) : ∃ rest,
      render layout (.node declaration :: others) =
        declaration.opening ++ layout.afterBrace :: rest := by
    obtain ⟨rest, text_eq⟩ := text_node_eq layout declaration
    cases others with
    | nil => exact ⟨rest, by rw [render_singleton, text_eq]⟩
    | cons other others =>
        rw [render_cons_cons, text_eq, List.append_assoc, List.cons_append]
        exact ⟨_, rfl⟩
  obtain ⟨firstRest, first_eq⟩ := opens first
  obtain ⟨secondRest, second_eq⟩ := opens second
  rw [first_eq, second_eq, List.prefix_append_right_inj, List.cons_prefix_cons]
    at starts
  cases first <;> cases second <;> first | rfl | exact absurd starts.1 (by decide)

/-- A block list whose text starts the text of another one starts it, whatever
the layouts are. -/
theorem Block.isPrefix_of_render_isPrefix {left right : List Block}
    {first second : Layout}
    (starts : render first left <+: render second right) : left <+: right := by
  obtain ⟨rest, equal⟩ := starts
  apply isPrefix_of_flatMap_words_isPrefix
  refine ⟨Blank.words rest, ?_⟩
  rw [← words_render_append first, equal, words_render]

/-! ## Sampled fixtures -/

namespace Fixture

/-- A sampled fixture whose blocks start those of another one has the same
blocks and the same node count. -/
theorem Sampled.eq_of_blocks_isPrefix {left right : Fixture}
    (sampledLeft : left.Sampled) (sampledRight : right.Sampled)
    (starts : left.blocks <+: right.blocks) :
    left.blocks = right.blocks ∧ left.nodeCount = right.nodeCount := by
  obtain ⟨leftTarget, leftBlocks⟩ := sampledLeft.exists_blocks_eq
  obtain ⟨rightTarget, rightBlocks⟩ := sampledRight.exists_blocks_eq
  have sameCount : left.nodeCount = right.nodeCount := by
    rw [leftBlocks, rightBlocks] at starts
    exact nodeCount_eq_of_completeBlocks_isPrefix starts
  refine ⟨starts.eq_of_length ?_, sameCount⟩
  rw [leftBlocks, rightBlocks, length_completeBlocks, length_completeBlocks, sameCount]

/-- A sampled fixture starts with a node block. -/
theorem Sampled.exists_blocks_eq_cons {fixture : Fixture}
    (sampled : fixture.Sampled) :
    ∃ declaration others, fixture.blocks = .node declaration :: others := by
  obtain ⟨target, blocks_eq⟩ := sampled.exists_blocks_eq
  have atFirst := getElem?_completeBlocks_of_lt target
    (Bounded.toNat_pos sampled.nodeCount_ne_zero)
  rw [← blocks_eq] at atFirst
  cases shape : fixture.blocks with
  | nil => simp [shape] at atFirst
  | cons first others =>
      rw [shape, List.getElem?_cons_zero, Option.some.injEq] at atFirst
      exact ⟨_, others, by rw [atFirst]⟩

/-! ## Agreement -/

/-- Two block lists agree at every position of their common length. -/
def Agree (left right : List Block) : Prop :=
  ∀ position (inLeft : position < left.length) (inRight : position < right.length),
    left[position] = right[position]

theorem agree_comm {left right : List Block} : Agree left right ↔ Agree right left := by
  constructor <;> exact fun agree position inRight inLeft =>
    (agree position inLeft inRight).symm

theorem agree_iff_isPrefix {left right : List Block}
    (shorter : left.length ≤ right.length) : Agree left right ↔ left <+: right := by
  rw [List.prefix_iff_getElem]
  constructor
  · intro agree
    exact ⟨shorter, fun position inLeft =>
      agree position inLeft (Nat.lt_of_lt_of_le inLeft shorter)⟩
  · rintro ⟨_, same⟩ position inLeft _
    exact same position inLeft

theorem firstDifference_eq_none_iff {left right : List Block} :
    firstDifference left right = none ↔ Agree left right := by
  rw [firstDifference, List.findIdx?_eq_none_iff, List.forall_mem_iff_forall_getElem]
  constructor
  · intro same position inLeft inRight
    have inZip : position < (left.zip right).length := by
      rw [List.length_zip]
      exact Nat.lt_min.mpr ⟨inLeft, inRight⟩
    simpa using same position inZip
  · intro agree position inZip
    rw [List.length_zip] at inZip
    obtain ⟨inLeft, inRight⟩ := Nat.lt_min.mp inZip
    simpa using agree position inLeft inRight

theorem Sampled.blocks_eq_of_agree {left right : Fixture}
    (sampledLeft : left.Sampled) (sampledRight : right.Sampled)
    (agree : Agree left.blocks right.blocks) : left.blocks = right.blocks := by
  rcases Nat.le_total left.blocks.length right.blocks.length with shorter | shorter
  · have starts := (agree_iff_isPrefix shorter).mp agree
    exact (sampledLeft.eq_of_blocks_isPrefix sampledRight starts).1
  · have starts := (agree_iff_isPrefix shorter).mp (agree_comm.mp agree)
    exact (sampledRight.eq_of_blocks_isPrefix sampledLeft starts).1.symm

/-- Sampled fixtures delimit themselves: one that starts another one, as a
block list or as a text in any layouts, is that other one. -/
theorem sampled_fixtures_delimited {left right : Fixture}
    (sampledLeft : left.Sampled) (sampledRight : right.Sampled) :
    (left.blocks <+: right.blocks →
      left.blocks = right.blocks ∧ left.nodeCount = right.nodeCount) ∧
    (∀ first second : Layout, left.render first <+: right.render second →
      first = second ∧ left.blocks = right.blocks ∧
        left.nodeCount = right.nodeCount) ∧
    (Agree left.blocks right.blocks ↔ left.blocks = right.blocks) ∧
    (firstDifference left.blocks right.blocks = none ↔
      left.blocks = right.blocks) ∧
    (left = right ↔ left.blocks = right.blocks ∧ left.seed = right.seed) := by
  have ofBlocks := sampledLeft.eq_of_blocks_isPrefix sampledRight
  have ofAgreement : Agree left.blocks right.blocks ↔ left.blocks = right.blocks := by
    constructor
    · exact sampledLeft.blocks_eq_of_agree sampledRight
    · intro same
      rw [same]
      exact fun _ _ _ => rfl
  refine ⟨ofBlocks, ?_, ofAgreement, ?_, ?_⟩
  · intro first second starts
    have same := ofBlocks (Block.isPrefix_of_render_isPrefix starts)
    refine ⟨?_, same⟩
    -- The texts are of the same blocks, so the first block tells the layouts apart.
    obtain ⟨declaration, others, shape⟩ := sampledLeft.exists_blocks_eq_cons
    unfold Fixture.render at starts
    rw [← same.1, shape] at starts
    exact Block.layout_eq_of_render_isPrefix starts
  · rw [firstDifference_eq_none_iff, ofAgreement]
  · constructor
    · intro same
      rw [same]
      exact ⟨rfl, rfl⟩
    · rintro ⟨sameBlocks, sameSeed⟩
      have sameCount := (ofBlocks (sameBlocks ▸ List.prefix_rfl)).2
      cases left
      cases right
      simp_all

/-- The texts of the fixtures with one node and with ten nodes part, although
the digits of the first names start alike. -/
theorem sampled_fixtures_delimited_one_ten :
    Sampled (ofTargets 1 none (List.replicate 8 0)) ∧
      Sampled (ofTargets 10 none (List.replicate 44 0)) ∧
      ∀ first second : Layout,
        ¬ (ofTargets 1 none (List.replicate 8 0)).render first <+:
          (ofTargets 10 none (List.replicate 44 0)).render second := by
  let source := Progression.mk 0 0
  have one : Sampled (ofTargets 1 none (List.replicate 8 0)) := by
    have drawn := Generator.drawFixture_of_spans ⟨1, none, by decide⟩ (by decide) none
      (Nat.le_refl 8) (by decide +kernel : Bounded.Spans 1 8 (WordSource.first 8 source))
    rw [show Bounded.numbers 1 (WordSource.first 8 source) = List.replicate 8 0 by
      decide +kernel] at drawn
    exact .handed _ _ source drawn
  have ten : Sampled (ofTargets 10 none (List.replicate 44 0)) := by
    have drawn := Generator.drawFixture_of_spans ⟨10, none, by decide⟩ (by decide) none
      (Nat.le_refl 44) (by decide +kernel : Bounded.Spans 10 44 (WordSource.first 44 source))
    rw [show Bounded.numbers 10 (WordSource.first 44 source) = List.replicate 44 0 by
      decide +kernel] at drawn
    exact .handed _ _ source drawn
  refine ⟨one, ten, ?_⟩
  intro first second starts
  have sameCount := ((sampled_fixtures_delimited one ten).2.1 first second starts).2.2
  exact absurd sameCount (by decide)

end Fixture
end GraphFixture
