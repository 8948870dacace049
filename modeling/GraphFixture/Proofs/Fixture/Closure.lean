import GraphFixture.Proofs.Block.Mentions
import GraphFixture.Proofs.Fixture.Sampled
import Mathlib.Data.List.DropRight
import Mathlib.Data.List.Nodup

/-!
# Generated texts are referentially closed

Read as white-space separated words alone, the text of a sampled fixture
declares every index in order and then the root.  All names differ, and each
reference is to exactly one of the indexed nodes, because every target was drawn
below the node count and decimal numerals tell indices apart.  The trailer
follows the last declaration, and none of its keywords stand before it.
-/

namespace GraphFixture
namespace Fixture

open WordSite

/-- The names that a fixture of some number of nodes declares, in order. -/
def declaredNames (count : Nat) : List (List Char) :=
  (List.range count).map (fun index => "Node".toList ++ Decimal.digits index) ++
    ["Noderoot".toList]

/-- The places of the words that open declarations. -/
def openings (words : List (List Char)) : List WordSite :=
  (Site.all words).filter opens

/-- The places of the words that start like names. -/
def mentions (words : List (List Char)) : List WordSite :=
  (Site.all words).filter isMention

/-- The places of the words that start like names but declare none. -/
def references (words : List (List Char)) : List WordSite :=
  (mentions words).filter fun site => !site.isDeclared

/-- The words behind the last declaration: those after the first closing brace
with a semicolon behind the last word that opens a declaration. -/
def afterDeclarations (words : List (List Char)) : List (List Char) :=
  ((words.rtakeWhile (· ≠ "node".toList)).dropWhile (· ≠ ['}', ';'])).tail

/-- The words that end every fixture, as one text. -/
def trailerText : List Char :=
  "root phase A \x7b passes \x7b B \x7d \x7d; pass B;".toList

/-- The words of a text refer to each other as those of a fixture with some
number of nodes do. -/
structure ReferentiallyClosed (count : Nat) (words : List (List Char)) : Prop where
  declared : (openings words).map Site.after = (declaredNames count).map some
  different : (declaredNames count).Nodup
  /-- The word for the root stands before the last declaration only. -/
  rooted : (openings words).map (fun site => decide (site.before = some "root".toList)) =
    List.replicate count false ++ [true]
  labelled : ∀ site ∈ references words, ∃ label : Label, site.after = some label.spelling
  resolved : ∀ site ∈ references words, (declaredNames count).count site.item = 1 ∧
    site.item ≠ "Noderoot".toList
  length_references : (references words).length = 4 * (count + 1)
  /-- Each declared name is followed by references with the four labels in order,
  and then by the next declared name. -/
  slots : (mentions words).map (fun site => if site.isDeclared then none else site.after) =
    (List.replicate (count + 1) (none :: [.a, .b, .c, .d].map (some ∘ Label.spelling))).flatten
  trailed : afterDeclarations words = Blank.words trailerText
  /-- Before the trailer stands none of its own keywords. -/
  unmixed : ∃ front, words = front ++ Blank.words trailerText ∧
    ∀ keyword ∈ ["phase".toList, "passes".toList, "pass".toList], keyword ∉ front

/-! ## The names and references of a complete fixture -/

variable {nodeCount : UInt64} {target : Nat → UInt64}

theorem length_filterMap_declaration?_completeBlocks :
    ((completeBlocks nodeCount target).filterMap Block.declaration?).length =
      nodeCount.toNat + 1 := by
  simp [filterMap_declaration?_completeBlocks]

theorem filterMap_isRoot?_completeBlocks :
    (completeBlocks nodeCount target).filterMap Block.isRoot? =
      List.replicate nodeCount.toNat false ++ [true] := by
  simp [completeBlocks, List.filterMap_map, Function.comp_def, Block.isRoot?]

theorem declaredNames_eq :
    declaredNames nodeCount.toNat =
      ((completeBlocks nodeCount target).filterMap Block.declaration?).map
        fun declaration => declaration.name.text := by
  rw [filterMap_declaration?_completeBlocks, List.map_append, List.map_map, declaredNames]
  congr 1
  apply List.map_congr_left
  intro index member
  have inWord : index < UInt64.size :=
    Nat.lt_trans (List.mem_range.mp member) nodeCount.toNat_lt
  simp [declarationAt, NodeName.text, NodeName.stem, UInt64.toNat_ofNat_of_lt' inWord]

/-- The text of an index below the count is declared. -/
theorem text_mem_declaredNames {index : UInt64} (below : index < nodeCount) :
    (NodeName.indexed index).text ∈ declaredNames nodeCount.toNat :=
  List.mem_append_left _
    (List.mem_map.mpr ⟨index.toNat, List.mem_range.mpr (UInt64.lt_iff_toNat_lt.mp below), rfl⟩)

theorem nodup_declaredNames (count : UInt64) : (declaredNames count.toNat).Nodup := by
  have different : Function.Injective fun index : Nat =>
      "Node".toList ++ Decimal.digits index := by
    intro left right equal
    exact Decimal.digits_injective (List.append_cancel_left equal)
  rw [declaredNames, List.nodup_append]
  refine ⟨List.Nodup.map different List.nodup_range, List.nodup_singleton _, ?_⟩
  rintro name member other isRoot equal
  obtain ⟨index, inRange, rfl⟩ := List.mem_map.mp member
  rw [List.mem_singleton.mp isRoot] at equal
  have inWord : index < UInt64.size :=
    Nat.lt_trans (List.mem_range.mp inRange) count.toNat_lt
  have sameText : (NodeName.indexed (UInt64.ofNat index)).text = NodeName.root.text := by
    rw [NodeName.text, UInt64.toNat_ofNat_of_lt' inWord]
    exact equal
  cases NodeName.text_injective sameText

/-! ## Reading the words of a block list -/

theorem openings_flatMap_words (blocks : List Block) :
    openings (blocks.flatMap Block.words) =
      (Site.between none none (blocks.flatMap Block.words)).filter opens :=
  rfl

theorem mentions_flatMap_words (blocks : List Block) :
    mentions (blocks.flatMap Block.words) =
      (blocks.filterMap Block.declaration?).flatMap fun declaration =>
        declaration.nameSite :: declaration.referenceSites :=
  Block.filter_isMention_between_flatMap blocks none none

theorem references_flatMap_words (blocks : List Block) :
    references (blocks.flatMap Block.words) =
      (blocks.filterMap Block.declaration?).flatMap Declaration.referenceSites := by
  rw [references, mentions_flatMap_words, List.filter_flatMap]
  simp only [Declaration.filter_not_isDeclared]

/-- A reference in a block list is to a target of one of its blocks. -/
theorem exists_target_of_mem_references {blocks : List Block} {site : WordSite}
    (member : site ∈ references (blocks.flatMap Block.words)) :
    ∃ target ∈ blocks.flatMap Block.targets, ∃ label : Label,
      site.item = (NodeName.indexed target).text ∧ site.after = some label.spelling := by
  rw [references_flatMap_words, List.mem_flatMap] at member
  obtain ⟨declaration, inBlocks, inDeclaration⟩ := member
  obtain ⟨child, isChild, item, after⟩ :=
    Declaration.exists_child_of_mem_referenceSites inDeclaration
  obtain ⟨block, inList, declares⟩ := List.mem_filterMap.mp inBlocks
  rw [← Label.spelling_eq] at after
  refine ⟨child.target, List.mem_flatMap.mpr ⟨block, inList, ?_⟩, child.label, item, after⟩
  have inTargets : child.target ∈ declaration.targets := List.mem_map_of_mem isChild
  cases block with
  | node _ => exact Option.some.inj declares ▸ inTargets
  | root _ => exact Option.some.inj declares ▸ inTargets
  | trailer => exact nomatch declares

/-- Behind the last opening word of some words stands what follows it, when that
holds no such word. -/
theorem rtakeWhile_append_cons {before after : List (List Char)}
    (absent : "node".toList ∉ after) :
    (before ++ "node".toList :: after).rtakeWhile (· ≠ "node".toList) = after := by
  have passed : ∀ word ∈ after.reverse, decide (word ≠ "node".toList) = true := by
    intro word member
    rw [decide_eq_true_eq]
    rintro rfl
    exact absent (List.mem_reverse.mp member)
  rw [List.rtakeWhile, List.reverse_append, List.reverse_cons, List.append_assoc,
    List.takeWhile_append_of_pos passed]
  simp

/-- The root declaration and the trailer end the words of a complete fixture. -/
theorem flatMap_words_completeBlocks :
    (completeBlocks nodeCount target).flatMap Block.words =
      ((List.range nodeCount.toNat).flatMap (fun index =>
        (declarationAt target (.indexed (UInt64.ofNat index)) index).words) ++
      "root".toList :: (declarationAt target .root nodeCount.toNat).words) ++
      Trailer.words := by
  simp [completeBlocks, Block.words, List.flatMap_append, List.flatMap_map]

theorem words_trailerText : Blank.words trailerText = Trailer.words := by
  decide +kernel

/-! ## Closure -/

/-- The words of a complete fixture whose targets are below its node count are
referentially closed. -/
theorem referentiallyClosed_completeBlocks
    (below : ∀ place ∈ (completeBlocks nodeCount target).flatMap Block.targets,
      place < nodeCount) :
    ReferentiallyClosed nodeCount.toNat
      ((completeBlocks nodeCount target).flatMap Block.words) where
  declared := by
    rw [openings_flatMap_words, Block.after_of_opens_flatMap, declaredNames_eq, List.map_map]
    rfl
  different := nodup_declaredNames nodeCount
  rooted := by
    rw [openings_flatMap_words, Block.before_of_opens_flatMap _ (by simp),
      filterMap_isRoot?_completeBlocks]
  labelled site member := by
    obtain ⟨_, _, label, _, after⟩ := exists_target_of_mem_references member
    exact ⟨label, after⟩
  resolved site member := by
    obtain ⟨place, isTarget, _, item, _⟩ := exists_target_of_mem_references member
    rw [item]
    constructor
    · exact List.count_eq_one_of_mem (nodup_declaredNames nodeCount)
        (text_mem_declaredNames (below place isTarget))
    · intro isRoot
      have same : NodeName.indexed place = NodeName.root := NodeName.text_injective isRoot
      exact nomatch same
  length_references := by
    rw [references_flatMap_words, List.length_flatMap]
    have four : (fun declaration : Declaration => declaration.referenceSites.length) =
        Function.const _ 4 := rfl
    rw [four, List.map_const, length_filterMap_declaration?_completeBlocks,
      List.sum_replicate_nat, Nat.mul_comm]
  slots := by
    have row (declaration : Declaration) (member : declaration ∈
        (completeBlocks nodeCount target).filterMap Block.declaration?) :
        (declaration.nameSite :: declaration.referenceSites).map
          (fun site => if site.isDeclared then none else site.after) =
            none :: [.a, .b, .c, .d].map (some ∘ Label.spelling) := by
      obtain ⟨name, position, rfl⟩ := exists_declarationAt_of_mem member
      rfl
    rw [mentions_flatMap_words, List.map_flatMap, List.flatMap_congr row, List.flatMap_def,
      List.map_const', length_filterMap_declaration?_completeBlocks]
  trailed := by
    have absent : "node".toList ∉
        (declarationAt target .root nodeCount.toNat).words.tail ++ Trailer.words := by
      rw [List.mem_append, not_or]
      exact ⟨Declaration.node_not_mem_words_tail _, by decide⟩
    have split : (declarationAt target .root nodeCount.toNat).words =
        "node".toList :: (declarationAt target .root nodeCount.toNat).words.tail := rfl
    rw [flatMap_words_completeBlocks, split, List.append_assoc, List.cons_append,
      List.cons_append, List.append_cons, afterDeclarations, rtakeWhile_append_cons absent,
      Declaration.dropWhile_words_tail, words_trailerText]
    rfl
  unmixed := by
    refine ⟨_, words_trailerText ▸ flatMap_words_completeBlocks, ?_⟩
    intro keyword isKeyword member
    rcases List.mem_append.mp member with inNodes | inRoot
    · obtain ⟨index, _, inNode⟩ := List.mem_flatMap.mp inNodes
      exact Declaration.keyword_not_mem_words _ isKeyword inNode
    · rcases List.mem_cons.mp inRoot with rfl | inDeclaration
      · revert isKeyword
        decide
      · exact Declaration.keyword_not_mem_words _ isKeyword inDeclaration

/-- The text of every sampled fixture is referentially closed, in both layouts. -/
theorem sampled_fixtures_referentiallyClosed {fixture : Fixture} (sampled : fixture.Sampled)
    (layout : Layout) :
    1 ≤ fixture.nodeCount ∧
      ReferentiallyClosed fixture.nodeCount.toNat (Blank.words (fixture.render layout)) := by
  obtain ⟨nonzero, targets, full, below, dealt⟩ := sampled.exists_dealt
  refine ⟨UInt64.le_iff_toNat_le.mpr (Bounded.toNat_pos nonzero), ?_⟩
  have row := targets_ofTargets_of_length full fixture.seed
  rw [dealt, render, Block.words_render]
  apply referentiallyClosed_completeBlocks
  intro place isTarget
  apply below
  rw [← row]
  exact isTarget

/-- A script that points to both of two nodes in turn gives closed texts. -/
theorem sampled_fixtures_referentiallyClosed_two :
    let fixture := ofTargets 2 none [0, 1, 0, 1, 1, 0, 1, 0, 0, 0, 1, 1]
    fixture.Sampled ∧
      ∀ layout, ReferentiallyClosed 2 (Blank.words (fixture.render layout)) := by
  intro fixture
  let high : UInt64 := 0x8000000000000000
  let script : Script := ⟨[0, high, 0, high, high, 0, high, 0, 0, 0, high, high]⟩
  have sampled : fixture.Sampled := by
    have drawn := Generator.drawFixture_of_spans ⟨2, none, by decide⟩ (by decide) none
      (Nat.le_refl 12) (by decide +kernel : Bounded.Spans 2 12 (WordSource.first 12 script))
    rw [show Bounded.numbers 2 (WordSource.first 12 script) =
      [0, 1, 0, 1, 1, 0, 1, 0, 0, 0, 1, 1] by decide +kernel] at drawn
    exact .handed _ _ script drawn
  exact ⟨sampled, fun layout => (sampled_fixtures_referentiallyClosed sampled layout).2⟩

end Fixture
end GraphFixture
