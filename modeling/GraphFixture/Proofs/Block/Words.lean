import GraphFixture.Block.Layout
import GraphFixture.Proofs.Text.Words

/-!
# The words of a block list

Both layouts weave the same words and differ in the gaps alone.  This module
lists the words of every block, and for each layout the gaps between them, and
shows that splitting the text of a block list on white space gives the words of
its blocks in order.
-/

namespace GraphFixture

theorem Blank.isBlank_of_isDigit {character : Char}
    (isDigit : character.isDigit = true) : isBlank character = false := by
  have bounds : 48 ≤ character.toNat ∧ character.toNat ≤ 57 := by
    simpa [Char.isDigit, UInt32.le_iff_toNat_le] using isDigit
  simp only [isBlank, ranges, List.any_cons, List.any_nil, Bool.or_false,
    Bool.or_eq_false_iff, decide_eq_false_iff_not]
  omega

theorem NodeName.isWord_text (name : NodeName) : Blank.IsWord name.text := by
  have isWord_stem : Blank.IsWord stem := by decide
  cases name with
  | indexed index =>
      apply isWord_stem.append
      intro character member
      exact Blank.isBlank_of_isDigit (Decimal.isDigit_of_mem_digits member)
  | root =>
      have isWord_root : Blank.IsWord "root".toList := by decide
      exact isWord_stem.append isWord_root.2

/-! ## The words of each block -/

/-- The word that stands for a label in a text. -/
def Label.spelling : Label → List Char
  | .a => "a".toList
  | .b => "b".toList
  | .c => "c".toList
  | .d => "d".toList

theorem Label.spelling_eq (label : Label) : label.spelling = [label.letter] := by
  cases label <;> rfl

/-- The words of a child.  The mark that follows a child sticks to its closing
brace. -/
def Child.words (child : Child) (mark : List Char) : List (List Char) :=
  [(NodeName.indexed child.target).text, [child.label.letter], ['{'],
    child.action.word.toList, '}' :: mark]

/-- The words of a declaration, without those of its qualifier. -/
def Declaration.words (declaration : Declaration) : List (List Char) :=
  ["node".toList, declaration.name.text, ['{'], "children".toList,
    ['{']] ++
  declaration.first.words [','] ++ declaration.second.words [','] ++
  declaration.third.words [','] ++ declaration.fourth.words [] ++
  [['}'], ['}', ';']]

/-- The words of the trailer. -/
def Trailer.words : List (List Char) :=
  ["root".toList, "phase".toList, phase, ['{'], "passes".toList,
    ['{'], pass, ['}'], ['}', ';'], "pass".toList, pass ++ [';']]

/-- The words of a block, the same in both layouts. -/
def Block.words : Block → List (List Char)
  | .node declaration => declaration.words
  | .root declaration => "root".toList :: declaration.words
  | .trailer => Trailer.words

theorem Child.isWord_of_mem_words {child : Child} {mark word : List Char}
    (solid : ∀ character ∈ mark, Blank.isBlank character = false)
    (member : word ∈ child.words mark) : Blank.IsWord word := by
  simp only [words, List.mem_cons, List.not_mem_nil, or_false] at member
  rcases member with rfl | rfl | rfl | rfl | rfl
  · exact NodeName.isWord_text _
  · cases child.label <;> decide
  · decide
  · cases child.action
    decide
  · exact Blank.IsWord.append (by decide : Blank.IsWord ['}']) solid

theorem Declaration.isWord_of_mem_words {declaration : Declaration}
    {word : List Char} (member : word ∈ declaration.words) :
    Blank.IsWord word := by
  have comma : ∀ character ∈ [','], Blank.isBlank character = false := by
    rw [List.forall_mem_singleton]
    decide
  simp only [words, List.mem_append, or_assoc] at member
  rcases member with opening | inFirst | inSecond | inThird | inFourth | closing
  · simp only [List.mem_cons, List.not_mem_nil, or_false] at opening
    rcases opening with rfl | rfl | rfl | rfl | rfl
    · decide
    · exact declaration.name.isWord_text
    · decide
    · decide
    · decide
  · exact Child.isWord_of_mem_words comma inFirst
  · exact Child.isWord_of_mem_words comma inSecond
  · exact Child.isWord_of_mem_words comma inThird
  · exact Child.isWord_of_mem_words (List.forall_mem_nil _) inFourth
  · revert word
    decide

theorem Block.isWord_of_mem_words {block : Block} {word : List Char}
    (member : word ∈ block.words) : Blank.IsWord word := by
  cases block with
  | node declaration => exact Declaration.isWord_of_mem_words member
  | root declaration =>
      rcases List.mem_cons.mp member with rfl | later
      · decide
      · exact Declaration.isWord_of_mem_words later
  | trailer =>
      revert word
      decide

/-! ## The gaps of each layout -/

/-- A gap that ends a line and indents the next one by a number of steps. -/
def lineGap (steps : Nat) : List Char :=
  '\n' :: (List.replicate steps indentation).flatten

/-- The gaps behind the words of a declaration. -/
def Declaration.gaps : Layout → List (List Char)
  | .compact => List.replicate 26 [' '] ++ [lineGap 0]
  | .expanded =>
      [[' '], [' '], lineGap 1, [' '], lineGap 2] ++
      (List.replicate 3 (List.replicate 4 [' '] ++ [lineGap 2])).flatten ++
      (List.replicate 4 [' '] ++ [lineGap 1]) ++ [lineGap 0, lineGap 0]

/-- The gaps behind the words of the trailer. -/
def Trailer.gaps : Layout → List (List Char)
  | .compact => List.replicate 8 [' '] ++ [['\n', '\n'], [' '], lineGap 0]
  | .expanded =>
      [[' '], [' '], [' '], lineGap 1, [' '], lineGap 2, lineGap 1, lineGap 0,
        ['\n', '\n'], [' '], lineGap 0]

/-- The gaps behind the words of a block. -/
def Block.gaps (layout : Layout) : Block → List (List Char)
  | .node _ => Declaration.gaps layout
  | .root _ => [' '] :: Declaration.gaps layout
  | .trailer => Trailer.gaps layout

theorem Declaration.isGap_of_mem_gaps (layout : Layout) :
    ∀ gap ∈ gaps layout, Blank.IsGap gap := by
  cases layout <;> decide

theorem Block.isGap_of_mem_gaps {layout : Layout} {block : Block}
    {gap : List Char} (member : gap ∈ block.gaps layout) : Blank.IsGap gap := by
  cases block with
  | node declaration => exact Declaration.isGap_of_mem_gaps layout gap member
  | root declaration =>
      rcases List.mem_cons.mp member with rfl | later
      · decide
      · exact Declaration.isGap_of_mem_gaps layout gap later
  | trailer =>
      revert gap
      cases layout <;> decide

theorem Block.length_words_eq_length_gaps (layout : Layout) (block : Block) :
    block.words.length = (block.gaps layout).length := by
  cases layout <;> cases block <;> rfl

/-! ## Texts as words and gaps -/

theorem Declaration.flatten_pieces (qualifier : List Char)
    (declaration : Declaration) (layout : Layout) :
    (declaration.pieces qualifier layout).flatten =
      qualifier ++ Blank.weave declaration.words (gaps layout) := by
  cases layout <;>
    simp [pieces, words, gaps, children, Child.pieces, Child.words, lineGap,
      indentation, List.intercalate, List.replicate]

/-- The text of a block is woven from its words and the gaps of the layout. -/
theorem Block.text_eq_weave (layout : Layout) (block : Block) :
    block.text layout = Blank.weave block.words (block.gaps layout) := by
  cases block with
  | node declaration => exact declaration.flatten_pieces [] layout
  | root declaration =>
      have qualified := declaration.flatten_pieces rootQualifier layout
      simpa [text, pieces, words, gaps, rootQualifier] using qualified
  | trailer => cases layout <;> rfl

/-- The words of a text that starts with a block are those of the block and
then those of the rest. -/
theorem Block.words_text_append (layout : Layout) (block : Block)
    (rest : List Char) :
    Blank.words (block.text layout ++ rest) =
      block.words ++ Blank.words rest := by
  rw [text_eq_weave]
  apply Blank.words_weave_append (length_words_eq_length_gaps layout block)
  · intro word member
    exact isWord_of_mem_words member
  · intro gap member
    exact isGap_of_mem_gaps member

/-- The words of a text that starts with a block list are those of its blocks
in order, whatever the layout, and then those of the rest. -/
theorem Block.words_render_append (layout : Layout) (blocks : List Block)
    (rest : List Char) :
    Blank.words (render layout blocks ++ rest) =
      blocks.flatMap words ++ Blank.words rest := by
  induction blocks with
  | nil => rfl
  | cons first later inductionHypothesis =>
      cases later with
      | nil =>
          rw [render_singleton, words_text_append, List.flatMap_singleton]
      | cons second others =>
          rw [render_cons_cons, List.append_assoc, words_text_append,
            List.cons_append, Blank.words_cons (by decide), inductionHypothesis,
            ← List.append_assoc, ← List.flatMap_cons]

/-- Splitting the text of a block list on white space gives the words of its
blocks in order, whatever the layout. -/
theorem Block.words_render (layout : Layout) (blocks : List Block) :
    Blank.words (render layout blocks) = blocks.flatMap words := by
  have withoutRest := words_render_append layout blocks []
  simpa using withoutRest

end GraphFixture
