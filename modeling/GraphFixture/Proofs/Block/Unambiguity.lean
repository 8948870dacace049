import GraphFixture.Proofs.Block.Words

/-!
# Block lists are determined by their words

The words of blocks form a prefix code: whatever follows, the first words of a
text tell which block they belong to and where it ends.  Hence a block list can
be read off its words, and one whose words start those of another one starts it.
-/

namespace GraphFixture

/-- Different names have different texts. -/
theorem NodeName.text_injective : Function.Injective NodeName.text := by
  -- An index never looks like the word for the root, which is not a digit.
  have apart (index : UInt64) : Decimal.digits index.toNat ≠ "root".toList := by
    intro equal
    have member : 'r' ∈ Decimal.digits index.toNat := by
      rw [equal]
      decide
    have isDigit := Decimal.isDigit_of_mem_digits member
    revert isDigit
    decide
  intro left right equal
  cases left with
  | indexed leftIndex =>
      cases right with
      | indexed rightIndex =>
          have sameDigits := List.append_cancel_left equal
          have sameIndex := Decimal.digits_injective sameDigits
          rw [UInt64.toNat_inj.mp sameIndex]
      | root => exact absurd (List.append_cancel_left equal) (apart leftIndex)
  | root =>
      cases right with
      | indexed rightIndex =>
          exact absurd (List.append_cancel_left equal).symm (apart rightIndex)
      | root => rfl

theorem Child.words_injective {left right : Child} {mark : List Char}
    (equal : left.words mark = right.words mark) : left = right := by
  obtain ⟨leftLabel, leftTarget, ⟨⟩⟩ := left
  obtain ⟨rightLabel, rightTarget, ⟨⟩⟩ := right
  simp only [words, List.cons.injEq, and_true] at equal
  obtain ⟨sameName, sameLetter⟩ := equal
  have sameTarget := NodeName.text_injective sameName
  rw [NodeName.indexed.injEq] at sameTarget
  rw [sameTarget, Label.letter_injective sameLetter]

theorem Declaration.words_injective {left right : Declaration}
    (equal : left.words = right.words) : left = right := by
  -- Children have equally many words, so equal lists split at the same places.
  obtain ⟨upToFourth, _⟩ := List.append_inj equal rfl
  obtain ⟨upToThird, fourth⟩ := List.append_inj upToFourth rfl
  obtain ⟨upToSecond, third⟩ := List.append_inj upToThird rfl
  obtain ⟨upToFirst, second⟩ := List.append_inj upToSecond rfl
  obtain ⟨opening, first⟩ := List.append_inj upToFirst rfl
  have sameName : left.name.text = right.name.text := by
    simpa using opening
  cases left
  cases right
  rw [mk.injEq]
  exact ⟨NodeName.text_injective sameName, Child.words_injective first,
    Child.words_injective second, Child.words_injective third,
    Child.words_injective fourth⟩

namespace Block

/-- The words of a block tell what it is and where it ends, whatever follows
them. -/
theorem words_append_inj {left right : Block}
    {leftRest rightRest : List (List Char)}
    (equal : left.words ++ leftRest = right.words ++ rightRest) :
    left = right ∧ leftRest = rightRest := by
  cases left with
  | node left =>
      cases right with
      | node right =>
          obtain ⟨sameWords, sameRest⟩ := List.append_inj equal rfl
          exact ⟨congrArg node (Declaration.words_injective sameWords), sameRest⟩
      | root right => simp [words, Declaration.words] at equal
      | trailer => simp [words, Declaration.words, Trailer.words] at equal
  | root left =>
      cases right with
      | node right => simp [words, Declaration.words] at equal
      | root right =>
          obtain ⟨sameWords, sameRest⟩ := List.append_inj equal rfl
          have sameDeclaration := Declaration.words_injective (List.cons.inj sameWords).2
          exact ⟨congrArg root sameDeclaration, sameRest⟩
      -- Both start with the word for the root; the second word differs.
      | trailer => simp [words, Declaration.words, Trailer.words] at equal
  | trailer =>
      cases right with
      | node right => simp [words, Declaration.words, Trailer.words] at equal
      | root right => simp [words, Declaration.words, Trailer.words] at equal
      | trailer => exact ⟨rfl, List.append_cancel_left equal⟩

theorem words_ne_nil (block : Block) : block.words ≠ [] := by
  cases block <;> simp [words, Declaration.words, Trailer.words]

/-- A block list whose words start those of another one starts it. -/
theorem isPrefix_of_flatMap_words_isPrefix {left right : List Block}
    (starts : left.flatMap words <+: right.flatMap words) : left <+: right := by
  induction left generalizing right with
  | nil => exact List.nil_prefix
  | cons first later inductionHypothesis =>
      obtain ⟨rest, equal⟩ := starts
      rw [List.flatMap_cons, List.append_assoc] at equal
      cases right with
      | nil =>
          obtain ⟨noWords, _⟩ := List.append_eq_nil_iff.mp equal
          exact absurd noWords first.words_ne_nil
      | cons other others =>
          rw [List.flatMap_cons] at equal
          obtain ⟨sameBlock, sameRest⟩ := words_append_inj equal
          rw [sameBlock, List.prefix_cons_inj]
          exact inductionHypothesis ⟨rest, sameRest⟩

theorem flatMap_words_injective :
    Function.Injective fun blocks : List Block => blocks.flatMap words := by
  intro left right equal
  have forward : left <+: right := by
    apply isPrefix_of_flatMap_words_isPrefix
    exact ⟨[], by rw [List.append_nil]; exact equal⟩
  have backward : right <+: left := by
    apply isPrefix_of_flatMap_words_isPrefix
    exact ⟨[], by rw [List.append_nil]; exact equal.symm⟩
  exact forward.eq_of_length_le backward.length_le

/-- Two texts of block lists, in layouts that may differ, have the same words
exactly when the block lists are equal. -/
theorem words_render_eq_iff (left right : List Block)
    (leftLayout rightLayout : Layout) :
    Blank.words (render leftLayout left) = Blank.words (render rightLayout right) ↔
      left = right := by
  rw [words_render, words_render]
  exact flatMap_words_injective.eq_iff

end Block
end GraphFixture
