import GraphFixture.Text.Blank

/-!
# Words between white space

The words of a text are its maximal runs of characters that are not white
space.  A text that is woven from words, each followed by a gap of white space,
has just these words, whatever the gaps are.
-/

namespace GraphFixture
namespace Blank

/-- The words of a text, which white space parts. -/
def words (text : List Char) : List (List Char) :=
  (text.splitOnP isBlank).filter fun segment => !segment.isEmpty

@[simp] theorem words_nil : words [] = [] := by
  simp [words, List.splitOnP_nil]

/-- A blank character separates the words on its two sides. -/
theorem words_append_cons {blank : Char} (isBlank_blank : isBlank blank = true)
    (before after : List Char) :
    words (before ++ blank :: after) = words before ++ words after := by
  unfold words
  rw [List.splitOnP_append_cons before after isBlank_blank, List.filter_append]

/-- A blank character at the start of a text belongs to no word. -/
theorem words_cons {blank : Char} (isBlank_blank : isBlank blank = true)
    (text : List Char) : words (blank :: text) = words text := by
  simpa using words_append_cons isBlank_blank [] text

/-! ## Words and gaps -/

/-- A word has at least one character and none that is blank. -/
def IsWord (word : List Char) : Prop :=
  word ≠ [] ∧ ∀ character ∈ word, isBlank character = false

/-- A gap has at least one character and only blank ones. -/
def IsGap (gap : List Char) : Prop :=
  gap ≠ [] ∧ ∀ character ∈ gap, isBlank character = true

instance (word : List Char) : Decidable (IsWord word) :=
  decidable_of_iff (word ≠ [] ∧ word.all (fun character => !isBlank character))
    (by simp [IsWord])

instance (gap : List Char) : Decidable (IsGap gap) :=
  decidable_of_iff (gap ≠ [] ∧ gap.all isBlank) (by simp [IsGap])

/-- A text without blank characters is one word. -/
theorem words_of_isWord {word : List Char} (isWord : IsWord word) :
    words word = [word] := by
  rw [words, List.splitOnP_eq_singleton isWord.2]
  simp [isWord.1]

theorem IsWord.append {first second : List Char} (isWord_first : IsWord first)
    (solid : ∀ character ∈ second, isBlank character = false) :
    IsWord (first ++ second) := by
  refine ⟨by simp [isWord_first.1], ?_⟩
  intro character member
  rcases List.mem_append.mp member with inFirst | inSecond
  · exact isWord_first.2 character inFirst
  · exact solid character inSecond

/-- A text of blank characters adds no words to what follows it. -/
theorem words_blanks_append {blanks : List Char}
    (allBlank : ∀ character ∈ blanks, isBlank character = true)
    (rest : List Char) : words (blanks ++ rest) = words rest := by
  induction blanks with
  | nil => rfl
  | cons blank blanks inductionHypothesis =>
      rw [List.cons_append, words_cons (allBlank blank List.mem_cons_self)]
      exact inductionHypothesis fun character member =>
        allBlank character (List.mem_cons_of_mem blank member)

/-- A word that a gap follows is the first word. -/
theorem words_word_gap_append {word gap : List Char} (isWord : IsWord word)
    (isGap : IsGap gap) (rest : List Char) :
    words (word ++ gap ++ rest) = word :: words rest := by
  obtain ⟨nonempty, allBlank⟩ := isGap
  cases gap with
  | nil => exact absurd rfl nonempty
  | cons blank blanks =>
      rw [List.append_assoc, List.cons_append,
        words_append_cons (allBlank blank List.mem_cons_self),
        words_of_isWord isWord, words_blanks_append]
      · rfl
      · exact fun character member =>
          allBlank character (List.mem_cons_of_mem blank member)

/-- The text of words and gaps in turn. -/
def weave (words gaps : List (List Char)) : List Char :=
  (List.zipWith (· ++ ·) words gaps).flatten

@[simp] theorem weave_nil (gaps : List (List Char)) : weave [] gaps = [] :=
  rfl

@[simp] theorem weave_cons_cons (word gap : List Char)
    (words gaps : List (List Char)) :
    weave (word :: words) (gap :: gaps) = word ++ gap ++ weave words gaps := by
  simp [weave]

/-- The words of a woven text are those that it was woven from, and the words
of a text after it follow them. -/
theorem words_weave_append {texts gaps : List (List Char)}
    (sameLength : texts.length = gaps.length)
    (allWords : ∀ text ∈ texts, IsWord text) (allGaps : ∀ gap ∈ gaps, IsGap gap)
    (rest : List Char) :
    words (weave texts gaps ++ rest) = texts ++ words rest := by
  induction texts generalizing gaps with
  | nil => simp
  | cons text texts inductionHypothesis =>
      cases gaps with
      | nil => simp at sameLength
      | cons gap gaps =>
          have later := inductionHypothesis (Nat.succ.inj sameLength)
            (fun other member => allWords other (List.mem_cons_of_mem text member))
            (fun other member => allGaps other (List.mem_cons_of_mem gap member))
          rw [weave_cons_cons, List.append_assoc,
            words_word_gap_append (allWords text List.mem_cons_self)
              (allGaps gap List.mem_cons_self), later, List.cons_append]

end Blank
end GraphFixture
