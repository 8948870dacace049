import GraphFixture.Text.Blank
import Mathlib.Data.List.DropRight
import Mathlib.Data.List.Forall2
import Mathlib.Data.List.TakeWhile

/-!
# Spellings of a word

A word of small ASCII letters is spelled with any of its letters capital and with
any white space on both sides.  Trimming a text and folding its letters gives the
word exactly when the text spells it.  Characters beyond ASCII are never folded,
and white space around a text does not change what is left of it.
-/

namespace GraphFixture

/-! ## White space at the ends -/

namespace Blank

/-- Every character of a text is white space. -/
def IsBlankText (text : List Char) : Prop :=
  ∀ character ∈ text, isBlank character = true

theorem trimStart_append {blanks : List Char} (blank : IsBlankText blanks) (text : List Char) :
    trimStart (blanks ++ text) = trimStart text :=
  List.dropWhile_append_of_pos blank

theorem trimStart_of_isBlankText {blanks : List Char} (blank : IsBlankText blanks) :
    trimStart blanks = [] :=
  List.dropWhile_eq_nil_iff.mpr blank

theorem trimEnd_append {blanks : List Char} (blank : IsBlankText blanks) (text : List Char) :
    trimEnd (text ++ blanks) = trimEnd text := by
  have blankReverse : ∀ character ∈ blanks.reverse, isBlank character = true :=
    fun character member => blank character (List.mem_reverse.mp member)
  rw [trimEnd, List.reverse_append, List.dropWhile_append_of_pos blankReverse, trimEnd]

/-- White space around a text is trimmed with the rest of it. -/
theorem trim_append_append {before after : List Char} (blankBefore : IsBlankText before)
    (blankAfter : IsBlankText after) (text : List Char) :
    trim (before ++ text ++ after) = trim text := by
  rw [trim, List.append_assoc, trimStart_append blankBefore, trimStart, List.dropWhile_append]
  split
  · rename_i nothing
    have empty : trimStart text = [] := List.isEmpty_iff.mp nothing
    rw [trim, empty]
    exact congrArg trimEnd (trimStart_of_isBlankText blankAfter)
  · exact trimEnd_append blankAfter _

/-- What is trimmed off a text is white space. -/
theorem exists_eq_append_trim (text : List Char) :
    ∃ before after, IsBlankText before ∧ IsBlankText after ∧
      text = before ++ trim text ++ after := by
  refine ⟨text.takeWhile isBlank, (trimStart text).rtakeWhile isBlank, ?_, ?_, ?_⟩
  · exact fun _ member => List.mem_takeWhile_imp member
  · exact fun _ member => List.mem_rtakeWhile_imp member
  · have ends : trim text ++ (trimStart text).rtakeWhile isBlank = trimStart text :=
      List.rdropWhile_append_rtakeWhile
    rw [List.append_assoc, ends, trimStart, List.takeWhile_append_dropWhile]

/-- A text without white space is left as it is. -/
theorem trim_of_solid {text : List Char}
    (solid : ∀ character ∈ text, isBlank character = false) : trim text = text := by
  obtain ⟨before, after, blankBefore, blankAfter, whole⟩ := exists_eq_append_trim text
  have nil_of_blank {part : List Char} (blank : IsBlankText part) (within : part ⊆ text) :
      part = [] := by
    refine List.eq_nil_iff_forall_not_mem.mpr fun character member => ?_
    exact Bool.false_ne_true ((solid character (within member)).symm.trans (blank character member))
  have noneBefore : before = [] := nil_of_blank blankBefore (by rw [whole]; simp)
  have noneAfter : after = [] := nil_of_blank blankAfter (by rw [whole]; simp)
  rw [noneBefore, noneAfter, List.nil_append, List.append_nil] at whole
  exact whole.symm

end Blank

/-! ## Capital letters -/

namespace Spelling

/-- The capital ASCII letter of a small one. -/
def IsCapitalOf (capital small : Char) : Prop :=
  'A' ≤ capital ∧ capital ≤ 'Z' ∧ small.toNat = capital.toNat + 32

/-- Two characters are the same up to the case of ASCII letters. -/
def SameLetter (first second : Char) : Prop :=
  first = second ∨ IsCapitalOf first second ∨ IsCapitalOf second first

theorem isCapitalOf_iff (capital small : Char) :
    IsCapitalOf capital small ↔ 65 ≤ capital.toNat ∧ capital.toNat ≤ 90 ∧
      small.toNat = capital.toNat + 32 := by
  rw [IsCapitalOf, Char.le_def, Char.le_def, UInt32.le_iff_toNat_le, UInt32.le_iff_toNat_le]
  rfl

theorem toNat_toLower (character : Char) :
    character.toLower.toNat =
      if 65 ≤ character.toNat ∧ character.toNat ≤ 90 then character.toNat + 32
      else character.toNat := by
  have isCapital_iff : (character.val ≥ 'A'.val ∧ character.val ≤ 'Z'.val) ↔
      65 ≤ character.toNat ∧ character.toNat ≤ 90 := by
    rw [ge_iff_le, UInt32.le_iff_toNat_le, UInt32.le_iff_toNat_le]
    rfl
  unfold Char.toLower
  split
  · rename_i isCapital
    have range := isCapital_iff.mp isCapital
    rw [if_pos range]
    change (character.val + 32).toNat = character.toNat + 32
    rw [UInt32.toNat_add]
    change (character.toNat + 32) % 2 ^ 32 = character.toNat + 32
    omega
  · rename_i noCapital
    rw [if_neg (isCapital_iff.not.mp noCapital)]

/-- Characters are folded to the same one exactly when they are the same letter. -/
theorem toLower_eq_toLower_iff (first second : Char) :
    first.toLower = second.toLower ↔ SameLetter first second := by
  rw [← Char.toNat_inj, toNat_toLower, toNat_toLower, SameLetter, ← Char.toNat_inj,
    isCapitalOf_iff, isCapitalOf_iff]
  split <;> split <;> omega

theorem map_toLower_eq_iff (core word : List Char) :
    core.map Char.toLower = word.map Char.toLower ↔ List.Forall₂ SameLetter core word := by
  rw [← List.forall₂_eq_eq_eq, List.forall₂_map_left_iff, List.forall₂_map_right_iff]
  simp only [toLower_eq_toLower_iff]

/-! ## Spellings -/

/-- A text spells a word: the word with its letters in either case, and white space
on both sides. -/
def IsSpelling (text word : List Char) : Prop :=
  ∃ before core after, text = before ++ core ++ after ∧ Blank.IsBlankText before ∧
    Blank.IsBlankText after ∧ List.Forall₂ SameLetter core word

theorem toNat_of_isLower {letter : Char} (isLower : letter.isLower = true) :
    97 ≤ letter.toNat ∧ letter.toNat ≤ 122 := by
  have bounds := Bool.and_eq_true_iff.mp isLower
  exact ⟨UInt32.le_iff_toNat_le.mp (of_decide_eq_true bounds.1),
    UInt32.le_iff_toNat_le.mp (of_decide_eq_true bounds.2)⟩

theorem toLower_of_isLower {letter : Char} (isLower : letter.isLower = true) :
    letter.toLower = letter := by
  have range := toNat_of_isLower isLower
  rw [← Char.toNat_inj, toNat_toLower, if_neg (by omega)]

variable {text core word : List Char}

/-- What is the same as a word of letters lies among the letters of ASCII. -/
theorem toNat_of_forall₂ (small : ∀ letter ∈ word, letter.isLower = true)
    (same : List.Forall₂ SameLetter core word) :
    ∀ character ∈ core, 65 ≤ character.toNat ∧ character.toNat ≤ 122 := by
  induction same with
  | nil => exact nofun
  | cons sameFirst _ inductionHypothesis =>
      rw [List.forall_mem_cons] at small ⊢
      refine ⟨?_, inductionHypothesis small.2⟩
      have range := toNat_of_isLower small.1
      rw [SameLetter, ← Char.toNat_inj, isCapitalOf_iff, isCapitalOf_iff] at sameFirst
      omega

theorem isBlank_of_toNat {character : Char}
    (range : 65 ≤ character.toNat ∧ character.toNat ≤ 122) : Blank.isBlank character = false := by
  simp only [Blank.isBlank, Blank.ranges, List.any_cons, List.any_nil, Bool.or_false,
    Bool.or_eq_false_iff, decide_eq_false_iff_not]
  omega

/-- A spelling holds white space and letters of ASCII alone. -/
theorem IsSpelling.blank_or_letter (small : ∀ letter ∈ word, letter.isLower = true)
    (spelling : IsSpelling text word) :
    ∀ character ∈ text, Blank.isBlank character = true ∨
      65 ≤ character.toNat ∧ character.toNat ≤ 122 := by
  obtain ⟨before, core, after, rfl, blankBefore, blankAfter, same⟩ := spelling
  intro character member
  rcases List.mem_append.mp member with inFront | inAfter
  · rcases List.mem_append.mp inFront with inBefore | inCore
    · exact .inl (blankBefore character inBefore)
    · exact .inr (toNat_of_forall₂ small same character inCore)
  · exact .inl (blankAfter character inAfter)

/-- Trimming and folding a text gives a word of small letters exactly when the text
spells it. -/
theorem map_toLower_trim_eq_iff (small : ∀ letter ∈ word, letter.isLower = true) :
    (Blank.trim text).map Char.toLower = word ↔ IsSpelling text word := by
  have folded : word.map Char.toLower = word := by
    conv_rhs => rw [← List.map_id word]
    exact List.map_congr_left fun letter member => toLower_of_isLower (small letter member)
  constructor
  · intro spelled
    obtain ⟨before, after, blankBefore, blankAfter, whole⟩ := Blank.exists_eq_append_trim text
    have same := (map_toLower_eq_iff _ word).mp (spelled.trans folded.symm)
    exact ⟨before, Blank.trim text, after, whole, blankBefore, blankAfter, same⟩
  · rintro ⟨before, core, after, rfl, blankBefore, blankAfter, same⟩
    have solid : ∀ character ∈ core, Blank.isBlank character = false :=
      fun character member => isBlank_of_toNat (toNat_of_forall₂ small same character member)
    rw [Blank.trim_append_append blankBefore blankAfter, Blank.trim_of_solid solid,
      (map_toLower_eq_iff _ _).mpr same, folded]

end Spelling
end GraphFixture
