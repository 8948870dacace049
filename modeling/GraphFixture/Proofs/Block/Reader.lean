import GraphFixture.Proofs.Block.Words
import GraphFixture.Proofs.Text.Marks
import GraphFixture.Proofs.Text.Numerals

/-!
# Reading declarations line by line

In the compact layout a declaration is one line.  The reader takes off what such
a line starts and ends with, splits the rest at the commas and splits each part
into words.  It gives back what was written, since a name holds no blank and a
child no comma.
-/

namespace GraphFixture

/-! ## The reader -/

/-- What the reader finds in a child. -/
structure ReadChild where
  target : UInt64
  label : List Char
  action : List Char
  deriving DecidableEq, Repr

/-- What the reader finds in a declaration. -/
structure ReadDeclaration where
  isRoot : Bool
  name : List Char
  children : List ReadChild
  deriving DecidableEq, Repr

namespace ReadChild

/-- Read the five words of a child. -/
def ofText? (text : List Char) : Option ReadChild :=
  match Blank.words text with
  | [target, label, ['{'], action, ['}']] =>
      (target.dropPrefix? "Node".toList).bind fun digits =>
        (Numeral.read (Utf8.encode digits)).toOption.map fun target =>
          { target, label, action }
  | _ => none

end ReadChild

namespace ReadDeclaration

/-- Take off the words that open a declaration, and tell whether it is the root. -/
def ofOpening? (line : List Char) : Option (Bool × List Char) :=
  match line.dropPrefix? "root node ".toList with
  | some rest => some (true, rest)
  | none => (line.dropPrefix? "node ".toList).map fun rest => (false, rest)

/-- Read a line that holds a declaration. -/
def ofLine? (line : List Char) : Option ReadDeclaration :=
  (ofOpening? line).bind fun opening =>
    (opening.2.dropInfix? " \x7b children \x7b ".toList).bind fun parts =>
      (parts.2.dropSuffix? " \x7d \x7d;".toList).bind fun body =>
        ((Marks.split ", ".toList body).mapM ReadChild.ofText?).map fun children =>
          { isRoot := opening.1, name := parts.1, children }

end ReadDeclaration

/-! ## What is written on a line -/

/-- The text of a child. -/
def Child.text (child : Child) : List Char :=
  child.pieces.flatten

/-- The compact text of a declaration without its line feed. -/
def Declaration.line (qualifier : List Char) (declaration : Declaration) : List Char :=
  qualifier ++ "node ".toList ++ (declaration.name.text ++ " \x7b children \x7b ".toList ++
    (", ".toList.intercalate (declaration.children.map Child.text) ++ " \x7d \x7d;".toList))

theorem Declaration.flatten_pieces_compact (qualifier : List Char) (declaration : Declaration) :
    (declaration.pieces qualifier .compact).flatten = declaration.line qualifier ++ ['\n'] := by
  simp [pieces, line, children, Child.text, List.intercalate]

/-! ## Reading gives back what was written -/

/-- What the reader is to find in a child. -/
def Child.reading (child : Child) : ReadChild where
  target := child.target
  label := child.label.spelling
  action := "construct".toList

theorem Child.words_text (child : Child) : Blank.words child.text = child.words [] := by
  have woven : child.text = Blank.weave (child.words []).dropLast (List.replicate 4 [' ']) ++
      ['}'] := by
    simp [text, pieces, words, List.replicate]
  have sameLength : (child.words []).dropLast.length = (List.replicate 4 [' ']).length := rfl
  rw [woven, Blank.words_weave_append sameLength]
  · rw [Blank.words_of_isWord (by decide)]
    rfl
  · intro word member
    exact Child.isWord_of_mem_words (List.forall_mem_nil _) (List.mem_of_mem_dropLast member)
  · decide

/-- A child is read as it was written. -/
theorem ReadChild.ofText?_text (child : Child) : ofText? child.text = some child.reading := by
  have prefixed : (NodeName.indexed child.target).text.dropPrefix? "Node".toList =
      some (Decimal.digits child.target.toNat) :=
    List.dropPrefix?_append_of_beq _ (by decide)
  have number : Numeral.read (Utf8.encode (Decimal.digits child.target.toNat)) =
      .ok child.target :=
    (Numeral.read_eq_ok_iff _ _).mpr (Decimal.denotes_encode_digits child.target)
  rw [ofText?, child.words_text]
  simp only [Child.words, prefixed, Option.bind_some, number, Except.toOption, Option.map_some,
    Child.reading, Label.spelling_eq]
  rfl

/-- A child holds no characters but digits and those of its fixed words. -/
theorem Child.not_mem_text (child : Child) {character : Char}
    (notDigit : character.isDigit = false)
    (notFixed : character ∉ "Node abcd \x7b construct \x7d".toList) : character ∉ child.text := by
  have notInDigits : character ∉ Decimal.digits child.target.toNat := by
    intro member
    have isDigit := Decimal.isDigit_of_mem_digits member
    rw [notDigit] at isDigit
    exact nomatch isDigit
  have notLetter : character ≠ child.label.letter := by
    rintro rfl
    revert notFixed
    cases child.label <;> decide
  simp_all [text, pieces, NodeName.text, NodeName.stem, Action.word]

/-- What the reader is to find in a declaration. -/
def Declaration.reading (isRoot : Bool) (declaration : Declaration) : ReadDeclaration where
  isRoot := isRoot
  name := declaration.name.text
  children := declaration.children.map Child.reading

/-- What a declaration of the root or of a node starts with. -/
def Declaration.qualifier (isRoot : Bool) : List Char :=
  if isRoot then Block.rootQualifier else []

theorem ReadDeclaration.ofOpening?_append (isRoot : Bool) (rest : List Char) :
    ofOpening? (Declaration.qualifier isRoot ++ "node ".toList ++ rest) = some (isRoot, rest) := by
  cases isRoot <;>
    simp [ofOpening?, Declaration.qualifier, Block.rootQualifier, List.dropPrefix?]

/-- A declaration is read as it was written. -/
theorem ReadDeclaration.ofLine?_line (declaration : Declaration) (isRoot : Bool) :
    ofLine? (declaration.line (Declaration.qualifier isRoot)) =
      some (declaration.reading isRoot) := by
  have blank_not_mem_name : ' ' ∉ declaration.name.text := by
    intro member
    exact absurd (declaration.name.isWord_text.2 ' ' member) (by decide)
  have opened (rest : List Char) :
      (declaration.name.text ++ (" \x7b children \x7b ".toList ++ rest)).dropInfix?
        " \x7b children \x7b ".toList = some (declaration.name.text, rest) := by
    rw [← List.append_assoc]
    exact Marks.dropInfix?_append (Marks.absent_of_not_mem blank_not_mem_name) rest
  have closed (body : List Char) :
      (body ++ " \x7d \x7d;".toList).dropSuffix? " \x7d \x7d;".toList = some body :=
    List.dropSuffix?_eq_some_iff.mpr ⟨_, rfl, beq_self_eq_true _⟩
  have parts : Marks.split ", ".toList
      (", ".toList.intercalate (declaration.children.map Child.text)) =
        declaration.children.map Child.text := by
    apply Marks.split_intercalate (by decide) (by simp [Declaration.children])
    intro part member
    obtain ⟨child, _, rfl⟩ := List.mem_map.mp member
    exact Marks.absent_of_not_mem (child.not_mem_text (by decide) (by decide))
  have read : (declaration.children.map Child.text).mapM ReadChild.ofText? =
      some (declaration.children.map Child.reading) := by
    simp [Declaration.children, ReadChild.ofText?_text]
  rw [ofLine?, Declaration.line, ofOpening?_append, Option.bind_some]
  simp only [List.append_assoc, opened, closed, parts, read, Option.bind_some, Option.map_some]
  rfl

end GraphFixture
