import GraphFixture.Pattern.Flag

/-!
# Patterns as trees

A pattern is a tree of literal characters, classes, repetitions, groups,
alternatives and sequences.  Not every tree is a usable pattern.  It may be nested
only so deep, no two of its groups have the same name, and it asks for nothing
that rests on tables of all characters: their cases, their kinds and the edges of
their words.  Where characters are those of ASCII, such tables are not needed, but
then nothing may stand for a part of a longer character.
-/

namespace GraphFixture
namespace Pattern

/-- A character that stands for itself. -/
structure Literal where
  character : Char
  /-- Whether it was written as a byte, with two digits. -/
  isByte : Bool := false
  deriving DecidableEq, Repr

/-- What one character, or a backslash and what follows it, stands for. -/
inductive Primitive where
  | literal (literal : Literal)
  /-- Any character. -/
  | any
  /-- An edge of a line or of the text. -/
  | edge
  /-- An edge of a word, or its absence. -/
  | wordEdge
  /-- A digit, a white space or a character of words, or none of that kind. -/
  | kind (isNegated : Bool)
  deriving DecidableEq, Repr

/-- A set of characters between brackets. -/
inductive ClassSet where
  | empty
  | literal (literal : Literal)
  | range (first last : Literal)
  /-- A class of ASCII by its name, or its complement. -/
  | named (isNegated : Bool)
  | kind (isNegated : Bool)
  /-- A set in brackets of its own, or its complement. -/
  | nested (isNegated : Bool) (set : ClassSet)
  | union (sets : List ClassSet)
  /-- An intersection, a difference or a symmetric difference. -/
  | combination (left right : ClassSet)
  deriving Repr

/-- How a group was opened. -/
inductive GroupKind where
  | numbered
  | named (name : List Char)
  | flagged (change : FlagChange)
  deriving DecidableEq, Repr

/-- The flags that hold inside a group of some kind. -/
def GroupKind.flags (kind : GroupKind) (flags : Flags) : Flags :=
  match kind with
  | .flagged change => flags.change change
  | _ => flags

/-- A pattern as it was read. -/
inductive Expression where
  | empty
  | primitive (primitive : Primitive)
  /-- A set of characters, or its complement. -/
  | bracketed (isNegated : Bool) (set : ClassSet)
  /-- A change of flags for the rest of the group. -/
  | flags (change : FlagChange)
  | repetition (body : Expression)
  | group (kind : GroupKind) (body : Expression)
  | alternation (branches : List Expression)
  | sequence (parts : List Expression)
  deriving Repr

/-! ## Nesting -/

namespace ClassSet

mutual

/-- How deep sets stand inside one another. -/
def nesting : ClassSet → Nat
  | .nested _ set => set.nesting + 1
  | .union sets => nestingOfAll sets + 1
  | .combination left right => max left.nesting right.nesting + 1
  | _ => 0

/-- The greatest depth among some sets. -/
def nestingOfAll : List ClassSet → Nat
  | [] => 0
  | set :: sets => max set.nesting (nestingOfAll sets)

end

end ClassSet

namespace Expression

mutual

/-- How deep the parts of a pattern stand inside one another. -/
def nesting : Expression → Nat
  | .bracketed _ set => set.nesting + 1
  | .repetition body => body.nesting + 1
  | .group _ body => body.nesting + 1
  | .alternation branches => nestingOfAll branches + 1
  | .sequence parts => nestingOfAll parts + 1
  | _ => 0

/-- The greatest depth among some patterns. -/
def nestingOfAll : List Expression → Nat
  | [] => 0
  | expression :: expressions => max expression.nesting (nestingOfAll expressions)

end

end Expression

/-! ## Names -/

/-- The name that the kind of a group gives to it, if any. -/
def GroupKind.names : GroupKind → List (List Char)
  | .named name => [name]
  | _ => []

namespace Expression

mutual

/-- The names of all groups in a pattern. -/
def names : Expression → List (List Char)
  | .repetition body => body.names
  | .group kind body => kind.names ++ body.names
  | .alternation branches => namesOfAll branches
  | .sequence parts => namesOfAll parts
  | _ => []

/-- The names of all groups in some patterns. -/
def namesOfAll : List Expression → List (List Char)
  | [] => []
  | expression :: expressions => expression.names ++ namesOfAll expressions

end

end Expression

/-! ## What flags allow -/

namespace Literal

/-- Whether a literal is a character of ASCII. -/
def isAscii (literal : Literal) : Bool :=
  literal.character.toNat < 0x80

/-- Whether flags allow a literal.  The cases of a character rest on a table, and
a byte outside ASCII is no character. -/
def isAllowed (flags : Flags) (literal : Literal) : Bool :=
  if flags.allCharacters then !flags.anyCase
  else !literal.isByte || literal.isAscii

/-- Whether a literal may stand in a set under some flags. -/
def isAllowedInSet (flags : Flags) (literal : Literal) : Bool :=
  if flags.allCharacters then !flags.anyCase else literal.isAscii

end Literal

/-- Whether a kind of characters may be asked for under some flags. -/
def isKindAllowed (flags : Flags) (isNegated : Bool) : Bool :=
  !flags.allCharacters && !isNegated

/-- Whether a part without parts may stand under some flags. -/
def Primitive.isAllowed (flags : Flags) : Primitive → Bool
  | .literal value => value.isAllowed flags
  | .any => flags.allCharacters
  | .edge => true
  | .wordEdge => !flags.allCharacters
  | .kind isNegated => isKindAllowed flags isNegated

namespace ClassSet

mutual

/-- Whether all of a set may stand under some flags. -/
def isAllowed (flags : Flags) : ClassSet → Bool
  | .empty => true
  | .literal value => value.isAllowedInSet flags
  | .range first last => first.isAllowedInSet flags && last.isAllowedInSet flags
  | .named isNegated => if flags.allCharacters then !flags.anyCase else !isNegated
  | .kind isNegated => isKindAllowed flags isNegated
  | .nested isNegated set => (flags.allCharacters || !isNegated) && set.isAllowed flags
  | .union sets => areAllowed flags sets
  | .combination left right => left.isAllowed flags && right.isAllowed flags

/-- Whether all of some sets may stand under some flags. -/
def areAllowed (flags : Flags) : List ClassSet → Bool
  | [] => true
  | set :: sets => set.isAllowed flags && areAllowed flags sets

end

end ClassSet

namespace Expression

mutual

/-- The flags behind a pattern, if all of it may stand under the flags before it. -/
def flagsAfter (flags : Flags) : Expression → Option Flags
  | .empty => some flags
  | .primitive item => if item.isAllowed flags then some flags else none
  | .bracketed isNegated set =>
      if (ClassSet.nested isNegated set).isAllowed flags then some flags else none
  | .flags change => some (flags.change change)
  | .repetition body => body.flagsAfter flags
  | .group kind body => (body.flagsAfter (kind.flags flags)).map fun _ => flags
  | .alternation branches => flagsAfterAll flags branches
  | .sequence parts => flagsAfterAll flags parts

/-- The flags behind some patterns in a row. -/
def flagsAfterAll (flags : Flags) : List Expression → Option Flags
  | [] => some flags
  | expression :: expressions =>
      match expression.flagsAfter flags with
      | none => none
      | some flags => flagsAfterAll flags expressions

end

/-- How deep a usable pattern may be nested. -/
def maxNesting : Nat :=
  250

/-- Whether a pattern can be used: it is not nested too deep, no two groups have the
same name, and nothing in it is refused. -/
def isUsable (expression : Expression) : Bool :=
  expression.nesting ≤ maxNesting && expression.names.Nodup &&
    (expression.flagsAfter {}).isSome

end Expression
end Pattern
end GraphFixture
