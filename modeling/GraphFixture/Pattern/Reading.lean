import GraphFixture.Pattern.Brackets
import GraphFixture.Text.Alphanumeric

/-!
# Reading patterns

A pattern is read from left to right.  Groups that are open stand around the
branch that is being read, and a change of flags holds until its group ends.
Looking around, properties of characters and counted repetitions are no part of
patterns.
-/

namespace GraphFixture
namespace Pattern

/-! ## Groups -/

/-- Whether a character may stand in the name of a group. -/
def isNameCharacter (character : Char) : Bool :=
  character = '_' || character = '.' || character = '[' || character = ']' ||
    Alphanumeric.isAlphanumeric character

/-- Whether a character can begin the name of a group. -/
def canBeginName (character : Char) : Bool :=
  character = '_' || Alphanumeric.isAlphabetic character

/-- Read the name of a group up to its closing angle bracket. -/
def readName (text : List Char) : Option (List Char × List Char) :=
  let name := text.takeWhile (· ≠ '>')
  match name, text.dropWhile (· ≠ '>') with
  | first :: others, '>' :: rest =>
      if canBeginName first && others.all isNameCharacter then some (name, rest) else none
  | _, _ => none

/-- What an opening parenthesis begins. -/
inductive Opening where
  | group (kind : GroupKind)
  /-- No group, but a change of flags. -/
  | flags (change : FlagChange)

/-- Read flags after a question mark, and what they are for. -/
def readFlagged (text : List Char) : Option (Opening × List Char) :=
  match FlagChange.read text with
  | none => none
  | some (change, ending, rest) =>
      if ending = ':' then some (.group (.flagged change), rest)
      else if change = [] then none
      else some (.flags change, rest)

/-- Read what stands behind an opening parenthesis. -/
def readOpening (isSpaced : Bool) (text : List Char) : Option (Opening × List Char) :=
  match Spacing.skip isSpaced text with
  | '?' :: 'P' :: '<' :: rest =>
      (readName rest).map fun (name, rest) => (.group (.named name), rest)
  | '?' :: '<' :: rest =>
      (readName rest).map fun (name, rest) => (.group (.named name), rest)
  | '?' :: rest => readFlagged rest
  | rest => some (.group .numbered, rest)

/-! ## Branches -/

/-- The branches of a group, as far as they were read. -/
structure Level where
  isSpaced : Bool := false
  /-- The branches that are complete, the last one first. -/
  branches : List Expression := []
  /-- The parts of the branch that is being read, the last one first. -/
  parts : List Expression := []

namespace Level

/-- Add a part to the branch that is being read. -/
def add (level : Level) (part : Expression) : Level :=
  { level with parts := part :: level.parts }

/-- The branch that the parts since the last bar make up. -/
def branch (level : Level) : Expression :=
  match level.parts with
  | [] => .empty
  | [part] => part
  | parts => .sequence parts.reverse

/-- Begin another branch. -/
def nextBranch (level : Level) : Level :=
  { level with branches := level.branch :: level.branches, parts := [] }

/-- What was read. -/
def expression (level : Level) : Expression :=
  match level.branches with
  | [] => level.branch
  | branches => .alternation (branches.reverse ++ [level.branch])

/-- Repeat the last part, if there is one to repeat. -/
def repeatLast (level : Level) : Option Level :=
  match level.parts with
  | [] => none
  | .empty :: _ => none
  | .flags _ :: _ => none
  | part :: parts => some { level with parts := .repetition part :: parts }

/-- Change the flags for the rest of the group. -/
def change (level : Level) (change : FlagChange) : Level :=
  { level.add (.flags change) with isSpaced := change.apply .spaced level.isSpaced }

end Level

/-- A group whose closing parenthesis was not read yet. -/
structure OpenGroup where
  kind : GroupKind
  around : Level

/-- How far a pattern was read. -/
structure Scan where
  level : Level := {}
  /-- The groups that are open, the innermost one first. -/
  groups : List OpenGroup := []

namespace Scan

/-- Go into a group. -/
def enter (scan : Scan) (kind : GroupKind) : Scan where
  level :=
    { isSpaced :=
        match kind with
        | .flagged change => change.apply .spaced scan.level.isSpaced
        | _ => scan.level.isSpaced }
  groups := ⟨kind, scan.level⟩ :: scan.groups

/-- Come back from a group, if there is one to come back from. -/
def leave (scan : Scan) : Option Scan :=
  match scan.groups with
  | [] => none
  | group :: groups =>
      some ⟨group.around.add (.group group.kind scan.level.expression), groups⟩

/-- The whole pattern, if no group is open. -/
def finish (scan : Scan) : Option Expression :=
  if scan.groups.isEmpty then some scan.level.expression else none

/-- Read the opening of a group, or a change of flags in its place. -/
def readGroup (scan : Scan) (rest : List Char) : Option (Scan × List Char) :=
  (readOpening scan.level.isSpaced rest).map fun (opening, rest) =>
    match opening with
    | .group kind => (scan.enter kind, rest)
    | .flags change => ({ scan with level := scan.level.change change }, rest)

/-- Read after the sign of a repetition.  A question mark makes the repetition as
short as possible. -/
def readRepetition (scan : Scan) (rest : List Char) : Option (Scan × List Char) :=
  scan.level.repeatLast.map fun level =>
    ({ scan with level }, if rest.head? = some '?' then rest.drop 1 else rest)

/-- Add a part to the branch that is being read. -/
def add (scan : Scan) (part : Expression) : Scan :=
  { scan with level := scan.level.add part }

/-- Read a part that begins with a character. -/
def read (scan : Scan) (character : Char) (rest : List Char) :
    Option (Scan × List Char) :=
  match character with
  | '(' => scan.readGroup rest
  | ')' => scan.leave.map (·, rest)
  | '|' => some ({ scan with level := scan.level.nextBranch }, rest)
  | '[' =>
      (Brackets.read scan.level.isSpaced rest).map fun (set, rest) => (scan.add set, rest)
  | '?' | '*' | '+' => scan.readRepetition rest
  | '\x7b' => none
  | '\\' =>
      (Escape.read scan.level.isSpaced rest).map fun (primitive, rest) =>
        (scan.add (.primitive primitive), rest)
  | '.' => some (scan.add (.primitive .any), rest)
  | '^' | '$' => some (scan.add (.primitive .edge), rest)
  | _ => some (scan.add (.primitive (.literal { character })), rest)

/-- Read the rest of a pattern in at most so many steps. -/
def readFrom : (steps : Nat) → Scan → List Char → Option Scan
  | steps, scan, text =>
      match Spacing.skip scan.level.isSpaced text with
      | [] => some scan
      | character :: rest =>
          match steps with
          | 0 => none
          | steps + 1 =>
              match scan.read character rest with
              | none => none
              | some (scan, rest) => readFrom steps scan rest

end Scan

/-- Read a pattern.  Every step reads a character, so there are no more steps than
characters. -/
def read? (text : List Char) : Option Expression :=
  (Scan.readFrom text.length {} text).bind Scan.finish

/-- Whether a text is a pattern that can be used. -/
def isWellFormed (text : List Char) : Bool :=
  (read? text).any Expression.isUsable

end Pattern
end GraphFixture
