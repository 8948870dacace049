/-!
# The flags of a pattern

A flag changes how the rest of a pattern, or of a group, is understood.  Three of
the seven flags decide what a pattern may ask for; the others make no difference
here.
-/

namespace GraphFixture
namespace Pattern

/-- A switch that changes how a pattern is understood. -/
inductive Flag where
  /-- Letters stand for both of their cases. -/
  | anyCase
  /-- Lines have edges of their own. -/
  | multiLine
  /-- The dot stands for line feeds too. -/
  | anyLine
  /-- Repetitions are as short as possible. -/
  | shortest
  /-- Characters are those of Unicode, and not only those of ASCII. -/
  | allCharacters
  /-- Lines may end with a carriage return. -/
  | carriageReturn
  /-- White space and comments mean nothing. -/
  | spaced
  deriving DecidableEq, Repr

/-- The flag that a letter stands for. -/
def Flag.ofLetter? (letter : Char) : Option Flag :=
  match letter with
  | 'i' => some .anyCase
  | 'm' => some .multiLine
  | 's' => some .anyLine
  | 'U' => some .shortest
  | 'u' => some .allCharacters
  | 'R' => some .carriageReturn
  | 'x' => some .spaced
  | _ => none

/-- Flags that are set or cleared, each under its name. -/
abbrev FlagChange := List (Flag × Bool)

namespace FlagChange

/-- What a change makes of a flag that had a value. -/
def apply (change : FlagChange) (flag : Flag) (value : Bool) : Bool :=
  (change.lookup flag).getD value

/-- What the flags before a place were read to be. -/
structure Scan where
  change : FlagChange := []
  /-- Whether a minus sign was read, so that flags are cleared. -/
  isClearing : Bool := false
  /-- Whether the minus sign came last. -/
  isDangling : Bool := false
  deriving DecidableEq, Repr

/-- Read the letters of flags up to a colon or a closing parenthesis, and give
the change, the character that ended it and the rest.  No flag stands twice,
there is one minus sign at most, and a flag follows it. -/
def readFrom : Scan → List Char → Option (FlagChange × Char × List Char)
  | _, [] => none
  | scan, character :: rest =>
      if character = ':' ∨ character = ')' then
        if scan.isDangling then none else some (scan.change, character, rest)
      else if character = '-' then
        if scan.isClearing then none
        else readFrom { scan with isClearing := true, isDangling := true } rest
      else
        match Flag.ofLetter? character with
        | none => none
        | some flag =>
            if (scan.change.lookup flag).isSome then none
            else readFrom { change := (flag, !scan.isClearing) :: scan.change
                            isClearing := scan.isClearing } rest

/-- Read a change of flags and the character that ends it. -/
def read (text : List Char) : Option (FlagChange × Char × List Char) :=
  readFrom {} text

end FlagChange

/-- The flags that decide what a pattern may ask for. -/
structure Flags where
  anyCase : Bool := false
  allCharacters : Bool := true
  deriving DecidableEq, Repr

/-- Some flags after a change. -/
def Flags.change (flags : Flags) (change : FlagChange) : Flags where
  anyCase := change.apply .anyCase flags.anyCase
  allCharacters := change.apply .allCharacters flags.allCharacters

end Pattern
end GraphFixture
