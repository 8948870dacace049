import GraphFixture.Pattern.Expression
import GraphFixture.Pattern.Spacing

/-!
# What follows a backslash

After a backslash a mark of ASCII stands for itself, and a letter for a control
character, a kind of characters, an edge or the number of a character.  The
digits of a number may be spaced.
-/

namespace GraphFixture
namespace Pattern
namespace Escape

/-- The character that a letter stands for. -/
def controlOf? (letter : Char) : Option Char :=
  match letter with
  | 'a' => some (Char.ofNat 0x7)
  | 'f' => some (Char.ofNat 0xC)
  | 'n' => some '\n'
  | 'r' => some '\r'
  | 't' => some '\t'
  | 'v' => some (Char.ofNat 0xB)
  | _ => none

/-- The kind or the edge that a letter or an angle bracket stands for. -/
def specialOf? (letter : Char) : Option Primitive :=
  match letter with
  | 'd' | 's' | 'w' => some (.kind false)
  | 'D' | 'S' | 'W' => some (.kind true)
  | 'A' | 'z' => some .edge
  | 'b' | 'B' | '<' | '>' => some .wordEdge
  | _ => none

/-- Whether a mark stands for itself behind a backslash. -/
def isEscapable (character : Char) : Bool :=
  character.toNat < 0x80 && !character.isAlphanum && character ≠ '<' && character ≠ '>'

/-- How many digits a number has after a letter. -/
def numberLength? (letter : Char) : Option Nat :=
  match letter with
  | 'x' => some 2
  | 'u' => some 4
  | 'U' => some 8
  | _ => none

/-- The value of a hexadecimal digit. -/
def hexadecimal? (character : Char) : Option Nat :=
  if character.isDigit then some (character.toNat - '0'.toNat)
  else if 'a' ≤ character ∧ character ≤ 'f' then some (character.toNat - 'a'.toNat + 10)
  else if 'A' ≤ character ∧ character ≤ 'F' then some (character.toNat - 'A'.toNat + 10)
  else none

/-- The character with a number, if there is one. -/
def characterOf? (number : Nat) : Option Char :=
  if number.isValidChar then some (Char.ofNat number) else none

/-- Read some more digits of a number that began with a value. -/
def readDigits (isSpaced : Bool) : (missing value : Nat) → List Char →
    Option (Nat × List Char)
  | 0, value, text => some (value, text)
  | missing + 1, value, text =>
      match Spacing.skip isSpaced text with
      | [] => none
      | character :: rest =>
          (hexadecimal? character).bind fun digit =>
            readDigits isSpaced missing (value * 16 + digit) rest

/-- Read what stands behind a backslash. -/
def read (isSpaced : Bool) : List Char → Option (Primitive × List Char)
  | [] => none
  | letter :: rest =>
      match numberLength? letter with
      | some length =>
          (readDigits isSpaced length 0 rest).bind fun (number, rest) =>
            (characterOf? number).map fun character =>
              (.literal { character, isByte := letter = 'x' }, rest)
      | none =>
          if isEscapable letter then some (.literal { character := letter }, rest)
          else
            match controlOf? letter with
            | some character => some (.literal { character }, rest)
            | none => (specialOf? letter).map fun primitive => (primitive, rest)

end Escape
end Pattern
end GraphFixture
