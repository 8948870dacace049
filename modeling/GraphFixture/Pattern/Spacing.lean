import GraphFixture.Text.Blank

/-!
# Spacing in a pattern

A spaced pattern may hold white space and comments that mean nothing.  A comment
begins with a number sign and ends with the line.
-/

namespace GraphFixture
namespace Pattern
namespace Spacing

/-- A text without the white space and the comments at its start, which may
begin inside a comment. -/
def skipFrom : (inComment : Bool) → List Char → List Char
  | _, [] => []
  | true, character :: rest => skipFrom (character ≠ '\n') rest
  | false, character :: rest =>
      if Blank.isBlank character then skipFrom false rest
      else if character = '#' then skipFrom true rest
      else character :: rest

/-- A text without what means nothing at its start. -/
def skip (isSpaced : Bool) (text : List Char) : List Char :=
  if isSpaced then skipFrom false text else text

/-- The first character of a text that is no white space, the mark of a first
comment passed over. -/
def firstFrom : (inComment : Bool) → List Char → Option Char
  | _, [] => none
  | inComment, character :: rest =>
      if Blank.isBlank character then firstFrom inComment rest
      else if character = '#' && !inComment then firstFrom true rest
      else some character

/-- The next character of a text for the sake of looking ahead, which in a spaced
pattern looks into a comment. -/
def peek (isSpaced : Bool) (text : List Char) : Option Char :=
  if isSpaced then firstFrom false text else text.head?

end Spacing
end Pattern
end GraphFixture
