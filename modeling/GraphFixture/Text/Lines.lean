import GraphFixture.Text.Segments

/-!
# Lines

A line ends with a line feed, or with a carriage return and a line feed.  A text
that does not end with a line feed has one more line, which is kept as it is.
-/

namespace GraphFixture
namespace Lines

/-- A line without the carriage return at its end. -/
def withoutReturn (line : List Char) : List Char :=
  if line.getLast? = some '\r' then line.dropLast else line

/-- The lines of a text, without what ends them. -/
def split (text : List Char) : List (List Char) :=
  let segments := Segments.split '\n' text
  let ended := segments.dropLast.map withoutReturn
  match segments.getLast? with
  | none => ended
  | some rest => if rest = [] then ended else ended ++ [rest]

/-- The first line of a text. -/
def first (text : List Char) : List Char :=
  (split text).headD []

/-- The text of lines, a line feed after each. -/
def join (lines : List (List Char)) : List Char :=
  lines.flatMap fun line => line ++ ['\n']

end Lines
end GraphFixture
