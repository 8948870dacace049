import GraphFixture.Text.Blank
import GraphFixture.Text.Utf8

/-!
# The format of the log

The format is named by a word.  White space around the word and the case of its
ASCII letters do not matter.  A word that names no format is kept as it was
found.
-/

namespace GraphFixture
namespace Log

/-- How log lines are written. -/
inductive Format where
  /-- One readable line per event. -/
  | human
  /-- One JSON object per event. -/
  | json
  deriving DecidableEq, Repr

/-- A setting that names no format, with all of its text. -/
structure UnsupportedFormat where
  provided : List Char
  deriving DecidableEq, Repr

/-- The text of the refusal of a word. -/
def UnsupportedFormat.message (error : UnsupportedFormat) : String :=
  String.join ["unsupported log format \x60", String.ofList error.provided,
    "\x60; expected \x60human\x60 or \x60json\x60"]

namespace Format

/-- The format that is used when none is named. -/
def standard : Format :=
  .human

instance : Inhabited Format :=
  ⟨standard⟩

/-- The word that names a format. -/
def word : Format → List Char
  | .human => "human".toList
  | .json => "json".toList

/-- Read the name of a format. -/
def read (text : List Char) : Except UnsupportedFormat Format :=
  let folded := (Blank.trim text).map Char.toLower
  if folded = Format.human.word then .ok .human
  else if folded = Format.json.word then .ok .json
  else .error ⟨text⟩

/-- The format that a byte string names, after invalid units are replaced. -/
def ofBytes (bytes : ByteString) : Except UnsupportedFormat Format :=
  read (Utf8.decodeLossy bytes)

/-- The format that a setting selects, the standard one when there is none. -/
def ofSetting : Option ByteString → Except UnsupportedFormat Format
  | none => .ok standard
  | some bytes => ofBytes bytes

end Format
end Log
end GraphFixture
