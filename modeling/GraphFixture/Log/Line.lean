import GraphFixture.Log.Event
import GraphFixture.Log.Format

/-!
# The lines of the log

An event is written as one readable line or as one JSON object.  The readable
line lists every open span.  The object names the innermost span by itself and
lists all open spans; when a span ends, only the spans around it are listed.
Lines carry no clock.
-/

namespace GraphFixture
namespace Log

/-! ## Readable lines -/

/-- Named values, separated by spaces. -/
def plainFields (fields : Fields) : String :=
  " ".intercalate (fields.map fun field => field.1 ++ "=" ++ field.2.plain)

/-- A span with its values in braces. -/
def Span.plain (span : Span) : String :=
  if span.fields.isEmpty then span.name
  else span.name ++ "\x7b" ++ plainFields span.fields ++ "\x7d"

/-- A level, right-aligned to five characters. -/
def Level.aligned (level : Level) : String :=
  String.ofList (List.replicate (5 - level.word.length) ' ') ++ level.word

/-- The open spans of an event, each followed by a colon. -/
def Event.plainContext (event : Event) : String :=
  if event.context.isEmpty then ""
  else String.join (event.context.map fun span => span.plain ++ ":") ++ " "

/-- The message of an event and its values. -/
def Event.plainBody (event : Event) : String :=
  match event.message with
  | none => plainFields event.fields
  | some message =>
      if event.fields.isEmpty then message
      else message ++ " " ++ plainFields event.fields

/-- The readable line of an event. -/
def Event.plainLine (event : Event) : String :=
  event.level.aligned ++ " " ++ event.plainContext ++ event.target ++ ": " ++
    event.plainBody

/-! ## JSON lines -/

/-- The hexadecimal digit of a number below sixteen. -/
def hexDigit (digit : Nat) : Char :=
  Nat.digitChar digit

/-- The characters that stand for one character inside a JSON string. -/
def escaped (character : Char) : List Char :=
  if character = '"' then "\\\"".toList
  else if character = '\\' then "\\\\".toList
  else if character = '\n' then "\\n".toList
  else if character = '\r' then "\\r".toList
  else if character = '\t' then "\\t".toList
  else if character.toNat = 0x8 then "\\b".toList
  else if character.toNat = 0xC then "\\f".toList
  else if character.toNat < 0x20 then
    "\\u00".toList ++
      [hexDigit (character.toNat / 16), hexDigit (character.toNat % 16)]
  else [character]

/-- A text as a JSON string. -/
def quoted (text : String) : String :=
  "\"" ++ String.ofList (text.toList.flatMap escaped) ++ "\""

/-- A value as it stands in a JSON object. -/
def Value.json : Value → String
  | .text value => quoted value
  | .number value => (number value).plain
  | .flag value => (flag value).plain

/-- A JSON object from its members, which are JSON texts under their names. -/
def jsonObject (members : List (String × String)) : String :=
  "\x7b" ++ ",".intercalate (members.map fun member =>
    quoted member.1 ++ ":" ++ member.2) ++ "\x7d"

/-- The members of an object for named values. -/
def jsonMembers (fields : Fields) : List (String × String) :=
  fields.map fun field => (field.1, field.2.json)

/-- The object of a span: its values and its name. -/
def Span.json (span : Span) : String :=
  jsonObject (jsonMembers span.fields ++ [("name", quoted span.name)])

/-- The spans that an event lists: all open ones but a span that ends. -/
def Event.listedSpans (event : Event) : List Span :=
  if event.isClosing then event.context.dropLast else event.context

/-- The members of an event that tell about its spans. -/
def Event.jsonContext (event : Event) : List (String × String) :=
  match event.context.getLast? with
  | none => []
  | some innermost =>
      [("span", innermost.json),
        ("spans", "[" ++ ",".intercalate (event.listedSpans.map Span.json) ++ "]")]

/-- The values of an event, its message first. -/
def Event.allFields (event : Event) : Fields :=
  match event.message with
  | none => event.fields
  | some message => ("message", .text message) :: event.fields

/-- The JSON line of an event. -/
def Event.jsonLine (event : Event) : String :=
  jsonObject ([("level", quoted event.level.word),
    ("fields", jsonObject (jsonMembers event.allFields)),
    ("target", quoted event.target)] ++ event.jsonContext)

/-- The line of an event in a format. -/
def Event.line (event : Event) : Format → String
  | .human => event.plainLine
  | .json => event.jsonLine

end Log
end GraphFixture
