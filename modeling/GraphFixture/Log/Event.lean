import GraphFixture.Text.Decimal

/-!
# Events and spans of the log

An event has a level, a target, perhaps a message, and named values.  It
happens inside the spans that are open at that time, the outermost first.  When
a span ends, an event tells so; the ending span is then the last one of its
context.  A span knows some values when it opens and may learn others later.
-/

namespace GraphFixture
namespace Log

/-- How important an event is. -/
inductive Level where
  | error
  | warn
  | info
  | debug
  | trace
  deriving DecidableEq, Repr

namespace Level

/-- The place of a level, the most important one first. -/
def rank : Level → Nat
  | .error => 1
  | .warn => 2
  | .info => 3
  | .debug => 4
  | .trace => 5

/-- The word for a level in a log line. -/
def word : Level → String
  | .error => "ERROR"
  | .warn => "WARN"
  | .info => "INFO"
  | .debug => "DEBUG"
  | .trace => "TRACE"

end Level

/-- A value that an event or a span carries. -/
inductive Value where
  | number (value : Nat)
  | flag (value : Bool)
  | text (value : String)
  deriving DecidableEq, Repr

/-- A value as it stands in a readable line. -/
def Value.plain : Value → String
  | .number value => String.ofList (Decimal.digits value)
  | .flag true => "true"
  | .flag false => "false"
  | .text value => value

/-- Values under their names, in the order in which they are written. -/
abbrev Fields := List (String × Value)

/-- A stretch of work.  Every span is of the informative level. -/
structure Span where
  name : String
  target : String
  /-- The values that are known when the span opens. -/
  opening : Fields := []
  /-- The values that become known while the span is open, as far as they are. -/
  later : List (String × Option Value) := []
  deriving DecidableEq, Repr

namespace Span

/-- The level of every span. -/
def level : Level :=
  .info

/-- The values of a span that are known. -/
def fields (span : Span) : Fields :=
  span.opening ++ span.later.filterMap fun field => field.2.map (field.1, ·)

/-- The names of all values of a span, known or not. -/
def fieldNames (span : Span) : List String :=
  span.opening.map Prod.fst ++ span.later.map Prod.fst

end Span

/-- Something that the log may report. -/
structure Event where
  level : Level
  target : String
  message : Option String := none
  fields : Fields := []
  /-- The names of further values, which the event does without. -/
  absent : List String := []
  /-- The open spans, the outermost first. -/
  context : List Span := []
  /-- Whether the event tells that the last span of its context ends. -/
  isClosing : Bool := false
  deriving DecidableEq, Repr

namespace Event

/-- The names of all values of an event, its message among them. -/
def fieldNames (event : Event) : List String :=
  (event.message.map fun _ => "message").toList ++ event.fields.map Prod.fst ++
    event.absent

/-- The event that tells that a span ends, inside the given outer spans. -/
def closing (outer : List Span) (span : Span) : Event where
  level := Span.level
  target := span.target
  message := some "close"
  context := outer ++ [span]
  isClosing := true

/-- The event of a function that fails inside some spans. -/
def failing (target : String) (context : List Span) (message : String) : Event where
  level := .error
  target := target
  fields := [("error", .text message)]
  context := context

end Event
end Log
end GraphFixture
