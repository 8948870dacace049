import GraphFixture.Log.Directive.Reading

/-!
# The filter of the log

A filter is a list of directives separated by commas.  Of the general directives
that apply the most specific one decides, and of several with the same condition
the last one.  A span that a scoped directive singles out is kept and widens
what is kept inside it.  What neither keeps is dropped.  A span that is dropped
leaves no trace: neither its end nor its place in the context of other events.
-/

namespace GraphFixture
namespace Log

/-- The directives of a filter, in the order in which they were written. -/
structure Filter where
  directives : List Directive
  deriving DecidableEq, Repr

namespace Filter

/-- The filter that keeps informative events of all targets. -/
def standard : Filter :=
  ⟨[{ threshold := some .info }]⟩

/-! ## Reading -/

/-- Read a filter.  Empty directives are skipped. -/
def read? (text : List Char) : Option Filter :=
  (((Segments.split ',' text).filter (· ≠ [])).mapM Directive.read?).map Filter.mk

/-- The filter that a setting selects, the standard one when there is none or
when it cannot be read. -/
def ofSetting : Option ByteString → Filter
  | none => standard
  | some bytes => ((Utf8.decode? bytes).bind read?).getD standard

/-! ## General directives -/

/-- The deciding directive of two that both apply, the second one written
later. -/
def moreSpecific (earlier : Option Directive) (later : Directive) :
    Option Directive :=
  match earlier with
  | none => some later
  | some earlier =>
      if earlier.condition.outranks later.condition then some earlier else some later

/-- What the general directives among some directives keep. -/
def generalThreshold (directives : List Directive) : Threshold :=
  ((directives.filter (·.condition.isGeneral)).foldl moreSpecific none).bind
    Directive.threshold

/-- What the general directives keep of an event's kind. -/
def eventThreshold (filter : Filter) (event : Event) : Threshold :=
  generalThreshold (filter.directives.filter (·.condition.acceptsEvent event))

/-- What the general directives keep of a span's kind.  The named values that
they ask for do not matter. -/
def spanThreshold (filter : Filter) (span : Span) : Threshold :=
  generalThreshold (filter.directives.filter (·.condition.acceptsTarget span.target))

/-! ## Scoped directives -/

/-- Keep of several directives with the same condition the last one. -/
def latest : List Directive → List Directive
  | [] => []
  | directive :: rest =>
      if rest.any (·.condition = directive.condition) then latest rest
      else directive :: latest rest

/-- The directives that single out a span, the latest of those for one condition. -/
def singlingOut (filter : Filter) (span : Span) : List Directive :=
  (latest filter.directives).filter fun directive =>
    directive.condition.isScoped && directive.condition.singlesOut span

/-- What the scoped directives keep inside a span. -/
def innerThreshold (filter : Filter) (span : Span) : Threshold :=
  (((filter.singlingOut span).filter (·.condition.isMetBy span)).map
    Directive.threshold).foldl Threshold.widest none

/-- The widest threshold of a filter.  A filter that expects values does not know
beforehand what it will keep, and so has the widest of all. -/
def ceiling (filter : Filter) : Threshold :=
  if filter.directives.any (·.condition.expectsValue) then some .trace
  else (filter.directives.map Directive.threshold).foldl Threshold.widest none

/-! ## Contexts -/

/-- What is known inside some open spans. -/
structure Reach where
  /-- The open spans that were kept. -/
  spans : List Span := []
  /-- What is kept because of them. -/
  threshold : Threshold := none
  deriving DecidableEq, Repr

/-- Whether a span is kept inside others. -/
def keepsSpan (filter : Filter) (reach : Reach) (span : Span) : Bool :=
  (filter.singlingOut span ≠ [] && filter.ceiling.keeps Span.level) ||
    (filter.spanThreshold span).keeps Span.level || reach.threshold.keeps Span.level

/-- Open a span inside others. -/
def enter (filter : Filter) (reach : Reach) (span : Span) : Reach :=
  if filter.keepsSpan reach span then
    { spans := reach.spans ++ [span]
      threshold := reach.threshold.widest (filter.innerThreshold span) }
  else reach

/-- How far the log reaches inside some open spans. -/
def inside (filter : Filter) (context : List Span) : Reach :=
  context.foldl filter.enter {}

/-- Whether an event is kept.  The end of a span is kept with the span. -/
def keepsEvent (filter : Filter) (event : Event) : Bool :=
  if event.isClosing then
    match event.context.getLast? with
    | none => false
    | some span => filter.keepsSpan (filter.inside event.context.dropLast) span
  else
    (filter.eventThreshold event).keeps event.level ||
      (filter.inside event.context).threshold.keeps event.level

/-- The events that a filter keeps, dropped spans taken out of their contexts. -/
def apply (filter : Filter) (events : List Event) : List Event :=
  (events.filter filter.keepsEvent).map fun event =>
    { event with context := (filter.inside event.context).spans }

end Filter
end Log
end GraphFixture
