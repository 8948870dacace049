import GraphFixture.Log.Filter
import GraphFixture.Log.Format
import GraphFixture.Log.Line

/-!
# Setting up the log

The log is set up once from two settings.  Further attempts change nothing.  A
setting that names no format leaves the log as it was.
-/

namespace GraphFixture
namespace Log

/-- The two settings of the log, as they were found. -/
structure Settings where
  format : Option ByteString := none
  filter : Option ByteString := none
  deriving DecidableEq, Repr

/-- How the log has been set up. -/
structure Setup where
  format : Format
  filter : Filter
  deriving DecidableEq, Repr

namespace Setup

/-- The log that its two settings ask for. -/
def ofSettings (settings : Settings) : Except UnsupportedFormat Setup :=
  (Format.ofSetting settings.format).map fun format =>
    ⟨format, Filter.ofSetting settings.filter⟩

/-- Set up the log unless that was done before. -/
def install (current : Option Setup) (settings : Settings) :
    Except UnsupportedFormat Setup :=
  match current with
  | some setup => .ok setup
  | none => ofSettings settings

/-- Attempt several times to set up the log, and list what each attempt gave. -/
def attempts (settings : Settings) : Nat → Option Setup →
    List (Except UnsupportedFormat Setup)
  | 0, _ => []
  | count + 1, current =>
      let outcome := install current settings
      outcome :: attempts settings count (outcome.toOption <|> current)

/-- The lines that the kept ones of some events give. -/
def lines (setup : Setup) (events : List Event) : List String :=
  (setup.filter.apply events).map fun event => event.line setup.format

end Setup
end Log
end GraphFixture
