import GraphFixture.Log.Event
import GraphFixture.Text.Numeral

/-!
# Thresholds of the log

A threshold keeps all levels down to a least important one, or none at all.
-/

namespace GraphFixture
namespace Log

/-- The least important level that is kept, if any level is. -/
abbrev Threshold := Option Level

namespace Threshold

/-- The place of a threshold, the one that keeps nothing first. -/
def rank : Threshold → Nat
  | none => 0
  | some least => least.rank

/-- Whether a threshold keeps a level. -/
def keeps (threshold : Threshold) (level : Level) : Bool :=
  level.rank ≤ threshold.rank

/-- Of two thresholds the one that keeps more. -/
def widest (first second : Threshold) : Threshold :=
  if first.rank ≤ second.rank then second else first

/-- The threshold that a number stands for. -/
def ofNumber? : Nat → Option Threshold
  | 0 => some none
  | 1 => some (some .error)
  | 2 => some (some .warn)
  | 3 => some (some .info)
  | 4 => some (some .debug)
  | 5 => some (some .trace)
  | _ => none

/-- The threshold that a word in lower case names. -/
def ofWord? (word : List Char) : Option Threshold :=
  if word = "off".toList then some none
  else if word = "error".toList then some (some .error)
  else if word = "warn".toList then some (some .warn)
  else if word = "info".toList then some (some .info)
  else if word = "debug".toList then some (some .debug)
  else if word = "trace".toList then some (some .trace)
  else none

/-- The threshold that a text stands for: a number, or a word in any case. -/
def read? (text : List Char) : Option Threshold :=
  match Numeral.read (Utf8.encode text) with
  | .ok number => ofNumber? number.toNat
  | .error _ => ofWord? (text.map Char.toLower)

end Threshold
end Log
end GraphFixture
