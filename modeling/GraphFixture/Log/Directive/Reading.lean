import GraphFixture.Log.Directive
import GraphFixture.Text.Blank
import GraphFixture.Pattern.Reading
import GraphFixture.Text.Numeral
import GraphFixture.Text.Segments

/-!
# Reading directives

A directive is a threshold, a target, or a condition followed by an equals sign
and a threshold.  A condition is a target and, in brackets, the name of a span
and, in braces, a named value with or without the value that is expected.  A
directive without a threshold keeps everything.

White space around a directive takes part in no step of reading it, but the
parts of the directive are cut from the whole text, at distances that are
counted without the white space before it.
-/

namespace GraphFixture
namespace Log

/-! ## Expected values -/

/-- The digits that a text begins with, and the rest. -/
def spanDigits (text : List Char) : List Char × List Char :=
  (text.takeWhile Char.isDigit, text.dropWhile Char.isDigit)

/-- A text without one sign at its start. -/
def withoutSign : List Char → List Char
  | [] => []
  | first :: rest => if first = '+' ∨ first = '-' then rest else first :: rest

/-- Whether a text is an exponent, or nothing. -/
def isExponent : List Char → Bool
  | [] => true
  | letter :: rest =>
      let digits := withoutSign rest
      (letter = 'e' || letter = 'E') && digits ≠ [] && digits.all Char.isDigit

/-- Whether a text is a real number: digits with or without a point and an
exponent, or the word for infinity or for no number. -/
def isReal (text : List Char) : Bool :=
  let body := withoutSign text
  let word := body.map Char.toLower
  let (whole, rest) := spanDigits body
  let (fraction, exponent) :=
    match rest with
    | '.' :: rest => spanDigits rest
    | _ => ([], rest)
  word = "inf".toList || word = "infinity".toList || word = "nan".toList ||
    ((whole ≠ [] || fraction ≠ []) && isExponent exponent)

/-- Read an expected value.  What is no flag and no number may still be a pattern. -/
def Expected.read? (text : List Char) : Option Expected :=
  if text = "true".toList then some (.flag true)
  else if text = "false".toList then some (.flag false)
  else
    match Numeral.read (Utf8.encode text) with
    | .ok value => some (.number value)
    | .error _ =>
        if isReal text || Pattern.isWellFormed text then some (.other text) else none

/-- Read a named value, with the value that is expected after an equals sign.  A
second equals sign ends the expected value. -/
def FieldCondition.read? (text : List Char) : Option FieldCondition :=
  match Segments.split '=' text with
  | [] => none
  | [name] => if name = [] then none else some { name }
  | name :: value :: _ =>
      (Expected.read? value).map fun expected => { name, expected := some expected }

/-! ## Parts of a directive -/

namespace Directive

/-- Which part of a directive is being read, and where it began. -/
inductive Part where
  | beginning
  | word (start : Nat)
  | spanName (start : Nat)
  | field (start : Nat)
  | afterField
  | afterSpan
  | threshold (start : Nat)
  deriving DecidableEq, Repr

/-- How far a directive has been read. -/
structure Scan where
  part : Part := .beginning
  condition : Condition := {}
  deriving DecidableEq, Repr

/-- Whether a directive may begin with a character, brackets apart. -/
def canBegin (character : Char) : Bool :=
  character = '-' || character = ':' || character = '_' ||
    Alphanumeric.isAlphanumeric character

/-- The text between two places, if neither is inside a character. -/
def cut (whole : ByteString) (start stop : Nat) : Option (List Char) :=
  Utf8.decode? ((whole.drop start).take (stop - start))

namespace Scan

/-- Go on with another part once the target is known. -/
def withTarget (scan : Scan) (target : List Char) (part : Part) : Scan :=
  { part, condition := { scan.condition with target } }

/-- Finish the name of a span.  Before a named value an empty name stands for
any span. -/
def withSpan (scan : Scan) (name : Option (List Char)) (part : Part) : Scan :=
  { part, condition := { scan.condition with span := name } }

/-- Read one character at a place of the whole directive. -/
def read (whole : ByteString) (place : Nat) (scan : Scan) (character : Char) :
    Option Scan :=
  match scan.part with
  | .beginning =>
      if character = '[' then some { scan with part := .spanName (place + 1) }
      else if canBegin character then some { scan with part := .word place }
      else none
  | .word start =>
      if character = '=' then
        (cut whole start place).map (scan.withTarget · (.threshold (place + 1)))
      else if character = '[' then
        (cut whole start place).map (scan.withTarget · (.spanName (place + 1)))
      else some scan
  | .spanName start =>
      if character = ']' then
        (cut whole start place).map fun name => scan.withSpan (some name) .afterSpan
      else if character = '\x7b' then
        (cut whole start place).map fun name =>
          scan.withSpan (if name = [] then none else some name) (.field (place + 1))
      else some scan
  | .field start =>
      if character = '\x7d' then
        ((cut whole start place).bind FieldCondition.read?).map fun field =>
          { part := .afterField, condition := { scan.condition with field := some field } }
      else some scan
  | .afterField =>
      if character = ']' then some { scan with part := .afterSpan } else none
  | .afterSpan =>
      if character = '=' then some { scan with part := .threshold (place + 1) } else none
  | .threshold _ => some scan

/-- Read characters until one cannot stand where it does. -/
def readFrom (whole : ByteString) : (place : Nat) → Scan → List Char → Option Scan
  | _, scan, [] => some scan
  | place, scan, character :: rest =>
      match scan.read whole place character with
      | none => none
      | some next => readFrom whole (place + character.utf8Size) next rest

/-- The directive that was read, when the text ends where a directive may end. -/
def finish (whole : ByteString) (scan : Scan) : Option Directive :=
  match scan.part with
  | .word start =>
      (cut whole start whole.length).map fun word =>
        match Threshold.read? word with
        | some threshold => { threshold }
        | none => { condition := { target := word }, threshold := some .trace }
  | .threshold start =>
      (cut whole start whole.length).bind fun word =>
        if word = [] then some ⟨scan.condition, some .trace⟩
        else (Threshold.read? word).map fun threshold => ⟨scan.condition, threshold⟩
  | .afterSpan => some ⟨scan.condition, some .trace⟩
  | _ => none

end Scan

/-- Read a directive. -/
def read? (text : List Char) : Option Directive :=
  let whole := Utf8.encode text
  (Scan.readFrom whole 0 {} (Blank.trim text)).bind (Scan.finish whole)

end Directive
end Log
end GraphFixture
