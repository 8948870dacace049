import GraphFixture.Text.Utf8

/-!
# Numerals that fit into a word

A numeral is an optional plus sign and one or more decimal digits, and its
value must fit into a word.  Reading goes from left to right and stops at the
first fault.
-/

namespace GraphFixture
namespace Numeral

/-- What is wrong with a text that should be a numeral. -/
inductive Fault where
  | empty
  | invalidDigit
  | tooLarge
  deriving DecidableEq, Repr

/-- The words that describe a fault. -/
def Fault.message : Fault → String
  | .empty => "cannot parse integer from empty string"
  | .invalidDigit => "invalid digit found in string"
  | .tooLarge => "number too large to fit in target type"

/-- The value of a decimal digit. -/
def digit? (byte : UInt8) : Option Nat :=
  if 0x30 ≤ byte ∧ byte ≤ 0x39 then some (byte.toNat - 0x30) else none

/-- Read digits after those whose value is already known. -/
def readFrom : (value : Nat) → ByteString → Except Fault UInt64
  | value, [] => .ok (UInt64.ofNat value)
  | value, byte :: rest =>
      match digit? byte with
      | none => .error .invalidDigit
      | some digit =>
          if value * 10 + digit < UInt64.size then
            readFrom (value * 10 + digit) rest
          else .error .tooLarge

/-- A byte string without one plus sign at its start. -/
def unsigned : ByteString → ByteString
  | 0x2B :: rest => rest
  | bytes => bytes

/-- Read a numeral. -/
def read (bytes : ByteString) : Except Fault UInt64 :=
  if bytes = [] then .error .empty
  else
    match unsigned bytes with
    | [] => .error .invalidDigit
    | digits => readFrom 0 digits

end Numeral
end GraphFixture
