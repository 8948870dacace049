/-!
# Decimal numerals

Numbers are written in base ten without leading zeros.  Reading a numeral back
gives the number that was written.
-/

namespace GraphFixture
namespace Decimal

/-- The base-ten digits of a number, most significant first. -/
def digits (number : Nat) : List Char :=
  Nat.toDigits 10 number

/-- The number that a list of base-ten digits stands for. -/
def value (numeral : List Char) : Nat :=
  Nat.ofDigitChars 10 numeral 0

/-- Reading the digits of a number gives the number back. -/
@[simp] theorem value_digits (number : Nat) :
    value (digits number) = number :=
  Nat.ofDigitChars_ten_toDigits

/-- Different numbers have different digits. -/
theorem digits_injective {left right : Nat}
    (equal : digits left = digits right) : left = right := by
  have values := congrArg value equal
  simpa using values

theorem isDigit_of_mem_digits {number : Nat} {character : Char}
    (member : character ∈ digits number) : character.isDigit = true :=
  Nat.isDigit_of_mem_toDigits (by decide) (by decide) member

theorem digits_ne_nil (number : Nat) : digits number ≠ [] :=
  Nat.toDigits_ne_nil

end Decimal
end GraphFixture
