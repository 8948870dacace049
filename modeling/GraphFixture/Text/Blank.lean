/-!
# White space

White space is the set of characters with the Unicode property `White_Space`:
twenty-five characters in ten ranges.
-/

namespace GraphFixture
namespace Blank

/-- The ranges of white space, each with its first and its last character. -/
def ranges : List (Nat × Nat) :=
  [(0x9, 0xD), (0x20, 0x20), (0x85, 0x85), (0xA0, 0xA0), (0x1680, 0x1680),
    (0x2000, 0x200A), (0x2028, 0x2029), (0x202F, 0x202F), (0x205F, 0x205F),
    (0x3000, 0x3000)]

/-- Whether a character is white space. -/
def isBlank (character : Char) : Bool :=
  ranges.any fun range =>
    decide (range.1 ≤ character.toNat ∧ character.toNat ≤ range.2)

/-- A text without the white space at its start. -/
def trimStart (text : List Char) : List Char :=
  text.dropWhile isBlank

/-- A text without the white space at its end. -/
def trimEnd (text : List Char) : List Char :=
  (text.reverse.dropWhile isBlank).reverse

/-- A text without the white space at its ends. -/
def trim (text : List Char) : List Char :=
  trimEnd (trimStart text)

end Blank
end GraphFixture
