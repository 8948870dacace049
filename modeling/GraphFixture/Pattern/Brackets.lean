import GraphFixture.Pattern.Escape

/-!
# Sets in brackets

A set lists characters, ranges, kinds, named classes and further sets, and may
combine what it has listed with what follows.  Dashes at its beginning stand for
themselves, and so does a closing bracket that comes first.
-/

namespace GraphFixture
namespace Pattern
namespace Brackets

/-- A set whose closing bracket was not read yet. -/
structure Opened where
  isNegated : Bool := false
  /-- What was listed since the last operation, the last one first. -/
  listed : List ClassSet := []
  /-- What stands before the last operation. -/
  left : Option ClassSet := none

namespace Opened

/-- Add a set to those that are listed side by side. -/
def list (opened : Opened) (set : ClassSet) : Opened :=
  { opened with listed := set :: opened.listed }

/-- The union of what was listed since the last operation. -/
def operand (opened : Opened) : ClassSet :=
  match opened.listed with
  | [] => .empty
  | [set] => set
  | sets => .union sets.reverse

/-- The set between the brackets as far as it was read. -/
def set (opened : Opened) : ClassSet :=
  match opened.left with
  | none => opened.operand
  | some left => .combination left opened.operand

/-- Begin to list what an operation combines with the set that was read. -/
def combine (opened : Opened) : Opened :=
  { opened with listed := [], left := some opened.set }

end Opened

/-- The set of one character that stands for itself. -/
def literalOf (character : Char) : ClassSet :=
  .literal { character }

/-- The dashes that a text begins with, and the rest. -/
def readDashes (isSpaced : Bool) (opened : Opened) : (steps : Nat) → List Char →
    Opened × List Char
  | 0, text => (opened, text)
  | steps + 1, text =>
      match Spacing.skip isSpaced text with
      | '-' :: rest => readDashes isSpaced (opened.list (literalOf '-')) steps rest
      | text => (opened, text)

/-- Read the beginning of a set after its bracket. -/
def readOpening (isSpaced : Bool) (text : List Char) : Opened × List Char :=
  let text := Spacing.skip isSpaced text
  let (isNegated, text) :=
    match text with
    | '^' :: rest => (true, rest)
    | text => (false, text)
  let (opened, text) := readDashes isSpaced { isNegated } text.length text
  match opened.listed, text with
  | [], ']' :: rest => (opened.list (literalOf ']'), rest)
  | _, text => (opened, text)

/-- The names that stand between colons for a class of characters. -/
def classNames : List String :=
  ["alnum", "alpha", "ascii", "blank", "cntrl", "digit", "graph", "lower", "print",
    "punct", "space", "upper", "word", "xdigit"]

/-- Read a named class after its bracket, and give whether it is negated. -/
def readNamed (text : List Char) : Option (Bool × List Char) :=
  match text with
  | ':' :: text =>
      let isNegated := text.head? = some '^'
      let text := if isNegated then text.drop 1 else text
      let name := text.takeWhile (· ≠ ':')
      match text.dropWhile (· ≠ ':') with
      | ':' :: ']' :: rest =>
          if classNames.any (·.toList = name) then some (isNegated, rest) else none
      | _ => none
  | _ => none

/-- Read one character of a set, or a backslash and what follows it. -/
def readPrimitive (isSpaced : Bool) : List Char → Option (Primitive × List Char)
  | [] => none
  | character :: rest =>
      if character = '\\' then Escape.read isSpaced rest
      else some (.literal { character }, rest)

/-- The set of a primitive, if it is one of characters. -/
def setOf? : Primitive → Option ClassSet
  | .literal value => some (.literal value)
  | .kind isNegated => some (.kind isNegated)
  | _ => none

/-- The range between two literals, if it goes upwards. -/
def rangeOf? : Primitive → Primitive → Option ClassSet
  | .literal first, .literal last =>
      if first.character ≤ last.character then some (.range first last) else none
  | _, _ => none

/-- Whether a text continues a range.  A dash before another dash or before the
closing bracket stands for itself. -/
def continuesRange (isSpaced : Bool) : List Char → Bool
  | '-' :: rest =>
      let next := Spacing.peek isSpaced rest
      next ≠ some ']' && next ≠ some '-'
  | _ => false

/-- Read a range, or what it would begin with. -/
def readRange (isSpaced : Bool) (text : List Char) : Option (ClassSet × List Char) :=
  (readPrimitive isSpaced text).bind fun (first, rest) =>
    let rest := Spacing.skip isSpaced rest
    if continuesRange isSpaced rest then
      (readPrimitive isSpaced (Spacing.skip isSpaced (rest.drop 1))).bind
        fun (last, rest) => (rangeOf? first last).map (·, rest)
    else (setOf? first).map (·, rest)

/-- Whether a character written twice combines two sets. -/
def isOperator (character : Char) : Bool :=
  character = '&' || character = '-' || character = '~'

/-- The open sets, of which the innermost one stands apart. -/
structure Scan where
  innermost : Opened
  outer : List Opened := []

/-- Read on in the sets that are open, and give the outermost one and the rest of
the text after its bracket. -/
def readFrom (isSpaced : Bool) : (steps : Nat) → Scan → List Char →
    Option (Expression × List Char)
  | 0, _, _ => none
  | steps + 1, scan, text =>
      match Spacing.skip isSpaced text with
      | [] => none
      | character :: rest =>
          if character = '[' then
            match readNamed rest with
            | some (isNegated, rest) =>
                readFrom isSpaced steps
                  { scan with innermost := scan.innermost.list (.named isNegated) } rest
            | none =>
                let (opened, rest) := readOpening isSpaced rest
                readFrom isSpaced steps ⟨opened, scan.innermost :: scan.outer⟩ rest
          else if character = ']' then
            match scan.outer with
            | [] =>
                some (.bracketed scan.innermost.isNegated scan.innermost.set, rest)
            | parent :: outer =>
                readFrom isSpaced steps
                  ⟨parent.list (.nested scan.innermost.isNegated scan.innermost.set), outer⟩
                  rest
          else if isOperator character && rest.head? = some character then
            readFrom isSpaced steps
              { scan with innermost := scan.innermost.combine } (rest.drop 1)
          else
            match readRange isSpaced (character :: rest) with
            | none => none
            | some (set, rest) =>
                readFrom isSpaced steps
                  { scan with innermost := scan.innermost.list set } rest

/-- Read a set after its bracket.  Every step reads a character, so there are no
more steps than characters. -/
def read (isSpaced : Bool) (text : List Char) : Option (Expression × List Char) :=
  let (opened, rest) := readOpening isSpaced text
  readFrom isSpaced rest.length ⟨opened, []⟩ rest

end Brackets
end Pattern
end GraphFixture
