import GraphFixture.Text.Utf8

/-!
# What a terminal shows of a text

Control characters and control sequences steer a terminal and are not shown.  A
sequence begins with the escape character.  What follows says of which kind it
is: a short sequence, a control sequence that a letter ends, or a string that
runs until it is ended by its own terminator.

White space is shown even where it interrupts a short sequence or a control
sequence, and so is what follows it.  In a text the sequence is then over.  In a
stream it is pending: it goes on with the next control character.
-/

namespace GraphFixture
namespace Terminal

/-- What is shown: a text that is complete, or a stream that is being written. -/
inductive Medium where
  | text
  | stream
  deriving DecidableEq, Repr

/-- What the characters read so far belong to. -/
inductive Context where
  /-- Shown text. -/
  | plain
  /-- A sequence of which only the escape character was read. -/
  | escape
  /-- A short sequence that still lacks its last character. -/
  | short
  /-- A control sequence that still lacks its last character. -/
  | control
  /-- A device control string of which only the introducer was read. -/
  | device
  /-- The parameters of a device control string. -/
  | deviceParameters
  /-- The characters between the parameters of a device control string and its
  body. -/
  | deviceIntermediates
  /-- A string that the byte `0x9C` ends. -/
  | string
  /-- A string that the bell ends. -/
  | command
  deriving DecidableEq, Repr

/-! ## Characters -/

/-- Whether the number of a character lies in a range. -/
def isBetween (first last : Nat) (character : Char) : Bool :=
  first ≤ character.toNat && character.toNat ≤ last

/-- The characters that end whatever sequence they stand in. -/
def isCancelling (character : Char) : Bool :=
  character.toNat = 0x18 || character.toNat = 0x1A

/-- Whether a character begins a sequence. -/
def isEscape (character : Char) : Bool :=
  character.toNat = 0x1B

/-- Whether a character controls the terminal. -/
def isControl (character : Char) : Bool :=
  character.toNat < 0x20 || character.toNat = 0x7F

/-- The control characters that are shown: the tab, the line feed, the form feed
and the carriage return. -/
def isSpacing (character : Char) : Bool :=
  character.toNat = 0x9 || character.toNat = 0xA || character.toNat = 0xC ||
    character.toNat = 0xD

/-- Whether a character is shown outside of sequences. -/
def isShown (character : Char) : Bool :=
  !isControl character || isSpacing character

/-- Whether a character is outside ASCII. -/
def isWide (character : Char) : Bool :=
  0x80 ≤ character.toNat

/-- Whether the bytes of a character hold the terminator of a string. -/
def holdsTerminator (character : Char) : Bool :=
  isWide character && (String.utf8EncodeChar character).contains 0x9C

/-- Whether a character may stand between the start and the end of a sequence. -/
def isIntermediate (character : Char) : Bool :=
  isBetween 0x20 0x2F character

/-- The characters that end a control sequence or begin the body of a device
control string. -/
def isFinal (character : Char) : Bool :=
  isBetween 0x40 0x7E character

/-! ## Sequences -/

/-- The context that the second character of a sequence opens. -/
def opened (character : Char) : Context :=
  if character = '[' then .control
  else if character = ']' then .command
  else if character = 'P' then .device
  else if character = 'X' || character = '^' || character = '_' then .string
  else if isIntermediate character then .short
  else .plain

/-- The context after a character of a device control string that has no body
yet.  A parameter out of place makes the rest of the string meaningless. -/
def inDevice (context : Context) (character : Char) : Context :=
  if isFinal character then .string
  else if isIntermediate character then .deviceIntermediates
  else if isBetween 0x30 0x3B character then
    if context = .deviceIntermediates then .string else .deviceParameters
  else if isBetween 0x3C 0x3F character then
    if context = .device then .deviceParameters else .string
  else context

/-- What a character does to a context: nothing if it is shown, and else the
context after it. -/
def Context.advance (context : Context) (character : Char) : Option Context :=
  if isCancelling character then some .plain
  else if isEscape character then some .escape
  else
    match context with
    | .plain => if isShown character then none else some .plain
    | .escape =>
        if isSpacing character then none
        else if isControl character || isWide character then some .escape
        else some (opened character)
    | .short =>
        if isSpacing character then none
        else if isBetween 0x30 0x7E character then some .plain
        else some .short
    | .control =>
        if isSpacing character then none
        else if isFinal character then some .plain
        else some .control
    | .string => if holdsTerminator character then some .plain else some .string
    | .command => if character.toNat = 0x7 then some .plain else some .command
    | context => some (inDevice context character)

/-- The sequence that is pending after a shown character.  On a stream a
character outside ASCII ends it too. -/
def Medium.pending (medium : Medium) (context : Context) (character : Char) :
    Context :=
  match medium with
  | .text => .plain
  | .stream => if isWide character then .plain else context

/-! ## Texts -/

/-- How far a text has been read. -/
structure Position where
  context : Context := .plain
  /-- Whether the sequence is pending because shown characters interrupt it. -/
  isInterrupted : Bool := false
  deriving DecidableEq, Repr

/-- What is shown of the rest of a text. -/
def visibleFrom (medium : Medium) : Position → List Char → List Char
  | _, [] => []
  | position, character :: rest =>
      if position.isInterrupted && isShown character then
        character :: visibleFrom medium
          ⟨medium.pending position.context character, true⟩ rest
      else
        match position.context.advance character with
        | none =>
            character :: visibleFrom medium
              ⟨medium.pending position.context character, true⟩ rest
        | some next => visibleFrom medium ⟨next, false⟩ rest

/-- What is shown of a text. -/
def visible (medium : Medium) (text : List Char) : List Char :=
  visibleFrom medium {} text

/-- What is shown of a word. -/
def Medium.shown (medium : Medium) (word : String) : String :=
  String.ofList (visible medium word.toList)

end Terminal
end GraphFixture
