import GraphFixture.CommandLine.Refusal
import GraphFixture.Text.Segments

/-!
# Reading a command line

Arguments are read from left to right.  An option whose value stands in the next
argument is pending until that value has come and the next option or the end
settles it.  An argument that cannot be used at all is refused at once, even
while an option is pending.
-/

namespace GraphFixture
namespace CommandLine

/-! ## The shapes of arguments -/

/-- The byte that options begin with. -/
def dash : UInt8 :=
  0x2D

/-- The byte between an option and its attached value. -/
def equalsSign : UInt8 :=
  0x3D

/-- What an argument looks like. -/
inductive Shape where
  /-- Two dashes: no options follow. -/
  | escape
  /-- Two dashes, a word, and perhaps an attached value. -/
  | long (word : ByteString) (value : Option ByteString)
  /-- One dash and one-letter flags. -/
  | short (cluster : ByteString)
  /-- Anything else. -/
  | plain
  deriving DecidableEq, Repr

namespace Shape

/-- The shape of an argument, which its first bytes decide. -/
def of : ByteString → Shape
  | 0x2D :: 0x2D :: [] => .escape
  | 0x2D :: 0x2D :: rest =>
      let (word, value) := Segments.splitFirst equalsSign rest
      .long word value
  | 0x2D :: first :: rest => .short (first :: rest)
  | _ => .plain

end Shape

/-- A word after two dashes as it is shown in messages. -/
def shownLong (word : ByteString) : String :=
  "--" ++ ByteString.shown word

/-- The first flag of a cluster as it is shown in messages: one character, or
the whole cluster when it does not begin with one. -/
def shownShort (cluster : ByteString) : String :=
  match Utf8.units none cluster with
  | some character :: _ => String.ofList ['-', character]
  | _ => "-" ++ ByteString.shown cluster

/-- The word of the command that generates a fixture. -/
def generateWord : ByteString :=
  ByteString.ofWord "generate"

/-- The word of the command that gives help. -/
def helpWord : ByteString :=
  ByteString.ofWord "help"

/-- The one-letter flag that gives help. -/
def helpLetter : UInt8 :=
  0x68

/-- The one-letter form of the option that names the output. -/
def outputLetter : UInt8 :=
  0x6F

/-! ## Values -/

/-- Read the value of an option that takes a number. -/
def readNumeral (name : OptionName) (value : ByteString) :
    Except Refusal UInt64 :=
  match Utf8.decode? value with
  | none => .error .invalidText
  | some text =>
      (Numeral.read value).mapError (.invalidNumeral name (String.ofList text))

/-- Read the value of the option for the layout.  The case of its letters matters. -/
def readLayout (value : ByteString) : Except Refusal Layout :=
  if value = [] then .error (.missingValue .layout)
  else if value = ByteString.ofWord Layout.compact.word then .ok .compact
  else if value = ByteString.ofWord Layout.expanded.word then .ok .expanded
  else .error (.invalidLayout (ByteString.shown value))

/-- Read the value of the option for the output, which may be any bytes but none. -/
def readPath (value : ByteString) : Except Refusal ByteString :=
  if value = [] then .error (.missingValue .output) else .ok value

/-- Give an option its value.  No option may be given twice. -/
def Given.assign (given : Given) (name : OptionName) (value : ByteString) :
    Except Refusal Given :=
  if given.has name then .error (.repeated name)
  else
    match name with
    | .nodes => (readNumeral .nodes value).map fun count =>
        { given with nodeCount := some count }
    | .seed => (readNumeral .seed value).map fun seed =>
        { given with seed := some seed }
    | .layout => (readLayout value).map fun layout =>
        { given with layout := some layout }
    | .output => (readPath value).map fun path =>
        { given with output := some path }

/-! ## The options of the command that generates -/

/-- An option that still waits to be given, with its value once it has come. -/
structure Pending where
  name : OptionName
  value : Option ByteString := none
  deriving DecidableEq, Repr

/-- Give the pending option, if there is one. -/
def settle (given : Given) : Option Pending → Except Refusal Given
  | none => .ok given
  | some ⟨name, none⟩ => .error (.missingValue name)
  | some ⟨name, some value⟩ => given.assign name value

/-- What is known after some arguments. -/
structure Progress where
  given : Given := {}
  pending : Option Pending := none
  deriving DecidableEq, Repr

namespace Progress

/-- Settle the pending option, then stop with the help text on a topic. -/
def stopWithHelp (progress : Progress) (topic : HelpTopic) :
    Except Refusal Progress :=
  (settle progress.given progress.pending).bind fun _ => .error (.help topic)

/-- Settle the pending option, then take up another one. -/
def takeUp (progress : Progress) (name : OptionName)
    (attached : Option ByteString) : Except Refusal Progress :=
  (settle progress.given progress.pending).bind fun given =>
    match attached with
    | some value => (given.assign name value).map fun given => { given }
    | none => .ok { given, pending := some { name } }

/-- The value attached to a one-letter option, with or without an equals sign. -/
def attachedToLetter : ByteString → Option ByteString
  | [] => none
  | byte :: rest => if byte = equalsSign then some rest else some (byte :: rest)

/-- Read an argument that starts with two dashes. -/
def readLong (progress : Progress) (word : ByteString)
    (value : Option ByteString) : Except Refusal Progress :=
  match OptionName.ofWord? word with
  | some name => progress.takeUp name value
  | none =>
      if word = helpWord then
        match value with
        | none => progress.stopWithHelp .generate
        | some value =>
            .error (.unexpectedValue (shownLong word) (ByteString.shown value))
      else .error (.unknownArgument (shownLong word))

/-- Read an argument that starts with one dash. -/
def readShort (progress : Progress) (cluster : ByteString) :
    Except Refusal Progress :=
  match cluster with
  | [] => .error (.unknownArgument (shownShort cluster))
  | letter :: rest =>
      if letter = helpLetter then progress.stopWithHelp .generateSummary
      else if letter = outputLetter then
        progress.takeUp .output (attachedToLetter rest)
      else .error (.unknownArgument (shownShort cluster))

/-- Read an argument that is no option.  It can only be the value that a
pending option waits for. -/
def readPlain (progress : Progress) (argument : ByteString) :
    Except Refusal Progress :=
  match progress.pending with
  | some ⟨name, none⟩ =>
      .ok { progress with pending := some ⟨name, some argument⟩ }
  | _ => .error (.unknownArgument (ByteString.shown argument))

end Progress

/-- Read arguments from left to right.  The first problem ends the reading. -/
def readOptions (progress : Progress) : List ByteString → Except Refusal Given
  | [] => settle progress.given progress.pending
  | argument :: rest =>
      match Shape.of argument with
      | .escape =>
          match rest with
          | [] => settle progress.given progress.pending
          | word :: _ => .error (.unknownArgument (ByteString.shown word))
      | .long word value =>
          match progress.readLong word value with
          | .ok next => readOptions next rest
          | .error refusal => .error refusal
      | .short cluster =>
          match progress.readShort cluster with
          | .ok next => readOptions next rest
          | .error refusal => .error refusal
      | .plain =>
          match progress.readPlain argument with
          | .ok next => readOptions next rest
          | .error refusal => .error refusal

/-! ## Commands -/

/-- The answer to the command that gives help, for a path of commands. -/
def readHelpPath : List ByteString → Refusal
  | [] => .help .program
  | word :: rest =>
      let topic? : Option HelpTopic :=
        if word = generateWord then some .generate
        else if word = helpWord then some .help
        else none
      match topic?, rest with
      | none, _ => .unknownCommand (ByteString.shown word)
      | some topic, [] => .help topic
      | some _, further :: _ => .unknownCommand (ByteString.shown further)

/-- The answer to a first argument that is no command. -/
def readStray (argument : ByteString) (rest : List ByteString) : Refusal :=
  match Shape.of argument with
  | .escape =>
      match rest with
      | [] => .missingCommand
      | word :: _ =>
          if word = generateWord ∨ word = helpWord then
            .unknownArgument (ByteString.shown word)
          else .unknownCommand (ByteString.shown word)
  | .long word value =>
      if word = helpWord then
        match value with
        | none => .help .program
        | some value =>
            .unexpectedValue (shownLong word) (ByteString.shown value)
      else .unknownArgument (shownLong word)
  | .short cluster =>
      if cluster.head? = some helpLetter then .help .program
      else .unknownArgument (shownShort cluster)
  | .plain => .unknownCommand (ByteString.shown argument)

/-- Read a command line, the name of the program first. -/
def parse (arguments : List ByteString) : Except Refusal Invocation :=
  match arguments.drop 1 with
  | [] => .error .missingCommand
  | command :: rest =>
      if command = generateWord then
        (readOptions {} rest).map Given.complete
      else if command = helpWord then .error (readHelpPath rest)
      else .error (readStray command rest)

/-- The name by which the program calls itself: the last component of the path
that it was started by, if that is text. -/
def programName (arguments : List ByteString) : Option String :=
  match arguments with
  | [] => none
  | path :: _ =>
      let components := (Segments.split 0x2F path).filter fun component =>
        component ≠ [] && component ≠ [0x2E]
      match components.getLast? with
      | none => none
      | some [0x2E, 0x2E] => none
      | some name => (Utf8.decode? name).map String.ofList

end CommandLine
end GraphFixture
