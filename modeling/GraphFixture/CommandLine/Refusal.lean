import GraphFixture.CommandLine.Invocation
import GraphFixture.Text.Numeral
import GraphFixture.Text.Terminal

/-!
# Why a command line is not carried out

A command line that asks for help is answered with a help text.  Any other one
that is not accepted is refused for a stated reason.  Of the words of a command
line a text repeats only what a terminal shows.
-/

namespace GraphFixture
namespace CommandLine

/-- What a help text is about. -/
inductive HelpTopic where
  /-- The program as a whole. -/
  | program
  /-- The command that generates, in full. -/
  | generate
  /-- The command that generates, one line per option. -/
  | generateSummary
  /-- The command that gives help. -/
  | help
  deriving DecidableEq, Repr

/-- Why a command line is not carried out. -/
inductive Refusal where
  /-- Help was asked for. -/
  | help (topic : HelpTopic)
  /-- There is no command. -/
  | missingCommand
  | unknownCommand (word : String)
  | unknownArgument (argument : String)
  | unexpectedValue (flag value : String)
  | missingValue (name : OptionName)
  | invalidNumeral (name : OptionName) (value : String) (fault : Numeral.Fault)
  | invalidLayout (value : String)
  /-- A numeral was expected and the bytes are no text. -/
  | invalidText
  | repeated (name : OptionName)
  deriving DecidableEq, Repr

/-- The name under which the program is called when its own is unknown. -/
def standardProgramName : String :=
  "nodeforge"

namespace HelpTopic

/-- The help text of the program. -/
def programText (program : String) : String :=
  String.join [
    "Generate randomized node-graph fixtures for parser stress tests.\n\n",
    "Usage: ", program, " <COMMAND>\n\n",
    "Commands:\n",
    "  generate  Generate one fixture\n",
    "  help      Print this message or the help of the given subcommand(s)\n\n",
    "Options:\n",
    "  -h, --help  Print help\n"]

/-- The help text of the command that generates, in full. -/
def generateText (command : String) : String :=
  String.join [
    "Generate one fixture\n\n",
    "Usage: ", command, " [OPTIONS]\n\n",
    "Options:\n",
    "      --nodes <NODE_COUNT>\n",
    "          Number of indexed nodes to declare\n",
    "          \n",
    "          [default: 300]\n\n",
    "      --seed <SEED>\n",
    "          Seed for reproducible output (drawn from OS entropy when omitted)\n\n",
    "      --layout <LAYOUT>\n",
    "          Whitespace layout of the generated text\n\n",
    "          Possible values:\n",
    "          - compact:  One line per declaration\n",
    "          - expanded: One line per child reference\n",
    "          \n",
    "          [default: compact]\n\n",
    "  -o, --output <OUTPUT>\n",
    "          Write the fixture to this file instead of stdout\n\n",
    "  -h, --help\n",
    "          Print help (see a summary with '-h')\n"]

/-- The help text of the command that generates, one line per option. -/
def generateSummaryText (command : String) : String :=
  String.join [
    "Generate one fixture\n\n",
    "Usage: ", command, " [OPTIONS]\n\n",
    "Options:\n",
    "      --nodes <NODE_COUNT>  Number of indexed nodes to declare [default: 300]\n",
    "      --seed <SEED>         Seed for reproducible output ",
    "(drawn from OS entropy when omitted)\n",
    "      --layout <LAYOUT>     Whitespace layout of the generated text ",
    "[default: compact] [possible values: compact, expanded]\n",
    "  -o, --output <OUTPUT>     Write the fixture to this file instead of stdout\n",
    "  -h, --help                Print help (see more with '--help')\n"]

/-- The help text of the command that gives help. -/
def helpText (command : String) : String :=
  String.join [
    "Print this message or the help of the given subcommand(s)\n\n",
    "Usage: ", command, " [COMMAND]...\n\n",
    "Arguments:\n",
    "  [COMMAND]...  Print help for the subcommand(s)\n"]

/-- How a command is called: after the name of the program, if that is known. -/
def callOf (program : Option String) (command : String) : String :=
  match program with
  | none => command
  | some program => program ++ " " ++ command

/-- The help text on a topic for a program that was called by a name, as a medium
shows it. -/
def text (medium : Terminal.Medium) (program : Option String) : HelpTopic → String
  | .program => programText (medium.shown (program.getD standardProgramName))
  | .generate => generateText (medium.shown (callOf program "generate"))
  | .generateSummary =>
      generateSummaryText (medium.shown (callOf program "generate"))
  | .help => helpText (medium.shown (callOf program "help"))

end HelpTopic

namespace Refusal

/-- The text of a refusal as a medium shows it, or the help text that was asked
for.  A program called without a command is answered with the help text too. -/
def text (medium : Terminal.Medium) (program : Option String) : Refusal → String
  | .help topic => topic.text medium program
  | .missingCommand => HelpTopic.program.text medium program
  | .unknownCommand word =>
      String.join ["error: unrecognized subcommand '", medium.shown word, "'"]
  | .unknownArgument argument =>
      String.join ["error: unexpected argument '", medium.shown argument, "' found"]
  | .unexpectedValue flag value =>
      String.join ["error: unexpected value '", medium.shown value, "' for '",
        medium.shown flag, "' found; no more were expected"]
  | .missingValue name =>
      String.join ["error: a value is required for '", name.shown,
        "' but none was supplied"]
  | .invalidNumeral name value fault =>
      String.join ["error: invalid value '", medium.shown value, "' for '",
        name.shown, "': ", fault.message]
  | .invalidLayout value =>
      String.join ["error: invalid value '", medium.shown value, "' for '",
        OptionName.layout.shown, "'"]
  | .invalidText =>
      "error: invalid UTF-8 was detected in one or more arguments"
  | .repeated name =>
      String.join ["error: the argument '", name.shown,
        "' cannot be used multiple times"]

/-- Whether help was asked for, so that nothing went wrong. -/
def isHelp : Refusal → Bool
  | .help _ => true
  | _ => false

/-- The exit code of a program whose command line was not carried out. -/
def exitCode (refusal : Refusal) : Nat :=
  if refusal.isHelp then 0 else 2

end Refusal
end CommandLine
end GraphFixture
