import GraphFixture.Block.Layout
import GraphFixture.Generator
import GraphFixture.Text.Utf8

/-!
# What a command line asks for

A command line that is accepted asks for one fixture.  Its four options say how
many nodes the fixture has, from which seed it comes, how it is laid out and
where it goes.
-/

namespace GraphFixture
namespace CommandLine

/-- The options of the command that generates a fixture. -/
inductive OptionName where
  | nodes
  | seed
  | layout
  | output
  deriving DecidableEq, Repr

namespace OptionName

/-- All options, in the order in which they are listed in the help. -/
def all : List OptionName :=
  [.nodes, .seed, .layout, .output]

/-- The word that selects an option after two dashes. -/
def word : OptionName → String
  | .nodes => "nodes"
  | .seed => "seed"
  | .layout => "layout"
  | .output => "output"

/-- The name of an option's value in messages. -/
def placeholder : OptionName → String
  | .nodes => "NODE_COUNT"
  | .seed => "SEED"
  | .layout => "LAYOUT"
  | .output => "OUTPUT"

/-- An option with its value as it is shown in messages. -/
def shown (name : OptionName) : String :=
  "--" ++ name.word ++ " <" ++ name.placeholder ++ ">"

/-- The option that a word selects, if it is the word of one. -/
def ofWord? (word : ByteString) : Option OptionName :=
  all.find? fun name => ByteString.ofWord name.word = word

end OptionName

/-- An accepted request for one fixture. -/
structure Invocation where
  nodeCount : UInt64 := Recipe.standardNodeCount
  seed : Option UInt64 := none
  layout : Layout := .standard
  output : Option ByteString := none
  deriving DecidableEq, Repr

/-- What a request asks of the generator. -/
def Invocation.recipe (invocation : Invocation) : Recipe where
  nodeCount := invocation.nodeCount
  seed := invocation.seed

/-- The options that have been given so far. -/
structure Given where
  nodeCount : Option UInt64 := none
  seed : Option UInt64 := none
  layout : Option Layout := none
  output : Option ByteString := none
  deriving DecidableEq, Repr

namespace Given

/-- Whether an option has been given. -/
def has (given : Given) : OptionName → Bool
  | .nodes => given.nodeCount.isSome
  | .seed => given.seed.isSome
  | .layout => given.layout.isSome
  | .output => given.output.isSome

/-- The request that the given options make, the rest left at what is usual. -/
def complete (given : Given) : Invocation where
  nodeCount := given.nodeCount.getD Recipe.standardNodeCount
  seed := given.seed
  layout := given.layout.getD .standard
  output := given.output

end Given
end CommandLine
end GraphFixture
