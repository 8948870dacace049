import GraphFixture.CommandLine.Parse
import GraphFixture.Proofs.Text.Numerals
import Mathlib.Data.List.Forall2

/-!
# The grammar of command lines

A command line that generates a fixture is a list of settings, each spelled in
one of a few ways, and perhaps the mark that no options follow.  This module
writes the grammar down without reference to the order in which arguments are
read, and relates the shapes of single arguments to it.
-/

namespace GraphFixture
namespace CommandLine

/-! ## Settings and their spellings -/

/-- One option with its value. -/
inductive Setting where
  | nodes (count : UInt64)
  | seed (word : UInt64)
  | layout (layout : Layout)
  | output (path : ByteString)
  deriving DecidableEq, Repr

/-- The value that selects a layout. -/
def layoutName : Layout → ByteString
  | .compact => ByteString.ofWord "compact"
  | .expanded => ByteString.ofWord "expanded"

theorem layoutName_eq (layout : Layout) : layoutName layout = ByteString.ofWord layout.word := by
  cases layout <;> rfl

namespace Setting

/-- The option that a setting is for. -/
def name : Setting → OptionName
  | .nodes _ => .nodes
  | .seed _ => .seed
  | .layout _ => .layout
  | .output _ => .output

/-- A byte string writes the value of a setting. -/
def Writes : Setting → ByteString → Prop
  | .nodes count, value => Numeral.Denotes value count
  | .seed word, value => Numeral.Denotes value word
  | .layout chosen, value => value = layoutName chosen
  | .output path, value => value = path ∧ path ≠ []

end Setting

/-- A byte string stands for itself and for no option. -/
def IsPlain (argument : ByteString) : Prop :=
  argument = [dash] ∨ argument.head? ≠ some dash

/-- The long name of an option. -/
def longName : OptionName → ByteString
  | .nodes => ByteString.ofWord "--nodes"
  | .seed => ByteString.ofWord "--seed"
  | .layout => ByteString.ofWord "--layout"
  | .output => ByteString.ofWord "--output"

/-- Two dashes and the word that selects an option. -/
theorem longName_eq (name : OptionName) :
    longName name = dash :: dash :: ByteString.ofWord name.word := by
  cases name <;> decide

/-- Some arguments spell a setting. -/
inductive Spells : Setting → List ByteString → Prop
  /-- The long name, and the value in the next argument. -/
  | detached {setting : Setting} {value : ByteString} (writes : setting.Writes value)
      (plain : IsPlain value) : Spells setting [longName setting.name, value]
  /-- The long name, an equals sign and the value. -/
  | attached {setting : Setting} {value : ByteString} (writes : setting.Writes value) :
      Spells setting [longName setting.name ++ equalsSign :: value]
  /-- The letter, and the path in the next argument. -/
  | letterDetached {path : ByteString} (nonempty : path ≠ []) (plain : IsPlain path) :
      Spells (.output path) [[dash, outputLetter], path]
  /-- The letter, an equals sign and the path. -/
  | letterAssigned {path : ByteString} (nonempty : path ≠ []) :
      Spells (.output path) [dash :: outputLetter :: equalsSign :: path]
  /-- The letter and the path. -/
  | letterAttached {path : ByteString} (nonempty : path ≠ [])
      (unassigned : path.head? ≠ some equalsSign) :
      Spells (.output path) [dash :: outputLetter :: path]

/-- What may follow the settings: nothing, or the mark that no options follow. -/
def IsEnding (arguments : List ByteString) : Prop :=
  arguments = [] ∨ arguments = [[dash, dash]]

/-- Arguments that are settings in some spelling, each option at most once. -/
structure SpellsOptions (settings : List Setting) (arguments : List ByteString) : Prop where
  different : (settings.map Setting.name).Nodup
  spelled : ∃ spellings ending, arguments = spellings.flatten ++ ending ∧
    List.Forall₂ Spells settings spellings ∧ IsEnding ending

/-- A command line that generates a fixture with some settings. -/
def Generates (arguments : List ByteString) (settings : List Setting) : Prop :=
  ∃ program options, arguments = program :: ByteString.ofWord "generate" :: options ∧
    SpellsOptions settings options

/-- A request holds exactly the values that were set, and the usual ones for the
options that were not. -/
structure Invocation.Holds (invocation : Invocation) (settings : List Setting) : Prop where
  nodeCount : ∀ count, .nodes count ∈ settings → invocation.nodeCount = count
  standardNodeCount : (∀ count, .nodes count ∉ settings) → invocation.nodeCount = 300
  seed : ∀ word, .seed word ∈ settings → invocation.seed = some word
  noSeed : (∀ word, .seed word ∉ settings) → invocation.seed = none
  layout : ∀ layout, .layout layout ∈ settings → invocation.layout = layout
  standardLayout : (∀ layout, .layout layout ∉ settings) → invocation.layout = .compact
  output : ∀ path, .output path ∈ settings → invocation.output = some path
  noOutput : (∀ path, .output path ∉ settings) → invocation.output = none

/-! ## The shapes of arguments -/

theorem shape_longName (name : OptionName) :
    Shape.of (longName name) = .long (ByteString.ofWord name.word) none := by
  cases name <;> rfl

theorem shape_longName_attached (name : OptionName) (value : ByteString) :
    Shape.of (longName name ++ equalsSign :: value) =
      .long (ByteString.ofWord name.word) (some value) := by
  cases name <;> rfl

theorem shape_eq_plain_iff (argument : ByteString) :
    Shape.of argument = .plain ↔ IsPlain argument := by
  unfold IsPlain Shape.of
  split
  · simp [dash]
  · simp [dash]
  · simp [dash]
  · rename_i notShort
    cases argument with
    | nil => simp
    | cons first rest =>
        by_cases dashed : first = dash
        · subst dashed
          cases rest with
          | nil => simp
          | cons second others => exact absurd rfl (notShort second others)
        · simp [dashed]

theorem eq_of_shape_long {argument word : ByteString} {value : Option ByteString}
    (shape : Shape.of argument = .long word value) :
    argument = dash :: dash :: word ++ value.elim [] (equalsSign :: ·) := by
  unfold Shape.of at shape
  split at shape
  · simp at shape
  · obtain ⟨rfl, rfl⟩ := Shape.long.inj shape
    rw [List.cons_append, List.cons_append, Segments.append_splitFirst]
    rfl
  · simp at shape
  · simp at shape

theorem eq_of_shape_short {argument cluster : ByteString}
    (shape : Shape.of argument = .short cluster) : argument = dash :: cluster := by
  unfold Shape.of at shape
  split at shape
  · simp at shape
  · simp at shape
  · obtain rfl := Shape.short.inj shape
    rfl
  · simp at shape

theorem eq_of_shape_escape {argument : ByteString} (shape : Shape.of argument = .escape) :
    argument = [dash, dash] := by
  unfold Shape.of at shape
  split at shape
  · rfl
  · simp at shape
  · simp at shape
  · simp at shape

theorem ofWord?_word (name : OptionName) :
    OptionName.ofWord? (ByteString.ofWord name.word) = some name := by
  cases name <;> rfl

theorem eq_of_ofWord? {word : ByteString} {name : OptionName}
    (found : OptionName.ofWord? word = some name) : word = ByteString.ofWord name.word := by
  have selected := List.find?_some found
  exact (of_decide_eq_true selected).symm

end CommandLine
end GraphFixture
