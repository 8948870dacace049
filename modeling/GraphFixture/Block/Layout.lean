import GraphFixture.Block

/-!
# The text of blocks in two layouts

Both layouts write the same words and differ only in white space.  The text of
a block is a list of pieces, each handed to a writer in one go, so that a
writer which stops accepting text is caught between two pieces.  The text of a
list of blocks puts one line feed between consecutive blocks.
-/

namespace GraphFixture

/-- How white space is laid out. -/
inductive Layout where
  /-- One line per declaration. -/
  | compact
  /-- One line per child, indented by steps of four spaces. -/
  | expanded
  deriving DecidableEq, Repr

namespace Layout

/-- The layout that is used when none is named. -/
def standard : Layout :=
  .compact

instance : Inhabited Layout :=
  ⟨standard⟩

/-- The word by which a layout is chosen. -/
def word : Layout → String
  | .compact => "compact"
  | .expanded => "expanded"

end Layout

/-- One step of indentation. -/
def indentation : List Char :=
  "    ".toList

/-- The pieces of one child: its target's name, its label and its action. -/
def Child.pieces (child : Child) : List (List Char) :=
  [(NodeName.indexed child.target).text, " ".toList, [child.label.letter],
    " \x7b ".toList, child.action.word.toList, " \x7d".toList]

/-- The pieces of a declaration behind what qualifies it. -/
def Declaration.pieces (qualifier : List Char) (declaration : Declaration) :
    Layout → List (List Char)
  | .compact =>
      [qualifier, "node ".toList, declaration.name.text,
        " \x7b children \x7b ".toList] ++
      List.intercalate [", ".toList] (declaration.children.map Child.pieces) ++
      [" \x7d \x7d;\n".toList]
  | .expanded =>
      [qualifier, "node ".toList, declaration.name.text, " \x7b\n".toList,
        indentation, "children \x7b\n".toList] ++
      List.intercalate [",\n".toList] (declaration.children.map fun child =>
        indentation :: indentation :: child.pieces) ++
      ["\n".toList, indentation, "\x7d\n".toList, "\x7d;\n".toList]

namespace Trailer

/-- The phase that the trailer runs at the root. -/
def phase : List Char :=
  "A".toList

/-- The pass that the phase consists of. -/
def pass : List Char :=
  "B".toList

/-- The pieces of the trailer: the root phase, a blank line and the pass. -/
def pieces : Layout → List (List Char)
  | .compact =>
      ["root phase ".toList, phase, " \x7b passes \x7b ".toList, pass,
        " \x7d \x7d;\n".toList, "\npass ".toList, pass, ";\n".toList]
  | .expanded =>
      ["root phase ".toList, phase, " \x7b\n".toList,
        indentation, "passes \x7b\n".toList,
        indentation, indentation, pass, "\n".toList,
        indentation, "\x7d\n".toList, "\x7d;\n".toList,
        "\npass ".toList, pass, ";\n".toList]

end Trailer

namespace Block

/-- What a block of each kind writes before its first word. -/
def rootQualifier : List Char :=
  "root ".toList

/-- The pieces of a block, each handed to a writer in one go. -/
def pieces (layout : Layout) : Block → List (List Char)
  | .node declaration => declaration.pieces [] layout
  | .root declaration => declaration.pieces rootQualifier layout
  | .trailer => Trailer.pieces layout

/-- The text of one block. -/
def text (layout : Layout) (block : Block) : List Char :=
  (block.pieces layout).flatten

/-- The text of consecutive blocks, a line feed between each two of them. -/
def render (layout : Layout) (blocks : List Block) : List Char :=
  List.intercalate ['\n'] (blocks.map (text layout))

@[simp] theorem render_singleton (layout : Layout) (block : Block) :
    render layout [block] = block.text layout := by
  simp [render, List.intercalate]

@[simp] theorem render_cons_cons (layout : Layout) (first second : Block)
    (rest : List Block) :
    render layout (first :: second :: rest) =
      first.text layout ++ '\n' :: render layout (second :: rest) := by
  simp [render, List.intercalate]

end Block
end GraphFixture
