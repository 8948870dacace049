import GraphFixture.Text.Decimal

/-!
# Blocks of a node-graph fixture

A fixture is a list of blocks.  A node block and a root block each carry one
declaration: a name and four labelled children.  A trailer block carries
nothing, since its text is fixed.  The kind of a block and the name inside it
are independent of each other.
-/

namespace GraphFixture

/-- The four labels that a child can carry. -/
inductive Label where
  | a
  | b
  | c
  | d
  deriving DecidableEq, Repr, Inhabited

namespace Label

/-- All labels, in the order of the slots of a declaration. -/
def all : List Label :=
  [.a, .b, .c, .d]

/-- The letter that stands for a label in a text. -/
def letter : Label → Char
  | .a => 'a'
  | .b => 'b'
  | .c => 'c'
  | .d => 'd'

theorem letter_injective {left right : Label}
    (equal : left.letter = right.letter) : left = right := by
  revert equal
  cases left <;> cases right <;> decide

end Label

/-- What is done with a child.  There is one action. -/
inductive Action where
  | construct
  deriving DecidableEq, Repr, Inhabited

/-- The word that stands for an action in a text. -/
def Action.word : Action → String
  | .construct => "construct"

/-- The name of a declaration: an indexed node or the root. -/
inductive NodeName where
  | indexed (index : UInt64)
  | root
  deriving DecidableEq, Repr, Inhabited

namespace NodeName

/-- The word that every name starts with. -/
def stem : List Char :=
  "Node".toList

/-- A name is written as its stem and then its index or the word for the root. -/
def text : NodeName → List Char
  | .indexed index => stem ++ Decimal.digits index.toNat
  | .root => stem ++ "root".toList

/-- The index in a name.  The root has none. -/
def index? : NodeName → Option UInt64
  | .indexed index => some index
  | .root => none

end NodeName

/-- One child of a declaration: the label of its slot, the index of the node
that it points to, and what is done there. -/
structure Child where
  label : Label
  target : UInt64
  action : Action := .construct
  deriving DecidableEq, Repr, Inhabited

/-- A name together with its four children, in slot order. -/
structure Declaration where
  name : NodeName
  first : Child
  second : Child
  third : Child
  fourth : Child
  deriving DecidableEq, Repr, Inhabited

namespace Declaration

/-- The number of children that every declaration has. -/
def arity : Nat :=
  4

/-- The children of a declaration, in the order of its slots. -/
def children (declaration : Declaration) : List Child :=
  [declaration.first, declaration.second, declaration.third, declaration.fourth]

/-- The targets of the children in slot order. -/
def targets (declaration : Declaration) : List UInt64 :=
  declaration.children.map Child.target

/-- The declaration whose slots carry the labels in order and point to the
given targets. -/
def ofTargets (name : NodeName) (first second third fourth : UInt64) :
    Declaration where
  name := name
  first := { label := .a, target := first }
  second := { label := .b, target := second }
  third := { label := .c, target := third }
  fourth := { label := .d, target := fourth }

@[simp] theorem name_ofTargets (name : NodeName)
    (first second third fourth : UInt64) :
    (ofTargets name first second third fourth).name = name :=
  rfl

/-- The slots of a declaration made from targets carry all labels in order. -/
@[simp] theorem labels_ofTargets (name : NodeName)
    (first second third fourth : UInt64) :
    (ofTargets name first second third fourth).children.map Child.label =
      Label.all :=
  rfl

end Declaration

/-- A part of a fixture that is written as a whole. -/
inductive Block where
  | node (declaration : Declaration)
  | root (declaration : Declaration)
  | trailer
  deriving DecidableEq, Repr, Inhabited

namespace Block

/-- The declaration in a block.  The trailer has none. -/
def declaration? : Block → Option Declaration
  | .node declaration => some declaration
  | .root declaration => some declaration
  | .trailer => none

@[simp] theorem declaration?_node (declaration : Declaration) :
    (node declaration).declaration? = some declaration :=
  rfl

@[simp] theorem declaration?_root (declaration : Declaration) :
    (root declaration).declaration? = some declaration :=
  rfl

@[simp] theorem declaration?_trailer : trailer.declaration? = none :=
  rfl

/-- The targets that a block points to, in slot order. -/
def targets : Block → List UInt64
  | .node declaration => declaration.targets
  | .root declaration => declaration.targets
  | .trailer => []

@[simp] theorem targets_node (declaration : Declaration) :
    (node declaration).targets = declaration.targets :=
  rfl

@[simp] theorem targets_root (declaration : Declaration) :
    (root declaration).targets = declaration.targets :=
  rfl

@[simp] theorem targets_trailer : trailer.targets = [] :=
  rfl

end Block
end GraphFixture
