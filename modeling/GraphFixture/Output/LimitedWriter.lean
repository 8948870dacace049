import GraphFixture.Block.Layout
import GraphFixture.Text.Utf8

/-!
# A writer that runs full

The writer keeps at most a given number of bytes.  A piece that does not fit
leaves behind the bytes that do and fails.  Writing a block stops at its first
failing piece; writing a list of blocks goes on with the next block.
-/

namespace GraphFixture

/-- A writer with a limit on the bytes that it keeps. -/
structure LimitedWriter where
  kept : ByteString := []
  limit : Option Nat := none
  deriving DecidableEq, Repr

namespace LimitedWriter

/-- Write some bytes.  The result tells whether all of them were kept. -/
def write (writer : LimitedWriter) (bytes : ByteString) : Bool × LimitedWriter :=
  match writer.limit with
  | none => (true, { writer with kept := writer.kept ++ bytes })
  | some limit =>
      (writer.kept.length + bytes.length ≤ limit,
        { writer with kept := writer.kept ++ bytes.take (limit - writer.kept.length) })

/-- Write pieces until one fails. -/
def writePieces : List (List Char) → LimitedWriter → Bool × LimitedWriter
  | [], writer => (true, writer)
  | piece :: pieces, writer =>
      match writer.write (Utf8.encode piece) with
      | (true, next) => writePieces pieces next
      | (false, next) => (false, next)

/-- Write the pieces of one block. -/
def writeBlock (layout : Layout) (block : Block) (writer : LimitedWriter) :
    Bool × LimitedWriter :=
  writePieces (block.pieces layout) writer

/-- Write block after block, failing ones included, and list what each one
left behind. -/
def writeBlocks (layout : Layout) : List Block → LimitedWriter →
    List (Bool × LimitedWriter)
  | [], _ => []
  | block :: blocks, writer =>
      let outcome := writeBlock layout block writer
      outcome :: writeBlocks layout blocks outcome.2

end LimitedWriter
end GraphFixture
