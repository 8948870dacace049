import GraphFixture.Proofs.Block.Reader
import Mathlib.Data.List.Chain

/-!
# Blank lines between blocks

Blank lines part the text of a block list into chunks: one for each declaration
and two for each trailer.  No chunk has a blank line inside or ends with a line
feed, so splitting at blank lines finds just these chunks again.  The start of a
chunk tells whether it is a declaration, and in the compact layout the chunk of a
declaration is a line that the reader reads back.
-/

namespace GraphFixture

/-! ## Texts without blank lines -/

/-- Two line feeds. -/
def blankLine : List Char :=
  "\n\n".toList

/-- No line feed of a text follows another one. -/
def Spaced (text : List Char) : Prop :=
  text.IsChain fun first second => ¬ (first = '\n' ∧ second = '\n')

instance (text : List Char) : Decidable (Spaced text) :=
  inferInstanceAs (Decidable (text.IsChain _))

theorem Spaced.blankLine_absent {text : List Char} (spaced : Spaced text) :
    ¬ blankLine <:+: text := by
  rintro ⟨before, after, rfl⟩
  have inside := (List.isChain_append.mp (List.isChain_append.mp spaced).1).2.1
  revert inside
  unfold blankLine
  decide

theorem spaced_of_not_mem {text : List Char} (absent : '\n' ∉ text) : Spaced text := by
  induction text with
  | nil => exact .nil
  | cons first rest inductionHypothesis =>
      rw [List.mem_cons, not_or] at absent
      cases rest with
      | nil => exact .singleton first
      | cons second others =>
          exact .cons_cons (fun both => absent.1 both.1.symm) (inductionHypothesis absent.2)

theorem Blank.IsWord.lineFeed_not_mem {word : List Char} (isWord : IsWord word) : '\n' ∉ word := by
  intro member
  exact absurd (isWord.2 '\n' member) (by decide)

/-- What a woven text starts with is no line feed, since it is in a word. -/
theorem Blank.ne_lineFeed_of_head?_weave {texts gaps : List (List Char)}
    (allWords : ∀ text ∈ texts, IsWord text) {first : Char}
    (starts : (weave texts gaps).head? = some first) : first ≠ '\n' := by
  cases texts with
  | nil => exact nomatch starts
  | cons text texts =>
      cases gaps with
      | nil => exact nomatch starts
      | cons gap gaps =>
          have isWord := allWords text List.mem_cons_self
          obtain ⟨character, rest, rfl⟩ := List.exists_cons_of_ne_nil isWord.1
          obtain rfl : character = first := by simpa using starts
          rintro rfl
          exact isWord.lineFeed_not_mem List.mem_cons_self

/-- Words keep the gaps between them apart. -/
theorem spaced_weave {texts gaps : List (List Char)} (allWords : ∀ text ∈ texts, Blank.IsWord text)
    (allSpaced : ∀ gap ∈ gaps, Spaced gap) : Spaced (Blank.weave texts gaps) := by
  induction texts generalizing gaps with
  | nil => exact .nil
  | cons text texts inductionHypothesis =>
      cases gaps with
      | nil => exact .nil
      | cons gap gaps =>
          rw [List.forall_mem_cons] at allWords allSpaced
          have lineFeed_not_mem := allWords.1.lineFeed_not_mem
          rw [Blank.weave_cons_cons, Spaced, List.isChain_append, List.isChain_append]
          refine ⟨⟨spaced_of_not_mem lineFeed_not_mem, allSpaced.1, ?_⟩,
            inductionHypothesis allWords.2 allSpaced.2, ?_⟩
          · rintro last isLast _ _ ⟨rfl, _⟩
            exact lineFeed_not_mem (List.mem_of_mem_getLast? isLast)
          · rintro _ _ first isFirst ⟨_, isLineFeed⟩
            exact Blank.ne_lineFeed_of_head?_weave allWords.2 isFirst isLineFeed

/-! ## Chunks -/

/-- The expanded text of a declaration without its last line feed. -/
def Declaration.paragraph (qualifier : List Char) (declaration : Declaration) : List Char :=
  qualifier ++ "node ".toList ++ (declaration.name.text ++ " \x7b\n    children \x7b\n".toList ++
    (",\n".toList.intercalate (declaration.children.map fun child =>
        "        ".toList ++ child.text) ++
      "\n    \x7d\n\x7d;".toList))

theorem Declaration.flatten_pieces_expanded (qualifier : List Char) (declaration : Declaration) :
    (declaration.pieces qualifier .expanded).flatten =
      declaration.paragraph qualifier ++ ['\n'] := by
  simp [pieces, paragraph, children, Child.text, indentation, List.intercalate]

/-- The one chunk of a declaration. -/
def Declaration.chunk (qualifier : List Char) (declaration : Declaration) : Layout → List Char
  | .compact => declaration.line qualifier
  | .expanded => declaration.paragraph qualifier

theorem Declaration.flatten_pieces_eq_chunk (qualifier : List Char) (declaration : Declaration)
    (layout : Layout) :
    (declaration.pieces qualifier layout).flatten =
      declaration.chunk qualifier layout ++ ['\n'] := by
  cases layout with
  | compact => exact declaration.flatten_pieces_compact qualifier
  | expanded => exact declaration.flatten_pieces_expanded qualifier

theorem Declaration.spaced_of_mem_gaps (layout : Layout) :
    ∀ gap ∈ Declaration.gaps layout, Spaced gap := by
  cases layout <;> decide

theorem Declaration.getLast?_chunk (qualifier : List Char) (declaration : Declaration)
    (layout : Layout) : (declaration.chunk qualifier layout).getLast? = some ';' := by
  cases layout <;> simp only [chunk, line, paragraph, List.getLast?_append] <;> rfl

/-- The chunk of the trailer that holds the phase. -/
def Trailer.phaseChunk : Layout → List Char
  | .compact => "root phase A \x7b passes \x7b B \x7d \x7d;".toList
  | .expanded => "root phase A \x7b\n    passes \x7b\n        B\n    \x7d\n\x7d;".toList

/-- The second chunk of the trailer. -/
def Trailer.passChunk : List Char :=
  "pass B;".toList

namespace Block

/-- The chunks of a block, which blank lines part. -/
def chunks (layout : Layout) : Block → List (List Char)
  | .node declaration => [declaration.chunk [] layout]
  | .root declaration => [declaration.chunk rootQualifier layout]
  | .trailer => [Trailer.phaseChunk layout, Trailer.passChunk]

/-- The text of a block is that of its chunks with blank lines between them. -/
theorem text_eq_intercalate_chunks (layout : Layout) (block : Block) :
    block.text layout = blankLine.intercalate (block.chunks layout) ++ ['\n'] := by
  cases block with
  | node declaration =>
      rw [chunks, List.intercalate_singleton]
      exact declaration.flatten_pieces_eq_chunk [] layout
  | root declaration =>
      rw [chunks, List.intercalate_singleton]
      exact declaration.flatten_pieces_eq_chunk rootQualifier layout
  | trailer => cases layout <;> rfl

theorem chunks_ne_nil (layout : Layout) (block : Block) : block.chunks layout ≠ [] := by
  cases block <;> simp [chunks]

/-- So is the text of a block list. -/
theorem render_eq_intercalate_chunks (layout : Layout) {blocks : List Block}
    (nonempty : blocks ≠ []) :
    render layout blocks = blankLine.intercalate (blocks.flatMap (chunks layout)) ++ ['\n'] := by
  induction blocks with
  | nil => exact absurd rfl nonempty
  | cons first later inductionHypothesis =>
      cases later with
      | nil => rw [render_singleton, text_eq_intercalate_chunks, List.flatMap_singleton]
      | cons second others =>
          have hasLater : (second :: others).flatMap (chunks layout) ≠ [] := by
            simp [second.chunks_ne_nil]
          have parted : (first :: second :: others).flatMap (chunks layout) =
              first.chunks layout ++ (second :: others).flatMap (chunks layout) :=
            List.flatMap_cons
          rw [render_cons_cons, inductionHypothesis (List.cons_ne_nil _ _), parted,
            Marks.intercalate_append _ (first.chunks_ne_nil layout) hasLater,
            text_eq_intercalate_chunks]
          simp [blankLine]

/-! ## Every chunk -/

theorem getLast?_of_mem_chunks {layout : Layout} {block : Block} {chunk : List Char}
    (member : chunk ∈ block.chunks layout) : chunk.getLast? = some ';' := by
  cases block with
  | node declaration =>
      rw [List.mem_singleton.mp member]
      exact declaration.getLast?_chunk [] layout
  | root declaration =>
      rw [List.mem_singleton.mp member]
      exact declaration.getLast?_chunk rootQualifier layout
  | trailer =>
      revert chunk
      cases layout <;> decide

/-- No chunk with a line feed behind it holds a blank line. -/
theorem spaced_of_mem_chunks {layout : Layout} {block : Block} {chunk : List Char}
    (member : chunk ∈ block.chunks layout) : Spaced (chunk ++ ['\n']) := by
  have ofText (gapsSpaced : ∀ gap ∈ block.gaps layout, Spaced gap) :
      Spaced (block.text layout) := by
    rw [text_eq_weave]
    exact spaced_weave (fun _ => isWord_of_mem_words) gapsSpaced
  have whole := block.text_eq_intercalate_chunks layout
  cases block with
  | node declaration =>
      rw [chunks, List.intercalate_singleton] at whole
      rw [List.mem_singleton.mp member, ← whole]
      exact ofText (Declaration.spaced_of_mem_gaps layout)
  | root declaration =>
      rw [chunks, List.intercalate_singleton] at whole
      rw [List.mem_singleton.mp member, ← whole]
      apply ofText
      rw [gaps, List.forall_mem_cons]
      exact ⟨by decide, Declaration.spaced_of_mem_gaps layout⟩
  | trailer =>
      revert chunk
      cases layout <;> decide

end Block

/-! ## Reading the chunks -/

/-- A chunk starts like a declaration. -/
def isDeclaration (chunk : List Char) : Bool :=
  "node ".toList.isPrefixOf chunk || "root node ".toList.isPrefixOf chunk

theorem Declaration.isDeclaration_chunk (isRoot : Bool) (declaration : Declaration)
    (layout : Layout) : isDeclaration (declaration.chunk (qualifier isRoot) layout) = true := by
  cases isRoot <;> cases layout <;>
    simp [isDeclaration, chunk, line, paragraph, qualifier, Block.rootQualifier]

theorem Declaration.lineFeed_not_mem_line (isRoot : Bool) (declaration : Declaration) :
    '\n' ∉ declaration.line (qualifier isRoot) := by
  have notInName := declaration.name.isWord_text.lineFeed_not_mem
  have notInChild (child : Child) : '\n' ∉ child.text :=
    child.not_mem_text (by decide) (by decide)
  cases isRoot <;>
    simp [line, qualifier, Block.rootQualifier, children, List.intercalate, notInName, notInChild]

namespace Block

/-- What the reader is to find in a block. -/
def reading? : Block → Option ReadDeclaration
  | .node declaration => some (declaration.reading false)
  | .root declaration => some (declaration.reading true)
  | .trailer => none

/-- Some chunks are those of a block in a layout. -/
structure Chunked (layout : Layout) (block : Block) (chunks : List (List Char)) : Prop where
  /-- With blank lines between them and a line feed they are the text of the block. -/
  joined : blankLine.intercalate chunks ++ ['\n'] = block.text layout
  length : chunks.length = if block = .trailer then 2 else 1
  isDeclaration_iff : ∀ chunk ∈ chunks, isDeclaration chunk = true ↔ block ≠ .trailer
  singleLine : layout = .compact → ∀ chunk ∈ chunks, '\n' ∉ chunk
  read : layout = .compact → block ≠ .trailer →
    chunks.map ReadDeclaration.ofLine? = [block.reading?]

theorem chunked_chunks (layout : Layout) (block : Block) :
    block.Chunked layout (block.chunks layout) where
  joined := (block.text_eq_intercalate_chunks layout).symm
  length := by
    cases block <;> rfl
  isDeclaration_iff chunk member := by
    cases block with
    | node declaration =>
        rw [List.mem_singleton.mp member]
        have starts : isDeclaration (declaration.chunk [] layout) = true :=
          declaration.isDeclaration_chunk false layout
        simp [starts]
    | root declaration =>
        rw [List.mem_singleton.mp member]
        have starts : isDeclaration (declaration.chunk rootQualifier layout) = true :=
          declaration.isDeclaration_chunk true layout
        simp [starts]
    | trailer =>
        revert chunk
        cases layout <;> decide
  singleLine isCompact chunk member := by
    subst isCompact
    cases block with
    | node declaration =>
        rw [List.mem_singleton.mp member]
        exact declaration.lineFeed_not_mem_line false
    | root declaration =>
        rw [List.mem_singleton.mp member]
        exact declaration.lineFeed_not_mem_line true
    | trailer =>
        revert chunk
        decide
  read isCompact declares := by
    subst isCompact
    cases block with
    | node declaration =>
        exact congrArg (fun reading => [reading]) (ReadDeclaration.ofLine?_line declaration false)
    | root declaration =>
        exact congrArg (fun reading => [reading]) (ReadDeclaration.ofLine?_line declaration true)
    | trailer => exact absurd rfl declares

/-! ## Splitting at blank lines -/

/-- Only the line feed at the end of a text is trimmed when no blank is before it. -/
theorem trimEnd_append_lineFeed {text : List Char} {last : Char} (ends : text.getLast? = some last)
    (solid : Blank.isBlank last = false) : Blank.trimEnd (text ++ ['\n']) = text := by
  obtain ⟨front, rfl⟩ := List.getLast?_eq_some_iff.mp ends
  have lineFeed : Blank.isBlank '\n' = true := by decide
  simp [Blank.trimEnd, lineFeed, solid]

theorem filter_not_isDeclaration_chunks (layout : Layout) (block : Block) :
    (block.chunks layout).filter (fun chunk => !isDeclaration chunk) =
      if block = .trailer then block.chunks layout else [] := by
  have told := (block.chunked_chunks layout).isDeclaration_iff
  split
  · rename_i isTrailer
    rw [List.filter_eq_self]
    intro chunk member
    simpa [isTrailer] using told chunk member
  · rename_i declares
    rw [List.filter_eq_nil_iff]
    intro chunk member
    simpa [declares] using told chunk member

/-- Splitting the text of a block list at blank lines gives the chunks of its
blocks in order, and leaving out those that start like declarations leaves those
of the trailers. -/
theorem split_trimEnd_render (layout : Layout) {blocks : List Block} (nonempty : blocks ≠ []) :
    Marks.split blankLine (Blank.trimEnd (render layout blocks)) =
        blocks.flatMap (chunks layout) ∧
      (blocks.flatMap (chunks layout)).filter (fun chunk => !isDeclaration chunk) =
        (blocks.filter (· = .trailer)).flatMap (chunks layout) ∧
      ∀ block ∈ blocks, block.Chunked layout (block.chunks layout) := by
  have hasChunk : blocks.flatMap (chunks layout) ≠ [] := by
    obtain ⟨first, later, rfl⟩ := List.exists_cons_of_ne_nil nonempty
    simp [first.chunks_ne_nil]
  have inBlock {chunk : List Char} (member : chunk ∈ blocks.flatMap (chunks layout)) :
      ∃ block : Block, chunk ∈ block.chunks layout := by
    obtain ⟨block, _, inChunks⟩ := List.mem_flatMap.mp member
    exact ⟨block, inChunks⟩
  refine ⟨?_, ?_, fun block _ => block.chunked_chunks layout⟩
  · have ends : (blankLine.intercalate (blocks.flatMap (chunks layout))).getLast? = some ';' := by
      apply Marks.getLast?_intercalate _ hasChunk
      intro chunk member
      obtain ⟨block, inChunks⟩ := inBlock member
      exact getLast?_of_mem_chunks inChunks
    rw [render_eq_intercalate_chunks layout nonempty, trimEnd_append_lineFeed ends (by decide)]
    apply Marks.split_intercalate (by decide) hasChunk
    intro chunk member
    obtain ⟨block, inChunks⟩ := inBlock member
    exact (spaced_of_mem_chunks inChunks).blankLine_absent
  · rw [List.filter_flatMap]
    clear nonempty hasChunk inBlock
    induction blocks with
    | nil => rfl
    | cons block blocks inductionHypothesis =>
        rw [List.flatMap_cons, filter_not_isDeclaration_chunks, inductionHypothesis]
        by_cases isTrailer : block = .trailer
        · simp [isTrailer]
        · simp [isTrailer]

/-- A node, the root and a trailer give four chunks, of which two are left when
the declarations are left out. -/
theorem split_trimEnd_render_three :
    let declaration := Declaration.ofTargets (.indexed 7) 0 1 2 18446744073709551615
    let text := render .expanded [.node declaration, .root declaration, .trailer]
    (Marks.split blankLine (Blank.trimEnd text)).length = 4 ∧
      (Marks.split blankLine (Blank.trimEnd text)).filter (fun chunk => !isDeclaration chunk) =
        [Trailer.phaseChunk .expanded, Trailer.passChunk] := by
  intro declaration text
  obtain ⟨splits, left, _⟩ := split_trimEnd_render .expanded
    (List.cons_ne_nil (.node declaration) [.root declaration, .trailer])
  rw [splits, left]
  exact ⟨rfl, rfl⟩

end Block
end GraphFixture
