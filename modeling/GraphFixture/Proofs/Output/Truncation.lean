import GraphFixture.Output.LimitedWriter
import GraphFixture.Proofs.Output.Limit

/-!
# A writer that runs full keeps a prefix

What a writer with a limit has kept depends only on the bytes that it was
offered, not on the pieces in which they came: it is as much of their beginning
as the limit admits.  A block is cut off inside the piece that no longer fits,
and nothing that comes later is added behind the cut.  A block always has some
text, so every block after a cut fails as well.
-/

namespace GraphFixture

theorem Utf8.encode_eq_nil_iff {text : List Char} : encode text = [] ↔ text = [] := by
  cases text with
  | nil => simp
  | cons character text =>
      have nonempty : String.utf8EncodeChar character ≠ [] := by
        rw [← List.length_pos_iff, String.length_utf8EncodeChar]
        exact character.utf8Size_pos
      simp [nonempty]

/-- No block has an empty text: it ends with a line feed. -/
theorem Block.text_ne_nil (layout : Layout) (block : Block) : block.text layout ≠ [] := by
  cases block <;> cases layout <;> simp [text, pieces, Declaration.pieces, Trailer.pieces]

namespace LimitedWriter

open Limit

/-- The writer that some bytes leave behind, in whatever pieces they were offered
to an empty one. -/
def offered (limit : Option Nat) (bytes : ByteString) : LimitedWriter where
  kept := clip limit bytes
  limit := limit

variable {limit : Option Nat}

theorem offered_append_of_not_admits {first second : ByteString}
    (exceeded : ¬ Admits limit first) :
    offered limit (first ++ second) = offered limit first := by
  rw [offered, clip_append_of_not_admits exceeded]
  rfl

/-! ## One write -/

/-- A write succeeds when all that was offered so far fits, and also when it
offers nothing. -/
theorem write_offered (given bytes : ByteString) :
    (offered limit given).write bytes =
      (decide (bytes = [] ∨ Admits limit (given ++ bytes)), offered limit (given ++ bytes)) := by
  cases limit with
  | none => simp [write, offered, clip]
  | some most =>
      have room : most - min most given.length = most - given.length := by omega
      have succeeds : min most given.length + bytes.length ≤ most ↔
          bytes = [] ∨ Admits (some most) (given ++ bytes) := by
        rw [admits_some, List.length_append, ← List.length_eq_zero_iff]
        omega
      simp only [write, offered, clip, List.length_take, room, succeeds, List.take_append]

theorem writePieces_offered (pieces : List (List Char)) (given : ByteString) :
    writePieces pieces (offered limit given) =
      (decide (Utf8.encode pieces.flatten = [] ∨
        Admits limit (given ++ Utf8.encode pieces.flatten)),
        offered limit (given ++ Utf8.encode pieces.flatten)) := by
  induction pieces generalizing given with
  | nil => simp [writePieces]
  | cons piece pieces inductionHypothesis =>
      rw [writePieces, write_offered, List.flatten_cons, Utf8.encode_append,
        ← List.append_assoc]
      by_cases fits : Utf8.encode piece = [] ∨ Admits limit (given ++ Utf8.encode piece)
      · rw [decide_eq_true fits]
        dsimp only
        rw [inductionHypothesis]
        by_cases empty : Utf8.encode pieces.flatten = []
        · simp [empty, fits]
        · simp [empty]
      · -- The cut lies inside this piece, so the pieces behind it change nothing.
        rw [decide_eq_false fits]
        obtain ⟨nonempty, exceeded⟩ := not_or.mp fits
        have stillExceeded : ¬ Admits limit
            (given ++ Utf8.encode piece ++ Utf8.encode pieces.flatten) :=
          fun admitted => exceeded admitted.of_append
        rw [offered_append_of_not_admits exceeded]
        simp only [List.append_eq_nil_iff, nonempty, stillExceeded, false_and, or_self,
          decide_false]

/-! ## Blocks in a row -/

/-- What there is to say of some bytes that were offered: whether all of them were
kept, and the writer behind them. -/
def outcomeOf (limit : Option Nat) (bytes : ByteString) : Bool × LimitedWriter :=
  (decide (Admits limit bytes), offered limit bytes)

theorem writeBlock_offered (layout : Layout) (block : Block) (given : ByteString) :
    writeBlock layout block (offered limit given) =
      outcomeOf limit (given ++ Utf8.encode (block.text layout)) := by
  have nonempty : Utf8.encode (block.text layout) ≠ [] := by
    rw [Ne, Utf8.encode_eq_nil_iff]
    exact block.text_ne_nil layout
  rw [writeBlock, writePieces_offered]
  unfold Block.text at nonempty ⊢
  simp [nonempty, outcomeOf]

/-- The bytes of blocks written right behind each other. -/
def bytesOf (layout : Layout) (blocks : List Block) : ByteString :=
  Utf8.encode (blocks.flatMap (Block.text layout))

/-- Each block leaves behind what its bytes and those of all blocks before it do. -/
theorem writeBlocks_offered (layout : Layout) (blocks : List Block) (given : ByteString) :
    writeBlocks layout blocks (offered limit given) =
      (List.range blocks.length).map fun position =>
        outcomeOf limit (given ++ bytesOf layout (blocks.take (position + 1))) := by
  induction blocks generalizing given with
  | nil => rfl
  | cons block blocks inductionHypothesis =>
      rw [writeBlocks, writeBlock_offered, outcomeOf]
      dsimp only
      rw [inductionHypothesis, List.length_cons, List.range_succ_eq_map, List.map_cons,
        List.map_map]
      congr 1
      · simp [bytesOf, outcomeOf]
      · simp [Function.comp_def, bytesOf]

/-- After bytes that were cut off nothing more happens. -/
theorem outcomeOf_append_of_not_admits {first second : ByteString}
    (exceeded : ¬ Admits limit first) :
    outcomeOf limit (first ++ second) = outcomeOf limit first := by
  have stillExceeded : ¬ Admits limit (first ++ second) :=
    fun admitted => exceeded admitted.of_append
  rw [outcomeOf, outcomeOf, offered_append_of_not_admits exceeded, decide_eq_false exceeded,
    decide_eq_false stillExceeded]

theorem bytesOf_append (layout : Layout) (first second : List Block) :
    bytesOf layout (first ++ second) = bytesOf layout first ++ bytesOf layout second := by
  simp [bytesOf]

/-- The text of a block list is that of its blocks with line feeds in between. -/
theorem encode_render (layout : Layout) (blocks : List Block) :
    Utf8.encode (Block.render layout blocks) =
      List.intercalate (Utf8.encode ['\n']) (blocks.map fun block => bytesOf layout [block]) := by
  induction blocks with
  | nil => rfl
  | cons first later inductionHypothesis =>
      cases later with
      | nil => simp [bytesOf]
      | cons second others =>
          rw [Block.render_cons_cons, ← List.singleton_append, Utf8.encode_append,
            Utf8.encode_append, inductionHypothesis]
          simp only [List.map_cons, List.intercalate_cons_cons]
          simp [bytesOf]

/-- What is known of writing blocks one after another up to a limit. -/
structure Truncates (layout : Layout) (blocks : List Block) (limit : Option Nat)
    (outcomes : List (Bool × LimitedWriter)) : Prop where
  length_outcomes : outcomes.length = blocks.length
  /-- The first bytes are kept, as many as the limit admits. -/
  kept_eq : ∀ position outcome, outcomes[position]? = some outcome →
    outcome.2.kept = clip limit (bytesOf layout (blocks.take (position + 1)))
  succeeded_iff : ∀ position outcome, outcomes[position]? = some outcome →
    (outcome.1 = true ↔ Admits limit (bytesOf layout (blocks.take (position + 1))))
  /-- After a failure every block fails and adds nothing. -/
  failed : ∀ (earlier later : Nat) (outcome next : Bool × LimitedWriter), earlier ≤ later →
    outcomes[earlier]? = some outcome → outcome.1 = false →
      outcomes[later]? = some next → next = outcome

/-- Writing blocks into an empty writer keeps the first bytes of all their texts, as
many as the limit admits, and a block succeeds exactly when all bytes up to its end
are kept.  What the blocks write by themselves, with line feeds in between, is the
text of the block list. -/
theorem writeBlocks_truncates (layout : Layout) (blocks : List Block) (limit : Option Nat) :
    Truncates layout blocks limit (writeBlocks layout blocks { limit := limit }) ∧
      Utf8.encode (Block.render layout blocks) =
        List.intercalate (Utf8.encode ['\n'])
          (blocks.map fun block => (writeBlock layout block {}).2.kept) := by
  have fresh (limit : Option Nat) : ({ limit := limit } : LimitedWriter) = offered limit [] := by
    simp [offered]
  have outcome_eq {position : Nat} {outcome : Bool × LimitedWriter}
      (found : (writeBlocks layout blocks { limit := limit })[position]? = some outcome) :
      outcome = outcomeOf limit (bytesOf layout (blocks.take (position + 1))) := by
    rw [fresh, writeBlocks_offered, List.getElem?_map, Option.map_eq_some_iff] at found
    obtain ⟨_, inRange, rfl⟩ := found
    rw [(List.getElem?_eq_some_iff.mp inRange).2.symm, List.getElem_range]
    rfl
  refine ⟨⟨?_, ?_, ?_, ?_⟩, ?_⟩
  · rw [fresh, writeBlocks_offered, List.length_map, List.length_range]
  · intro position outcome found
    rw [outcome_eq found]
    rfl
  · intro position outcome found
    rw [outcome_eq found]
    exact decide_eq_true_iff
  · intro earlier later outcome next inOrder found isFailure foundLater
    rw [outcome_eq found] at isFailure ⊢
    -- The bytes up to the later block begin with those up to the earlier one.
    obtain ⟨between, longer⟩ : blocks.take (earlier + 1) <+: blocks.take (later + 1) :=
      List.take_prefix_take_left (Nat.succ_le_succ inOrder)
    rw [outcome_eq foundLater, ← longer, bytesOf_append]
    exact outcomeOf_append_of_not_admits (of_decide_eq_false isFailure)
  · rw [encode_render]
    congr 1
    apply List.map_congr_left
    intro block _
    rw [fresh none, writeBlock_offered]
    simp [outcomeOf, offered, clip, bytesOf]

example : (writeBlocks .compact [.trailer, .trailer] { limit := some 10 }).map
    (fun outcome => (outcome.1, outcome.2.kept)) =
      List.replicate 2 (false, Utf8.encode "root phase".toList) := by decide +kernel

end LimitedWriter
end GraphFixture
