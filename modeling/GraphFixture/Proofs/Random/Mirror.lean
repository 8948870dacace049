import GraphFixture.Proofs.Random.Span

/-!
# Sources that give the same words

A map of states mirrors a source in another one when every draw gives the same
word and stays mirrored.  Whatever is drawn from the one is then drawn from the
other.  A handle mirrors the source behind it, and a metered source is mirrored
in the source that it counts.
-/

namespace GraphFixture

namespace WordSource

variable {Source Image : Type} [WordSource Source] [WordSource Image]

/-- Drawing commutes with a map of states and keeps the word. -/
def Mirrors (view : Source → Image) : Prop :=
  ∀ source, draw (view source) = ((draw source).1, view (draw source).2)

theorem Mirrors.first {view : Source → Image} (mirrors : Mirrors view)
    (count : Nat) (source : Source) :
    first count (view source) = first count source := by
  induction count generalizing source with
  | zero => rfl
  | succ count inductionHypothesis =>
      rw [first_succ, mirrors, inductionHypothesis, first_succ]

end WordSource

namespace Bounded

variable {Source Image : Type} [WordSource Source] [WordSource Image]

theorem draw_mirror {view : Source → Image} (mirrors : WordSource.Mirrors view)
    (bound : UInt64) (patience : Nat) (source : Source) :
    draw bound patience (view source) =
      (draw bound patience source).map fun next => (next.1, view next.2) := by
  induction patience generalizing source with
  | zero => rfl
  | succ patience inductionHypothesis =>
      cases decision : accepts bound (WordSource.draw source).1 with
      | true =>
          rw [draw_of_accepts patience decision, draw_of_accepts patience]
          · rw [mirrors]
            rfl
          · rw [mirrors]
            exact decision
      | false =>
          rw [draw_of_rejects patience decision, draw_of_rejects patience]
          · rw [mirrors]
            exact inductionHypothesis _
          · rw [mirrors]
            exact decision

theorem drawMany_mirror {view : Source → Image}
    (mirrors : WordSource.Mirrors view) (bound : UInt64) (patience count : Nat)
    (source : Source) :
    drawMany bound patience count (view source) =
      (drawMany bound patience count source).map fun drawn =>
        (drawn.1, view drawn.2) := by
  induction count generalizing source with
  | zero => rfl
  | succ count inductionHypothesis =>
      rw [drawMany_succ, drawMany_succ, draw_mirror mirrors, Option.bind_map,
        Option.map_bind]
      congr 1
      funext next
      rw [Function.comp_apply, inductionHypothesis]
      simp [Function.comp_def]

end Bounded

theorem Handle.mirrors_of {Source : Type} [WordSource Source] :
    WordSource.Mirrors (Handle.of : Source → Handle Source) := by
  intro source
  rfl

namespace Metered

variable {Source : Type} [WordSource Source]

theorem mirrors_source : WordSource.Mirrors (Metered.source : Metered Source → Source) := by
  intro metered
  rfl

/-- A meter counts every draw once. -/
theorem drawn_advance (count : Nat) (metered : Metered Source) :
    (WordSource.advance count metered).drawn = metered.drawn + count := by
  induction count generalizing metered with
  | zero => rfl
  | succ count inductionHypothesis =>
      rw [WordSource.advance_succ, inductionHypothesis]
      change metered.drawn + 1 + count = metered.drawn + (count + 1)
      omega

theorem drawn_advance_start (count : Nat) (source : Source) :
    (WordSource.advance count (start source)).drawn = count := by
  rw [drawn_advance]
  exact Nat.zero_add count

theorem first_start (count : Nat) (source : Source) :
    WordSource.first count (start source) = WordSource.first count source :=
  (mirrors_source.first count (start source)).symm

end Metered
end GraphFixture
