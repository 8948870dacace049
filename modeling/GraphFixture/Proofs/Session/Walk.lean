import GraphFixture.Proofs.Generator.Drawing
import GraphFixture.Session

/-!
# Sessions are walks over the word stream

A session only ever walks forward over the words of its source.  A step that
samples goes up to the last of the accepted words that it needs, makes its
targets of just these, and leaves all later words to the steps after it.  It
waits forever exactly when too few accepted words are left.
-/

namespace GraphFixture
namespace Session

namespace Step

/-- The node count of the fixture that a step asks for, if it asks for one. -/
def nodeCount? : Step → Option UInt64
  | .word => none
  | .sample nodeCount | .sampleByHandle nodeCount | .render nodeCount _ =>
      some nodeCount

/-- The reply that a step makes of a fixture. -/
def present : Step → Fixture → Reply
  | .render _ layout, fixture => .text (fixture.render layout)
  | .word, fixture | .sample _, fixture | .sampleByHandle _, fixture =>
      .fixture fixture

/-- The blocks that a step asks for fit into one list. -/
def Fits (step : Step) : Prop :=
  ∀ nodeCount ∈ step.nodeCount?, Fixture.fits nodeCount = true

instance : DecidablePred Fits := fun step =>
  decidable_of_iff (step.nodeCount?.all Fixture.fits = true) <| by
    rw [Option.all_eq_true]
    rfl

variable {Source : Type} [WordSource Source]

/-- What a walk over the words of a source makes of one step: its reply and the
number of words that it uses up. -/
inductive Takes (source : Source) : Step → Reply → Nat → Prop
  /-- A raw word is the next one. -/
  | word : Takes source .word (.word (WordSource.wordAt source 0)) 1
  /-- A fixture without nodes is refused and no word is used. -/
  | refused {step : Step} (asks : step.nodeCount? = some 0) :
      Takes source step (.failure (.invalidNodeCount 0)) 0
  /-- The targets of a fixture, in slot order, are the numbers of the first
  accepted words, and the last of these is the last word used. -/
  | sampled {step : Step} {nodeCount : UInt64} {fixture : Fixture} {length : Nat}
      (asks : step.nodeCount? = some nodeCount) (positive : nodeCount ≠ 0)
      (spans : Bounded.Spans nodeCount (Fixture.childCount nodeCount)
        (WordSource.first length source))
      (targets_eq : fixture.targets =
        Bounded.numbers nodeCount (WordSource.first length source))
      (dealt : fixture = Fixture.ofTargets nodeCount none fixture.targets) :
      Takes source step (step.present fixture) length

/-- A source has the words that a step needs: a step that asks for a fixture
with nodes needs an accepted word for each child. -/
def Supplied (step : Step) (source : Source) : Prop :=
  ∀ nodeCount ∈ step.nodeCount?, nodeCount ≠ 0 →
    Bounded.Supplies nodeCount (Fixture.childCount nodeCount) source

end Step

/-- The source that outcomes leave to the next step. -/
def left {Source : Type} (source : Source)
    (outcomes : List (Reply × Source)) : Source :=
  (outcomes.getLast?.map Prod.snd).getD source

theorem left_cons {Source : Type} (source : Source)
    (outcome : Reply × Source) (outcomes : List (Reply × Source)) :
    left source (outcome :: outcomes) = left outcome.2 outcomes := by
  cases outcomes with
  | nil => rfl
  | cons second others =>
      rw [left, left, List.getLast?_cons_cons, List.getLast?_eq_some_getLast]
      · rfl
      · simp

variable {Source : Type} [WordSource Source]

/-! ## One step -/

/-- What a step answers once it has tried to sample. -/
def Step.answer (step : Step) : Except FixtureError Fixture → Reply
  | .ok fixture => step.present fixture
  | .error error => .failure error

theorem sampleFrom_zero (patience : Nat) (source : Source) :
    sampleFrom patience 0 source = (.error (.invalidNodeCount 0), source) := by
  simp [sampleFrom, Recipe.build]

theorem sampleFrom_of_ne_zero {nodeCount : UInt64} (positive : nodeCount ≠ 0)
    (patience : Nat) (source : Source) :
    sampleFrom patience nodeCount source =
      match (Generator.mk nodeCount none positive).drawFixture none patience source with
      | .ok (fixture, rest) => (.ok fixture, rest)
      | .error error => (.error error, source) := by
  simp only [sampleFrom, Recipe.build, dif_pos positive, Generator.sampleWith]
  cases (Generator.mk nodeCount none positive).drawFixture none patience source <;> rfl

/-- Sampling through a handle gives what sampling from the source gives, and
the handle follows the source. -/
theorem sampleFrom_handle (patience : Nat) (nodeCount : UInt64)
    (source : Source) :
    sampleFrom patience nodeCount (Handle.of source) =
      ((sampleFrom patience nodeCount source).1,
        Handle.of (sampleFrom patience nodeCount source).2) := by
  by_cases positive : nodeCount = 0
  · rw [positive, sampleFrom_zero, sampleFrom_zero]
  · rw [sampleFrom_of_ne_zero positive, sampleFrom_of_ne_zero positive,
      Generator.drawFixture_handle]
    cases (Generator.mk nodeCount none positive).drawFixture none patience source <;> rfl

/-- All steps that ask for a fixture sample it in the same way. -/
theorem runStep_of_asks {step : Step} {nodeCount : UInt64}
    (asks : step.nodeCount? = some nodeCount) (patience : Nat) (source : Source) :
    runStep patience step source =
      (step.answer (sampleFrom patience nodeCount source).1,
        (sampleFrom patience nodeCount source).2) := by
  cases step with
  | word => simp [Step.nodeCount?] at asks
  | sample asked =>
      obtain rfl := Option.some.inj asks
      rw [runStep]
      obtain ⟨result, rest⟩ := sampleFrom patience asked source
      cases result <;> rfl
  | sampleByHandle asked =>
      obtain rfl := Option.some.inj asks
      rw [runStep, sampleFrom_handle]
      obtain ⟨result, rest⟩ := sampleFrom patience asked source
      cases result <;> rfl
  | render asked layout =>
      obtain rfl := Option.some.inj asks
      rw [runStep]
      obtain ⟨result, rest⟩ := sampleFrom patience asked source
      cases result <;> rfl

/-- A step gives what the walk makes of it, given a patience that is not
shorter than the walk. -/
theorem runStep_of_takes {step : Step} (fits : step.Fits) {source : Source}
    {reply : Reply} {length patience : Nat} (enough : length ≤ patience)
    (taken : step.Takes source reply length) :
    runStep patience step source = (reply, WordSource.advance length source) := by
  cases taken with
  | word => rfl
  | refused asks =>
      rw [runStep_of_asks asks, sampleFrom_zero]
      rfl
  | @sampled _ nodeCount fixture _ asks positive spans targets_eq dealt =>
      have drawn := Generator.drawFixture_of_spans ⟨nodeCount, none, positive⟩
        (fits nodeCount asks) none enough spans
      rw [runStep_of_asks asks, sampleFrom_of_ne_zero positive, drawn,
        ← targets_eq, ← dealt]
      rfl

/-- A step that does not wait forever gives what a walk makes of it. -/
theorem exists_takes_of_runStep {step : Step} (fits : step.Fits)
    {source rest : Source} {reply : Reply} {patience : Nat}
    (ran : runStep patience step source = (reply, rest))
    (settled : reply ≠ .failure .unendingDraw) :
    ∃ length, step.Takes source reply length ∧
      rest = WordSource.advance length source := by
  cases asks : step.nodeCount? with
  | none =>
      cases step with
      | word =>
          obtain ⟨rfl, rfl⟩ := Prod.mk.inj ran
          exact ⟨1, .word, rfl⟩
      | sample _ | sampleByHandle _ | render _ _ => simp [Step.nodeCount?] at asks
  | some nodeCount =>
      rw [runStep_of_asks asks] at ran
      obtain ⟨rfl, rfl⟩ := Prod.mk.inj ran
      by_cases positive : nodeCount = 0
      · subst positive
        rw [sampleFrom_zero]
        exact ⟨0, .refused asks, rfl⟩
      · rw [sampleFrom_of_ne_zero positive] at settled ⊢
        cases drawn : (Generator.mk nodeCount none positive).drawFixture none
            patience source with
        | error error =>
            -- The blocks fit, so waiting forever is the only other failure.
            have waiting := Generator.eq_unendingDraw_of_drawFixture
              ⟨nodeCount, none, positive⟩ (fits nodeCount asks) drawn
            rw [drawn, waiting] at settled
            exact absurd rfl settled
        | ok outcome =>
            obtain ⟨fixture, left⟩ := outcome
            obtain ⟨length, spans, fixture_eq, left_eq⟩ :=
              Generator.exists_spans_of_drawFixture drawn
            dsimp only at spans fixture_eq
            have targets_eq : fixture.targets = Bounded.numbers nodeCount
                (WordSource.first length source) := by
              rw [fixture_eq]
              exact Fixture.targets_ofTargets_of_length spans.length_numbers none
            refine ⟨length, .sampled asks positive spans targets_eq ?_, left_eq⟩
            rw [targets_eq]
            exact fixture_eq

/-- A walk makes something of a step exactly when the source has the words that
the step needs. -/
theorem exists_takes_iff_supplied {step : Step} {source : Source} :
    (∃ reply length, step.Takes source reply length) ↔ step.Supplied source := by
  constructor
  · rintro ⟨reply, length, taken⟩ nodeCount asked positive
    cases taken with
    | word => simp [Step.nodeCount?] at asked
    | refused asks => exact absurd (Option.some.inj (asked.symm.trans asks)) positive
    | sampled asks _ spans =>
        obtain rfl := Option.some.inj (asked.symm.trans asks)
        exact Bounded.exists_spans_iff_supplies.mp ⟨length, spans⟩
  · intro supplied
    cases asks : step.nodeCount? with
    | none =>
        cases step with
        | word => exact ⟨_, _, .word⟩
        | sample _ | sampleByHandle _ | render _ _ => simp [Step.nodeCount?] at asks
    | some nodeCount =>
        by_cases positive : nodeCount = 0
        · subst positive
          exact ⟨_, _, .refused asks⟩
        · obtain ⟨length, spans⟩ :=
            Bounded.exists_spans_iff_supplies.mpr (supplied nodeCount asks positive)
          have targets_eq := Fixture.targets_ofTargets_of_length
            spans.length_numbers none
          refine ⟨_, length, .sampled asks positive spans targets_eq ?_⟩
          rw [targets_eq]

/-! ## Whole sessions -/

/-- A session completes with some outcomes when every patience from some length
on gives them and no step is left waiting. -/
def Completes (steps : List Step) (source : Source)
    (outcomes : List (Reply × Source)) : Prop :=
  (∃ patience, ∀ longer, patience ≤ longer → run longer steps source = outcomes) ∧
    ∀ outcome ∈ outcomes, outcome.1 ≠ .failure .unendingDraw

/-- A walk through a session: every step starts at the word after those that
the steps before it used up. -/
inductive Walks : List Step → Source → List (Reply × Source) → Prop
  | nil (source : Source) : Walks [] source []
  | cons {step : Step} {steps : List Step} {source : Source} {reply : Reply}
      {length : Nat} {outcomes : List (Reply × Source)}
      (taken : step.Takes source reply length)
      (later : Walks steps (WordSource.advance length source) outcomes) :
      Walks (step :: steps) source
        ((reply, WordSource.advance length source) :: outcomes)

/-- A walk makes a failure only of a step that asks for no nodes. -/
theorem Step.Takes.refused_of_failure {step : Step} {source : Source} {reply : Reply}
    {length : Nat} (taken : step.Takes source reply length) {error : FixtureError}
    (failed : reply = .failure error) :
    step.nodeCount? = some 0 ∧ error = .invalidNodeCount 0 := by
  cases taken with
  | word => exact nomatch failed
  | refused asks => exact ⟨asks, (Reply.failure.inj failed).symm⟩
  | sampled => cases step <;> simp [Step.present] at failed

theorem Step.Takes.reply_ne_unending {step : Step} {source : Source}
    {reply : Reply} {length : Nat} (taken : step.Takes source reply length) :
    reply ≠ .failure .unendingDraw :=
  fun failed => nomatch (taken.refused_of_failure failed).2

/-- A walk through a session is what the session completes with. -/
theorem Walks.completes {steps : List Step} {source : Source}
    {outcomes : List (Reply × Source)} (walks : Walks steps source outcomes)
    (fits : ∀ step ∈ steps, step.Fits) : Completes steps source outcomes := by
  induction walks with
  | nil source => exact ⟨⟨0, fun _ _ => rfl⟩, by simp⟩
  | @cons step steps source reply length outcomes taken later inductionHypothesis =>
      obtain ⟨⟨patience, runs⟩, settled⟩ := inductionHypothesis fun other member =>
        fits other (List.mem_cons_of_mem step member)
      refine ⟨⟨max length patience, ?_⟩, ?_⟩
      · intro longer enough
        have ran := runStep_of_takes (fits step List.mem_cons_self)
          (Nat.le_trans (Nat.le_max_left length patience) enough) taken
        have ranLater := runs longer
          (Nat.le_trans (Nat.le_max_right length patience) enough)
        simp only [run, ran, ranLater]
      · intro outcome member
        rcases List.mem_cons.mp member with rfl | inLater
        · exact taken.reply_ne_unending
        · exact settled outcome inLater

/-- Outcomes without a waiting step come from a walk. -/
theorem walks_of_run {steps : List Step} {source : Source} {patience : Nat}
    (fits : ∀ step ∈ steps, step.Fits)
    (settled : ∀ outcome ∈ run patience steps source,
      outcome.1 ≠ .failure .unendingDraw) :
    Walks steps source (run patience steps source) := by
  induction steps generalizing source with
  | nil => exact .nil source
  | cons step steps inductionHypothesis =>
      cases ran : runStep patience step source with
      | mk reply rest =>
          rw [run, ran] at settled ⊢
          obtain ⟨length, taken, rfl⟩ := exists_takes_of_runStep
            (fits step List.mem_cons_self) ran (settled _ List.mem_cons_self)
          apply Walks.cons taken
          apply inductionHypothesis
          · intro other member
            exact fits other (List.mem_cons_of_mem step member)
          · intro outcome member
            exact settled outcome (List.mem_cons_of_mem _ member)

/-- A session completes exactly along a walk. -/
theorem completes_iff_walks {steps : List Step}
    (fits : ∀ step ∈ steps, step.Fits) {source : Source}
    {outcomes : List (Reply × Source)} :
    Completes steps source outcomes ↔ Walks steps source outcomes := by
  constructor
  · rintro ⟨⟨patience, runs⟩, settled⟩
    have ran := runs patience (Nat.le_refl patience)
    rw [← ran] at settled ⊢
    exact walks_of_run fits settled
  · intro walks
    exact walks.completes fits

/-- After a walk, one more step is taken from where the walk has stopped. -/
theorem Walks.append_singleton_iff {steps : List Step} {source : Source}
    {outcomes : List (Reply × Source)} (walks : Walks steps source outcomes)
    (next : Step) (outcome : Reply × Source) :
    Walks (steps ++ [next]) source (outcomes ++ [outcome]) ↔
      ∃ length, next.Takes (left source outcomes) outcome.1 length ∧
        outcome.2 = WordSource.advance length (left source outcomes) := by
  induction walks with
  | nil source =>
      constructor
      · intro extended
        cases extended with
        | cons taken later => exact ⟨_, taken, rfl⟩
      · rintro ⟨length, taken, rest_eq⟩
        obtain ⟨reply, rest⟩ := outcome
        obtain rfl : rest = WordSource.advance length source := rest_eq
        exact .cons taken (.nil _)
  | @cons step steps source reply length outcomes taken later inductionHypothesis =>
      rw [left_cons, ← inductionHypothesis]
      constructor
      · intro extended
        generalize stop : WordSource.advance length source = middle at *
        cases extended with
        | cons takenAgain laterAgain =>
            exact laterAgain
      · intro extended
        exact .cons taken extended

/-- Sessions refine the plain walk over the words of their source.  A session
completes exactly along a walk, and after it one more step completes exactly
when the source that is left has the accepted words that the step needs. -/
theorem session_refines_walk (steps : List Step) (next : Step)
    (fits : ∀ step ∈ steps ++ [next], step.Fits) (source : Source)
    (outcomes : List (Reply × Source)) :
    (Completes steps source outcomes ↔ Walks steps source outcomes) ∧
      (Completes steps source outcomes →
        ((∃ outcome, Completes (steps ++ [next]) source (outcomes ++ [outcome])) ↔
          next.Supplied (left source outcomes))) := by
  have fitsEarlier : ∀ step ∈ steps, step.Fits := fun step member =>
    fits step (List.mem_append_left [next] member)
  refine ⟨completes_iff_walks fitsEarlier, ?_⟩
  intro completed
  have walks := (completes_iff_walks fitsEarlier).mp completed
  rw [← exists_takes_iff_supplied]
  constructor
  · rintro ⟨outcome, extended⟩
    obtain ⟨length, taken, _⟩ := (walks.append_singleton_iff next outcome).mp
      ((completes_iff_walks fits).mp extended)
    exact ⟨outcome.1, length, taken⟩
  · rintro ⟨reply, length, taken⟩
    refine ⟨(reply, WordSource.advance length (left source outcomes)), ?_⟩
    apply (completes_iff_walks fits).mpr
    exact (walks.append_singleton_iff next _).mpr ⟨length, taken, rfl⟩

/-- A session with a raw word, a refused step and a rejected word completes, and
one more step can follow. -/
theorem session_refines_walk_past_rejected :
    let steps : List Step := [.word, .sampleByHandle 0, .sample 1]
    let next : Step := .render 1 .expanded
    let source := Script.mk [7, 0x8000000000000000, 3]
    let outcomes := run 9 steps source
    (∀ step ∈ steps ++ [next], step.Fits) ∧ Completes steps source outcomes ∧
      ∃ outcome, Completes (steps ++ [next]) source (outcomes ++ [outcome]) := by
  intro steps next source outcomes
  have fits : ∀ step ∈ steps ++ [next], step.Fits := by decide
  have refines := session_refines_walk steps next fits source outcomes
  have completed : Completes steps source outcomes :=
    refines.1.mpr (walks_of_run (by decide) (by decide +kernel))
  have supplied : next.Supplied (left source outcomes) := by
    intro nodeCount asked _
    obtain rfl : 1 = nodeCount := Option.some.inj asked
    exact Bounded.exists_spans_iff_supplies.mp ⟨8, by decide +kernel⟩
  exact ⟨fits, completed, (refines.2 completed).mpr supplied⟩

end Session
end GraphFixture
