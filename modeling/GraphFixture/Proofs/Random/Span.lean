import GraphFixture.Random.Bounded

/-!
# Spans of words that draws use up

Drawing numbers below a bound walks over the words of the source: rejected
words are passed by, each accepted word gives one number, and the walk stops
right after the last accepted word that it needs.  The words walked over form a
span.  Draws with enough patience and spans determine each other.
-/

namespace GraphFixture

namespace WordSource

variable {Source : Type} [WordSource Source]

/-- The first words of a source. -/
def first : (count : Nat) → Source → List UInt64
  | 0, _ => []
  | count + 1, source => (draw source).1 :: first count (draw source).2

@[simp] theorem first_zero (source : Source) : first 0 source = [] :=
  rfl

@[simp] theorem first_succ (count : Nat) (source : Source) :
    first (count + 1) source = (draw source).1 :: first count (draw source).2 :=
  rfl

/-- The first words of a longer stretch go on with those of the source that is
left. -/
theorem first_add (count further : Nat) (source : Source) :
    first (count + further) source =
      first count source ++ first further (advance count source) := by
  induction count generalizing source with
  | zero => simp
  | succ count inductionHypothesis =>
      rw [Nat.succ_add, first_succ, inductionHypothesis, first_succ,
        advance_succ, List.cons_append]

end WordSource

namespace Script

theorem first_length (words : List UInt64) :
    WordSource.first words.length (Script.mk words) = words := by
  induction words with
  | nil => rfl
  | cons word words inductionHypothesis =>
      exact congrArg (word :: ·) inductionHypothesis

theorem advance_length (words : List UInt64) :
    WordSource.advance words.length (Script.mk words) = ⟨[]⟩ := by
  induction words with
  | nil => rfl
  | cons word words inductionHypothesis => exact inductionHypothesis

theorem first_of_nil (count : Nat) :
    WordSource.first count (Script.mk []) = List.replicate count 0 := by
  induction count with
  | zero => rfl
  | succ count inductionHypothesis =>
      exact congrArg (0 :: ·) inductionHypothesis

end Script

namespace Bounded

/-! ## Numbers of accepted words -/

/-- The numbers that the accepted ones among some words stand for, in order. -/
def numbers (bound : UInt64) (words : List UInt64) : List UInt64 :=
  (words.filter (accepts bound)).map (scale bound)

@[simp] theorem numbers_nil (bound : UInt64) : numbers bound [] = [] :=
  rfl

theorem numbers_cons_of_accepts {bound word : UInt64} (words : List UInt64)
    (accepted : accepts bound word = true) :
    numbers bound (word :: words) = scale bound word :: numbers bound words := by
  simp [numbers, accepted]

theorem numbers_cons_of_rejects {bound word : UInt64} (words : List UInt64)
    (rejected : accepts bound word = false) :
    numbers bound (word :: words) = numbers bound words := by
  simp [numbers, rejected]

theorem numbers_append (bound : UInt64) (before after : List UInt64) :
    numbers bound (before ++ after) = numbers bound before ++ numbers bound after := by
  simp [numbers]

theorem lt_of_mem_numbers {bound number : UInt64} (nonzero : bound ≠ 0) {words : List UInt64}
    (member : number ∈ numbers bound words) : number < bound := by
  obtain ⟨word, _, rfl⟩ := List.mem_map.mp member
  exact scale_lt nonzero word

/-- Nothing follows the last accepted word: the last word, if there is one, is
accepted. -/
def EndsAccepted (bound : UInt64) (words : List UInt64) : Prop :=
  ∀ word ∈ words.getLast?, accepts bound word = true

instance (bound : UInt64) (words : List UInt64) :
    Decidable (EndsAccepted bound words) :=
  decidable_of_iff (words.getLast?.all (accepts bound) = true) <| by
    rw [Option.all_eq_true]
    rfl

theorem endsAccepted_nil (bound : UInt64) : EndsAccepted bound [] := by
  intro word member
  simp at member

theorem endsAccepted_cons_of_accepts {bound word : UInt64} {words : List UInt64}
    (accepted : accepts bound word = true) :
    EndsAccepted bound (word :: words) ↔ EndsAccepted bound words := by
  cases words with
  | nil =>
      refine ⟨fun _ => endsAccepted_nil bound, fun _ => ?_⟩
      intro last member
      simp only [List.getLast?_singleton, Option.mem_some_iff] at member
      rw [← member]
      exact accepted
  | cons second words => simp [EndsAccepted]

/-- A rejected word has words after it that end accepted and give a number. -/
theorem endsAccepted_cons_of_rejects {bound word : UInt64} {words : List UInt64}
    (rejected : accepts bound word = false) :
    EndsAccepted bound (word :: words) ↔
      EndsAccepted bound words ∧ numbers bound words ≠ [] := by
  cases words with
  | nil => simp [EndsAccepted, rejected]
  | cons second words =>
      have someLast : (second :: words).getLast? =
          some ((second :: words).getLast (by simp)) :=
        List.getLast?_eq_some_getLast _
      constructor
      · intro ends
        have endsLater : EndsAccepted bound (second :: words) := by
          simpa [EndsAccepted] using ends
        refine ⟨endsLater, ?_⟩
        have accepted := endsLater _ someLast
        have member := List.mem_filter.mpr
          ⟨List.getLast_mem (by simp : second :: words ≠ []), accepted⟩
        simpa [numbers] using List.ne_nil_of_mem member
      · rintro ⟨endsLater, _⟩
        simpa [EndsAccepted] using endsLater

/-- Words that end accepted may be followed by more such words. -/
theorem EndsAccepted.append {bound : UInt64} {before after : List UInt64}
    (endsBefore : EndsAccepted bound before)
    (endsAfter : EndsAccepted bound after) :
    EndsAccepted bound (before ++ after) := by
  intro last member
  rw [List.getLast?_append] at member
  cases lastAfter : after.getLast? with
  | none =>
      rw [lastAfter, Option.none_or] at member
      exact endsBefore last member
  | some word =>
      rw [lastAfter, Option.some_or] at member
      exact endsAfter last (lastAfter ▸ member)

/-- A span holds a number of accepted words, the last word being one of them. -/
structure Spans (bound : UInt64) (count : Nat) (words : List UInt64) : Prop where
  length_numbers : (numbers bound words).length = count
  /-- Nothing follows the last of them. -/
  endsAccepted : EndsAccepted bound words

instance (bound : UInt64) (count : Nat) (words : List UInt64) :
    Decidable (Spans bound count words) :=
  decidable_of_iff ((numbers bound words).length = count ∧ EndsAccepted bound words)
    ⟨fun ⟨length, ends⟩ => ⟨length, ends⟩, fun spans => ⟨spans.1, spans.2⟩⟩

/-! ## Draws and spans -/

variable {Source : Type} [WordSource Source]

/-- Draw a number of numbers below a bound, each with the same patience. -/
def drawMany (bound : UInt64) (patience : Nat) :
    (count : Nat) → Source → Option (List UInt64 × Source)
  | 0, source => some ([], source)
  | count + 1, source =>
      (draw bound patience source).bind fun next =>
        (drawMany bound patience count next.2).map fun later =>
          (next.1 :: later.1, later.2)

@[simp] theorem drawMany_zero (bound : UInt64) (patience : Nat)
    (source : Source) : drawMany bound patience 0 source = some ([], source) :=
  rfl

theorem drawMany_succ (bound : UInt64) (patience count : Nat)
    (source : Source) :
    drawMany bound patience (count + 1) source =
      (draw bound patience source).bind fun next =>
        (drawMany bound patience count next.2).map fun later =>
          (next.1 :: later.1, later.2) :=
  rfl

/-- One more number is drawn exactly when a first one is drawn and then the
others. -/
theorem drawMany_succ_eq_some_iff {bound : UInt64} {patience count : Nat}
    {source rest : Source} {drawn : List UInt64} :
    drawMany bound patience (count + 1) source = some (drawn, rest) ↔
      ∃ number middle later,
        draw bound patience source = some (number, middle) ∧
        drawMany bound patience count middle = some (later, rest) ∧
        drawn = number :: later := by
  rw [drawMany_succ, Option.bind_eq_some_iff]
  constructor
  · rintro ⟨⟨number, middle⟩, drawnFirst, continued⟩
    obtain ⟨⟨later, _⟩, drawnLater, equal⟩ := Option.map_eq_some_iff.mp continued
    obtain ⟨rfl, rfl⟩ := Prod.mk.inj equal
    exact ⟨number, middle, later, drawnFirst, drawnLater, rfl⟩
  · rintro ⟨number, middle, later, drawnFirst, drawnLater, rfl⟩
    refine ⟨(number, middle), drawnFirst, ?_⟩
    rw [drawnLater, Option.map_some]

/-- Drawing in two rounds is drawing in one. -/
theorem drawMany_add (bound : UInt64) (patience first second : Nat)
    (source : Source) :
    drawMany bound patience (first + second) source =
      (drawMany bound patience first source).bind fun early =>
        (drawMany bound patience second early.2).map fun late =>
          (early.1 ++ late.1, late.2) := by
  induction first generalizing source with
  | zero => simp
  | succ first inductionHypothesis =>
      rw [Nat.succ_add, drawMany_succ, drawMany_succ, Option.bind_assoc]
      congr 1
      funext next
      rw [inductionHypothesis, Option.map_bind, Option.bind_map]
      congr 1
      funext early
      simp [Function.comp_def]

theorem length_drawMany {bound : UInt64} {patience count : Nat}
    {source rest : Source} {drawn : List UInt64}
    (complete : drawMany bound patience count source = some (drawn, rest)) :
    drawn.length = count := by
  induction count generalizing source drawn with
  | zero =>
      obtain ⟨rfl, _⟩ := Prod.mk.inj (Option.some.inj complete)
      rfl
  | succ count inductionHypothesis =>
      obtain ⟨_, _, later, _, drawnLater, rfl⟩ :=
        drawMany_succ_eq_some_iff.mp complete
      rw [List.length_cons, inductionHypothesis drawnLater]

theorem drawMany_of_le {bound : UInt64} {patience longer count : Nat}
    {source : Source} {outcome : List UInt64 × Source}
    (atMost : patience ≤ longer)
    (complete : drawMany bound patience count source = some outcome) :
    drawMany bound longer count source = some outcome := by
  induction count generalizing source outcome with
  | zero => exact complete
  | succ count inductionHypothesis =>
      obtain ⟨drawn, rest⟩ := outcome
      obtain ⟨number, middle, later, drawnFirst, drawnLater, rfl⟩ :=
        drawMany_succ_eq_some_iff.mp complete
      exact drawMany_succ_eq_some_iff.mpr
        ⟨number, middle, later, draw_of_le atMost drawnFirst,
          inductionHypothesis drawnLater, rfl⟩

/-- A number that was drawn is that of the only accepted word in a span. -/
theorem exists_span_of_draw {bound : UInt64} {patience : Nat}
    {source rest : Source} {number : UInt64}
    (drawn : draw bound patience source = some (number, rest)) :
    ∃ length, rest = WordSource.advance length source ∧
      numbers bound (WordSource.first length source) = [number] ∧
      EndsAccepted bound (WordSource.first length source) := by
  induction patience generalizing source with
  | zero => simp at drawn
  | succ patience inductionHypothesis =>
      cases decision : accepts bound (WordSource.draw source).1 with
      | true =>
          rw [draw_of_accepts patience decision] at drawn
          obtain ⟨rfl, rfl⟩ := Prod.mk.inj (Option.some.inj drawn)
          refine ⟨1, rfl, numbers_cons_of_accepts _ decision, ?_⟩
          exact (endsAccepted_cons_of_accepts decision).mpr (endsAccepted_nil bound)
      | false =>
          rw [draw_of_rejects patience decision] at drawn
          obtain ⟨length, rest_eq, numbers_eq, ends⟩ := inductionHypothesis drawn
          refine ⟨length + 1, rest_eq, ?_, ?_⟩
          · rw [WordSource.first_succ, numbers_cons_of_rejects _ decision, numbers_eq]
          · rw [WordSource.first_succ, endsAccepted_cons_of_rejects decision]
            exact ⟨ends, by simp [numbers_eq]⟩

/-- Numbers that were drawn are those of the accepted words in a span, and the
words of the span are used up. -/
theorem exists_span_of_drawMany {bound : UInt64} {patience count : Nat}
    {source rest : Source} {drawn : List UInt64}
    (complete : drawMany bound patience count source = some (drawn, rest)) :
    ∃ length, rest = WordSource.advance length source ∧
      numbers bound (WordSource.first length source) = drawn ∧
      EndsAccepted bound (WordSource.first length source) := by
  induction count generalizing source drawn with
  | zero =>
      obtain ⟨rfl, rfl⟩ := Prod.mk.inj (Option.some.inj complete)
      exact ⟨0, rfl, rfl, endsAccepted_nil bound⟩
  | succ count inductionHypothesis =>
      obtain ⟨number, middle, later, drawnFirst, drawnLater, rfl⟩ :=
        drawMany_succ_eq_some_iff.mp complete
      obtain ⟨length, middle_eq, number_eq, ends⟩ := exists_span_of_draw drawnFirst
      obtain ⟨further, rest_eq, later_eq, endsLater⟩ := inductionHypothesis drawnLater
      rw [middle_eq] at rest_eq later_eq endsLater
      refine ⟨length + further, ?_, ?_, ?_⟩
      · rw [WordSource.advance_add]
        exact rest_eq
      · rw [WordSource.first_add, numbers_append, number_eq, later_eq,
          List.singleton_append]
      · rw [WordSource.first_add]
        exact ends.append endsLater

/-- The numbers of a span are drawn by any patience that is not shorter than
the span, and exactly its words are used up. -/
theorem drawMany_of_span {bound : UInt64} {patience length : Nat}
    {source : Source} (enough : length ≤ patience)
    (ends : EndsAccepted bound (WordSource.first length source)) :
    drawMany bound patience
        (numbers bound (WordSource.first length source)).length source =
      some (numbers bound (WordSource.first length source),
        WordSource.advance length source) := by
  induction length generalizing patience source with
  | zero => rfl
  | succ length inductionHypothesis =>
      obtain ⟨less, rfl⟩ : ∃ less, patience = less + 1 :=
        Nat.exists_eq_succ_of_ne_zero (Nat.ne_of_gt (Nat.lt_of_lt_of_le length.succ_pos enough))
      have enoughLater := Nat.le_of_succ_le_succ enough
      rw [WordSource.first_succ] at ends ⊢
      cases decision : accepts bound (WordSource.draw source).1 with
      | true =>
          rw [endsAccepted_cons_of_accepts decision] at ends
          rw [numbers_cons_of_accepts _ decision, List.length_cons,
            drawMany_succ_eq_some_iff]
          exact ⟨_, _, _, draw_of_accepts less decision,
            inductionHypothesis (Nat.le_succ_of_le enoughLater) ends, rfl⟩
      | false =>
          rw [endsAccepted_cons_of_rejects decision] at ends
          rw [numbers_cons_of_rejects _ decision]
          have later := inductionHypothesis enoughLater ends.1
          -- The rejected word only shortens the patience of the first draw.
          cases drawn : numbers bound
              (WordSource.first length (WordSource.draw source).2) with
          | nil => exact absurd drawn ends.2
          | cons number others =>
              rw [drawn, List.length_cons, drawMany_succ_eq_some_iff] at later
              obtain ⟨_, middle, _, drawnFirst, drawnLater, split⟩ := later
              rw [List.length_cons, drawMany_succ_eq_some_iff]
              refine ⟨_, middle, _, ?_, drawMany_of_le less.le_succ drawnLater, split⟩
              rw [draw_of_rejects less decision]
              exact drawnFirst

/-! ## When there is a span -/

/-- A source supplies a number of accepted words when so many are among its
first words, for some number of these. -/
def Supplies (bound : UInt64) (count : Nat) (source : Source) : Prop :=
  ∃ length, count ≤ (numbers bound (WordSource.first length source)).length

/-- Enough accepted words among the first words make a span of some of these. -/
theorem exists_spans_of_le {bound : UInt64} {count length : Nat}
    {source : Source}
    (enough : count ≤ (numbers bound (WordSource.first length source)).length) :
    ∃ shorter ≤ length, Spans bound count (WordSource.first shorter source) := by
  induction length generalizing count source with
  | zero =>
      rw [WordSource.first_zero, numbers_nil, List.length_nil, Nat.le_zero] at enough
      exact ⟨0, Nat.le_refl 0, ⟨enough.symm, endsAccepted_nil bound⟩⟩
  | succ length inductionHypothesis =>
      rw [WordSource.first_succ] at enough
      cases count with
      | zero => exact ⟨0, Nat.zero_le _, ⟨rfl, endsAccepted_nil bound⟩⟩
      | succ count =>
          cases decision : accepts bound (WordSource.draw source).1 with
          | true =>
              rw [numbers_cons_of_accepts _ decision, List.length_cons] at enough
              obtain ⟨shorter, within, spans⟩ :=
                inductionHypothesis (Nat.le_of_succ_le_succ enough)
              refine ⟨shorter + 1, Nat.succ_le_succ within, ?_, ?_⟩
              · rw [WordSource.first_succ, numbers_cons_of_accepts _ decision,
                  List.length_cons, spans.length_numbers]
              · rw [WordSource.first_succ, endsAccepted_cons_of_accepts decision]
                exact spans.endsAccepted
          | false =>
              rw [numbers_cons_of_rejects _ decision] at enough
              obtain ⟨shorter, within, spans⟩ := inductionHypothesis enough
              refine ⟨shorter + 1, Nat.succ_le_succ within, ?_, ?_⟩
              · rw [WordSource.first_succ, numbers_cons_of_rejects _ decision,
                  spans.length_numbers]
              · rw [WordSource.first_succ, endsAccepted_cons_of_rejects decision]
                refine ⟨spans.endsAccepted, ?_⟩
                rw [← List.length_pos_iff, spans.length_numbers]
                exact count.succ_pos

/-- A span exists exactly when the source supplies enough accepted words. -/
theorem exists_spans_iff_supplies {bound : UInt64} {count : Nat}
    {source : Source} :
    (∃ length, Spans bound count (WordSource.first length source)) ↔
      Supplies bound count source := by
  constructor
  · rintro ⟨length, spans⟩
    exact ⟨length, Nat.le_of_eq spans.length_numbers.symm⟩
  · rintro ⟨length, enough⟩
    obtain ⟨shorter, _, spans⟩ := exists_spans_of_le enough
    exact ⟨shorter, spans⟩

end Bounded
end GraphFixture
