import GraphFixture.Text.Blank
import Mathlib.Data.List.Infix

/-!
# Splitting at marks

A mark is a text of its own, such as a comma with a space.  A text is split at
its first mark, or at every mark from left to right.  Joining parts with a mark
is undone by splitting, if in no part, with all but the last character of the
mark behind it, the mark can be found.
-/

namespace GraphFixture
namespace Marks

variable {mark before after text : List Char}

/-- The parts of a text between its marks, found from left to right. -/
def split (mark text : List Char) : List (List Char) :=
  match _found : text.dropInfix? mark with
  | none => [text]
  | some (before, after) =>
      if _marked : mark = [] then [text] else before :: split mark after
  termination_by text.length
  decreasing_by
    obtain ⟨⟨mark', rfl, equal⟩, _⟩ := List.dropInfix?_eq_some_iff.mp _found
    have positive := List.length_pos_iff.mpr _marked
    rw [eq_of_beq equal, List.length_append, List.length_append]
    omega

/-- A text in which a mark is not found is not split. -/
theorem dropInfix?_eq_none (absent : ¬ mark <:+: text) : text.dropInfix? mark = none := by
  cases found : text.dropInfix? mark with
  | none => rfl
  | some parts =>
      obtain ⟨⟨mark', rfl, equal⟩, _⟩ := List.dropInfix?_eq_some_iff.mp found
      rw [eq_of_beq equal] at absent
      exact absurd ⟨parts.1, parts.2, rfl⟩ absent

/-- A mark is the first one when none is found across its start. -/
theorem dropInfix?_append (absent : ¬ mark <:+: before ++ mark.dropLast) (after : List Char) :
    (before ++ mark ++ after).dropInfix? mark = some (before, after) := by
  rw [List.dropInfix?_eq_some_iff]
  refine ⟨⟨mark, rfl, beq_self_eq_true mark⟩, ?_⟩
  rintro earlier mark' later same equal
  rw [eq_of_beq equal] at same
  by_contra sooner
  -- An earlier mark would end before the last character of this one.
  have reaches : earlier ++ mark <+: before ++ mark.dropLast := by
    have ends : earlier ++ mark <+: before ++ mark ++ after := ⟨later, same.symm⟩
    have starts : before ++ mark.dropLast <+: before ++ mark ++ after :=
      List.IsPrefix.trans ((List.prefix_append_right_inj before).mpr (List.dropLast_prefix mark))
        (List.prefix_append _ _)
    apply List.prefix_of_prefix_length_le ends starts
    rw [List.length_append, List.length_append, List.length_dropLast]
    omega
  obtain ⟨rest, split⟩ := reaches
  exact absent ⟨earlier, rest, split⟩

theorem split_of_absent (absent : ¬ mark <:+: text) : split mark text = [text] := by
  rw [split]
  split
  · rfl
  · rename_i found
    rw [dropInfix?_eq_none absent] at found
    exact nomatch found

theorem split_append (nonempty : mark ≠ []) (absent : ¬ mark <:+: before ++ mark.dropLast)
    (after : List Char) : split mark (before ++ mark ++ after) = before :: split mark after := by
  rw [split]
  split
  · rename_i found
    rw [dropInfix?_append absent] at found
    exact nomatch found
  · rename_i found
    rw [dropInfix?_append absent] at found
    obtain ⟨rfl, rfl⟩ := Prod.mk.inj (Option.some.inj found)
    rw [dif_neg nonempty]

/-- Splitting undoes joining. -/
theorem split_intercalate (nonempty : mark ≠ []) {parts : List (List Char)} (hasPart : parts ≠ [])
    (absent : ∀ part ∈ parts, ¬ mark <:+: part ++ mark.dropLast) :
    split mark (mark.intercalate parts) = parts := by
  induction parts with
  | nil => exact absurd rfl hasPart
  | cons part parts inductionHypothesis =>
      rw [List.forall_mem_cons] at absent
      cases parts with
      | nil =>
          rw [List.intercalate_singleton, split_of_absent]
          rintro ⟨earlier, later, found⟩
          exact absent.1 ⟨earlier, later ++ mark.dropLast, by simp [← found]⟩
      | cons second others =>
          rw [List.intercalate_cons_cons, split_append nonempty absent.1,
            inductionHypothesis (List.cons_ne_nil _ _) absent.2]

/-! ## Joining -/

theorem intercalate_append (mark : List Char) {first second : List (List Char)}
    (hasFirst : first ≠ []) (hasSecond : second ≠ []) :
    mark.intercalate (first ++ second) =
      mark.intercalate first ++ mark ++ mark.intercalate second := by
  induction first with
  | nil => exact absurd rfl hasFirst
  | cons part first inductionHypothesis =>
      cases first with
      | nil =>
          obtain ⟨next, others, rfl⟩ := List.exists_cons_of_ne_nil hasSecond
          rw [List.singleton_append, List.intercalate_cons_cons, List.intercalate_singleton]
      | cons next others =>
          rw [List.cons_append, List.cons_append, List.intercalate_cons_cons, ← List.cons_append,
            inductionHypothesis (List.cons_ne_nil _ _), List.intercalate_cons_cons]
          simp only [List.append_assoc]

/-- Parts that all end alike make a text that ends so. -/
theorem getLast?_intercalate (mark : List Char) {parts : List (List Char)} (hasPart : parts ≠ [])
    {last : Char} (endAlike : ∀ part ∈ parts, part.getLast? = some last) :
    (mark.intercalate parts).getLast? = some last := by
  induction parts with
  | nil => exact absurd rfl hasPart
  | cons part parts inductionHypothesis =>
      rw [List.forall_mem_cons] at endAlike
      cases parts with
      | nil => rw [List.intercalate_singleton, endAlike.1]
      | cons next others =>
          rw [List.intercalate_cons_cons, List.getLast?_append,
            inductionHypothesis (List.cons_ne_nil _ _) endAlike.2, Option.some_or]

/-- A mark whose first character is not in a text is found neither there nor
across its end. -/
theorem absent_of_not_mem {first : Char} {rest : List Char} (missing : first ∉ text) :
    ¬ first :: rest <:+: text ++ (first :: rest).dropLast := by
  rintro ⟨earlier, later, found⟩
  have inText : earlier.length < text.length := by
    have lengths := congrArg List.length found
    simp only [List.length_append, List.length_cons, List.length_dropLast] at lengths
    omega
  have here := congrArg (·[earlier.length]?) found
  simp only [List.append_assoc, List.getElem?_append_right (Nat.le_refl earlier.length),
    Nat.sub_self, List.cons_append, List.getElem?_cons_zero,
    List.getElem?_append_left inText] at here
  exact missing (List.mem_of_getElem? here.symm)

end Marks
end GraphFixture
