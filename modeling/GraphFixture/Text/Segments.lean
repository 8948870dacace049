/-!
# Segments between separators

A list is cut at every occurrence of a separator, or at the first one only.
What a separator parts is kept, an empty segment too, and nothing else is lost.
-/

namespace GraphFixture
namespace Segments

variable {α : Type} [DecidableEq α]

/-- The first segment of a list and the segments after it. -/
def cut (separator : α) : List α → List α × List (List α)
  | [] => ([], [])
  | item :: rest =>
      let later := cut separator rest
      if item = separator then ([], later.1 :: later.2)
      else (item :: later.1, later.2)

/-- The segments of a list between separators. -/
def split (separator : α) (list : List α) : List (List α) :=
  let segments := cut separator list
  segments.1 :: segments.2

/-- The part of a list before the first separator, and the part after it if
there is one. -/
def splitFirst (separator : α) : List α → List α × Option (List α)
  | [] => ([], none)
  | item :: rest =>
      if item = separator then ([], some rest)
      else
        let later := splitFirst separator rest
        (item :: later.1, later.2)

/-- The part before the first separator and what follows make up the list. -/
theorem append_splitFirst (separator : α) (list : List α) :
    (splitFirst separator list).1 ++
      (splitFirst separator list).2.elim [] (separator :: ·) = list := by
  induction list with
  | nil => rfl
  | cons item rest inductionHypothesis =>
      by_cases equal : item = separator
      · simp [splitFirst, equal]
      · simp [splitFirst, equal, inductionHypothesis]

end Segments
end GraphFixture
