/-!
# Attempts that succeed

Several attempts in a row succeed exactly when each of them does, and what they
come to is then made of what each of them came to.
-/

namespace GraphFixture
namespace Attempt

variable {Fault Value Image : Type} {attempt : Except Fault Value}

theorem map_eq_ok_iff {view : Value → Image} {image : Image} :
    attempt.map view = .ok image ↔ ∃ value, attempt = .ok value ∧ view value = image := by
  cases attempt <;> simp [Except.map]

theorem bind_eq_ok_iff {further : Value → Except Fault Image} {image : Image} :
    attempt.bind further = .ok image ↔
      ∃ value, attempt = .ok value ∧ further value = .ok image := by
  cases attempt <;> simp [Except.bind]

theorem mapError_eq_ok_iff {report : Fault → Image} {value : Value} :
    attempt.mapError report = .ok value ↔ attempt = .ok value := by
  cases attempt with
  | error fault => exact ⟨nofun, nofun⟩
  | ok made => exact ⟨fun same => congrArg _ (Except.ok.inj same),
      fun same => congrArg _ (Except.ok.inj same)⟩

end Attempt
end GraphFixture
