/-
Results of steps that may fail, taken apart: a good result of several steps comes from a good
result of each.
-/

namespace Latchkey.Result

variable {ε δ α β : Type}

theorem bind_eq_ok {start : Except ε α} {next : α → Except ε β} {last : β}
    (done : (start >>= next) = .ok last) : ∃ value, start = .ok value ∧ next value = .ok last := by
  cases start with
  | error fault => cases done
  | ok value => exact ⟨value, rfl, done⟩

theorem mapError_eq_ok {outcome : Except ε α} {change : ε → δ} {value : α} :
    outcome.mapError change = .ok value ↔ outcome = .ok value := by
  cases outcome with
  | error failure => exact ⟨nofun, nofun⟩
  | ok other => exact ⟨fun same => by cases same; rfl, fun same => by cases same; rfl⟩

theorem toOption_eq_some {outcome : Except ε α} {value : α} :
    outcome.toOption = some value ↔ outcome = .ok value := by
  cases outcome <;> simp [Except.toOption]

end Latchkey.Result
