import Tassis.Foundation.Transition

/-! # Recorded runs

A run with the list of all actions that were taken, for properties that speak of
what has happened before.
-/

namespace Tassis.Transition

universe u v

variable {State : Type u} {Action : Type v}

/-- A state, and the actions that have led to it, latest first. -/
structure Record (State : Type u) (Action : Type v) where
  state : State
  log : List Action

/-- A step that is recorded. -/
def record (step : State → Action → Option State) (current : Record State Action)
    (action : Action) : Option (Record State Action) :=
  (step current.state action).map fun next => ⟨next, action :: current.log⟩

variable {step : State → Action → Option State} {initial : State}

theorem of_record {current next : Record State Action} {action : Action}
    (taken : record step current action = some next) :
    step current.state action = some next.state ∧ next.log = action :: current.log := by
  rcases Option.map_eq_some_iff.mp taken with ⟨state, performed, rfl⟩
  exact ⟨performed, rfl⟩

/-- A recorded run is a run. -/
theorem Run.unrecorded {final : Record State Action}
    (run : Run (record step) anyStep ⟨initial, []⟩ final) :
    Run step anyStep initial final.state :=
  run.project Record.state fun _ _ _ taken => (of_record taken).1

/-- Every run can be recorded. -/
theorem Run.recorded {final : State} (run : Run step anyStep initial final) :
    ∃ log, Run (record step) anyStep ⟨initial, []⟩ ⟨final, log⟩ := by
  induction run with
  | refl => exact ⟨[], .refl _⟩
  | @tail current next _ taken rest =>
      rcases taken with ⟨action, _, taken⟩
      rcases rest with ⟨log, reached⟩
      have recorded : record step ⟨current, log⟩ action = some ⟨next, action :: log⟩ := by
        rw [record, taken]
        rfl
      exact ⟨action :: log, reached.tail trivial recorded⟩

end Tassis.Transition
