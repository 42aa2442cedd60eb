import Tassis.Foundation.Transition

/-! # Components and their contracts

A component is a transition system some of whose actions its users see, as events.
A contract says which events may happen, in terms of a state of its own. Users that
rely on the contract only may be given any component that implements it.
-/

namespace Tassis

universe u

/-- A transition system whose actions may be events for others. -/
structure Component (Event : Type u) where
  State : Type u
  Action : Type u
  initial : State
  step : State → Action → Option State
  event : State → Action → Option Event

/-- Which events may happen, and what they change. -/
structure Contract (Event : Type u) where
  State : Type u
  initial : State
  admits : State → Event → Prop
  after : State → Event → State

namespace Component

variable {Event : Type u} {component : Component Event} {contract : Contract Event}

/-- Each action that is no event is hidden from the contract, and each event is
admitted by it. -/
structure Implements (component : Component Event) (contract : Contract Event)
    (relates : component.State → contract.State → Prop) : Prop where
  initial : relates component.initial contract.initial
  hidden : ∀ {current next action promised}, relates current promised →
    component.step current action = some next → component.event current action = none →
    relates next promised
  visible : ∀ {current next action promised event}, relates current promised →
    component.step current action = some next → component.event current action = some event →
    contract.admits promised event ∧ relates next (contract.after promised event)

/-- A component implements a contract if the states that satisfy an invariant have
an abstraction that changes with the events. -/
theorem implements_of_abstraction (abstract : component.State → contract.State)
    (invariant : component.State → Prop) (starts : invariant component.initial)
    (startsAs : abstract component.initial = contract.initial)
    (preserved : ∀ {current next action}, invariant current →
      component.step current action = some next → invariant next)
    (hidden : ∀ {current next action}, invariant current →
      component.step current action = some next → component.event current action = none →
      abstract next = abstract current)
    (visible : ∀ {current next action event}, invariant current →
      component.step current action = some next → component.event current action = some event →
      contract.admits (abstract current) event ∧
        abstract next = contract.after (abstract current) event) :
    component.Implements contract fun current promised =>
      invariant current ∧ promised = abstract current where
  initial := ⟨starts, startsAs.symm⟩
  hidden := by
    rintro current next action promised ⟨holds, rfl⟩ taken silent
    exact ⟨preserved holds taken, (hidden holds taken silent).symm⟩
  visible := by
    rintro current next action promised event ⟨holds, rfl⟩ taken shows
    have seen := visible holds taken shows
    exact ⟨seen.1, preserved holds taken, seen.2.symm⟩

end Component

end Tassis
