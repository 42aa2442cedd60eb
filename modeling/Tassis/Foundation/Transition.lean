import Mathlib.Logic.Function.Basic
import Mathlib.Logic.Relation

/-! # Transition systems

Runs of a step function whose actions are chosen by the environment. An action
that is not enabled is refused. Every invariant of the development is carried
along a run by the induction in this file.
-/

namespace Tassis

universe u v w

/-! ## Tables

What is found in a table after a step that has written one entry.
-/

section Updates

variable {α : Type u} {β : Type v} [DecidableEq α] {f : α → Option β} {a b : α} {x y : β}

theorem of_update_none (found : Function.update f a none b = some x) : b ≠ a ∧ f b = some x := by
  by_cases same : b = a
  · rw [same, Function.update_self] at found
    cases found
  · rw [Function.update_of_ne same] at found
    exact ⟨same, found⟩

theorem of_update_some (found : Function.update f a (some y) b = some x) :
    b = a ∧ x = y ∨ b ≠ a ∧ f b = some x := by
  by_cases same : b = a
  · rw [same, Function.update_self, Option.some.injEq] at found
    exact Or.inl ⟨same, found.symm⟩
  · rw [Function.update_of_ne same] at found
    exact Or.inr ⟨same, found⟩

end Updates

namespace Transition

/-! ## Runs -/

variable {State : Type u} {Action : Type v}

/-- One step whose action meets a condition on the state before it. -/
def Permitted (step : State → Action → Option State)
    (permitted : State → Action → Prop) (current next : State) : Prop :=
  ∃ action, permitted current action ∧ step current action = some next

/-- Finitely many steps, each meeting the condition. -/
def Run (step : State → Action → Option State)
    (permitted : State → Action → Prop) : State → State → Prop :=
  Relation.ReflTransGen (Permitted step permitted)

/-- The condition that excludes no step. -/
def anyStep (_ : State) (_ : Action) : Prop := True

instance (state : State) (action : Action) : Decidable (anyStep state action) :=
  inferInstanceAs (Decidable True)

/-- Perform the actions in order, refusing the whole trace when one of them is
not permitted or not enabled. -/
def execute (step : State → Action → Option State)
    (permitted : State → Action → Prop)
    [∀ state action, Decidable (permitted state action)] :
    State → List Action → Option State
  | current, [] => some current
  | current, action :: rest =>
      if permitted current action then
        (step current action).bind fun next => execute step permitted next rest
      else none

variable {step : State → Action → Option State}
  {permitted : State → Action → Prop}

theorem execute_append [∀ state action, Decidable (permitted state action)]
    {first current : State} {earlier : List Action}
    (performed : execute step permitted first earlier = some current) (later : List Action) :
    execute step permitted first (earlier ++ later) = execute step permitted current later := by
  induction earlier generalizing first with
  | nil =>
      simp only [execute, Option.some.injEq] at performed
      rw [List.nil_append, performed]
  | cons action rest induction =>
      by_cases allowed : permitted first action
      · simp only [execute, if_pos allowed] at performed
        rcases Option.bind_eq_some_iff.mp performed with ⟨next, taken, performed⟩
        simp only [List.cons_append, execute, if_pos allowed, taken, Option.bind_some]
        exact induction performed
      · simp [execute, if_neg allowed] at performed

theorem execute_cons [∀ state action, Decidable (permitted state action)]
    {current next : State} {action : Action} (allowed : permitted current action)
    (taken : step current action = some next) (rest : List Action) :
    execute step permitted current (action :: rest) = execute step permitted next rest := by
  rw [execute, if_pos allowed, taken, Option.bind_some]

namespace Run

theorem refl (state : State) : Run step permitted state state :=
  Relation.ReflTransGen.refl

theorem trans {first second third : State} (earlier : Run step permitted first second)
    (later : Run step permitted second third) : Run step permitted first third :=
  Relation.ReflTransGen.trans earlier later

theorem tail {first current next : State} {action : Action}
    (run : Run step permitted first current) (allowed : permitted current action)
    (taken : step current action = some next) : Run step permitted first next :=
  Relation.ReflTransGen.tail run ⟨action, allowed, taken⟩

theorem single {current next : State} {action : Action} (allowed : permitted current action)
    (taken : step current action = some next) : Run step permitted current next :=
  (refl current).tail allowed taken

theorem head {current next final : State} {action : Action}
    (allowed : permitted current action) (taken : step current action = some next)
    (run : Run step permitted next final) : Run step permitted current final :=
  (single allowed taken).trans run

/-- What holds at the start and is preserved by each permitted step from a state
reached so far holds at the end of the run. -/
theorem preserves {invariant : State → Prop} {initial final : State}
    (run : Run step permitted initial final) (starts : invariant initial)
    (preserved : ∀ current action next, Run step permitted initial current →
      invariant current → permitted current action → step current action = some next →
      invariant next) : invariant final := by
  induction run with
  | refl => exact starts
  | tail reached taken holds =>
      rcases taken with ⟨action, allowed, taken⟩
      exact preserved _ action _ reached holds allowed taken

/-- A run under a condition is a run under each weaker condition. -/
theorem weaken {weaker : State → Action → Prop} {initial final : State}
    (run : Run step permitted initial final)
    (implied : ∀ state action, permitted state action → weaker state action) :
    Run step weaker initial final := by
  induction run with
  | refl => exact refl _
  | tail _ taken rest =>
      rcases taken with ⟨action, allowed, taken⟩
      exact rest.tail (implied _ _ allowed) taken

/-- A run with a record beside the state is a run without the record. -/
theorem project {Bare : Type w} {bareStep : Bare → Action → Option Bare} (bare : State → Bare)
    {initial final : State} (run : Run step permitted initial final)
    (commutes : ∀ current action next, step current action = some next →
      bareStep (bare current) action = some (bare next)) :
    Run bareStep anyStep (bare initial) (bare final) := by
  induction run with
  | refl => exact refl _
  | tail _ taken rest =>
      rcases taken with ⟨action, _, taken⟩
      exact rest.tail trivial (commutes _ action _ taken)

/-- If each step between related states is matched by a run of the other system,
then so is each run. -/
theorem refines {State' : Type u} {Action' : Type v} {step' : State' → Action' → Option State'}
    {permitted' : State' → Action' → Prop} {relates : State → State' → Prop}
    {initial final : State} {initial' : State'} (run : Run step permitted initial final)
    (starts : relates initial initial')
    (matched : ∀ current action next current', relates current current' →
      permitted current action → step current action = some next →
      ∃ next', Run step' permitted' current' next' ∧ relates next next') :
    ∃ final', Run step' permitted' initial' final' ∧ relates final final' := by
  induction run with
  | refl => exact ⟨initial', refl _, starts⟩
  | tail _ taken related =>
      rcases taken with ⟨action, allowed, taken⟩
      rcases related with ⟨current', reached, related⟩
      rcases matched _ action _ current' related allowed taken with ⟨next', run', related'⟩
      exact ⟨next', reached.trans run', related'⟩

/-- If from every state that has not arrived some run decreases a measure, then
a run arrives. -/
theorem arrives {invariant arrived : State → Prop} (measure : State → Nat)
    (progress : ∀ current, invariant current → ¬arrived current →
      ∃ later, Run step permitted current later ∧ invariant later ∧
        measure later < measure current)
    {initial : State} (starts : invariant initial) :
    ∃ final, Run step permitted initial final ∧ invariant final ∧ arrived final := by
  induction size : measure initial using Nat.strongRecOn generalizing initial with
  | ind bound induction =>
      by_cases already : arrived initial
      · exact ⟨initial, refl _, starts, already⟩
      · rcases progress initial starts already with ⟨later, run, holds, decreases⟩
        rcases induction (measure later) (size ▸ decreases) holds rfl with
          ⟨final, rest, arrives⟩
        exact ⟨final, run.trans rest, arrives⟩

/-- Performing a trace of permitted actions is a run. -/
theorem of_execute [∀ state action, Decidable (permitted state action)]
    {initial final : State} {trace : List Action}
    (performed : execute step permitted initial trace = some final) :
    Run step permitted initial final := by
  induction trace generalizing initial with
  | nil =>
      simp only [execute, Option.some.injEq] at performed
      exact performed ▸ refl initial
  | cons action rest induction =>
      by_cases allowed : permitted initial action
      · simp only [execute, if_pos allowed] at performed
        rcases Option.bind_eq_some_iff.mp performed with ⟨next, taken, performed⟩
        exact head allowed taken (induction performed)
      · simp [execute, if_neg allowed] at performed

/-- A trace whose last state passes a test shows that some state reached does. -/
theorem exists_of_execute [∀ state action, Decidable (permitted state action)]
    {initial : State} {property : State → Prop} [DecidablePred property]
    (trace : List Action)
    (passes : (execute step permitted initial trace).any (property ·) = true) :
    ∃ final, Run step permitted initial final ∧ property final := by
  rcases (Option.any_eq_true _ _).mp passes with ⟨final, performed, holds⟩
  exact ⟨final, of_execute performed, by simpa using holds⟩

end Run

end Transition

end Tassis
