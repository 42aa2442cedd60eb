import Mathlib.Data.List.Basic
import Mathlib.Data.List.Nodup

/-! # The order of events

A list of events in the order in which they happened. Whoever follows events to later
ones comes to an end.
-/

namespace Tassis

universe u

variable {α : Type u} {events : List α} {event earlier later : α}

/-- One event happened before another. -/
def Precedes (events : List α) (earlier later : α) : Prop :=
  ∃ before after, events = before ++ earlier :: after ∧ later ∈ after

theorem Precedes.append (precedes : Precedes events earlier later) (added : List α) :
    Precedes (events ++ added) earlier later := by
  rcases precedes with ⟨before, after, rfl, member⟩
  exact ⟨before, after ++ added, by simp, List.mem_append_left _ member⟩

/-- The last event comes after all others. -/
theorem precedes_last (member : earlier ∈ events) (last : α) :
    Precedes (events ++ [last]) earlier last := by
  rcases List.append_of_mem member with ⟨before, after, rfl⟩
  exact ⟨before, after ++ [last], by simp, by simp⟩

/-- What holds of an event if it holds of all later ones holds of every event. -/
theorem Precedes.induction {motive : α → Prop} (nodup : events.Nodup)
    (step : ∀ event, event ∈ events →
      (∀ later, Precedes events event later → motive later) → motive event)
    (member : event ∈ events) : motive event := by
  have suffix (after : List α) : ∀ before, events = before ++ after →
      ∀ event, event ∈ after → motive event := by
    induction after with
    | nil =>
        intro before split event member
        cases member
    | cons first after induction =>
        intro before split
        have rest := induction (before ++ [first]) (by rw [split, List.append_cons])
        have firstHolds : motive first := by
          apply step first (by simp [split])
          rintro later ⟨before', after', split', member⟩
          -- Without duplicates, the list can be split at the event in one way only.
          rw [split] at nodup split'
          have fresh := (List.nodup_cons.mp (List.nodup_middle.mp nodup)).1
          rw [List.mem_append, not_or] at fresh
          have parts := (List.append_cons_inj_of_notMem fresh.1 fresh.2).mp split'
          exact rest later (parts.2.2 ▸ member)
        intro event member
        rcases List.mem_cons.mp member with rfl | member
        · exact firstHolds
        · exact rest event member
  exact suffix events [] rfl event member

end Tassis
