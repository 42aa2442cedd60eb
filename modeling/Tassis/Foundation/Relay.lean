import Mathlib.Data.List.Infix

/-! # Relays

A relay takes items from a queue and writes them to a channel that may break off.
What was taken is an initial part of what was put into the queue, and what was
written is an initial part of what was taken, so that along a chain of relays nothing
is reordered or repeated and only a final part can get lost.
-/

namespace Tassis

universe u v

variable {α : Type u} {β : Type v}

/-! ## Queues -/

/-- What was passed on of all that was put into a queue. Whoever takes from the queue
may stop, with the last item they took. -/
structure Drained (all passed left : List α) (stopped : Prop) : Prop where
  initial : passed <+: all
  complete : ¬stopped → all = passed ++ left

namespace Drained

variable {all passed left : List α} {stopped stopped' : Prop}

theorem empty (stopped : Prop) : Drained ([] : List α) [] [] stopped :=
  ⟨List.prefix_rfl, fun _ => rfl⟩

theorem put (drained : Drained all passed left stopped) (item : α) :
    Drained (all ++ [item]) passed (left ++ [item]) stopped where
  initial := drained.initial.trans (List.prefix_append _ _)
  complete running := by rw [drained.complete running, List.append_assoc]

theorem take {item : α} {rest : List α} (drained : Drained all passed (item :: rest) stopped)
    (running : ¬stopped) : Drained all (passed ++ [item]) rest stopped' := by
  have complete := drained.complete running
  rw [List.append_cons] at complete
  exact ⟨⟨rest, complete.symm⟩, fun _ => complete⟩

/-- After the end the contents of the queue do not matter. -/
theorem stop (drained : Drained all passed left stopped) (left' : List α) (isStopped : stopped') :
    Drained all passed left' stopped' where
  initial := drained.initial
  complete running := absurd isStopped running

/-- Whoever has not stopped may stop later. -/
theorem running (drained : Drained all passed left stopped) (running : ¬stopped) :
    Drained all passed left stopped' where
  initial := drained.initial
  complete _ := drained.complete running

end Drained

/-! ## Channels -/

/-- What was written of all that was due, up to the item in hand. After the channel is
closed nothing more is written. -/
structure Written (due written : List α) (inHand : Option α) (closed : Prop) : Prop where
  initial : written <+: due
  complete : ¬closed → due = written ++ inHand.toList

namespace Written

variable {due written : List α} {inHand : Option α} {closed closed' : Prop} {item : α}

theorem empty (closed : Prop) : Written ([] : List α) [] none closed :=
  ⟨List.prefix_rfl, fun _ => rfl⟩

theorem take (holds : Written due written none closed) (item : α) :
    Written (due ++ [item]) written (some item) closed where
  initial := holds.initial.trans (List.prefix_append _ _)
  complete isOpen := by
    rw [holds.complete isOpen]
    simp

theorem write (holds : Written due written (some item) closed) (isOpen : ¬closed) :
    Written due (written ++ [item]) none closed' where
  initial := by
    rw [holds.complete isOpen]
    exact List.prefix_rfl
  complete _ := by
    rw [holds.complete isOpen]
    simp

/-- The channel is closed, and the item in hand is given up or kept. -/
theorem close (holds : Written due written inHand closed) (inHand' : Option α)
    (isClosed : closed') : Written due written inHand' closed' where
  initial := holds.initial
  complete isOpen := absurd isClosed isOpen

end Written

/-! ## Decoding -/

theorem filterMap_concat {encode : α → Option β} {item : α} {code : β}
    (encoded : encode item = some code) (items : List α) :
    (items ++ [item]).filterMap encode = items.filterMap encode ++ [code] := by
  simp [encoded]

/-- Messages that were encoded one by one are decoded in the same order. -/
theorem filterMap_of_encoded {encode : α → Option β} {decode : β → Option α}
    (roundTrip : ∀ item code, encode item = some code → decode code = some item)
    (items : List α) :
    (items.filterMap encode).filterMap decode = items.filter fun item => (encode item).isSome := by
  induction items with
  | nil => rfl
  | cons item items induction =>
      cases encoded : encode item with
      | none => simpa [encoded] using induction
      | some code => simpa [encoded, roundTrip item code encoded] using induction

end Tassis
