import Tassis.RedisBroker.Acks

/-! # Deliveries in order

Batches overlap with what a subscriber has already been delivered, because they
start at the lowest offset of all subscribers of the stream. A subscriber moves
forward only as long as its filter keeps old messages out.
-/

namespace Tassis.RedisBroker

namespace Subscriber

/-- Deliveries are in order, and none of them is after the offset. -/
structure Ascending (sub : Subscriber) : Prop where
  sorted : sub.delivered.Pairwise (· < ·)
  bounded : ∀ id, id ∈ sub.delivered → id ≤ sub.offset.position

theorem Ascending.new (stream : Stream) (startingOffset : Offset) :
    (Subscriber.new stream startingOffset).Ascending where
  sorted := List.Pairwise.nil
  bounded id member := by cases member

variable {sub examined : Subscriber}

theorem Ascending.examine (ascending : sub.Ascending) (rejects : sub.FilterRejects)
    (examines : sub.examine = some examined) : examined.Ascending := by
  rcases examine_cases examines with ⟨msg, rest, loop, ⟨passed, _, rfl⟩ | ⟨_, rfl⟩⟩
  · have after : sub.offset.position < msg.id :=
      (rejects msg (by simp [upNext, loop])).position_lt passed
    have earlier : ∀ id, id ∈ sub.delivered → id < msg.id :=
      fun id member => lt_of_le_of_lt (ascending.bounded id member) after
    constructor
    · apply List.pairwise_append.mpr
      refine ⟨ascending.sorted, List.pairwise_singleton _ _, ?_⟩
      intro id member last isLast
      rw [List.mem_singleton.mp isLast]
      exact earlier id member
    · intro id member
      rcases List.mem_append.mp member with delivered | new
      · exact le_of_lt (earlier id delivered)
      · exact le_of_eq (List.mem_singleton.mp new)
  · exact ⟨ascending.sorted, ascending.bounded⟩

theorem offset_le_of_examine (rejects : sub.FilterRejects)
    (examines : sub.examine = some examined) :
    sub.offset.position ≤ examined.offset.position := by
  rcases examine_cases examines with ⟨msg, rest, loop, ⟨passed, _, rfl⟩ | ⟨_, rfl⟩⟩
  · exact le_of_lt ((rejects msg (by simp [upNext, loop])).position_lt passed)
  · exact le_refl _

end Subscriber

namespace Broker

variable {broker next : Broker} {action : Action}

/-- No filter takes an old message for a new one. -/
def FiltersReject (broker : Broker) : Action → Prop
  | .examine id => ∀ sub, sub ∈ broker.subscribers id → sub.FilterRejects
  | _ => True

instance (broker : Broker) (action : Action) : Decidable (broker.FiltersReject action) :=
  match action with
  | .examine id => inferInstanceAs (Decidable (∀ sub, sub ∈ broker.subscribers id → _))
  | .register _ | .gather _ | .publish .. | .trim .. | .readOffset .. | .close _ | .xread
  | .xreadFailed | .dispatch _ | .send | .skipClosed | .handOver | .processed _ | .recheck _
  | .stop _ | .deregister _ | .receive _ | .callAck .. | .processAcks .. | .restart =>
      isTrue trivial

/-- Every subscriber has been delivered its messages in order. -/
def InOrder (broker : Broker) : Prop :=
  ∀ id sub, broker.subscribers id = some sub → sub.Ascending

theorem InOrder.step (inOrder : broker.InOrder) (rejects : broker.FiltersReject action)
    (effect : Effect broker action next) : next.InOrder := by
  intro id sub found
  rcases effect.subscriber found with
    ⟨before, present, change⟩ | ⟨stream, startingOffset, _, _, rfl⟩
  · have ascending := inOrder id before present
    cases change with
    | examined isExamine examines =>
        subst action
        exact ascending.examine (rejects before present) examines
    | _ => exact ⟨ascending.sorted, ascending.bounded⟩
  · exact .new stream startingOffset

theorem InOrder.of_reaches (reaches : Reaches FiltersReject broker) : broker.InOrder := by
  have starts : initial.InOrder := by
    intro id sub present
    cases present
  apply Transition.Run.preserves reaches starts
  intro current action next _ inOrder rejects taken
  exact inOrder.step rejects (effect_of_step taken)

theorem offset_le_of_change (rejects : broker.FiltersReject action) {id : SubscriberID}
    {sub later : Subscriber} (present : broker.subscribers id = some sub)
    (change : Change broker action id sub later) :
    sub.offset.position ≤ later.offset.position := by
  cases change with
  | examined isExamine examines =>
      subst action
      exact Subscriber.offset_le_of_examine (rejects sub present) examines
  | _ => exact le_refl _

/-- In every run in which no filter takes an old message for a new one, the IDs
that a subscriber delivers are strictly increasing, and no step moves its
offset back. -/
theorem subscriber_never_goes_backwards (reaches : Reaches FiltersReject broker)
    {id : SubscriberID} {sub : Subscriber} (present : broker.subscribers id = some sub) :
    sub.delivered.Pairwise (· < ·) ∧
    ∀ action next later, broker.FiltersReject action → broker.step action = some next →
      next.subscribers id = some later → sub.offset.position ≤ later.offset.position := by
  refine ⟨(InOrder.of_reaches reaches id sub present).sorted, ?_⟩
  intro action next later rejects taken found
  rcases (effect_of_step taken).subscriber found with
    ⟨before, present', change⟩ | ⟨stream, startingOffset, _, joining, _⟩
  · cases present.symm.trans present'
    exact offset_le_of_change rejects present change
  · have unused := ((Wellformed.of_reaches reaches).joining id stream startingOffset joining).1
    rw [unused] at present
    cases present

/-! ## A second subscriber that lags behind -/

/-- Subscriber 1 is delivered all three messages before subscriber 2 joins at
the start of the stream, so that the next batch has them once more. -/
def overlappingBatch (first second third : MessageID) : List Action :=
  [.publish ['t'] first [], .publish ['t'] second [], .publish ['t'] third [],
    .readOffset 1 ['t'], .register 1, .gather [(['t'], [1])], .xread, .dispatch [[1]], .send,
    .handOver, .examine 1, .examine 1, .examine 1, .processed 1, .recheck 1, .send,
    .readOffset 2 ['t'], .register 2, .gather [(['t'], [2, 1])], .xread, .dispatch [[1, 2]],
    .send, .handOver, .examine 1, .examine 1, .examine 1]

/-- The second message of one millisecond is delivered again after the first
message of the next one, and the subscriber goes back to it. -/
theorem subscriber_goes_backwards :
    ∃ broker, Reaches Transition.anyStep broker ∧ ∃ sub, sub ∈ broker.subscribers 1 ∧
      sub.delivered = [⟨1, 0⟩, ⟨1, 1⟩, ⟨2, 0⟩, ⟨1, 1⟩, ⟨2, 0⟩] :=
  Transition.Run.exists_of_execute (overlappingBatch ⟨1, 0⟩ ⟨1, 1⟩ ⟨2, 0⟩) (by decide +kernel)

/-- Messages of three milliseconds are delivered once. -/
theorem subscriber_skips_old_messages :
    ∃ broker, Reaches FiltersReject broker ∧ ∃ sub, sub ∈ broker.subscribers 1 ∧
      sub.delivered = [⟨1, 0⟩, ⟨2, 0⟩, ⟨3, 0⟩] ∧ sub.loop = .processing [] ∧
      sub.delivered.Pairwise (· < ·) := by
  have run : ∃ broker, Reaches FiltersReject broker ∧ ∃ sub, sub ∈ broker.subscribers 1 ∧
      sub.delivered = [⟨1, 0⟩, ⟨2, 0⟩, ⟨3, 0⟩] ∧ sub.loop = .processing [] :=
    Transition.Run.exists_of_execute (overlappingBatch ⟨1, 0⟩ ⟨2, 0⟩ ⟨3, 0⟩)
      (by decide +kernel)
  rcases run with ⟨broker, reaches, sub, present, delivered, loop⟩
  exact ⟨broker, reaches, sub, present, delivered, loop,
    (subscriber_never_goes_backwards reaches present).1⟩

end Broker

end Tassis.RedisBroker
