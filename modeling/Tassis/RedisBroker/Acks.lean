import Mathlib.Order.Bounds.Basic
import Tassis.RedisBroker.Wellformed

/-! # Acknowledgements

Acknowledgements of single messages are collapsed into one stored offset per
stream. This file shows what the stored offset means: what is not acknowledged
lies after it as long as consumers acknowledge in stream order, and it is the
greatest acknowledged ID as long as the two comparators agree with Redis.
-/

namespace Tassis.RedisBroker

namespace Broker

variable {broker next : Broker} {action : Action}

/-! ## Unacknowledged messages -/

/-- The acker of every entry up to `id` has been called. -/
def Acknowledged (broker : Broker) (stream : Stream) (id : MessageID) : Prop :=
  ∀ entry, entry ∈ broker.streams stream → entry.id ≤ id →
    entry.id ∈ broker.ackCalled stream

theorem Acknowledged.step {stream : Stream} {id : MessageID}
    (acknowledged : broker.Acknowledged stream id) (effect : Effect broker action next)
    (bound : id ≤ broker.lastID stream) : next.Acknowledged stream id := by
  intro entry member upTo
  rcases effect.extends.entries stream entry member with existing | new
  · exact effect.ackCalled (acknowledged entry existing upTo)
  · exact absurd (upTo.trans bound) (not_le.mpr new)

/-- A consumer calls an acker only after those of all earlier entries. -/
def AcksInOrder (broker : Broker) : Action → Prop
  | .callAck id offset =>
      ∀ sub, sub ∈ broker.subscribers id → ∀ entry, entry ∈ broker.streams sub.stream →
        entry.id < offset → entry.id ∈ broker.ackCalled sub.stream
  | _ => True

instance (broker : Broker) (action : Action) : Decidable (broker.AcksInOrder action) := by
  cases action <;> unfold AcksInOrder <;> infer_instance

/-- No offset from which reading may start or restart lies beyond a message
that is not acknowledged. -/
structure KeepsUnacked (broker : Broker) : Prop where
  start : ∀ stream, broker.Acknowledged stream MessageID.zero
  stored : ∀ stream id, broker.offsets stream = some id → broker.Acknowledged stream id
  pending : ∀ ack, ack ∈ broker.acks → broker.Acknowledged ack.stream ack.offset
  joining : ∀ id stream offset, broker.joining id = some (stream, offset) →
    broker.Acknowledged stream offset.position
  subscriber : ∀ id sub, broker.subscribers id = some sub →
    broker.Acknowledged sub.stream sub.startingOffset.position

namespace KeepsUnacked

theorem initial : KeepsUnacked Broker.initial where
  start stream entry member := by cases member
  stored stream id stored := by cases stored
  pending ack member := by cases member
  joining id stream offset joining := by cases joining
  subscriber id sub present := by cases present

theorem startingOffset (keeps : KeepsUnacked broker) (stream : Stream) :
    broker.Acknowledged stream (broker.startingOffset stream).position := by
  cases stored : broker.offsets stream with
  | none => simpa [Broker.startingOffset, stored, Offset.position] using keeps.start stream
  | some id => simpa [Broker.startingOffset, stored] using keeps.stored stream id stored

/-- Calling an acker in order acknowledges everything up to its message. -/
theorem acknowledged_callAck {id : SubscriberID} {sub : Subscriber} {offset : MessageID}
    (inOrder : broker.AcksInOrder (.callAck id offset))
    (present : broker.subscribers id = some sub) :
    (broker.callAck sub.stream offset).Acknowledged sub.stream offset := by
  intro entry member upTo
  simp only [Broker.callAck, Function.update_self, List.mem_append, List.mem_singleton]
  rcases lt_or_eq_of_le upTo with before | equal
  · exact Or.inl (inOrder sub present entry member before)
  · exact Or.inr equal

theorem step (keeps : KeepsUnacked broker) (wellformed : Wellformed broker)
    (inOrder : broker.AcksInOrder action) (effect : Effect broker action next) :
    KeepsUnacked next where
  start stream := (keeps.start stream).step effect (MessageID.zero_le _)
  stored stream id stored := by
    rcases effect.stored stored with earlier | pending
    · exact (keeps.stored stream id earlier).step effect
        (wellformed.stored stream id earlier)
    · exact (keeps.pending _ pending).step effect (wellformed.pending _ pending)
  pending ack member := by
    rcases effect.pending member with earlier | ⟨id, sub, rfl, present, ofStream, _⟩
    · exact (keeps.pending ack earlier).step effect (wellformed.pending ack earlier)
    · cases effect with
      | callAck present' received =>
          rw [present] at present'
          cases present'
          rw [← ofStream]
          exact acknowledged_callAck inOrder present
  joining id stream offset joining := by
    rcases effect.joining joining with earlier | ⟨_, _, call⟩
    · exact (keeps.joining id stream offset earlier).step effect
        (wellformed.joining id stream offset earlier).2
    · simp only [Prod.mk.injEq, true_and] at call
      rw [call]
      exact (keeps.startingOffset stream).step effect (wellformed.startingOffset_le stream)
  subscriber id sub found := by
    rcases effect.subscriber found with
      ⟨before, present, change⟩ | ⟨stream, startingOffset, _, joining, rfl⟩
    · rw [change.progress.stream, change.progress.startingOffset]
      exact (keeps.subscriber id before present).step effect
        (wellformed.subscriber id before present).startingOffset
    · exact (keeps.joining id stream startingOffset joining).step effect
        (wellformed.joining id stream startingOffset joining).2

theorem of_reaches (reaches : Reaches AcksInOrder broker) : KeepsUnacked broker :=
  Transition.Run.preserves reaches initial fun _ _ _ reached keeps inOrder taken =>
    keeps.step (Wellformed.of_reaches reached) inOrder (effect_of_step taken)

end KeepsUnacked

/-- While consumers acknowledge in order, a message that is still in its stream
and whose acker was never called lies after the offset at which any subscriber
starts, has started or is about to start, restarts included. -/
theorem unacked_after_startingOffset (reaches : Reaches AcksInOrder broker)
    {stream : Stream} {entry : Message} (member : entry ∈ broker.streams stream)
    (unacked : entry.id ∉ broker.ackCalled stream) :
    (broker.startingOffset stream).position < entry.id ∧
      (∀ id offset, broker.joining id = some (stream, offset) →
        offset.position < entry.id) ∧
      ∀ id sub, broker.subscribers id = some sub → sub.stream = stream →
        sub.startingOffset.position < entry.id := by
  have keeps := KeepsUnacked.of_reaches reaches
  have after : ∀ offset, broker.Acknowledged stream offset → offset < entry.id :=
    fun offset acknowledged => not_le.mp fun upTo => unacked (acknowledged entry member upTo)
  refine ⟨after _ (keeps.startingOffset stream), ?_, ?_⟩
  · intro id offset joining
    exact after _ (keeps.joining id stream offset joining)
  · rintro id sub present rfl
    exact after _ (keeps.subscriber id sub present)

/-- A subscriber receives two messages. -/
def twoReceived : List Action :=
  [.publish ['t'] ⟨1, 0⟩ [], .publish ['t'] ⟨2, 0⟩ [], .readOffset 1 ['t'], .register 1,
    .gather [(['t'], [1])], .xread, .dispatch [[1]], .send, .handOver, .examine 1,
    .examine 1, .processed 1, .recheck 1, .send, .receive 1, .receive 1]

/-- One of the messages is acknowledged, and after a restart a new subscriber
joins. -/
def ackAndRestart (offset : MessageID) : List Action :=
  [.callAck 1 offset, .processAcks 0 [['t']], .restart, .readOffset 2 ['t'], .register 2]

/-- The first message was never acknowledged, yet after the acknowledgement of
the second one a new subscriber starts after both. -/
theorem unacked_skipped_after_restart :
    ∃ broker, Reaches Transition.anyStep broker ∧
      ⟨⟨1, 0⟩, []⟩ ∈ broker.streams ['t'] ∧ ⟨1, 0⟩ ∉ broker.ackCalled ['t'] ∧
      ∃ sub, sub ∈ broker.subscribers 2 ∧ sub.stream = ['t'] ∧
        ¬sub.startingOffset.position < ⟨1, 0⟩ :=
  Transition.Run.exists_of_execute (twoReceived ++ ackAndRestart ⟨2, 0⟩) (by decide)

/-- After the acknowledgement of the first message the second one is kept. -/
theorem unacked_kept_after_restart :
    ∃ broker, Reaches AcksInOrder broker ∧
      ⟨⟨2, 0⟩, []⟩ ∈ broker.streams ['t'] ∧ ⟨2, 0⟩ ∉ broker.ackCalled ['t'] ∧
      ∃ sub, broker.subscribers 2 = some sub ∧ sub.startingOffset.position < ⟨2, 0⟩ := by
  have run : ∃ broker, Reaches AcksInOrder broker ∧
      ⟨⟨2, 0⟩, []⟩ ∈ broker.streams ['t'] ∧ ⟨2, 0⟩ ∉ broker.ackCalled ['t'] ∧
      ∃ sub, sub ∈ broker.subscribers 2 ∧ sub.stream = ['t'] :=
    Transition.Run.exists_of_execute (twoReceived ++ ackAndRestart ⟨1, 0⟩) (by decide)
  rcases run with ⟨broker, reaches, member, unacked, sub, present, ofStream⟩
  refine ⟨broker, reaches, member, unacked, sub, present, ?_⟩
  exact (unacked_after_startingOffset reaches member unacked).2.2 2 sub present ofStream

/-! ## The stored offset -/

/-- Nothing is stored until something has been acknowledged, and the greatest
acknowledged ID from then on. -/
def StoresGreatest (stored : Option MessageID) (acked : List MessageID) : Prop :=
  match stored with
  | none => acked = []
  | some id => IsGreatest {other | other ∈ acked} id

/-- The comparator of the broker finds the greatest ID of a batch if it orders each ID
and the later ones as Redis does. -/
theorem isGreatest_highestOffset {ids : List MessageID} {highest : MessageID}
    (compares : ids.Pairwise MessageID.Compares)
    (selected : highestOffset ids = some highest) :
    IsGreatest {id | id ∈ ids} highest := by
  refine ⟨highestOffset_mem selected, ?_⟩
  intro id member
  have decides : ids.Pairwise fun earlier later =>
      (offsetLessThan earlier.text later.text = true ↔
        OrderDual.toDual later < OrderDual.toDual earlier) :=
    compares.imp MessageID.compares_iff.mp
  exact selectBy.le_of_mem decides selected id member

theorem ackScript_eq_max {old new : MessageID} (agrees : MessageID.LuaAgrees new old) :
    ackScript (some old) new = max old new := by
  have decides := MessageID.luaAgrees_iff.mp agrees
  by_cases greater : old < new
  · simp [ackScript, decides, greater, max_eq_right (le_of_lt greater)]
  · simp [ackScript, decides, greater, max_eq_left (not_lt.mp greater)]

/-- Both comparators order a batch, each ID and the later ones, and the stored offset as
Redis does. -/
def BatchAgrees (stored : Option MessageID) (ids : List MessageID) : Prop :=
  ids.Pairwise MessageID.Compares ∧
    ∀ old, old ∈ stored → ∀ highest, highest ∈ ids → (∀ id, id ∈ ids → id ≤ highest) →
      MessageID.LuaAgrees highest old

instance (stored : Option MessageID) (ids : List MessageID) :
    Decidable (BatchAgrees stored ids) :=
  inferInstanceAs (Decidable (_ ∧ _))

theorem StoresGreatest.batch {stored : Option MessageID} {acked ids : List MessageID}
    (stores : StoresGreatest stored acked) (agrees : BatchAgrees stored ids) :
    StoresGreatest (storedAfter stored ids) (acked ++ ids) := by
  cases selected : highestOffset ids with
  | none =>
      have empty : ids = [] := by
        by_contra nonempty
        rcases selectBy.exists_of_ne_nil nonempty with ⟨highest, found⟩
        exact Option.some_ne_none highest (found.symm.trans selected)
      subst ids
      simpa [storedAfter, selected] using stores
  | some highest =>
      have greatest := isGreatest_highestOffset agrees.1 selected
      cases stored with
      | none =>
          have nothing : acked = [] := stores
          simpa [storedAfter, selected, ackScript, StoresGreatest, nothing] using greatest
      | some old =>
          have lua := agrees.2 old rfl highest greatest.1 fun id member => greatest.2 member
          have union : {id | id ∈ acked ++ ids} = {id | id ∈ acked} ∪ {id | id ∈ ids} := by
            ext id
            simp
          simp only [storedAfter, selected, ackScript_eq_max lua, StoresGreatest, union]
          exact IsGreatest.union stores greatest

end Broker

namespace Subscriber

/-- The filter lets no message pass that is not after the offset. -/
def FilterRejects (sub : Subscriber) : Prop :=
  ∀ msg, msg ∈ sub.upNext → sub.offset.Discerns msg.id

instance (sub : Subscriber) : Decidable sub.FilterRejects :=
  inferInstanceAs (Decidable (∀ msg, msg ∈ sub.upNext → _))

/-- The subscriber has only moved forward from its starting offset. -/
structure Ahead (sub : Subscriber) : Prop where
  offset : sub.startingOffset.position ≤ sub.offset.position
  delivered : ∀ id, id ∈ sub.delivered → sub.startingOffset.position < id

theorem Ahead.new (stream : Stream) (startingOffset : Offset) :
    (Subscriber.new stream startingOffset).Ahead where
  offset := le_refl _
  delivered id member := by simp [Subscriber.new] at member

theorem Ahead.examine {sub examined : Subscriber} (ahead : sub.Ahead)
    (rejects : sub.FilterRejects) (examines : sub.examine = some examined) :
    examined.Ahead := by
  rcases examine_cases examines with ⟨msg, rest, loop, ⟨passed, _, rfl⟩ | ⟨_, rfl⟩⟩
  · have after : sub.startingOffset.position < msg.id :=
      lt_of_le_of_lt ahead.offset ((rejects msg (by simp [upNext, loop])).position_lt passed)
    constructor
    · exact le_of_lt after
    · intro id member
      rcases List.mem_append.mp member with earlier | new
      · exact ahead.delivered id earlier
      · exact List.mem_singleton.mp new ▸ after
  · exact ⟨ahead.offset, ahead.delivered⟩

end Subscriber

namespace Broker

variable {broker next later : Broker} {action : Action}

/-- The comparators order as Redis does whatever this step compares. -/
def ComparatorsAgree (broker : Broker) : Action → Prop
  | .processAcks additional executed =>
      ∀ stream, stream ∈ executed → BatchAgrees (broker.offsets stream)
        (acksByStream (broker.acks.take (additional + 1)) stream)
  | .examine id => ∀ sub, sub ∈ broker.subscribers id → sub.FilterRejects
  | _ => True

instance (broker : Broker) (action : Action) :
    Decidable (broker.ComparatorsAgree action) := by
  cases action <;> unfold ComparatorsAgree <;> infer_instance

structure OffsetsInOrder (broker : Broker) : Prop where
  stored : ∀ stream, StoresGreatest (broker.offsets stream) (broker.acked stream)
  subscriber : ∀ id sub, broker.subscribers id = some sub → sub.Ahead

namespace OffsetsInOrder

theorem initial : OffsetsInOrder Broker.initial where
  stored stream := rfl
  subscriber id sub present := by cases present

theorem step (inOrder : OffsetsInOrder broker) (agree : broker.ComparatorsAgree action)
    (effect : Effect broker action next) : OffsetsInOrder next where
  stored stream := by
    cases effect with
    | @processAcks additional executed pending =>
        by_cases runs : stream ∈ executed
        · simpa [Broker.processAcks, executeAcks, runs] using
            (inOrder.stored stream).batch (agree stream runs)
        · simpa [Broker.processAcks, executeAcks, runs] using inOrder.stored stream
    | _ => exact inOrder.stored stream
  subscriber id sub found := by
    rcases effect.subscriber found with
      ⟨before, present, change⟩ | ⟨stream, startingOffset, _, _, rfl⟩
    · have ahead := inOrder.subscriber id before present
      cases change with
      | examined isExamine examines =>
          subst action
          exact ahead.examine (agree before present) examines
      | _ => exact ⟨ahead.offset, ahead.delivered⟩
    · exact .new stream startingOffset

theorem of_reaches (reaches : Reaches ComparatorsAgree broker) : OffsetsInOrder broker :=
  Transition.Run.preserves reaches initial fun _ _ _ _ inOrder agree taken =>
    inOrder.step agree (effect_of_step taken)

/-- A new subscriber starts no earlier than at any acknowledged ID. -/
theorem acked_le_startingOffset (inOrder : OffsetsInOrder broker) {stream : Stream}
    {id : MessageID} (acked : id ∈ broker.acked stream) :
    id ≤ (broker.startingOffset stream).position := by
  have stores := inOrder.stored stream
  cases stored : broker.offsets stream with
  | none =>
      rw [stored] at stores
      have nothing : broker.acked stream = [] := stores
      rw [nothing] at acked
      cases acked
  | some greatest =>
      rw [stored] at stores
      simpa [startingOffset, stored] using stores.2 acked

end OffsetsInOrder

/-- The acknowledged IDs accumulate along a run. -/
theorem acked_of_run {permitted : Broker → Action → Prop} {stream : Stream} {id : MessageID}
    (run : Transition.Run step permitted broker later) (acked : id ∈ broker.acked stream) :
    id ∈ later.acked stream := by
  apply run.preserves acked
  intro _ _ _ _ acked _ taken
  exact (effect_of_step taken).acked acked

/-- The stored offset never decreases along a run. -/
theorem stored_le_of_run (reaches : Reaches ComparatorsAgree broker)
    (run : Transition.Run step ComparatorsAgree broker later) {stream : Stream}
    {id : MessageID} (stored : broker.offsets stream = some id) :
    ∃ greater, later.offsets stream = some greater ∧ id ≤ greater := by
  have stores := (OffsetsInOrder.of_reaches reaches).stored stream
  have storesLater := (OffsetsInOrder.of_reaches (reaches.trans run)).stored stream
  rw [stored] at stores
  have acked := acked_of_run run stores.1
  cases storedLater : later.offsets stream with
  | none =>
      rw [storedLater] at storesLater
      have nothing : later.acked stream = [] := storesLater
      rw [nothing] at acked
      cases acked
  | some greater =>
      rw [storedLater] at storesLater
      exact ⟨greater, rfl, storesLater.2 acked⟩

/-- The calls and the subscriber of one identity start no earlier than at the
IDs that `earlier` has acknowledged. -/
structure StartsAfter (earlier : Broker) (id : SubscriberID) (broker : Broker) : Prop where
  joining : ∀ stream offset, broker.joining id = some (stream, offset) →
    ∀ acked, acked ∈ earlier.acked stream → acked ≤ offset.position
  subscriber : ∀ sub, broker.subscribers id = some sub →
    ∀ acked, acked ∈ earlier.acked sub.stream → acked ≤ sub.startingOffset.position

/-- A subscriber created after some state starts after what was acknowledged in
that state. -/
theorem startsAfter_of_run (reaches : Reaches ComparatorsAgree broker)
    (run : Transition.Run step ComparatorsAgree broker later) {id : SubscriberID}
    (notJoining : broker.joining id = none) (unused : broker.subscribers id = none) :
    StartsAfter broker id later := by
  refine run.preserves ⟨by simp [notJoining], by simp [unused]⟩ ?_
  intro current action next run starts _ taken
  have effect := effect_of_step taken
  constructor
  · intro stream offset joining acked member
    rcases effect.joining joining with existing | ⟨_, _, call⟩
    · exact starts.joining stream offset existing acked member
    · simp only [Prod.mk.injEq, true_and] at call
      rw [call]
      exact (OffsetsInOrder.of_reaches (reaches.trans run)).acked_le_startingOffset
        (acked_of_run run member)
  · intro sub found acked member
    rcases effect.subscriber found with
      ⟨before, present, change⟩ | ⟨stream, startingOffset, _, joining, rfl⟩
    · rw [change.progress.stream] at member
      rw [change.progress.startingOffset]
      exact starts.subscriber before present acked member
    · exact starts.joining stream startingOffset joining acked member

/-- In every run whose comparisons agree with Redis, the stored offset is the
greatest acknowledged ID, it never decreases, and no acknowledged message is
delivered to a subscriber created later. -/
theorem stored_offset_greatest (reaches : Reaches ComparatorsAgree broker) (stream : Stream) :
    StoresGreatest (broker.offsets stream) (broker.acked stream) ∧
      ∀ later, Transition.Run step ComparatorsAgree broker later →
        (∀ id, broker.offsets stream = some id →
          ∃ greater, later.offsets stream = some greater ∧ id ≤ greater) ∧
        ∀ id sub, broker.joining id = none → broker.subscribers id = none →
          later.subscribers id = some sub → sub.stream = stream →
            ∀ acked, acked ∈ broker.acked stream → acked ∉ sub.delivered := by
  refine ⟨(OffsetsInOrder.of_reaches reaches).stored stream, ?_⟩
  intro later run
  constructor
  · intro id stored
    exact stored_le_of_run reaches run stored
  · rintro id sub notJoining unused present rfl acked member delivered
    have starts := startsAfter_of_run reaches run notJoining unused
    have ahead := (OffsetsInOrder.of_reaches (reaches.trans run)).subscriber id sub present
    have before := starts.subscriber sub present acked member
    exact absurd (ahead.delivered acked delivered) (not_lt.mpr before)

/-- A subscriber receives two messages of one millisecond and one of the next. -/
def threeReceived : List Action :=
  [.publish ['t'] ⟨1, 0⟩ [], .publish ['t'] ⟨1, 1⟩ [], .publish ['t'] ⟨2, 0⟩ [],
    .readOffset 1 ['t'], .register 1, .gather [(['t'], [1])], .xread, .dispatch [[1]],
    .send, .handOver, .examine 1, .examine 1, .examine 1, .processed 1, .recheck 1, .send,
    .receive 1, .receive 1, .receive 1]

/-- Of a batch with two acknowledgements, the broker submits the smaller one. -/
theorem smaller_offset_stored :
    ∃ broker, Reaches Transition.anyStep broker ∧
      broker.acked ['t'] = [⟨2, 0⟩, ⟨1, 1⟩] ∧ broker.offsets ['t'] = some ⟨1, 1⟩ :=
  Transition.Run.exists_of_execute
    (threeReceived ++ [.callAck 1 ⟨2, 0⟩, .callAck 1 ⟨1, 1⟩, .processAcks 1 [['t']]])
    (by decide)

/-- Acknowledged one at a time in stream order, the greater one is stored. -/
theorem greater_offset_stored :
    ∃ broker, Reaches ComparatorsAgree broker ∧
      broker.acked ['t'] = [⟨1, 1⟩, ⟨2, 0⟩] ∧
      StoresGreatest (broker.offsets ['t']) (broker.acked ['t']) := by
  have run : ∃ broker, Reaches ComparatorsAgree broker ∧
      broker.acked ['t'] = [⟨1, 1⟩, ⟨2, 0⟩] :=
    Transition.Run.exists_of_execute (threeReceived ++
      [.callAck 1 ⟨1, 1⟩, .processAcks 0 [['t']], .callAck 1 ⟨2, 0⟩, .processAcks 0 [['t']]])
      (by decide)
  rcases run with ⟨broker, reaches, acked⟩
  exact ⟨broker, reaches, acked, (stored_offset_greatest reaches ['t']).1⟩

end Broker

end Tassis.RedisBroker
