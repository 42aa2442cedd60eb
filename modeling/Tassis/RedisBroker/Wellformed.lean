import Tassis.RedisBroker.Steps

/-! # Well-formed broker states

Invariants of every run, whatever the steps: streams are sorted, every ID that
is known anywhere lies within its stream, and the maps of registered
subscribers agree with the subscribers themselves.
-/

namespace Tassis.RedisBroker

/-- Every ID a subscriber holds lies within its stream, and what it was
delivered is what was received from it followed by what it still buffers. -/
structure Subscriber.Within (sub : Subscriber) (last : MessageID) : Prop where
  offset : sub.offset.position ≤ last
  startingOffset : sub.startingOffset.position ≤ last
  delivered : ∀ id, id ∈ sub.delivered → id ≤ last
  buffered : sub.delivered = sub.received ++ sub.messagesOut.map Message.id
  remaining : ∀ msgs, sub.loop = .processing msgs → ∀ msg, msg ∈ msgs → msg.id ≤ last

/-- The sends a dispatch still has to make. -/
def Reader.work : Reader → List (SubscriberID × List Message)
  | .dispatching work => work
  | .sending target msgs work => (target, msgs) :: work
  | .awaiting _ work => work
  | _ => []

theorem Reader.work_eq_nil_of_unlocked {reader : Reader} (unlocked : reader.locked = false) :
    reader.work = [] := by
  cases reader with
  | dispatching | sending | awaiting => simp [Reader.locked] at unlocked
  | _ => rfl

namespace Subscriber

/-- A later state of the same subscriber: its stream and starting offset stay
and its deliveries accumulate. -/
structure Progress (sub later : Subscriber) : Prop where
  stream : later.stream = sub.stream
  startingOffset : later.startingOffset = sub.startingOffset
  delivered : ∀ id, id ∈ sub.delivered → id ∈ later.delivered

/-- The message that the filter looks at next. -/
def upNext (sub : Subscriber) : Option Message :=
  match sub.loop with
  | .processing (msg :: _) => some msg
  | _ => none

/-- The two outcomes of one round of the loop over a batch. -/
theorem examine_cases {sub examined : Subscriber} (examines : sub.examine = some examined) :
    ∃ msg rest, sub.loop = .processing (msg :: rest) ∧
      (sub.offset.lessThan (.message msg.id) = true ∧
          sub.messagesOut.length < messagesOutCapacity ∧ examined = sub.deliver msg rest ∨
        sub.offset.lessThan (.message msg.id) = false ∧
          examined = { sub with loop := .processing rest }) := by
  unfold examine at examines
  split at examines
  · rename_i msg rest loop
    refine ⟨msg, rest, loop, ?_⟩
    by_cases passes : sub.offset.lessThan (.message msg.id) = true
    · rw [if_pos passes, Option.ite_none_right_eq_some] at examines
      exact Or.inl ⟨passes, examines.1, (Option.some.inj examines.2).symm⟩
    · rw [if_neg passes] at examines
      exact Or.inr ⟨by simpa using passes, (Option.some.inj examines).symm⟩
  · cases examines

theorem Within.mono {sub : Subscriber} {last greater : MessageID} (within : sub.Within last)
    (le : last ≤ greater) : sub.Within greater where
  offset := within.offset.trans le
  startingOffset := within.startingOffset.trans le
  delivered id member := (within.delivered id member).trans le
  buffered := within.buffered
  remaining msgs loop msg member := (within.remaining msgs loop msg member).trans le

theorem Within.new {stream : Stream} {startingOffset : Offset} {last : MessageID}
    (bound : startingOffset.position ≤ last) :
    (Subscriber.new stream startingOffset).Within last where
  offset := bound
  startingOffset := bound
  delivered id member := by simp [Subscriber.new] at member
  buffered := rfl
  remaining msgs loop := by simp [Subscriber.new] at loop

/-- A new loop position is harmless as long as it holds no new batch. -/
theorem Within.withLoop {sub : Subscriber} {last : MessageID} (within : sub.Within last)
    {loop : ProcessLoop}
    (remaining : ∀ msgs, loop = .processing msgs → ∀ msg, msg ∈ msgs → msg.id ≤ last) :
    Within { sub with loop := loop } last where
  offset := within.offset
  startingOffset := within.startingOffset
  delivered := within.delivered
  buffered := within.buffered
  remaining := remaining

theorem Within.examine {sub examined : Subscriber} {last : MessageID} (within : sub.Within last)
    (examines : sub.examine = some examined) :
    examined.Within last := by
  rcases examine_cases examines with ⟨msg, rest, loop, ⟨_, _, rfl⟩ | ⟨_, rfl⟩⟩
  · have bounds := within.remaining _ loop
    constructor
    · exact bounds msg (by simp)
    · exact within.startingOffset
    · intro id member
      rcases List.mem_append.mp member with member | equal
      · exact within.delivered id member
      · exact List.mem_singleton.mp equal ▸ bounds msg (by simp)
    · simp [deliver, within.buffered]
    · intro msgs processing other member
      simp only [deliver, ProcessLoop.processing.injEq] at processing
      subst msgs
      exact bounds other (by simp [member])
  · apply within.withLoop
    intro msgs processing other member
    simp only [ProcessLoop.processing.injEq] at processing
    subst msgs
    exact within.remaining _ loop other (by simp [member])

end Subscriber

namespace Broker

theorem Change.progress {broker : Broker} {action : Action} {id : SubscriberID}
    {sub later : Subscriber} (change : Change broker action id sub later) :
    sub.Progress later := by
  cases change with
  | examined isExamine examines =>
      rcases Subscriber.examine_cases examines with ⟨msg, rest, _, ⟨_, _, rfl⟩ | ⟨_, rfl⟩⟩
      · exact ⟨rfl, rfl, fun id member => List.mem_append_left _ member⟩
      · exact ⟨rfl, rfl, fun id member => member⟩
  | _ => exact ⟨rfl, rfl, fun id member => member⟩

structure Wellformed (broker : Broker) : Prop where
  sorted : ∀ stream, (broker.streams stream).Pairwise fun a b => a.id < b.id
  bounded : ∀ stream entry, entry ∈ broker.streams stream →
    entry.id ≤ broker.lastID stream
  stored : ∀ stream id, broker.offsets stream = some id → id ≤ broker.lastID stream
  pending : ∀ ack, ack ∈ broker.acks → ack.offset ≤ broker.lastID ack.stream
  joining : ∀ id stream offset, broker.joining id = some (stream, offset) →
    broker.subscribers id = none ∧ offset.position ≤ broker.lastID stream
  subscriber : ∀ id sub, broker.subscribers id = some sub →
    sub.Within (broker.lastID sub.stream)
  registered : ∀ stream id, id ∈ broker.subscribersForStream stream →
    ∃ sub, broker.subscribers id = some sub ∧ sub.stream = stream
  requested : ∀ request, broker.reader = .gathered request →
    ∀ entry, entry ∈ request → ∀ offset, entry.2 = some offset →
      offset.position ≤ broker.lastID entry.1
  results : ∀ results, broker.reader = .read results →
    ∀ entry, entry ∈ results → ∀ msg, msg ∈ entry.2 → msg.id ≤ broker.lastID entry.1
  work : ∀ send, send ∈ broker.reader.work → ∀ sub,
    broker.subscribers send.1 = some sub →
      ∀ msg, msg ∈ send.2 → msg.id ≤ broker.lastID sub.stream

namespace Wellformed

theorem initial : Wellformed Broker.initial where
  sorted stream := List.Pairwise.nil
  bounded stream entry member := by cases member
  stored stream id stored := by cases stored
  pending ack member := by cases member
  joining id stream offset joining := by cases joining
  subscriber id sub present := by cases present
  registered stream id member := by simp [subscribersForStream, Broker.initial] at member
  requested request gathered := by cases gathered
  results results read := by cases read
  work send member := by cases member

variable {broker next : Broker} {action : Action}

theorem startingOffset_le (wellformed : Wellformed broker) (stream : Stream) :
    (broker.startingOffset stream).position ≤ broker.lastID stream := by
  cases stored : broker.offsets stream with
  | none => simpa [startingOffset, stored, Offset.position] using MessageID.zero_le _
  | some id => simpa [startingOffset, stored] using wellformed.stored stream id stored

section Steps

variable (wellformed : Wellformed broker) (effect : Effect broker action next)

include wellformed effect

/-! ## Streams -/

private theorem step_sorted (stream : Stream) :
    (next.streams stream).Pairwise fun a b => a.id < b.id := by
  cases effect with
  | @publish published id data increasing =>
      by_cases same : stream = published
      · subst stream
        simp only [Broker.publish, Function.update_self]
        apply List.pairwise_append.mpr
        refine ⟨wellformed.sorted published, List.pairwise_singleton _ _, ?_⟩
        intro entry member new isNew
        rw [List.mem_singleton.mp isNew]
        exact lt_of_le_of_lt (wellformed.bounded published entry member) increasing
      · simpa [Broker.publish, same] using wellformed.sorted stream
  | trim trimmed count =>
      by_cases same : stream = trimmed
      · subst stream
        simpa [Broker.trim] using
          (wellformed.sorted trimmed).sublist (List.drop_sublist count _)
      · simpa [Broker.trim, same] using wellformed.sorted stream
  | _ => exact wellformed.sorted stream

private theorem step_bounded (stream : Stream) (entry : Message)
    (member : entry ∈ next.streams stream) : entry.id ≤ next.lastID stream := by
  rcases effect.entry member with earlier | ⟨_, _, last⟩
  · exact (wellformed.bounded stream entry earlier).trans (effect.lastID stream)
  · exact last.ge

/-! ## Acknowledgements -/

private theorem step_stored (stream : Stream) (id : MessageID)
    (stored : next.offsets stream = some id) : id ≤ next.lastID stream := by
  apply le_trans _ (effect.extends.lastID stream)
  rcases effect.stored stored with earlier | pending
  · exact wellformed.stored stream id earlier
  · exact wellformed.pending _ pending

private theorem step_pending (ack : Ack) (member : ack ∈ next.acks) :
    ack.offset ≤ next.lastID ack.stream := by
  apply le_trans _ (effect.extends.lastID ack.stream)
  rcases effect.pending member with earlier | ⟨id, sub, _, present, ofStream, received⟩
  · exact wellformed.pending ack earlier
  · have within := wellformed.subscriber id sub present
    rw [← ofStream]
    apply within.delivered
    rw [within.buffered]
    exact List.mem_append_left _ received

/-! ## Subscribers -/

private theorem step_joining (id : SubscriberID) (stream : Stream) (offset : Offset)
    (joining : next.joining id = some (stream, offset)) :
    next.subscribers id = none ∧ offset.position ≤ next.lastID stream := by
  rcases effect.joining joining with earlier | ⟨_, unused, call⟩
  · rcases wellformed.joining id stream offset earlier with ⟨unused, bound⟩
    refine ⟨?_, bound.trans (effect.extends.lastID stream)⟩
    -- A subscriber appears only by registering, which ends the joining call.
    cases found : next.subscribers id with
    | none => rfl
    | some sub =>
        rcases effect.subscriber found with ⟨before, present, _⟩ | ⟨_, _, rfl, _, _⟩
        · rw [unused] at present
          cases present
        · cases effect
          simp [newSubscriber] at joining
  · refine ⟨unused, ?_⟩
    simp only [Prod.mk.injEq, true_and] at call
    rw [call]
    exact (wellformed.startingOffset_le stream).trans (effect.extends.lastID stream)

private theorem step_subscriber (id : SubscriberID) (sub : Subscriber)
    (found : next.subscribers id = some sub) : sub.Within (next.lastID sub.stream) := by
  rcases effect.subscriber found with
    ⟨before, present, change⟩ | ⟨stream, startingOffset, _, joining, rfl⟩
  · have within := (wellformed.subscriber id before present).mono
      (effect.extends.lastID before.stream)
    rw [← change.progress.stream] at within
    cases change with
    | handedOver _ sending =>
        apply within.withLoop
        intro msgs processing msg member
        simp only [ProcessLoop.processing.injEq] at processing
        subst msgs
        have bound := wellformed.work (id, _) (by rw [sending]; simp [Reader.work])
          before present msg member
        exact bound.trans (effect.extends.lastID before.stream)
    | examined _ examines => exact within.examine examines
    | processed | stopped | deregistered =>
        exact within.withLoop fun msgs processing => by cases processing
    | rechecked =>
        apply within.withLoop
        intro msgs processing
        split at processing <;> cases processing
    | received buffered =>
        exact ⟨within.offset, within.startingOffset, within.delivered,
          by simp [within.buffered, buffered], within.remaining⟩
    | _ => exact ⟨within.offset, within.startingOffset, within.delivered,
        within.buffered, within.remaining⟩
  · have bound := (wellformed.joining id stream startingOffset joining).2
    exact .new (bound.trans (effect.extends.lastID stream))

private theorem step_registered (stream : Stream) (id : SubscriberID)
    (member : id ∈ next.subscribersForStream stream) :
    ∃ sub, next.subscribers id = some sub ∧ sub.stream = stream := by
  rcases effect.registered member with earlier | ⟨startingOffset, rfl, joining⟩
  · rcases wellformed.registered stream id earlier with ⟨sub, present, ofStream⟩
    have notRestart : action ≠ .restart := by
      intro isRestart
      subst action
      cases effect
      simp [subscribersForStream, Broker.restart, Broker.initial] at member
    rcases effect.subscriber_present present notRestart with ⟨later, found⟩
    refine ⟨later, found, ?_⟩
    rcases effect.subscriber found with ⟨before, present', change⟩ | ⟨_, _, _, joining, _⟩
    · rw [present] at present'
      cases present'
      exact change.progress.stream.trans ofStream
    · rw [(wellformed.joining id _ _ joining).1] at present
      cases present
  · cases effect with
    | register joining' unlocked =>
        rw [joining] at joining'
        cases joining'
        exact ⟨.new stream startingOffset, by simp [newSubscriber], rfl⟩

/-- A registered subscriber was registered before the step, or has just been
registered. -/
theorem registered_cases {stream : Stream} {id : SubscriberID} {sub : Subscriber}
    (member : id ∈ next.subscribersForStream stream) (found : next.subscribers id = some sub) :
    (∃ before, id ∈ broker.subscribersForStream stream ∧
      broker.subscribers id = some before ∧ Change broker action id before sub) ∨
    ∃ startingOffset, action = .register id ∧
      broker.joining id = some (stream, startingOffset) ∧ sub = .new stream startingOffset := by
  rcases effect.subscriber found with
    ⟨before, present, change⟩ | ⟨_, startingOffset, isRegister, joining, isNew⟩
  · rcases effect.registered member with earlier | ⟨_, _, joining⟩
    · exact Or.inl ⟨before, earlier, present, change⟩
    · rw [(wellformed.joining id _ _ joining).1] at present
      cases present
  · rcases effect.registered member with earlier | ⟨_, _, joining'⟩
    · rcases wellformed.registered stream id earlier with ⟨_, present, _⟩
      rw [(wellformed.joining id _ _ joining).1] at present
      cases present
    · rw [joining] at joining'
      cases joining'
      exact Or.inr ⟨startingOffset, isRegister, joining, isNew⟩

end Steps

/-! ## The reader loop -/

theorem mem_entriesAfter {stream : Stream} {offset : Offset} {entry : Message}
    (member : entry ∈ broker.entriesAfter stream offset) :
    entry ∈ broker.streams stream ∧ offset.position < entry.id := by
  have filtered := List.mem_of_mem_take member
  simpa using List.mem_filter.mp filtered

/-- Each result of a read answers one entry of its request. -/
theorem mem_xread {request : List (Stream × Option Offset)} {result : Stream × List Message}
    (member : result ∈ broker.xread request) :
    ∃ offset, (result.1, some offset) ∈ request ∧
      result.2 = broker.entriesAfter result.1 offset := by
  unfold Broker.xread at member
  split at member
  · cases member
  · rename_i complete
    rcases List.mem_filterMap.mp member with ⟨⟨stream, offset⟩, requested, found⟩
    cases offset with
    | none =>
        exact absurd (List.any_eq_true.mpr ⟨_, requested, rfl⟩) complete
    | some offset =>
        simp only [Option.getD_some] at found
        split at found
        · cases found
        · cases found
          exact ⟨offset, requested, rfl⟩

theorem offset_mem_offsetsOf {ids : List SubscriberID} {id : SubscriberID} {sub : Subscriber}
    (member : id ∈ ids) (present : broker.subscribers id = some sub) :
    sub.offset ∈ broker.offsetsOf ids :=
  List.mem_filterMap.mpr ⟨id, member, by simp [present]⟩

theorem mem_offsetsOf {ids : List SubscriberID} {offset : Offset}
    (member : offset ∈ broker.offsetsOf ids) :
    ∃ id sub, id ∈ ids ∧ broker.subscribers id = some sub ∧ sub.offset = offset := by
  rcases List.mem_filterMap.mp member with ⟨id, listed, found⟩
  rcases Option.map_eq_some_iff.mp found with ⟨sub, present, equal⟩
  exact ⟨id, sub, listed, present, equal⟩

/-- Each entry of a request stems from the offsets of one stream's
subscribers. -/
theorem mem_gatherStreamsWithOffsets {order : List (Stream × List SubscriberID)}
    {entry : Stream × Option Offset} {offset : Offset}
    (member : entry ∈ broker.gatherStreamsWithOffsets order) (requested : entry.2 = some offset) :
    ∃ ids, (entry.1, ids) ∈ order ∧ lowestOffset (broker.offsetsOf ids) = some offset := by
  rcases List.mem_map.mp member with ⟨⟨stream, ids⟩, arranged, rfl⟩
  exact ⟨ids, arranged, requested⟩

/-- Each send of a dispatch hands a result to a subscriber registered for its
stream. -/
theorem mem_dispatchWork {results : List (Stream × List Message)}
    {order : List (List SubscriberID)} (arranges : broker.ArrangesDispatch results order)
    {send : SubscriberID × List Message} (member : send ∈ dispatchWork results order) :
    ∃ stream, (stream, send.2) ∈ results ∧
      send.1 ∈ broker.subscribersForStream stream := by
  rcases List.mem_flatMap.mp member with ⟨⟨⟨stream, msgs⟩, ids⟩, paired, inner⟩
  rcases List.mem_map.mp inner with ⟨id, listed, rfl⟩
  exact ⟨stream, (List.of_mem_zip paired).1, (arranges.2 _ paired).mem_iff.mp listed⟩

section Steps

variable (wellformed : Wellformed broker) (effect : Effect broker action next)

include wellformed effect

private theorem step_requested (request : List (Stream × Option Offset))
    (gathered : next.reader = .gathered request) (entry : Stream × Option Offset)
    (member : entry ∈ request) (offset : Offset) (requested : entry.2 = some offset) :
    offset.position ≤ next.lastID entry.1 := by
  apply le_trans _ (effect.extends.lastID entry.1)
  have change := effect.reader
  rw [gathered] at change
  cases change with
  | none unchanged =>
      exact wellformed.requested request unchanged entry member offset requested
  | gathered _ isGather arranges =>
      rcases mem_gatherStreamsWithOffsets member requested with ⟨ids, arranged, lowest⟩
      rcases mem_offsetsOf (selectBy.mem lowest) with ⟨id, sub, listed, present, rfl⟩
      have registered := (arranges.2 _ arranged).mem_iff.mp listed
      rcases wellformed.registered entry.1 id registered with ⟨other, present', ofStream⟩
      rw [present] at present'
      cases present'
      exact ofStream ▸ (wellformed.subscriber id sub present).offset

private theorem step_results (results : List (Stream × List Message))
    (read : next.reader = .read results) (entry : Stream × List Message)
    (member : entry ∈ results) (msg : Message) (inBatch : msg ∈ entry.2) :
    msg.id ≤ next.lastID entry.1 := by
  apply le_trans _ (effect.extends.lastID entry.1)
  have change := effect.reader
  rw [read] at change
  cases change with
  | none unchanged => exact wellformed.results results unchanged entry member msg inBatch
  | read gathered =>
      rcases mem_xread member with ⟨offset, _, found⟩
      rw [found] at inBatch
      exact wellformed.bounded entry.1 msg (mem_entriesAfter inBatch).1

omit wellformed in
/-- The sends left after a step were left before it, or a dispatch has just
begun. -/
theorem work_cases {send : SubscriberID × List Message} (member : send ∈ next.reader.work) :
    send ∈ broker.reader.work ∨
    ∃ results stream, broker.reader = .read results ∧ (stream, send.2) ∈ results ∧
      send.1 ∈ broker.subscribersForStream stream := by
  have change := effect.reader
  generalize next.reader = reader at change member
  cases change with
  | none unchanged => exact Or.inl (unchanged ▸ member)
  | dispatched read arranges =>
      rcases mem_dispatchWork arranges member with ⟨stream, result, registered⟩
      exact Or.inr ⟨_, stream, read, result, registered⟩
  | entered dispatching => exact Or.inl (by rwa [dispatching])
  | skipped sending => exact Or.inl (by rw [sending]; exact List.mem_cons_of_mem _ member)
  | handedOver _ sending =>
      exact Or.inl (by rw [sending]; exact List.mem_cons_of_mem _ member)
  | resumed _ awaiting => exact Or.inl (by rwa [awaiting])
  | _ => cases member

/-- A subscriber that a dispatch addresses was there before the step, and gets a batch
that was left for it or that was just read from its stream. -/
theorem before_of_work {send : SubscriberID × List Message} (member : send ∈ next.reader.work)
    {sub : Subscriber} (found : next.subscribers send.1 = some sub) :
    ∃ before, broker.subscribers send.1 = some before ∧
      Change broker action send.1 before sub ∧
      (send ∈ broker.reader.work ∨ ∃ results, broker.reader = .read results ∧
        (before.stream, send.2) ∈ results ∧
        send.1 ∈ broker.subscribersForStream before.stream) := by
  rcases effect.subscriber found with ⟨before, present, change⟩ | ⟨_, _, rfl, joining, _⟩
  · refine ⟨before, present, change, ?_⟩
    rcases work_cases effect member with earlier | ⟨results, stream, read, result, registered⟩
    · exact Or.inl earlier
    · rcases wellformed.registered stream _ registered with ⟨other, present', rfl⟩
      cases present.symm.trans present'
      exact Or.inr ⟨results, read, result, registered⟩
  · exfalso
    rcases work_cases effect member with earlier | ⟨_, stream, _, _, registered⟩
    · rw [Reader.work_eq_nil_of_unlocked effect.unlocked_of_register] at earlier
      cases earlier
    · rcases wellformed.registered stream _ registered with ⟨other, present, _⟩
      rw [(wellformed.joining _ _ _ joining).1] at present
      cases present

private theorem step_work (send : SubscriberID × List Message) (member : send ∈ next.reader.work)
    (sub : Subscriber) (found : next.subscribers send.1 = some sub) (msg : Message)
    (inBatch : msg ∈ send.2) :
    msg.id ≤ next.lastID sub.stream := by
  apply le_trans _ (effect.extends.lastID sub.stream)
  rcases before_of_work wellformed effect member found with
    ⟨before, present, change, earlier | ⟨results, read, result, _⟩⟩ <;>
    rw [change.progress.stream]
  · exact wellformed.work send earlier before present msg inBatch
  · exact wellformed.results results read _ result msg inBatch

end Steps

theorem step (wellformed : Wellformed broker) (effect : Effect broker action next) :
    Wellformed next where
  sorted := step_sorted wellformed effect
  bounded := step_bounded wellformed effect
  stored := step_stored wellformed effect
  pending := step_pending wellformed effect
  joining := step_joining wellformed effect
  subscriber := step_subscriber wellformed effect
  registered := step_registered wellformed effect
  requested := step_requested wellformed effect
  results := step_results wellformed effect
  work := step_work wellformed effect

/-- Every reachable state is well formed. -/
theorem of_reaches {permitted : Broker → Action → Prop} (reaches : Reaches permitted broker) :
    Wellformed broker :=
  Transition.Run.preserves reaches initial fun _ _ _ _ wellformed _ taken =>
    wellformed.step (effect_of_step taken)

end Wellformed

end Broker

end Tassis.RedisBroker
