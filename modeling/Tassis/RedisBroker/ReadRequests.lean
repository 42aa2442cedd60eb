import Tassis.RedisBroker.Completion

/-! # Read requests

One `XREAD` serves the subscribers of all streams. Subscribers come and go while
it is put together and sent, and none of that makes it invalid: every stream it
names has a subscriber, and the offset it names for a stream is one of theirs.
-/

namespace Tassis.RedisBroker

/-! ## The arguments of a read -/

/-- The offset before any offset has been looked at. -/
def emptyOffset : Text := []

theorem Offset.text_ne_emptyOffset (offset : Offset) : offset.text ≠ emptyOffset := by
  cases offset with
  | minOffset => decide
  | message id => simp [text, MessageID.text, emptyOffset]

namespace Broker

/-- The inner loop, over the subscribers of one stream. -/
def lowestOffsetText (offsets : List Offset) : Text :=
  offsets.foldl
    (fun lowest offset =>
      if lowest = emptyOffset ∨ offsetLessThan offset.text lowest = true then offset.text
      else lowest)
    emptyOffset

/-- The outer loop: the names of the streams, followed by the offsets. -/
def streamsWithOffsets (broker : Broker) (order : List (Stream × List SubscriberID)) :
    List Text :=
  order.map Prod.fst ++
    order.map fun entry => lowestOffsetText (broker.offsetsOf entry.2)

private theorem foldl_lowestOffsetText (offsets : List Offset) (kept : Option Offset) :
    offsets.foldl
        (fun lowest offset =>
          if lowest = emptyOffset ∨ offsetLessThan offset.text lowest = true then offset.text
          else lowest)
        (kept.elim emptyOffset Offset.text) =
      (offsets.foldl (keepOrReplace fun lowest offset => offset.lessThan lowest) kept).elim
        emptyOffset Offset.text := by
  induction offsets generalizing kept with
  | nil => rfl
  | cons offset rest induction =>
      rw [List.foldl_cons, List.foldl_cons, ← induction]
      congr 1
      cases kept with
      | none => simp [keepOrReplace]
      | some kept =>
          have nonempty := kept.text_ne_emptyOffset
          by_cases smaller : offset.lessThan kept = true
          · have smallerText : offsetLessThan offset.text kept.text = true := smaller
            simp [keepOrReplace, smaller, smallerText]
          · have notSmallerText : ¬offsetLessThan offset.text kept.text = true := smaller
            simp [keepOrReplace, nonempty, smaller, notSmallerText]

/-- The empty offset marks exactly that there was nothing to look at. -/
theorem lowestOffsetText_eq (offsets : List Offset) :
    lowestOffsetText offsets = (lowestOffset offsets).elim emptyOffset Offset.text :=
  foldl_lowestOffsetText offsets none

/-- The arguments are those of the request, the names first. -/
theorem streamsWithOffsets_eq (broker : Broker) (order : List (Stream × List SubscriberID)) :
    broker.streamsWithOffsets order =
      (broker.gatherStreamsWithOffsets order).map Prod.fst ++
        (broker.gatherStreamsWithOffsets order).map fun entry =>
          entry.2.elim emptyOffset Offset.text := by
  rw [streamsWithOffsets, gatherStreamsWithOffsets, List.map_map, List.map_map]
  simp only [lowestOffsetText_eq]
  rfl

end Broker

/-! ## Registrations -/

/-- How often a subscriber is found under a stream: once under its own, until
its process loop has deregistered it. -/
def Subscriber.registrations (sub : Subscriber) (stream : Stream) : Nat :=
  if stream = sub.stream ∧ sub.loop ≠ .done then 1 else 0

namespace Broker

variable {broker next : Broker} {action : Action} {order : List (Stream × List SubscriberID)}

/-- Every subscriber is registered as often as its process loop says. -/
def Enrols (broker : Broker) : Prop :=
  ∀ id sub, broker.subscribers id = some sub →
    ∀ stream, (broker.subscribersForStream stream).count id = sub.registrations stream

namespace Enrols

theorem initial : Enrols Broker.initial := by
  intro id sub present
  cases present

/-- Storing a subscriber that is registered as before. -/
theorem setSubscriber (enrols : Enrols broker) {target : SubscriberID}
    {previous stored : Subscriber} (present : broker.subscribers target = some previous)
    (same : stored.registrations = previous.registrations) :
    Enrols (broker.setSubscriber target stored) := by
  intro id sub found stream
  rcases setSubscriber_cases found with ⟨rfl, rfl⟩ | ⟨_, unchanged⟩
  · rw [same]
    exact enrols id previous present stream
  · exact enrols id sub unchanged stream

theorem subscribersForStream_newSubscriber (broker : Broker) (id : SubscriberID)
    (stream registered : Stream) (startingOffset : Offset) :
    (broker.newSubscriber id registered startingOffset).subscribersForStream stream =
      if stream = registered then id :: broker.subscribersForStream stream
      else broker.subscribersForStream stream := by
  by_cases same : stream = registered
  · subst stream
    simp [subscribersForStream, newSubscriber]
  · simp [subscribersForStream, newSubscriber, AList.lookup_insert_ne same, same]

theorem newSubscriber (enrols : Enrols broker) (wellformed : Wellformed broker)
    {target : SubscriberID} {registered : Stream} {startingOffset : Offset}
    (joining : broker.joining target = some (registered, startingOffset)) :
    Enrols (broker.newSubscriber target registered startingOffset) := by
  intro id sub found stream
  rw [subscribersForStream_newSubscriber]
  have absent := (wellformed.joining target registered startingOffset joining).1
  by_cases same : id = target
  · subst id
    have isNew : sub = .new registered startingOffset := by
      simpa [Broker.newSubscriber] using found.symm
    have unregistered : (broker.subscribersForStream stream).count target = 0 := by
      rw [List.count_eq_zero]
      intro member
      rcases wellformed.registered stream target member with ⟨_, present, _⟩
      rw [absent] at present
      cases present
    subst sub
    by_cases ofStream : stream = registered
    · subst registered
      simp [unregistered, Subscriber.registrations, Subscriber.new]
    · simp [ofStream, unregistered, Subscriber.registrations, Subscriber.new]
  · have earlier : broker.subscribers id = some sub := by
      simpa [Broker.newSubscriber, same] using found
    split
    · rw [List.count_cons_of_ne (Ne.symm same)]
      exact enrols id sub earlier stream
    · exact enrols id sub earlier stream

theorem deregister (enrols : Enrols broker) {target : SubscriberID} {previous : Subscriber}
    (present : broker.subscribers target = some previous)
    (exiting : previous.loop = .exiting) :
    Enrols ((broker.deregister target previous.stream).setSubscriber target
      { previous with loop := .done }) := by
  intro id sub found stream
  change ((broker.deregister target previous.stream).subscribersForStream stream).count id = _
  rw [subscribersForStream_deregister]
  rcases setSubscriber_cases found with ⟨rfl, rfl⟩ | ⟨other, unchanged⟩
  · have before := enrols id previous present stream
    by_cases ofStream : stream = previous.stream
    · simp only [Subscriber.registrations, ofStream, exiting] at before
      simp [Subscriber.registrations, ofStream, before]
    · simp only [Subscriber.registrations, ofStream, exiting] at before
      simp [Subscriber.registrations, ofStream, before]
  · have before := enrols id sub unchanged stream
    split
    · rw [List.count_erase_of_ne other]
      exact before
    · exact before

theorem step (enrols : Enrols broker) (wellformed : Wellformed broker)
    (effect : Effect broker action next) : Enrols next := by
  cases effect with
  | register joining unlocked => exact enrols.newSubscriber wellformed joining
  | deregister present exiting unlocked => exact enrols.deregister present exiting
  | close present => exact enrols.setSubscriber present rfl
  | receive present buffered => exact enrols.setSubscriber present rfl
  | handOver sending present selecting =>
      refine enrols.setSubscriber present (funext fun stream => ?_)
      simp [Subscriber.registrations, selecting]
  | processed awaiting present finished =>
      refine enrols.setSubscriber present (funext fun stream => ?_)
      simp [Subscriber.registrations, finished]
  | @recheck id sub present checking =>
      refine enrols.setSubscriber present (funext fun stream => ?_)
      cases closed : sub.closed <;> simp [Subscriber.registrations, checking]
  | stop present selecting closed =>
      refine enrols.setSubscriber present (funext fun stream => ?_)
      simp [Subscriber.registrations, selecting]
  | @examine id sub examined present examines =>
      refine enrols.setSubscriber present (funext fun stream => ?_)
      rcases Subscriber.examine_cases examines with ⟨msg, rest, processing, passed | dropped⟩
      · rw [passed.2.2]
        simp [Subscriber.registrations, Subscriber.deliver, processing]
      · rw [dropped.2]
        simp [Subscriber.registrations, processing]
  | restart =>
      intro id sub found
      cases found
  | _ => exact enrols

end Enrols

/-! ## Requests -/

/-- The arguments are the names of the registered streams, each once, followed
by an offset for each: the current one of some subscriber of that stream. -/
def ArgumentsSound (broker : Broker) (arguments : List Text) : Prop :=
  ∃ names offsets, arguments = names ++ offsets ∧
    names.Perm broker.subscribersByStream.keys ∧ names.Nodup ∧
    List.Forall₂
      (fun name offset => offset ≠ emptyOffset ∧
        ∃ id sub, id ∈ broker.subscribersForStream name ∧ broker.subscribers id = some sub ∧
          offset = sub.offset.text)
      names offsets

/-- A request that Redis does not reject: no stream is named twice, and every
stream has an offset. -/
structure Acceptable (request : List (Stream × Option Offset)) : Prop where
  distinct : (request.map Prod.fst).Nodup
  complete : (request.any fun entry => entry.2.isNone) = false

theorem Arranges.distinct (arranges : broker.Arranges order) : (order.map Prod.fst).Nodup :=
  arranges.1.nodup_iff.mpr broker.subscribersByStream.keys_nodup

theorem Live.acceptable (live : Live broker) (arranges : broker.Arranges order) :
    Acceptable (broker.gatherStreamsWithOffsets order) where
  distinct := by
    rw [gatherStreamsWithOffsets, List.map_map]
    exact arranges.distinct
  complete := live.request_complete arranges

theorem Live.argumentsSound (live : Live broker) (arranges : broker.Arranges order) :
    broker.ArgumentsSound (broker.streamsWithOffsets order) := by
  refine ⟨_, _, rfl, arranges.1, arranges.distinct, ?_⟩
  rw [List.forall₂_map_left_iff, List.forall₂_map_right_iff, List.forall₂_same]
  rintro ⟨stream, ids⟩ listed
  rcases live.lowest_of_arranged arranges listed with ⟨id, sub, registered, present, selected⟩
  have lowest : lowestOffsetText (broker.offsetsOf ids) = sub.offset.text := by
    rw [lowestOffsetText_eq, selected]
    rfl
  refine ⟨?_, id, sub, registered, present, lowest⟩
  change lowestOffsetText (broker.offsetsOf ids) ≠ emptyOffset
  rw [lowest]
  exact sub.offset.text_ne_emptyOffset

/-- Registrations are in order, and so is the request that is about to be
sent. -/
structure Requests (broker : Broker) : Prop where
  live : Live broker
  enrols : Enrols broker
  acceptable : ∀ request, broker.reader = .gathered request → Acceptable request

namespace Requests

theorem initial : Requests Broker.initial :=
  ⟨.initial, .initial, fun _ gathered => by cases gathered⟩

theorem step (requests : Requests broker) (taken : broker.step action = some next) :
    Requests next where
  live := requests.live.step taken
  enrols := requests.enrols.step requests.live.wellformed (effect_of_step taken)
  acceptable request gathered := by
    have change := (effect_of_step taken).reader
    rw [gathered] at change
    cases change with
    | none unchanged => exact requests.acceptable request unchanged
    | gathered idle isGather arranges => exact requests.live.acceptable arranges

theorem of_reaches {permitted : Broker → Action → Prop} (reaches : Reaches permitted broker) :
    Requests broker :=
  Transition.Run.preserves reaches initial fun _ _ _ _ holds _ taken => holds.step taken

end Requests

/-- In every reachable state each registered stream has a subscriber, and each
subscriber that has not deregistered is found once under its own stream and
under no other. Whatever order the maps are visited in, the arguments gathered
for `XREAD` are sound, and the request on its way to Redis is answered for every
stream that has something to read. -/
theorem read_requests_sound {broker : Broker} (reaches : Reaches Transition.anyStep broker) :
    (∀ stream ids, broker.subscribersByStream.lookup stream = some ids → ids ≠ []) ∧
    (∀ id sub, broker.subscribers id = some sub → sub.loop ≠ .done →
      ∀ stream, (broker.subscribersForStream stream).count id =
        if stream = sub.stream then 1 else 0) ∧
    (∀ order, broker.Arranges order →
      broker.ArgumentsSound (broker.streamsWithOffsets order)) ∧
    (∀ request, broker.reader = .gathered request →
      Acceptable request ∧
      ∀ stream offset, (stream, some offset) ∈ request →
        broker.entriesAfter stream offset ≠ [] →
        (stream, broker.entriesAfter stream offset) ∈ broker.xread request) := by
  have requests := Requests.of_reaches reaches
  refine ⟨requests.live.peopled, ?_, fun order arranges => requests.live.argumentsSound arranges,
    ?_⟩
  · intro id sub present notDone stream
    rw [requests.enrols id sub present stream, Subscriber.registrations]
    simp [notDone]
  · intro request gathered
    have acceptable := requests.acceptable request gathered
    exact ⟨acceptable, fun stream offset requested found =>
      mem_xread_of_requested acceptable.complete requested found⟩

/-- Two subscribers of one stream and one of another, of which one has left
since the request was gathered. -/
def leaveAfterGather : List Action :=
  [.readOffset 1 "a".toList, .register 1, .readOffset 2 "a".toList, .register 2,
    .readOffset 3 "b".toList, .register 3, .gather [("a".toList, [1, 2]), ("b".toList, [3])],
    .close 3, .stop 3, .deregister 3]

theorem read_requests_sound_after_leaving :
    ∃ broker, Reaches Transition.anyStep broker ∧
      broker.subscribersByStream.keys = ["a".toList] ∧
      ∀ order, broker.Arranges order →
        broker.ArgumentsSound (broker.streamsWithOffsets order) := by
  have run : ∃ broker, Transition.Run step Transition.anyStep initial broker ∧
      broker.subscribersByStream.keys = ["a".toList] :=
    Transition.Run.exists_of_execute leaveAfterGather (by decide +kernel)
  rcases run with ⟨broker, reaches, keys⟩
  exact ⟨broker, reaches, keys, (read_requests_sound reaches).2.2.1⟩

end Broker

end Tassis.RedisBroker
