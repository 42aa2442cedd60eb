import Tassis.RedisBroker.Completion

/-! # Reading after trimming

Trimming is invisible to the next subscriber of a stream: it is delivered what
was not acknowledged, whether it starts from the stored offset or, once the
offset keys are deleted, from the beginning.
-/

namespace Tassis.RedisBroker

namespace Broker

variable {width : Nat} {stream : Stream} {id : SubscriberID} {broker : Broker}

/-! ## Streams without subscribers -/

/-- The IDs of the stream are in range. -/
structure InRange (broker : Broker) (width : Nat) (stream : Stream) : Prop where
  entries : ∀ entry, entry ∈ broker.streams stream → entry.id.Ranged width
  stored : ∀ offset, broker.offsets stream = some offset → offset.Ranged width

/-- Nobody subscribes to the stream, and the ID of the new subscriber is unused. -/
structure Vacant (broker : Broker) (stream : Stream) (id : SubscriberID) : Prop where
  unregistered : broker.subscribersByStream.lookup stream = none
  unused : broker.subscribers id = none
  notJoining : broker.joining id = none
  others : ∀ other call, broker.joining other = some call → call.1 ≠ stream
  ignores : broker.reader.Ignores stream id

/-- The stream and the subscriber that reads it from where `NewSubscriber` starts. -/
def soleReader (broker : Broker) (stream : Stream) : SoleReader :=
  ⟨broker.streams stream, broker.lastID stream, broker.startingOffset stream, []⟩

/-- If every entry is to be read, the sole reader is sound. -/
theorem sound_soleReader (wellformed : Wellformed broker)
    (inRange : broker.InRange width stream)
    (after : ∀ entry, entry ∈ broker.streams stream →
      (broker.startingOffset stream).position < entry.id) :
    SoleReader.Sound width (broker.soleReader stream) where
  sorted := wellformed.sorted stream
  bounded := wellformed.bounded stream
  ranged := inRange.entries
  offsetBounded := wellformed.startingOffset_le stream
  offsetRanged := by
    cases stored : broker.offsets stream with
    | none => simpa [soleReader, startingOffset, stored] using .minOffset
    | some offset =>
        simpa [soleReader, startingOffset, stored] using .message (inRange.stored _ stored)
  complete := by
    rw [soleReader, SoleReader.unread, List.nil_append, List.filter_eq_self]
    intro entry member
    exact decide_eq_true (after entry member)

/-- A subscriber that starts in a stream without subscribers follows the sole
reader. -/
theorem follows_readOffset (wellformed : Wellformed broker)
    (sound : SoleReader.Sound width (broker.soleReader stream))
    (vacant : broker.Vacant stream id) :
    Follows width stream id (broker.readOffset id stream) (broker.soleReader stream) where
  wellformed := wellformed.step (.readOffset vacant.unused vacant.notJoining)
  sound := sound
  entries := rfl
  lastID := rfl
  others := by
    intro other call joining ofStream
    rcases of_update_some joining with ⟨same, _⟩ | ⟨_, earlier⟩
    · exact same
    · exact absurd ofStream (vacant.others other call earlier)
  serves := Or.inl {
    joining := Function.update_self ..
    unused := vacant.unused
    delivered := rfl
    unregistered := vacant.unregistered
    ignores := vacant.ignores }

theorem zero_lt_of_ranged {messageID : MessageID} (ranged : messageID.Ranged width) :
    MessageID.zero < messageID :=
  MessageID.lt_iff.mpr (Or.inl ranged.positive)

/-- A process that has just started over the contents of Redis. -/
def starting (streams : Stream → List Message) (lastID : Stream → MessageID)
    (offsets : Stream → Option MessageID) : Broker :=
  { initial with streams := streams, lastID := lastID, offsets := offsets }

section Starting

variable {streams : Stream → List Message} {lastID : Stream → MessageID}
  {offsets : Stream → Option MessageID}
  (sorted : ∀ stream, (streams stream).Pairwise fun a b => a.id < b.id)
  (bounded : ∀ stream entry, entry ∈ streams stream → entry.id ≤ lastID stream)
  (stored : ∀ stream id, offsets stream = some id → id ≤ lastID stream)

include sorted bounded stored

theorem wellformed_starting : Wellformed (starting streams lastID offsets) :=
  { Wellformed.initial with
    sorted := sorted
    bounded := bounded
    stored := stored
    pending := fun _ member => by cases member
    joining := fun _ _ _ joining => by cases joining
    subscriber := fun _ _ present => by cases present
    requested := fun _ gathered => by cases gathered
    results := fun _ read => by cases read
    work := fun _ member => by cases member }

theorem live_starting : Live (starting streams lastID offsets) where
  wellformed := wellformed_starting sorted bounded stored
  lockstep := ⟨Lockstep.initial.awaiting, Lockstep.initial.processing,
    Lockstep.initial.exiting, Lockstep.initial.addressed⟩
  peopled := Live.initial.peopled

end Starting

theorem vacant_starting (streams : Stream → List Message) (lastID : Stream → MessageID)
    (offsets : Stream → Option MessageID) (stream : Stream) (id : SubscriberID) :
    (starting streams lastID offsets).Vacant stream id where
  unregistered := rfl
  unused := rfl
  notJoining := rfl
  others := fun _ _ joining => by cases joining
  ignores := ignores_idle stream id

/-! ## The stream after trimming -/

/-- The broker after trimming, with its offset keys or without them. -/
def afterTrimming (broker : Broker) (maxLen : Nat) (streams : List Stream) (cleared : Bool) :
    Broker :=
  if cleared then (broker.trimStreams maxLen streams).deleteOffsets
  else broker.trimStreams maxLen streams

section AfterTrimming

variable {maxLen : Nat} {streams : List Stream} {cleared : Bool}

theorem afterTrimming_eq (once : streams.Nodup) :
    broker.afterTrimming maxLen streams cleared = { broker with
      streams := (broker.trimStreams maxLen streams).streams
      offsets := if cleared then fun _ => none else broker.offsets } := by
  rw [afterTrimming, trimStreams_eq maxLen once]
  cases cleared with
  | false => rfl
  | true => rfl

theorem wellformed_afterTrimming (wellformed : Wellformed broker) :
    Wellformed (broker.afterTrimming maxLen streams cleared) := by
  have trimmed : Wellformed (broker.trimStreams maxLen streams) :=
    Transition.Run.preserves (trimStreams_run maxLen wellformed) wellformed
      fun _ _ _ _ holds _ taken => holds.step (effect_of_step taken)
  cases cleared with
  | false => exact trimmed
  | true =>
      exact { trimmed with
        stored := by
          intro stream id stored
          cases stored }

theorem live_afterTrimming (once : streams.Nodup) (live : Live broker) :
    Live (broker.afterTrimming maxLen streams cleared) := by
  refine ⟨wellformed_afterTrimming live.wellformed, ?_, ?_⟩
  · rw [afterTrimming_eq once]
    exact ⟨live.lockstep.awaiting, live.lockstep.processing, live.lockstep.exiting,
      live.lockstep.addressed⟩
  · rw [afterTrimming_eq once]
    exact live.peopled

theorem vacant_afterTrimming (once : streams.Nodup) (vacant : broker.Vacant stream id) :
    (broker.afterTrimming maxLen streams cleared).Vacant stream id := by
  rw [afterTrimming_eq once]
  exact ⟨vacant.unregistered, vacant.unused, vacant.notJoining, vacant.others, vacant.ignores⟩

/-- What is left after trimming comes after the offset that the next subscriber
starts from. -/
theorem startingOffset_lt_afterTrimming (once : streams.Nodup)
    (trimming : (broker.trimStreams maxLen streams).streams stream =
      (broker.unacked stream).rtake maxLen)
    (inRange : broker.InRange width stream) {entry : Message}
    (member : entry ∈ (broker.afterTrimming maxLen streams cleared).streams stream) :
    entry ∈ broker.streams stream ∧
      ((broker.afterTrimming maxLen streams cleared).startingOffset stream).position <
        entry.id := by
  rw [afterTrimming_eq once] at member ⊢
  have unacked : entry ∈ broker.unacked stream := by
    change entry ∈ (broker.trimStreams maxLen streams).streams stream at member
    rw [trimming] at member
    exact List.mem_of_mem_drop member
  rcases List.mem_filter.mp unacked with ⟨listed, after⟩
  refine ⟨listed, ?_⟩
  cases cleared with
  | false => exact of_decide_eq_true after
  | true => exact zero_lt_of_ranged (inRange.entries entry listed)

theorem sound_afterTrimming (wellformed : Wellformed broker) (once : streams.Nodup)
    (trimming : (broker.trimStreams maxLen streams).streams stream =
      (broker.unacked stream).rtake maxLen)
    (inRange : broker.InRange width stream) :
    SoleReader.Sound width ((broker.afterTrimming maxLen streams cleared).soleReader stream) := by
  refine sound_soleReader (wellformed_afterTrimming wellformed) ⟨?_, ?_⟩ ?_
  · intro entry member
    exact inRange.entries entry (startingOffset_lt_afterTrimming once trimming inRange member).1
  · intro offset stored
    rw [afterTrimming_eq once] at stored
    cases cleared with
    | false => exact inRange.stored offset stored
    | true => cases stored
  · intro entry member
    exact (startingOffset_lt_afterTrimming once trimming inRange member).2

end AfterTrimming

/-- After trimming, every stream holds the newest of the messages that were
after its stored offset. A sole subscriber that starts from the stored offset,
or from the beginning after the offset keys are deleted, receives exactly these
and the messages published later, in their order. Reading in batches of any sizes
delivers as many as the batches take in. In every interleaving of the broker's
loops the subscriber has been delivered the first of them, as reading in some
batches would deliver, and from every state so reached the loops can go on until
it has received all of them. -/
theorem trimming_is_invisible {before : Broker} {width : Stream → Nat} {streams : List Stream}
    (live : Live before) (inRange : ∀ stream, before.InRange (width stream) stream)
    (once : streams.Nodup) (lists : ∀ stream, before.streams stream ≠ [] → stream ∈ streams)
    (maxLen : Nat) :
    (∀ stream, (before.trimStreams maxLen streams).streams stream =
      (before.unacked stream).rtake maxLen) ∧
    ∀ stream id cleared, before.Vacant stream id →
      (∀ reader, Transition.Run SoleReader.step (SoleReader.InRange (width stream))
          ((before.afterTrimming maxLen streams cleared).soleReader stream) reader →
        (before.trimStreams maxLen streams).streams stream <+: reader.entries ∧
        reader.entries.Pairwise (fun a b => a.id < b.id) ∧
        ∀ counts : List Nat, (counts.foldl SoleReader.read reader).delivered =
          reader.entries.take (reader.delivered.length + counts.sum)) ∧
      ∀ broker, Transition.Run Broker.step (Alone (width stream) stream id)
          ((before.afterTrimming maxLen streams cleared).readOffset id stream) broker →
        (∀ sub, broker.subscribers id = some sub →
          ∃ reader, Transition.Run SoleReader.step (SoleReader.InRange (width stream))
              ((before.afterTrimming maxLen streams cleared).soleReader stream) reader ∧
            broker.streams stream = reader.entries ∧
            reader.delivered ++ reader.unread = reader.entries ∧
            sub.delivered = reader.delivered.map Message.id) ∧
        ∃ later sub, Transition.Run Broker.step Working broker later ∧
          later.streams = broker.streams ∧ later.subscribers id = some sub ∧
          sub.received = (broker.streams stream).map Message.id := by
  have trimming : ∀ stream, (before.trimStreams maxLen streams).streams stream =
      (before.unacked stream).rtake maxLen := by
    intro stream
    exact trimStreams_streams maxLen once lists
      (fun entry member => zero_lt_of_ranged ((inRange stream).entries entry member))
      (fun offset stored => ((inRange stream).stored offset stored).sequence)
  refine ⟨trimming, ?_⟩
  intro stream id cleared vacant
  have sound : SoleReader.Sound (width stream)
      ((before.afterTrimming maxLen streams cleared).soleReader stream) :=
    sound_afterTrimming live.wellformed once (trimming stream) (inRange stream)
  constructor
  · intro reader run
    rcases sound.of_run run with ⟨sound', extended⟩
    refine ⟨?_, sound'.sorted, sound'.reads⟩
    rw [afterTrimming_eq once] at extended
    exact extended
  · intro broker run
    have trimmed : Live (before.afterTrimming maxLen streams cleared) :=
      live_afterTrimming once live
    have vacant' : (before.afterTrimming maxLen streams cleared).Vacant stream id :=
      vacant_afterTrimming once vacant
    have starts : (before.afterTrimming maxLen streams cleared).step (.readOffset id stream) =
        some ((before.afterTrimming maxLen streams cleared).readOffset id stream) :=
      if_pos ⟨vacant'.unused, vacant'.notJoining⟩
    rcases (follows_readOffset trimmed.wellformed sound vacant').of_run run with
      ⟨reader, reads, follows⟩
    refine ⟨?_, follows.completes ((trimmed.step starts).of_run run)⟩
    intro sub present
    exact ⟨reader, reads, follows.entries, follows.sound.complete,
      (follows.serves_of_present present).delivered⟩

/-- A stream of three messages, of which the first is acknowledged. -/
def firstAcknowledged : Broker :=
  starting
    (fun stream =>
      if stream = ['t'] then [⟨⟨1, 0⟩, []⟩, ⟨⟨1, 1⟩, []⟩, ⟨⟨2, 0⟩, []⟩] else [])
    (fun stream => if stream = ['t'] then ⟨2, 0⟩ else MessageID.zero)
    (fun stream => if stream = ['t'] then some ⟨1, 0⟩ else none)

theorem live_firstAcknowledged : Live firstAcknowledged := by
  refine live_starting ?_ ?_ ?_
  · intro stream
    split
    · decide
    · exact List.Pairwise.nil
  · intro stream
    split
    · decide
    · intro entry member
      cases member
  · intro stream id stored
    split at stored
    · cases stored
      rw [if_pos ‹_›]
      decide
    · cases stored

theorem inRange_firstAcknowledged (stream : Stream) :
    firstAcknowledged.InRange 1 stream := by
  by_cases same : stream = ['t']
  · subst same
    exact ⟨by decide, by decide⟩
  · constructor
    · intro entry member
      simp [firstAcknowledged, starting, same] at member
    · intro offset stored
      simp [firstAcknowledged, starting, same] at stored

/-- The stream is trimmed and the offset keys are deleted, and one more message
is published while the subscriber processes its first batch. -/
theorem subscriber_reads_trimmed_stream :
    ∃ broker, Transition.Run Broker.step (Alone 1 ['t'] 1)
        ((firstAcknowledged.afterTrimming 10 [['t']] true).readOffset 1 ['t']) broker ∧
      (firstAcknowledged.trimStreams 10 [['t']]).streams ['t'] =
        (firstAcknowledged.unacked ['t']).rtake 10 ∧
      (∃ sub reader, broker.subscribers 1 = some sub ∧ sub.delivered = [⟨1, 1⟩] ∧
        broker.streams ['t'] = SoleReader.entries reader ∧
        sub.delivered = reader.delivered.map Message.id) ∧
      ∃ later sub, Transition.Run Broker.step Working broker later ∧
        later.subscribers 1 = some sub ∧ sub.received = [⟨1, 1⟩, ⟨2, 0⟩, ⟨3, 0⟩] := by
  have invisible := trimming_is_invisible live_firstAcknowledged
    inRange_firstAcknowledged (by decide : [['t']].Nodup) (by
      intro stream nonempty
      by_contra unlisted
      rw [List.mem_singleton] at unlisted
      simp [firstAcknowledged, starting, unlisted] at nonempty) 10
  have run : ∃ broker, Transition.Run Broker.step (Alone 1 ['t'] 1)
        ((firstAcknowledged.afterTrimming 10 [['t']] true).readOffset 1 ['t']) broker ∧
      (∃ sub, sub ∈ broker.subscribers 1 ∧ sub.delivered = [⟨1, 1⟩]) ∧
      (broker.streams ['t']).map Message.id = [⟨1, 1⟩, ⟨2, 0⟩, ⟨3, 0⟩] :=
    Transition.Run.exists_of_execute
      [.register 1, .gather [(['t'], [1])], .xread, .dispatch [[1]], .send, .handOver,
        .examine 1, .publish ['t'] ⟨3, 0⟩ []]
      (by decide +kernel)
  rcases run with ⟨broker, run, ⟨sub, present, delivered⟩, published⟩
  rcases (invisible.2 ['t'] 1 true (vacant_starting _ _ _ _ _)).2 broker run with
    ⟨follows, later, served, continued, _, present', received⟩
  rcases follows sub present with ⟨reader, _, entries, _, same⟩
  exact ⟨broker, run, invisible.1 ['t'], ⟨sub, reader, present, delivered, entries, same⟩,
    later, served, continued, present', received.trans published⟩

end Broker

end Tassis.RedisBroker
