import Tassis.RedisBroker.Wellformed

/-! # Gapless delivery

A subscriber is delivered no message before every earlier message of its
stream, provided that a read never starts past an undelivered message of a
subscriber it is dispatched to and that the filter skips nothing new.
-/

namespace Tassis.RedisBroker

/-! ## What a subscriber has and what a batch brings -/

namespace Subscriber

/-- Each delivery came after the delivery of every earlier entry that lies after
the starting offset. -/
def Gapless (sub : Subscriber) (entries : List Message) : Prop :=
  ∀ earlier later, earlier ++ [later] <+: sub.delivered →
    ∀ entry, entry ∈ entries → sub.startingOffset.position < entry.id →
      entry.id < later → entry.id ∈ earlier

/-- Every entry after the starting offset and up to `position` has been
delivered. -/
def CaughtUp (sub : Subscriber) (entries : List Message) (position : MessageID) : Prop :=
  ∀ entry, entry ∈ entries → sub.startingOffset.position < entry.id →
    entry.id ≤ position → entry.id ∈ sub.delivered

/-- A batch leaves no gap: it is in order, and every entry up to one of its
messages has been delivered or is in the batch. -/
structure Fits (sub : Subscriber) (entries : List Message) (msgs : List Message) : Prop where
  sorted : msgs.Pairwise fun a b => a.id < b.id
  complete : ∀ entry, entry ∈ entries → sub.startingOffset.position < entry.id →
    ∀ msg, msg ∈ msgs → entry.id ≤ msg.id →
      entry.id ∈ sub.delivered ∨ entry.id ∈ msgs.map Message.id

variable {sub later : Subscriber} {entries entries' msgs rest : List Message}
  {last position : MessageID} {msg : Message}

theorem CaughtUp.extend (caughtUp : sub.CaughtUp entries position)
    (progress : sub.Progress later) (within : position ≤ last)
    (extended : ∀ entry, entry ∈ entries' → entry ∈ entries ∨ last < entry.id) :
    later.CaughtUp entries' position := by
  intro entry member after upTo
  rw [progress.startingOffset] at after
  rcases extended entry member with earlier | new
  · exact progress.delivered _ (caughtUp entry earlier after upTo)
  · exact absurd (upTo.trans within) (not_le.mpr new)

theorem CaughtUp.mono {lower : MessageID} (caughtUp : sub.CaughtUp entries position)
    (below : lower ≤ position) : sub.CaughtUp entries lower :=
  fun entry member after upTo => caughtUp entry member after (upTo.trans below)

theorem Fits.extend (fits : sub.Fits entries msgs) (progress : sub.Progress later)
    (within : ∀ msg, msg ∈ msgs → msg.id ≤ last)
    (extended : ∀ entry, entry ∈ entries' → entry ∈ entries ∨ last < entry.id) :
    later.Fits entries' msgs where
  sorted := fits.sorted
  complete := by
    intro entry member after msg inBatch upTo
    rw [progress.startingOffset] at after
    rcases extended entry member with earlier | new
    · rcases fits.complete entry earlier after msg inBatch upTo with delivered | listed
      · exact Or.inl (progress.delivered _ delivered)
      · exact Or.inr listed
    · exact absurd (upTo.trans (within msg inBatch)) (not_le.mpr new)

/-- Everything before the head of a fitting batch has been delivered. -/
theorem Fits.delivered_of_lt (fits : sub.Fits entries (msg :: rest)) {entry : Message}
    (member : entry ∈ entries) (after : sub.startingOffset.position < entry.id)
    (before : entry.id < msg.id) : entry.id ∈ sub.delivered := by
  rcases fits.complete entry member after msg (by simp) (le_of_lt before) with
    delivered | listed
  · exact delivered
  · rcases List.mem_map.mp listed with ⟨other, inBatch, equal⟩
    rcases List.mem_cons.mp inBatch with isHead | inRest
    · exact absurd before (by simp [← equal, isHead])
    · have above := (List.pairwise_cons.mp fits.sorted).1 other inRest
      rw [equal] at above
      exact absurd before (lt_asymm above)

theorem Fits.caughtUp_deliver (fits : sub.Fits entries (msg :: rest)) :
    (sub.deliver msg rest).CaughtUp entries msg.id := by
  intro entry member after upTo
  rcases lt_or_eq_of_le upTo with before | equal
  · exact List.mem_append_left _ (fits.delivered_of_lt member after before)
  · exact List.mem_append_right _ (by simp [equal])

theorem Gapless.deliver (gapless : sub.Gapless entries) (fits : sub.Fits entries (msg :: rest)) :
    (sub.deliver msg rest).Gapless entries := by
  intro earlier later isPrefix entry member after before
  rcases List.prefix_concat_iff.mp isPrefix with whole | isPrefix
  · rcases List.append_inj' whole rfl with ⟨rfl, last⟩
    cases last
    exact fits.delivered_of_lt member after before
  · exact gapless earlier later isPrefix entry member after before

theorem Gapless.extend (gapless : sub.Gapless entries)
    (within : ∀ id, id ∈ sub.delivered → id ≤ last)
    (extended : ∀ entry, entry ∈ entries' → entry ∈ entries ∨ last < entry.id) :
    sub.Gapless entries' := by
  intro earlier id isPrefix entry member after before
  rcases extended entry member with existing | new
  · exact gapless earlier id isPrefix entry existing after before
  · have bound := within id (isPrefix.subset (by simp))
    exact absurd (before.trans_le bound) (lt_asymm new)

/-- The rest of a fitting batch still fits once its head has been dealt with. -/
theorem Fits.tail (fits : sub.Fits entries (msg :: rest)) (progress : sub.Progress later)
    (dealtWith : ∀ entry, entry ∈ entries → sub.startingOffset.position < entry.id →
      entry.id = msg.id → entry.id ∈ later.delivered) : later.Fits entries rest where
  sorted := (List.pairwise_cons.mp fits.sorted).2
  complete := by
    intro entry member after other inRest upTo
    rw [progress.startingOffset] at after
    rcases fits.complete entry member after other (by simp [inRest]) upTo with
      delivered | listed
    · exact Or.inl (progress.delivered _ delivered)
    · rcases List.mem_cons.mp listed with isHead | listed
      · exact Or.inl (dealtWith entry member after isHead)
      · exact Or.inr listed

theorem Progress.refl (sub : Subscriber) : sub.Progress sub :=
  ⟨rfl, rfl, fun _ member => member⟩

/-- What holds of each subscriber when there are no gaps. -/
structure OnTrack (sub : Subscriber) (entries : List Message) : Prop where
  gapless : sub.Gapless entries
  caughtUp : sub.CaughtUp entries sub.offset.position
  batch : ∀ msgs, sub.loop = .processing msgs → sub.Fits entries msgs

theorem OnTrack.new (stream : Stream) (startingOffset : Offset) (entries : List Message) :
    (Subscriber.new stream startingOffset).OnTrack entries where
  gapless earlier later isPrefix := by simp [Subscriber.new] at isPrefix
  caughtUp entry member after upTo := absurd upTo (not_le.mpr after)
  batch msgs processing := by simp [Subscriber.new] at processing

theorem OnTrack.extend (onTrack : sub.OnTrack entries) (within : sub.Within last)
    (extended : ∀ entry, entry ∈ entries' → entry ∈ entries ∨ last < entry.id) :
    sub.OnTrack entries' where
  gapless := onTrack.gapless.extend within.delivered extended
  caughtUp := onTrack.caughtUp.extend (.refl sub) within.offset extended
  batch msgs processing := (onTrack.batch msgs processing).extend (.refl sub)
    (within.remaining msgs processing) extended

/-- A new loop position keeps a subscriber on track if its batch fits. -/
theorem OnTrack.withLoop (onTrack : sub.OnTrack entries) {loop : ProcessLoop}
    (batch : ∀ msgs, loop = .processing msgs → sub.Fits entries msgs) :
    OnTrack { sub with loop := loop } entries where
  gapless := onTrack.gapless
  caughtUp := onTrack.caughtUp
  batch msgs processing :=
    ⟨(batch msgs processing).sorted, (batch msgs processing).complete⟩

/-- Nothing has been delivered, and nothing is about to be. -/
structure Fresh (sub : Subscriber) : Prop where
  delivered : sub.delivered = []
  loop : ∀ msgs, sub.loop ≠ .processing msgs

theorem Fresh.new (stream : Stream) (startingOffset : Offset) :
    (Subscriber.new stream startingOffset).Fresh :=
  ⟨rfl, fun _ => nofun⟩

/-- The filter lets every message after the offset pass. -/
def FilterPasses (sub : Subscriber) : Prop :=
  ∀ msg, msg ∈ sub.upNext → sub.offset.position < msg.id →
    sub.offset.lessThan (.message msg.id) = true

instance (sub : Subscriber) : Decidable sub.FilterPasses :=
  inferInstanceAs (Decidable (∀ msg, msg ∈ sub.upNext → _))

theorem OnTrack.examine {examined : Subscriber} (onTrack : sub.OnTrack entries)
    (passes : sub.FilterPasses) (examines : sub.examine = some examined) :
    examined.OnTrack entries := by
  rcases examine_cases examines with ⟨msg, rest, loop, ⟨_, _, rfl⟩ | ⟨filtered, rfl⟩⟩
  · have fits := onTrack.batch _ loop
    constructor
    · exact onTrack.gapless.deliver fits
    · exact fits.caughtUp_deliver
    · intro msgs processing
      cases processing
      have progress : sub.Progress (sub.deliver msg rest) :=
        ⟨rfl, rfl, fun id member => List.mem_append_left _ member⟩
      apply fits.tail progress
      intro entry member after equal
      exact List.mem_append_right _ (by simp [equal])
  · apply onTrack.withLoop
    intro msgs processing
    cases processing
    -- A message that is filtered out is not after the offset, so it was delivered.
    apply (onTrack.batch _ loop).tail (.refl sub)
    intro entry member after equal
    apply onTrack.caughtUp entry member after
    rw [equal, ← not_lt]
    intro new
    rw [passes msg (by simp [upNext, loop]) new] at filtered
    cases filtered

end Subscriber

namespace Broker

variable {broker next : Broker} {action : Action}

/-- A sorted list is cut by `take` at one ID. -/
theorem mem_take_of_le {entries : List Message} {count : Nat} {entry later : Message}
    (sorted : entries.Pairwise fun a b => a.id < b.id) (taken : later ∈ entries.take count)
    (member : entry ∈ entries) (upTo : entry.id ≤ later.id) :
    entry ∈ entries.take count := by
  rw [← List.take_append_drop count entries] at sorted member
  rcases List.mem_append.mp member with member | dropped
  · exact member
  · have above := (List.pairwise_append.mp sorted).2.2 later taken entry dropped
    exact absurd upTo (not_le.mpr above)

/-- Reading from an offset up to which a subscriber has caught up gives a
batch that fits it. -/
theorem fits_entriesAfter (wellformed : Wellformed broker) {sub : Subscriber} {stream : Stream}
    {offset : Offset} (caughtUp : sub.CaughtUp (broker.streams stream) offset.position) :
    sub.Fits (broker.streams stream) (broker.entriesAfter stream offset) := by
  have filtered := (wellformed.sorted stream).filter
    (fun entry => decide (offset.position < entry.id))
  constructor
  · exact filtered.sublist (List.take_sublist _ _)
  · intro entry member after msg inBatch upTo
    by_cases read : offset.position < entry.id
    · apply Or.inr
      apply List.mem_map_of_mem
      apply mem_take_of_le filtered inBatch _ upTo
      exact List.mem_filter.mpr ⟨member, by simpa using read⟩
    · exact Or.inl (caughtUp entry member after (not_lt.mp read))

/-! ## The condition on the steps -/

/-- No message that a new subscriber should get lies before what was read. -/
def JoinsWithoutGap (broker : Broker) (stream : Stream) (startingOffset : Offset) : Prop :=
  match broker.reader with
  | .read results =>
      ∀ result, result ∈ results → result.1 = stream →
        ∀ entry, entry ∈ broker.streams stream → startingOffset.position < entry.id →
          ∀ msg, msg ∈ result.2 → entry.id ≤ msg.id → entry.id ∈ result.2.map Message.id
  | _ => True

instance (broker : Broker) (stream : Stream) (startingOffset : Offset) :
    Decidable (broker.JoinsWithoutGap stream startingOffset) := by
  unfold JoinsWithoutGap
  split <;> infer_instance

/-- No message for a subscriber that has been delivered nothing yet lies before the
offset. -/
def StartsBelow (broker : Broker) (stream : Stream) (offset : Offset) : Prop :=
  ∀ id, id ∈ broker.subscribersForStream stream → ∀ sub, sub ∈ broker.subscribers id →
    sub.delivered = [] → ∀ entry, entry ∈ broker.streams stream →
      sub.startingOffset.position < entry.id → offset.position < entry.id

instance (broker : Broker) (stream : Stream) (offset : Offset) :
    Decidable (broker.StartsBelow stream offset) :=
  inferInstanceAs (Decidable (∀ id, id ∈ broker.subscribersForStream stream → _))

/-- A read that brings something does not start after such a message. -/
def ReadsWithoutGap (broker : Broker) : Prop :=
  match broker.reader with
  | .gathered request =>
      ∀ result, result ∈ broker.xread request →
        ∀ requested, requested ∈ request → requested.1 = result.1 →
          ∀ offset, offset ∈ requested.2 → broker.StartsBelow result.1 offset
  | _ => True

instance (broker : Broker) : Decidable broker.ReadsWithoutGap := by
  unfold ReadsWithoutGap
  split <;> infer_instance

/-- The steps that cannot open a gap: the minimum search compares the offsets of a
stream's subscribers correctly, neither a read nor a subscriber that registers after it
passes by a message, and the filter does not take a new message for an old one. -/
def GapFree (broker : Broker) : Action → Prop
  | .register id =>
      ∀ call, call ∈ broker.joining id → broker.JoinsWithoutGap call.1 call.2
  | .gather order =>
      ∀ entry, entry ∈ order → ∀ a, a ∈ broker.offsetsOf entry.2 →
        ∀ b, b ∈ broker.offsetsOf entry.2 → Offset.Agrees a b
  | .xread => broker.ReadsWithoutGap
  | .examine id => ∀ sub, sub ∈ broker.subscribers id → sub.FilterPasses
  | _ => True

instance (broker : Broker) (action : Action) : Decidable (broker.GapFree action) :=
  match action with
  | .register id => inferInstanceAs (Decidable (∀ call, call ∈ broker.joining id → _))
  | .gather order => inferInstanceAs (Decidable (∀ entry, entry ∈ order → _))
  | .xread => inferInstanceAs (Decidable broker.ReadsWithoutGap)
  | .examine id => inferInstanceAs (Decidable (∀ sub, sub ∈ broker.subscribers id → _))
  | .publish .. | .trim .. | .readOffset .. | .close _ | .xreadFailed
  | .dispatch _ | .send | .skipClosed | .handOver | .processed _ | .recheck _ | .stop _
  | .deregister _ | .receive _ | .callAck .. | .processAcks .. | .restart => isTrue trivial

/-! ## The invariant -/

structure NoGaps (broker : Broker) : Prop where
  subscriber : ∀ id sub, broker.subscribers id = some sub →
    sub.OnTrack (broker.streams sub.stream)
  requested : ∀ request, broker.reader = .gathered request →
    ∀ entry, entry ∈ request → ∀ offset, entry.2 = some offset →
      ∀ id, id ∈ broker.subscribersForStream entry.1 →
        ∀ sub, broker.subscribers id = some sub →
          sub.CaughtUp (broker.streams entry.1) offset.position ∨ sub.Fresh
  sorted : ∀ results, broker.reader = .read results →
    ∀ entry, entry ∈ results → entry.2.Pairwise fun a b => a.id < b.id
  results : ∀ results, broker.reader = .read results →
    ∀ entry, entry ∈ results → ∀ id, id ∈ broker.subscribersForStream entry.1 →
      ∀ sub, broker.subscribers id = some sub →
        sub.Fits (broker.streams entry.1) entry.2
  work : ∀ send, send ∈ broker.reader.work →
    ∀ sub, broker.subscribers send.1 = some sub →
      sub.Fits (broker.streams sub.stream) send.2

namespace NoGaps

theorem initial : NoGaps Broker.initial where
  subscriber id sub present := by cases present
  requested request gathered := by cases gathered
  sorted results read := by cases read
  results results read := by cases read
  work send member := by cases member

/-- The offset requested for a stream is no greater than the offset of any of
its subscribers. -/
theorem lowestOffset_le {ids : List SubscriberID} {lowest : Offset}
    (agree : ∀ a, a ∈ broker.offsetsOf ids → ∀ b, b ∈ broker.offsetsOf ids →
      Offset.Agrees a b)
    (selected : lowestOffset (broker.offsetsOf ids) = some lowest) {offset : Offset}
    (member : offset ∈ broker.offsetsOf ids) : lowest.position ≤ offset.position :=
  selectBy.le_of_mem (List.pairwise_of_forall_mem_list
    fun left inLeft right inRight => agree right inRight left inLeft) selected offset member

/-- While the reader sends nothing, a subscriber stays fresh. -/
private theorem fresh_of_change {id : SubscriberID} {before sub : Subscriber}
    (fresh : before.Fresh) (quiet : ∀ target msgs work, broker.reader ≠ .sending target msgs work)
    (change : Change broker action id before sub) : sub.Fresh := by
  cases change with
  | none | closed | received => exact ⟨fresh.delivered, fresh.loop⟩
  | handedOver _ sending => exact absurd sending (quiet _ _ _)
  | examined _ examines =>
      rcases Subscriber.examine_cases examines with ⟨msg, rest, processing, _⟩
      exact absurd processing (fresh.loop _)
  | processed | stopped | deregistered => exact ⟨fresh.delivered, fun _ => nofun⟩
  | rechecked =>
      refine ⟨fresh.delivered, fun msgs processing => ?_⟩
      dsimp only at processing
      split at processing <;> cases processing

section Steps

variable (noGaps : NoGaps broker) (wellformed : Wellformed broker)
  (effect : Effect broker action next)

include noGaps wellformed effect

private theorem step_subscriber (gapFree : broker.GapFree action) (id : SubscriberID)
    (sub : Subscriber) (found : next.subscribers id = some sub) :
    sub.OnTrack (next.streams sub.stream) := by
  rcases effect.subscriber found with
    ⟨before, present, change⟩ | ⟨stream, startingOffset, _, _, rfl⟩
  · have extended := effect.extends.entries before.stream
    have within := wellformed.subscriber id before present
    have onTrack := (noGaps.subscriber id before present).extend within extended
    rw [← change.progress.stream] at onTrack
    cases change with
    | @handedOver handed work _ sending =>
        apply onTrack.withLoop
        intro msgs processing
        cases processing
        have member : (id, handed) ∈ broker.reader.work := by
          rw [sending]
          simp [Reader.work]
        exact (noGaps.work _ member before present).extend (.refl before)
          (wellformed.work _ member before present) extended
    | examined isExamine examines =>
        subst action
        exact onTrack.examine (gapFree before present) examines
    | processed | stopped | deregistered =>
        exact onTrack.withLoop fun msgs processing => by cases processing
    | rechecked =>
        apply onTrack.withLoop
        intro msgs processing
        split at processing <;> cases processing
    | none => exact onTrack
    | closed | received =>
        exact ⟨onTrack.gapless, onTrack.caughtUp, fun msgs processing =>
          ⟨(onTrack.batch msgs processing).sorted,
            (onTrack.batch msgs processing).complete⟩⟩
  · exact .new stream startingOffset _

private theorem step_requested (gapFree : broker.GapFree action)
    (request : List (Stream × Option Offset)) (gathered : next.reader = .gathered request)
    (entry : Stream × Option Offset) (member : entry ∈ request) (offset : Offset)
    (requested : entry.2 = some offset) (id : SubscriberID)
    (registered : id ∈ next.subscribersForStream entry.1) (sub : Subscriber)
    (found : next.subscribers id = some sub) :
    sub.CaughtUp (next.streams entry.1) offset.position ∨ sub.Fresh := by
  have extended := effect.extends.entries entry.1
  have change := effect.reader
  rw [gathered] at change
  rcases wellformed.registered_cases effect registered found with
    ⟨before, earlier, present, changed⟩ | ⟨startingOffset, rfl, joining, rfl⟩
  · cases change with
    | none unchanged =>
        rcases noGaps.requested request unchanged entry member offset requested id earlier
          before present with caughtUp | fresh
        · exact Or.inl (caughtUp.extend changed.progress
            (wellformed.requested request unchanged entry member offset requested) extended)
        · exact Or.inr (fresh_of_change fresh (by simp [unchanged]) changed)
    | gathered _ isGather arranges =>
        subst action
        rcases Wellformed.mem_gatherStreamsWithOffsets member requested with
          ⟨ids, arranged, lowest⟩
        have listed := (arranges.2 _ arranged).mem_iff.mpr earlier
        have below := lowestOffset_le (gapFree _ arranged) lowest
          (Wellformed.offset_mem_offsetsOf listed present)
        rcases wellformed.registered entry.1 id earlier with ⟨other, present', ofStream⟩
        rw [present] at present'
        cases present'
        rw [← ofStream] at extended ⊢
        exact Or.inl (((noGaps.subscriber id before present).caughtUp.mono below).extend
          changed.progress (below.trans (wellformed.subscriber id before present).offset)
          extended)
  · exact Or.inr (.new _ _)

private theorem step_sorted (results : List (Stream × List Message))
    (read : next.reader = .read results) (entry : Stream × List Message)
    (member : entry ∈ results) : entry.2.Pairwise fun a b => a.id < b.id := by
  have change := effect.reader
  rw [read] at change
  cases change with
  | none unchanged => exact noGaps.sorted results unchanged entry member
  | read gathered =>
      rcases Wellformed.mem_xread member with ⟨offset, _, found⟩
      rw [found]
      exact ((wellformed.sorted entry.1).filter _).sublist (List.take_sublist _ _)

private theorem step_results (gapFree : broker.GapFree action)
    (results : List (Stream × List Message)) (read : next.reader = .read results)
    (entry : Stream × List Message) (member : entry ∈ results) (id : SubscriberID)
    (registered : id ∈ next.subscribersForStream entry.1) (sub : Subscriber)
    (found : next.subscribers id = some sub) :
    sub.Fits (next.streams entry.1) entry.2 := by
  have extended := effect.extends.entries entry.1
  have change := effect.reader
  rw [read] at change
  rcases wellformed.registered_cases effect registered found with
    ⟨before, earlier, present, changed⟩ | ⟨startingOffset, rfl, joining, rfl⟩
  · cases change with
    | none unchanged =>
        exact (noGaps.results results unchanged entry member id earlier before
          present).extend changed.progress
          (wellformed.results results unchanged entry member) extended
    | read gathered isRead =>
        rcases Wellformed.mem_xread member with ⟨offset, requested, result⟩
        have caughtUp : before.CaughtUp (broker.streams entry.1) offset.position := by
          rcases noGaps.requested _ gathered _ requested offset rfl id earlier before present
            with caughtUp | fresh
          · exact caughtUp
          · -- A fresh subscriber needs nothing up to the requested offset.
            subst isRead
            have reads : broker.ReadsWithoutGap := gapFree
            simp only [ReadsWithoutGap, gathered] at reads
            intro needed inStream after upTo
            exact absurd (reads entry member _ requested rfl offset rfl id earlier before present
              fresh.delivered needed inStream after) (not_lt.mpr upTo)
        rw [result]
        apply (fits_entriesAfter wellformed caughtUp).extend changed.progress _ extended
        intro msg inBatch
        exact wellformed.bounded entry.1 msg (Wellformed.mem_entriesAfter inBatch).1
  · cases change with
    | none unchanged =>
        have joins := gapFree _ joining
        simp only [JoinsWithoutGap, unchanged] at joins
        refine ⟨noGaps.sorted results unchanged entry member, ?_⟩
        intro needed inStream after msg inBatch upTo
        rcases extended needed inStream with existing | new
        · exact Or.inr (joins entry member rfl needed existing after msg inBatch upTo)
        · have bound := wellformed.results results unchanged entry member msg inBatch
          exact absurd (upTo.trans bound) (not_le.mpr new)
    | read gathered =>
        cases effect
        cases gathered.symm.trans read

private theorem step_work (send : SubscriberID × List Message) (member : send ∈ next.reader.work)
    (sub : Subscriber) (found : next.subscribers send.1 = some sub) :
    sub.Fits (next.streams sub.stream) send.2 := by
  rcases wellformed.before_of_work effect member found with ⟨before, present, change, origin⟩
  rw [change.progress.stream]
  have extended := effect.extends.entries before.stream
  rcases origin with earlier | ⟨results, read, result, registered⟩
  · exact (noGaps.work send earlier before present).extend change.progress
      (wellformed.work send earlier before present) extended
  · exact (noGaps.results results read _ result _ registered before present).extend
      change.progress (wellformed.results results read _ result) extended

end Steps

theorem step (noGaps : NoGaps broker) (wellformed : Wellformed broker)
    (gapFree : broker.GapFree action) (effect : Effect broker action next) : NoGaps next where
  subscriber := step_subscriber noGaps wellformed effect gapFree
  requested := step_requested noGaps wellformed effect gapFree
  sorted := step_sorted noGaps wellformed effect
  results := step_results noGaps wellformed effect gapFree
  work := step_work noGaps wellformed effect

theorem of_reaches (reaches : Reaches GapFree broker) : NoGaps broker :=
  Transition.Run.preserves reaches initial fun _ _ _ reached noGaps gapFree taken =>
    noGaps.step (Wellformed.of_reaches reached) gapFree (effect_of_step taken)

end NoGaps

/-- In every run of gap-free steps, a subscriber is delivered a message only
after every earlier message of its stream that lies after its starting
offset. -/
theorem delivered_without_gap (reaches : Reaches GapFree broker) {id : SubscriberID}
    {sub : Subscriber} (present : broker.subscribers id = some sub) {earlier : List MessageID}
    {later : MessageID} (delivered : earlier ++ [later] <+: sub.delivered) {entry : Message}
    (member : entry ∈ broker.streams sub.stream) (after : sub.startingOffset.position < entry.id)
    (before : entry.id < later) :
    entry.id ∈ earlier :=
  ((NoGaps.of_reaches reaches).subscriber id sub present).gapless earlier later delivered
    entry member after before

/-! ## Runs of two subscribers -/

/-- One round of the reader loop that serves subscriber 1 alone. -/
def soloRound (stream : Stream) : List Action :=
  [.gather [(stream, [1])], .xread, .dispatch [[1]], .send, .handOver, .examine 1,
    .processed 1, .recheck 1, .send]

/-- A subscriber joins while a read that starts after the first message is in
progress, and is dispatched the second message. -/
def lateJoin : List Action :=
  [.publish ['t'] ⟨1, 0⟩ [], .readOffset 1 ['t'], .register 1] ++ soloRound ['t'] ++
  [.publish ['t'] ⟨2, 0⟩ [], .gather [(['t'], [1])], .readOffset 2 ['t'], .register 2,
    .xread, .dispatch [[2, 1]], .send, .handOver, .examine 2]

/-- The same messages and subscribers, with the second one joining before the
offsets are gathered. -/
def timelyJoin : List Action :=
  [.publish ['t'] ⟨1, 0⟩ [], .readOffset 1 ['t'], .register 1] ++ soloRound ['t'] ++
  [.publish ['t'] ⟨2, 0⟩ [], .readOffset 2 ['t'], .register 2, .gather [(['t'], [1, 2])],
    .xread, .dispatch [[2, 1]], .send, .handOver, .examine 2, .examine 2]

/-- The late subscriber starts before the first message and is delivered only
the second one. -/
theorem lateJoin_leaves_gap :
    ∃ broker, Reaches Transition.anyStep broker ∧
      ∃ sub, sub ∈ broker.subscribers 2 ∧ sub.startingOffset = .minOffset ∧
        ⟨⟨1, 0⟩, []⟩ ∈ broker.streams sub.stream ∧ sub.delivered = [⟨2, 0⟩] :=
  Transition.Run.exists_of_execute lateJoin (by decide)

/-- The timely subscriber gets the first message before the second one. -/
theorem timelyJoin_without_gap :
    ∃ broker, Reaches GapFree broker ∧ ∃ sub, sub ∈ broker.subscribers 2 ∧
      ∃ earlier, earlier ++ [⟨2, 0⟩] <+: sub.delivered ∧ ⟨1, 0⟩ ∈ earlier := by
  have run : ∃ broker, Reaches GapFree broker ∧
      ∃ sub, sub ∈ broker.subscribers 2 ∧ sub.startingOffset = .minOffset ∧
        ⟨⟨1, 0⟩, []⟩ ∈ broker.streams sub.stream ∧
        [⟨1, 0⟩] ++ [⟨2, 0⟩] <+: sub.delivered :=
    Transition.Run.exists_of_execute timelyJoin (by decide)
  rcases run with ⟨broker, reaches, sub, present, start, member, delivered⟩
  refine ⟨broker, reaches, sub, present, _, delivered, ?_⟩
  exact delivered_without_gap reaches present delivered member (by rw [start]; decide)
    (by decide)

end Broker

end Tassis.RedisBroker
