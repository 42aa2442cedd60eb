import Tassis.RedisBroker.SoleReader

/-! # Serving the sole subscriber of a stream

Between the offset of a subscriber and its messages stand the reader loop and
the process loop, with a request or a batch in hand. As long as nobody else
subscribes to the stream, the two loops refine a sole reader.
-/

namespace Tassis.RedisBroker

/-! ## What the loops have in hand -/

/-- The entries for this stream in the request under way. -/
def Reader.requested (reader : Reader) (stream : Stream) : List (Stream × Option Offset) :=
  match reader with
  | .gathered request => request.filter fun entry => entry.1 = stream
  | _ => []

/-- The batches that have been read for this stream and are not dispatched yet. -/
def Reader.readFor (reader : Reader) (stream : Stream) : List (Stream × List Message) :=
  match reader with
  | .read results => results.filter fun result => result.1 = stream
  | _ => []

/-- The sends still to be made to this subscriber. -/
def Reader.workFor (reader : Reader) (id : SubscriberID) : List (SubscriberID × List Message) :=
  reader.work.filter fun send => send.1 = id

/-- The reader loop waits for this subscriber. -/
def Reader.awaits (reader : Reader) (id : SubscriberID) : Prop :=
  match reader with
  | .awaiting target _ => target = id
  | _ => False

/-- The reader loop has nothing to do with this stream and this subscriber. -/
structure Reader.Ignores (reader : Reader) (stream : Stream) (id : SubscriberID) : Prop where
  requested : reader.requested stream = []
  readFor : reader.readFor stream = []
  workFor : reader.workFor id = []
  notAwaiting : ¬reader.awaits id

/-- What the loops of the broker have in hand for a subscriber that has to read
these messages: nothing, a request from its offset, or one batch of the messages
that come next. -/
inductive InHand (stream : Stream) (id : SubscriberID) (offset : Offset)
    (unread : List Message) : Reader → ProcessLoop → Prop where
  | nothing {reader loop} (ignores : reader.Ignores stream id)
      (waiting : loop = .selecting ∨ loop = .checking) :
      InHand stream id offset unread reader loop
  | requested {reader loop} (requested : reader.requested stream = [(stream, some offset)])
      (waiting : loop = .selecting ∨ loop = .checking) :
      InHand stream id offset unread reader loop
  | read {reader loop msgs} (readFor : reader.readFor stream = [(stream, msgs)])
      (next : msgs <+: unread) (waiting : loop = .selecting ∨ loop = .checking) :
      InHand stream id offset unread reader loop
  | dispatched {reader loop msgs} (workFor : reader.workFor id = [(id, msgs)])
      (next : msgs <+: unread) (notAwaiting : ¬reader.awaits id)
      (waiting : loop = .selecting ∨ loop = .checking) :
      InHand stream id offset unread reader loop
  | processing {work msgs} (workFor : (Reader.awaiting id work).workFor id = [])
      (next : msgs <+: unread) :
      InHand stream id offset unread (.awaiting id work) (.processing msgs)

theorem InHand.extend {stream : Stream} {id : SubscriberID} {offset : Offset}
    {unread unread' : List Message} {reader : Reader} {loop : ProcessLoop}
    (inHand : InHand stream id offset unread reader loop) (extended : unread <+: unread') :
    InHand stream id offset unread' reader loop := by
  cases inHand with
  | nothing ignores waiting => exact .nothing ignores waiting
  | requested requested waiting => exact .requested requested waiting
  | read readFor next waiting => exact .read readFor (next.trans extended) waiting
  | dispatched workFor next notAwaiting waiting =>
      exact .dispatched workFor (next.trans extended) notAwaiting waiting
  | processing workFor next => exact .processing workFor (next.trans extended)

theorem InHand.waiting {stream : Stream} {id : SubscriberID} {offset : Offset}
    {unread : List Message} {reader : Reader} {loop : ProcessLoop}
    (inHand : InHand stream id offset unread reader loop)
    (notAwaiting : ¬reader.awaits id) : loop = .selecting ∨ loop = .checking := by
  cases inHand with
  | nothing ignores waiting => exact waiting
  | requested requested waiting => exact waiting
  | read readFor next waiting => exact waiting
  | dispatched workFor next notAwaiting waiting => exact waiting
  | processing workFor next => exact absurd rfl notAwaiting

/-- A reader loop that has begun its sends goes on with them. -/
theorem InHand.sends {stream : Stream} {id : SubscriberID} {offset : Offset}
    {unread : List Message} {reader later : Reader} {loop : ProcessLoop}
    (inHand : InHand stream id offset unread reader loop)
    (began : reader.requested stream = [] ∧ reader.readFor stream = [] ∧ ¬reader.awaits id)
    (goesOn : later.requested stream = [] ∧ later.readFor stream = [] ∧ ¬later.awaits id)
    (sameWork : reader.workFor id = later.workFor id) :
    InHand stream id offset unread later loop := by
  cases inHand with
  | nothing ignores waiting =>
      exact .nothing ⟨goesOn.1, goesOn.2.1, sameWork.symm.trans ignores.workFor, goesOn.2.2⟩
        waiting
  | requested requested => cases began.1.symm.trans requested
  | read readFor => cases began.2.1.symm.trans readFor
  | dispatched workFor next _ waiting =>
      exact .dispatched (sameWork.symm.trans workFor) next goesOn.2.2 waiting
  | processing => exact absurd rfl began.2.2

namespace Broker

/-- A subscriber is the only one of its stream, and it has been delivered what
the sole reader has. -/
structure Serves (broker : Broker) (stream : Stream) (id : SubscriberID)
    (reader : SoleReader) (sub : Subscriber) : Prop where
  present : broker.subscribers id = some sub
  ofStream : sub.stream = stream
  isOpen : sub.closed = false
  offset : sub.offset = reader.offset
  delivered : sub.delivered = reader.delivered.map Message.id
  registered : broker.subscribersByStream.lookup stream = some [id]
  inHand : InHand stream id reader.offset reader.unread broker.reader sub.loop

/-- A call of `NewSubscriber` has read the offset, and no other subscriber of the
stream is registered or served. -/
structure Admits (broker : Broker) (stream : Stream) (id : SubscriberID)
    (reader : SoleReader) : Prop where
  joining : broker.joining id = some (stream, reader.offset)
  unused : broker.subscribers id = none
  delivered : reader.delivered = []
  unregistered : broker.subscribersByStream.lookup stream = none
  ignores : broker.reader.Ignores stream id

/-- The broker refines the sole reader of a stream. -/
structure Follows (width : Nat) (stream : Stream) (id : SubscriberID) (broker : Broker)
    (reader : SoleReader) : Prop where
  wellformed : Wellformed broker
  sound : SoleReader.Sound width reader
  entries : broker.streams stream = reader.entries
  lastID : broker.lastID stream = reader.lastID
  others : ∀ other call, broker.joining other = some call → call.1 = stream → other = id
  serves : broker.Admits stream id reader ∨ ∃ sub, broker.Serves stream id reader sub

/-- Nobody else subscribes to the stream, the subscriber stays open, and the
stream is not trimmed. -/
def Alone (width : Nat) (stream : Stream) (id : SubscriberID) (_ : Broker) : Action → Prop
  | .publish published messageID _ => published = stream → messageID.Ranged width
  | .trim trimmed _ => trimmed ≠ stream
  | .readOffset _ other => other ≠ stream
  | .close closed => closed ≠ id
  | .restart => False
  | _ => True

instance (width : Nat) (stream : Stream) (id : SubscriberID) (broker : Broker)
    (action : Action) : Decidable (Alone width stream id broker action) :=
  match action with
  | .publish published messageID _ =>
      inferInstanceAs (Decidable (published = stream → messageID.Ranged width))
  | .trim trimmed _ => inferInstanceAs (Decidable (trimmed ≠ stream))
  | .readOffset _ other => inferInstanceAs (Decidable (other ≠ stream))
  | .close closed => inferInstanceAs (Decidable (closed ≠ id))
  | .restart => inferInstanceAs (Decidable False)
  | .register _ | .gather _ | .xread | .xreadFailed | .dispatch _ | .send | .skipClosed
  | .handOver | .examine _ | .processed _ | .recheck _ | .stop _ | .deregister _
  | .receive _ | .callAck .. | .processAcks .. => inferInstanceAs (Decidable True)

variable {width : Nat} {stream : Stream} {id : SubscriberID} {broker next : Broker}
  {action : Action} {reader : SoleReader} {sub : Subscriber}

/-! ## What the reader loop finds for the stream -/

theorem filter_key_eq_singleton {Key Value : Type} [DecidableEq Key]
    {entries : List (Key × Value)} (once : (entries.map Prod.fst).Nodup) {key : Key}
    {value : Value} (member : (key, value) ∈ entries) :
    (entries.filter fun entry => entry.1 = key) = [(key, value)] := by
  induction entries with
  | nil => cases member
  | cons first rest induction =>
      rw [List.map_cons, List.nodup_cons] at once
      rcases List.mem_cons.mp member with isFirst | later
      · subst isFirst
        have others : (rest.filter fun entry => entry.1 = key) = [] := by
          rw [List.filter_eq_nil_iff]
          intro entry listed same
          exact once.1 (List.mem_map.mpr ⟨entry, listed, of_decide_eq_true same⟩)
        rw [List.filter_cons_of_pos (by simp), others]
      · have different : first.1 ≠ key := fun equal =>
          once.1 (List.mem_map.mpr ⟨_, later, equal.symm⟩)
        rw [List.filter_cons_of_neg (by simpa using different), induction once.2 later]

/-- The offset gathered for the stream is that of its sole subscriber. -/
theorem Serves.requested_gather (serves : broker.Serves stream id reader sub)
    {order : List (Stream × List SubscriberID)} (arranges : broker.Arranges order) :
    ((broker.gatherStreamsWithOffsets order).filter fun entry => entry.1 = stream) =
      [(stream, some reader.offset)] := by
  have once : (order.map Prod.fst).Nodup :=
    arranges.1.nodup_iff.mpr broker.subscribersByStream.nodupKeys
  have listed : stream ∈ order.map Prod.fst := by
    rw [arranges.1.mem_iff, ← AList.mem_keys, ← AList.lookup_isSome, serves.registered]
    rfl
  rcases List.mem_map.mp listed with ⟨⟨_, ids⟩, member, rfl⟩
  have sole : ids = [id] := by
    have permuted := arranges.2 _ member
    rw [subscribersForStream, serves.registered, Option.getD_some] at permuted
    exact List.perm_singleton.mp permuted
  have requested : ((broker.gatherStreamsWithOffsets order).map Prod.fst).Nodup := by
    rw [gatherStreamsWithOffsets, List.map_map]
    exact once
  apply filter_key_eq_singleton requested
  refine List.mem_map.mpr ⟨_, member, ?_⟩
  subst sole
  simp only [offsetsOf, List.filterMap_cons, serves.present, Option.map_some,
    List.filterMap_nil, serves.offset]
  rfl

theorem Admits.requested_gather (admits : broker.Admits stream id reader)
    {order : List (Stream × List SubscriberID)} (arranges : broker.Arranges order) :
    ((broker.gatherStreamsWithOffsets order).filter fun entry => entry.1 = stream) = [] := by
  rw [List.filter_eq_nil_iff]
  intro entry member same
  rcases List.mem_map.mp member with ⟨arranged, listed, rfl⟩
  have keyed : stream ∈ broker.subscribersByStream.keys := by
    rw [← arranges.1.mem_iff, ← of_decide_eq_true same]
    exact List.mem_map_of_mem listed
  rw [← AList.mem_keys, ← AList.lookup_isSome, admits.unregistered] at keyed
  cases keyed

/-- A map that keeps the keys can be applied to the entries of one key. -/
theorem filter_filterMap_key {Key Value Value' : Type} [DecidableEq Key]
    {change : Key × Value → Option (Key × Value')}
    (keeps : ∀ entry changed, change entry = some changed → changed.1 = entry.1)
    (entries : List (Key × Value)) (key : Key) :
    ((entries.filterMap change).filter fun entry => entry.1 = key) =
      (entries.filter fun entry => entry.1 = key).filterMap change := by
  induction entries with
  | nil => rfl
  | cons first rest induction =>
      by_cases same : first.1 = key
      · rw [List.filter_cons_of_pos (by simpa using same), List.filterMap_cons,
          List.filterMap_cons]
        cases changes : change first with
        | none => exact induction
        | some changed =>
            have sameKey : changed.1 = key := (keeps first changed changes).trans same
            rw [List.filter_cons_of_pos (by simpa using sameKey), induction]
      · rw [List.filter_cons_of_neg (by simpa using same), List.filterMap_cons]
        cases changes : change first with
        | none => exact induction
        | some changed =>
            have otherKey : changed.1 ≠ key := by
              rw [keeps first changed changes]
              exact same
            rw [List.filter_cons_of_neg (by simpa using otherKey), induction]

/-- What is read for a stream: nothing, or the entries after the offset that was
requested. -/
theorem xread_filter {request : List (Stream × Option Offset)} {offset : Offset}
    (requested : (request.filter fun entry => entry.1 = stream) = [(stream, some offset)]) :
    ((broker.xread request).filter fun result => result.1 = stream) = [] ∨
    ((broker.xread request).filter fun result => result.1 = stream) =
      [(stream, broker.entriesAfter stream offset)] := by
  unfold xread
  split
  · exact Or.inl rfl
  · rw [filter_filterMap_key _ request stream, requested, List.filterMap_cons,
      List.filterMap_nil]
    · simp only [Option.getD_some]
      cases found : broker.entriesAfter stream offset with
      | nil => exact Or.inl rfl
      | cons msg rest => exact Or.inr rfl
    · intro entry changed changes
      split at changes
      · cases changes
      · cases changes
        rfl

theorem xread_filter_of_nil {request : List (Stream × Option Offset)}
    (requested : (request.filter fun entry => entry.1 = stream) = []) :
    ((broker.xread request).filter fun result => result.1 = stream) = [] := by
  rw [List.filter_eq_nil_iff] at requested ⊢
  intro result member same
  rcases Wellformed.mem_xread member with ⟨offset, listed, _⟩
  exact requested _ listed same

/-- Of a dispatch, the sole subscriber gets what was read for its stream. -/
theorem Serves.workFor_dispatch (serves : broker.Serves stream id reader sub)
    (wellformed : Wellformed broker) {results : List (Stream × List Message)}
    {order : List (List SubscriberID)} (arranges : broker.ArrangesDispatch results order) :
    ((dispatchWork results order).filter fun send => send.1 = id) =
      (results.filter fun result => result.1 = stream).map fun result => (id, result.2) := by
  have others : ∀ other, id ∈ broker.subscribersForStream other → other = stream := by
    intro other member
    rcases wellformed.registered other id member with ⟨found, present, ofStream⟩
    cases serves.present.symm.trans present
    exact ofStream.symm.trans serves.ofStream
  rcases arranges with ⟨sameLength, permuted⟩
  induction results generalizing order with
  | nil =>
      cases order with
      | nil => rfl
      | cons => cases sameLength
  | cons result results induction =>
      cases order with
      | nil => cases sameLength
      | cons ids order =>
          have rest := induction (Nat.succ.inj sameLength)
            (fun entry member => permuted entry (List.mem_cons_of_mem _ member))
          have head := permuted (result, ids) List.mem_cons_self
          rw [dispatchWork, List.zip_cons_cons, List.flatMap_cons, List.filter_append]
          change _ ++ ((dispatchWork results order).filter fun send => send.1 = id) = _
          rw [rest]
          by_cases same : result.1 = stream
          · have sole : ids = [id] := by
              rw [same, subscribersForStream, serves.registered, Option.getD_some] at head
              exact List.perm_singleton.mp head
            rw [List.filter_cons_of_pos (by simpa using same), sole]
            simp
          · have absent : id ∉ ids := fun member =>
              same (others result.1 (head.mem_iff.mp member))
            have none : ((ids.map fun target => (target, result.2)).filter
                fun send => send.1 = id) = [] := by
              rw [List.filter_eq_nil_iff]
              intro send listed sent
              rcases List.mem_map.mp listed with ⟨target, member, rfl⟩
              exact absent (of_decide_eq_true sent ▸ member)
            rw [List.filter_cons_of_neg (by simpa using same), none, List.nil_append]

theorem workFor_dispatch_of_unused (wellformed : Wellformed broker)
    (unused : broker.subscribers id = none) {results : List (Stream × List Message)}
    {order : List (List SubscriberID)} (arranges : broker.ArrangesDispatch results order) :
    ((dispatchWork results order).filter fun send => send.1 = id) = [] := by
  rw [List.filter_eq_nil_iff]
  intro send member sent
  rcases Wellformed.mem_dispatchWork arranges member with ⟨_, _, registered⟩
  rcases wellformed.registered _ _ registered with ⟨found, present, _⟩
  rw [of_decide_eq_true sent, unused] at present
  cases present

/-! ## Steps before the subscriber is registered -/

theorem ignores_idle (stream : Stream) (id : SubscriberID) : Reader.idle.Ignores stream id :=
  ⟨rfl, rfl, rfl, not_false⟩

/-- The work of a dispatch is ignored if none of it is for the subscriber. -/
theorem ignores_dispatching {work : List (SubscriberID × List Message)}
    (workFor : (work.filter fun send => send.1 = id) = []) :
    (Reader.dispatching work).Ignores stream id :=
  ⟨rfl, rfl, workFor, not_false⟩

theorem Admits.ignores_step (admits : broker.Admits stream id reader)
    (wellformed : Wellformed broker) (effect : Effect broker action next) :
    next.reader.Ignores stream id := by
  have ignores := admits.ignores
  have change := effect.reader
  generalize next.reader = after at change
  cases change with
  | none unchanged => exact unchanged ▸ ignores
  | idle | restarted => exact ignores_idle stream id
  | gathered idle isGather arranges =>
      exact ⟨admits.requested_gather arranges, rfl, rfl, not_false⟩
  | read gathered =>
      rw [gathered] at ignores
      exact ⟨rfl, xread_filter_of_nil ignores.requested, rfl, not_false⟩
  | dispatched read arranges =>
      exact ignores_dispatching (workFor_dispatch_of_unused wellformed admits.unused arranges)
  | entered dispatching =>
      rw [dispatching] at ignores
      exact ⟨rfl, rfl, ignores.workFor, not_false⟩
  | @skipped target msgs work sending =>
      rw [sending] at ignores
      exact ignores_dispatching (List.filter_eq_nil_iff.mpr fun send member =>
        List.filter_eq_nil_iff.mp ignores.workFor send (List.mem_cons_of_mem _ member))
  | @handedOver target msgs work isHandOver sending =>
      rw [sending] at ignores
      have none := List.filter_eq_nil_iff.mp ignores.workFor
      refine ⟨rfl, rfl, List.filter_eq_nil_iff.mpr fun send member =>
        none send (List.mem_cons_of_mem _ member), ?_⟩
      intro isTarget
      exact none (target, msgs) List.mem_cons_self (decide_eq_true isTarget)
  | resumed isProcessed awaiting =>
      rw [awaiting] at ignores
      exact ignores_dispatching ignores.workFor

theorem lookup_newSubscriber_of_ne {other : SubscriberID} {registered : Stream}
    (different : registered ≠ stream) (startingOffset : Offset) :
    (broker.newSubscriber other registered startingOffset).subscribersByStream.lookup stream =
      broker.subscribersByStream.lookup stream :=
  AList.lookup_insert_ne different.symm

/-- Registering makes the subscriber the only one of its stream. -/
theorem Admits.register (admits : broker.Admits stream id reader) :
    (broker.newSubscriber id stream reader.offset).Serves stream id reader
      (.new stream reader.offset) where
  present := by simp [newSubscriber]
  ofStream := rfl
  isOpen := rfl
  offset := rfl
  delivered := by simp [Subscriber.new, admits.delivered]
  registered := by
    simp [newSubscriber, subscribersForStream, admits.unregistered]
  inHand := .nothing admits.ignores (Or.inl rfl)

/-- A subscriber that is not there is not the one whose entry a step replaces. -/
theorem setSubscriber_of_absent {target : SubscriberID} {stored found : Subscriber}
    (unused : broker.subscribers id = none) (present : broker.subscribers target = some found) :
    (broker.setSubscriber target stored).subscribers id = none := by
  have different : id ≠ target := by
    intro equal
    rw [equal, present] at unused
    cases unused
  simpa [setSubscriber, different] using unused

theorem lookup_deregister_of_ne {target : SubscriberID} {deregistered : Stream}
    (different : deregistered ≠ stream) :
    (broker.deregister target deregistered).subscribersByStream.lookup stream =
      broker.subscribersByStream.lookup stream := by
  simp only [deregister]
  split
  · exact AList.lookup_erase_ne different.symm
  · exact AList.lookup_insert_ne different.symm

theorem lookup_deregister_of_none {target : SubscriberID} {deregistered : Stream}
    (unregistered : broker.subscribersByStream.lookup stream = none) :
    (broker.deregister target deregistered).subscribersByStream.lookup stream = none := by
  by_cases same : deregistered = stream
  · subst same
    simp [deregister, subscribersForStream, unregistered]
  · rw [lookup_deregister_of_ne same]
    exact unregistered

theorem Admits.step (admits : broker.Admits stream id reader) (wellformed : Wellformed broker)
    (others : ∀ other call, broker.joining other = some call → call.1 = stream → other = id)
    (alone : broker.Alone width stream id action) (effect : Effect broker action next) :
    next.Admits stream id reader ∨ ∃ sub, next.Serves stream id reader sub := by
  have ignores := admits.ignores_step wellformed effect
  cases effect with
  | @register target registered startingOffset joining unlocked =>
      by_cases same : target = id
      · subst same
        cases admits.joining.symm.trans joining
        exact Or.inr ⟨_, admits.register⟩
      · have different : registered ≠ stream := fun equal => same (others _ _ joining equal)
        refine Or.inl ⟨?_, ?_, admits.delivered, ?_, ignores⟩
        · simpa [newSubscriber, Ne.symm same] using admits.joining
        · simpa [newSubscriber, Ne.symm same] using admits.unused
        · rw [lookup_newSubscriber_of_ne different]
          exact admits.unregistered
  | @readOffset target other unused notJoining =>
      have different : id ≠ target := by
        intro equal
        rw [← equal, admits.joining] at notJoining
        cases notJoining
      refine Or.inl ⟨?_, admits.unused, admits.delivered, admits.unregistered, ignores⟩
      simpa [readOffset, different] using admits.joining
  | close present | examine present | recheck present | stop present | receive present =>
      exact Or.inl ⟨admits.joining, setSubscriber_of_absent admits.unused present,
        admits.delivered, admits.unregistered, ignores⟩
  | handOver sending present | processed awaiting present =>
      exact Or.inl ⟨admits.joining, setSubscriber_of_absent admits.unused present,
        admits.delivered, admits.unregistered, ignores⟩
  | deregister present exiting unlocked =>
      exact Or.inl ⟨admits.joining, setSubscriber_of_absent admits.unused present,
        admits.delivered, lookup_deregister_of_none admits.unregistered, ignores⟩
  | restart => exact alone.elim
  | _ => exact Or.inl ⟨admits.joining, admits.unused, admits.delivered, admits.unregistered,
      ignores⟩

/-! ## Steps that serve the subscriber -/

section Serving

variable (serves : broker.Serves stream id reader sub)

include serves

/-- The subscriber is served on if it and the maps are the same. -/
theorem Serves.of_reader (present : next.subscribers id = some sub)
    (registered : next.subscribersByStream.lookup stream = some [id])
    (inHand : InHand stream id reader.offset reader.unread next.reader sub.loop) :
    next.Serves stream id reader sub :=
  ⟨present, serves.ofStream, serves.isOpen, serves.offset, serves.delivered, registered, inHand⟩

/-- The reader loop moves on. -/
theorem Serves.withReader {loops : Reader}
    (inHand : InHand stream id reader.offset reader.unread loops sub.loop) :
    (broker.withReader loops).Serves stream id reader sub :=
  serves.of_reader serves.present serves.registered inHand

/-- A step of the loop of another subscriber. -/
theorem Serves.of_other {target : SubscriberID} (different : target ≠ id) (stored : Subscriber) :
    (broker.setSubscriber target stored).Serves stream id reader sub :=
  serves.of_reader (by simpa [setSubscriber, different.symm] using serves.present)
    serves.registered serves.inHand

/-- The subscriber moves on in its loop. -/
theorem Serves.withLoop {loop : ProcessLoop} {loops : Reader}
    (inHand : InHand stream id reader.offset reader.unread loops loop) :
    ((broker.setSubscriber id { sub with loop := loop }).withReader loops).Serves stream id
      reader { sub with loop := loop } :=
  ⟨by simp [setSubscriber, Broker.withReader], serves.ofStream, serves.isOpen, serves.offset,
    serves.delivered, serves.registered, inHand⟩

theorem Serves.xread (entries : broker.streams stream = reader.entries)
    {request : List (Stream × Option Offset)} (gathered : broker.reader = .gathered request) :
    (broker.withReader (.read (broker.xread request))).Serves stream id reader sub := by
  apply serves.withReader
  have waiting : sub.loop = .selecting ∨ sub.loop = .checking :=
    serves.inHand.waiting (by rw [gathered]; exact not_false)
  have inHand := serves.inHand
  rw [gathered] at inHand
  generalize sub.loop = loop at inHand waiting
  cases inHand with
  | nothing ignores =>
      exact .nothing ⟨rfl, xread_filter_of_nil ignores.requested, rfl, not_false⟩ waiting
  | requested requested =>
      rcases xread_filter requested with nothing | found
      · exact .nothing ⟨rfl, nothing, rfl, not_false⟩ waiting
      · refine .read found ?_ waiting
        rw [entriesAfter, entries]
        exact List.take_prefix _ _
  | read readFor => cases readFor
  | dispatched workFor => cases workFor

theorem Serves.dispatch (wellformed : Wellformed broker) {results : List (Stream × List Message)}
    {order : List (List SubscriberID)} (read : broker.reader = .read results)
    (arranges : broker.ArrangesDispatch results order) :
    (broker.withReader (.dispatching (dispatchWork results order))).Serves stream id reader
      sub := by
  apply serves.withReader
  have work := serves.workFor_dispatch wellformed arranges
  have inHand := serves.inHand
  rw [read] at inHand
  generalize sub.loop = loop at inHand
  cases inHand with
  | nothing ignores waiting =>
      have readFor : (results.filter fun result => result.1 = stream) = [] := ignores.readFor
      rw [readFor] at work
      exact .nothing (ignores_dispatching work) waiting
  | requested requested => cases requested
  | @read _ _ msgs readFor next waiting =>
      have readFor : (results.filter fun result => result.1 = stream) = [(stream, msgs)] :=
        readFor
      rw [readFor] at work
      exact .dispatched work next not_false waiting
  | dispatched workFor => cases workFor

theorem Serves.skipClosed {target : SubscriberID} {msgs : List Message}
    {work : List (SubscriberID × List Message)} {found : Subscriber}
    (sending : broker.reader = .sending target msgs work)
    (present : broker.subscribers target = some found) (closed : found.closed = true) :
    (broker.withReader (.dispatching work)).Serves stream id reader sub := by
  have different : target ≠ id := by
    intro equal
    rw [equal] at present
    cases serves.present.symm.trans present
    rw [serves.isOpen] at closed
    cases closed
  apply serves.withReader
  have skips : (Reader.sending target msgs work).workFor id =
      (Reader.dispatching work).workFor id :=
    List.filter_cons_of_neg (by simpa using different)
  have inHand := serves.inHand
  rw [sending] at inHand
  exact inHand.sends ⟨rfl, rfl, not_false⟩ ⟨rfl, rfl, not_false⟩ skips

/-- A batch is handed over to the process loop that it is for. -/
theorem Serves.handOver {target : SubscriberID} {msgs : List Message}
    {work : List (SubscriberID × List Message)} {found : Subscriber}
    (sending : broker.reader = .sending target msgs work)
    (present : broker.subscribers target = some found) :
    ∃ later, ((broker.setSubscriber target
      { found with loop := .processing msgs }).withReader (.awaiting target work)).Serves
        stream id reader later := by
  have inHand := serves.inHand
  rw [sending] at inHand
  by_cases same : target = id
  · subst same
    cases serves.present.symm.trans present
    refine ⟨_, serves.withLoop ?_⟩
    have own : (Reader.sending target msgs work).workFor target =
        (target, msgs) :: work.filter fun send => send.1 = target :=
      List.filter_cons_of_pos (by simp)
    generalize sub.loop = loop at inHand
    cases inHand with
    | nothing ignores => cases own.symm.trans ignores.workFor
    | requested requested => cases requested
    | read readFor => cases readFor
    | dispatched workFor next =>
        have only := own.symm.trans workFor
        rw [List.cons.injEq, Prod.mk.injEq] at only
        rcases only with ⟨⟨_, rfl⟩, none⟩
        exact .processing none next
  · refine ⟨sub, (serves.of_other same _).withReader ?_⟩
    have passes : (Reader.sending target msgs work).workFor id =
        (Reader.awaiting target work).workFor id :=
      List.filter_cons_of_neg (by simpa using same)
    exact inHand.sends ⟨rfl, rfl, not_false⟩ ⟨rfl, rfl, same⟩ passes

/-- The reader loop goes on after a batch has been processed. -/
theorem Serves.processed {target : SubscriberID} {work : List (SubscriberID × List Message)}
    {found : Subscriber} (awaiting : broker.reader = .awaiting target work)
    (present : broker.subscribers target = some found) :
    ∃ later, ((broker.setSubscriber target
      { found with loop := .checking }).withReader (.dispatching work)).Serves stream id
        reader later := by
  have inHand := serves.inHand
  rw [awaiting] at inHand
  by_cases same : target = id
  · subst same
    cases serves.present.symm.trans present
    refine ⟨_, serves.withLoop ?_⟩
    generalize sub.loop = loop at inHand
    cases inHand with
    | nothing ignores => exact absurd rfl ignores.notAwaiting
    | requested requested => cases requested
    | read readFor => cases readFor
    | dispatched workFor next notAwaiting => exact absurd rfl notAwaiting
    | processing workFor => exact .nothing (ignores_dispatching workFor) (Or.inr rfl)
  · exact ⟨sub, (serves.of_other same _).withReader
      (inHand.sends ⟨rfl, rfl, same⟩ ⟨rfl, rfl, not_false⟩ rfl)⟩

/-- The next message of a batch is the next message to read. -/
theorem Serves.examine (sound : SoleReader.Sound width reader) {examined : Subscriber}
    (examines : sub.examine = some examined) :
    ∃ msg rest, reader.unread = msg :: rest ∧
      (broker.setSubscriber id examined).Serves stream id (reader.deliver msg) examined := by
  rcases Subscriber.examine_cases examines with ⟨msg, rest, loop, outcome⟩
  have inHand := serves.inHand
  rw [loop] at inHand
  generalize readerLoop : broker.reader = loops at inHand
  cases inHand with
  | nothing ignores waiting => rcases waiting with equal | equal <;> cases equal
  | requested requested waiting => rcases waiting with equal | equal <;> cases equal
  | read readFor next waiting => rcases waiting with equal | equal <;> cases equal
  | dispatched workFor next _ waiting => rcases waiting with equal | equal <;> cases equal
  | @processing work _ workFor next =>
      rcases next with ⟨later, unread⟩
      have isNext : reader.unread = msg :: (rest ++ later) := unread.symm
      refine ⟨msg, _, isNext, ?_⟩
      rcases outcome with ⟨_, _, rfl⟩ | ⟨filtered, _⟩
      · refine ⟨by simp [setSubscriber], serves.ofStream, serves.isOpen, rfl, ?_,
          serves.registered, ?_⟩
        · simp [Subscriber.deliver, SoleReader.deliver, serves.delivered]
        · have reading : (broker.setSubscriber id (sub.deliver msg rest)).reader =
              .awaiting id work := readerLoop
          rw [reading]
          refine .processing workFor ?_
          rw [sound.unread_deliver isNext]
          exact List.prefix_append _ _
      · have passes : sub.offset.lessThan (.message msg.id) = true := by
          rw [serves.offset]
          exact sound.lessThan_of_mem_unread (by simp [isNext])
        rw [filtered] at passes
        cases passes

/-- A subscriber that is open and served does not deregister. -/
theorem Serves.not_exiting :
    sub.loop ≠ .exiting := by
  intro exiting
  have inHand := serves.inHand
  rw [exiting] at inHand
  generalize broker.reader = loops at inHand
  cases inHand with
  | nothing ignores waiting => rcases waiting with equal | equal <;> cases equal
  | requested requested waiting => rcases waiting with equal | equal <;> cases equal
  | read readFor next waiting => rcases waiting with equal | equal <;> cases equal
  | dispatched workFor next _ waiting => rcases waiting with equal | equal <;> cases equal

theorem Serves.deregister {target : SubscriberID} (different : target ≠ id)
    (deregistered : Stream) (stored : Subscriber) :
    ((broker.deregister target deregistered).setSubscriber target stored).Serves stream id
      reader sub := by
  refine Serves.of_other ?_ different stored
  refine serves.of_reader serves.present ?_ serves.inHand
  by_cases same : deregistered = stream
  · subst same
    have kept : [id].erase target = [id] :=
      List.erase_of_not_mem (by simpa using different)
    simp [Broker.deregister, subscribersForStream, serves.registered, kept]
  · rw [lookup_deregister_of_ne same]
    exact serves.registered

theorem Serves.recheck (checking : sub.loop = .checking) :
    ∃ later, (broker.setSubscriber id
      { sub with loop := if sub.closed then .exiting else .selecting }).Serves stream id
        reader later := by
  have inHand : InHand stream id reader.offset reader.unread broker.reader .selecting := by
    have inHand := serves.inHand
    rw [checking] at inHand
    generalize broker.reader = loops at inHand
    cases inHand with
    | nothing ignores => exact .nothing ignores (Or.inl rfl)
    | requested requested => exact .requested requested (Or.inl rfl)
    | read readFor next => exact .read readFor next (Or.inl rfl)
    | dispatched workFor next notAwaiting =>
        exact .dispatched workFor next notAwaiting (Or.inl rfl)
  have selects : (if sub.closed then ProcessLoop.exiting else .selecting) = .selecting := by
    rw [serves.isOpen]
    rfl
  rw [selects]
  exact ⟨_, serves.withLoop inHand⟩

theorem Serves.own_or_other {target : SubscriberID} {found : Subscriber}
    (present : broker.subscribers target = some found) :
    target = id ∧ found = sub ∨ target ≠ id := by
  by_cases same : target = id
  · subst same
    exact Or.inl ⟨rfl, Option.some.inj (present.symm.trans serves.present)⟩
  · exact Or.inr same

/-- A step serves the subscriber on, or delivers the next message to it. -/
theorem Serves.step (wellformed : Wellformed broker) (sound : SoleReader.Sound width reader)
    (entries : broker.streams stream = reader.entries)
    (others : ∀ other call, broker.joining other = some call → call.1 = stream → other = id)
    (alone : broker.Alone width stream id action) (effect : Effect broker action next) :
    (∃ later, next.Serves stream id reader later) ∨
    ∃ msg rest later, reader.unread = msg :: rest ∧
      next.Serves stream id (reader.deliver msg) later := by
  have inHand := serves.inHand
  cases effect with
  | @register target registered startingOffset joining unlocked =>
      have different : id ≠ target := by
        intro equal
        have unused := (wellformed.joining target _ _ joining).1
        rw [← equal, serves.present] at unused
        cases unused
      have otherStream : registered ≠ stream :=
        fun equal => different (others target _ joining equal).symm
      refine Or.inl ⟨sub, serves.of_reader ?_ ?_ inHand⟩
      · simpa [newSubscriber, different] using serves.present
      · rw [lookup_newSubscriber_of_ne otherStream]
        exact serves.registered
  | @close target found present => exact Or.inl ⟨sub, serves.of_other alone _⟩
  | gather idle arranges =>
      have waiting := inHand.waiting (by rw [idle]; exact not_false)
      exact Or.inl ⟨sub, serves.withReader
        (.requested (serves.requested_gather arranges) waiting)⟩
  | xreadNothing gathered | xreadFailed gathered =>
      have waiting := inHand.waiting (by rw [gathered]; exact not_false)
      exact Or.inl ⟨sub, serves.withReader (.nothing (ignores_idle stream id) waiting)⟩
  | xread gathered => exact Or.inl ⟨sub, serves.xread entries gathered⟩
  | dispatch read arranges => exact Or.inl ⟨sub, serves.dispatch wellformed read arranges⟩
  | finishDispatch dispatching =>
      have waiting := inHand.waiting (by rw [dispatching]; exact not_false)
      exact Or.inl ⟨sub, serves.withReader (.nothing (ignores_idle stream id) waiting)⟩
  | send dispatching =>
      rw [dispatching] at inHand
      exact Or.inl ⟨sub, serves.withReader
        (inHand.sends ⟨rfl, rfl, not_false⟩ ⟨rfl, rfl, not_false⟩ rfl)⟩
  | skipClosed sending present closed =>
      exact Or.inl ⟨sub, serves.skipClosed sending present closed⟩
  | handOver sending present selecting => exact Or.inl (serves.handOver sending present)
  | processed awaiting present finished => exact Or.inl (serves.processed awaiting present)
  | @examine target found examined present examines =>
      rcases serves.own_or_other present with ⟨rfl, rfl⟩ | different
      · rcases serves.examine sound examines with ⟨msg, rest, unread, serves'⟩
        exact Or.inr ⟨msg, rest, examined, unread, serves'⟩
      · exact Or.inl ⟨sub, serves.of_other different _⟩
  | recheck present checking =>
      rcases serves.own_or_other present with ⟨rfl, rfl⟩ | different
      · exact Or.inl (serves.recheck checking)
      · exact Or.inl ⟨sub, serves.of_other different _⟩
  | stop present selecting closed =>
      rcases serves.own_or_other present with ⟨rfl, rfl⟩ | different
      · rw [serves.isOpen] at closed
        cases closed
      · exact Or.inl ⟨sub, serves.of_other different _⟩
  | deregister present exiting unlocked =>
      rcases serves.own_or_other present with ⟨rfl, rfl⟩ | different
      · exact absurd exiting serves.not_exiting
      · exact Or.inl ⟨sub, serves.deregister different _ _⟩
  | @receive target found msg rest present buffered =>
      rcases serves.own_or_other present with ⟨rfl, rfl⟩ | different
      · refine Or.inl ⟨{ found with messagesOut := rest, received := found.received ++ [msg.id] },
          ?_, serves.ofStream, serves.isOpen, serves.offset, serves.delivered,
          serves.registered, inHand⟩
        exact Function.update_self ..
      · exact Or.inl ⟨sub, serves.of_other different _⟩
  | restart => exact alone.elim
  | _ => exact Or.inl ⟨sub, serves.of_reader serves.present serves.registered inHand⟩

end Serving

/-! ## The refinement -/

theorem Follows.others_step (follows : Follows width stream id broker reader)
    (alone : broker.Alone width stream id action) (effect : Effect broker action next)
    (other : SubscriberID) (call : Stream × Offset) (joining : next.joining other = some call)
    (ofStream : call.1 = stream) : other = id := by
  cases effect with
  | readOffset unused notJoining =>
      rcases of_update_some joining with ⟨rfl, rfl⟩ | ⟨_, earlier⟩
      · exact absurd ofStream alone
      · exact follows.others other call earlier ofStream
  | register joined unlocked =>
      exact follows.others other call (of_update_none joining).2 ofStream
  | restart => exact alone.elim
  | _ => exact follows.others other call joining ofStream

/-- Only publishing changes the stream. -/
theorem streams_of_alone (alone : broker.Alone width stream id action)
    (effect : Effect broker action next) :
    (next.streams stream = broker.streams stream ∧ next.lastID stream = broker.lastID stream) ∨
    ∃ messageID data, action = .publish stream messageID data := by
  cases effect with
  | @publish published messageID data increasing =>
      by_cases same : published = stream
      · subst same
        exact Or.inr ⟨messageID, data, rfl⟩
      · exact Or.inl ⟨by simp [publish, Ne.symm same], by simp [publish, Ne.symm same]⟩
  | trim trimmed count =>
      have different : stream ≠ trimmed := Ne.symm alone
      exact Or.inl ⟨by simp [trim, different], rfl⟩
  | restart => exact alone.elim
  | _ => exact Or.inl ⟨rfl, rfl⟩

/-- Publishing to the stream is publishing to the sole reader. -/
theorem Follows.publish (follows : Follows width stream id broker reader) {messageID : MessageID}
    (increasing : broker.lastID stream < messageID) (ranged : messageID.Ranged width)
    (data : Text) :
    reader.lastID < messageID ∧
      Follows width stream id (broker.publish stream messageID data)
        (reader.publish messageID data) := by
  have after : reader.lastID < messageID := follows.lastID ▸ increasing
  refine ⟨after, follows.wellformed.step (.publish increasing),
    follows.sound.publish after ranged data, ?_, ?_, follows.others, ?_⟩
  · simp [Broker.publish, SoleReader.publish, follows.entries]
  · simp [Broker.publish, SoleReader.publish]
  · rcases follows.serves with admits | ⟨sub, serves⟩
    · exact Or.inl ⟨admits.joining, admits.unused, admits.delivered, admits.unregistered,
        admits.ignores⟩
    · refine Or.inr ⟨sub, serves.present, serves.ofStream, serves.isOpen, serves.offset,
        serves.delivered, serves.registered, serves.inHand.extend ?_⟩
      rw [follows.sound.unread_publish after]
      exact List.prefix_append _ _

/-- Each step of the broker is matched by the sole reader. -/
theorem Follows.step (follows : Follows width stream id broker reader)
    (alone : broker.Alone width stream id action) (taken : broker.step action = some next) :
    ∃ reader', Transition.Run SoleReader.step (SoleReader.InRange width) reader reader' ∧
      Follows width stream id next reader' := by
  have effect := effect_of_step taken
  have wellformed := follows.wellformed.step effect
  have others := follows.others_step alone effect
  rcases streams_of_alone alone effect with ⟨streams, lastID⟩ | ⟨messageID, data, rfl⟩
  · have entries := streams.trans follows.entries
    have last := lastID.trans follows.lastID
    rcases follows.serves with admits | ⟨sub, serves⟩
    · exact ⟨reader, .refl _, wellformed, follows.sound, entries, last, others,
        admits.step follows.wellformed follows.others alone effect⟩
    · rcases serves.step follows.wellformed follows.sound follows.entries follows.others
        alone effect with served | ⟨msg, rest, later, unread, serves'⟩
      · exact ⟨reader, .refl _, wellformed, follows.sound, entries, last, others,
          Or.inr served⟩
      · have reads : reader.step (.read 1) = some (reader.deliver msg) := by
          rw [SoleReader.step, follows.sound.read_one unread]
        have inRange : reader.InRange width (.read 1) := trivial
        exact ⟨reader.deliver msg, .single inRange reads, wellformed,
          follows.sound.deliver unread, entries, last, others, Or.inr ⟨later, serves'⟩⟩
  · cases effect with
    | publish increasing =>
        rcases follows.publish increasing (alone rfl) data with ⟨after, follows'⟩
        have publishes : reader.step (.publish messageID data) =
            some (reader.publish messageID data) := if_pos after
        have inRange : reader.InRange width (.publish messageID data) := alone rfl
        exact ⟨_, .single inRange publishes, follows'⟩

theorem Follows.of_run (follows : Follows width stream id broker reader)
    (run : Transition.Run Broker.step (Alone width stream id) broker next) :
    ∃ reader', Transition.Run SoleReader.step (SoleReader.InRange width) reader reader' ∧
      Follows width stream id next reader' :=
  run.refines follows fun _ _ _ _ related alone taken => related.step alone taken

end Broker

end Tassis.RedisBroker
