import Tassis.RedisBroker.Broker

/-! # What a step of the broker can do

`Effect` lists the steps with the guards under which they are taken. The
lemmas after it say, for one component of the state at a time, how a step can
change that component. Invariants are proved from these lemmas.
-/

namespace Tassis.RedisBroker

namespace Broker

inductive Effect (broker : Broker) : Action → Broker → Prop where
  | publish {stream id data} (increasing : broker.lastID stream < id) :
      Effect broker (.publish stream id data) (broker.publish stream id data)
  | trim (stream count) : Effect broker (.trim stream count) (broker.trim stream count)
  | readOffset {id stream} (unused : broker.subscribers id = none)
      (notJoining : broker.joining id = none) :
      Effect broker (.readOffset id stream) (broker.readOffset id stream)
  | register {id stream startingOffset}
      (joining : broker.joining id = some (stream, startingOffset))
      (unlocked : broker.reader.locked = false) :
      Effect broker (.register id) (broker.newSubscriber id stream startingOffset)
  | close {id sub} (present : broker.subscribers id = some sub) :
      Effect broker (.close id) (broker.setSubscriber id { sub with closed := true })
  | gather {order} (idle : broker.reader = .idle) (arranges : broker.Arranges order) :
      Effect broker (.gather order)
        (broker.withReader (.gathered (broker.gatherStreamsWithOffsets order)))
  | xreadNothing {request} (gathered : broker.reader = .gathered request) :
      Effect broker .xread (broker.withReader .idle)
  | xread {request} (gathered : broker.reader = .gathered request) :
      Effect broker .xread (broker.withReader (.read (broker.xread request)))
  | xreadFailed {request} (gathered : broker.reader = .gathered request) :
      Effect broker .xreadFailed (broker.withReader .idle)
  | dispatch {results order} (read : broker.reader = .read results)
      (arranges : broker.ArrangesDispatch results order) :
      Effect broker (.dispatch order)
        (broker.withReader (.dispatching (dispatchWork results order)))
  | finishDispatch (dispatching : broker.reader = .dispatching []) :
      Effect broker .send (broker.withReader .idle)
  | send {target msgs work}
      (dispatching : broker.reader = .dispatching ((target, msgs) :: work)) :
      Effect broker .send (broker.withReader (.sending target msgs work))
  | skipClosed {target msgs work sub} (sending : broker.reader = .sending target msgs work)
      (present : broker.subscribers target = some sub) (closed : sub.closed = true) :
      Effect broker .skipClosed (broker.withReader (.dispatching work))
  | handOver {target msgs work sub} (sending : broker.reader = .sending target msgs work)
      (present : broker.subscribers target = some sub) (selecting : sub.loop = .selecting) :
      Effect broker .handOver ((broker.setSubscriber target
        { sub with loop := .processing msgs }).withReader (.awaiting target work))
  | examine {id sub examined} (present : broker.subscribers id = some sub)
      (examines : sub.examine = some examined) :
      Effect broker (.examine id) (broker.setSubscriber id examined)
  | processed {id work sub} (awaiting : broker.reader = .awaiting id work)
      (present : broker.subscribers id = some sub) (finished : sub.loop = .processing []) :
      Effect broker (.processed id) ((broker.setSubscriber id
        { sub with loop := .checking }).withReader (.dispatching work))
  | recheck {id sub} (present : broker.subscribers id = some sub)
      (checking : sub.loop = .checking) :
      Effect broker (.recheck id) (broker.setSubscriber id
        { sub with loop := if sub.closed then .exiting else .selecting })
  | stop {id sub} (present : broker.subscribers id = some sub)
      (selecting : sub.loop = .selecting) (closed : sub.closed = true) :
      Effect broker (.stop id) (broker.setSubscriber id { sub with loop := .exiting })
  | deregister {id sub} (present : broker.subscribers id = some sub)
      (exiting : sub.loop = .exiting) (unlocked : broker.reader.locked = false) :
      Effect broker (.deregister id) ((broker.deregister id sub.stream).setSubscriber id
        { sub with loop := .done })
  | receive {id sub msg rest} (present : broker.subscribers id = some sub)
      (buffered : sub.messagesOut = msg :: rest) :
      Effect broker (.receive id) (broker.setSubscriber id
        { sub with messagesOut := rest, received := sub.received ++ [msg.id] })
  | callAck {id sub offset} (present : broker.subscribers id = some sub)
      (received : offset ∈ sub.received) :
      Effect broker (.callAck id offset) (broker.callAck sub.stream offset)
  | processAcks {additional executed} (pending : additional < broker.acks.length) :
      Effect broker (.processAcks additional executed)
        (broker.processAcks (additional + 1) executed)
  | restart : Effect broker .restart broker.restart

variable {broker next : Broker} {action : Action}

/-- A step has one of the listed effects. -/
theorem effect_of_step (taken : broker.step action = some next) : Effect broker action next := by
  cases action with
  | publish stream id data =>
      simp only [step, Option.ite_none_right_eq_some, Option.some.injEq] at taken
      rcases taken with ⟨increasing, rfl⟩
      exact .publish increasing
  | trim stream count =>
      simp only [step, Option.some.injEq] at taken
      subst next
      exact .trim stream count
  | readOffset id stream =>
      simp only [step, Option.ite_none_right_eq_some, Option.some.injEq] at taken
      rcases taken with ⟨⟨unused, notJoining⟩, rfl⟩
      exact .readOffset unused notJoining
  | register id =>
      cases joining : broker.joining id with
      | none => simp [step, joining] at taken
      | some call =>
          rcases call with ⟨stream, startingOffset⟩
          simp only [step, joining, Option.ite_none_right_eq_some,
            Option.some.injEq] at taken
          rcases taken with ⟨unlocked, rfl⟩
          exact .register joining unlocked
  | close id =>
      cases present : broker.subscribers id with
      | none => simp [step, present] at taken
      | some sub =>
          simp only [step, present, Option.some.injEq] at taken
          subst next
          exact .close present
  | gather order =>
      simp only [step, Option.ite_none_right_eq_some, Option.some.injEq] at taken
      rcases taken with ⟨⟨idle, arranges⟩, rfl⟩
      exact .gather idle arranges
  | xread =>
      cases gathered : broker.reader with
      | gathered request =>
          cases results : broker.xread request with
          | nil =>
              simp only [step, gathered, results, Option.some.injEq] at taken
              subst next
              exact .xreadNothing gathered
          | cons result rest =>
              simp only [step, gathered, results, Option.some.injEq] at taken
              subst next
              rw [← results]
              exact .xread gathered
      | _ => simp [step, gathered] at taken
  | xreadFailed =>
      cases gathered : broker.reader with
      | gathered request =>
          simp only [step, gathered, Option.some.injEq] at taken
          subst next
          exact .xreadFailed gathered
      | _ => simp [step, gathered] at taken
  | dispatch order =>
      cases read : broker.reader with
      | read results =>
          simp only [step, read, Option.ite_none_right_eq_some,
            Option.some.injEq] at taken
          rcases taken with ⟨arranges, rfl⟩
          exact .dispatch read arranges
      | _ => simp [step, read] at taken
  | send =>
      cases dispatching : broker.reader with
      | dispatching work =>
          cases work with
          | nil =>
              simp only [step, dispatching, Option.some.injEq] at taken
              subst next
              exact .finishDispatch dispatching
          | cons first work =>
              simp only [step, dispatching, Option.some.injEq] at taken
              subst next
              exact .send dispatching
      | _ => simp [step, dispatching] at taken
  | skipClosed =>
      cases sending : broker.reader with
      | sending target msgs work =>
          cases present : broker.subscribers target with
          | none => simp [step, sending, present] at taken
          | some sub =>
              simp only [step, sending, present, Option.ite_none_right_eq_some,
                Option.some.injEq] at taken
              rcases taken with ⟨closed, rfl⟩
              exact .skipClosed sending present closed
      | _ => simp [step, sending] at taken
  | handOver =>
      cases sending : broker.reader with
      | sending target msgs work =>
          cases present : broker.subscribers target with
          | none => simp [step, sending, present] at taken
          | some sub =>
              simp only [step, sending, present, Option.ite_none_right_eq_some,
                Option.some.injEq] at taken
              rcases taken with ⟨selecting, rfl⟩
              exact .handOver sending present selecting
      | _ => simp [step, sending] at taken
  | examine id =>
      cases present : broker.subscribers id with
      | none => simp [step, present] at taken
      | some sub =>
          cases examines : sub.examine with
          | none => simp [step, present, examines] at taken
          | some examined =>
              simp only [step, present, examines, Option.some.injEq] at taken
              subst next
              exact .examine present examines
  | processed id =>
      cases present : broker.subscribers id with
      | none => simp [step, present] at taken
      | some sub =>
          cases awaiting : broker.reader with
          | awaiting target work =>
              simp only [step, present, awaiting, Option.ite_none_right_eq_some,
                Option.some.injEq] at taken
              rcases taken with ⟨⟨rfl, finished⟩, rfl⟩
              exact .processed awaiting present finished
          | _ => simp [step, present, awaiting] at taken
  | recheck id =>
      cases present : broker.subscribers id with
      | none => simp [step, present] at taken
      | some sub =>
          simp only [step, present, Option.ite_none_right_eq_some,
            Option.some.injEq] at taken
          rcases taken with ⟨checking, rfl⟩
          exact .recheck present checking
  | stop id =>
      cases present : broker.subscribers id with
      | none => simp [step, present] at taken
      | some sub =>
          simp only [step, present, Option.ite_none_right_eq_some,
            Option.some.injEq] at taken
          rcases taken with ⟨⟨selecting, closed⟩, rfl⟩
          exact .stop present selecting closed
  | deregister id =>
      cases present : broker.subscribers id with
      | none => simp [step, present] at taken
      | some sub =>
          simp only [step, present, Option.ite_none_right_eq_some,
            Option.some.injEq] at taken
          rcases taken with ⟨⟨exiting, unlocked⟩, rfl⟩
          exact .deregister present exiting unlocked
  | receive id =>
      cases present : broker.subscribers id with
      | none => simp [step, present] at taken
      | some sub =>
          cases buffered : sub.messagesOut with
          | nil => simp [step, present, buffered] at taken
          | cons msg rest =>
              simp only [step, present, buffered, Option.some.injEq] at taken
              subst next
              exact .receive present buffered
  | callAck id offset =>
      cases present : broker.subscribers id with
      | none => simp [step, present] at taken
      | some sub =>
          simp only [step, present, Option.ite_none_right_eq_some,
            Option.some.injEq] at taken
          rcases taken with ⟨received, rfl⟩
          exact .callAck present received
  | processAcks additional executed =>
      simp only [step, Option.ite_none_right_eq_some, Option.some.injEq] at taken
      rcases taken with ⟨pending, rfl⟩
      exact .processAcks pending
  | restart =>
      simp only [step, Option.some.injEq] at taken
      subst next
      exact .restart

/-! ## Streams -/

/-- Streams gain entries only above the greatest ID assigned so far. -/
structure Extends (broker next : Broker) : Prop where
  lastID : ∀ stream, broker.lastID stream ≤ next.lastID stream
  entries : ∀ stream entry, entry ∈ next.streams stream →
    entry ∈ broker.streams stream ∨ broker.lastID stream < entry.id

theorem Effect.lastID (effect : Effect broker action next) (stream : Stream) :
    broker.lastID stream ≤ next.lastID stream := by
  cases effect with
  | @publish published id data increasing =>
      by_cases same : stream = published
      · subst same
        simpa [Broker.publish] using le_of_lt increasing
      · simp [Broker.publish, same]
  | _ => exact le_refl _

/-- The only new entry is the one that the step publishes. -/
theorem Effect.entry (effect : Effect broker action next) {stream : Stream} {entry : Message}
    (member : entry ∈ next.streams stream) : entry ∈ broker.streams stream ∨
      action = .publish stream entry.id entry.data ∧ broker.lastID stream < entry.id ∧
        next.lastID stream = entry.id := by
  cases effect with
  | @publish published id data increasing =>
      by_cases same : stream = published
      · subst same
        simp only [Broker.publish, Function.update_self, List.mem_append,
          List.mem_singleton] at member ⊢
        rcases member with member | rfl
        · exact Or.inl member
        · exact Or.inr ⟨rfl, increasing, rfl⟩
      · exact Or.inl (by simpa [Broker.publish, same] using member)
  | trim trimmed count =>
      by_cases same : stream = trimmed
      · subst same
        simp only [Broker.trim, Function.update_self] at member
        exact Or.inl (List.mem_of_mem_drop member)
      · exact Or.inl (by simpa [Broker.trim, same] using member)
  | _ => exact Or.inl member

theorem Effect.extends (effect : Effect broker action next) : Extends broker next where
  lastID := effect.lastID
  entries _ _ member := (effect.entry member).imp_right fun new => new.2.1

/-! ## Subscribers -/

/-- How a step can change one subscriber. -/
inductive Change (broker : Broker) (action : Action) (id : SubscriberID)
    (sub : Subscriber) : Subscriber → Prop where
  | none : Change broker action id sub sub
  | closed : Change broker action id sub { sub with closed := true }
  | handedOver {msgs work} (isHandOver : action = .handOver)
      (sending : broker.reader = .sending id msgs work) (selecting : sub.loop = .selecting) :
      Change broker action id sub { sub with loop := .processing msgs }
  | examined {examined} (isExamine : action = .examine id)
      (examines : sub.examine = some examined) : Change broker action id sub examined
  | processed (isProcessed : action = .processed id) (finished : sub.loop = .processing []) :
      Change broker action id sub { sub with loop := .checking }
  | rechecked (checking : sub.loop = .checking) :
      Change broker action id sub
        { sub with loop := if sub.closed then .exiting else .selecting }
  | stopped (selecting : sub.loop = .selecting) (closed : sub.closed = true) :
      Change broker action id sub { sub with loop := .exiting }
  | deregistered (exiting : sub.loop = .exiting) :
      Change broker action id sub { sub with loop := .done }
  | received {msg rest} (buffered : sub.messagesOut = msg :: rest) :
      Change broker action id sub
        { sub with messagesOut := rest, received := sub.received ++ [msg.id] }

theorem setSubscriber_cases {target id : SubscriberID} {stored sub : Subscriber}
    (present : (broker.setSubscriber target stored).subscribers id = some sub) :
    (id = target ∧ sub = stored) ∨ (id ≠ target ∧ broker.subscribers id = some sub) := by
  by_cases same : id = target
  · subst id
    exact Or.inl ⟨rfl, by simpa [setSubscriber] using present.symm⟩
  · exact Or.inr ⟨same, by simpa [setSubscriber, same] using present⟩

/-- Storing a changed subscriber leaves each subscriber unchanged or changed as
stated. -/
theorem Change.of_setSubscriber {target id : SubscriberID} {previous stored sub : Subscriber}
    (present : broker.subscribers target = some previous)
    (change : Change broker action target previous stored)
    (found : (broker.setSubscriber target stored).subscribers id = some sub) :
    ∃ before, broker.subscribers id = some before ∧ Change broker action id before sub := by
  rcases setSubscriber_cases found with ⟨rfl, rfl⟩ | ⟨_, unchanged⟩
  · exact ⟨previous, present, change⟩
  · exact ⟨sub, unchanged, .none⟩

/-- A subscriber present after a step was there before it, or has just been
registered. -/
theorem Effect.subscriber {id : SubscriberID} {sub : Subscriber}
    (effect : Effect broker action next) (found : next.subscribers id = some sub) :
    (∃ before, broker.subscribers id = some before ∧
      Change broker action id before sub) ∨
    ∃ stream startingOffset, action = .register id ∧
      broker.joining id = some (stream, startingOffset) ∧
      sub = .new stream startingOffset := by
  cases effect with
  | @register target stream startingOffset joining unlocked =>
      by_cases same : id = target
      · subst id
        exact Or.inr ⟨stream, startingOffset, rfl, joining,
          by simpa [newSubscriber] using found.symm⟩
      · exact Or.inl ⟨sub, by simpa [newSubscriber, same] using found, .none⟩
  | close present => exact Or.inl (Change.of_setSubscriber present .closed found)
  | handOver sending present selecting =>
      exact Or.inl (Change.of_setSubscriber present (.handedOver rfl sending selecting)
        found)
  | examine present examines =>
      exact Or.inl (Change.of_setSubscriber present (.examined rfl examines) found)
  | processed awaiting present finished =>
      exact Or.inl (Change.of_setSubscriber present (.processed rfl finished) found)
  | recheck present checking =>
      exact Or.inl (Change.of_setSubscriber present (.rechecked checking) found)
  | stop present selecting closed =>
      exact Or.inl (Change.of_setSubscriber present (.stopped selecting closed) found)
  | deregister present exiting unlocked =>
      exact Or.inl (Change.of_setSubscriber present (.deregistered exiting) found)
  | receive present buffered =>
      exact Or.inl (Change.of_setSubscriber present (.received buffered) found)
  | restart => cases found
  | _ => exact Or.inl ⟨sub, found, .none⟩

theorem setSubscriber_present {target id : SubscriberID} {stored sub : Subscriber}
    (present : broker.subscribers id = some sub) :
    ∃ later, (broker.setSubscriber target stored).subscribers id = some later := by
  by_cases same : id = target
  · subst id
    exact ⟨stored, by simp [setSubscriber]⟩
  · exact ⟨sub, by simpa [setSubscriber, same] using present⟩

/-- Only a restart forgets a subscriber. -/
theorem Effect.subscriber_present {id : SubscriberID} {sub : Subscriber}
    (effect : Effect broker action next) (present : broker.subscribers id = some sub)
    (notRestart : action ≠ .restart) :
    ∃ later, next.subscribers id = some later := by
  cases effect with
  | @register target stream startingOffset joining unlocked =>
      by_cases same : id = target
      · subst id
        exact ⟨.new stream startingOffset, by simp [newSubscriber]⟩
      · exact ⟨sub, by simpa [newSubscriber, same] using present⟩
  | close | handOver | examine | processed | recheck | stop | deregister | receive =>
      exact setSubscriber_present present
  | restart => exact absurd rfl notRestart
  | _ => exact ⟨sub, present⟩

/-! ## Registrations -/

theorem mem_subscribersForStream_newSubscriber {id other : SubscriberID}
    {stream registered : Stream} {startingOffset : Offset}
    (member : other ∈
      (broker.newSubscriber id registered startingOffset).subscribersForStream stream) :
    other ∈ broker.subscribersForStream stream ∨ other = id ∧ stream = registered := by
  by_cases same : stream = registered
  · subst stream
    simp only [subscribersForStream, newSubscriber, AList.lookup_insert,
      Option.getD_some, List.mem_cons] at member
    rcases member with equal | member
    · exact Or.inr ⟨equal, rfl⟩
    · exact Or.inl member
  · simp only [subscribersForStream, newSubscriber, AList.lookup_insert_ne same] at member
    exact Or.inl member

theorem subscribersForStream_deregister (broker : Broker) (id : SubscriberID)
    (stream deregistered : Stream) :
    (broker.deregister id deregistered).subscribersForStream stream =
      if stream = deregistered then (broker.subscribersForStream stream).erase id
      else broker.subscribersForStream stream := by
  by_cases last : (broker.subscribersForStream deregistered).erase id = []
  · have maps : (broker.deregister id deregistered).subscribersByStream =
        broker.subscribersByStream.erase deregistered := if_pos last
    rw [subscribersForStream, maps]
    by_cases same : stream = deregistered
    · subst stream
      rw [AList.lookup_erase, if_pos rfl, last]
      rfl
    · rw [AList.lookup_erase_ne same, if_neg same]
      rfl
  · have maps : (broker.deregister id deregistered).subscribersByStream =
        broker.subscribersByStream.insert deregistered
          ((broker.subscribersForStream deregistered).erase id) := if_neg last
    rw [subscribersForStream, maps]
    by_cases same : stream = deregistered
    · subst stream
      rw [AList.lookup_insert, if_pos rfl]
      rfl
    · rw [AList.lookup_insert_ne same, if_neg same]
      rfl

/-- A registration found after a step was there before it, or has just been
made. -/
theorem Effect.registered {id : SubscriberID} {stream : Stream}
    (effect : Effect broker action next) (member : id ∈ next.subscribersForStream stream) :
    id ∈ broker.subscribersForStream stream ∨
    ∃ startingOffset, action = .register id ∧
      broker.joining id = some (stream, startingOffset) := by
  cases effect with
  | @register target registered startingOffset joining unlocked =>
      rcases mem_subscribersForStream_newSubscriber member with member | ⟨rfl, rfl⟩
      · exact Or.inl member
      · exact Or.inr ⟨startingOffset, rfl, joining⟩
  | @deregister target sub present exiting unlocked =>
      change id ∈ (broker.deregister target sub.stream).subscribersForStream stream at member
      rw [subscribersForStream_deregister] at member
      split at member
      · exact Or.inl (List.mem_of_mem_erase member)
      · exact Or.inl member
  | restart => simp [subscribersForStream, Broker.restart, initial] at member
  | _ => exact Or.inl member

/-! ## The reader loop -/

/-- How a step can move the reader loop. -/
inductive ReaderChange (broker : Broker) (action : Action) : Reader → Prop where
  | none {reader} (unchanged : broker.reader = reader) : ReaderChange broker action reader
  | idle (notAwaiting : ∀ target work, broker.reader ≠ .awaiting target work) :
      ReaderChange broker action .idle
  | restarted (isRestart : action = .restart) : ReaderChange broker action .idle
  | gathered {order} (idle : broker.reader = .idle) (isGather : action = .gather order)
      (arranges : broker.Arranges order) :
      ReaderChange broker action (.gathered (broker.gatherStreamsWithOffsets order))
  | read {request} (gathered : broker.reader = .gathered request) (isRead : action = .xread) :
      ReaderChange broker action (.read (broker.xread request))
  | dispatched {results order} (read : broker.reader = .read results)
      (arranges : broker.ArrangesDispatch results order) :
      ReaderChange broker action (.dispatching (dispatchWork results order))
  | entered {target msgs work}
      (dispatching : broker.reader = .dispatching ((target, msgs) :: work)) :
      ReaderChange broker action (.sending target msgs work)
  | skipped {target msgs work} (sending : broker.reader = .sending target msgs work) :
      ReaderChange broker action (.dispatching work)
  | handedOver {target msgs work} (isHandOver : action = .handOver)
      (sending : broker.reader = .sending target msgs work) :
      ReaderChange broker action (.awaiting target work)
  | resumed {target work} (isProcessed : action = .processed target)
      (awaiting : broker.reader = .awaiting target work) :
      ReaderChange broker action (.dispatching work)

theorem Effect.reader (effect : Effect broker action next) :
    ReaderChange broker action next.reader := by
  cases effect with
  | gather idle arranges => exact .gathered idle rfl arranges
  | xreadNothing gathered => exact .idle (by simp [gathered])
  | xread gathered => exact .read gathered rfl
  | xreadFailed gathered => exact .idle (by simp [gathered])
  | dispatch read arranges => exact .dispatched read arranges
  | finishDispatch dispatching => exact .idle (by simp [dispatching])
  | send dispatching => exact .entered dispatching
  | skipClosed sending => exact .skipped sending
  | handOver sending => exact .handedOver rfl sending
  | processed awaiting => exact .resumed rfl awaiting
  | restart => exact .restarted rfl
  | _ => exact .none rfl

/-- Subscribers register only while the reader does not hold the lock. -/
theorem Effect.unlocked_of_register {id : SubscriberID}
    (effect : Effect broker (.register id) next) : broker.reader.locked = false := by
  cases effect with
  | register joining unlocked => exact unlocked

/-- A pending registration found after a step was there before it, or has just
read the stored offset. -/
theorem Effect.joining {id : SubscriberID} {call : Stream × Offset}
    (effect : Effect broker action next) (found : next.joining id = some call) :
    broker.joining id = some call ∨
    broker.subscribers id = none ∧ next.subscribers id = none ∧
      call = (call.1, broker.startingOffset call.1) := by
  cases effect with
  | @readOffset target stream unused notJoining =>
      rcases of_update_some found with ⟨rfl, rfl⟩ | ⟨_, earlier⟩
      · exact Or.inr ⟨unused, unused, rfl⟩
      · exact Or.inl earlier
  | register joining unlocked => exact Or.inl (of_update_none found).2
  | restart => cases found
  | _ => exact Or.inl found

/-! ## Acknowledgements -/

theorem highestOffset_mem {ids : List MessageID} {highest : MessageID}
    (selected : highestOffset ids = some highest) : highest ∈ ids :=
  selectBy.mem selected

theorem ackScript_cases (old : Option MessageID) (new : MessageID) :
    ackScript old new = new ∨ old = some (ackScript old new) := by
  cases old with
  | none => exact Or.inl rfl
  | some old =>
      by_cases replaces : luaReplaces new.text old.text = some true
      · exact Or.inl (by simp [ackScript, replaces])
      · exact Or.inr (by simp [ackScript, replaces])

/-- The stored offset after a batch was stored before or is in the batch. -/
theorem storedAfter_cases {stored : Option MessageID} {ids : List MessageID} {id : MessageID}
    (after : storedAfter stored ids = some id) :
    id ∈ ids ∨ stored = some id := by
  unfold storedAfter at after
  split at after
  · exact Or.inr after
  · rename_i highest selected
    rcases ackScript_cases stored highest with new | old
    · exact Or.inl (by
        rw [← Option.some.inj after, new]
        exact highestOffset_mem selected)
    · exact Or.inr (by rw [old, after])

theorem mem_acksByStream {batch : List Ack} {stream : Stream} {id : MessageID} :
    id ∈ acksByStream batch stream ↔ ⟨stream, id⟩ ∈ batch := by
  simp only [acksByStream, List.mem_map, List.mem_filter, decide_eq_true_eq]
  constructor
  · rintro ⟨ack, ⟨member, rfl⟩, rfl⟩
    exact member
  · intro member
    exact ⟨⟨stream, id⟩, ⟨member, rfl⟩, rfl⟩

/-- The stored offset after a step was stored before it, or was pending. -/
theorem Effect.stored {stream : Stream} {id : MessageID} (effect : Effect broker action next)
    (stored : next.offsets stream = some id) :
    broker.offsets stream = some id ∨ ⟨stream, id⟩ ∈ broker.acks := by
  cases effect with
  | processAcks pending =>
      simp only [Broker.processAcks, executeAcks] at stored
      split at stored
      · rcases storedAfter_cases stored with member | stored
        · exact Or.inr (List.mem_of_mem_take (mem_acksByStream.mp member))
        · exact Or.inl stored
      · exact Or.inl stored
  | _ => exact Or.inl stored

/-- A pending acknowledgement was pending before the step, or a consumer has
just called the acker of a message it had received. -/
theorem Effect.pending {ack : Ack} (effect : Effect broker action next)
    (member : ack ∈ next.acks) :
    ack ∈ broker.acks ∨ ∃ id sub, action = .callAck id ack.offset ∧
      broker.subscribers id = some sub ∧ sub.stream = ack.stream ∧
      ack.offset ∈ sub.received := by
  cases effect with
  | @callAck id sub offset present received =>
      simp only [Broker.callAck, List.mem_append, List.mem_singleton] at member
      rcases member with member | rfl
      · exact Or.inl member
      · exact Or.inr ⟨id, sub, rfl, present, rfl, received⟩
  | processAcks pending => exact Or.inl (List.mem_of_mem_drop member)
  | restart => cases member
  | _ => exact Or.inl member

/-- The acknowledged IDs accumulate. -/
theorem Effect.acked {stream : Stream} {id : MessageID} (effect : Effect broker action next)
    (acked : id ∈ broker.acked stream) : id ∈ next.acked stream := by
  cases effect with
  | @processAcks additional executed pending =>
      by_cases runs : stream ∈ executed
      · simp [Broker.processAcks, executeAcks, runs, acked]
      · simpa [Broker.processAcks, executeAcks, runs] using acked
  | _ => exact acked

theorem Effect.ackCalled {stream : Stream} {id : MessageID} (effect : Effect broker action next)
    (called : id ∈ broker.ackCalled stream) : id ∈ next.ackCalled stream := by
  cases effect with
  | @callAck _ sub offset present received =>
      by_cases same : stream = sub.stream
      · subst stream
        simp [Broker.callAck, called]
      · simpa [Broker.callAck, same] using called
  | _ => exact called

end Broker

end Tassis.RedisBroker
