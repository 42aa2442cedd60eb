import Tassis.RedisBroker.Connections
import Tassis.RedisBroker.Serving

/-! # Reading to the end

Nothing keeps the sole subscriber of a stream from its messages. Whatever the
loops of the broker are at, they can finish it and go on to read what is still
unread, provided that the consumers take their messages.
-/

namespace Tassis.RedisBroker

namespace Broker

variable {width : Nat} {stream : Stream} {id : SubscriberID} {broker next : Broker}
  {action : Action} {reader : SoleReader} {sub : Subscriber}

/-! ## Work without disturbance -/

/-- The steps that bring a dispatch to its end: of the reader while it holds the
lock, of the process loops, and of the consumers. -/
def Draining (_ : Broker) : Action → Prop
  | .send | .skipClosed | .handOver | .examine _ | .processed _ | .recheck _
  | .receive _ => True
  | _ => False

/-- The steps of the loops and the consumers while nothing fails and nobody
publishes, trims, starts to subscribe or leaves. -/
def Working (broker : Broker) : Action → Prop
  | .register _ | .gather _ | .xread | .dispatch _ => True
  | action => broker.Draining action

theorem Draining.working (draining : broker.Draining action) : broker.Working action := by
  cases action with
  | register | gather | xread | dispatch => trivial
  | _ => exact draining

theorem Working.alone (working : broker.Working action) :
    broker.Alone width stream id action := by
  cases action with
  | publish | trim | readOffset | close | restart => exact working.elim
  | _ => trivial

theorem Working.streams (working : broker.Working action)
    (effect : Effect broker action next) : next.streams = broker.streams := by
  cases effect with
  | publish | trim | restart => exact working.elim
  | _ => rfl

theorem streams_of_run (run : Transition.Run Broker.step Working broker next) :
    next.streams = broker.streams := by
  have starts : (fun current : Broker => current.streams = broker.streams) broker := rfl
  exact run.preserves starts fun _ _ _ _ same working taken =>
    (Working.streams working (effect_of_step taken)).trans same

/-! ## Loops that can go on -/

/-- The invariants on which the loops rely to go on. A stream stays in the outer
map only while it has subscribers. -/
structure Live (broker : Broker) : Prop where
  wellformed : Wellformed broker
  lockstep : Lockstep broker
  peopled : ∀ stream ids, broker.subscribersByStream.lookup stream = some ids → ids ≠ []

namespace Live

theorem initial : Live Broker.initial :=
  ⟨.initial, .initial, fun _ _ registered => by cases registered⟩

theorem peopled_step (live : Live broker) (effect : Effect broker action next)
    (stream : Stream) (ids : List SubscriberID)
    (registered : next.subscribersByStream.lookup stream = some ids) : ids ≠ [] := by
  cases effect with
  | @register id other startingOffset joining unlocked =>
      by_cases same : stream = other
      · subst same
        rw [newSubscriber, AList.lookup_insert, Option.some.injEq] at registered
        rw [← registered]
        exact List.cons_ne_nil _ _
      · rw [lookup_newSubscriber_of_ne (Ne.symm same)] at registered
        exact live.peopled stream ids registered
  | @deregister id sub present exiting unlocked =>
      by_cases same : stream = sub.stream
      · subst same
        change ((broker.deregister id sub.stream).subscribersByStream.lookup sub.stream) =
          some ids at registered
        simp only [Broker.deregister] at registered
        split at registered
        · rw [AList.lookup_erase] at registered
          cases registered
        · rename_i nonempty
          rw [AList.lookup_insert, Option.some.injEq] at registered
          rwa [← registered]
      · change ((broker.deregister id sub.stream).subscribersByStream.lookup stream) =
          some ids at registered
        rw [lookup_deregister_of_ne (Ne.symm same)] at registered
        exact live.peopled stream ids registered
  | restart => cases registered
  | _ => exact live.peopled stream ids registered

theorem step (live : Live broker) (taken : broker.step action = some next) : Live next where
  wellformed := live.wellformed.step (effect_of_step taken)
  lockstep := live.lockstep.step live.wellformed (effect_of_step taken)
  peopled := live.peopled_step (effect_of_step taken)

theorem of_run {permitted : Broker → Action → Prop} (live : Live broker)
    (run : Transition.Run Broker.step permitted broker next) : Live next :=
  run.preserves live fun _ _ _ _ holds _ taken => holds.step taken

theorem of_reaches {permitted : Broker → Action → Prop} (reaches : Reaches permitted broker) :
    Live broker :=
  initial.of_run reaches

end Live

/-! ## Finishing a dispatch -/

/-- What a process loop and its consumer have to do before the batch is done. -/
def batchEffort (broker : Broker) (target : SubscriberID) : Nat :=
  match broker.subscribers target with
  | some sub => 2 * sub.remaining.length + sub.messagesOut.length
  | none => 0

theorem batchEffort_setSubscriber (broker : Broker) (target : SubscriberID)
    (sub : Subscriber) : (broker.setSubscriber target sub).batchEffort target =
      2 * sub.remaining.length + sub.messagesOut.length := by
  simp [batchEffort, setSubscriber]

theorem batchEffort_of_present {target : SubscriberID}
    (present : broker.subscribers target = some sub) :
    broker.batchEffort target = 2 * sub.remaining.length + sub.messagesOut.length := by
  simp [batchEffort, present]

/-- The next message can be examined, or the consumer can make room for it. -/
theorem batch_progress {target : SubscriberID} {msg : Message} {rest : List Message}
    (present : broker.subscribers target = some sub)
    (loop : sub.loop = .processing (msg :: rest)) :
    ∃ action later, (action = .examine target ∨ action = .receive target) ∧
      broker.step action = some (broker.setSubscriber target later) ∧
      (broker.setSubscriber target later).batchEffort target < broker.batchEffort target := by
  rw [batchEffort_of_present present]
  have left : sub.remaining = msg :: rest := by simp [Subscriber.remaining, loop]
  cases examines : sub.examine with
  | some examined =>
      refine ⟨.examine target, examined, Or.inl rfl, by simp [step, present, examines], ?_⟩
      rw [batchEffort_setSubscriber, left]
      rcases Subscriber.examine_cases examines with ⟨first, others, processing, outcome⟩
      rw [loop] at processing
      cases processing
      rcases outcome with ⟨_, _, rfl⟩ | ⟨_, rfl⟩
      · simp only [Subscriber.remaining, Subscriber.deliver, List.length_append,
          List.length_cons, List.length_nil]
        omega
      · simp only [Subscriber.remaining, List.length_cons]
        omega
  | none =>
      have full : messagesOutCapacity ≤ sub.messagesOut.length := by
        by_contra room
        by_cases passes : sub.offset.lessThan (.message msg.id) = true
        · simp [Subscriber.examine, loop, passes, Nat.lt_of_not_le room] at examines
        · simp [Subscriber.examine, loop, passes] at examines
      cases buffered : sub.messagesOut with
      | nil =>
          rw [buffered] at full
          cases full
      | cons first others =>
          refine ⟨.receive target,
            { sub with messagesOut := others, received := sub.received ++ [first.id] },
            Or.inr rfl, by simp only [step, present, buffered], ?_⟩
          rw [batchEffort_setSubscriber]
          change 2 * sub.remaining.length + others.length < _
          rw [List.length_cons]
          omega

namespace Live

variable {target : SubscriberID} {msgs : List Message}
  {work : List (SubscriberID × List Message)}

/-- The process loop gets through its batch, and the reader resumes. -/
theorem finish_batch (live : Live broker) (awaiting : broker.reader = .awaiting target work) :
    ∃ later, Transition.Run Broker.step Draining broker later ∧
      later.reader = .dispatching work := by
  have starts : Live broker ∧ broker.reader = .awaiting target work := ⟨live, awaiting⟩
  have progress : ∀ current, Live current ∧ current.reader = .awaiting target work →
      ¬(∃ sub, current.subscribers target = some sub ∧ sub.loop = .processing []) →
      ∃ later, Transition.Run Broker.step Draining current later ∧
        (Live later ∧ later.reader = .awaiting target work) ∧
        later.batchEffort target < current.batchEffort target := by
    intro current holds unfinished
    rcases holds.1.lockstep.awaiting target work holds.2 with ⟨sub, msgs, present, loop⟩
    cases msgs with
    | nil => exact absurd ⟨sub, present, loop⟩ unfinished
    | cons msg rest =>
        rcases batch_progress present loop with ⟨action, changed, isBatch, taken, decreases⟩
        have draining : current.Draining action := by
          rcases isBatch with rfl | rfl <;> trivial
        exact ⟨_, Transition.Run.single draining taken,
          ⟨holds.1.step taken, holds.2⟩, decreases⟩
  rcases Transition.Run.arrives (fun current : Broker => current.batchEffort target) progress
    starts with
    ⟨current, run, ⟨_, waits⟩, sub, present, finished⟩
  have taken : current.step (.processed target) = some ((current.setSubscriber target
      { sub with loop := .checking }).withReader (.dispatching work)) := by
    simp [Broker.step, present, waits, finished]
  exact ⟨_, run.tail (by trivial) taken, rfl⟩

/-- A subscriber that selects takes the batch. -/
theorem finish_handOver (live : Live broker) (sending : broker.reader = .sending target msgs work)
    (present : broker.subscribers target = some sub) (selecting : sub.loop = .selecting) :
    ∃ later, Transition.Run Broker.step Draining broker later ∧
      later.reader = .dispatching work := by
  have taken : broker.step .handOver = some ((broker.setSubscriber target
      { sub with loop := .processing msgs }).withReader (.awaiting target work)) := by
    simp [Broker.step, sending, present, selecting]
  rcases (live.step taken).finish_batch rfl with ⟨later, run, resumed⟩
  exact ⟨later, Transition.Run.head (by trivial) taken run, resumed⟩

/-- A batch is skipped by a subscriber that was closed and taken by every other. -/
theorem finish_send (live : Live broker) (sending : broker.reader = .sending target msgs work) :
    ∃ later, Transition.Run Broker.step Draining broker later ∧
      later.reader = .dispatching work := by
  have member : (target, msgs) ∈ broker.reader.work := by
    rw [sending]
    exact List.mem_cons_self
  rcases live.lockstep.addressed _ member with ⟨sub, present⟩
  by_cases closed : sub.closed = true
  · have taken : broker.step .skipClosed = some (broker.withReader (.dispatching work)) := by
      simp [Broker.step, sending, present, closed]
    exact ⟨_, Transition.Run.single (by trivial) taken, rfl⟩
  · cases loop : sub.loop with
    | selecting => exact live.finish_handOver sending present loop
    | processing batch =>
        rcases live.lockstep.processing target sub batch present loop with ⟨_, awaiting⟩
        rw [sending] at awaiting
        cases awaiting
    | checking =>
        have taken : broker.step (.recheck target) = some (broker.setSubscriber target
            { sub with loop := .selecting }) := by
          simp [Broker.step, present, loop, closed]
        rcases (live.step taken).finish_handOver sending (Function.update_self ..) rfl with
          ⟨later, run, resumed⟩
        exact ⟨later, Transition.Run.head (by trivial) taken run, resumed⟩
    | exiting => exact absurd (live.lockstep.exiting target sub present (Or.inl loop)) closed
    | done => exact absurd (live.lockstep.exiting target sub present (Or.inr loop)) closed

/-- The sends of a dispatch are made one after the other. -/
theorem finish_dispatch (live : Live broker) (dispatching : broker.reader = .dispatching work) :
    ∃ later, Transition.Run Broker.step Draining broker later ∧ later.reader = .idle := by
  induction work generalizing broker with
  | nil =>
      have taken : broker.step .send = some (broker.withReader .idle) := by
        simp [Broker.step, dispatching]
      exact ⟨_, Transition.Run.single (by trivial) taken, rfl⟩
  | cons send work induction =>
      have taken : broker.step .send =
          some (broker.withReader (.sending send.1 send.2 work)) := by
        simp [Broker.step, dispatching]
      rcases (live.step taken).finish_send rfl with ⟨current, sent, dispatching'⟩
      rcases induction ((live.step taken).of_run sent) dispatching' with ⟨later, run, idle⟩
      exact ⟨later, Transition.Run.head (by trivial) taken (sent.trans run), idle⟩

end Live

/-! ## Coming to rest -/

theorem exists_arranges (broker : Broker) : ∃ order, broker.Arranges order := by
  refine ⟨broker.subscribersByStream.keys.map fun stream =>
    (stream, broker.subscribersForStream stream), ?_, ?_⟩
  · rw [List.map_map]
    exact List.Perm.of_eq (List.map_id _)
  · intro entry member
    rcases List.mem_map.mp member with ⟨stream, _, rfl⟩
    exact List.Perm.refl _

theorem exists_arrangesDispatch (broker : Broker) (results : List (Stream × List Message)) :
    ∃ order, broker.ArrangesDispatch results order := by
  refine ⟨results.map fun result => broker.subscribersForStream result.1,
    List.length_map _, ?_⟩
  intro entry member
  rcases List.mem_iff_getElem.mp member with ⟨index, bound, rfl⟩
  rw [List.getElem_zip, List.getElem_map]

namespace Live

theorem finish_read {results : List (Stream × List Message)} (live : Live broker)
    (read : broker.reader = .read results) :
    ∃ later, Transition.Run Broker.step Working broker later ∧ later.reader = .idle := by
  rcases exists_arrangesDispatch broker results with ⟨order, arranges⟩
  have taken : broker.step (.dispatch order) =
      some (broker.withReader (.dispatching (dispatchWork results order))) := by
    simp [Broker.step, read, arranges]
  rcases (live.step taken).finish_dispatch rfl with ⟨later, run, idle⟩
  exact ⟨later, Transition.Run.head (by trivial) taken
    (run.weaken fun _ _ => Draining.working), idle⟩

/-- The reader loop can finish its round, wherever it stands. -/
theorem come_to_rest (live : Live broker) :
    ∃ later, Transition.Run Broker.step Working broker later ∧ later.reader = .idle := by
  have weaken : ∀ {later}, Transition.Run Broker.step Draining broker later →
      Transition.Run Broker.step Working broker later :=
    fun run => run.weaken fun _ _ => Draining.working
  cases reader : broker.reader with
  | idle => exact ⟨broker, .refl _, reader⟩
  | gathered request =>
      cases results : broker.xread request with
      | nil =>
          have taken : broker.step .xread = some (broker.withReader .idle) := by
            simp [Broker.step, reader, results]
          exact ⟨_, Transition.Run.single (by trivial) taken, rfl⟩
      | cons result rest =>
          have taken : broker.step .xread =
              some (broker.withReader (.read (result :: rest))) := by
            simp [Broker.step, reader, results]
          rcases (live.step taken).finish_read rfl with ⟨later, run, idle⟩
          exact ⟨later, Transition.Run.head (by trivial) taken run, idle⟩
  | read results => exact live.finish_read reader
  | dispatching work =>
      rcases live.finish_dispatch reader with ⟨later, run, idle⟩
      exact ⟨later, weaken run, idle⟩
  | sending target msgs work =>
      rcases live.finish_send reader with ⟨current, sent, dispatching⟩
      rcases (live.of_run sent).finish_dispatch dispatching with ⟨later, run, idle⟩
      exact ⟨later, weaken (sent.trans run), idle⟩
  | awaiting target work =>
      rcases live.finish_batch reader with ⟨current, finished, dispatching⟩
      rcases (live.of_run finished).finish_dispatch dispatching with ⟨later, run, idle⟩
      exact ⟨later, weaken (finished.trans run), idle⟩

end Live

/-! ## A round of reading -/

theorem Follows.serves_of_present (follows : Follows width stream id broker reader)
    (present : broker.subscribers id = some sub) : broker.Serves stream id reader sub := by
  rcases follows.serves with admits | ⟨served, serves⟩
  · rw [admits.unused] at present
    cases present
  · cases serves.present.symm.trans present
    exact serves

/-- More than this has been delivered to a subscriber, or a batch that is not
empty is on its way to it. -/
structure Owes (broker : Broker) (id : SubscriberID) (count : Nat) (sub : Subscriber) :
    Prop where
  present : broker.subscribers id = some sub
  reached : count ≤ sub.delivered.length
  owes : count < sub.delivered.length ∨ sub.remaining ≠ [] ∨
    ∃ msgs, (id, msgs) ∈ broker.reader.work ∧ msgs ≠ []

/-- A send to another subscriber takes no batch away from this one. -/
theorem on_its_way_of_other {target : SubscriberID} {msgs : List Message}
    {work : List (SubscriberID × List Message)} (different : target ≠ id)
    (onItsWay : ∃ batch, (id, batch) ∈ (target, msgs) :: work ∧ batch ≠ []) :
    ∃ batch, (id, batch) ∈ work ∧ batch ≠ [] := by
  rcases onItsWay with ⟨batch, member, nonempty⟩
  rcases List.mem_cons.mp member with equal | later
  · cases equal
    exact absurd rfl different
  · exact ⟨batch, later, nonempty⟩

/-- A step that works on a dispatch loses no batch. -/
theorem Owes.step {count : Nat} (owes : broker.Owes id count sub)
    (follows : Follows width stream id broker reader) (draining : broker.Draining action)
    (effect : Effect broker action next) : ∃ later, next.Owes id count later := by
  have serves := follows.serves_of_present owes.present
  have owed := owes.owes
  cases effect with
  | finishDispatch dispatching =>
      refine ⟨sub, owes.present, owes.reached, ?_⟩
      rwa [dispatching] at owed
  | send dispatching =>
      refine ⟨sub, owes.present, owes.reached, ?_⟩
      rwa [dispatching] at owed
  | @skipClosed target msgs work found sending present closed =>
      refine ⟨sub, owes.present, owes.reached, ?_⟩
      have different : target ≠ id := by
        rintro rfl
        cases owes.present.symm.trans present
        rw [serves.isOpen] at closed
        cases closed
      rw [sending] at owed
      exact owed.imp_right (Or.imp_right (on_its_way_of_other different))
  | @handOver target msgs work found sending present selecting =>
      rw [sending] at owed
      rcases serves.own_or_other present with ⟨rfl, rfl⟩ | different
      · refine ⟨_, Function.update_self .., owes.reached, ?_⟩
        rcases owed with delivered | remaining | ⟨batch, member, nonempty⟩
        · exact Or.inl delivered
        · simp [Subscriber.remaining, selecting] at remaining
        · rcases List.mem_cons.mp member with equal | later
          · cases equal
            exact Or.inr (Or.inl nonempty)
          · exact Or.inr (Or.inr ⟨batch, later, nonempty⟩)
      · exact ⟨sub, (serves.of_other different _).present, owes.reached,
          owed.imp_right (Or.imp_right (on_its_way_of_other different))⟩
  | @examine target found examined present examines =>
      rcases serves.own_or_other present with ⟨rfl, rfl⟩ | different
      · rcases serves.examine follows.sound examines with ⟨msg, rest, _, serves'⟩
        refine ⟨examined, serves'.present, ?_, Or.inl ?_⟩
        all_goals
          have reached := owes.reached
          rw [serves.delivered, List.length_map] at reached
          rw [serves'.delivered, List.length_map, SoleReader.deliver, List.length_append,
            List.length_singleton]
          omega
      · exact ⟨sub, (serves.of_other different _).present, owes.reached, owed⟩
  | @processed target work found awaiting present finished =>
      rw [awaiting] at owed
      rcases serves.own_or_other present with ⟨rfl, rfl⟩ | different
      · refine ⟨_, Function.update_self .., owes.reached, ?_⟩
        refine owed.imp_right (Or.imp_left ?_)
        intro remaining
        simp [Subscriber.remaining, finished] at remaining
      · exact ⟨sub, (serves.of_other different _).present, owes.reached, owed⟩
  | @recheck target found present checking =>
      rcases serves.own_or_other present with ⟨rfl, rfl⟩ | different
      · refine ⟨_, Function.update_self .., owes.reached, ?_⟩
        refine owed.imp_right (Or.imp_left ?_)
        intro remaining
        simp [Subscriber.remaining, checking] at remaining
      · exact ⟨sub, (serves.of_other different _).present, owes.reached, owed⟩
  | @receive target found msg rest present buffered =>
      rcases serves.own_or_other present with ⟨rfl, rfl⟩ | different
      · exact ⟨_, Function.update_self .., owes.reached, owed⟩
      · exact ⟨sub, (serves.of_other different _).present, owes.reached, owed⟩
  | _ => exact draining.elim

/-- At rest, what was on its way has been delivered. -/
theorem Owes.delivered {count : Nat} (owes : broker.Owes id count sub)
    (lockstep : Lockstep broker) (idle : broker.reader = .idle) :
    count < sub.delivered.length := by
  rcases owes.owes with delivered | remaining | ⟨msgs, member, _⟩
  · exact delivered
  · unfold Subscriber.remaining at remaining
    split at remaining
    · rename_i msgs loop
      rcases lockstep.processing id sub msgs owes.present loop with ⟨_, awaiting⟩
      rw [idle] at awaiting
      cases awaiting
    · exact absurd rfl remaining
  · rw [idle] at member
    cases member

theorem Owes.of_run {count : Nat} (owes : broker.Owes id count sub)
    (follows : Follows width stream id broker reader)
    (run : Transition.Run Broker.step Draining broker next) :
    ∃ later, next.Owes id count later := by
  have both : (∃ reader, Follows width stream id next reader) ∧
      ∃ later, next.Owes id count later := by
    have starts : (∃ reader, Follows width stream id broker reader) ∧
        ∃ later, broker.Owes id count later := ⟨⟨reader, follows⟩, sub, owes⟩
    apply Transition.Run.preserves run starts
    intro current action later _ holds draining taken
    rcases holds with ⟨⟨reader, follows⟩, found, owes⟩
    rcases follows.step (Draining.working draining).alone taken with ⟨reader', _, follows'⟩
    exact ⟨⟨reader', follows'⟩, owes.step follows draining (effect_of_step taken)⟩
  exact both.2

/-- The offset requested for a stream is that of one of its subscribers. -/
theorem Live.lowest_of_arranged (live : Live broker)
    {order : List (Stream × List SubscriberID)} (arranges : broker.Arranges order)
    {other : Stream} {ids : List SubscriberID} (listed : (other, ids) ∈ order) :
    ∃ id sub, id ∈ broker.subscribersForStream other ∧ broker.subscribers id = some sub ∧
      lowestOffset (broker.offsetsOf ids) = some sub.offset := by
  have permuted : ids.Perm (broker.subscribersForStream other) := arranges.2 _ listed
  have keyed : other ∈ broker.subscribersByStream.keys :=
    arranges.1.mem_iff.mp (List.mem_map_of_mem listed)
  rw [← AList.mem_keys, ← AList.lookup_isSome, Option.isSome_iff_exists] at keyed
  rcases keyed with ⟨registered, found⟩
  have peopled : broker.subscribersForStream other ≠ [] := by
    rw [subscribersForStream, found]
    exact live.peopled other registered found
  rcases List.exists_mem_of_ne_nil _ peopled with ⟨first, member⟩
  rcases live.wellformed.registered other first member with ⟨sub, present, _⟩
  have offset : sub.offset ∈ broker.offsetsOf ids :=
    Wellformed.offset_mem_offsetsOf (permuted.mem_iff.mpr member) present
  have selected : ∃ lowest, lowestOffset (broker.offsetsOf ids) = some lowest :=
    selectBy.exists_of_ne_nil (List.ne_nil_of_mem offset)
  rcases selected with ⟨lowest, selected⟩
  rcases Wellformed.mem_offsetsOf (selectBy.mem selected) with
    ⟨id, sub, visited, present, equal⟩
  exact ⟨id, sub, permuted.mem_iff.mp visited, present, by rw [equal]; exact selected⟩

/-- Every stream that is requested has an offset to read from. -/
theorem Live.request_complete (live : Live broker) {order : List (Stream × List SubscriberID)}
    (arranges : broker.Arranges order) :
    ((broker.gatherStreamsWithOffsets order).any fun entry => entry.2.isNone) = false := by
  rw [List.any_eq_false]
  intro requested member
  rcases List.mem_map.mp member with ⟨⟨other, ids⟩, listed, rfl⟩
  rcases live.lowest_of_arranged arranges listed with ⟨_, sub, _, _, selected⟩
  simp [selected]

/-- What is unread is read from a request that is complete. -/
theorem mem_xread_of_requested {request : List (Stream × Option Offset)} {offset : Offset}
    (complete : (request.any fun entry => entry.2.isNone) = false)
    (requested : (stream, some offset) ∈ request)
    (found : broker.entriesAfter stream offset ≠ []) :
    (stream, broker.entriesAfter stream offset) ∈ broker.xread request := by
  rw [Broker.xread, if_neg (by rw [complete]; exact Bool.false_ne_true), List.mem_filterMap]
  refine ⟨_, requested, ?_⟩
  simp only [Option.getD_some]

theorem step_xread_of_mem {request : List (Stream × Option Offset)}
    {result : Stream × List Message} (gathered : broker.reader = .gathered request)
    (found : result ∈ broker.xread request) :
    broker.step .xread = some (broker.withReader (.read (broker.xread request))) := by
  cases results : broker.xread request with
  | nil =>
      rw [results] at found
      cases found
  | cons first rest => simp [Broker.step, gathered, results]

/-- A result is dispatched to the subscriber of its stream. -/
theorem mem_dispatchWork_of_registered {results : List (Stream × List Message)}
    {order : List (List SubscriberID)} (arranges : broker.ArrangesDispatch results order)
    {msgs : List Message} (found : (stream, msgs) ∈ results)
    (registered : id ∈ broker.subscribersForStream stream) :
    (id, msgs) ∈ dispatchWork results order := by
  rcases List.mem_iff_getElem.mp found with ⟨index, bound, same⟩
  have ordered : index < order.length := arranges.1 ▸ bound
  have paired : ((stream, msgs), order[index]) ∈ results.zip order := by
    rw [← same]
    exact List.mem_iff_getElem.mpr ⟨index, by simp [bound, ordered], List.getElem_zip⟩
  exact List.mem_flatMap.mpr ⟨_, paired, List.mem_map.mpr
    ⟨id, (arranges.2 _ paired).mem_iff.mpr registered, rfl⟩⟩

theorem Follows.unread_eq (follows : Follows width stream id broker reader) :
    broker.entriesAfter stream reader.offset = reader.unread.take readCount := by
  rw [entriesAfter, follows.entries]
  rfl

/-- A batch for the subscriber can be read and dispatched. -/
theorem Follows.dispatches (follows : Follows width stream id broker reader)
    (live : Live broker) (idle : broker.reader = .idle)
    (present : broker.subscribers id = some sub) (unread : reader.unread ≠ []) :
    ∃ later, Transition.Run Broker.step Working broker later ∧
      (∃ work, later.reader = .dispatching work) ∧
      later.Owes id sub.delivered.length sub := by
  have serves := follows.serves_of_present present
  rcases exists_arranges broker with ⟨order, arranges⟩
  have gathers : broker.step (.gather order) =
      some (broker.withReader (.gathered (broker.gatherStreamsWithOffsets order))) := by
    simp [Broker.step, idle, arranges]
  have nonempty : broker.entriesAfter stream reader.offset ≠ [] := by
    rw [follows.unread_eq, Ne, List.take_eq_nil_iff, not_or]
    exact ⟨by decide, unread⟩
  have requested : (stream, some reader.offset) ∈ broker.gatherStreamsWithOffsets order := by
    have member : (stream, some reader.offset) ∈
        (broker.gatherStreamsWithOffsets order).filter fun entry => entry.1 = stream := by
      rw [serves.requested_gather arranges]
      exact List.mem_singleton_self _
    exact List.mem_of_mem_filter member
  have found := mem_xread_of_requested (live.request_complete arranges) requested nonempty
  generalize broker.gatherStreamsWithOffsets order = request at gathers found
  have reads : (broker.withReader (.gathered request)).step .xread =
      some (broker.withReader (.read (broker.xread request))) :=
    step_xread_of_mem rfl found
  rcases exists_arrangesDispatch broker (broker.xread request) with ⟨dispatchOrder, dispatches⟩
  have dispatched : (broker.withReader (.read (broker.xread request))).step
      (.dispatch dispatchOrder) = some (broker.withReader
        (.dispatching (dispatchWork (broker.xread request) dispatchOrder))) :=
    if_pos dispatches
  refine ⟨_, ((Transition.Run.single (by trivial) gathers).tail (by trivial) reads).tail
    (by trivial) dispatched, ⟨_, rfl⟩, present, le_refl _, Or.inr (Or.inr ?_)⟩
  refine ⟨_, mem_dispatchWork_of_registered dispatches found ?_, nonempty⟩
  simp [subscribersForStream, serves.registered]

/-- A round of the reader loop delivers messages as long as there are any. -/
theorem Follows.round (follows : Follows width stream id broker reader)
    (live : Live broker) (idle : broker.reader = .idle)
    (present : broker.subscribers id = some sub) (unread : reader.unread ≠ []) :
    ∃ later served, Transition.Run Broker.step Working broker later ∧
      later.reader = .idle ∧ later.subscribers id = some served ∧
      sub.delivered.length < served.delivered.length := by
  rcases follows.dispatches live idle present unread with
    ⟨current, dispatched, ⟨work, dispatching⟩, owes⟩
  rcases follows.of_run (dispatched.weaken fun _ _ => Working.alone) with ⟨_, _, follows'⟩
  rcases (live.of_run dispatched).finish_dispatch dispatching with ⟨later, drained, rests⟩
  rcases owes.of_run follows' drained with ⟨served, owes'⟩
  have live' := (live.of_run dispatched).of_run drained
  exact ⟨later, served, dispatched.trans (drained.weaken fun _ _ => Draining.working), rests,
    owes'.present, owes'.delivered live'.lockstep rests⟩

/-! ## To the end of the stream -/

theorem Follows.delivered_prefix (follows : Follows width stream id broker reader)
    (present : broker.subscribers id = some sub) :
    sub.delivered <+: (broker.streams stream).map Message.id := by
  rw [(follows.serves_of_present present).delivered, follows.entries, ← follows.sound.complete]
  exact (List.prefix_append _ _).map _

/-- Between two rounds, with the stream as it is. -/
structure Resting (width : Nat) (stream : Stream) (id : SubscriberID)
    (entries : List Message) (broker : Broker) : Prop where
  live : Live broker
  idle : broker.reader = .idle
  streams : broker.streams stream = entries
  present : ∃ sub, broker.subscribers id = some sub
  follows : ∃ reader, Follows width stream id broker reader

/-- The reader can come to rest with the subscriber registered. -/
theorem Follows.comes_to_rest (follows : Follows width stream id broker reader)
    (live : Live broker) :
    ∃ later, Transition.Run Broker.step Working broker later ∧
      later.Resting width stream id (broker.streams stream) := by
  rcases live.come_to_rest with ⟨current, run, idle⟩
  have live' := live.of_run run
  have streams := congrFun (streams_of_run run) stream
  rcases follows.of_run (run.weaken fun _ _ => Working.alone) with ⟨reader', _, follows'⟩
  rcases follows'.serves with admits | ⟨sub, serves⟩
  · have taken : current.step (.register id) =
        some (current.newSubscriber id stream reader'.offset) := by
      simp [Broker.step, admits.joining, idle, Reader.locked]
    have alone : current.Alone width stream id (.register id) := trivial
    rcases follows'.step alone taken with ⟨registered, _, follows''⟩
    exact ⟨_, run.tail (by trivial) taken, live'.step taken, idle, streams,
      ⟨_, admits.register.present⟩, registered, follows''⟩
  · exact ⟨current, run, live', idle, streams, ⟨sub, serves.present⟩, reader', follows'⟩

/-- Round after round, everything is delivered. -/
theorem Resting.delivers {entries : List Message}
    (resting : broker.Resting width stream id entries) :
    ∃ later, Transition.Run Broker.step Working broker later ∧
      later.Resting width stream id entries ∧
      ∃ sub, later.subscribers id = some sub ∧ sub.delivered = entries.map Message.id := by
  refine Transition.Run.arrives (fun current : Broker => entries.length -
    ((current.subscribers id).elim 0 fun sub => sub.delivered.length)) ?_ resting
  intro current rests unfinished
  rcases rests.present with ⟨sub, present⟩
  rcases rests.follows with ⟨reader, follows⟩
  have serves := follows.serves_of_present present
  have unread : reader.unread ≠ [] := by
    intro nothing
    refine unfinished ⟨sub, present, ?_⟩
    rw [serves.delivered, ← rests.streams, follows.entries, ← follows.sound.complete, nothing,
      List.append_nil]
  rcases follows.round rests.live rests.idle present unread with
    ⟨later, served, run, idle, present', more⟩
  rcases follows.of_run (run.weaken fun _ _ => Working.alone) with ⟨reader', _, follows'⟩
  have streams : later.streams stream = entries :=
    (congrFun (streams_of_run run) stream).trans rests.streams
  refine ⟨later, run, ⟨rests.live.of_run run, idle, streams, ⟨served, present'⟩,
    reader', follows'⟩, ?_⟩
  have within : served.delivered.length ≤ entries.length := by
    have within := (follows'.delivered_prefix present').length_le
    rwa [streams, List.length_map] at within
  rw [present, present', Option.elim_some, Option.elim_some]
  omega

/-- The consumer takes what has been delivered. -/
theorem receives_delivered (wellformed : Wellformed broker)
    (present : broker.subscribers id = some sub) :
    ∃ later served, Transition.Run Broker.step Working broker later ∧
      later.subscribers id = some served ∧ served.received = sub.delivered := by
  induction buffered : sub.messagesOut generalizing broker sub with
  | nil =>
      refine ⟨broker, sub, .refl _, present, ?_⟩
      rw [(wellformed.subscriber id sub present).buffered, buffered, List.map_nil,
        List.append_nil]
  | cons msg rest induction =>
      have taken : broker.step (.receive id) = some (broker.setSubscriber id
          { sub with messagesOut := rest, received := sub.received ++ [msg.id] }) := by
        simp only [Broker.step, present, buffered]
      rcases induction (wellformed.step (effect_of_step taken)) (Function.update_self ..) rfl
        with ⟨later, served, run, present', received⟩
      exact ⟨later, served, Transition.Run.head (by trivial) taken run, present', received⟩

/-- From every state in which a subscriber follows the sole reader, everything in
the stream can be received. -/
theorem Follows.completes (follows : Follows width stream id broker reader)
    (live : Live broker) :
    ∃ later sub, Transition.Run Broker.step Working broker later ∧
      later.streams = broker.streams ∧ later.subscribers id = some sub ∧
      sub.received = (broker.streams stream).map Message.id := by
  rcases follows.comes_to_rest live with ⟨first, rests, resting⟩
  rcases resting.delivers with ⟨second, delivers, resting', sub, present, delivered⟩
  rcases receives_delivered resting'.live.wellformed present with
    ⟨later, served, receives, present', received⟩
  have run := (rests.trans delivers).trans receives
  exact ⟨later, served, run, streams_of_run run, present', received.trans delivered⟩

end Broker

end Tassis.RedisBroker
