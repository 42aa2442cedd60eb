import Tassis.RedisBroker.Answers
import Tassis.Service.Acknowledgements
import Tassis.Service.Deployment

/-! # The Redis broker behind a service

The Redis broker implements the contract that the service relies on, as long as an
`XADD` that has added an entry is also answered. The place of a message in its topic
is the position of its entry among all entries that the stream has ever had, and a
message is acked when its acker returns without an error.
-/

namespace Tassis.RedisBroker

open Service (BrokerEvent Place Posting Topics)

/-! ## Where messages come from -/

/-- The messages on their way through a subscriber are known, and it has received no
others. -/
structure Subscriber.Carries (sub : Subscriber) (known : Message → Prop) : Prop where
  remaining : ∀ msgs, sub.loop = .processing msgs → ∀ msg, msg ∈ msgs → known msg
  buffered : ∀ msg, msg ∈ sub.messagesOut → known msg
  received : ∀ id, id ∈ sub.received → ∃ msg, known msg ∧ msg.id = id

namespace Subscriber.Carries

variable {sub : Subscriber} {known known' : Message → Prop}

theorem mono (carries : sub.Carries known) (grows : ∀ msg, known msg → known' msg) :
    sub.Carries known' where
  remaining msgs loop msg member := grows msg (carries.remaining msgs loop msg member)
  buffered msg member := grows msg (carries.buffered msg member)
  received id member := by
    rcases carries.received id member with ⟨msg, holds, same⟩
    exact ⟨msg, grows msg holds, same⟩

theorem withLoop (carries : sub.Carries known) {loop : ProcessLoop}
    (remaining : ∀ msgs, loop = .processing msgs → ∀ msg, msg ∈ msgs → known msg) :
    Carries { sub with loop := loop } known where
  remaining := remaining
  buffered := carries.buffered
  received := carries.received

theorem examine {examined : Subscriber} (carries : sub.Carries known)
    (examines : sub.examine = some examined) : examined.Carries known := by
  rcases examine_cases examines with ⟨msg, rest, loop, examined⟩
  have remaining (msgs : List Message) (processing : ProcessLoop.processing rest = .processing msgs)
      (other : Message) (member : other ∈ msgs) : known other := by
    cases processing
    exact carries.remaining _ loop other (List.mem_cons_of_mem _ member)
  rcases examined with ⟨_, _, rfl⟩ | ⟨_, rfl⟩
  · refine ⟨remaining, fun other member => ?_, carries.received⟩
    rcases List.mem_append.mp member with member | member
    · exact carries.buffered other member
    · cases List.mem_singleton.mp member
      exact carries.remaining _ loop msg List.mem_cons_self
  · exact carries.withLoop remaining

theorem receive (carries : sub.Carries known) {msg : Message} {rest : List Message}
    (buffered : sub.messagesOut = msg :: rest) :
    Carries { sub with messagesOut := rest, received := sub.received ++ [msg.id] } known where
  remaining := carries.remaining
  buffered other member := carries.buffered other (buffered ▸ List.mem_cons_of_mem _ member)
  received id member := by
    rcases List.mem_append.mp member with member | member
    · exact carries.received id member
    · cases List.mem_singleton.mp member
      exact ⟨msg, carries.buffered msg (buffered ▸ List.mem_cons_self), rfl⟩

end Subscriber.Carries

namespace Broker

/-- Every message in the broker is known in its stream. -/
structure Carries (broker : Broker) (known : Stream → Message → Prop) : Prop where
  entries : ∀ stream entry, entry ∈ broker.streams stream → known stream entry
  results : ∀ results, broker.reader = .read results → ∀ result, result ∈ results →
    ∀ msg, msg ∈ result.2 → known result.1 msg
  work : ∀ send, send ∈ broker.reader.work → ∀ sub, broker.subscribers send.1 = some sub →
    ∀ msg, msg ∈ send.2 → known sub.stream msg
  subscribers : ∀ id sub, broker.subscribers id = some sub → sub.Carries (known sub.stream)
  acks : ∀ ack, ack ∈ broker.acks → ∃ msg, known ack.stream msg ∧ msg.id = ack.offset

namespace Carries

variable {broker next : Broker} {action : Action} {known known' : Stream → Message → Prop}

theorem initial : Broker.initial.Carries known where
  entries stream entry member := by cases member
  results results read := by cases read
  work send member := by cases member
  subscribers id sub present := by cases present
  acks ack member := by cases member

private theorem step_entries (carries : broker.Carries known)
    (effect : Effect broker action next) (grows : ∀ stream msg, known stream msg → known' stream msg)
    (new : ∀ stream id data, action = .publish stream id data → known' stream ⟨id, data⟩)
    (stream : Stream) (entry : Message) (member : entry ∈ next.streams stream) :
    known' stream entry := by
  rcases effect.entry member with earlier | ⟨publishes, _⟩
  · exact grows stream entry (carries.entries stream entry earlier)
  · exact new stream entry.id entry.data publishes

private theorem step_results (carries : broker.Carries known)
    (effect : Effect broker action next) (results : List (Stream × List Message))
    (read : next.reader = .read results) (result : Stream × List Message)
    (member : result ∈ results) (msg : Message) (inBatch : msg ∈ result.2) :
    known result.1 msg := by
  have change := effect.reader
  rw [read] at change
  cases change with
  | none unchanged => exact carries.results results unchanged result member msg inBatch
  | read gathered =>
      rcases Wellformed.mem_xread member with ⟨offset, _, found⟩
      rw [found] at inBatch
      exact carries.entries result.1 msg (Wellformed.mem_entriesAfter inBatch).1

private theorem step_work (carries : broker.Carries known) (wellformed : broker.Wellformed)
    (effect : Effect broker action next) (send : SubscriberID × List Message)
    (member : send ∈ next.reader.work) (sub : Subscriber)
    (found : next.subscribers send.1 = some sub) (msg : Message) (inBatch : msg ∈ send.2) :
    known sub.stream msg := by
  rcases wellformed.before_of_work effect member found with
    ⟨before, present, change, earlier | ⟨results, read, result, _⟩⟩ <;>
    rw [change.progress.stream]
  · exact carries.work send earlier before present msg inBatch
  · exact carries.results results read _ result msg inBatch

private theorem step_subscribers (carries : broker.Carries known)
    (effect : Effect broker action next) (id : SubscriberID) (sub : Subscriber)
    (found : next.subscribers id = some sub) : sub.Carries (known sub.stream) := by
  rcases effect.subscriber found with
    ⟨before, present, change⟩ | ⟨stream, startingOffset, _, joining, rfl⟩
  · have earlier := carries.subscribers id before present
    rw [← change.progress.stream] at earlier
    cases change with
    | handedOver _ sending =>
        apply earlier.withLoop
        intro msgs processing msg member
        cases processing
        exact carries.work (id, _) (by rw [sending]; exact List.mem_cons_self) before present
          msg member
    | examined _ examines => exact earlier.examine examines
    | processed | stopped | deregistered => exact earlier.withLoop nofun
    | rechecked =>
        apply earlier.withLoop
        intro msgs processing
        split at processing <;> cases processing
    | received buffered => exact earlier.receive buffered
    | none => exact earlier
    | closed => exact ⟨earlier.remaining, earlier.buffered, earlier.received⟩
  · exact ⟨nofun, nofun, nofun⟩

/-- What is known may grow, and has to when an entry is published. -/
theorem step (carries : broker.Carries known) (wellformed : broker.Wellformed)
    (effect : Effect broker action next) (grows : ∀ stream msg, known stream msg → known' stream msg)
    (new : ∀ stream id data, action = .publish stream id data → known' stream ⟨id, data⟩) :
    next.Carries known' where
  entries := step_entries carries effect grows new
  results results read result member msg inBatch :=
    grows _ msg (step_results carries effect results read result member msg inBatch)
  work send member sub found msg inBatch :=
    grows _ msg (step_work carries wellformed effect send member sub found msg inBatch)
  subscribers id sub found := (step_subscribers carries effect id sub found).mono (grows _)
  acks ack member := by
    rcases effect.pending member with earlier | ⟨id, sub, _, present, ofStream, received⟩
    · rcases carries.acks ack earlier with ⟨msg, holds, same⟩
      exact ⟨msg, grows _ msg holds, same⟩
    · rcases (carries.subscribers id sub present).received _ received with ⟨msg, holds, same⟩
      exact ⟨msg, ofStream ▸ grows _ msg holds, same⟩

end Carries

end Broker

namespace Node

/-- An entry of this stream has been published under this ID. -/
def Names (node : Node) (ack : Ack) : Prop :=
  ∃ msg, msg ∈ node.published ack.stream ∧ msg.id = ack.offset

structure Genuine (node : Node) : Prop where
  wellformed : node.broker.Wellformed
  tended : node.Tended
  sorted : ∀ stream, (node.published stream).Pairwise fun a b => a.id < b.id
  bounded : ∀ stream msg, msg ∈ node.published stream → msg.id ≤ node.broker.lastID stream
  named : ∀ stream msg, msg ∈ node.published stream →
    ∃ topicName, stream = streamName topicName
  carries : node.broker.Carries fun stream msg => msg ∈ node.published stream
  answering : ∀ call, call ∈ node.answering → node.Names call.ack
  answered : ∀ answer, answer ∈ node.answers → node.Names answer.call.ack

theorem mem_published_publish {node : Node} {broker : Broker} {stream other : Stream}
    {msg new : Message} : msg ∈ (node.publish broker stream new).published other ↔
      msg ∈ node.published other ∨ other = stream ∧ msg = new := by
  by_cases same : other = stream
  · subst same
    simp [publish]
  · simp [publish, same]

namespace Genuine

variable {node next : Node} {action : Action}

theorem initial : Genuine Node.initial where
  wellformed := .initial
  tended := .initial
  sorted stream := .nil
  bounded stream msg member := by cases member
  named stream msg member := by cases member
  carries := .initial
  answering call member := by cases member
  answered answer member := by cases member

theorem pending (genuine : node.Genuine) (call : Call) (member : call ∈ node.pending) :
    node.Names call.ack := by
  apply genuine.carries.acks
  rw [genuine.tended.mirrors]
  exact List.mem_map_of_mem member

/-- A step that leaves the entries alone. -/
theorem of_broker (genuine : node.Genuine) {action : RedisBroker.Action}
    (effect : Broker.Effect node.broker action next.broker)
    (notPublish : ∀ stream id data, action ≠ .publish stream id data)
    (published : next.published = node.published) (answers : next.answers = node.answers)
    (tended : next.Tended)
    (answering : ∀ call, call ∈ next.answering → node.Names call.ack) : next.Genuine where
  wellformed := genuine.wellformed.step effect
  tended := tended
  sorted stream := by
    rw [published]
    exact genuine.sorted stream
  bounded stream msg member :=
    (genuine.bounded stream msg (published ▸ member)).trans (effect.extends.lastID stream)
  named stream msg member := genuine.named stream msg (published ▸ member)
  carries := genuine.carries.step genuine.wellformed effect
    (fun stream msg member => by rwa [published])
    (fun stream id data isPublish => absurd isPublish (notPublish stream id data))
  answering call member := by
    rw [Names, published]
    exact answering call member
  answered answer member := by
    rw [Names, published]
    exact genuine.answered answer (answers ▸ member)

theorem publish (genuine : node.Genuine) {topicName : Text} {id : MessageID} {data : Text}
    (increasing : node.broker.lastID (streamName topicName) < id)
    (tended : (node.publish (node.broker.publish (streamName topicName) id data)
      (streamName topicName) ⟨id, data⟩).Tended) :
    (node.publish (node.broker.publish (streamName topicName) id data) (streamName topicName)
      ⟨id, data⟩).Genuine := by
  have effect : Broker.Effect node.broker (.publish (streamName topicName) id data) _ :=
    .publish increasing
  refine ⟨genuine.wellformed.step effect, tended, ?_, ?_, ?_, ?_, ?_, ?_⟩
  · intro stream
    by_cases same : stream = streamName topicName
    · subst same
      simp only [Node.publish, Function.update_self]
      apply List.pairwise_append.mpr
      refine ⟨genuine.sorted _, List.pairwise_singleton _ _, ?_⟩
      intro msg member new isNew
      rw [List.mem_singleton.mp isNew]
      exact lt_of_le_of_lt (genuine.bounded _ msg member) increasing
    · simpa only [Node.publish, Function.update_of_ne same] using genuine.sorted stream
  · intro stream msg member
    rcases mem_published_publish.mp member with earlier | ⟨rfl, rfl⟩
    · exact (genuine.bounded stream msg earlier).trans (effect.extends.lastID stream)
    · simp [Node.publish, Broker.publish]
  · intro stream msg member
    rcases mem_published_publish.mp member with earlier | ⟨rfl, rfl⟩
    · exact genuine.named stream msg earlier
    · exact ⟨topicName, rfl⟩
  · apply genuine.carries.step genuine.wellformed effect
    · intro stream msg member
      exact mem_published_publish.mpr (Or.inl member)
    · intro stream newID newData isPublish
      cases isPublish
      exact mem_published_publish.mpr (Or.inr ⟨rfl, rfl⟩)
  · intro call member
    rcases genuine.answering call member with ⟨msg, known, same⟩
    exact ⟨msg, mem_published_publish.mpr (Or.inl known), same⟩
  · intro answer member
    rcases genuine.answered answer member with ⟨msg, known, same⟩
    exact ⟨msg, mem_published_publish.mpr (Or.inl known), same⟩

theorem step (genuine : node.Genuine) (taken : node.step action = some next) :
    next.Genuine := by
  have tended := genuine.tended.step taken
  cases effect_of_step taken with
  | published increasing => exact genuine.publish increasing tended
  | called present received =>
      exact genuine.of_broker (.callAck present received) nofun rfl rfl tended genuine.answering
  | processed allowed waiting =>
      refine genuine.of_broker (.processAcks waiting) nofun rfl rfl tended fun call member => ?_
      have inBatch := (perm_arrange allowed.2.1 allowed.2.2.1).mem_iff.mp member
      exact genuine.pending call (List.mem_of_mem_take inBatch)
  | answered first =>
      exact { genuine with
        tended := tended
        answering := fun call member =>
          genuine.answering call (first ▸ List.mem_cons_of_mem _ member)
        answered := by
          intro answer member
          rcases List.mem_append.mp member with member | member
          · exact genuine.answered answer member
          · cases List.mem_singleton.mp member
            exact genuine.answering _ (first ▸ List.mem_cons_self) }
  | moved isOther moves =>
      refine genuine.of_broker (Broker.effect_of_step moves) ?_ rfl rfl tended genuine.answering
      rintro stream id data rfl
      cases isOther

end Genuine

/-! ## Events -/

/-- The topic whose stream has this name. -/
def topicName (stream : Stream) : Text := (stream.drop 7).dropLast

theorem topicName_streamName (topic : Text) : topicName (streamName topic) = topic := by
  change (topic ++ ['\x7d']).dropLast = topic
  exact List.dropLast_concat

/-- The position of the entry with this ID in its stream. -/
def placeOf (node : Node) (ack : Ack) : Place :=
  ⟨topicName ack.stream, (node.published ack.stream).findIdx fun msg => msg.id = ack.offset⟩

def event (node : Node) : Action → Option BrokerEvent
  | .publish topicName _ data => some (.published topicName data)
  | .other (.receive id) =>
      (node.broker.subscribers id).bind fun sub =>
        sub.messagesOut.head?.map fun msg =>
          let place := node.placeOf ⟨sub.stream, msg.id⟩
          .delivered ⟨place.topic, place.index, msg.data⟩
  | .answer =>
      match node.answering with
      | [] => none
      | call :: _ => if node.failed then none else some (.acked (node.placeOf call.ack))
  | _ => none

/-- The Redis broker as its users see it. -/
def component : Component BrokerEvent where
  State := Node
  Action := Action
  initial := initial
  step := step
  event := event

/-! ## The topics that it stands for -/

/-- An acker of this message has returned without an error. -/
def settled (node : Node) (ack : Ack) : Bool :=
  node.answers.any fun answer => !answer.failed && decide (answer.call.ack = ack)

def postings (node : Node) (stream : Stream) : List Posting :=
  (node.published stream).map fun msg => ⟨msg.data, node.settled ⟨stream, msg.id⟩⟩

def topicsOf (node : Node) : Topics := fun topic => node.postings (streamName topic)

theorem getElem?_postings (node : Node) (stream : Stream) (index : Nat) :
    (node.postings stream)[index]? = (node.published stream)[index]?.map fun msg =>
      ⟨msg.data, node.settled ⟨stream, msg.id⟩⟩ :=
  List.getElem?_map

theorem settled_answer (node : Node) (call : Call) (rest : List Call) (ack : Ack) :
    (node.answer call rest).settled ack =
      (node.settled ack || (!node.failed && decide (call.ack = ack))) := by
  simp [settled, answer]

section Steps

variable {node next : Node} {action : Action}

section Postings

variable (genuine : node.Genuine)

include genuine

/-- IDs are given to one entry only. -/
theorem Genuine.index_placeOf {stream : Stream} {index : Nat} {msg : Message}
    (found : (node.published stream)[index]? = some msg) :
    (node.placeOf ⟨stream, msg.id⟩).index = index := by
  rcases List.getElem?_eq_some_iff.mp found with ⟨bound, found⟩
  apply (List.findIdx_eq bound).mpr
  refine ⟨by simp [found], ?_⟩
  intro earlier before
  have increasing := List.pairwise_iff_getElem.mp (genuine.sorted stream) earlier index
    (before.trans bound) bound before
  rw [found] at increasing
  simpa using ne_of_lt increasing

theorem Genuine.posting_placeOf {stream : Stream} {msg : Message}
    (member : msg ∈ node.published stream) :
    (node.topicsOf.posting (node.placeOf ⟨stream, msg.id⟩)).map Posting.data = some msg.data := by
  rcases genuine.named stream msg member with ⟨topic, rfl⟩
  rcases List.mem_iff_getElem?.mp member with ⟨index, found⟩
  change ((node.postings (streamName (topicName (streamName topic))))[_]?).map _ = _
  rw [topicName_streamName, genuine.index_placeOf found, getElem?_postings, found]
  rfl

/-- Nobody has acked a message before it is published. -/
theorem Genuine.settled_eq_false {stream : Stream} {id : MessageID}
    (increasing : node.broker.lastID stream < id) : node.settled ⟨stream, id⟩ = false := by
  apply Bool.eq_false_of_not_eq_true
  intro isSettled
  rcases List.any_eq_true.mp isSettled with ⟨answer, member, matches'⟩
  rcases Bool.and_eq_true_iff.mp matches' with ⟨_, same⟩
  rcases genuine.answered answer member with ⟨msg, known, sameID⟩
  rw [of_decide_eq_true same] at known sameID
  subst sameID
  exact absurd (genuine.bounded stream msg known) (not_le.mpr increasing)

theorem Genuine.topicsOf_publish {topic : Text} {id : MessageID}
    (increasing : node.broker.lastID (streamName topic) < id) (broker : Broker) (data : Text) :
    (node.publish broker (streamName topic) ⟨id, data⟩).topicsOf =
      node.topicsOf.publish topic data := by
  funext other
  change (Function.update node.published (streamName topic) _ (streamName other)).map
    (fun msg => (⟨msg.data, node.settled ⟨streamName other, msg.id⟩⟩ : Posting)) = _
  by_cases same : other = topic
  · subst same
    rw [Function.update_self, List.map_append, List.map_singleton,
      genuine.settled_eq_false increasing, Topics.publish, Function.update_self]
    rfl
  · have apart : streamName other ≠ streamName topic := fun equal => same (by
      rw [← topicName_streamName other, equal, topicName_streamName])
    rw [Function.update_of_ne apart, Topics.publish, Function.update_of_ne same]
    rfl

/-- An answer without an error marks the entry that the call is about. -/
theorem Genuine.postings_answer {call : Call} {rest : List Call}
    (first : node.answering = call :: rest) (succeeded : node.failed = false) :
    (node.answer call rest).postings call.ack.stream =
      (node.postings call.ack.stream).modify (node.placeOf call.ack).index
        fun posting => { posting with acked := true } := by
  rcases genuine.answering call (first ▸ List.mem_cons_self) with ⟨msg, member, sameID⟩
  rcases List.mem_iff_getElem?.mp member with ⟨index, found⟩
  have isAck : call.ack = ⟨call.ack.stream, msg.id⟩ := by rw [sameID]
  have place : (node.placeOf call.ack).index = index := by
    rw [isAck]
    exact genuine.index_placeOf found
  apply List.ext_getElem?
  intro position
  rw [place, List.getElem?_modify, getElem?_postings, getElem?_postings]
  change (node.published call.ack.stream)[position]?.map _ = _
  simp only [settled_answer, succeeded, Bool.not_false, Bool.true_and]
  by_cases same : index = position
  · subst same
    rw [found]
    simp [← isAck]
  · cases other : (node.published call.ack.stream)[position]? with
    | none => rfl
    | some msg' =>
        have apart : call.ack ≠ ⟨call.ack.stream, msg'.id⟩ := by
          intro equal
          rw [equal] at place
          exact same (place.symm.trans (genuine.index_placeOf other))
        simp [same, apart]

theorem Genuine.topicsOf_answer {call : Call} {rest : List Call}
    (first : node.answering = call :: rest) (succeeded : node.failed = false) :
    (node.answer call rest).topicsOf = node.topicsOf.ack (node.placeOf call.ack) := by
  rcases genuine.answering call (first ▸ List.mem_cons_self) with ⟨msg, member, _⟩
  rcases genuine.named _ msg member with ⟨topic, ofTopic⟩
  have onTopic : (node.placeOf call.ack).topic = topic := by
    change topicName call.ack.stream = topic
    rw [ofTopic, topicName_streamName]
  funext other
  by_cases same : other = topic
  · subst same
    rw [Topics.ack, onTopic, Function.update_self]
    change (node.answer call rest).postings (streamName other) = _
    rw [← ofTopic, genuine.postings_answer first succeeded, ofTopic]
    rfl
  · have apart (id : MessageID) : call.ack ≠ ⟨streamName other, id⟩ := by
      intro equal
      rw [equal] at onTopic
      exact same ((topicName_streamName other).symm.trans onTopic)
    rw [Topics.ack, onTopic, Function.update_of_ne same]
    change (node.published (streamName other)).map _ = (node.published (streamName other)).map _
    simp [settled_answer, apart]

/-! ## The contract -/

end Postings

theorem topicsOf_of_hidden (taken : node.step action = some next)
    (noEvent : node.event action = none) : next.topicsOf = node.topicsOf := by
  cases effect_of_step taken with
  | published increasing => cases noEvent
  | called | processed | moved => rfl
  | @answered call rest first =>
      have failed : node.failed = true := by
        simpa [event, first] using noEvent
      funext topic
      change (node.published _).map _ = (node.published _).map _
      simp [settled_answer, failed]

theorem Genuine.topicsOf_of_event (genuine : node.Genuine) (taken : node.step action = some next)
    {shown : BrokerEvent} (shows : node.event action = some shown) :
    Topics.contract.admits node.topicsOf shown ∧
      next.topicsOf = Topics.contract.after node.topicsOf shown := by
  cases effect_of_step taken with
  | published increasing =>
      cases shows
      exact ⟨trivial, genuine.topicsOf_publish increasing _ _⟩
  | called | processed => cases shows
  | @answered call rest first =>
      simp only [event, first, Option.ite_none_left_eq_some] at shows
      rcases shows with ⟨succeeded, shows⟩
      cases shows
      exact ⟨trivial, genuine.topicsOf_answer first (by simpa using succeeded)⟩
  | @moved inner broker isOther moves =>
      cases inner <;> try cases shows
      case receive id =>
          rcases Option.bind_eq_some_iff.mp shows with ⟨sub, present, shows⟩
          rcases Option.map_eq_some_iff.mp shows with ⟨msg, buffered, rfl⟩
          have known := (genuine.carries.subscribers id sub present).buffered msg
            (List.mem_of_head? buffered)
          exact ⟨genuine.posting_placeOf known, rfl⟩

end Steps

theorem implements_contract :
    component.Implements Topics.contract fun (node : Node) topics =>
      node.Genuine ∧ topics = node.topicsOf :=
  @Component.implements_of_abstraction BrokerEvent component Topics.contract topicsOf Genuine
    Genuine.initial rfl (fun genuine taken => Genuine.step genuine taken)
    (fun _ taken noEvent => topicsOf_of_hidden taken noEvent)
    (fun genuine taken shows => Genuine.topicsOf_of_event genuine taken shows)

/-- A service with the Redis broker goes through states that it has with topics alone, as
long as an `XADD` that has added an entry is answered, as `Publish` does in the model.
Its topics hold the entries that the streams have had, trimmed ones included, and where
it takes a message for acked the script of the stream was executed for it. Every message
that a client has received is such an entry, of the stream of an address that it acts
for. -/
theorem service_with_redisBroker {library : Service.Library} {opts : Service.Opts}
    {deployment : Service.Deployment component} (reaches : deployment.Reaches library opts) :
    let node : Node := deployment.broker
    Service.Reaches library opts deployment.service ∧
      (∀ topic index posting,
        deployment.service.topics.posting ⟨topic, index⟩ = some posting →
        ∃ entry, (node.published (streamName topic))[index]? = some entry ∧
          entry.data = posting.data ∧
          (posting.acked = true → node.Executed ⟨streamName topic, entry.id⟩)) ∧
      ∀ number connection msg data, deployment.service.connections number = some connection →
        msg ∈ connection.inbox → msg.payload = some (.inboundMessage data) →
        ∃ address entry, connection.ActsFor address ∧
          entry ∈ node.published (streamName (Service.topicForAddr library address)) ∧
          entry.data = data := by
  intro node
  rcases Service.Deployment.reaches_service implements_contract reaches with
    ⟨reached, genuine, sameTopics⟩
  have isEntry (topic : Text) (index : Nat) (posting : Posting)
      (posted : deployment.service.topics.posting ⟨topic, index⟩ = some posting) :
      ∃ entry, (node.published (streamName topic))[index]? = some entry ∧
        posting = ⟨entry.data, node.settled ⟨streamName topic, entry.id⟩⟩ := by
    rw [sameTopics] at posted
    have posted : (node.postings (streamName topic))[index]? = some posting := posted
    rw [getElem?_postings] at posted
    rcases Option.map_eq_some_iff.mp posted with ⟨entry, found, rfl⟩
    exact ⟨entry, found, rfl⟩
  refine ⟨reached, ?_, ?_⟩
  · intro topic index posting posted
    rcases isEntry topic index posting posted with ⟨entry, found, rfl⟩
    refine ⟨entry, found, rfl, fun isSettled => ?_⟩
    rcases List.any_eq_true.mp isSettled with ⟨answer, member, isAnswer⟩
    rcases Bool.and_eq_true_iff.mp isAnswer with ⟨succeeded, same⟩
    have executed := genuine.tended.honoured answer member (by simpa using succeeded)
    rwa [of_decide_eq_true same] at executed
  · intro number connection msg data stored member payload
    rcases Service.State.Posted.of_reaches reached number connection msg data stored member
      payload with ⟨address, index, posting, actsFor, posted, sameData⟩
    rcases isEntry _ index posting posted with ⟨entry, found, rfl⟩
    exact ⟨address, entry, actsFor, List.mem_of_getElem? found, sameData⟩

/-- A client logs in, receives a message that goes through a stream, and acks it. -/
def ackedDeliveryTrace : List (Service.Deployment.Action component) :=
  let brokerMsg := Service.ownMessage
  let topic := brokerMsg.topic
  let stream := streamName topic
  let session := Service.sessionTrace.dropLast
  let read : List RedisBroker.Action := [.readOffset 1 stream, .register 1,
    .gather [(stream, [1])], .xread, .dispatch [[1]], .send, .handOver, .examine 1,
    .processed 1, .recheck 1, .send]
  session.map .service ++
    [.joint (.outbound 1) (.publish ⟨topic⟩ brokerMsg.data) none 0
      (.publish topic ⟨1, 0⟩ brokerMsg.data)] ++
    read.map (fun action => .broker (.other action)) ++
    [.joint Service.ownLoop (.nextDelivery ⟨topic⟩) (some brokerMsg) 0
      (.other (.receive 1))] ++
    ((Service.deliverTrace Service.ownLoop brokerMsg 1).tail ++ Service.ackTrace).map .service ++
    [.broker (.callAck 1 ⟨1, 0⟩), .broker (.processAcks 0 [stream] false [stream]),
      .joint (.outbound 0) (.ack brokerMsg) none 0 .answer]

theorem service_with_redisBroker_acks :
    ∃ deployment : Service.Deployment component,
      deployment.Reaches Service.plainLibrary Service.plainOpts ∧
      ∃ connection, deployment.service.connections 0 = some connection ∧
        (⟨1, some (.inboundMessage "hello".toList)⟩ : Model.Message) ∈ connection.inbox ∧
        ∃ entry, (Node.published deployment.broker
            (streamName Service.ownMessage.topic))[0]? = some entry ∧
          entry.data = Service.ownMessage.data ∧
          Node.Executed deployment.broker ⟨streamName Service.ownMessage.topic, entry.id⟩ := by
  have found : ∃ deployment : Service.Deployment component,
      deployment.Reaches Service.plainLibrary Service.plainOpts ∧
      (deployment.service.connections 0).any (fun connection => decide
        ((⟨1, some (.inboundMessage "hello".toList)⟩ : Model.Message) ∈ connection.inbox)) =
          true ∧
      deployment.service.topics.posting ⟨Service.ownMessage.topic, 0⟩ =
        some ⟨Service.ownMessage.data, true⟩ :=
    Transition.Run.exists_of_execute ackedDeliveryTrace (by decide +kernel)
  rcases found with ⟨deployment, reaches, received, posted⟩
  rcases (Option.any_eq_true _ _).mp received with ⟨connection, stored, member⟩
  rcases (service_with_redisBroker reaches).2.1 _ _ _ posted with
    ⟨entry, present, sameData, executed⟩
  exact ⟨deployment, reaches, connection, stored, of_decide_eq_true member, entry, present,
    sameData, executed rfl⟩

end Node

end Tassis.RedisBroker
