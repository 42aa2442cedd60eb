import Tassis.RedisBroker.Wellformed

/-! # Client connections

The broker together with the inbound loops of the client connections that
consume its subscribers. The question is whether a client that has gone away
can keep the reader loop, and with it every other subscriber, waiting.
-/

namespace Tassis.RedisBroker

/-! ## The reader and the process loops -/

namespace Broker

/-- A process loop works on a batch exactly while the reader waits for it, and
gives up only after the subscriber was closed. -/
structure Lockstep (broker : Broker) : Prop where
  awaiting : ∀ id work, broker.reader = .awaiting id work →
    ∃ sub msgs, broker.subscribers id = some sub ∧ sub.loop = .processing msgs
  processing : ∀ id sub msgs, broker.subscribers id = some sub →
    sub.loop = .processing msgs → ∃ work, broker.reader = .awaiting id work
  exiting : ∀ id sub, broker.subscribers id = some sub →
    sub.loop = .exiting ∨ sub.loop = .done → sub.closed = true
  addressed : ∀ send, send ∈ broker.reader.work →
    ∃ sub, broker.subscribers send.1 = some sub

namespace Lockstep

theorem initial : Lockstep Broker.initial where
  awaiting id work awaiting := by cases awaiting
  processing id sub msgs present := by cases present
  exiting id sub present := by cases present
  addressed send member := by cases member

variable {broker next : Broker} {action : Action}

private theorem step_awaiting (lockstep : Lockstep broker) (wellformed : Wellformed broker)
    (effect : Effect broker action next) (id : SubscriberID)
    (work : List (SubscriberID × List Message)) (awaiting : next.reader = .awaiting id work) :
    ∃ sub msgs, next.subscribers id = some sub ∧ sub.loop = .processing msgs := by
  have readerChange := effect.reader
  rw [awaiting] at readerChange
  cases readerChange with
  | none unchanged =>
      rcases lockstep.awaiting id work unchanged with ⟨before, msgs, present, loop⟩
      have notRestart : action ≠ .restart := by
        rintro rfl
        cases effect
        cases awaiting
      rcases effect.subscriber_present present notRestart with ⟨sub, found⟩
      rcases effect.subscriber found with ⟨before', present', change⟩ | ⟨_, _, _, joining, _⟩
      · rw [present] at present'
        cases present'
        cases change with
        | none | closed | received => exact ⟨_, msgs, found, loop⟩
        | examined _ examines =>
            rcases Subscriber.examine_cases examines with
              ⟨msg, rest, _, ⟨_, _, rfl⟩ | ⟨_, rfl⟩⟩ <;> exact ⟨_, rest, found, rfl⟩
        | processed isProcessed =>
            subst action
            cases effect
            cases awaiting
        | handedOver _ _ other | rechecked other | stopped other | deregistered other =>
            rw [loop] at other
            cases other
      · rw [(wellformed.joining id _ _ joining).1] at present
        cases present
  | handedOver isHandOver sending =>
      subst action
      cases effect with
      | @handOver _ _ _ sub sending' present selecting =>
          rw [sending] at sending'
          cases sending'
          exact ⟨{ sub with loop := .processing _ }, _, Function.update_self .., rfl⟩

private theorem step_processing (lockstep : Lockstep broker)
    (effect : Effect broker action next) (id : SubscriberID) (sub : Subscriber)
    (msgs : List Message) (found : next.subscribers id = some sub)
    (loop : sub.loop = .processing msgs) : ∃ work, next.reader = .awaiting id work := by
  rcases effect.subscriber found with ⟨before, present, change⟩ | ⟨_, _, _, _, rfl⟩
  · -- The loop was already at work, so the reader still waits unless this step
    -- ends the batch or forgets the subscriber.
    have stillWaits : ∀ earlier, before.loop = .processing earlier →
        ∃ work, next.reader = .awaiting id work := by
      intro earlier working
      rcases lockstep.processing id before earlier present working with ⟨work, awaiting⟩
      have readerChange := effect.reader
      generalize next.reader = reader at readerChange
      cases readerChange with
      | none unchanged => exact ⟨work, unchanged ▸ awaiting⟩
      | idle notAwaiting => exact absurd awaiting (notAwaiting id work)
      | restarted isRestart =>
          subst action
          cases effect
          cases found
      | resumed isProcessed awaiting' =>
          rw [awaiting] at awaiting'
          cases awaiting'
          subst action
          cases effect
          rcases setSubscriber_cases found with ⟨_, rfl⟩ | ⟨different, _⟩
          · cases loop
          · exact absurd rfl different
      | gathered other | read other | dispatched other | entered other | skipped other
      | handedOver _ other =>
          rw [awaiting] at other
          cases other
    cases change with
    | none => exact stillWaits msgs loop
    | closed => exact stillWaits msgs loop
    | received => exact stillWaits msgs loop
    | examined _ examines =>
        rcases Subscriber.examine_cases examines with ⟨msg, rest, working, _⟩
        exact stillWaits _ working
    | handedOver isHandOver sending =>
        subst action
        cases effect with
        | handOver sending' =>
            rw [sending] at sending'
            cases sending'
            exact ⟨_, rfl⟩
    | rechecked =>
        simp only at loop
        split at loop <;> cases loop
    | _ => cases loop
  · cases loop

private theorem step_exiting (lockstep : Lockstep broker)
    (effect : Effect broker action next) (id : SubscriberID) (sub : Subscriber)
    (found : next.subscribers id = some sub)
    (loop : sub.loop = .exiting ∨ sub.loop = .done) : sub.closed = true := by
  rcases effect.subscriber found with ⟨before, present, change⟩ | ⟨_, _, _, _, rfl⟩
  · cases change with
    | none => exact lockstep.exiting id sub present loop
    | received => exact lockstep.exiting id before present loop
    | closed => rfl
    | examined _ examines =>
        rcases Subscriber.examine_cases examines with ⟨_, _, _, ⟨_, _, rfl⟩ | ⟨_, rfl⟩⟩ <;>
          simp [Subscriber.deliver] at loop
    | rechecked =>
        by_contra notClosed
        simp [notClosed] at loop
    | stopped _ closed => exact closed
    | deregistered exiting => exact lockstep.exiting id before present (Or.inl exiting)
    | handedOver | processed => simp at loop
  · simp [Subscriber.new] at loop

private theorem step_addressed (lockstep : Lockstep broker) (wellformed : Wellformed broker)
    (effect : Effect broker action next) (send : SubscriberID × List Message)
    (member : send ∈ next.reader.work) : ∃ sub, next.subscribers send.1 = some sub := by
  have notRestart : action ≠ .restart := by
    rintro rfl
    cases effect
    cases member
  rcases Wellformed.work_cases effect member with earlier | ⟨_, stream, _, _, registered⟩
  · rcases lockstep.addressed send earlier with ⟨sub, present⟩
    exact effect.subscriber_present present notRestart
  · rcases wellformed.registered stream _ registered with ⟨sub, present, _⟩
    exact effect.subscriber_present present notRestart

theorem step (lockstep : Lockstep broker) (wellformed : Wellformed broker)
    (effect : Effect broker action next) : Lockstep next where
  awaiting := step_awaiting lockstep wellformed effect
  processing := step_processing lockstep effect
  exiting := step_exiting lockstep effect
  addressed := step_addressed lockstep wellformed effect

theorem of_reaches {permitted : Broker → Action → Prop} (reaches : Reaches permitted broker) :
    Lockstep broker :=
  Transition.Run.preserves reaches initial fun _ _ _ reached lockstep _ taken =>
    lockstep.step (Wellformed.of_reaches reached) (effect_of_step taken)

end Lockstep

end Broker

/-! ## Connections -/

/-- Where the inbound loop of a connection stands. -/
inductive InboundLoop where
  | notStarted
  /-- In `select`, ready for the close signal or a message of the subscriber. -/
  | selecting
  /-- In `handleInboundMessage`, sending on `conn.in`. -/
  | sending (msg : Message)
  /-- Returned, with the subscriber closed. -/
  | exited
  deriving DecidableEq, Repr

structure Connection where
  loop : InboundLoop
  /-- How many messages `conn.in` holds. -/
  queued : Nat
  closed : Bool
  deriving DecidableEq, Repr

def Connection.new : Connection where
  loop := .notStarted
  queued := 0
  closed := false

/-- The capacity of `conn.in`. -/
def inCapacity : Nat := 10

/-- The broker and the connections, each named after its subscriber. -/
structure System where
  broker : Broker
  connections : SubscriberID → Connection

/-- The subscriber on which the reader waits in `send`. -/
def Reader.waitsOn : Reader → Option SubscriberID
  | .sending target _ _ | .awaiting target _ => some target
  | _ => none

namespace Subscriber

/-- How many messages of a batch pass the filter. -/
def passing : Offset → List Message → Nat
  | _, [] => 0
  | offset, msg :: rest =>
      if offset.lessThan (.message msg.id) then passing (.message msg.id) rest + 1
      else passing offset rest

/-- What passes the filter fits into `messagesOut`. -/
def HasRoom (sub : Subscriber) (msgs : List Message) : Prop :=
  sub.messagesOut.length + passing sub.offset msgs ≤ messagesOutCapacity

instance (sub : Subscriber) (msgs : List Message) : Decidable (sub.HasRoom msgs) :=
  inferInstanceAs (Decidable (_ ≤ _))

/-- The part of the batch that is still to be examined. -/
def remaining (sub : Subscriber) : List Message :=
  match sub.loop with
  | .processing msgs => msgs
  | _ => []

/-- A subscriber with nothing left to examine keeps its room. -/
theorem HasRoom.of_remaining_eq_nil {sub later : Subscriber} {msgs : List Message}
    (room : sub.HasRoom msgs) (sameOut : later.messagesOut = sub.messagesOut)
    (nothing : later.remaining = []) : later.HasRoom later.remaining := by
  rw [nothing, HasRoom, passing, sameOut]
  exact le_trans (Nat.le_add_right _ _) room

/-- With room for the batch, its next message can be examined, and there is
room for the rest. -/
theorem HasRoom.examine {sub : Subscriber} {msg : Message} {rest : List Message}
    (room : sub.HasRoom sub.remaining) (loop : sub.loop = .processing (msg :: rest)) :
    ∃ examined, sub.examine = some examined ∧ examined.HasRoom rest := by
  simp only [HasRoom, remaining, loop, passing] at room
  by_cases passes : sub.offset.lessThan (.message msg.id) = true
  · rw [if_pos passes] at room
    have free : sub.messagesOut.length < messagesOutCapacity := by omega
    refine ⟨sub.deliver msg rest, by simp [Subscriber.examine, loop, passes, free], ?_⟩
    simp only [HasRoom, deliver, List.length_append, List.length_singleton]
    omega
  · rw [if_neg passes] at room
    exact ⟨{ sub with loop := .processing rest },
      by simp [Subscriber.examine, loop, passes], room⟩

end Subscriber

namespace System

def initial : System where
  broker := .initial
  connections := fun _ => .new

inductive Action where
  | broker (action : RedisBroker.Action)
  /-- `startHandlingInbound` starts the inbound loop on its new subscriber. -/
  | start (id : SubscriberID)
  /-- The inbound loop takes a message of its subscriber. -/
  | take (id : SubscriberID)
  /-- The inbound loop gets its message onto `conn.in`. -/
  | put (id : SubscriberID)
  /-- The inbound loop sees the close signal and closes its subscriber. -/
  | exit (id : SubscriberID)
  /-- Any other message for the client gets onto `conn.in`. -/
  | otherMessage (id : SubscriberID)
  | clientReceives (id : SubscriberID)
  | disconnect (id : SubscriberID)
  deriving DecidableEq, Repr

/-- Only its inbound loop consumes and closes the subscriber of a connection. -/
def LeavesConnections (system : System) : RedisBroker.Action → Prop
  | .receive id | .close id => (system.connections id).loop = .notStarted
  | _ => True

instance (system : System) (action : RedisBroker.Action) :
    Decidable (system.LeavesConnections action) :=
  match action with
  | .receive _ | .close _ => inferInstanceAs (Decidable (_ = _))
  | .publish .. | .trim .. | .readOffset .. | .register _ | .gather _ | .xread
  | .xreadFailed | .dispatch _ | .send | .skipClosed | .handOver | .examine _
  | .processed _ | .recheck _ | .stop _ | .deregister _ | .callAck .. | .processAcks ..
  | .restart => isTrue trivial

def setConnection (system : System) (id : SubscriberID) (connection : Connection) : System :=
  { system with connections := Function.update system.connections id connection }

/-- A broker step; a restart of the process ends all connections. -/
def withBroker (system : System) (action : RedisBroker.Action) (broker : Broker) : System where
  broker := broker
  connections := if action = .restart then fun _ => .new else system.connections

def step (system : System) : Action → Option System
  | .broker action =>
      if system.LeavesConnections action then
        (system.broker.step action).map (system.withBroker action)
      else none
  | .start id =>
      let connection := system.connections id
      if connection.loop = .notStarted ∧ (system.broker.subscribers id).isSome then
        some (system.setConnection id { connection with loop := .selecting })
      else none
  | .take id =>
      let connection := system.connections id
      match (system.broker.subscribers id).bind fun sub => sub.messagesOut.head? with
      | some msg =>
          if connection.loop = .selecting then
            (system.broker.step (.receive id)).map fun broker =>
              { system.setConnection id { connection with loop := .sending msg } with
                broker := broker }
          else none
      | none => none
  | .put id =>
      let connection := system.connections id
      match connection.loop with
      | .sending _ =>
          if connection.queued < inCapacity then
            some (system.setConnection id
              { connection with loop := .selecting, queued := connection.queued + 1 })
          else none
      | _ => none
  | .exit id =>
      let connection := system.connections id
      if connection.loop = .selecting ∧ connection.closed = true then
        (system.broker.step (.close id)).map fun broker =>
          { system.setConnection id { connection with loop := .exited } with
            broker := broker }
      else none
  | .otherMessage id =>
      let connection := system.connections id
      if connection.queued < inCapacity then
        some (system.setConnection id { connection with queued := connection.queued + 1 })
      else none
  | .clientReceives id =>
      let connection := system.connections id
      if connection.closed = false ∧ 0 < connection.queued then
        some (system.setConnection id { connection with queued := connection.queued - 1 })
      else none
  | .disconnect id =>
      some (system.setConnection id { system.connections id with closed := true })

def Reaches (permitted : System → Action → Prop) (system : System) : Prop :=
  Transition.Run step permitted initial system

/-! ## Stalls -/

/-- The steps by which the reader, waiting in `send`, and the process loop of
that subscriber can move. -/
def sendActions (id : SubscriberID) : List Action :=
  [.skipClosed, .handOver, .examine id, .processed id, .recheck id, .stop id,
    .deregister id].map .broker

/-- The steps of the inbound loop of a connection. -/
def inboundActions (id : SubscriberID) : List Action := [.take id, .put id, .exit id]

/-- The reader waits in `send` on a subscriber whose connection is closed, and
neither the process loop nor the inbound loop can move. -/
def Stalled (system : System) (id : SubscriberID) : Prop :=
  system.broker.reader.waitsOn = some id ∧ (system.connections id).closed = true ∧
    (system.connections id).loop ≠ .notStarted ∧
    ∀ action, action ∈ sendActions id ++ inboundActions id →
      (system.step action).isNone = true

instance (system : System) (id : SubscriberID) : Decidable (system.Stalled id) :=
  inferInstanceAs (Decidable (_ ∧ _ ∧ _ ∧ _))

/-- The steps that leave room for the batch in progress: when a client
disconnects, and when a batch is handed over for a client that has
disconnected, what passes the filter fits into `messagesOut`. -/
def LeavesRoom (system : System) : Action → Prop
  | .disconnect id =>
      ∀ sub, sub ∈ system.broker.subscribers id → sub.HasRoom sub.remaining
  | .broker .handOver =>
      ∀ id, id ∈ system.broker.reader.waitsOn → (system.connections id).closed = true →
        ∀ sub, sub ∈ system.broker.subscribers id →
          ∀ send, send ∈ system.broker.reader.work.head? → sub.HasRoom send.2
  | _ => True

instance (system : System) (action : Action) : Decidable (system.LeavesRoom action) := by
  unfold LeavesRoom
  split <;> infer_instance

/-! ## The invariant -/

variable {system next : System} {action : Action} {id : SubscriberID}

/-- What a step of the system does to the broker. -/
inductive BrokerChange (system : System) (action : Action) (next : System) : Prop where
  | none (unchanged : next.broker = system.broker)
  | step {brokerAction} (taken : system.broker.step brokerAction = some next.broker)
      (own : brokerAction = .handOver → action = .broker .handOver)

theorem brokerChange_of_step (taken : system.step action = some next) :
    BrokerChange system action next := by
  cases action with
  | broker brokerAction =>
      simp only [step, Option.ite_none_right_eq_some, Option.map_eq_some_iff] at taken
      rcases taken with ⟨_, broker, taken, rfl⟩
      exact .step taken (by rintro rfl; rfl)
  | take id =>
      simp only [step] at taken
      split at taken
      · simp only [Option.ite_none_right_eq_some, Option.map_eq_some_iff] at taken
        rcases taken with ⟨_, broker, taken, rfl⟩
        exact .step taken (by rintro ⟨⟩)
      · cases taken
  | exit id =>
      simp only [step, Option.ite_none_right_eq_some, Option.map_eq_some_iff] at taken
      rcases taken with ⟨_, broker, taken, rfl⟩
      exact .step taken (by rintro ⟨⟩)
  | put id =>
      simp only [step] at taken
      split at taken
      · simp only [Option.ite_none_right_eq_some, Option.some.injEq] at taken
        exact .none (taken.2 ▸ rfl)
      · cases taken
  | start id | otherMessage id | clientReceives id =>
      simp only [step, Option.ite_none_right_eq_some, Option.some.injEq] at taken
      exact .none (taken.2 ▸ rfl)
  | disconnect id =>
      simp only [step, Option.some.injEq] at taken
      exact .none (taken ▸ rfl)

/-- The broker of a reachable system is a reachable broker. -/
theorem broker_of_reaches {permitted : System → Action → Prop}
    (reaches : Reaches permitted system) :
    Broker.Reaches Transition.anyStep system.broker := by
  have run : Transition.Run step permitted initial system := reaches
  have starts : Broker.Reaches Transition.anyStep initial.broker := Transition.Run.refl _
  apply run.preserves starts
  intro current action next _ reached _ taken
  cases brokerChange_of_step taken with
  | none unchanged => rwa [unchanged]
  | step taken => exact reached.tail trivial taken

theorem closed_of_setConnection {target : SubscriberID} {connection : Connection}
    (closed : ((system.setConnection target connection).connections id).closed = true)
    (same : connection.closed = (system.connections target).closed) :
    (system.connections id).closed = true := by
  by_cases equal : id = target
  · subst id
    simpa [setConnection, same] using closed
  · simpa [setConnection, equal] using closed

/-- Connections are closed by disconnecting only. -/
theorem closed_of_step (taken : system.step action = some next)
    (closed : (next.connections id).closed = true) :
    (system.connections id).closed = true ∨ action = .disconnect id := by
  cases action with
  | broker brokerAction =>
      simp only [step, Option.ite_none_right_eq_some, Option.map_eq_some_iff] at taken
      rcases taken with ⟨_, broker, taken, rfl⟩
      by_cases restart : brokerAction = .restart
      · simp [withBroker, restart, Connection.new] at closed
      · exact Or.inl (by simpa [withBroker, restart] using closed)
  | take target =>
      simp only [step] at taken
      split at taken
      · simp only [Option.ite_none_right_eq_some, Option.map_eq_some_iff] at taken
        rcases taken with ⟨_, broker, taken, rfl⟩
        exact Or.inl (closed_of_setConnection closed rfl)
      · cases taken
  | exit target =>
      simp only [step, Option.ite_none_right_eq_some, Option.map_eq_some_iff] at taken
      rcases taken with ⟨_, broker, taken, rfl⟩
      exact Or.inl (closed_of_setConnection closed rfl)
  | put target =>
      simp only [step] at taken
      split at taken
      · simp only [Option.ite_none_right_eq_some, Option.some.injEq] at taken
        rcases taken with ⟨_, rfl⟩
        exact Or.inl (closed_of_setConnection closed rfl)
      · cases taken
  | start target | otherMessage target | clientReceives target =>
      simp only [step, Option.ite_none_right_eq_some, Option.some.injEq] at taken
      rcases taken with ⟨_, rfl⟩
      exact Or.inl (closed_of_setConnection closed rfl)
  | disconnect target =>
      simp only [step, Option.some.injEq] at taken
      subst next
      by_cases equal : id = target
      · exact Or.inr (by rw [equal])
      · exact Or.inl (by simpa [setConnection, equal] using closed)

/-- Every subscriber whose client has disconnected has room for the rest of its
batch. -/
def Roomy (system : System) : Prop :=
  ∀ id sub, (system.connections id).closed = true →
    system.broker.subscribers id = some sub → sub.HasRoom sub.remaining

theorem Roomy.broker_step {brokerAction : RedisBroker.Action} {broker : Broker}
    (roomy : system.Roomy) (closed : (system.connections id).closed = true)
    (leaves : brokerAction = .handOver → system.LeavesRoom (.broker .handOver))
    (effect : Broker.Effect system.broker brokerAction broker) {sub : Subscriber}
    (found : broker.subscribers id = some sub) : sub.HasRoom sub.remaining := by
  rcases effect.subscriber found with ⟨before, present, change⟩ | ⟨_, _, _, _, rfl⟩
  · have room := roomy id before closed present
    cases change with
    | none | closed => exact room
    | handedOver isHandOver sending =>
        exact leaves isHandOver id (by rw [sending]; rfl) closed before present _
          (by rw [sending]; rfl)
    | examined _ examines =>
        rcases Subscriber.examine_cases examines with ⟨msg, rest, loop, outcome⟩
        rcases room.examine loop with ⟨later, examines', roomLater⟩
        rw [examines] at examines'
        cases examines'
        rcases outcome with ⟨_, _, rfl⟩ | ⟨_, rfl⟩ <;> exact roomLater
    | received buffered =>
        simp only [Subscriber.HasRoom, buffered, List.length_cons] at room
        exact le_trans (Nat.add_le_add_right (Nat.le_succ _) _) room
    | rechecked =>
        refine Subscriber.HasRoom.of_remaining_eq_nil room rfl ?_
        cases before.closed <;> rfl
    | processed | stopped | deregistered => exact room.of_remaining_eq_nil rfl rfl
  · simp [Subscriber.HasRoom, Subscriber.remaining, Subscriber.new, Subscriber.passing]

theorem Roomy.step (roomy : system.Roomy) (leaves : system.LeavesRoom action)
    (taken : system.step action = some next) : next.Roomy := by
  intro id sub closed found
  rcases closed_of_step taken closed with closed | rfl
  · cases brokerChange_of_step taken with
    | none unchanged => exact roomy id sub closed (unchanged ▸ found)
    | step taken own =>
        exact roomy.broker_step closed (fun isHandOver => own isHandOver ▸ leaves)
          (Broker.effect_of_step taken) found
  · simp only [System.step, Option.some.injEq] at taken
    subst next
    exact leaves sub found

theorem Roomy.of_reaches (reaches : Reaches LeavesRoom system) : system.Roomy :=
  Transition.Run.preserves reaches (by intro id sub closed present; cases present)
    fun _ _ _ _ roomy leaves taken => roomy.step leaves taken

/-! ## No stall -/

/-- In every run that leaves room for the batches of disconnected clients, the
reader is never stalled by a closed connection. -/
theorem closed_connection_never_stalls (reaches : Reaches LeavesRoom system)
    (id : SubscriberID) : ¬system.Stalled id := by
  rintro ⟨waits, closed, _, stuck⟩
  have lockstep := Broker.Lockstep.of_reaches (broker_of_reaches reaches)
  have refused : ∀ brokerAction, .broker brokerAction ∈ sendActions id →
      system.LeavesConnections brokerAction →
      (system.broker.step brokerAction).isSome = true → False := by
    intro brokerAction listed leaves enabled
    have none := stuck (.broker brokerAction) (List.mem_append_left _ listed)
    rcases Option.isSome_iff_exists.mp enabled with ⟨broker, taken⟩
    simp [step, leaves, taken] at none
  cases reader : system.broker.reader with
  | sending target msgs work =>
      rw [reader] at waits
      cases waits
      rcases lockstep.addressed (id, msgs) (by simp [reader, Reader.work]) with ⟨sub, present⟩
      cases loop : sub.loop with
      | selecting =>
          exact refused .handOver (by simp [sendActions]) trivial
            (by simp [Broker.step, reader, present, loop])
      | processing batch =>
          rcases lockstep.processing id sub batch present loop with ⟨_, awaiting⟩
          rw [reader] at awaiting
          cases awaiting
      | checking =>
          exact refused (.recheck id) (by simp [sendActions]) trivial
            (by simp [Broker.step, present, loop])
      | exiting | done =>
          have subClosed := lockstep.exiting id sub present (by simp [loop])
          exact refused .skipClosed (by simp [sendActions]) trivial
            (by simp [Broker.step, reader, present, subClosed])
  | awaiting target work =>
      rw [reader] at waits
      cases waits
      rcases lockstep.awaiting id work reader with ⟨sub, msgs, present, loop⟩
      cases msgs with
      | nil =>
          exact refused (.processed id) (by simp [sendActions]) trivial
            (by simp [Broker.step, present, reader, loop])
      | cons msg rest =>
          have room := Roomy.of_reaches reaches id sub closed present
          rcases room.examine loop with ⟨examined, examines, _⟩
          exact refused (.examine id) (by simp [sendActions]) trivial
            (by simp [Broker.step, present, examines])
  | _ =>
      rw [reader] at waits
      cases waits

/-- A client subscribes, a batch of the given number of messages is handed over
to its subscriber, and the client disconnects. -/
def disconnectDuringBatch (count : Nat) : List Action :=
  ((List.range count).map fun seq => .broker (.publish ['t'] ⟨1, seq⟩ [])) ++
  [.broker (.readOffset 1 ['t']), .broker (.register 1), .start 1,
    .broker (.gather [(['t'], [1])]), .broker .xread, .broker (.dispatch [[1]]),
    .broker .send, .broker .handOver, .disconnect 1, .exit 1] ++
  List.replicate 10 (.broker (.examine 1))

/-- With eleven messages in the batch, the last one finds `messagesOut` full and
nobody left to receive from it. -/
theorem batch_of_eleven_stalls :
    ∃ system, Reaches Transition.anyStep system ∧ system.Stalled 1 :=
  Transition.Run.exists_of_execute (disconnectDuringBatch 11) (by decide)

/-- With ten messages the reader gets its answer. -/
theorem batch_of_ten_never_stalls :
    ∃ system, Reaches LeavesRoom system ∧ system.broker.reader.waitsOn = some 1 ∧
      (system.connections 1).closed = true ∧ ¬system.Stalled 1 := by
  have run : ∃ system, Reaches LeavesRoom system ∧
      system.broker.reader.waitsOn = some 1 ∧ (system.connections 1).closed = true :=
    Transition.Run.exists_of_execute (disconnectDuringBatch 10) (by decide)
  rcases run with ⟨system, reaches, waits, closed⟩
  exact ⟨system, reaches, waits, closed, closed_connection_never_stalls reaches 1⟩

end System

end Tassis.RedisBroker
