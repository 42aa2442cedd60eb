import Tassis.Service.Watch

/-! # Acks of a client

Whatever its goroutines do in between, a connection that is watched follows a
table of unacknowledged messages. So an ack of the client settles the message that
it names, and no other.
-/

namespace Tassis.Service

open Model

/-! ## Steps -/

section Steps

variable {library : Library} {opts : Opts} {number : Nat} {watch : Watch}
  {connection : Connection} {table : AckTable Goroutine BrokerMessage}

theorem Recorded.append {inbox : List Message} {delivered : List (Nat × BrokerMessage)}
    (recorded : Recorded inbox delivered) {msg : Message} (ordinary : Ordinary msg) :
    Recorded (inbox ++ [msg]) delivered := by
  intro sequence data member
  rcases List.mem_append.mp member with before | new
  · exact recorded sequence data before
  · cases List.mem_singleton.mp new
    exact absurd rfl (ordinary data)

theorem Recorded.deliver {inbox : List Message} {delivered : List (Nat × BrokerMessage)}
    (recorded : Recorded inbox delivered) (brokerMsg : BrokerMessage) (sequence : Nat) :
    Recorded (inbox ++ [Position.message brokerMsg sequence])
      ((sequence, brokerMsg) :: delivered) := by
  intro sequence' data member
  rcases List.mem_append.mp member with before | new
  · rcases recorded sequence' data before with ⟨brokerMsg', same, delivered'⟩
    exact ⟨brokerMsg', same, List.mem_cons_of_mem _ delivered'⟩
  · cases List.mem_singleton.mp new
    exact ⟨brokerMsg, rfl, List.mem_cons_self⟩

/-- An event changes nothing that the record of a connection depends on. -/
structure Unaffected (number : Nat) (state next : State) : Prop where
  threads : ∀ goroutine, goroutine = .outbound number ∨ goroutine.delivers number = true →
    next.threads goroutine = state.threads goroutine
  unused : state.connections number = none → next.connections number = none
  stored : ∀ connection, state.connections number = some connection →
    ∃ connection', next.connections number = some connection' ∧
      connection'.sequence = connection.sequence ∧
      connection'.unackedMessages = connection.unackedMessages ∧
      connection'.inbox = connection.inbox

theorem Tracks.of_undisturbed (tracks : Tracks library opts number watch connection table)
    {service : State} (unaffected : Unaffected number watch.service service) :
    ∃ connection', Tracks library opts number { watch with service } connection' table := by
  rcases unaffected.stored connection tracks.stored with
    ⟨connection', stored, sameSequence, sameAckers, sameInbox⟩
  refine ⟨connection', stored, tracks.counter, sameSequence.trans tracks.sequence,
    tracks.entries.trans sameAckers.symm, tracks.delivered, tracks.settled,
    sameInbox ▸ tracks.inbox, ?_, ?_⟩
  · intro goroutine
    exact (tracks.hands goroutine).of_threads fun delivers =>
      unaffected.threads goroutine (Or.inr delivers)
  · rcases tracks.works with ⟨thread, stage, present, here, same⟩
    exact ⟨thread, stage, (unaffected.threads _ (Or.inl rfl)).trans present, here, same⟩

theorem Unaffected.of_setConnection {state : State} {number' : Nat}
    {connection connection' : Connection} (stored : state.connections number' = some connection)
    (sameSequence : connection'.sequence = connection.sequence)
    (sameAckers : connection'.unackedMessages = connection.unackedMessages)
    (sameInbox : connection'.inbox = connection.inbox) :
    Unaffected number state (state.setConnection number' connection') := by
  by_cases same : number = number'
  · subst same
    refine ⟨fun _ _ => rfl, fun unused => ?_, fun connection'' stored' => ?_⟩
    · rw [stored] at unused
      cases unused
    · cases stored.symm.trans stored'
      exact ⟨connection', Function.update_self .., sameSequence, sameAckers, sameInbox⟩
  · have kept := Function.update_of_ne same (some connection') state.connections
    exact ⟨fun _ _ => rfl, kept.trans, fun connection'' stored' =>
      ⟨connection'', kept.trans stored', rfl, rfl, rfl⟩⟩

/-- The other clients and the other hosts do not disturb a connection, and neither
do the messages that its client sends. -/
theorem Unaffected.of_step {state service : State} {action : Action}
    (taken : step library opts state action = some service)
    (event : ∀ goroutine operation reply rounds,
      action ≠ .perform goroutine operation reply rounds) :
    Unaffected number state service ∨
      ∃ nonce rounds, action = .connect number nonce rounds := by
  have threads : ∀ {goroutine : Goroutine} {thread : Thread} {other : Goroutine} {state : State},
      other = .outbound number ∨ other.delivers number = true →
      goroutine ≠ .outbound number → goroutine.delivers number = false →
      (state.setThread goroutine thread).threads other = state.threads other := by
    intro goroutine thread other state own different idle
    refine Function.update_of_ne ?_ _ _
    rintro rfl
    rcases own with same | delivers
    · exact different same
    · rw [idle] at delivers
      cases delivers
  cases stepCase_of_step taken with
  | @connected number' nonce rounds =>
      by_cases same : number' = number
      · exact Or.inr ⟨nonce, rounds, by rw [same]⟩
      · have kept := Function.update_of_ne (Ne.symm same) (some (Connection.initial nonce))
          state.connections
        refine Or.inl ⟨?_, kept.trans, fun connection stored =>
          ⟨connection, kept.trans stored, rfl, rfl, rfl⟩⟩
        intro goroutine own
        rw [threads own (by simp) rfl, threads own (by simpa using same) rfl]
        rfl
  | sent msg stored | closed stored => exact Or.inl (.of_setConnection stored rfl rfl rfl)
  | performed => exact absurd rfl (event _ _ _ _)
  | finished =>
      refine Or.inl ⟨?_, id, fun connection stored => ⟨connection, stored, rfl, rfl, rfl⟩⟩
      intro goroutine own
      exact threads own (by simp) rfl
  | ticked =>
      exact Or.inl ⟨fun _ _ => rfl, id, fun connection stored =>
        ⟨connection, stored, rfl, rfl, rfl⟩⟩

section Performing

variable {goroutine : Goroutine} {operation : Operation} {reply : Reply operation}
  {rest : Reply operation → Task Unit} {view : View} {rounds : Nat}
  (rooted : Rooted watch.service) (sound : Sound library opts watch.service)
  (present : watch.service.threads goroutine = some ⟨.call operation rest, view⟩)
  (possible : watch.service.MayReply goroutine operation reply)

/-- The service after an operation, and what is recorded of it. -/
def Watch.performed (library : Library) (opts : Opts) (number : Nat) (watch : Watch)
    (goroutine : Goroutine) (thread : Thread) (rounds : Nat) (operation : Operation)
    (reply : Reply operation) : Watch :=
  watch.after number
    (watch.service.after library opts goroutine thread.view thread.program rounds operation reply)
    (.perform goroutine operation reply rounds)

theorem Watch.deliveredBy_idle (idle : goroutine.delivers number = false) :
    watch.deliveredBy number goroutine operation = [] := by
  cases operation <;> first | rfl | simp [deliveredBy, idle]

theorem Watch.ackedBy_other (different : goroutine ≠ .outbound number) :
    watch.ackedBy number goroutine operation reply = [] := by
  unfold ackedBy
  split
  · exact if_neg different
  · rfl

theorem Watch.drawnBy_foreign (foreign : goroutine.connection ≠ some number) :
    Watch.drawnBy number goroutine operation = 0 := by
  cases operation <;> first | rfl | exact if_neg foreign

/-- What the connection and the table have to be after an operation. -/
structure Tracks.After (number : Nat) (watch : Watch) (connection : Connection)
    (goroutine : Goroutine) (operation : Operation) (reply : Reply operation)
    (table : AckTable Goroutine BrokerMessage) : Prop where
  counter : table.counter = watch.drawn + Watch.drawnBy number goroutine operation
  sequence : connection.sequence = watch.drawn + Watch.drawnBy number goroutine operation
  entries : table.entries = connection.unackedMessages
  delivered : table.delivered =
    watch.deliveredBy number goroutine operation ++ watch.delivered
  settled : table.settled = watch.ackedBy number goroutine operation reply ++ watch.acked
  inbox : Recorded connection.inbox
    (watch.deliveredBy number goroutine operation ++ watch.delivered)

variable (tracks : Tracks library opts number watch connection table)

include tracks

include rooted in
/-- A goroutine that does not belong to the connection leaves it alone. -/
theorem Tracks.foreign (foreign : goroutine.connection ≠ some number) :
    Tracks library opts number
      (watch.performed library opts number goroutine ⟨rest reply, view⟩ rounds operation reply)
      connection table := by
  have idle := Goroutine.not_delivers foreign
  have different : goroutine ≠ .outbound number := by
    rintro rfl
    exact foreign rfl
  have quiet : watch.performed library opts number goroutine ⟨rest reply, view⟩ rounds operation
      reply = { watch with service :=
        watch.service.after library opts goroutine view (rest reply) rounds operation reply } := by
    simp [Watch.performed, Watch.after, Watch.drawnBy_foreign foreign,
      Watch.deliveredBy_idle idle, Watch.ackedBy_other different]
  rw [quiet]
  refine ⟨?_, tracks.counter, tracks.sequence, tracks.entries, tracks.delivered, tracks.settled,
    tracks.inbox, holding_after_idle rooted tracks.hands idle,
    tracks.works.after_other rooted different⟩
  rw [State.connections_after, tracks.stored]
  simp [foreign]

variable {table' : AckTable Goroutine BrokerMessage}

theorem Tracks.owned (owned : goroutine.connection = some number)
    (after : Tracks.After number watch (connection.after operation reply) goroutine operation
      reply table')
    (hands : ∀ other, Holding number (watch.service.after library opts goroutine view (rest reply)
      rounds operation reply) other (table'.hands other))
    (works : Works library opts number (watch.service.after library opts goroutine view
      (rest reply) rounds operation reply) table'.worker) :
    Tracks library opts number
      (watch.performed library opts number goroutine ⟨rest reply, view⟩ rounds operation reply)
      (connection.after operation reply) table' := by
  refine ⟨?_, after.counter, after.sequence, after.entries, after.delivered, after.settled,
    after.inbox, hands, works⟩
  refine (State.connections_after ..).trans ?_
  rw [tracks.stored, Option.map_some, if_pos owned]

/-- Nothing happens that is recorded. -/
theorem Tracks.After.quiet {connection' : Connection}
    (nothingDrawn : Watch.drawnBy number goroutine operation = 0)
    (nothingDelivered : watch.deliveredBy number goroutine operation = [])
    (nothingAcked : watch.ackedBy number goroutine operation reply = [])
    (sameSequence : connection'.sequence = connection.sequence)
    (sameAckers : connection'.unackedMessages = connection.unackedMessages)
    (recorded : Recorded connection'.inbox watch.delivered) :
    Tracks.After number watch connection' goroutine operation reply table := by
  refine ⟨?_, ?_, tracks.entries.trans sameAckers.symm, ?_, ?_, ?_⟩
  · rw [nothingDrawn, tracks.counter, Nat.add_zero]
  · rw [nothingDrawn, sameSequence, tracks.sequence, Nat.add_zero]
  · rw [nothingDelivered, tracks.delivered, List.nil_append]
  · rw [nothingAcked, tracks.settled, List.nil_append]
  · rw [nothingDelivered]
    exact recorded

/-- The replies that the connection allows. -/
theorem Tracks.mayReply (owned : goroutine.connection = some number)
    (possible : watch.service.MayReply goroutine operation reply) :
    connection.mayReply operation reply = true := by
  have replies := possible.2
  rw [State.connectionOf, owned, Option.bind_some, tracks.stored] at replies
  exact replies

/-- The next sequence number is the number of messages drawn so far. -/
theorem Tracks.drawn_succ (few : watch.drawn + 1 < 2 ^ 32) {sequence : Nat}
    (replies : connection.mayReply .nextSequence sequence = true) :
    sequence = watch.drawn + 1 := by
  have drawn : sequence = nextSequence connection.sequence := of_decide_eq_true replies
  rw [drawn, tracks.sequence, nextSequence, Nat.mod_eq_of_lt few]

/-- A sequence number is drawn. -/
theorem Tracks.After.drawn (owned : goroutine.connection = some number) {sequence : Nat}
    (replies : connection.mayReply .nextSequence sequence = true)
    (few : watch.drawn + Watch.drawnBy number goroutine .nextSequence < 2 ^ 32)
    (hands : Goroutine → Hand BrokerMessage) :
    sequence = table.counter + 1 ∧
      Tracks.After number watch (connection.after .nextSequence sequence) goroutine .nextSequence
        sequence { table with counter := table.counter + 1, hands } := by
  have one : Watch.drawnBy number goroutine .nextSequence = 1 := if_pos owned
  rw [one] at few
  have drawn := tracks.drawn_succ few replies
  refine ⟨drawn.trans (by rw [tracks.counter]), ?_, ?_, tracks.entries, tracks.delivered,
    tracks.settled, tracks.inbox⟩
  · rw [one, tracks.counter]
  · rw [one]
    exact drawn

/-- An acker is stored. -/
theorem Tracks.After.entered (sequence : Nat) (brokerMsg : BrokerMessage) (hands : Goroutine → Hand BrokerMessage) :
    Tracks.After number watch (connection.after (.storeAcker sequence brokerMsg) ()) goroutine
      (.storeAcker sequence brokerMsg) ()
      { table with
        hands
        entries := Function.update table.entries sequence (some brokerMsg) } := by
  refine ⟨tracks.counter, tracks.sequence, ?_, tracks.delivered, tracks.settled, tracks.inbox⟩
  rw [tracks.entries]
  rfl

/-- A message for the client is sent. -/
theorem Tracks.After.sent (delivers : goroutine.delivers number = true)
    {brokerMsg : BrokerMessage} (passing : watch.passing goroutine = some brokerMsg)
    (sequence : Nat) (hands : Goroutine → Hand BrokerMessage) :
    Tracks.After number watch
      (connection.after (.send (Position.message brokerMsg sequence)) ()) goroutine
      (.send (Position.message brokerMsg sequence)) ()
      { table with hands, delivered := (sequence, brokerMsg) :: table.delivered } := by
  have recorded : watch.deliveredBy number goroutine
      (.send (Position.message brokerMsg sequence)) = [(sequence, brokerMsg)] := by
    simp [Watch.deliveredBy, delivers, passing, Position.message]
  refine ⟨tracks.counter, tracks.sequence, tracks.entries, ?_, tracks.settled, ?_⟩
  · rw [recorded, tracks.delivered]
    rfl
  · rw [recorded]
    exact tracks.inbox.deliver brokerMsg sequence

include rooted present sound in
/-- The goroutines that notify the client draw sequence numbers and send messages
of their own. -/
theorem Tracks.notifying (possible : watch.service.MayReply goroutine operation reply)
    (owned : goroutine.connection = some number) (notifying : goroutine.kind = .notifying)
    (idle : goroutine.delivers number = false)
    (few : watch.drawn + Watch.drawnBy number goroutine operation < 2 ^ 32) :
    ∃ next, table.Moves next ∧ Tracks library opts number
      (watch.performed library opts number goroutine ⟨rest reply, view⟩ rounds operation reply)
      (connection.after operation reply) next := by
  have different : goroutine ≠ .outbound number := by
    rintro rfl
    cases notifying
  have allowed := (sound.threads _ _ present).allowed
  rw [notifying] at allowed
  have replies := tracks.mayReply owned possible
  have hands : ∀ other, Holding number (watch.service.after library opts goroutine view
      (rest reply) rounds operation reply) other (table.hands other) :=
    holding_after_idle rooted tracks.hands idle
  have works : Works library opts number (watch.service.after library opts goroutine view
      (rest reply) rounds operation reply) table.worker :=
    tracks.works.after_other rooted different
  have stays : Watch.drawnBy number goroutine operation = 0 →
      (connection.after operation reply).sequence = connection.sequence →
      (connection.after operation reply).unackedMessages = connection.unackedMessages →
      Recorded (connection.after operation reply).inbox watch.delivered →
      ∃ next, table.Moves next ∧ Tracks library opts number
        (watch.performed library opts number goroutine ⟨rest reply, view⟩ rounds operation reply)
        (connection.after operation reply) next := by
    intro nothingDrawn sameSequence sameAckers recorded
    refine ⟨table, Or.inl rfl, tracks.owned owned ?_ hands works⟩
    exact .quiet tracks nothingDrawn (Watch.deliveredBy_idle idle)
      (Watch.ackedBy_other different) sameSequence sameAckers recorded
  cases operation <;> try exact allowed.elim
  case nextSequence =>
      exact ⟨{ table with counter := table.counter + 1 }, Or.inr ⟨.skip, rfl⟩,
        tracks.owned owned (Tracks.After.drawn tracks owned replies few table.hands).2 hands
          works⟩
  case send msg => exact stays rfl rfl rfl (tracks.inbox.append allowed)
  case authNonce | loadIdentityKey | loadDeviceId | preKeysRemaining | sleepUnlessClosed =>
      exact stays rfl rfl rfl tracks.inbox

end Performing

section Outbound

variable {operation : Operation} {reply : Reply operation} {rest : Reply operation → Task Unit}
  {view : View} {rounds : Nat} {stage : AckStage} {table' : AckTable Goroutine BrokerMessage}
  (rooted : Rooted watch.service) (sound : Sound library opts watch.service)
  (present : watch.service.threads (.outbound number) = some ⟨.call operation rest, view⟩)
  (tracks : Tracks library opts number watch connection table)

include rooted sound present tracks

theorem Tracks.outbound_stage
    (here : stage.At library opts ⟨rest reply, view.next opts operation reply⟩)
    (sameCounter : table'.counter = table.counter) (sameHands : table'.hands = table.hands)
    (sameDelivered : table'.delivered = table.delivered)
    (entries : table'.entries = (connection.after operation reply).unackedMessages)
    (settled : table'.settled =
      watch.ackedBy number (.outbound number) operation reply ++ table.settled)
    (worker : table'.worker = stage.worker) :
    Tracks library opts number
      (watch.performed library opts number (.outbound number) ⟨rest reply, view⟩ rounds operation
        reply)
      (connection.after operation reply) table' := by
  have allowed : view.OutboundAllows library opts operation :=
    (sound.threads _ _ present).allowed
  have effects : Watch.drawnBy number (.outbound number) operation = 0 ∧
      (connection.after operation reply).sequence = connection.sequence ∧
      Recorded (connection.after operation reply).inbox watch.delivered := by
    cases operation <;> try exact ⟨rfl, rfl, tracks.inbox⟩
    case nextSequence => exact allowed.elim
    case nextMessage => cases reply <;> exact ⟨rfl, rfl, tracks.inbox⟩
    case send msg => exact ⟨rfl, rfl, tracks.inbox.append allowed⟩
  rcases effects with ⟨nothingDrawn, sameSequence, recorded⟩
  have nothingDelivered : watch.deliveredBy number (.outbound number) operation = [] :=
    Watch.deliveredBy_idle rfl
  refine tracks.owned rfl ⟨?_, ?_, entries, ?_, ?_, ?_⟩ ?_ ?_
  · rw [nothingDrawn, sameCounter, tracks.counter, Nat.add_zero]
  · rw [nothingDrawn, sameSequence, tracks.sequence, Nat.add_zero]
  · rw [nothingDelivered, sameDelivered, tracks.delivered, List.nil_append]
  · rw [settled, tracks.settled]
  · rw [nothingDelivered]
    exact recorded
  · rw [sameHands]
    exact holding_after_idle rooted tracks.hands rfl
  · exact ⟨_, stage, rooted.threadsAfter_self present, here, worker⟩

/-- The loop over the client's messages is the worker of the table. -/
theorem Tracks.outbound (possible : watch.service.MayReply (.outbound number) operation reply) :
    ∃ next, table.Moves next ∧ Tracks library opts number
      (watch.performed library opts number (.outbound number) ⟨rest reply, view⟩ rounds operation
        reply)
      (connection.after operation reply) next := by
  have replies := tracks.mayReply rfl possible
  rcases tracks.works with ⟨thread, stage, present', here, worker⟩
  cases present.symm.trans present'
  rcases here.step reply with ⟨stage', step, here'⟩
  cases step with
  | unrelated unrelated idle idle' =>
      refine ⟨table, Or.inl rfl, tracks.outbound_stage rooted sound present here' rfl rfl rfl
        ?_ ?_ ?_⟩
      · cases operation <;> first | exact tracks.entries | exact unrelated.elim
      · cases operation <;> first | rfl | exact unrelated.elim
      · rw [worker, AckStage.worker_of_ack idle, AckStage.worker_of_ack idle']
  | pass received notAck idle idle' =>
      refine ⟨table, Or.inl rfl, tracks.outbound_stage rooted sound present here' rfl rfl rfl
        ?_ rfl ?_⟩
      · cases received <;> exact tracks.entries
      · rw [worker, AckStage.worker_of_ack idle, AckStage.worker_of_ack idle']
  | request msg rounds idle =>
      rw [AckStage.worker_of_ack idle] at worker
      refine ⟨{ table with worker := .looking msg.sequence }, Or.inr ⟨.request msg.sequence, ?_⟩,
        tracks.outbound_stage rooted sound present here' rfl rfl rfl tracks.entries rfl rfl⟩
      simp only [AckTable.step, worker]
  | miss msg rounds =>
      have missing : none = connection.unackedMessages msg.sequence := of_decide_eq_true replies
      refine ⟨{ table with worker := .idle }, Or.inr ⟨.look, ?_⟩,
        tracks.outbound_stage rooted sound present here' rfl rfl rfl tracks.entries rfl rfl⟩
      simp only [AckTable.step, worker, AckStage.worker, tracks.entries, ← missing,
        AckTable.found]
  | hit msg brokerMsg rounds =>
      have found : some brokerMsg = connection.unackedMessages msg.sequence :=
        of_decide_eq_true replies
      refine ⟨{ table with worker := .settling brokerMsg msg.sequence }, Or.inr ⟨.look, ?_⟩,
        tracks.outbound_stage rooted sound present here' rfl rfl rfl tracks.entries rfl rfl⟩
      simp only [AckTable.step, worker, AckStage.worker, tracks.entries, ← found, AckTable.found]
  | fail msg brokerMsg rounds err =>
      refine ⟨{ table with worker := .idle }, Or.inr ⟨.settle false, ?_⟩,
        tracks.outbound_stage rooted sound present here' rfl rfl rfl tracks.entries rfl rfl⟩
      simp [AckTable.step, worker, AckStage.worker]
  | succeed msg brokerMsg rounds =>
      have handling : watch.handling number = some msg := by
        rw [Watch.handling, present]
        exact here.2.2 msg rfl
      refine ⟨{ table with
        worker := .deleting brokerMsg msg.sequence
        settled := (msg.sequence, brokerMsg) :: table.settled }, Or.inr ⟨.settle true, ?_⟩,
        tracks.outbound_stage rooted sound present here' rfl rfl rfl tracks.entries ?_ rfl⟩
      · simp [AckTable.step, worker, AckStage.worker]
      · simp [Watch.ackedBy, handling]
  | delete msg brokerMsg rounds =>
      refine ⟨{ table with
        worker := .idle
        entries := Function.update table.entries msg.sequence none }, Or.inr ⟨.delete, ?_⟩,
        tracks.outbound_stage rooted sound present here' rfl rfl rfl ?_ rfl rfl⟩
      · simp [AckTable.step, worker, AckStage.worker]
      · rw [tracks.entries]
        rfl

end Outbound

section Inbound

variable {goroutine : Goroutine} {id : Nat} {subscriber : Subscriber} {operation : Operation}
  {reply : Reply operation} {rest : Reply operation → Task Unit} {view : View} {rounds : Nat}
  {position : Position} {table' : AckTable Goroutine BrokerMessage}
  (rooted : Rooted watch.service)
  (delivers : goroutine = .routine id (some number) (.handleInbound subscriber))
  (present : watch.service.threads goroutine = some ⟨.call operation rest, view⟩)
  (tracks : Tracks library opts number watch connection table)

include rooted delivers present tracks

theorem Tracks.inbound_position
    (here : position.At subscriber ⟨rest reply, view.next opts operation reply⟩)
    (after : Tracks.After number watch (connection.after operation reply) goroutine operation
      reply table')
    (hand : table'.hands goroutine = position.hand)
    (others : ∀ other, other ≠ goroutine → table'.hands other = table.hands other)
    (sameWorker : table'.worker = table.worker) :
    Tracks library opts number
      (watch.performed library opts number goroutine ⟨rest reply, view⟩ rounds operation reply)
      (connection.after operation reply) table' := by
  have owned : goroutine.connection = some number := by rw [delivers]; rfl
  have different : goroutine ≠ .outbound number := by rw [delivers]; simp
  refine tracks.owned owned after (holding_after rooted tracks.hands ?_ others) ?_
  · rw [hand]
    exact .position position delivers (rooted.threadsAfter_self present) here
  · rw [sameWorker]
    exact tracks.works.after_other rooted different

/-- The loop over the messages for the client is an agent of the table. -/
theorem Tracks.inbound (possible : watch.service.MayReply goroutine operation reply)
    (few : watch.drawn + Watch.drawnBy number goroutine operation < 2 ^ 32) :
    ∃ next, table.Moves next ∧ Tracks library opts number
      (watch.performed library opts number goroutine ⟨rest reply, view⟩ rounds operation reply)
      (connection.after operation reply) next := by
  have owned : goroutine.connection = some number := by rw [delivers]; rfl
  have replies := tracks.mayReply owned possible
  have holding := tracks.hands goroutine
  generalize held : table.hands goroutine = hand at holding
  cases holding with
  | absent absent =>
      rw [absent (Goroutine.delivers_iff.mpr ⟨id, subscriber, delivers⟩)] at present
      cases present
  | position position delivers' present' here =>
      cases delivers.symm.trans delivers'
      cases present.symm.trans present'
      have stepped : ∃ position', Position.Step subscriber position operation reply position' ∧
          position'.At subscriber ⟨rest reply, view.next opts operation reply⟩ := here.step reply
      rcases stepped with ⟨position', step, here'⟩
      have others : ∀ hand other, other ≠ goroutine →
          Function.update table.hands goroutine hand other = table.hands other :=
        fun _ _ different => Function.update_of_ne different _ _
      cases step with
      | receive brokerMsg rounds =>
          exact ⟨table, Or.inl rfl, tracks.inbound_position rooted delivers present here'
            (.quiet tracks rfl rfl rfl rfl rfl tracks.inbox) held (fun _ _ => rfl) rfl⟩
      | leave rounds =>
          exact ⟨table, Or.inl rfl, tracks.inbound_position rooted delivers present here'
            (.quiet tracks rfl rfl rfl rfl rfl tracks.inbox) held (fun _ _ => rfl) rfl⟩
      | close =>
          exact ⟨table, Or.inl rfl, tracks.inbound_position rooted delivers present here'
            (.quiet tracks rfl rfl rfl rfl rfl tracks.inbox) held (fun _ _ => rfl) rfl⟩
      | draw brokerMsg sequence rounds =>
          rcases Tracks.After.drawn tracks owned replies few (Function.update table.hands
            goroutine (.drawn brokerMsg (table.counter + 1))) with ⟨drawn, after⟩
          refine ⟨_, Or.inr ⟨.draw goroutine brokerMsg, ?_⟩,
            tracks.inbound_position rooted delivers present here' after ?_ (others _) rfl⟩
          · simp only [AckTable.step, held, Position.hand]
          · refine (Function.update_self ..).trans ?_
            rw [← drawn]
            rfl
      | store brokerMsg sequence rounds =>
          refine ⟨_, Or.inr ⟨.enter goroutine, ?_⟩,
            tracks.inbound_position rooted delivers present here'
              (.entered tracks sequence brokerMsg (Function.update table.hands goroutine
                (.entered brokerMsg sequence))) (Function.update_self ..) (others _) rfl⟩
          simp only [AckTable.step, held, Position.hand]
      | send brokerMsg sequence rounds =>
          have passing : watch.passing goroutine = some brokerMsg := by
            rw [Watch.passing, present]
            exact here.2 brokerMsg rfl
          have isDelivery := Goroutine.delivers_iff.mpr ⟨id, subscriber, delivers⟩
          refine ⟨_, Or.inr ⟨.deliver goroutine, ?_⟩,
            tracks.inbound_position rooted delivers present here'
              (.sent tracks isDelivery passing sequence
                (Function.update table.hands goroutine .empty)) (Function.update_self ..)
              (others _) rfl⟩
          simp only [AckTable.step, held, Position.hand]

end Inbound

section Runs

variable {next : Watch} (rooted : Rooted watch.service)
  (sound : Sound library opts watch.service)

include rooted

/-- The client connects. -/
theorem Tracks.connect (nonce : Text) (rounds : Nat)
    (unconnected : Unconnected number watch table) {service : State}
    (taken : connect library opts watch.service number nonce rounds = some service) :
    Tracks library opts number { watch with service } (.initial nonce) table := by
  unfold Service.connect at taken
  rw [unconnected.unused] at taken
  cases taken
  rw [unconnected.initial]
  refine ⟨Function.update_self .., unconnected.drawn.symm, unconnected.drawn.symm, rfl,
    unconnected.delivered.symm, unconnected.acked.symm, ?_, ?_, ?_⟩
  · intro sequence data member
    cases member
  · intro goroutine
    apply Holding.absent
    intro delivers
    rcases Goroutine.delivers_iff.mp delivers with ⟨id, subscriber, rfl⟩
    have absent : watch.service.threads
        (.routine id (some number) (.handleInbound subscriber)) = none := by
      cases present : watch.service.threads
        (.routine id (some number) (.handleInbound subscriber)) with
      | none => rfl
      | some thread =>
          exact absurd unconnected.unused (rooted.connected _ thread number present rfl)
    exact absent
  · refine ⟨⟨handleOutbound library opts rounds, .initial nonce⟩, .waiting rounds, ?_,
      ⟨trivial, rfl, fun _ impossible => by cases impossible⟩, rfl⟩
    simp [State.setThread]

/-- Before its client connects, no goroutine belongs to a connection. -/
theorem Unconnected.perform (unconnected : Unconnected number watch table)
    {goroutine : Goroutine} {operation : Operation} {reply : Reply operation} {rounds : Nat}
    {service : State}
    (taken : performNext library opts watch.service goroutine operation reply rounds =
      some service) :
    Unconnected number (watch.after number service (.perform goroutine operation reply rounds))
      table := by
  rcases performNext_cases taken with ⟨rest, view, present, possible, rfl⟩
  have foreign : goroutine.connection ≠ some number := fun owned =>
    absurd unconnected.unused (rooted.connected _ _ number present owned)
  have different : goroutine ≠ .outbound number := by
    rintro rfl
    exact foreign rfl
  refine ⟨?_, ?_, ?_, ?_, unconnected.initial⟩
  · refine (State.connections_after ..).trans ?_
    rw [unconnected.unused]
    rfl
  · simp [Watch.after, unconnected.drawn, Watch.drawnBy_foreign foreign]
  · simp [Watch.after, unconnected.delivered,
      Watch.deliveredBy_idle (Goroutine.not_delivers foreign)]
  · simp [Watch.after, unconnected.acked, Watch.ackedBy_other different]

include sound

/-- A goroutine performs its next operation. -/
theorem Tracks.perform (tracks : Tracks library opts number watch connection table)
    {goroutine : Goroutine} {operation : Operation} {reply : Reply operation} {rounds : Nat}
    {service : State}
    (taken : performNext library opts watch.service goroutine operation reply rounds =
      some service)
    (few : (watch.after number service (.perform goroutine operation reply rounds)).drawn <
      2 ^ 32) :
    ∃ connection' table', table.Moves table' ∧ Tracks library opts number
      (watch.after number service (.perform goroutine operation reply rounds)) connection'
      table' := by
  rcases performNext_cases taken with ⟨rest, view, present, possible, rfl⟩
  by_cases owned : goroutine.connection = some number
  · rcases Goroutine.owned_cases owned (sound.threads _ _ present).unowned with
      rfl | ⟨notifying, idle⟩ | ⟨id, subscriber, delivers⟩
    · exact ⟨_, tracks.outbound rooted sound present possible⟩
    · exact ⟨_, tracks.notifying rooted sound present possible owned notifying idle few⟩
    · exact ⟨_, tracks.inbound rooted delivers present possible few⟩
  · exact ⟨connection, table, Or.inl rfl, tracks.foreign rooted owned⟩

/-- Each step of the service is a step of the table or leaves it alone. -/
theorem Follows.step (follows : Follows library opts number watch table) {action : Action}
    (taken : Watch.step library opts number watch action = some next)
    (few : next.drawn < 2 ^ 32) :
    ∃ table', table.Moves table' ∧ Follows library opts number next table' := by
  rcases Option.map_eq_some_iff.mp taken with ⟨service, performed, rfl⟩
  by_cases performs : ∃ goroutine operation reply rounds,
    action = .perform goroutine operation reply rounds
  · rcases performs with ⟨goroutine, operation, reply, rounds, rfl⟩
    rcases follows with unconnected | ⟨connection, tracks⟩
    · exact ⟨table, Or.inl rfl, Or.inl (unconnected.perform rooted performed)⟩
    · rcases tracks.perform rooted sound performed few with
        ⟨connection', table', moves, tracks'⟩
      exact ⟨table', moves, Or.inr ⟨connection', tracks'⟩⟩
  · have event : ∀ goroutine operation reply rounds,
        action ≠ .perform goroutine operation reply rounds :=
      fun goroutine operation reply rounds same =>
        performs ⟨goroutine, operation, reply, rounds, same⟩
    have recorded : watch.after number service action = { watch with service } := by
      cases action <;> first | rfl | exact absurd rfl (event _ _ _ _)
    rw [recorded]
    refine ⟨table, Or.inl rfl, ?_⟩
    have happened : Unaffected number watch.service service ∨
        ∃ nonce rounds, action = .connect number nonce rounds :=
      Unaffected.of_step performed event
    rcases happened with unaffected | ⟨nonce, rounds, rfl⟩
    · rcases follows with unconnected | ⟨connection, tracks⟩
      · exact Or.inl { unconnected with unused := unaffected.unused unconnected.unused }
      · exact Or.inr (tracks.of_undisturbed unaffected)
    · rcases follows with unconnected | ⟨connection, tracks⟩
      · exact Or.inr ⟨_, Tracks.connect rooted nonce rounds unconnected performed⟩
      · simp only [Service.step, connect, tracks.stored] at performed
        cases performed

end Runs

theorem Watch.drawn_le_step {next : Watch} {action : Action}
    (taken : Watch.step library opts number watch action = some next) :
    watch.drawn ≤ next.drawn := by
  rcases Option.map_eq_some_iff.mp taken with ⟨service, _, rfl⟩
  cases action <;> first | exact Nat.le_refl _ | exact Nat.le_add_right _ _

/-- Along every run, a connection follows a table of unacknowledged messages. -/
theorem Follows.of_reaches (reaches : Watch.Reaches library opts number watch)
    (few : watch.drawn < 2 ^ 32) :
    ∃ table : AckTable Goroutine BrokerMessage, table.Reaches ∧
      Follows library opts number watch table := by
  have starts : (Watch.initial opts).drawn < 2 ^ 32 →
      ∃ table : AckTable Goroutine BrokerMessage, table.Reaches ∧
        Follows library opts number (Watch.initial opts) table :=
    fun _ => ⟨.initial, Transition.Run.refl _, Or.inl ⟨rfl, rfl, rfl, rfl, rfl⟩⟩
  revert few
  apply Transition.Run.preserves reaches starts
  intro current action next reached follows _ taken few'
  have before := Nat.lt_of_le_of_lt (Watch.drawn_le_step taken) few'
  rcases follows before with ⟨table, reachesTable, follows⟩
  have service := Watch.Reaches.service reached
  rcases follows.step (.of_reaches service) (.of_reaches service) taken few' with
    ⟨table', moves, follows'⟩
  exact ⟨table', reachesTable.moves moves, follows'⟩

theorem Tracks.of_reaches (reaches : Watch.Reaches library opts number watch)
    (few : watch.drawn < 2 ^ 32) (stored : watch.service.connections number = some connection) :
    ∃ table, AckTable.Sound table ∧ Tracks library opts number watch connection table := by
  rcases Follows.of_reaches reaches few with ⟨table, reachesTable, follows⟩
  rcases follows with unconnected | ⟨connection', tracks⟩
  · cases unconnected.unused.symm.trans stored
  · cases tracks.stored.symm.trans stored
    exact ⟨table, .of_reaches reachesTable, tracks⟩

end Steps

/-! ## What acks do -/

/-- The number under which a message was sent to the client of a connection, or
is just about to be sent. -/
def Watch.Carries (watch : Watch) (number sequence : Nat) (brokerMsg : BrokerMessage) : Prop :=
  (sequence, brokerMsg) ∈ watch.delivered ∨
    ∃ goroutine, goroutine.delivers number = true ∧ watch.passing goroutine = some brokerMsg ∧
      watch.service.Performs goroutine (.send (Position.message brokerMsg sequence))

section Acks

variable {library : Library} {opts : Opts} {number : Nat} {watch next : Watch}
  {connection : Connection} {table : AckTable Goroutine BrokerMessage}

theorem Position.of_send {subscriber : Subscriber} {position : Position} {msg : Message}
    (sends : (position.program subscriber).operation = some (.send msg)) :
    ∃ brokerMsg sequence rounds, position = .sending brokerMsg sequence rounds ∧
      msg = Position.message brokerMsg sequence := by
  cases position with
  | waiting rounds => cases rounds <;> cases sends
  | drawing brokerMsg rounds => cases sends
  | storing brokerMsg sequence rounds => cases sends
  | sending brokerMsg sequence rounds =>
      cases sends
      exact ⟨brokerMsg, sequence, rounds, rfl, rfl⟩
  | closing => cases sends
  | closed => cases sends

variable (tracks : Tracks library opts number watch connection table)

include tracks

theorem Tracks.bears_iff {sequence : Nat} {brokerMsg : BrokerMessage} :
    table.Bears sequence brokerMsg ↔ watch.Carries number sequence brokerMsg := by
  refine or_congr (by rw [tracks.delivered]) ?_
  constructor
  · rintro ⟨goroutine, entered⟩
    have holding := tracks.hands goroutine
    generalize table.hands goroutine = hand at holding entered
    cases holding with
    | absent absent => cases entered
    | position position delivers present here =>
        cases position <;> cases entered
        refine ⟨goroutine, Goroutine.delivers_iff.mpr ⟨_, _, delivers⟩, ?_, ?_⟩
        · rw [Watch.passing, present]
          exact here.2 brokerMsg rfl
        · rw [State.Performs, present, Option.bind_some, here.1]
          rfl
  · rintro ⟨goroutine, delivers, passing, sends⟩
    refine ⟨goroutine, ?_⟩
    have holding := tracks.hands goroutine
    generalize table.hands goroutine = hand at holding
    rcases sends.thread with ⟨rest, view, present⟩
    cases holding with
    | absent absent =>
        rw [absent delivers] at present
        cases present
    | position position _ present' here =>
        rw [State.Performs, present', Option.bind_some, here.1] at sends
        rcases Position.of_send sends with ⟨brokerMsg', sequence', rounds, rfl, same⟩
        rw [Watch.passing, present', Option.bind_some, here.2 brokerMsg' rfl] at passing
        cases passing
        cases same
        rfl

/-- The loop over the client's messages goes from one stage to the next. -/
theorem Tracks.stage_step
    (rooted : Rooted watch.service) {operation : Operation} {reply : Reply operation}
    {rounds : Nat}
    (taken : watch.step library opts number
      (.perform (.outbound number) operation reply rounds) = some next) :
    connection.mayReply operation reply = true ∧ ∃ stage stage' thread,
      AckStage.Step stage operation reply stage' ∧
        next.service.threads (.outbound number) = some thread ∧
        stage'.At library opts thread := by
  rcases Option.map_eq_some_iff.mp taken with ⟨service, performed, rfl⟩
  rcases performNext_cases performed with ⟨rest, view, present, possible, rfl⟩
  refine ⟨tracks.mayReply rfl possible, ?_⟩
  rcases tracks.works with ⟨thread, stage, present', here, _⟩
  cases present.symm.trans present'
  rcases here.step reply with ⟨stage', step, here'⟩
  exact ⟨stage, stage', _, step, rooted.threadsAfter_self present, here'⟩

/-- A goroutine of the connection that calls an acker is the loop over the
client's messages, at an ack. -/
theorem Tracks.of_ack (sound : Sound library opts watch.service) {goroutine : Goroutine}
    {brokerMsg : BrokerMessage} (owned : goroutine.connection = some number)
    (calls : watch.service.Performs goroutine (.ack brokerMsg)) :
    goroutine = .outbound number ∧ ∃ msg, watch.handling number = some msg ∧
      msg ∈ connection.processed ∧ msg.payload = some .ack ∧
      table.worker = .settling brokerMsg msg.sequence := by
  rcases calls.thread with ⟨rest, view, present⟩
  have sane := sound.threads _ _ present
  have allowed := sane.allowed
  have outbound : goroutine = .outbound number := by
    rcases Goroutine.owned_cases owned sane.unowned with
      same | ⟨notifying, _⟩ | ⟨id, subscriber, delivers⟩
    · exact same
    · rw [notifying] at allowed
      exact allowed.elim
    · rw [delivers] at allowed
      exact allowed.elim
  subst outbound
  rcases tracks.works with ⟨thread, stage, present', ⟨valid, next, handling⟩, worker⟩
  cases present.symm.trans present'
  rcases AckStage.step_of_call valid next.symm none with ⟨stage', _, step, _⟩
  rcases sane.mirrors number rfl with ⟨connection', stored, mirrors⟩
  cases tracks.stored.symm.trans stored
  cases step with
  | unrelated unrelated => exact unrelated.elim
  | succeed msg _ rounds =>
      have handled : view.message = some msg := handling msg rfl
      refine ⟨rfl, msg, ?_, mirrors.message msg handled, valid, worker⟩
      rw [Watch.handling, present]
      exact handled

end Acks

/-! The client logs in, and a message for it is published. -/

def ownAddress : Address := ⟨"key".toList, "device".toList⟩

def ownMessage : BrokerMessage := ⟨topicForAddr plainLibrary ownAddress, 0, "hello".toList⟩

def sessionTrace : List Action :=
  let candidate := Database.candidate (plainLibrary.number ownAddress.identityKey) 0
  let outboundMessage : OutboundMessage := ⟨some ownAddress, ownMessage.data⟩
  loginTrace 0 "nonce".toList ownAddress ++ subscribeTrace 0 ownAddress ++
    [.perform (.outbound 0) (.send ⟨1, some (.chatNumber
        ⟨candidate.1, candidate.2.1, plainOpts.chatNumberDomain⟩)⟩) () 0,
      .connect 1 "other".toList 1, .send 1 ⟨1, some (.outboundMessage outboundMessage)⟩] ++
    publishTrace 1 outboundMessage plainOpts.publicAddr ownMessage.topic ownMessage.data

/-- The goroutine that passes messages on to the client. -/
def ownLoop : Goroutine := .routine 10 (some 0) (.handleInbound ⟨ownMessage.topic⟩)

/-- The client acks the message with the first number, until the acker is called. -/
def ackTrace : List Action :=
  [.send 0 ⟨1, some .ack⟩,
    .perform (.outbound 0) .nextMessage (some ⟨1, some .ack⟩) 0,
    .perform (.outbound 0) (.findAcker 1) (some ownMessage) 0]

/-- A client that guesses a number acks a message that it was not sent. -/
theorem guessed_ack_precedes_delivery :
    ∃ watch, Watch.Reaches plainLibrary plainOpts 0 watch ∧
      watch.drawn < 2 ^ 32 ∧ watch.acked = [(1, ownMessage)] ∧ watch.delivered = [] ∧
      watch.service.topics.posting ownMessage.place = some ⟨ownMessage.data, true⟩ :=
  Transition.Run.exists_of_execute
    (sessionTrace ++ (deliverTrace ownLoop ownMessage 1).take 3 ++ ackTrace ++
      [.perform (.outbound 0) (.ack ownMessage) none 0])
    (by decide +kernel)

/-- How a connection deals with the acks of its client. -/
structure Acknowledges (library : Library) (opts : Opts) (number : Nat) (watch : Watch)
    (connection : Connection) : Prop where
  /-- An acker is called for an ack of the client that names its message, whose
  entry is there and under whose number no acker has succeeded. -/
  named : ∀ goroutine brokerMsg, goroutine.connection = some number →
    watch.service.Performs goroutine (.ack brokerMsg) →
    goroutine = .outbound number ∧ ∃ msg, watch.handling number = some msg ∧
      msg ∈ connection.processed ∧ msg.payload = some .ack ∧
      watch.Carries number msg.sequence brokerMsg ∧
      connection.unackedMessages msg.sequence = some brokerMsg ∧
      ∀ brokerMsg', (msg.sequence, brokerMsg') ∉ watch.acked
  /-- A number names one message. -/
  unambiguous : ∀ sequence brokerMsg brokerMsg', watch.Carries number sequence brokerMsg →
    watch.Carries number sequence brokerMsg' → brokerMsg = brokerMsg'
  /-- The acker of a message that the client can see is there, until it succeeds. -/
  available : ∀ sequence data,
    ⟨sequence, some (.inboundMessage data)⟩ ∈ connection.inbox →
    ∃ brokerMsg : BrokerMessage, brokerMsg.data = data ∧
      (sequence, brokerMsg) ∈ watch.delivered ∧
      (connection.unackedMessages sequence = some brokerMsg ∨
        (sequence, brokerMsg) ∈ watch.acked)
  /-- An ack of the client is looked up. -/
  requested : ∀ msg rounds next, msg.payload = some .ack →
    watch.step library opts number
      (.perform (.outbound number) .nextMessage (some msg) rounds) = some next →
    next.service.Performs (.outbound number) (.findAcker msg.sequence)
  /-- The acker that is there is called. -/
  found : ∀ sequence brokerMsg reply rounds next,
    connection.unackedMessages sequence = some brokerMsg →
    watch.step library opts number
      (.perform (.outbound number) (.findAcker sequence) reply rounds) = some next →
    next.service.Performs (.outbound number) (.ack brokerMsg)
  /-- After a failed call the connection is as before. -/
  failed : ∀ brokerMsg err rounds next,
    watch.step library opts number
      (.perform (.outbound number) (.ack brokerMsg) (some err) rounds) = some next →
    next.service.connections number = some connection ∧ next.acked = watch.acked
  /-- An entry stays as it is until its own acker has succeeded. -/
  kept : ∀ action next connection' sequence brokerMsg,
    watch.step library opts number action = some next → next.drawn < 2 ^ 32 →
    next.service.connections number = some connection' →
    connection.unackedMessages sequence = some brokerMsg →
    connection'.unackedMessages sequence = some brokerMsg ∨
      connection'.unackedMessages sequence = none ∧ (sequence, brokerMsg) ∈ watch.acked

section Acknowledges

variable {library : Library} {opts : Opts} {number : Nat} {watch next : Watch}
  {connection : Connection} {table : AckTable Goroutine BrokerMessage}

variable (tracks : Tracks library opts number watch connection table)

include tracks

/-- What the worker of the table is about to settle was named by an ack. -/
theorem Tracks.named (soundTable : table.Sound) (sound : Sound library opts watch.service)
    {goroutine : Goroutine} {brokerMsg : BrokerMessage}
    (owned : goroutine.connection = some number)
    (calls : watch.service.Performs goroutine (.ack brokerMsg)) :
    goroutine = .outbound number ∧ ∃ msg, watch.handling number = some msg ∧
      msg ∈ connection.processed ∧ msg.payload = some .ack ∧
      watch.Carries number msg.sequence brokerMsg ∧
      connection.unackedMessages msg.sequence = some brokerMsg ∧
      ∀ brokerMsg', (msg.sequence, brokerMsg') ∉ watch.acked := by
  rcases tracks.of_ack sound owned calls with
    ⟨outbound, msg, handling, received, isAck, settling⟩
  have entry := soundTable.settling _ _ settling
  refine ⟨outbound, msg, handling, received, isAck,
    tracks.bears_iff.mp (soundTable.entry _ _ entry), ?_, ?_⟩
  · rw [← tracks.entries]
    exact entry
  · rw [← tracks.settled]
    exact soundTable.unsettled settling

theorem Tracks.available (soundTable : table.Sound) {sequence : Nat} {data : Text}
    (seen : ⟨sequence, some (.inboundMessage data)⟩ ∈ connection.inbox) :
    ∃ brokerMsg : BrokerMessage, brokerMsg.data = data ∧
      (sequence, brokerMsg) ∈ watch.delivered ∧
      (connection.unackedMessages sequence = some brokerMsg ∨
        (sequence, brokerMsg) ∈ watch.acked) := by
  rcases tracks.inbox sequence data seen with ⟨brokerMsg, same, delivered⟩
  refine ⟨brokerMsg, same, delivered, ?_⟩
  rw [← tracks.entries, ← tracks.settled]
  rw [← tracks.delivered] at delivered
  exact soundTable.available sequence brokerMsg (Or.inl delivered)

theorem Tracks.requested (rooted : Rooted watch.service) {msg : Message} {rounds : Nat}
    (isAck : msg.payload = some .ack)
    (taken : watch.step library opts number
      (.perform (.outbound number) .nextMessage (some msg) rounds) = some next) :
    next.service.Performs (.outbound number) (.findAcker msg.sequence) := by
  rcases tracks.stage_step rooted taken with
    ⟨_, stage, stage', thread, step, present, _, program, _⟩
  cases step with
  | unrelated unrelated => exact unrelated.elim
  | pass received notAck => exact absurd isAck (notAck msg rfl)
  | request _ rounds idle =>
      rw [State.Performs, present, Option.bind_some, program]
      rfl

theorem Tracks.found (rooted : Rooted watch.service) {sequence : Nat} {brokerMsg : BrokerMessage}
    {reply : Reply (.findAcker sequence)} {rounds : Nat}
    (entry : connection.unackedMessages sequence = some brokerMsg)
    (taken : watch.step library opts number
      (.perform (.outbound number) (.findAcker sequence) reply rounds) = some next) :
    next.service.Performs (.outbound number) (.ack brokerMsg) := by
  rcases tracks.stage_step rooted taken with
    ⟨replies, stage, stage', thread, step, present, _, program, _⟩
  have same : reply = some brokerMsg := (of_decide_eq_true replies).trans entry
  cases step with
  | unrelated unrelated => exact unrelated.elim
  | miss msg rounds => cases same
  | hit msg found rounds =>
      cases same
      rw [State.Performs, present, Option.bind_some, program]
      rfl

theorem Tracks.failed {brokerMsg : BrokerMessage} {err : Failure} {rounds : Nat}
    (taken : watch.step library opts number
      (.perform (.outbound number) (.ack brokerMsg) (some err) rounds) = some next) :
    next.service.connections number = some connection ∧ next.acked = watch.acked := by
  rcases Option.map_eq_some_iff.mp taken with ⟨service, performed, rfl⟩
  rcases performNext_cases performed with ⟨rest, view, present, _, rfl⟩
  have owned : (Goroutine.outbound number).connection = some number := rfl
  refine ⟨(State.connections_after ..).trans ?_, rfl⟩
  rw [tracks.stored, Option.map_some, if_pos owned]
  rfl

theorem Tracks.kept (soundTable : table.Sound) (rooted : Rooted watch.service)
    (sound : Sound library opts watch.service) {action : Action} {connection' : Connection}
    {sequence : Nat} {brokerMsg : BrokerMessage}
    (taken : watch.step library opts number action = some next) (few : next.drawn < 2 ^ 32)
    (stored : next.service.connections number = some connection')
    (entry : connection.unackedMessages sequence = some brokerMsg) :
    connection'.unackedMessages sequence = some brokerMsg ∨
      connection'.unackedMessages sequence = none ∧ (sequence, brokerMsg) ∈ watch.acked := by
  rcases Follows.step rooted sound (Or.inr ⟨connection, tracks⟩) taken few with
    ⟨table', moves, follows⟩
  rcases follows with unconnected | ⟨connection'', tracks'⟩
  · cases unconnected.unused.symm.trans stored
  · cases tracks'.stored.symm.trans stored
    rw [← tracks.entries] at entry
    rw [← tracks'.entries, ← tracks.settled]
    exact soundTable.entry_moves moves entry

end Acknowledges

theorem acks_settle_what_they_name {library : Library} {opts : Opts} {number : Nat}
    {watch : Watch} {connection : Connection} (reaches : Watch.Reaches library opts number watch)
    (few : watch.drawn < 2 ^ 32) (stored : watch.service.connections number = some connection) :
    Acknowledges library opts number watch connection := by
  have sound := Sound.of_reaches reaches.service
  have rooted := Rooted.of_reaches reaches.service
  rcases Tracks.of_reaches reaches few stored with ⟨table, soundTable, tracks⟩
  refine ⟨?_, ?_, ?_, ?_, ?_, ?_, ?_⟩
  · intro goroutine brokerMsg owned calls
    exact tracks.named soundTable sound owned calls
  · intro sequence brokerMsg brokerMsg' carries carries'
    exact soundTable.bears_unique (tracks.bears_iff.mpr carries) (tracks.bears_iff.mpr carries')
  · intro sequence data seen
    exact tracks.available soundTable seen
  · intro msg rounds next isAck taken
    exact tracks.requested rooted isAck taken
  · intro sequence brokerMsg reply rounds next entry taken
    exact tracks.found rooted entry taken
  · intro brokerMsg err rounds next taken
    exact tracks.failed taken
  · intro action next connection' sequence brokerMsg taken few' stored' entry
    exact tracks.kept soundTable rooted sound taken few' stored' entry

theorem delivered_message_is_acked :
    ∃ watch connection, Watch.Reaches plainLibrary plainOpts 0 watch ∧
      watch.delivered = [(1, ownMessage)] ∧
      watch.service.Performs (.outbound 0) (.ack ownMessage) ∧
      Acknowledges plainLibrary plainOpts 0 watch connection := by
  have run : ∃ watch, Watch.Reaches plainLibrary plainOpts 0 watch ∧
      (watch.drawn < 2 ^ 32 ∧ (watch.service.connections 0).isSome = true ∧
        watch.delivered = [(1, ownMessage)] ∧
        watch.service.Performs (.outbound 0) (.ack ownMessage)) :=
    Transition.Run.exists_of_execute
      (sessionTrace ++ deliverTrace ownLoop ownMessage 1 ++ ackTrace) (by decide +kernel)
  rcases run with ⟨watch, reaches, few, isStored, delivered, calls⟩
  rcases Option.isSome_iff_exists.mp isStored with ⟨connection, stored⟩
  exact ⟨watch, connection, reaches, delivered, calls,
    acks_settle_what_they_name reaches few stored⟩

end Tassis.Service
