import Tassis.Service.Steps

/-! # What holds of every service

Along every run the state only grows: messages stay in their topics, identities
are kept and the history is not rewritten. What holds of the goroutines besides
that they obey their rules is that the views by which the rules are stated agree
with the state.
-/

namespace Tassis.Service

open Model

/-! ## Topics -/

namespace Topics

variable (topics : Topics)

theorem posting_publish (topic data : Text) (place : Place) :
    (topics.publish topic data).posting place =
      if place = ⟨topic, (topics topic).length⟩ then some ⟨data, false⟩
      else topics.posting place := by
  rcases place with ⟨topic', index⟩
  simp only [posting, publish, Place.mk.injEq]
  by_cases same : topic' = topic
  · subst same
    rw [Function.update_self, List.getElem?_append]
    split <;> split <;> grind
  · rw [Function.update_of_ne same, if_neg (fun equal => same equal.1)]

theorem posting_ack (place place' : Place) :
    (topics.ack place).posting place' =
      if place' = place then (topics.posting place).map fun posting => { posting with acked := true }
      else topics.posting place' := by
  rcases place with ⟨topic, index⟩
  rcases place' with ⟨topic', index'⟩
  simp only [posting, ack, Place.mk.injEq]
  by_cases same : topic' = topic
  · subst same
    rw [Function.update_self, List.getElem?_modify]
    split <;> grind
  · rw [Function.update_of_ne same, if_neg (fun equal => same equal.1)]

theorem not_posting_length (topic : Text) :
    topics.posting ⟨topic, (topics topic).length⟩ = none := by
  simp [posting]

/-- Messages stay where they are, acked or not. -/
def Extends (topics next : Topics) : Prop :=
  ∀ place posting, topics.posting place = some posting →
    ∃ acked, next.posting place = some ⟨posting.data, acked⟩

theorem Extends.refl : topics.Extends topics := fun _ _ present => ⟨_, present⟩

theorem extends_publish (topic data : Text) : topics.Extends (topics.publish topic data) := by
  intro place posting present
  refine ⟨posting.acked, ?_⟩
  rw [posting_publish, if_neg, present]
  rintro rfl
  rw [not_posting_length] at present
  cases present

theorem extends_ack (acked : Place) : topics.Extends (topics.ack acked) := by
  intro place posting present
  rw [posting_ack]
  split
  · rename_i same
    subst same
    exact ⟨true, by rw [present]; rfl⟩
  · exact ⟨posting.acked, present⟩

theorem extends_after (operation : Operation) (reply : Reply operation) :
    topics.Extends (topics.after operation reply) := by
  unfold after
  split
  · exact topics.extends_publish _ _
  · exact topics.extends_ack _
  · exact Extends.refl topics

/-- Where a message comes from that is in a topic after an operation. -/
inductive PostingStep (topics : Topics) (place : Place) :
    (operation : Operation) → Reply operation → Posting → Prop where
  | kept {operation : Operation} {reply : Reply operation} {posting : Posting}
      (present : topics.posting place = some posting) :
      PostingStep topics place operation reply posting
  | published {publisher : Publisher} {data : Text}
      (last : place = ⟨publisher.topic, (topics publisher.topic).length⟩) :
      PostingStep topics place (.publish publisher data) none ⟨data, false⟩
  | acked {brokerMsg : BrokerMessage} {data : Text} {acked : Bool}
      (same : place = brokerMsg.place) (present : topics.posting place = some ⟨data, acked⟩) :
      PostingStep topics place (.ack brokerMsg) none ⟨data, true⟩

theorem postingStep_of_after {operation : Operation} {reply : Reply operation} {place : Place}
    {posting : Posting} (present : (topics.after operation reply).posting place = some posting) :
    PostingStep topics place operation reply posting := by
  unfold after at present
  split at present
  · rw [posting_publish] at present
    split at present
    · rename_i last
      cases present
      exact .published last
    · exact .kept present
  · rename_i brokerMsg
    rw [posting_ack] at present
    split at present
    · rename_i same
      rcases Option.map_eq_some_iff.mp present with ⟨⟨data, acked⟩, before, rfl⟩
      exact .acked same (same ▸ before)
    · exact .kept present
  · exact .kept present

end Topics

/-! ## Views and connections -/

variable {library : Library} {opts : Opts} {view : View} {connection : Connection}
  {operation : Operation}

/-- A connection keeps its nonce, its messages and its identity. -/
structure Connection.Extends (connection next : Connection) : Prop where
  nonce : next.nonce = connection.nonce
  identityKey : ∀ identityKey, connection.identityKey = some identityKey →
    next.identityKey = some identityKey
  deviceId : ∀ deviceId, connection.deviceId = some deviceId → next.deviceId = some deviceId
  out : ∀ msg, msg ∈ connection.out → msg ∈ next.out
  processed : ∀ msg, msg ∈ connection.processed → msg ∈ next.processed

theorem Connection.Extends.refl (connection : Connection) : connection.Extends connection :=
  ⟨rfl, fun _ => id, fun _ => id, fun _ => id, fun _ => id⟩

theorem Connection.Extends.trans {next later : Connection} (first : connection.Extends next)
    (second : next.Extends later) : connection.Extends later where
  nonce := second.nonce.trans first.nonce
  identityKey _ stored := second.identityKey _ (first.identityKey _ stored)
  deviceId _ stored := second.deviceId _ (first.deviceId _ stored)
  out msg member := second.out msg (first.out msg member)
  processed msg member := second.processed msg (first.processed msg member)

theorem Connection.Extends.actsFor {next : Connection} (grows : connection.Extends next)
    {address : Address} (actsFor : connection.ActsFor address) : next.ActsFor address :=
  ⟨grows.identityKey _ actsFor.1, grows.deviceId _ actsFor.2⟩

theorem Connection.extends_received :
    connection.Extends { connection with received := connection.received + 1 } := by
  refine { Extends.refl connection with processed := ?_ }
  intro msg member
  exact List.take_subset_take_left _ (Nat.le_succ _) member

/-- The loop over the messages of a client knows the nonce and what is stored,
and handles a message that it has received. -/
structure View.Mirrors (view : View) (connection : Connection) : Prop where
  nonce : view.nonce = connection.nonce
  identityKey : view.identityKey = connection.identityKey
  deviceId : view.deviceId = connection.deviceId
  message : ∀ msg, view.message = some msg → msg ∈ connection.processed

theorem View.Mirrors.after (mirrors : view.Mirrors connection) {reply : Reply operation}
    (possible : connection.mayReply operation reply = true) :
    (view.next opts operation reply).Mirrors (connection.after operation reply) := by
  cases operation <;>
    try exact ⟨mirrors.nonce, mirrors.identityKey, mirrors.deviceId, mirrors.message⟩
  case nextMessage =>
      cases reply with
      | none => exact mirrors
      | some msg =>
          refine ⟨mirrors.nonce, mirrors.identityKey, mirrors.deviceId, ?_⟩
          rintro _ ⟨⟩
          have present : connection.out[connection.received]? = some msg := by
            simpa [Connection.mayReply] using possible
          simp [Connection.processed, Connection.after, List.take_add_one, present]
  case storeIdentityKey identityKey =>
      exact ⟨mirrors.nonce, rfl, mirrors.deviceId, mirrors.message⟩
  case storeDeviceId deviceId =>
      exact ⟨mirrors.nonce, mirrors.identityKey, rfl, mirrors.message⟩
  case findAcker | nextDelivery | publish =>
      cases reply <;>
        exact ⟨mirrors.nonce, mirrors.identityKey, mirrors.deviceId, mirrors.message⟩

theorem View.Mirrors.mono {next : Connection} (mirrors : view.Mirrors connection)
    (grows : connection.Extends next) (sameKey : next.identityKey = connection.identityKey)
    (sameDevice : next.deviceId = connection.deviceId) : view.Mirrors next where
  nonce := mirrors.nonce.trans grows.nonce.symm
  identityKey := mirrors.identityKey.trans sameKey.symm
  deviceId := mirrors.deviceId.trans sameDevice.symm
  message msg handling := grows.processed msg (mirrors.message msg handling)

/-- Only the loop over the messages of a client stores its identity. -/
theorem Connection.identity_after {kind : Kind}
    (allowed : view.Allows library opts kind operation) (different : kind ≠ .outbound)
    (reply : Reply operation) :
    (connection.after operation reply).identityKey = connection.identityKey ∧
      (connection.after operation reply).deviceId = connection.deviceId := by
  cases operation <;> try exact ⟨rfl, rfl⟩
  case nextMessage => cases reply <;> exact ⟨rfl, rfl⟩
  case storeIdentityKey identityKey =>
      cases kind with
      | outbound => exact absurd rfl different
      | _ => exact allowed.elim
  case storeDeviceId deviceId =>
      cases kind with
      | outbound => exact absurd rfl different
      | _ => exact allowed.elim

/-- An identity is stored only if there is none. -/
theorem Connection.extends_after {kind : Kind}
    (allowed : view.Allows library opts kind operation)
    (mirrors : kind = .outbound → view.Mirrors connection) (reply : Reply operation) :
    connection.Extends (connection.after operation reply) := by
  have rest := Connection.Extends.refl connection
  cases operation <;>
    try exact ⟨rest.nonce, rest.identityKey, rest.deviceId, rest.out, rest.processed⟩
  case nextMessage =>
      cases reply with
      | none => exact rest
      | some msg => exact extends_received
  case storeIdentityKey identityKey =>
      cases kind with
      | outbound =>
          have unset : connection.identityKey = none :=
            (mirrors rfl).identityKey.symm.trans allowed.1
          refine { rest with identityKey := ?_ }
          intro stored equal
          rw [unset] at equal
          cases equal
      | _ => exact allowed.elim
  case storeDeviceId deviceId =>
      cases kind with
      | outbound =>
          have unset : connection.deviceId = none := (mirrors rfl).deviceId.symm.trans allowed.1
          refine { rest with deviceId := ?_ }
          intro stored equal
          rw [unset] at equal
          cases equal
      | _ => exact allowed.elim

/-! ## States -/

/-- What is kept along every run. -/
structure State.Extends (state next : State) : Prop where
  connections : ∀ number connection, state.connections number = some connection →
    ∃ connection', next.connections number = some connection' ∧ connection.Extends connection'
  topics : state.topics.Extends next.topics
  history : ∀ entry, entry ∈ state.history → entry ∈ next.history
  clock : state.clock ≤ next.clock

variable {state next : State}

theorem State.Extends.refl (state : State) : state.Extends state where
  connections _ connection present := ⟨connection, present, .refl connection⟩
  topics := .refl _
  history _ := id
  clock := le_rfl

theorem State.Extends.trans {later : State} (first : state.Extends next)
    (second : next.Extends later) : state.Extends later where
  connections number connection stored := by
    rcases first.connections number connection stored with ⟨connection', stored', grown⟩
    rcases second.connections number connection' stored' with ⟨connection'', stored'', grown'⟩
    exact ⟨connection'', stored'', grown.trans grown'⟩
  topics place posting present := by
    rcases first.topics place posting present with ⟨acked, present'⟩
    exact second.topics place ⟨posting.data, acked⟩ present'
  history entry member := second.history entry (first.history entry member)
  clock := first.clock.trans second.clock

theorem State.Extends.holds (grows : state.Extends next) {brokerMsg : BrokerMessage}
    (holds : state.Holds brokerMsg) : next.Holds brokerMsg := by
  rcases Option.map_eq_some_iff.mp holds with ⟨posting, present, sameData⟩
  rcases grows.topics _ posting present with ⟨acked, present'⟩
  rw [State.Holds, present', ← sameData]
  rfl

/-- The topics from which a kind of goroutine receives messages. -/
def Kind.Receives (library : Library) : Kind → Text → Prop
  | .outbound, topic | .transferring, topic => ∃ address, topic = topicForAddr library address
  | .inbound own, topic => topic = own
  | .forwarding, topic => IsForwarding topic
  | .notifying, _ | .starting, _ => False

/-- The kinds of goroutines that belong to no connection. -/
def Kind.OfService : Kind → Prop
  | .starting | .forwarding | .transferring => True
  | .outbound | .notifying | .inbound _ => False

/-- A loop over the messages for a client is subscribed to the topic of the
address that its connection acts for. -/
def Subscribed (library : Library) (state : State) (goroutine : Goroutine) : Prop :=
  ∀ number owner subscriber, goroutine = .routine number owner (.handleInbound subscriber) →
    ∃ owning connection address, owner = some owning ∧
      state.connections owning = some connection ∧ connection.ActsFor address ∧
      subscriber.topic = topicForAddr library address

/-- What holds of a goroutine. -/
structure Sane (library : Library) (opts : Opts) (state : State) (goroutine : Goroutine)
    (thread : Thread) : Prop where
  obeys : Program.Obeys (rules library opts .any goroutine.kind) (fun _ _ => True)
    thread.program thread.view
  delivered : ∀ brokerMsg, thread.view.delivery = some brokerMsg →
    state.Holds brokerMsg ∧ goroutine.kind.Receives library brokerMsg.topic
  mirrors : ∀ number, goroutine = .outbound number →
    ∃ connection, state.connections number = some connection ∧ thread.view.Mirrors connection
  subscribed : Subscribed library state goroutine
  unowned : goroutine.kind.OfService → goroutine.connection = none

/-- What holds of a callback that is waiting for a response. -/
structure Waiting (library : Library) (state : State) (callback : Callback) : Prop where
  holds : state.Holds callback.brokerMsg
  onTopic : IsForwarding callback.brokerMsg.topic
  decoded : library.unmarshal callback.brokerMsg.data = .ok callback.msg
  publishesRetries : callback.retryPublisher.topic = forwardingRetryTopic

/-- What holds of every state that a service can reach. -/
structure Sound (library : Library) (opts : Opts) (state : State) : Prop where
  threads : ∀ goroutine thread, state.threads goroutine = some thread →
    Sane library opts state goroutine thread
  unacked : ∀ number connection sequence brokerMsg,
    state.connections number = some connection →
    connection.unackedMessages sequence = some brokerMsg →
    state.Holds brokerMsg ∧ Kind.outbound.Receives library brokerMsg.topic
  callbacks : ∀ sequence callback, state.forwarder.callbacks sequence = some callback →
    Waiting library state callback
  cached : ∀ topic publisher, state.publisherCache topic = some publisher →
    publisher.topic = topic
  clock : nanosPerMilli ≤ state.clock

theorem Waiting.mono {callback : Callback} (waiting : Waiting library state callback)
    (grows : state.Extends next) : Waiting library next callback :=
  { waiting with holds := grows.holds waiting.holds }

theorem Subscribed.mono {goroutine : Goroutine}
    (subscribed : Subscribed library state goroutine) (grows : state.Extends next) :
    Subscribed library next goroutine := by
  intro number owner subscriber equal
  rcases subscribed number owner subscriber equal with
    ⟨owning, connection, address, owned, present, actsFor, onTopic⟩
  rcases grows.connections owning connection present with ⟨connection', present', grown⟩
  exact ⟨owning, connection', address, owned, present', grown.actsFor actsFor, onTopic⟩

/-- A goroutine that does not act stays as it is, unless another one changes its
identity. -/
theorem Sane.mono {goroutine : Goroutine} {thread : Thread}
    (sane : Sane library opts state goroutine thread) (grows : state.Extends next)
    (sameIdentity : ∀ number connection connection', goroutine = .outbound number →
      state.connections number = some connection →
      next.connections number = some connection' →
      connection'.identityKey = connection.identityKey ∧
        connection'.deviceId = connection.deviceId) :
    Sane library opts next goroutine thread where
  obeys := sane.obeys
  delivered brokerMsg handling :=
    ⟨grows.holds (sane.delivered brokerMsg handling).1, (sane.delivered brokerMsg handling).2⟩
  mirrors number equal := by
    rcases sane.mirrors number equal with ⟨connection, present, mirrors⟩
    rcases grows.connections number connection present with ⟨connection', present', grown⟩
    have same := sameIdentity number connection connection' equal present present'
    exact ⟨connection', present', mirrors.mono grown same.1 same.2⟩
  subscribed := sane.subscribed.mono grows
  unowned := sane.unowned

/-! ## Operations -/

variable {goroutine : Goroutine} {reply : Reply operation}

theorem Goroutine.eq_outbound (outbound : goroutine.kind = .outbound) :
    ∃ number, goroutine = .outbound number := by
  cases goroutine with
  | outbound number => exact ⟨number, rfl⟩
  | routine number owner code => cases code <;> cases outbound
  | main => cases outbound
  | init number => cases outbound
  | callback number => cases outbound

theorem State.connections_after (view : View) (rest : Task Unit) (rounds number : Nat) :
    (state.after library opts goroutine view rest rounds operation reply).connections number =
      (state.connections number).map fun connection =>
        if goroutine.connection = some number then connection.after operation reply
        else connection := by
  cases connected : goroutine.connection with
  | none => simp [after, connectionsAfter, connected]
  | some owned =>
      simp only [after, connectionsAfter, connected]
      by_cases same : number = owned
      · subst same
        simp
      · rw [Function.update_of_ne same]
        simp [Ne.symm same]

theorem Sane.allowed {rest : Reply operation → Task Unit}
    (sane : Sane library opts state goroutine ⟨.call operation rest, view⟩) :
    view.Allows library opts goroutine.kind operation :=
  sane.obeys.1

/-- The message that a goroutine is handling is in its topic. -/
theorem Sane.posting {thread : Thread} (sane : Sane library opts state goroutine thread)
    {brokerMsg : BrokerMessage} (handling : thread.view.delivery = some brokerMsg) :
    ∃ acked, state.topics.posting brokerMsg.place = some ⟨brokerMsg.data, acked⟩ := by
  have holds := (sane.delivered brokerMsg handling).1
  rcases Option.map_eq_some_iff.mp holds with ⟨⟨data, acked⟩, posted, rfl⟩
  exact ⟨acked, posted⟩

theorem Sane.mirrors_connection {thread : Thread} {number : Nat}
    (sane : Sane library opts state goroutine thread)
    (outbound : goroutine.kind = .outbound) (connected : goroutine.connection = some number)
    (present : state.connections number = some connection) : thread.view.Mirrors connection := by
  rcases goroutine.eq_outbound outbound with ⟨number', rfl⟩
  cases connected
  rcases sane.mirrors number rfl with ⟨connection', present', mirrors⟩
  cases present.symm.trans present'
  exact mirrors

/-- The loop over the messages of a client gets the replies it counts on. -/
theorem Sane.mayReply_connection {thread : Thread}
    (sane : Sane library opts state goroutine thread) (outbound : goroutine.kind = .outbound)
    (possible : state.MayReply goroutine operation reply) :
    ∃ connection, thread.view.Mirrors connection ∧
      connection.mayReply operation reply = true := by
  rcases goroutine.eq_outbound outbound with ⟨number, rfl⟩
  rcases sane.mirrors number rfl with ⟨connection, present, mirrors⟩
  have connectionOf : state.connectionOf (.outbound number) = some connection := present
  have replies := possible.2
  rw [connectionOf] at replies
  exact ⟨connection, mirrors, replies⟩

theorem Sound.expects (sound : Sound library opts state) {thread : Thread}
    (sane : Sane library opts state goroutine thread)
    (possible : state.MayReply goroutine operation reply) :
    thread.view.Expects (fun _ _ => True) goroutine.kind operation reply := by
  have replies := possible.1
  cases operation <;> try trivial
  case authNonce =>
      intro outbound
      rcases sane.mayReply_connection outbound possible with ⟨connection, mirrors, stored⟩
      rw [mirrors.nonce]
      simpa [Connection.mayReply] using stored
  case loadIdentityKey =>
      intro outbound
      rcases sane.mayReply_connection outbound possible with ⟨connection, mirrors, stored⟩
      rw [mirrors.identityKey]
      simpa [Connection.mayReply] using stored
  case loadDeviceId =>
      intro outbound
      rcases sane.mayReply_connection outbound possible with ⟨connection, mirrors, stored⟩
      rw [mirrors.deviceId]
      simpa [Connection.mayReply] using stored
  case find => exact fun _ _ => trivial
  case newSubscriber topic =>
      rintro subscriber rfl
      simpa [State.mayReply] using replies
  case nextDelivery subscriber =>
      rintro brokerMsg rfl
      simp only [State.mayReply, decide_eq_true_eq] at replies
      exact replies.1
  case newPublisher topic =>
      rintro publisher rfl
      simpa [State.mayReply] using replies
  case cachedPublisher topic =>
      rintro publisher rfl
      exact sound.cached topic publisher (by simpa [State.mayReply] using replies)
  case nowUnixMillis =>
      have now : reply = (state.clock / nanosPerMilli : Nat) := by
        simpa [State.mayReply] using replies
      have positive : 0 < state.clock / nanosPerMilli :=
        Nat.div_pos sound.clock (by decide)
      simp only [View.Expects, now]
      exact Int.natCast_pos.mpr positive

/-- The code of a goroutine obeys the rules for its kind. -/
theorem taskOf_obeys {kind : Kind} {routine : Routine}
    (allowed : view.Allows library opts kind (.go routine)) (rounds : Nat) (view' : View) :
    Program.Obeys (rules library opts .any routine.kind) (fun _ _ => True)
      (taskOf library opts routine rounds) view' := by
  have inBackground : (∃ subscriber, routine = .handleInbound subscriber) ∨
      routine = .warnPreKeysLowIfNecessary ∨ routine.InBackground := by
    cases kind with
    | outbound => cases routine <;> simp_all [View.Allows, View.OutboundAllows]
    | starting => exact Or.inr (Or.inr allowed)
    | _ => exact allowed.elim
  cases routine with
  | handleInbound subscriber => exact handleInbound_obeys subscriber rounds
  | warnPreKeysLowIfNecessary => exact warnPreKeysLowIfNecessary_obeys rounds
  | forwardMessages subscriber retryPublisher =>
      exact forwardMessages_obeys (by simpa using inBackground)
  | forwardLoop subscriber retryPublisher =>
      exact forwardLoop_obeys trivial (by simpa using inBackground) rounds
  | userTransfers publisher =>
      exact userTransfers_obeys (by simpa [Routine.InBackground] using inBackground) rounds

/-! ## The step of a goroutine -/

theorem History.mem_after {history : History} {kind : Kind} {topics : Topics} {clock : Nat}
    {entry : Place × Fate} (member : entry ∈ history) :
    entry ∈ history.after kind view topics clock operation reply := by
  unfold History.after
  split
  · exact List.mem_cons_of_mem _ member
  · exact member

section Performing

variable {rest : Reply operation → Task Unit} {rounds : Nat}
  (sound : Sound library opts state)
  (present : state.threads goroutine = some ⟨.call operation rest, view⟩)
  (possible : state.MayReply goroutine operation reply)

include sound present

theorem extends_after :
    state.Extends
      (state.after library opts goroutine view (rest reply) rounds operation reply) := by
  have sane := sound.threads _ _ present
  refine ⟨?_, state.topics.extends_after operation reply, ?_, le_rfl⟩
  · intro number connection found
    rw [State.connections_after, found]
    refine ⟨_, rfl, ?_⟩
    dsimp only
    split
    · rename_i connected
      exact connection.extends_after sane.allowed
        (fun outbound => sane.mirrors_connection outbound connected found) reply
    · exact .refl connection
  · exact fun _ => History.mem_after

/-- No other goroutine changes the identity of a connection. -/
theorem sane_other {goroutine' : Goroutine} {thread : Thread}
    (different : goroutine' ≠ goroutine)
    (present' : state.threads goroutine' = some thread) :
    Sane library opts
      (state.after library opts goroutine view (rest reply) rounds operation reply)
      goroutine' thread := by
  have sane := sound.threads _ _ present
  apply (sound.threads _ _ present').mono (extends_after sound present)
  rintro number connection connection' rfl found found'
  rw [State.connections_after, found] at found'
  cases found'
  dsimp only
  split
  · rename_i connected
    apply Connection.identity_after sane.allowed
    intro outbound
    rcases goroutine.eq_outbound outbound with ⟨number', rfl⟩
    cases connected
    exact different rfl
  · exact ⟨rfl, rfl⟩

/-- A goroutine that was just started has received nothing, and is subscribed to
the topic of its connection. -/
theorem sane_started {routine : Routine} (starts : operation = .go routine) (number : Nat) :
    Sane library opts
      (state.after library opts goroutine view (rest reply) rounds operation reply)
      (.routine number goroutine.connection routine)
      ⟨taskOf library opts routine rounds, .initial []⟩ := by
  have sane := sound.threads _ _ present
  have allowed := sane.allowed
  subst starts
  refine ⟨taskOf_obeys allowed rounds _, by simp [View.initial], by simp, ?_, ?_⟩
  · apply Subscribed.mono _ (extends_after sound present)
    rintro _ _ subscriber ⟨⟩
    cases kind : goroutine.kind <;> rw [kind] at allowed <;> try exact allowed.elim
    rcases allowed with ⟨address, actsFor, onTopic⟩
    rcases goroutine.eq_outbound kind with ⟨owning, rfl⟩
    rcases sane.mirrors owning rfl with ⟨connection, stored, mirrors⟩
    exact ⟨owning, connection, address, rfl, stored,
      ⟨mirrors.identityKey.symm.trans actsFor.1, mirrors.deviceId.symm.trans actsFor.2⟩,
      onTopic⟩
  · intro ofService
    cases kind : goroutine.kind <;> rw [kind] at allowed <;> try exact allowed.elim
    · cases routine <;> first | exact ofService.elim | cases allowed
    · exact sane.unowned (by rw [kind]; trivial)

/-- The ackers of a connection belong to messages that it was sent. -/
theorem unacked_after {number sequence : Nat} {connection : Connection}
    {brokerMsg : BrokerMessage}
    (stored : state.connections number = some connection)
    (found : (connection.after operation reply).unackedMessages sequence = some brokerMsg) :
    state.Holds brokerMsg ∧ Kind.outbound.Receives library brokerMsg.topic := by
  have sane := sound.threads _ _ present
  have allowed := sane.allowed
  have before := sound.unacked number connection sequence brokerMsg stored
  cases operation <;> try exact before found
  case nextMessage => cases reply <;> exact before found
  case storeAcker sequence' added =>
      rcases of_update_some found with ⟨_, rfl⟩ | ⟨_, earlier⟩
      · cases kind : goroutine.kind <;> rw [kind] at allowed <;> try exact allowed.elim
        rename_i topic
        rcases sane.delivered brokerMsg allowed with ⟨holds, onTopic⟩
        rw [kind] at onTopic
        cases goroutine with
        | routine number owner code =>
            cases code <;> cases kind
            rcases sane.subscribed number owner _ rfl with
              ⟨_, _, address, _, _, _, subscribed⟩
            exact ⟨holds, address, onTopic.trans subscribed⟩
        | _ => cases kind
      · exact before earlier
  case deleteAcker sequence' => exact before (of_update_none found).2

theorem callbacks_after {sequence : Nat} {callback : Callback}
    (found : (state.forwarder.after operation reply).callbacks sequence = some callback) :
    Waiting library state callback := by
  have sane := sound.threads _ _ present
  have allowed := sane.allowed
  have before := sound.callbacks sequence callback
  cases operation <;> try exact before found
  case storeCallback sequence' added =>
      rcases of_update_some found with ⟨_, rfl⟩ | ⟨_, earlier⟩
      · cases kind : goroutine.kind <;> rw [kind] at allowed <;> try exact allowed.elim
        rcases allowed with ⟨handling, decoded, publishesRetries⟩
        rcases sane.delivered _ handling with ⟨holds, onTopic⟩
        rw [kind] at onTopic
        exact ⟨holds, onTopic, decoded, publishesRetries⟩
      · exact before earlier

theorem cached_after {topic : Text} {publisher : Publisher}
    (found : state.publisherCacheAfter operation topic = some publisher) :
    publisher.topic = topic := by
  have allowed := (sound.threads _ _ present).allowed
  cases operation <;> try exact sound.cached topic publisher found
  case cachePublisher topic' added =>
      rcases of_update_some found with ⟨rfl, rfl⟩ | ⟨_, earlier⟩
      · cases kind : goroutine.kind <;> rw [kind] at allowed <;>
          first | exact allowed | exact allowed.elim
      · exact sound.cached topic publisher earlier

include possible

/-- What a goroutine receives is in the broker, and in a topic that it may
receive from. -/
theorem delivered_after {brokerMsg : BrokerMessage}
    (handling : (view.next opts operation reply).delivery = some brokerMsg) :
    state.Holds brokerMsg ∧ goroutine.kind.Receives library brokerMsg.topic := by
  have sane := sound.threads _ _ present
  have allowed := sane.allowed
  have replies := possible.1
  cases operation <;> try exact sane.delivered brokerMsg handling
  case nextMessage | publish => cases reply <;> exact sane.delivered brokerMsg handling
  case findAcker sequence =>
      cases reply with
      | none => exact sane.delivered brokerMsg handling
      | some found =>
          cases handling
          have outbound : goroutine.kind = .outbound := by
            cases kind : goroutine.kind <;> rw [kind] at allowed <;>
              first | rfl | exact allowed.elim
          rcases goroutine.eq_outbound outbound with ⟨number, rfl⟩
          rcases sane.mirrors number rfl with ⟨connection, stored, _⟩
          have connectionOf : state.connectionOf (.outbound number) = some connection := stored
          have found := possible.2
          rw [connectionOf] at found
          simp only [Option.all_some, Connection.mayReply, decide_eq_true_eq] at found
          exact sound.unacked number connection sequence brokerMsg stored found.symm
  case nextDelivery subscriber =>
      cases reply with
      | none => exact sane.delivered brokerMsg handling
      | some found =>
          cases handling
          simp only [State.mayReply, decide_eq_true_eq] at replies
          refine ⟨replies.2, ?_⟩
          rw [replies.1]
          cases kind : goroutine.kind <;> rw [kind] at allowed <;>
            first | exact allowed | exact allowed.elim

theorem sane_self :
    Sane library opts
      (state.after library opts goroutine view (rest reply) rounds operation reply)
      goroutine ⟨rest reply, view.next opts operation reply⟩ := by
  have sane := sound.threads _ _ present
  have grows : state.Extends
      (state.after library opts goroutine view (rest reply) rounds operation reply) :=
    extends_after sound present
  refine ⟨sane.obeys.2 reply (sound.expects sane possible), ?_, ?_,
    sane.subscribed.mono grows, sane.unowned⟩
  · intro brokerMsg handling
    have delivered := delivered_after sound present possible handling
    exact ⟨grows.holds delivered.1, delivered.2⟩
  · rintro number rfl
    rcases sane.mirrors number rfl with ⟨connection, stored, mirrors⟩
    have connectionOf : state.connectionOf (.outbound number) = some connection := stored
    have replies := possible.2
    rw [connectionOf] at replies
    refine ⟨connection.after operation reply, ?_, mirrors.after replies⟩
    simp [State.connections_after, stored, Goroutine.connection]

theorem Sound.after :
    Sound library opts
      (state.after library opts goroutine view (rest reply) rounds operation reply) := by
  have grows : state.Extends
      (state.after library opts goroutine view (rest reply) rounds operation reply) :=
    extends_after sound present
  refine ⟨?_, ?_, ?_, fun _ _ => cached_after sound present, sound.clock⟩
  · intro goroutine' thread present'
    rcases State.threadsAfter_cases present' with
      ⟨rfl, rfl⟩ | ⟨different, present'⟩ | ⟨routine, starts, rfl, rfl⟩
    · exact sane_self sound present possible
    · exact sane_other sound present different present'
    · exact sane_started sound present starts _
  · intro number connection sequence brokerMsg stored found
    rw [State.connections_after] at stored
    rcases Option.map_eq_some_iff.mp stored with ⟨connection', stored', rfl⟩
    have delivered : state.Holds brokerMsg ∧ Kind.outbound.Receives library brokerMsg.topic := by
      split at found
      · exact unacked_after sound present stored' found
      · exact sound.unacked number connection' sequence brokerMsg stored' found
    exact ⟨grows.holds delivered.1, delivered.2⟩
  · intro sequence callback found
    exact (callbacks_after sound present found).mono grows

end Performing

/-! ## Events from outside -/

theorem extends_connect {number : Nat} {nonce : Text} {rounds : Nat}
    (taken : step library opts state (.connect number nonce rounds) = some next) :
    state.Extends next := by
  cases stepCase_of_step taken with
  | connected nonce rounds unused =>
      refine ⟨?_, .refl _, fun _ => id, le_rfl⟩
      intro number' connection stored
      refine ⟨connection, ?_, .refl connection⟩
      have different : number' ≠ number := by
        rintro rfl
        cases unused.symm.trans stored
      exact (Function.update_of_ne different _ _).trans stored

theorem Sound.connect (sound : Sound library opts state) {number : Nat} {nonce : Text}
    {rounds : Nat} (taken : step library opts state (.connect number nonce rounds) = some next) :
    Sound library opts next := by
  have grows := extends_connect taken
  rcases stepCase_of_step taken with ⟨_, _, unused⟩
  refine ⟨?_, ?_, ?_, sound.cached, sound.clock⟩
  · intro goroutine thread present
    rcases of_update_some present with ⟨rfl, rfl⟩ | ⟨_, present⟩
    · refine ⟨sendInitMessages_obeys, by simp [View.initial], by simp, ?_, False.elim⟩
      rintro _ _ _ ⟨⟩
    · rcases of_update_some present with ⟨rfl, rfl⟩ | ⟨_, present⟩
      · refine ⟨handleOutbound_obeys trivial rounds (Or.inl ⟨rfl, rfl⟩), by simp [View.initial],
          ?_, ?_, False.elim⟩
        · rintro _ ⟨⟩
          exact ⟨.initial nonce, Function.update_self .., rfl, rfl, rfl, by simp [View.initial]⟩
        · rintro _ _ _ ⟨⟩
      · apply (sound.threads goroutine thread present).mono grows
        intro number' connection connection' _ stored stored'
        have different : number' ≠ number := by
          rintro rfl
          cases unused.symm.trans stored
        have unchanged := (Function.update_of_ne different _ _).symm.trans stored'
        cases stored.symm.trans unchanged
        exact ⟨rfl, rfl⟩
  · intro number' connection sequence brokerMsg stored found
    simp only [State.setThread, State.setConnection, Function.update_apply] at stored
    split at stored
    · cases stored
      cases found
    · have delivered := sound.unacked number' connection sequence brokerMsg stored found
      exact ⟨grows.holds delivered.1, delivered.2⟩
  · intro sequence callback found
    exact (sound.callbacks sequence callback found).mono grows

section SetConnection

variable {number : Nat} {value : Connection}
  (stored : state.connections number = some connection)
  (grown : connection.Extends value)

include stored grown

theorem extends_setConnection : state.Extends (state.setConnection number value) := by
  refine ⟨?_, .refl _, fun _ => id, le_rfl⟩
  intro number' connection' stored'
  simp only [State.setConnection, Function.update_apply]
  split
  · rename_i same
    subst same
    cases stored.symm.trans stored'
    exact ⟨value, rfl, grown⟩
  · exact ⟨connection', stored', .refl connection'⟩

/-- Nothing changes for the goroutines of a connection but what they share with
its client. -/
theorem Sound.setConnection (sound : Sound library opts state)
    (sameKey : value.identityKey = connection.identityKey)
    (sameDevice : value.deviceId = connection.deviceId)
    (sameAckers : value.unackedMessages = connection.unackedMessages) :
    Sound library opts (state.setConnection number value) := by
  have grows := extends_setConnection stored grown
  refine ⟨?_, ?_, ?_, sound.cached, sound.clock⟩
  · intro goroutine thread present
    apply (sound.threads goroutine thread present).mono grows
    intro number' connection' connection'' _ before after
    simp only [State.setConnection, Function.update_apply] at after
    split at after
    · rename_i same
      subst same
      cases stored.symm.trans before
      cases after
      exact ⟨sameKey, sameDevice⟩
    · cases before.symm.trans after
      exact ⟨rfl, rfl⟩
  · intro number' connection' sequence brokerMsg after found
    simp only [State.setConnection, Function.update_apply] at after
    have delivered : state.Holds brokerMsg ∧ Kind.outbound.Receives library brokerMsg.topic := by
      split at after
      · cases after
        rw [sameAckers] at found
        exact sound.unacked number connection sequence brokerMsg stored found
      · exact sound.unacked number' connection' sequence brokerMsg after found
    exact ⟨grows.holds delivered.1, delivered.2⟩
  · intro sequence callback found
    exact (sound.callbacks sequence callback found).mono grows

end SetConnection

theorem extends_triggerCallbackFor {sequence : Nat} {forwardingErr : Option Failure}
    (taken : triggerCallbackFor library opts state sequence forwardingErr = some next) :
    state.Extends next := by
  rcases Option.map_eq_some_iff.mp taken with ⟨callback, _, rfl⟩
  refine ⟨(State.Extends.refl state).connections, .refl _, ?_, le_rfl⟩
  intro entry member
  dsimp only
  split
  · exact List.mem_cons_of_mem _ member
  · exact member

theorem Sound.triggerCallbackFor (sound : Sound library opts state) {sequence : Nat}
    {forwardingErr : Option Failure}
    (taken : triggerCallbackFor library opts state sequence forwardingErr = some next) :
    Sound library opts next := by
  have grows := extends_triggerCallbackFor taken
  rcases Option.map_eq_some_iff.mp taken with ⟨callback, waits, rfl⟩
  have waiting := sound.callbacks sequence callback waits
  refine ⟨?_, ?_, ?_, sound.cached, sound.clock⟩
  · intro goroutine thread present
    rcases of_update_some present with ⟨rfl, rfl⟩ | ⟨_, present⟩
    · refine ⟨finished_obeys rfl waiting.decoded waiting.publishesRetries ?_, ?_, by simp, ?_,
        fun _ => rfl⟩
      · rintro rfl
        rfl
      · rintro _ ⟨⟩
        exact ⟨grows.holds waiting.holds, waiting.onTopic⟩
      · rintro _ _ _ ⟨⟩
    · apply (sound.threads goroutine thread present).mono grows
      intro number connection connection' _ stored stored'
      cases stored.symm.trans stored'
      exact ⟨rfl, rfl⟩
  · intro number connection sequence brokerMsg stored found
    have delivered := sound.unacked number connection sequence brokerMsg stored found
    exact ⟨grows.holds delivered.1, delivered.2⟩
  · intro sequence' callback' found
    exact (sound.callbacks sequence' callback' (of_update_none found).2).mono grows

theorem extends_tick (state : State) (nanos : Nat) :
    state.Extends { state with clock := state.clock + nanos } :=
  { State.Extends.refl state with clock := Nat.le_add_right _ _ }

theorem Sound.tick (sound : Sound library opts state) (nanos : Nat) :
    Sound library opts { state with clock := state.clock + nanos } where
  threads goroutine thread present :=
    (sound.threads goroutine thread present).mono (extends_tick state nanos) (by
      intro number connection connection' _ stored stored'
      cases stored.symm.trans stored'
      exact ⟨rfl, rfl⟩)
  unacked := sound.unacked
  callbacks sequence callback found :=
    (sound.callbacks sequence callback found).mono (extends_tick state nanos)
  cached := sound.cached
  clock := sound.clock.trans (Nat.le_add_right _ _)

/-! ## Runs -/

theorem Connection.extends_send (msg : Message) :
    connection.Extends { connection with out := connection.out ++ [msg] } where
  nonce := rfl
  identityKey _ := id
  deviceId _ := id
  out _ member := List.mem_append_left _ member
  processed msg' member := by
    simp only [processed, List.take_append]
    exact List.mem_append_left _ member

theorem Connection.extends_close : connection.Extends { connection with closed := true } :=
  ⟨rfl, fun _ => id, fun _ => id, fun _ => id, fun _ => id⟩

theorem Sound.extends (sound : Sound library opts state) {action : Action}
    (taken : step library opts state action = some next) : state.Extends next := by
  cases stepCase_of_step taken with
  | connected => exact extends_connect taken
  | sent msg stored => exact extends_setConnection stored (Connection.extends_send msg)
  | closed stored => exact extends_setConnection stored Connection.extends_close
  | performed reply rounds present => exact extends_after sound present
  | finished => exact extends_triggerCallbackFor taken
  | ticked nanos => exact extends_tick state nanos

theorem Sound.step (sound : Sound library opts state) {action : Action}
    (taken : step library opts state action = some next) : Sound library opts next := by
  cases stepCase_of_step taken with
  | connected => exact sound.connect taken
  | sent msg stored =>
      exact sound.setConnection stored (Connection.extends_send msg) rfl rfl rfl
  | closed stored => exact sound.setConnection stored Connection.extends_close rfl rfl rfl
  | performed reply rounds present possible => exact sound.after present possible
  | finished => exact sound.triggerCallbackFor taken
  | ticked nanos => exact sound.tick nanos

theorem Sound.initial : Sound library opts (.initial opts) where
  threads goroutine thread present := by
    rcases State.threads_initial present with ⟨rfl, rfl⟩
    refine ⟨?_, by simp [View.initial], by simp, ?_, fun _ => rfl⟩
    · exact (Program.obeys_bind _ _).mpr (new_obeys.mono fun _ _ _ => trivial)
    · rintro _ _ _ ⟨⟩
  unacked _ _ _ _ stored := by cases stored
  callbacks _ _ found := by cases found
  cached _ _ found := by cases found
  clock := le_rfl

/-- Along a run, everything is kept. -/
theorem Sound.extends_of_run (sound : Sound library opts state)
    (run : Transition.Run (Service.step library opts) Transition.anyStep state next) :
    Sound library opts next ∧ state.Extends next := by
  apply Transition.Run.preserves run ⟨sound, State.Extends.refl state⟩
  intro current action later _ holds _ taken
  exact ⟨holds.1.step taken, holds.2.trans (holds.1.extends taken)⟩

theorem Sound.of_reaches (reaches : Reaches library opts state) : Sound library opts state :=
  (Sound.initial.extends_of_run reaches).1

/-! ## What a step does to a connection -/

/-- A connection before and after a step. -/
inductive ConnectionStep (state : State) (action : Action) (number : Nat) :
    Option Connection → Connection → Prop
  | connected (nonce : Text) : ConnectionStep state action number none (.initial nonce)
  | kept (connection : Connection) :
      ConnectionStep state action number (some connection) connection
  | sent (connection : Connection) (msg : Message) (sends : action = .send number msg) :
      ConnectionStep state action number (some connection)
        { connection with out := connection.out ++ [msg] }
  | closed (connection : Connection) :
      ConnectionStep state action number (some connection) { connection with closed := true }
  | acted (connection : Connection) {goroutine : Goroutine} {operation : Operation}
      {rest : Reply operation → Task Unit} {view : View} (reply : Reply operation)
      (connected : goroutine.connection = some number)
      (present : state.threads goroutine = some ⟨.call operation rest, view⟩) :
      ConnectionStep state action number (some connection) (connection.after operation reply)

theorem connectionStep_of_step {action : Action}
    (taken : step library opts state action = some next) {number : Nat}
    (stored : next.connections number = some connection) :
    ConnectionStep state action number (state.connections number) connection := by
  cases stepCase_of_step taken with
  | connected nonce rounds unused =>
      rcases of_update_some stored with ⟨rfl, rfl⟩ | ⟨_, stored⟩
      · rw [unused]
        exact .connected nonce
      · rw [stored]
        exact .kept connection
  | sent msg stored' =>
      rcases of_update_some stored with ⟨rfl, rfl⟩ | ⟨_, stored⟩
      · rw [stored']
        exact .sent _ msg rfl
      · rw [stored]
        exact .kept connection
  | closed stored' =>
      rcases of_update_some stored with ⟨rfl, rfl⟩ | ⟨_, stored⟩
      · rw [stored']
        exact .closed _
      · rw [stored]
        exact .kept connection
  | performed reply rounds present =>
      rw [State.connections_after] at stored
      rcases Option.map_eq_some_iff.mp stored with ⟨connection', stored', rfl⟩
      rw [stored']
      split
      · rename_i connected
        exact .acted connection' reply connected present
      · exact .kept connection'
  | finished | ticked =>
      rw [show state.connections number = some connection from stored]
      exact .kept connection

/-! ## What clients receive -/

/-- A message with this data is in the topic of an address that the connection acts
for. -/
def State.Posts (library : Library) (state : State) (connection : Connection) (data : Text) :
    Prop :=
  ∃ address index posting, connection.ActsFor address ∧
    state.topics.posting ⟨topicForAddr library address, index⟩ = some posting ∧
    posting.data = data

/-- Every message that was sent to a client is in one of its topics. -/
def State.Posted (library : Library) (state : State) : Prop :=
  ∀ number connection msg data, state.connections number = some connection →
    msg ∈ connection.inbox → msg.payload = some (.inboundMessage data) →
    state.Posts library connection data

theorem State.Posts.mono {connection later : Connection} {data : Text}
    (holds : state.Posts library connection data) (grows : state.Extends next)
    (extended : connection.Extends later) : next.Posts library later data := by
  rcases holds with ⟨address, index, posting, actsFor, posted, sameData⟩
  rcases grows.topics _ posting posted with ⟨acked, posted⟩
  exact ⟨address, index, _, extended.actsFor actsFor, posted, sameData⟩

/-- A goroutine sends messages from the topic that it has subscribed to. -/
theorem posted_of_send (sound : Sound library opts state) {goroutine : Goroutine}
    {msg : Message} {rest : Unit → Task Unit} {view : View}
    (present : state.threads goroutine = some ⟨.call (.send msg) rest, view⟩) {data : Text}
    (payload : msg.payload = some (.inboundMessage data)) {number : Nat}
    {connection : Connection} (connected : goroutine.connection = some number)
    (stored : state.connections number = some connection) :
    state.Posts library connection data := by
  have sane := sound.threads _ _ present
  have allowed := sane.allowed
  cases kind : goroutine.kind <;> rw [kind] at allowed <;> try exact allowed.elim
  case outbound => exact absurd payload (allowed data)
  case notifying => exact absurd payload (allowed data)
  case inbound topic =>
      rcases allowed with ⟨brokerMsg, handling, onTopic, payload'⟩
      cases payload.symm.trans payload'
      cases goroutine with
      | routine count owner code =>
          cases code <;> cases kind
          rcases sane.subscribed count owner _ rfl with
            ⟨owning, connection', address, owned, stored', actsFor, subscribed⟩
          cases connected.symm.trans owned
          cases stored.symm.trans stored'
          rcases sane.posting handling with ⟨acked, posted⟩
          rw [BrokerMessage.place, onTopic.trans subscribed] at posted
          exact ⟨address, _, _, actsFor, posted, rfl⟩
      | _ => cases kind

theorem State.Posted.step (sound : Sound library opts state) (posted : state.Posted library)
    {action : Action} (taken : step library opts state action = some next) :
    next.Posted library := by
  intro number later msg data stored member payload
  have grows := sound.extends taken
  have changed := connectionStep_of_step taken stored
  generalize found : state.connections number = current at changed
  have held {connection : Connection} (isCurrent : current = some connection)
      (holds : state.Posts library connection data) : next.Posts library later data := by
    rcases grows.connections number connection (found.trans isCurrent) with
      ⟨later', stored', extended⟩
    cases stored.symm.trans stored'
    exact holds.mono grows extended
  have earlier {connection : Connection} (isCurrent : current = some connection)
      (member : msg ∈ connection.inbox) : next.Posts library later data :=
    held isCurrent (posted number connection msg data (found.trans isCurrent) member payload)
  cases changed with
  | connected nonce => cases member
  | kept | sent | closed => exact earlier rfl member
  | @acted connection goroutine operation rest view reply connected present =>
      cases operation <;> try exact earlier rfl member
      case nextMessage => cases reply <;> exact earlier rfl member
      case send added =>
          rcases List.mem_append.mp member with member | member
          · exact earlier rfl member
          · cases List.mem_singleton.mp member
            exact held rfl (posted_of_send sound present payload connected found)

theorem State.Posted.of_reaches (reaches : Reaches library opts state) :
    state.Posted library := by
  have starts : (State.initial opts).Posted library := by
    intro number connection msg data stored
    cases stored
  apply Transition.Run.preserves reaches starts
  intro current action next reached posted _ taken
  exact posted.step (Sound.of_reaches reached) taken

end Tassis.Service
