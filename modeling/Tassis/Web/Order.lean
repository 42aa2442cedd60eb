import Tassis.Service.Deployment
import Tassis.Web.Gateway

/-! # Messages keep their order

Between the user of a client and the service, messages go through four goroutines and
a websocket. None of them reorders or repeats messages, and none of them goes on after
it has lost one.
-/

namespace Tassis.Web

open Model
open Service (Connection Library Opts)

variable {wire : Wire}

/-! ## What the goroutines have in hand -/

def ClientWriter.inHand : ClientWriter → Option Text
  | .writing bytes => some bytes
  | _ => none

def ClientReader.inHand : ClientReader → List Message
  | .delivering msg => [msg]
  | _ => []

def Writer.inHand : Writer → Option Text
  | .writing bytes => some bytes
  | _ => none

def Reader.inHand : Reader → List Message
  | .handing msg => [msg]
  | _ => []

/-! ## The client -/

structure Client.Orderly (wire : Wire) (client : Client) (socket : Socket) : Prop where
  drained : Drained client.sent client.passed client.out (client.writer = .done)
  marshalled : ∀ msg, msg ∈ client.passed → (wire.marshal msg).isSome
  written : Written (client.passed.filterMap wire.marshal) socket.upWritten client.writer.inHand
    (socket.closed = true)
  reads : Drained socket.downWritten client.got socket.down (client.reader = .done)
  delivered : client.delivered ++ client.reader.inHand = client.got.filterMap wire.unmarshal

namespace Client.Orderly

variable {client : Client} {socket : Socket}

theorem initial (wire : Wire) (bufferDepth : Nat) :
    (Client.initial bufferDepth).Orderly wire .initial where
  drained := .empty _
  marshalled msg member := by cases member
  written := .empty _
  reads := .empty _
  delivered := rfl

variable (orderly : client.Orderly wire socket)

include orderly

/-- A step of the server, which may read, write and close the websocket. -/
theorem close : client.Orderly wire socket.close :=
  { orderly with written := orderly.written.close _ rfl }

theorem readUp (rest : List Text) :
    client.Orderly wire { socket with up := rest } :=
  { orderly with }

theorem writeDown (bytes : Text) :
    client.Orderly wire (socket.writeDown bytes) :=
  { orderly with reads := orderly.reads.put bytes }

theorem send (msg : Message) :
    Orderly wire { client with out := client.out ++ [msg], sent := client.sent ++ [msg] }
      socket :=
  { orderly with drained := orderly.drained.put msg }

theorem take {msg : Message} {rest : List Message} {bytes : Text}
    (ranging : client.writer = .ranging) (next : client.out = msg :: rest)
    (marshals : wire.marshal msg = some bytes) :
    Orderly wire { client with
      out := rest, writer := .writing bytes, passed := client.passed ++ [msg] } socket :=
  { orderly with
    drained := by
      have drained := orderly.drained
      rw [next] at drained
      exact drained.take (by simp [ranging])
    marshalled := by
      intro other member
      rcases List.mem_append.mp member with member | member
      · exact orderly.marshalled other member
      · rw [List.mem_singleton.mp member, marshals]
        rfl
    written := by
      have written := orderly.written
      rw [ranging] at written
      rw [filterMap_concat marshals]
      exact written.take bytes }

/-- The message that cannot be marshalled is the last one that `write` takes. -/
theorem takeLast (rest : List Message) (ranging : client.writer = .ranging) :
    Orderly wire { client with out := rest, writer := .done, closing := true } socket :=
  { orderly with
    drained := orderly.drained.stop rest rfl
    written := by
      have written := orderly.written
      rw [ranging] at written
      exact written }

theorem write {bytes : Text} (writing : client.writer = .writing bytes)
    (isOpen : socket.closed = false) :
    Orderly wire { client with writer := .ranging } (socket.writeUp bytes) :=
  { orderly with
    drained := orderly.drained.running (by simp [writing])
    written := by
      have written := orderly.written
      rw [writing] at written
      exact written.write (by simp [isOpen]) }

theorem writeFailed {bytes : Text} (writing : client.writer = .writing bytes) (arrived : Bool) :
    Orderly wire { client with writer := .ranging }
      (Session.afterFailure socket arrived (·.writeUp bytes)) := by
  unfold Session.afterFailure
  split
  · rename_i isOpen
    exact (orderly.write writing (by simpa using (Bool.and_eq_true_iff.mp isOpen).2)).close
  · exact { orderly.close with
      drained := orderly.drained.running (by simp [writing])
      written := orderly.written.close _ rfl }

theorem read {bytes : Text} {rest : List Text} {msg : Message}
    (reading : client.reader = .reading) (next : socket.down = bytes :: rest)
    (unmarshals : wire.unmarshal bytes = some msg) :
    Orderly wire { client with reader := .delivering msg, got := client.got ++ [bytes] }
      { socket with down := rest } :=
  { orderly with
    reads := by
      have reads := orderly.reads
      rw [next] at reads
      exact reads.take (by simp [reading])
    delivered := by
      have delivered := orderly.delivered
      rw [reading] at delivered
      rw [filterMap_concat unmarshals, ← delivered]
      simp [ClientReader.inHand] }

/-- After `read` has returned nothing more is delivered. -/
theorem readLast (rest : List Text) (reading : client.reader = .reading) :
    Orderly wire { client with reader := .done, closing := true } { socket with down := rest } :=
  { orderly with
    reads := orderly.reads.stop rest rfl
    delivered := by
      have delivered := orderly.delivered
      rw [reading] at delivered
      exact delivered }

theorem deliver {msg : Message} (delivering : client.reader = .delivering msg) :
    Orderly wire { client with
      inbound := client.inbound ++ [msg]
      reader := .reading
      delivered := client.delivered ++ [msg] } socket :=
  { orderly with
    reads := orderly.reads.running (by simp [delivering])
    delivered := by
      have delivered := orderly.delivered
      rw [delivering] at delivered
      simpa [ClientReader.inHand] using delivered }

end Client.Orderly

/-! ## The server -/

/-- The connection of the session has received `out` from its client, and has sent
`inbox` to it. -/
structure Session.Serves (wire : Wire) (session : Session) (out inbox : List Message) : Prop where
  reads : Drained session.socket.upWritten session.got session.socket.up (session.reader = .done)
  notForced : forceClose ∉ session.got
  handed : out ++ session.reader.inHand = session.got.filterMap wire.unmarshal
  bounded : session.taken ≤ inbox.length
  written : Written ((inbox.take session.taken).filterMap wire.marshal)
    session.socket.downWritten session.writer.inHand (session.socket.closed = true)

namespace Session.Serves

variable {session : Session} {out inbox : List Message}

theorem initial (wire : Wire) (client : Option Client) (inbox : List Message) :
    (Session.initial client).Serves wire [] inbox where
  reads := .empty _
  notForced := List.not_mem_nil
  handed := rfl
  bounded := Nat.zero_le _
  written := .empty _

variable (serves : session.Serves wire out inbox)

include serves

/-- A step of the client, which may read, write and close the websocket. -/
theorem withClient (client : Client) :
    (session.withClient client).Serves wire out inbox :=
  { serves with }

theorem close : session.close.Serves wire out inbox :=
  { serves with written := serves.written.close _ rfl }

theorem readDown (rest : List Text) :
    (session.withSocket { session.socket with down := rest }).Serves wire out inbox :=
  { serves with }

theorem writeUp (bytes : Text) :
    (session.withSocket (session.socket.writeUp bytes)).Serves wire out inbox :=
  { serves with reads := serves.reads.put bytes }

theorem writeUpFailed (arrived : Bool) (bytes : Text) :
    (session.withSocket (afterFailure session.socket arrived (·.writeUp bytes))).Serves wire out
      inbox := by
  unfold afterFailure
  split
  · exact (serves.writeUp bytes).close
  · exact serves.close

theorem write {bytes : Text} (writing : session.writer = .writing bytes)
    (isOpen : session.socket.closed = false) {writer : Writer} (idle : writer.inHand = none) :
    Serves wire { session with socket := session.socket.writeDown bytes, writer := writer } out
      inbox :=
  { serves with
    written := by
      have written := serves.written
      rw [writing] at written
      rw [idle]
      exact written.write (by simp [isOpen]) }

theorem writeFailed {bytes : Text} (writing : session.writer = .writing bytes) (arrived : Bool) :
    Serves wire { session with
      socket := afterFailure session.socket arrived (·.writeDown bytes)
      writer := .done } out inbox := by
  unfold afterFailure
  split
  · rename_i isOpen
    have isOpen : session.socket.closed = false := by
      simpa using (Bool.and_eq_true_iff.mp isOpen).2
    have idle : Writer.done.inHand = none := rfl
    exact (serves.write writing isOpen idle).close
  · exact { serves.close with written := serves.written.close _ rfl }

theorem stopWriter (selecting : session.writer = .selecting) :
    Serves wire { session with writer := .done } out inbox :=
  { serves with
    written := by
      have written := serves.written
      rw [selecting] at written
      exact written }

theorem readLast (rest : List Text) (reading : session.reader = .reading) :
    Serves wire { session.withSocket { session.socket with up := rest } with reader := .done } out
      inbox :=
  { serves with
    reads := serves.reads.stop rest rfl
    handed := by
      have handed := serves.handed
      rw [reading] at handed
      exact handed }

theorem read {bytes : Text} {rest : List Text} (reading : session.reader = .reading)
    (next : session.socket.up = bytes :: rest) :
    (Session.read wire session bytes rest).Serves wire out inbox := by
  unfold Session.read
  split
  · exact (serves.readLast rest reading).close
  · rename_i notForce
    have reads := serves.reads
    rw [next] at reads
    have running : session.reader ≠ .done := by simp [reading]
    have notForced : forceClose ∉ session.got ++ [bytes] := by
      simp [serves.notForced, Ne.symm notForce]
    have handed := serves.handed
    rw [reading] at handed
    split
    · rename_i msg unmarshals
      refine ⟨reads.take running, notForced, ?_, serves.bounded, serves.written⟩
      change out ++ [msg] = (session.got ++ [bytes]).filterMap wire.unmarshal
      rw [filterMap_concat unmarshals, ← handed]
      simp [Reader.inHand]
    · rename_i invalid
      refine ⟨reads.take running, notForced, ?_, serves.bounded, serves.written⟩
      change out ++ session.reader.inHand = (session.got ++ [bytes]).filterMap wire.unmarshal
      simp [serves.handed, invalid]

/-- The loop of the connection receives the message that the reader holds. -/
theorem hand {msg : Message} (handing : session.reader = .handing msg) :
    Serves wire { session with reader := .reading } (out ++ [msg]) inbox :=
  { serves with
    reads := serves.reads.running (by simp [handing])
    handed := by
      have handed := serves.handed
      rw [handing] at handed
      simpa [Reader.inHand] using handed }

theorem take {msg : Message} (selecting : session.writer = .selecting)
    (waiting : inbox[session.taken]? = some msg) :
    (Gateway.taking wire session msg).Serves wire out inbox := by
  rcases List.getElem?_eq_some_iff.mp waiting with ⟨bound, found⟩
  have longer : inbox.take (session.taken + 1) = inbox.take session.taken ++ [msg] := by
    rw [List.take_add_one, waiting]
    rfl
  have written := serves.written
  unfold Gateway.taking
  split
  · rename_i bytes marshals
    refine ⟨serves.reads, serves.notForced, serves.handed, bound, ?_⟩
    change Written ((inbox.take (session.taken + 1)).filterMap wire.marshal) _ (some bytes) _
    rw [longer, filterMap_concat marshals]
    rw [selecting] at written
    exact written.take bytes
  · rename_i invalid
    refine ⟨serves.reads, serves.notForced, serves.handed, bound, ?_⟩
    change Written ((inbox.take (session.taken + 1)).filterMap wire.marshal) _ _ _
    rw [longer]
    simpa [invalid] using written

/-- The service sends more messages. -/
theorem mono (more : List Message) :
    session.Serves wire out (inbox ++ more) :=
  { serves with
    bounded := by
      rw [List.length_append]
      exact Nat.le_add_right_of_le serves.bounded
    written := by
      rw [List.take_append_of_le_length serves.bounded]
      exact serves.written }

end Session.Serves

/-! ## Sessions -/

structure Session.Orderly (wire : Wire) (session : Session) (out inbox : List Message) : Prop where
  serves : session.Serves wire out inbox
  client : ∀ client, session.client = some client → client.Orderly wire session.socket

namespace Session.Orderly

variable {session next : Session} {out inbox : List Message}

theorem close (orderly : session.Orderly wire out inbox) : session.close.Orderly wire out inbox where
  serves := orderly.serves.close
  client client isClient := (orderly.client client isClient).close

/-- The client and the websocket after a step of the client. -/
theorem of_client (socket : Socket) {client : Client}
    (serves : (session.withSocket socket).Serves wire out inbox)
    (clientOrderly : client.Orderly wire socket) :
    ((session.withClient client).withSocket socket).Orderly wire out inbox where
  serves := serves.withClient client
  client other isClient := by
    cases isClient
    exact clientOrderly

variable (orderly : session.Orderly wire out inbox)

include orderly

theorem withClient {client : Client} (clientOrderly : client.Orderly wire session.socket) :
    (session.withClient client).Orderly wire out inbox :=
  of_client session.socket orderly.serves clientOrderly

theorem clientTake {client : Client} (isClient : session.client = some client) {msg : Message}
    {rest : List Message} (ranging : client.writer = .ranging)
    (waiting : client.out = msg :: rest) :
    (Session.clientTake wire session client msg rest).Orderly wire out inbox := by
  have clientOrderly := orderly.client client isClient
  unfold Session.clientTake
  split
  · rename_i bytes marshals
    exact orderly.withClient (clientOrderly.take ranging waiting marshals)
  · exact orderly.withClient (clientOrderly.takeLast rest ranging)

theorem clientRead {client : Client} (isClient : session.client = some client) {bytes : Text}
    {rest : List Text} (reading : client.reader = .reading)
    (arrived : session.socket.down = bytes :: rest) :
    (Session.clientRead wire session client bytes rest).Orderly wire out inbox := by
  have clientOrderly := orderly.client client isClient
  have serves := orderly.serves.readDown rest
  unfold Session.clientRead
  simp only
  split
  · rename_i msg unmarshals
    exact of_client _ serves (clientOrderly.read reading arrived unmarshals)
  · exact of_client _ serves (clientOrderly.readLast rest reading)

theorem stepClient {client : Client} (isClient : session.client = some client) {action : Action}
    (taken : session.stepClient wire client action = some next) :
    next.Orderly wire out inbox := by
  have clientOrderly := orderly.client client isClient
  cases action <;> simp only [Session.stepClient] at taken
  case send msg =>
      rcases Option.ite_none_right_eq_some.mp taken with ⟨_, taken⟩
      cases taken
      exact orderly.withClient (clientOrderly.send msg)
  case receive =>
      split at taken
      · cases taken
      · cases taken
        exact orderly.withClient { clientOrderly with }
  case closeClient =>
      cases taken
      exact orderly.withClient { clientOrderly with }
  case clientTake =>
      split at taken
      · rename_i msg rest ranging waiting
        cases taken
        exact orderly.clientTake isClient ranging waiting
      · cases taken
  case clientWrite =>
      split at taken
      · rename_i bytes writing
        rcases Option.ite_none_left_eq_some.mp taken with ⟨isOpen, taken⟩
        cases taken
        exact of_client _ (orderly.serves.writeUp bytes)
          (clientOrderly.write writing (by simpa using isOpen))
      · cases taken
  case clientWriteFailed arrived =>
      split at taken
      · rename_i bytes writing
        cases taken
        exact of_client _ (orderly.serves.writeUpFailed arrived bytes)
          (clientOrderly.writeFailed writing arrived)
      · cases taken
  case clientRead =>
      split at taken
      · rename_i bytes rest reading arrived
        cases taken
        exact orderly.clientRead isClient reading arrived
      · cases taken
  case clientReadFailed =>
      split at taken
      · rename_i reading
        cases taken
        exact orderly.close.withClient (clientOrderly.close.readLast session.socket.down reading)
      · cases taken
  case clientDeliver =>
      split at taken
      · rename_i msg delivering
        rcases Option.ite_none_right_eq_some.mp taken with ⟨_, taken⟩
        cases taken
        exact orderly.withClient (clientOrderly.deliver delivering)
      · cases taken
  case clientClose =>
      rcases Option.ite_none_right_eq_some.mp taken with ⟨_, taken⟩
      cases taken
      exact orderly.close
  all_goals cases taken

theorem stepOther (noClient : session.client = none) {action : Action}
    (taken : session.stepOther action = some next) :
    next.Orderly wire out inbox := by
  have ofSocket {socket : Socket} (serves : (session.withSocket socket).Serves wire out inbox) :
      (session.withSocket socket).Orderly wire out inbox :=
    ⟨serves, fun client isClient => by cases noClient.symm.trans isClient⟩
  cases action <;> simp only [Session.stepOther] at taken
  case writeBytes bytes =>
      rcases Option.ite_none_left_eq_some.mp taken with ⟨_, taken⟩
      cases taken
      exact ofSocket (orderly.serves.writeUp bytes)
  case readBytes =>
      split at taken
      · cases taken
      · cases taken
        exact ofSocket (orderly.serves.readDown _)
  all_goals cases taken

omit orderly in
/-- What the client has to do with a read of the server. -/
theorem socket_read (wire : Wire) (session : Session) (bytes : Text) (rest : List Text) :
    (Session.read wire session bytes rest).client = session.client ∧
      ((Session.read wire session bytes rest).socket = { session.socket with up := rest } ∨
        (Session.read wire session bytes rest).socket =
          Socket.close { session.socket with up := rest }) := by
  unfold Session.read
  split
  · exact ⟨rfl, Or.inr rfl⟩
  · split <;> exact ⟨rfl, Or.inl rfl⟩

theorem read {bytes : Text} {rest : List Text} (reading : session.reader = .reading)
    (arrived : session.socket.up = bytes :: rest) :
    (Session.read wire session bytes rest).Orderly wire out inbox where
  serves := orderly.serves.read reading arrived
  client client isClient := by
    rcases socket_read wire session bytes rest with ⟨sameClient, socket⟩
    have clientOrderly := (orderly.client client (sameClient ▸ isClient)).readUp rest
    rcases socket with socket | socket
    · rw [socket]
      exact clientOrderly
    · rw [socket]
      exact clientOrderly.close

theorem step {action : Action} (taken : session.step wire action = some next) :
    next.Orderly wire out inbox := by
  cases action <;> simp only [Session.step] at taken
  case breakOff =>
      cases taken
      exact orderly.close
  case write =>
      split at taken
      · rename_i bytes writing
        rcases Option.ite_none_left_eq_some.mp taken with ⟨isOpen, taken⟩
        cases taken
        exact ⟨orderly.serves.write writing (by simpa using isOpen) rfl,
          fun client isClient => (orderly.client client isClient).writeDown bytes⟩
      · cases taken
  case writeFailed arrived =>
      split at taken
      · rename_i bytes writing
        cases taken
        refine ⟨orderly.serves.writeFailed writing arrived, fun client isClient => ?_⟩
        have clientOrderly := orderly.client client isClient
        change client.Orderly wire (afterFailure session.socket arrived (·.writeDown bytes))
        unfold afterFailure
        split
        · exact (clientOrderly.writeDown bytes).close
        · exact clientOrderly.close
      · cases taken
  case stopWriter =>
      rcases Option.ite_none_right_eq_some.mp taken with ⟨⟨selecting, _⟩, taken⟩
      cases taken
      exact ⟨orderly.serves.stopWriter selecting, orderly.client⟩
  case read =>
      split at taken
      · rename_i bytes rest reading arrived
        cases taken
        exact orderly.read reading arrived
      · cases taken
  case readFailed =>
      split at taken
      · rename_i reading
        cases taken
        exact ⟨(orderly.serves.readLast session.socket.up reading).close, orderly.close.client⟩
      · cases taken
  all_goals
    split at taken
    · rename_i client isClient
      exact orderly.stepClient isClient taken
    · rename_i noClient
      exact orderly.stepOther noClient taken

end Session.Orderly

/-! ## The gateway -/

namespace Gateway

variable {library : Library} {opts : Opts} {gateway next : Gateway}

/-- What is known about a connection from where its handler stands. Until the request
is upgraded, nothing has been received from the client. -/
structure Fits (wire : Wire) (handler : Handler) (connection : Connection) : Prop where
  accepting : handler = .accepting → connection.out = []
  session : ∀ session, handler.session? = some session →
    session.Orderly wire connection.out connection.inbox

structure Orderly (wire : Wire) (library : Library) (opts : Opts) (gateway : Gateway) : Prop where
  reaches : Service.Reaches library opts gateway.service
  active : gateway.activeConnections = gateway.handlers.countP Handler.isServing
  fits : ∀ number connection, gateway.service.connections number = some connection →
    ∃ handler, gateway.handlers[number]? = some handler ∧ Fits wire handler connection

/-! ### Connections in a step of the service -/

/-- The connection has received nothing, and may have sent something. -/
structure Continues (before after : Connection) : Prop where
  out : after.out = before.out
  inbox : ∃ more, after.inbox = before.inbox ++ more

theorem Continues.refl (connection : Connection) : Continues connection connection :=
  ⟨rfl, [], (List.append_nil _).symm⟩

theorem Fits.later {handler : Handler} {before after : Connection}
    (fits : Fits wire handler before) (continues : Continues before after) :
    Fits wire handler after := by
  rcases continues with ⟨sameOut, more, inbox⟩
  refine ⟨fun accepting => sameOut.trans (fits.accepting accepting), ?_⟩
  intro session isSession
  have orderly := fits.session session isSession
  rw [sameOut, inbox]
  exact ⟨orderly.serves.mono more, orderly.client⟩

theorem Fits.of_session {handler : Handler} {session : Session} {connection : Connection}
    (isSession : handler.session? = some session)
    (orderly : session.Orderly wire connection.out connection.inbox) :
    Fits wire handler connection where
  accepting same := by
    subst same
    cases isSession
  session other same := by
    cases isSession.symm.trans same
    exact orderly

theorem continues_after (connection : Connection) (operation : Service.Operation)
    (reply : Service.Reply operation) : Continues connection (connection.after operation reply) := by
  cases operation <;> try exact .refl connection
  case nextMessage => cases reply <;> exact ⟨rfl, [], (List.append_nil _).symm⟩
  case send msg => exact ⟨rfl, [msg], rfl⟩
  all_goals exact ⟨rfl, [], (List.append_nil _).symm⟩

/-- The connections before and after a step in which no message of a client arrives. -/
def AllContinue (before after : Service.State) : Prop :=
  ∀ number connection, after.connections number = some connection →
    ∃ earlier, before.connections number = some earlier ∧ Continues earlier connection

theorem AllContinue.refl (state : Service.State) : AllContinue state state :=
  fun _ connection found => ⟨connection, found, .refl connection⟩

theorem allContinue_of_step {state later : Service.State} {action : Service.Action}
    (taken : Service.step library opts state action = some later)
    (connects : ∀ number nonce rounds, action ≠ .connect number nonce rounds)
    (sends : ∀ number msg, action ≠ .send number msg) : AllContinue state later := by
  cases Service.stepCase_of_step taken with
  | connected => exact absurd rfl (connects _ _ _)
  | sent => exact absurd rfl (sends _ _)
  | closed stored =>
      intro other connection found
      rcases of_update_some found with ⟨rfl, rfl⟩ | ⟨_, found⟩
      · exact ⟨_, stored, rfl, [], (List.append_nil _).symm⟩
      · exact ⟨connection, found, .refl connection⟩
  | performed =>
      intro number connection found
      rw [Service.State.connections_after] at found
      rcases Option.map_eq_some_iff.mp found with ⟨earlier, stored, rfl⟩
      refine ⟨earlier, stored, ?_⟩
      split
      · exact continues_after earlier _ _
      · exact .refl earlier
  | finished | ticked => exact .refl state

namespace Orderly

theorem initial (wire : Wire) (library : Library) (opts : Opts) :
    (Gateway.initial opts).Orderly wire library opts where
  reaches := .refl _
  active := rfl
  fits number connection found := by cases found

variable (orderly : gateway.Orderly wire library opts)

include orderly

/-- The handler of a connection, where it is known. -/
theorem fits_of_present {number : Nat} {handler : Handler}
    (present : gateway.handlers[number]? = some handler) {connection : Connection}
    (stored : gateway.service.connections number = some connection) :
    Fits wire handler connection := by
  rcases orderly.fits number connection stored with ⟨other, present', fits⟩
  cases present.symm.trans present'
  exact fits

/-- The service has moved on. -/
theorem settled {service : Service.State} (reaches : Service.Reaches library opts service)
    (continues : AllContinue gateway.service service) :
    (gateway.withService service).Orderly wire library opts where
  reaches := reaches
  active := orderly.active
  fits number connection stored := by
    rcases continues number connection stored with ⟨earlier, stored', continues⟩
    rcases orderly.fits number earlier stored' with ⟨handler, present, fits⟩
    exact ⟨handler, present, fits.later continues⟩

/-- The number of sessions that are served, after one handler has moved on. -/
theorem active_set {number : Nat} {handler later : Handler}
    (present : gateway.handlers[number]? = some handler) :
    ((gateway.handlers.set number later).countP Handler.isServing : Int) =
      gateway.activeConnections - (if handler.isServing then 1 else 0) +
        (if later.isServing then 1 else 0) := by
  rcases List.getElem?_eq_some_iff.mp present with ⟨bound, found⟩
  rw [List.countP_set bound, found, orderly.active]
  by_cases serving : handler.isServing = true
  · have positive : 0 < gateway.handlers.countP Handler.isServing :=
      List.countP_pos_iff.mpr ⟨handler, List.mem_of_getElem? present, serving⟩
    rw [if_pos serving, if_pos serving]
    push_cast [Nat.cast_sub positive]
    rfl
  · rw [if_neg serving, if_neg serving]
    push_cast
    rfl

/-- One handler has moved on, and nothing but its connection has changed. -/
theorem setHandler {number : Nat}
    {handler : Handler} (present : gateway.handlers[number]? = some handler) (later : Handler)
    {service : Service.State} (reaches : Service.Reaches library opts service)
    (others : ∀ other, other ≠ number →
      service.connections other = gateway.service.connections other)
    (moves : ∀ connection, service.connections number = some connection →
      Fits wire later connection) {active : Int}
    (counts : active = gateway.activeConnections - (if handler.isServing then 1 else 0) +
      (if later.isServing then 1 else 0)) :
    Orderly wire library opts ⟨service, gateway.handlers.set number later, active⟩ where
  reaches := reaches
  active := counts.trans (orderly.active_set present).symm
  fits other connection stored := by
    rcases List.getElem?_eq_some_iff.mp present with ⟨bound, _⟩
    by_cases same : number = other
    · subst same
      exact ⟨later, List.getElem?_set_self bound, moves connection stored⟩
    · rw [others other (Ne.symm same)] at stored
      rcases orderly.fits other connection stored with ⟨handler', present', fits⟩
      exact ⟨handler', by rwa [List.getElem?_set_ne same], fits⟩

/-- The same, when the service has not moved. -/
theorem moved {number : Nat} {handler : Handler}
    (present : gateway.handlers[number]? = some handler) (later : Handler)
    (moves : ∀ connection, Fits wire handler connection →
      gateway.service.connections number = some connection → Fits wire later connection)
    {active : Int}
    (counts : active = gateway.activeConnections - (if handler.isServing then 1 else 0) +
      (if later.isServing then 1 else 0)) :
    Orderly wire library opts ⟨gateway.service, gateway.handlers.set number later, active⟩ :=
  orderly.setHandler present later orderly.reaches (fun _ _ => rfl)
    (fun connection stored => moves connection (orderly.fits_of_present present stored) stored)
    counts

/-- A request has arrived. -/
theorem arrived (handler : Handler) (notServing : handler.isServing = false) :
    Orderly wire library opts
      { gateway with handlers := gateway.handlers ++ [handler] } where
  reaches := orderly.reaches
  active := by simp [orderly.active, List.countP_append, notServing]
  fits number connection stored := by
    rcases orderly.fits number connection stored with ⟨handler', present, fits⟩
    rcases List.getElem?_eq_some_iff.mp present with ⟨bound, _⟩
    exact ⟨handler', by rwa [List.getElem?_append_left bound], fits⟩

/-- The next number has no connection yet. -/
theorem connect {nonce : Text} {rounds : Nat}
    {service : Service.State} (taken : Service.step library opts gateway.service
      (.connect gateway.handlers.length nonce rounds) = some service) :
    Orderly wire library opts
      { gateway with service := service, handlers := gateway.handlers ++ [.accepting] } := by
  have arrived := orderly.arrived .accepting rfl
  refine ⟨orderly.reaches.tail trivial taken, arrived.active, ?_⟩
  intro number connection stored
  cases Service.stepCase_of_step taken with
  | connected =>
      rcases of_update_some stored with ⟨rfl, rfl⟩ | ⟨_, stored⟩
      · refine ⟨.accepting, List.getElem?_concat_length, fun _ => rfl, fun session isSession => ?_⟩
        cases isSession
      · exact arrived.fits number connection stored

theorem hand {number : Nat} {session : Session}
    (serving : gateway.handlers[number]? = some (.serving session)) {msg : Message}
    (handing : session.reader = .handing msg) {sent service : Service.State} {rounds : Nat}
    (sends : Service.step library opts gateway.service (.send number msg) = some sent)
    (receives : Service.step library opts sent
      (.perform (.outbound number) .nextMessage (some msg) rounds) = some service) :
    Orderly wire library opts ((gateway.setHandler number
      (.serving { session with reader := .reading })).withService service) := by
  have reaches := orderly.reaches.tail trivial sends
  have continues := allContinue_of_step receives (by simp) (by simp)
  have handed : Orderly wire library opts ⟨sent, gateway.handlers.set number
      (.serving { session with reader := .reading }), gateway.activeConnections⟩ := by
    rcases Option.map_eq_some_iff.mp sends with ⟨current, stored, rfl⟩
    refine orderly.setHandler serving _ reaches ?_ ?_ (by simp [Handler.isServing])
    · intro other apart
      exact Function.update_of_ne apart _ _
    · intro connection found
      rcases of_update_some found with ⟨_, rfl⟩ | ⟨apart, _⟩
      · have before := (orderly.fits_of_present serving stored).session session rfl
        exact .of_session rfl ⟨before.serves.hand handing, before.client⟩
      · exact absurd rfl apart
  exact handed.settled (reaches.tail trivial receives) continues

theorem accept {number : Nat} (accepting : gateway.handlers[number]? = some .accepting)
    (bufferDepth : Option Nat) :
    Orderly wire library opts { gateway.setHandler number
        (.serving (.initial (bufferDepth.map Client.initial))) with
      activeConnections := gateway.activeConnections + 1 } := by
  refine orderly.moved accepting _ ?_ (by simp [Handler.isServing])
  intro connection fits _
  apply Fits.of_session rfl
  rw [fits.accepting rfl]
  refine ⟨.initial wire _ _, fun client isClient => ?_⟩
  rcases Option.map_eq_some_iff.mp isClient with ⟨depth, _, rfl⟩
  exact .initial wire depth

theorem take {number : Nat} {session : Session}
    (serving : gateway.handlers[number]? = some (.serving session)) {connection : Connection}
    (connected : gateway.service.connections number = some connection)
    (selecting : session.writer = .selecting) {msg : Message}
    (waiting : connection.inbox[session.taken]? = some msg) :
    Orderly wire library opts
      (gateway.setHandler number (.serving (taking wire session msg))) := by
  refine orderly.moved serving _ ?_ (by simp [Handler.isServing])
  intro connection' fits stored
  cases connected.symm.trans stored
  have before := fits.session session rfl
  refine .of_session rfl ⟨before.serves.take selecting waiting, ?_⟩
  have same : (taking wire session msg).client = session.client ∧
      (taking wire session msg).socket = session.socket := by
    unfold taking
    split <;> exact ⟨rfl, rfl⟩
  rw [same.1, same.2]
  exact before.client

theorem step {action : Action} (taken : gateway.step wire library opts action = some next) :
    next.Orderly wire library opts := by
  cases effect_of_step taken with
  | refused status => exact orderly.arrived _ rfl
  | connected connects => exact orderly.connect connects
  | accepted bufferDepth accepting =>
      exact orderly.accept accepting bufferDepth
  | @rejected number service accepting closes =>
      have later := orderly.settled (orderly.reaches.tail trivial closes)
        (allContinue_of_step closes (by simp) (by simp))
      refine later.moved accepting .rejected (fun connection _ _ => ⟨nofun, fun session same => ?_⟩)
        (by simp [Handler.isServing, Gateway.withService, Gateway.setHandler])
      cases same
  | @moved number session later action handler isHandler present moves =>
      have sameCount : (handler later).isServing = (handler session).isServing := by
        rcases isHandler with rfl | rfl <;> rfl
      have isSession (session : Session) : (handler session).session? = some session := by
        rcases isHandler with rfl | rfl <;> rfl
      refine orderly.moved present (handler later) ?_ (by simp [sameCount])
      intro connection fits _
      exact .of_session (isSession later) ((fits.session session (isSession session)).step moves)
  | took serving connected selecting waiting =>
      exact orderly.take serving connected selecting waiting
  | handed serving handing sends receives => exact orderly.hand serving handing sends receives
  | @returned number session service serving writerDone readerDone closes =>
      have later := orderly.settled (orderly.reaches.tail trivial closes)
        (allContinue_of_step closes (by simp) (by simp))
      refine later.moved serving (.returned session.close) ?_
        (by simp [Handler.isServing, Gateway.withService])
      exact fun connection fits _ => .of_session rfl (fits.session session rfl).close
  | settled allowed settles =>
      refine orderly.settled (orderly.reaches.tail trivial settles)
        (allContinue_of_step settles ?_ ?_)
      · rintro number nonce rounds rfl
        cases allowed
      · rintro number msg rfl
        cases allowed

omit orderly in
theorem of_reaches (reaches : gateway.Reaches wire library opts) :
    gateway.Orderly wire library opts :=
  Transition.Run.preserves reaches (initial wire library opts) fun _ _ _ _ orderly _ taken =>
    orderly.step taken

end Orderly

end Gateway

/-! ## From end to end -/

/-- The connection receives what the user of the client has sent. -/
theorem Session.Orderly.out_initial {session : Session} {out inbox : List Message}
    (orderly : session.Orderly wire out inbox) {client : Client}
    (isClient : session.client = some client) : out <+: client.sent := by
  have clientOrderly := orderly.client client isClient
  have allMarshalled : (client.passed.filter fun msg => (wire.marshal msg).isSome) =
      client.passed := List.filter_eq_self.mpr clientOrderly.marshalled
  have read := (orderly.serves.reads.initial.trans clientOrderly.written.initial).filterMap
    wire.unmarshal
  rw [filterMap_of_encoded wire.unmarshal_of_marshal, allMarshalled, ← orderly.serves.handed]
    at read
  exact (List.prefix_append _ _).trans (read.trans clientOrderly.drained.initial)

/-- The user of the client gets what the connection has sent. -/
theorem Session.Orderly.delivered_initial {session : Session} {out inbox : List Message}
    (orderly : session.Orderly wire out inbox) {client : Client}
    (isClient : session.client = some client) :
    client.delivered <+: inbox.filter fun msg => (wire.marshal msg).isSome := by
  have clientOrderly := orderly.client client isClient
  have read := (clientOrderly.reads.initial.trans orderly.serves.written.initial).filterMap
    wire.unmarshal
  rw [filterMap_of_encoded wire.unmarshal_of_marshal, ← clientOrderly.delivered] at read
  exact (List.prefix_append _ _).trans
    (read.trans ((List.take_prefix session.taken inbox).filter _))

namespace Gateway

variable {library : Library} {opts : Opts} {gateway : Gateway}

/-- Behind the web front end a service goes through states that it has without it, and
the sessions that are served are counted. Whatever a client writes, its connection
receives the messages among an initial part of it, none of which asks to be
disconnected. With a `websocketClient`, the connection has received an initial part of
what the user of the client has sent, and the user gets an initial part of those
messages that were sent to the connection and can be marshalled. -/
theorem web_messages_keep_their_order (reaches : gateway.Reaches wire library opts) :
    Service.Reaches library opts gateway.service ∧
      gateway.activeConnections = gateway.handlers.countP Handler.isServing ∧
      ∀ number session connection, gateway.session? number = some session →
        gateway.service.connections number = some connection →
        (∃ read, read <+: session.socket.upWritten ∧ forceClose ∉ read ∧
          connection.out <+: read.filterMap wire.unmarshal) ∧
        ∀ client, session.client = some client →
          connection.out <+: client.sent ∧
          client.delivered <+: connection.inbox.filter fun msg => (wire.marshal msg).isSome := by
  have orderly := Orderly.of_reaches reaches
  refine ⟨orderly.reaches, orderly.active, ?_⟩
  intro number session connection isSession stored
  rcases Option.bind_eq_some_iff.mp isSession with ⟨handler, present, isSession⟩
  have ordered := (orderly.fits_of_present present stored).session session isSession
  refine ⟨⟨session.got, ordered.serves.reads.initial, ordered.serves.notForced, ?_⟩, ?_⟩
  · rw [← ordered.serves.handed]
    exact List.prefix_append _ _
  · intro client isClient
    exact ⟨ordered.out_initial isClient, ordered.delivered_initial isClient⟩

/-- A client with a buffer for one message gets the challenge, and sends an ack for
it. -/
def challengeTrace : List Action :=
  let challenge : Message := ⟨1, some (.authChallenge "nonce".toList)⟩
  [.serveHTTP apiURI (some "nonce".toList) 2, .accept 0 (some 1),
    .service (.perform (.init 0) .authNonce "nonce".toList 0),
    .service (.perform (.init 0) .nextSequence 1 0),
    .service (.perform (.init 0) (.send challenge) () 0),
    .take 0, .session 0 .write, .session 0 .clientRead, .session 0 .clientDeliver,
    .session 0 .receive, .session 0 (.send ⟨1, some .ack⟩), .session 0 .clientTake,
    .session 0 .clientWrite, .session 0 .read, .hand 0 0]

def challengeWire : Wire :=
  tableWire [⟨1, some (.authChallenge "nonce".toList)⟩, ⟨1, some .ack⟩]

theorem web_messages_keep_their_order_challenged :
    ∃ gateway, Reaches challengeWire Service.plainLibrary Service.plainOpts gateway ∧
      gateway.activeConnections = gateway.handlers.countP Handler.isServing ∧
      ∃ session connection client, gateway.session? 0 = some session ∧
        gateway.service.connections 0 = some connection ∧ session.client = some client ∧
        connection.out = [⟨1, some .ack⟩] ∧ connection.out <+: client.sent ∧
        client.delivered = [⟨1, some (.authChallenge "nonce".toList)⟩] ∧
        client.delivered <+:
          connection.inbox.filter fun msg => (challengeWire.marshal msg).isSome := by
  have found : ∃ gateway, Reaches challengeWire Service.plainLibrary Service.plainOpts gateway ∧
      (gateway.service.connections 0).any (fun connection =>
        connection.out = [⟨1, some .ack⟩]) = true ∧
      (gateway.session? 0).any (fun session => session.client.any fun client =>
        client.delivered = [⟨1, some (.authChallenge "nonce".toList)⟩]) = true :=
    Transition.Run.exists_of_execute challengeTrace (by decide +kernel)
  rcases found with ⟨gateway, reaches, hasConnection, hasSession⟩
  rcases (Option.any_eq_true _ _).mp hasConnection with ⟨connection, stored, received⟩
  rcases (Option.any_eq_true _ _).mp hasSession with ⟨session, isSession, hasClient⟩
  rcases (Option.any_eq_true _ _).mp hasClient with ⟨client, isClient, delivered⟩
  rcases web_messages_keep_their_order reaches with ⟨_, active, orderly⟩
  have inOrder := (orderly 0 session connection isSession stored).2 client isClient
  exact ⟨gateway, reaches, active, session, connection, client, isSession, stored, isClient,
    of_decide_eq_true received, inOrder.1, of_decide_eq_true delivered, inOrder.2⟩

end Gateway

end Tassis.Web
