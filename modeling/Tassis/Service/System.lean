import Mathlib.Logic.Function.Basic
import Tassis.Foundation.Transition
import Tassis.Service.Rules

/-! # A service and its goroutines

The state of a service: its client connections, the topics of its broker, its
publisher cache and its forwarder, and for each goroutine the code it has still
to run. A step performs the next operation of one goroutine with one of the
replies that are possible, or is an event from outside: a client connects, sends
or closes, the response to a forwarded message arrives, or time passes.

The database and the presence repository may reply anything. A goroutine that
crashes does nothing any more, and so may the others.
-/

namespace Tassis.Service

open Model

/-! ## Goroutines -/

inductive Goroutine where
  /-- The constructor of the service. -/
  | main
  /-- The loop over the messages of a client. -/
  | outbound (connection : Nat)
  /-- The first messages to a client. -/
  | init (connection : Nat)
  /-- A routine that was started by the operation with this number. -/
  | routine (number : Nat) (connection : Option Nat) (routine : Routine)
  /-- A callback of the forwarder. -/
  | callback (number : Nat)
  deriving DecidableEq, Repr

def Routine.kind : Routine → Kind
  | .handleInbound subscriber => .inbound subscriber.topic
  | .warnPreKeysLowIfNecessary => .notifying
  | .forwardMessages .. => .starting
  | .forwardLoop .. => .forwarding
  | .userTransfers _ => .transferring

namespace Goroutine

def kind : Goroutine → Kind
  | .main => .starting
  | .outbound _ => .outbound
  | .init _ => .notifying
  | .routine _ _ code => code.kind
  | .callback _ => .forwarding

/-- The connection that a goroutine belongs to. -/
def connection : Goroutine → Option Nat
  | .outbound connection | .init connection => some connection
  | .routine _ connection _ => connection
  | .main | .callback _ => none

end Goroutine

/-- The rest of a goroutine's code, and what it has seen so far. -/
structure Thread where
  program : Task Unit
  view : View

/-! ## Connections -/

/-- `out` holds everything that the client has sent, and `inbox` everything that
was sent to the client. -/
structure Connection where
  nonce : Text
  identityKey : Option Text
  deviceId : Option Text
  out : List Message
  /-- How many of the client's messages have been received. -/
  received : Nat
  inbox : List Message
  sequence : Nat
  unackedMessages : Nat → Option BrokerMessage
  closed : Bool

namespace Connection

def initial (nonce : Text) : Connection where
  nonce
  identityKey := none
  deviceId := none
  out := []
  received := 0
  inbox := []
  sequence := 0
  unackedMessages _ := none
  closed := false

/-- The messages that were received so far. -/
def processed (connection : Connection) : List Message :=
  connection.out.take connection.received

def ActsFor (connection : Connection) (address : Address) : Prop :=
  connection.identityKey = some address.identityKey ∧
    connection.deviceId = some address.deviceId

/-- The replies that depend on the connection. When it is closed while there is
another message, the loop over the messages may notice either. -/
def mayReply (connection : Connection) : (operation : Operation) → Reply operation → Bool
  | .authNonce, nonce => nonce = connection.nonce
  | .nextMessage, none => connection.closed
  | .nextMessage, some msg => connection.out[connection.received]? = some msg
  | .loadIdentityKey, identityKey => identityKey = connection.identityKey
  | .loadDeviceId, deviceId => deviceId = connection.deviceId
  | .nextSequence, sequence => sequence = Model.nextSequence connection.sequence
  | .findAcker sequence, found => found = connection.unackedMessages sequence
  | .sleepUnlessClosed _, passed => passed || connection.closed
  | _, _ => true

/-- The connection after an operation of one of its goroutines. -/
def after (connection : Connection) : (operation : Operation) → Reply operation → Connection
  | .nextMessage, some _ => { connection with received := connection.received + 1 }
  | .send msg, _ => { connection with inbox := connection.inbox ++ [msg] }
  | .close, _ => { connection with closed := true }
  | .storeIdentityKey identityKey, _ => { connection with identityKey := some identityKey }
  | .storeDeviceId deviceId, _ => { connection with deviceId := some deviceId }
  | .nextSequence, sequence => { connection with sequence := sequence }
  | .storeAcker sequence brokerMsg, _ =>
      { connection with
        unackedMessages := Function.update connection.unackedMessages sequence (some brokerMsg) }
  | .deleteAcker sequence, _ =>
      { connection with
        unackedMessages := Function.update connection.unackedMessages sequence none }
  | _, _ => connection

end Connection

/-! ## The broker -/

/-- A message of a topic, which stays there after it is acked. -/
structure Posting where
  data : Text
  acked : Bool
  deriving DecidableEq, Repr

/-- Where a message is. -/
structure Place where
  topic : Text
  index : Nat
  deriving DecidableEq, Repr

def BrokerMessage.place (brokerMsg : BrokerMessage) : Place := ⟨brokerMsg.topic, brokerMsg.index⟩

abbrev Topics : Type := Text → List Posting

namespace Topics

def posting (topics : Topics) (place : Place) : Option Posting :=
  (topics place.topic)[place.index]?

def publish (topics : Topics) (topic data : Text) : Topics :=
  Function.update topics topic (topics topic ++ [⟨data, false⟩])

def ack (topics : Topics) (place : Place) : Topics :=
  Function.update topics place.topic
    ((topics place.topic).modify place.index fun posting => { posting with acked := true })

def after (topics : Topics) : (operation : Operation) → Reply operation → Topics
  | .publish publisher data, none => topics.publish publisher.topic data
  | .ack brokerMsg, none => topics.ack brokerMsg.place
  | _, _ => topics

end Topics

/-! ## The forwarder -/

structure Forwarder where
  sequence : Nat
  callbacks : Nat → Option Callback
  /-- Everything that was sent to other hosts. -/
  wire : List (Text × Message)

def Forwarder.after (forwarder : Forwarder) :
    (operation : Operation) → Reply operation → Forwarder
  | .nextForwarderSequence, sequence => { forwarder with sequence := sequence }
  | .storeCallback sequence callback, _ =>
      { forwarder with
        callbacks := Function.update forwarder.callbacks sequence (some callback) }
  | .sendTo tassisHost msg, _ =>
      { forwarder with wire := forwarder.wire ++ [(tassisHost, msg)] }
  | _, _ => forwarder

/-! ## History

What became of the messages that the background goroutines took from a topic.
The history is recorded for the sake of the proofs, and no operation reads it. -/

inductive Fate where
  /-- Published again at this place, after it was marked as failed or without. -/
  | copied (place : Place) (failedAt : Option Int)
  | ackedRemotely
  /-- Acked at this time after it was marked as failed. -/
  | discarded (failedAt : Int) (clock : Nat)
  deriving DecidableEq, Repr

/-- The kinds of goroutines that pass messages on from one topic to another. -/
def Kind.relays : Kind → Bool
  | .forwarding | .transferring => true
  | _ => false

/-- What an operation of a goroutine that is handling a message does to it. -/
def fateOf (view : View) (topics : Topics) (clock : Nat) :
    (operation : Operation) → Reply operation → Option Fate
  | .publish publisher _, none =>
      some (.copied ⟨publisher.topic, (topics publisher.topic).length⟩ view.failedAt)
  | .ack _, none =>
      match view.settlement, view.failedAt with
      | .expired _, some failedAt => some (.discarded failedAt clock)
      | _, _ => none
  | _, _ => none

abbrev History : Type := List (Place × Fate)

def History.after (history : History) (kind : Kind) (view : View) (topics : Topics)
    (clock : Nat) (operation : Operation) (reply : Reply operation) : History :=
  match kind.relays, view.delivery, fateOf view topics clock operation reply with
  | true, some brokerMsg, some fate => (brokerMsg.place, fate) :: history
  | _, _, _ => history

/-! ## The service -/

def nanosPerMilli : Nat := 1000000

structure State where
  threads : Goroutine → Option Thread
  /-- How many operations have been performed. -/
  performed : Nat
  /-- How many callbacks have been called. -/
  called : Nat
  connections : Nat → Option Connection
  topics : Topics
  publisherCache : Text → Option Publisher
  forwarder : Forwarder
  /-- Nanoseconds since the epoch. -/
  clock : Nat
  history : History

namespace State

/-- The service when its constructor is called. -/
def initial (opts : Opts) : State where
  threads := Function.update (fun _ => none) .main
    (some ⟨do let _ ← new opts, .initial []⟩)
  performed := 0
  called := 0
  connections _ := none
  topics _ := []
  publisherCache _ := none
  forwarder := ⟨0, fun _ => none, []⟩
  clock := nanosPerMilli
  history := []

variable (state : State)

def connectionOf (goroutine : Goroutine) : Option Connection :=
  goroutine.connection.bind state.connections

/-- The broker has this message. -/
def Holds (brokerMsg : BrokerMessage) : Prop :=
  (state.topics.posting brokerMsg.place).map Posting.data = some brokerMsg.data

instance (brokerMsg : BrokerMessage) : Decidable (state.Holds brokerMsg) :=
  inferInstanceAs (Decidable (_ = _))

/-- The replies that depend on the state of the service. The broker delivers
messages of a topic in any order and any number of times, and the cache may have
dropped any publisher. -/
def mayReply : (operation : Operation) → Reply operation → Bool
  | .newSubscriber topic, .ok subscriber => subscriber.topic = topic
  | .nextDelivery subscriber, some brokerMsg =>
      brokerMsg.topic = subscriber.topic ∧ state.Holds brokerMsg
  | .newPublisher topic, .ok publisher => publisher.topic = topic
  | .cachedPublisher topic, some publisher => state.publisherCache topic = some publisher
  | .nowUnixMillis, now => now = (state.clock / nanosPerMilli : Nat)
  | .durationSince millis, duration => duration = state.clock - millis * nanosPerMilli
  | .nextForwarderSequence, sequence =>
      sequence = Model.nextSequence state.forwarder.sequence
  | _, _ => true

/-- The replies that are possible. -/
def MayReply (goroutine : Goroutine) (operation : Operation) (reply : Reply operation) : Prop :=
  state.mayReply operation reply = true ∧
    (state.connectionOf goroutine).all (·.mayReply operation reply) = true

instance (goroutine : Goroutine) (operation : Operation) (reply : Reply operation) :
    Decidable (state.MayReply goroutine operation reply) :=
  inferInstanceAs (Decidable (_ ∧ _))

/-- The connections after an operation of a goroutine. -/
def connectionsAfter (goroutine : Goroutine) (operation : Operation)
    (reply : Reply operation) : Nat → Option Connection :=
  match goroutine.connection with
  | none => state.connections
  | some connection =>
      Function.update state.connections connection
        ((state.connections connection).map (·.after operation reply))

def publisherCacheAfter : Operation → Text → Option Publisher
  | .cachePublisher topic publisher => Function.update state.publisherCache topic (some publisher)
  | _ => state.publisherCache

variable (library : Library) (opts : Opts)

/-- The goroutines after an operation of one of them, which may start another. -/
def threadsAfter (goroutine : Goroutine) (thread : Thread) (rounds : Nat) :
    Operation → Goroutine → Option Thread
  | .go routine =>
      Function.update (Function.update state.threads goroutine (some thread))
        (.routine state.performed goroutine.connection routine)
        (some ⟨taskOf library opts routine rounds, .initial []⟩)
  | _ => Function.update state.threads goroutine (some thread)

/-- The service after an operation of a goroutine, which goes on with the rest of
its code. -/
def after (goroutine : Goroutine) (view : View) (rest : Task Unit) (rounds : Nat)
    (operation : Operation) (reply : Reply operation) : State where
  threads := state.threadsAfter library opts goroutine
    ⟨rest, view.next opts operation reply⟩ rounds operation
  performed := state.performed + 1
  called := state.called
  connections := state.connectionsAfter goroutine operation reply
  topics := state.topics.after operation reply
  publisherCache := state.publisherCacheAfter operation
  forwarder := state.forwarder.after operation reply
  clock := state.clock
  history := state.history.after goroutine.kind view state.topics state.clock operation reply

def setThread (goroutine : Goroutine) (thread : Thread) : State :=
  { state with threads := Function.update state.threads goroutine (some thread) }

def setConnection (connection : Nat) (value : Connection) : State :=
  { state with connections := Function.update state.connections connection (some value) }

end State

/-! ## Steps -/

inductive Action where
  /-- A client connects. Its loop is observed for a number of rounds. -/
  | connect (connection : Nat) (nonce : Text) (rounds : Nat)
  /-- A client sends a message. -/
  | send (connection : Nat) (msg : Message)
  /-- A client closes its connection. -/
  | close (connection : Nat)
  /-- A goroutine performs its next operation. If it starts another goroutine,
  that one is observed for a number of rounds. -/
  | perform (goroutine : Goroutine) (operation : Operation) (reply : Reply operation)
      (rounds : Nat)
  /-- The response to a forwarded message arrives. -/
  | finishForward (sequence : Nat) (forwardingErr : Option Failure)
  | tick (nanos : Nat)

variable (library : Library) (opts : Opts)

def connect (state : State) (connection : Nat) (nonce : Text) (rounds : Nat) : Option State :=
  match state.connections connection with
  | some _ => none
  | none =>
      some (((state.setConnection connection (.initial nonce)).setThread (.outbound connection)
        ⟨handleOutbound library opts rounds, .initial nonce⟩).setThread (.init connection)
        ⟨sendInitMessages opts, .initial nonce⟩)

/-- Perform the next operation of a goroutine. -/
def performNext (state : State) (goroutine : Goroutine) (operation : Operation)
    (reply : Reply operation) (rounds : Nat) : Option State :=
  (state.threads goroutine).bind fun thread =>
    (thread.program.resume operation reply).bind fun rest =>
      if state.MayReply goroutine operation reply then
        some (state.after library opts goroutine thread.view rest rounds operation reply)
      else none

/-- What a callback has seen when it is called. -/
def callbackView (callback : Callback) (forwardingErr : Option Failure) : View :=
  { View.initial [] with
    delivery := some callback.brokerMsg
    settlement := if forwardingErr.isNone then .handedOn else .pending }

/-- The forwarder removes a callback and calls it. -/
def triggerCallbackFor (state : State) (sequence : Nat) (forwardingErr : Option Failure) :
    Option State :=
  (state.forwarder.callbacks sequence).map fun callback =>
    { state with
      threads := Function.update state.threads (.callback state.called)
        (some ⟨finished library opts callback forwardingErr,
          callbackView callback forwardingErr⟩)
      called := state.called + 1
      forwarder := { state.forwarder with
        callbacks := Function.update state.forwarder.callbacks sequence none }
      history := if forwardingErr.isNone then
        (callback.brokerMsg.place, .ackedRemotely) :: state.history else state.history }

def step (state : State) : Action → Option State
  | .connect connection nonce rounds => connect library opts state connection nonce rounds
  | .send connection msg =>
      (state.connections connection).map fun current =>
        state.setConnection connection { current with out := current.out ++ [msg] }
  | .close connection =>
      (state.connections connection).map fun current =>
        state.setConnection connection { current with closed := true }
  | .perform goroutine operation reply rounds =>
      performNext library opts state goroutine operation reply rounds
  | .finishForward sequence forwardingErr =>
      triggerCallbackFor library opts state sequence forwardingErr
  | .tick nanos => some { state with clock := state.clock + nanos }

/-- The states of a service in any of its runs. -/
def Reaches (state : State) : Prop :=
  Transition.Run (step library opts) Transition.anyStep (.initial opts) state

/-- This is the next operation of the goroutine. -/
def State.Performs (state : State) (goroutine : Goroutine) (operation : Operation) : Prop :=
  (state.threads goroutine).bind (·.program.operation) = some operation

instance (state : State) (goroutine : Goroutine) (operation : Operation) :
    Decidable (state.Performs goroutine operation) :=
  inferInstanceAs (Decidable (_ = _))

theorem State.Performs.thread {state : State} {goroutine : Goroutine} {operation : Operation}
    (performs : state.Performs goroutine operation) :
    ∃ rest view, state.threads goroutine = some ⟨.call operation rest, view⟩ := by
  rcases Option.bind_eq_some_iff.mp performs with ⟨⟨program, view⟩, present, next⟩
  cases program with
  | call operation rest =>
      cases next
      exact ⟨rest, view, present⟩
  | done => cases next
  | crash => cases next
  | stopped => cases next

/-! ## Runs to compute with -/

/-- A client connects and logs in, until its topic is about to be subscribed to. -/
def loginTrace (number : Nat) (nonce : Text) (address : Address) : List Action :=
  let login := loginMessage (some address) nonce (sign address.identityKey)
  let candidate := Database.candidate (plainLibrary.number address.identityKey) 0
  [.connect number nonce 2, .send number login,
    .perform (.outbound number) .nextMessage (some login) 0,
    .perform (.outbound number) .loadIdentityKey none 0,
    .perform (.outbound number) .authNonce nonce 0,
    .perform (.outbound number) (.storeIdentityKey address.identityKey) () 0,
    .perform (.outbound number) (.storeDeviceId address.deviceId) () 0,
    .perform (.outbound number) .loadIdentityKey (some address.identityKey) 0,
    .perform (.outbound number)
      (.registerChatNumber address.identityKey candidate.1 candidate.2.1)
      (.ok (candidate.1, candidate.2.1)) 0,
    .perform (.outbound number) .loadIdentityKey (some address.identityKey) 0,
    .perform (.outbound number) .loadDeviceId (some address.deviceId) 0]

/-- The topic of an address is subscribed to, after a login. -/
def subscribeTrace (number : Nat) (address : Address) : List Action :=
  let topic := topicForAddr plainLibrary address
  [.perform (.outbound number) (.newSubscriber topic) (.ok ⟨topic⟩) 0,
    .perform (.outbound number) (.go (.handleInbound ⟨topic⟩)) () 2]

/-- A message from a topic is sent to a client. -/
def deliverTrace (goroutine : Goroutine) (brokerMsg : BrokerMessage) (sequence : Nat) :
    List Action :=
  [.perform goroutine (.nextDelivery ⟨brokerMsg.topic⟩) (some brokerMsg) 0,
    .perform goroutine .nextSequence sequence 0,
    .perform goroutine (.storeAcker sequence brokerMsg) () 0,
    .perform goroutine (.send ⟨sequence, some (.inboundMessage brokerMsg.data)⟩) () 0]

/-- The message of an anonymous client is published. -/
def publishTrace (number : Nat) (outboundMessage : OutboundMessage) (tassisHost topic data : Text) :
    List Action :=
  let sent : Message := ⟨1, some (.outboundMessage outboundMessage)⟩
  [.perform (.outbound number) .nextMessage (some sent) 0,
    .perform (.outbound number) .loadIdentityKey none 0,
    .perform (.outbound number) (.find outboundMessage.toAddress) (.ok tassisHost) 0,
    .perform (.outbound number) (.cachedPublisher topic) none 0,
    .perform (.outbound number) (.newPublisher topic) (.ok ⟨topic⟩) 0,
    .perform (.outbound number) (.cachePublisher topic ⟨topic⟩) () 0,
    .perform (.outbound number) (.publish ⟨topic⟩ data) none 0]

/-- A service starts to forward messages. -/
def forwardingTrace : List Action :=
  let subscriber : Subscriber := ⟨forwardingTopic⟩
  let retryPublisher : Publisher := ⟨forwardingRetryTopic⟩
  [.perform .main (.newSubscriber forwardingTopic) (.ok subscriber) 0,
    .perform .main (.newSubscriber forwardingRetryTopic) (.ok ⟨forwardingRetryTopic⟩) 0,
    .perform .main (.cachedPublisher forwardingRetryTopic) none 0,
    .perform .main (.newPublisher forwardingRetryTopic) (.ok retryPublisher) 0,
    .perform .main (.cachePublisher forwardingRetryTopic retryPublisher) () 0,
    .perform .main (.go (.forwardMessages subscriber retryPublisher)) () 0,
    .perform (.routine 5 none (.forwardMessages subscriber retryPublisher))
      (.go (.forwardLoop subscriber retryPublisher)) () 2]

/-- The loop that is started by `forwardingTrace`. -/
def firstForwardLoop : Goroutine :=
  .routine 6 none (.forwardLoop ⟨forwardingTopic⟩ ⟨forwardingRetryTopic⟩)

end Tassis.Service
