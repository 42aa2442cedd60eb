import Mathlib.Data.List.AList
import Tassis.Foundation.Transition
import Tassis.Model.Messages

/-! # The forwarder

The connections of a forwarder to other hosts, one for each host, and the
callbacks of its pending calls, which all connections share. Each connection
has a goroutine that reads the responses of its host. The hosts may send
anything, and a connection may end at any time.
-/

namespace Tassis

namespace Forwarder

open Model (Message Payload Failure OutboundMessage)

abbrev Host := Text

abbrev ConnectionID := Nat

abbrev CallID := Nat

/-- Where the goroutine that reads from a connection stands. -/
inductive Reader where
  /-- In the loop over `In()`. -/
  | ranging
  /-- Before the call of a callback that it has removed. -/
  | calling (call : CallID) (err : Option Failure)
  | done
  deriving DecidableEq, Repr

structure Connection where
  host : Host
  /-- The messages sent so far. -/
  out : List Message
  /-- The responses that have arrived on `In()`. -/
  inbox : List Message
  /-- `In()` has been closed. -/
  closed : Bool
  reader : Reader
  deriving DecidableEq, Repr

def Connection.new (host : Host) : Connection := ⟨host, [], [], false, .ranging⟩

/-- A call of `Forward` that has got a connection. -/
structure Call where
  tassisHost : Host
  connection : ConnectionID
  fullMsg : Message
  deriving DecidableEq, Repr

inductive Event where
  /-- A reader has taken a response off `In()`. -/
  | received (connection : ConnectionID) (msg : Message)
  /-- The callback of a call has been called. -/
  | finished (call : CallID) (err : Option Failure)
  deriving DecidableEq, Repr

end Forwarder

open Forwarder in
structure Forwarder where
  conns : AList fun _ : Host => ConnectionID
  callbacks : AList fun _ : Nat => CallID
  sequence : Nat
  connections : ConnectionID → Option Connection
  calls : CallID → Option Call
  /-- The number of calls so far. -/
  nextCall : CallID
  /-- The calls that have not sent their message yet. -/
  sending : List CallID
  /-- History. -/
  log : List Event

namespace Forwarder

open Model (Message Payload Failure OutboundMessage)

def initial : Forwarder := ⟨∅, ∅, 0, fun _ => none, fun _ => none, 0, [], []⟩

/-! ## Calls of `Forward` -/

def unableToConnect (tassisHost : Host) (err : Text) : Failure :=
  .other ("unable to connect to ".toList ++ (tassisHost ++ (": ".toList ++ err)))

def failDial (forwarder : Forwarder) (tassisHost : Host) (err : Text) : Forwarder :=
  { forwarder with
    nextCall := forwarder.nextCall + 1
    log := forwarder.log ++
      [.finished forwarder.nextCall (some (unableToConnect tassisHost err))] }

def connect (forwarder : Forwarder) (tassisHost : Host) (connection : ConnectionID) :
    Forwarder :=
  { forwarder with
    conns := forwarder.conns.insert tassisHost connection
    connections := Function.update forwarder.connections connection
      (some (.new tassisHost)) }

/-- Store the callback under the next sequence number. -/
def enqueue (forwarder : Forwarder) (msg : OutboundMessage) (tassisHost : Host)
    (connection : ConnectionID) : Forwarder :=
  let sequence := Model.nextSequence forwarder.sequence
  { forwarder with
    callbacks := forwarder.callbacks.insert sequence forwarder.nextCall
    sequence := sequence
    calls := Function.update forwarder.calls forwarder.nextCall
      (some ⟨tassisHost, connection, ⟨sequence, some (.outboundMessage msg)⟩⟩)
    nextCall := forwarder.nextCall + 1
    sending := forwarder.nextCall :: forwarder.sending }

/-- The part of `Forward` under the lock. -/
def forward (forwarder : Forwarder) (msg : OutboundMessage) (tassisHost : Host)
    (dialled : Except Text ConnectionID) : Option Forwarder :=
  match forwarder.conns.lookup tassisHost with
  | some connection => some (forwarder.enqueue msg tassisHost connection)
  | none =>
      match dialled with
      | .error err => some (forwarder.failDial tassisHost err)
      | .ok connection =>
          if forwarder.connections connection = none then
            some ((forwarder.connect tassisHost connection).enqueue msg tassisHost connection)
          else none

/-! ## Readers -/

def setConnection (forwarder : Forwarder) (id : ConnectionID) (connection : Connection) :
    Forwarder :=
  { forwarder with
    connections := Function.update forwarder.connections id (some connection) }

/-- What a response passes to the callback, if it is an ack or an error. -/
def responseOf (msg : Message) : Option (Option Failure) :=
  match msg.payload with
  | some .ack => some none
  | some (.error error) => some (some (.typed error))
  | _ => none

theorem payload_of_response_ack {msg : Message} (response : responseOf msg = some none) :
    msg.payload = some .ack := by
  rw [responseOf] at response
  split at response
  · assumption
  · cases response
  · cases response

theorem payload_of_response_error {msg : Message} {error : Model.Error}
    (response : responseOf msg = some (some (.typed error))) :
    msg.payload = some (.error error) := by
  rw [responseOf] at response
  split at response
  · cases response
  · cases response
    assumption
  · cases response

/-- Remove the callback for the sequence number of a response. -/
def triggerCallbackFor (forwarder : Forwarder) (id : ConnectionID) (connection : Connection)
    (msg : Message) (err : Option Failure) : Forwarder :=
  match forwarder.callbacks.lookup msg.sequence with
  | some call =>
      { forwarder.setConnection id { connection with reader := .calling call err } with
        callbacks := forwarder.callbacks.erase msg.sequence }
  | none => forwarder.setConnection id connection

/-- One iteration of `readFrom`. -/
def readFrom (forwarder : Forwarder) (id : ConnectionID) (connection : Connection)
    (msg : Message) : Forwarder :=
  let forwarder := { forwarder with log := forwarder.log ++ [Event.received id msg] }
  match responseOf msg with
  | some err => forwarder.triggerCallbackFor id connection msg err
  | none => forwarder.setConnection id connection

/-! ## Steps -/

inductive Action where
  /-- The part of `Forward` under the lock, with the result of dialling. -/
  | forward (msg : OutboundMessage) (tassisHost : Host) (dialled : Except Text ConnectionID)
  /-- The `Send` after it. -/
  | send (call : CallID)
  /-- A host sends a message. -/
  | respond (connection : ConnectionID) (msg : Message)
  /-- `In()` of a connection is closed. -/
  | close (connection : ConnectionID)
  | read (connection : ConnectionID)
  | callBack (connection : ConnectionID)
  /-- The loop over `In()` ends. -/
  | exit (connection : ConnectionID)

def step (forwarder : Forwarder) : Action → Option Forwarder
  | .forward msg tassisHost dialled => forwarder.forward msg tassisHost dialled
  | .send call => do
      if call ∈ forwarder.sending then
        let made ← forwarder.calls call
        let connection ← forwarder.connections made.connection
        return { forwarder.setConnection made.connection
            { connection with out := connection.out ++ [made.fullMsg] } with
          sending := forwarder.sending.erase call }
      else none
  | .respond id msg => do
      let connection ← forwarder.connections id
      if connection.closed = false then
        return forwarder.setConnection id { connection with inbox := connection.inbox ++ [msg] }
      else none
  | .close id => do
      let connection ← forwarder.connections id
      return forwarder.setConnection id { connection with closed := true }
  | .read id => do
      let connection ← forwarder.connections id
      match connection.reader, connection.inbox with
      | .ranging, msg :: rest =>
          return forwarder.readFrom id { connection with inbox := rest } msg
      | _, _ => none
  | .callBack id => do
      let connection ← forwarder.connections id
      match connection.reader with
      | .calling call err =>
          return { forwarder.setConnection id { connection with reader := .ranging } with
            log := forwarder.log ++ [.finished call err] }
      | _ => none
  | .exit id => do
      let connection ← forwarder.connections id
      if connection.reader = .ranging ∧ connection.inbox = [] ∧ connection.closed = true then
        return forwarder.setConnection id { connection with reader := .done }
      else none

def Reaches (permitted : Forwarder → Action → Prop) (forwarder : Forwarder) : Prop :=
  Transition.Run step permitted initial forwarder

/-! ## What a step can do -/

inductive Effect (forwarder : Forwarder) : Action → Forwarder → Prop where
  | cached {msg tassisHost dialled connection}
      (found : forwarder.conns.lookup tassisHost = some connection) :
      Effect forwarder (.forward msg tassisHost dialled)
        (forwarder.enqueue msg tassisHost connection)
  | dialFailed {msg tassisHost err} (missing : forwarder.conns.lookup tassisHost = none) :
      Effect forwarder (.forward msg tassisHost (.error err))
        (forwarder.failDial tassisHost err)
  | dialled {msg tassisHost connection}
      (missing : forwarder.conns.lookup tassisHost = none)
      (unused : forwarder.connections connection = none) :
      Effect forwarder (.forward msg tassisHost (.ok connection))
        ((forwarder.connect tassisHost connection).enqueue msg tassisHost connection)
  | sent {call made connection} (isMade : forwarder.calls call = some made)
      (present : forwarder.connections made.connection = some connection) :
      Effect forwarder (.send call)
        { forwarder.setConnection made.connection
            { connection with out := connection.out ++ [made.fullMsg] } with
          sending := forwarder.sending.erase call }
  | responded {id msg connection} (present : forwarder.connections id = some connection) :
      Effect forwarder (.respond id msg)
        (forwarder.setConnection id { connection with inbox := connection.inbox ++ [msg] })
  | closed {id connection} (present : forwarder.connections id = some connection) :
      Effect forwarder (.close id)
        (forwarder.setConnection id { connection with closed := true })
  | read {id connection msg rest} (present : forwarder.connections id = some connection)
      (ranging : connection.reader = .ranging) (buffered : connection.inbox = msg :: rest) :
      Effect forwarder (.read id)
        (forwarder.readFrom id { connection with inbox := rest } msg)
  | calledBack {id connection call err}
      (present : forwarder.connections id = some connection)
      (calling : connection.reader = .calling call err) :
      Effect forwarder (.callBack id)
        { forwarder.setConnection id { connection with reader := .ranging } with
          log := forwarder.log ++ [.finished call err] }
  | exited {id connection} (present : forwarder.connections id = some connection)
      (ranging : connection.reader = .ranging) :
      Effect forwarder (.exit id)
        (forwarder.setConnection id { connection with reader := .done })

variable {forwarder next : Forwarder} {action : Action}

theorem effect_of_step (taken : forwarder.step action = some next) :
    Effect forwarder action next := by
  cases action with
  | forward msg tassisHost dialled =>
      simp only [step, forward] at taken
      split at taken
      · rename_i connection found
        cases taken
        exact .cached found
      · rename_i missing
        cases dialled with
        | error err =>
            cases taken
            exact .dialFailed missing
        | ok connection =>
            rcases Option.ite_none_right_eq_some.mp taken with ⟨unused, equal⟩
            cases equal
            exact .dialled missing unused
  | send call =>
      simp only [step] at taken
      split at taken
      · rcases Option.bind_eq_some_iff.mp taken with ⟨made, isMade, taken⟩
        rcases Option.bind_eq_some_iff.mp taken with ⟨connection, present, taken⟩
        cases taken
        exact .sent isMade present
      · cases taken
  | respond id msg =>
      rcases Option.bind_eq_some_iff.mp taken with ⟨connection, present, taken⟩
      rcases Option.ite_none_right_eq_some.mp taken with ⟨_, equal⟩
      cases equal
      exact .responded present
  | close id =>
      rcases Option.bind_eq_some_iff.mp taken with ⟨connection, present, taken⟩
      cases taken
      exact .closed present
  | read id =>
      rcases Option.bind_eq_some_iff.mp taken with ⟨connection, present, taken⟩
      split at taken
      · rename_i msg rest ranging buffered
        cases taken
        exact .read present ranging buffered
      · cases taken
  | callBack id =>
      rcases Option.bind_eq_some_iff.mp taken with ⟨connection, present, taken⟩
      split at taken
      · rename_i call err calling
        cases taken
        exact .calledBack present calling
      · cases taken
  | exit id =>
      rcases Option.bind_eq_some_iff.mp taken with ⟨connection, present, taken⟩
      rcases Option.ite_none_right_eq_some.mp taken with ⟨condition, equal⟩
      cases equal
      exact .exited present condition.1

end Forwarder

end Tassis
