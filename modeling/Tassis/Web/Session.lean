import Tassis.Foundation.Relay
import Tassis.Model.Messages

/-! # A websocket session

The two ends of a websocket. On the side of the client, `write` and `read` relay
between the websocket and the channels of a `websocketClient`; on the side of the
server, two goroutines of `ServeHTTP` relay between the websocket and the connection
to the service. Any of the reads and writes may fail, which closes the websocket.
-/

namespace Tassis.Web

open Model

/-- The wire format of messages. Not every message can be marshalled, and not all
bytes are a message. -/
structure Wire where
  marshal : Message → Option Text
  unmarshal : Text → Option Message
  unmarshal_of_marshal : ∀ msg bytes, marshal msg = some bytes → unmarshal bytes = some msg

/-- The wire format of a few messages, by their position. -/
def tableWire (table : List Message) : Wire where
  marshal msg :=
    if msg ∈ table then some (List.replicate (table.idxOf msg) '1') else none
  unmarshal bytes := table[bytes.length]?
  unmarshal_of_marshal := by
    intro msg bytes marshals
    rcases Option.ite_none_right_eq_some.mp marshals with ⟨member, marshals⟩
    rw [← Option.some.inj marshals, List.length_replicate]
    exact List.getElem?_idxOf member

/-- The bytes with which a client asks to be disconnected. -/
def forceClose : Text := "forceclose".toList

/-! ## The websocket -/

structure Socket where
  /-- What is on its way to the server. -/
  up : List Text
  /-- What is on its way to the client. -/
  down : List Text
  closed : Bool
  /-- History: everything that was written, in both directions. -/
  upWritten : List Text
  downWritten : List Text
  deriving DecidableEq, Repr

namespace Socket

def initial : Socket := ⟨[], [], false, [], []⟩

def writeUp (socket : Socket) (bytes : Text) : Socket :=
  { socket with up := socket.up ++ [bytes], upWritten := socket.upWritten ++ [bytes] }

def writeDown (socket : Socket) (bytes : Text) : Socket :=
  { socket with down := socket.down ++ [bytes], downWritten := socket.downWritten ++ [bytes] }

def close (socket : Socket) : Socket := { socket with closed := true }

end Socket

/-! ## The client -/

/-- Where `write` stands. -/
inductive ClientWriter where
  /-- In `range client.out`. -/
  | ranging
  /-- In `conn.Write`. -/
  | writing (bytes : Text)
  | done
  deriving DecidableEq, Repr

/-- Where `read` stands. -/
inductive ClientReader where
  /-- In `conn.Read`. -/
  | reading
  /-- In `client.in <- msg`. -/
  | delivering (msg : Message)
  /-- Returned; `client.in` is closed. -/
  | done
  deriving DecidableEq, Repr

structure Client where
  bufferDepth : Nat
  /-- The channel `out`. -/
  out : List Message
  writer : ClientWriter
  /-- The channel `in`. -/
  inbound : List Message
  reader : ClientReader
  /-- `Close` was called. -/
  closing : Bool
  /-- History: everything that was sent with `Send`. -/
  sent : List Message
  /-- History: the messages that `write` has passed to the websocket. -/
  passed : List Message
  /-- History: the bytes that `read` has got from the websocket. -/
  got : List Text
  /-- History: everything that was put on `in`. -/
  delivered : List Message
  deriving DecidableEq, Repr

def Client.initial (bufferDepth : Nat) : Client :=
  ⟨bufferDepth, [], .ranging, [], .reading, false, [], [], [], []⟩

/-- A channel takes another item while its buffer has room, or when somebody takes
the item at once. -/
def hasRoom (bufferDepth : Nat) (buffer : List Message) : Bool :=
  decide (buffer.length < bufferDepth) || buffer.isEmpty

/-! ## The server -/

/-- Where the goroutine that writes to the client stands. -/
inductive Writer where
  | selecting
  /-- In `conn.Write`. -/
  | writing (bytes : Text)
  | done
  deriving DecidableEq, Repr

/-- Where the goroutine that reads from the client stands. -/
inductive Reader where
  /-- In `conn.Read`. -/
  | reading
  /-- In `out <- msg`. -/
  | handing (msg : Message)
  /-- Returned; `stopCh` is closed. -/
  | done
  deriving DecidableEq, Repr

structure Session where
  /-- The client, if it is a `websocketClient`. -/
  client : Option Client
  socket : Socket
  writer : Writer
  reader : Reader
  /-- How many messages of the service the writer has taken. -/
  taken : Nat
  /-- History: the bytes that the reader has got, without a `forceClose`. -/
  got : List Text
  deriving DecidableEq, Repr

namespace Session

def initial (client : Option Client) : Session := ⟨client, .initial, .selecting, .reading, 0, []⟩

inductive Action where
  /-- The user of the client calls `Send`, takes a message from `In` or calls `Close`. -/
  | send (msg : Message)
  | receive
  | closeClient
  /-- `write` takes a message, and its `conn.Write` returns. When that fails, the
  bytes may have arrived all the same. -/
  | clientTake
  | clientWrite
  | clientWriteFailed (arrived : Bool)
  | clientRead
  | clientReadFailed
  | clientDeliver
  /-- The goroutine that `Close` has started closes the websocket. -/
  | clientClose
  /-- A client of another kind writes and reads. -/
  | writeBytes (bytes : Text)
  | readBytes
  /-- The connection breaks, or a ping is not answered. -/
  | breakOff
  /-- The goroutines of the server. -/
  | write
  | writeFailed (arrived : Bool)
  | stopWriter
  | read
  | readFailed
  deriving DecidableEq, Repr

def withClient (session : Session) (client : Client) : Session :=
  { session with client := some client }

def withSocket (session : Session) (socket : Socket) : Session :=
  { session with socket := socket }

def close (session : Session) : Session := session.withSocket session.socket.close

/-- What a failed write leaves behind. -/
def afterFailure (socket : Socket) (arrived : Bool) (write : Socket → Socket) : Socket :=
  (if arrived && !socket.closed then write socket else socket).close

variable (wire : Wire)

/-- `write` takes the next message from `out`. It returns if the message cannot be
marshalled. -/
def clientTake (session : Session) (client : Client) (msg : Message) (rest : List Message) :
    Session :=
  match wire.marshal msg with
  | some bytes =>
      session.withClient { client with
        out := rest
        writer := .writing bytes
        passed := client.passed ++ [msg] }
  | none => session.withClient { client with out := rest, writer := .done, closing := true }

/-- `read` gets bytes from the websocket. It returns if they are no message. -/
def clientRead (session : Session) (client : Client) (bytes : Text) (rest : List Text) : Session :=
  let session := session.withSocket { session.socket with down := rest }
  match wire.unmarshal bytes with
  | some msg =>
      session.withClient { client with
        reader := .delivering msg
        got := client.got ++ [bytes] }
  | none => session.withClient { client with reader := .done, closing := true }

/-- The server gets bytes from the websocket. What is no message is skipped. -/
def read (session : Session) (bytes : Text) (rest : List Text) : Session :=
  let session := session.withSocket { session.socket with up := rest }
  if bytes = forceClose then { session.close with reader := .done }
  else
    let session := { session with got := session.got ++ [bytes] }
    match wire.unmarshal bytes with
    | some msg => { session with reader := .handing msg }
    | none => session

/-- A step of a client that is a `websocketClient`. -/
def stepClient (session : Session) (client : Client) : Action → Option Session
  | .send msg =>
      if hasRoom client.bufferDepth client.out then
        some (session.withClient { client with
          out := client.out ++ [msg]
          sent := client.sent ++ [msg] })
      else none
  | .receive =>
      match client.inbound with
      | [] => none
      | _ :: rest => some (session.withClient { client with inbound := rest })
  | .closeClient => some (session.withClient { client with closing := true })
  | .clientTake =>
      match client.writer, client.out with
      | .ranging, msg :: rest => some (clientTake wire session client msg rest)
      | _, _ => none
  | .clientWrite =>
      match client.writer with
      | .writing bytes =>
          if session.socket.closed then none
          else some ((session.withClient { client with writer := .ranging }).withSocket
            (session.socket.writeUp bytes))
      | _ => none
  | .clientWriteFailed arrived =>
      match client.writer with
      | .writing bytes =>
          some ((session.withClient { client with writer := .ranging }).withSocket
            (afterFailure session.socket arrived (·.writeUp bytes)))
      | _ => none
  | .clientRead =>
      match client.reader, session.socket.down with
      | .reading, bytes :: rest => some (clientRead wire session client bytes rest)
      | _, _ => none
  | .clientReadFailed =>
      match client.reader with
      | .reading =>
          some (session.close.withClient { client with reader := .done, closing := true })
      | _ => none
  | .clientDeliver =>
      match client.reader with
      | .delivering msg =>
          if hasRoom client.bufferDepth client.inbound then
            some (session.withClient { client with
              inbound := client.inbound ++ [msg]
              reader := .reading
              delivered := client.delivered ++ [msg] })
          else none
      | _ => none
  | .clientClose => if client.closing then some session.close else none
  | _ => none

/-- A step of any other client, which reads and writes what it likes. -/
def stepOther (session : Session) : Action → Option Session
  | .writeBytes bytes =>
      if session.socket.closed then none
      else some (session.withSocket (session.socket.writeUp bytes))
  | .readBytes =>
      match session.socket.down with
      | [] => none
      | _ :: rest => some (session.withSocket { session.socket with down := rest })
  | _ => none

def step (session : Session) : Action → Option Session
  | .breakOff => some session.close
  | .write =>
      match session.writer with
      | .writing bytes =>
          if session.socket.closed then none
          else some { session with
            socket := session.socket.writeDown bytes
            writer := .selecting }
      | _ => none
  | .writeFailed arrived =>
      match session.writer with
      | .writing bytes =>
          some { session with
            socket := afterFailure session.socket arrived (·.writeDown bytes)
            writer := .done }
      | _ => none
  | .stopWriter =>
      if session.writer = .selecting ∧ session.reader = .done then
        some { session with writer := .done }
      else none
  | .read =>
      match session.reader, session.socket.up with
      | .reading, bytes :: rest => some (read wire session bytes rest)
      | _, _ => none
  | .readFailed =>
      match session.reader with
      | .reading => some { session.close with reader := .done }
      | _ => none
  | action =>
      match session.client with
      | some client => stepClient wire session client action
      | none => stepOther session action

end Session

end Tassis.Web
