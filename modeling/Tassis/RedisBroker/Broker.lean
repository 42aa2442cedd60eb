import Mathlib.Data.List.AList
import Tassis.RedisBroker.Offset
import Tassis.Foundation.Selection
import Tassis.Foundation.Transition

/-! # The Redis broker

The state shared by the goroutines of one broker process and Redis, and every
step one of them can take. The reader loop, the process loop of each subscriber
and the acknowledgement loop run interleaved; a step that would block is not
enabled.
-/

namespace Tassis.RedisBroker

abbrev Stream := Text

abbrev SubscriberID := Nat

/-- A stream entry, and the message that carries it to a subscriber. -/
structure Message where
  id : MessageID
  data : Text
  deriving DecidableEq, Repr

/-! ## Goroutines -/

/-- Where the process loop of a subscriber stands. -/
inductive ProcessLoop where
  /-- In the first `select`, ready for a batch or the close signal. -/
  | selecting
  /-- Holding `offsetMx`, with this much of the batch still to examine. -/
  | processing (remaining : List Message)
  /-- In the second `select`, after signalling `processedLastBatch`. -/
  | checking
  /-- Returned; `messagesOut` is closed and the lock to deregister is wanted. -/
  | exiting
  | done
  deriving DecidableEq, Repr

structure Subscriber where
  stream : Stream
  offset : Offset
  messagesOut : List Message
  closed : Bool
  loop : ProcessLoop
  /-- History: the offset the subscriber was created with. -/
  startingOffset : Offset
  /-- History: every ID put on `messagesOut`, oldest first. -/
  delivered : List MessageID
  /-- History: every ID taken off `messagesOut`, oldest first. -/
  received : List MessageID
  deriving DecidableEq, Repr

/-- A subscriber as `newSubscriber` creates it. -/
def Subscriber.new (stream : Stream) (startingOffset : Offset) : Subscriber where
  stream := stream
  offset := startingOffset
  messagesOut := []
  closed := false
  loop := .selecting
  startingOffset := startingOffset
  delivered := []
  received := []

/-- The capacity of `messagesOut`. -/
def messagesOutCapacity : Nat := 10

/-- Where the reader loop stands. -/
inductive Reader where
  | idle
  /-- Between `gatherStreamsWithOffsets` and `XREAD`. -/
  | gathered (request : List (Stream × Option Offset))
  /-- Between `XREAD` and taking the lock to dispatch. -/
  | read (results : List (Stream × List Message))
  /-- Holding the lock, with these sends still to make. -/
  | dispatching (work : List (SubscriberID × List Message))
  /-- In the `select` of `send`. -/
  | sending (target : SubscriberID) (msgs : List Message)
      (work : List (SubscriberID × List Message))
  /-- In `send`, waiting for `processedLastBatch`. -/
  | awaiting (target : SubscriberID) (work : List (SubscriberID × List Message))
  deriving DecidableEq, Repr

/-- The reader holds `subscribersMx` for reading. -/
def Reader.locked : Reader → Bool
  | .dispatching _ | .sending _ _ _ | .awaiting _ _ => true
  | _ => false

structure Ack where
  stream : Stream
  offset : MessageID
  deriving DecidableEq, Repr

structure Broker where
  /-- Redis: the entries of each stream, oldest first. -/
  streams : Stream → List Message
  /-- Redis: the greatest ID each stream has assigned. -/
  lastID : Stream → MessageID
  /-- Redis: the value at the offset key of each stream. -/
  offsets : Stream → Option MessageID
  subscribersByStream : AList fun _ : Stream => List SubscriberID
  subscribers : SubscriberID → Option Subscriber
  /-- `NewSubscriber` calls that have read their offset and not yet registered. -/
  joining : SubscriberID → Option (Stream × Offset)
  reader : Reader
  acks : List Ack
  /-- History: the IDs whose acker has been called. -/
  ackCalled : Stream → List MessageID
  /-- History: the IDs that a script execution has acknowledged. -/
  acked : Stream → List MessageID

namespace Broker

def initial : Broker where
  streams := fun _ => []
  lastID := fun _ => MessageID.zero
  offsets := fun _ => none
  subscribersByStream := ∅
  subscribers := fun _ => none
  joining := fun _ => none
  reader := .idle
  acks := []
  ackCalled := fun _ => []
  acked := fun _ => []

/-! ## Subscribing -/

/-- The offset `NewSubscriber` starts from: the stored one, or `minOffset`. -/
def startingOffset (broker : Broker) (stream : Stream) : Offset :=
  match broker.offsets stream with
  | none => .minOffset
  | some id => .message id

/-- The subscribers registered for a stream. -/
def subscribersForStream (broker : Broker) (stream : Stream) : List SubscriberID :=
  (broker.subscribersByStream.lookup stream).getD []

def newSubscriber (broker : Broker) (id : SubscriberID) (stream : Stream)
    (startingOffset : Offset) : Broker :=
  { broker with
    subscribersByStream := broker.subscribersByStream.insert stream
      (id :: broker.subscribersForStream stream)
    subscribers := Function.update broker.subscribers id
      (some (.new stream startingOffset))
    joining := Function.update broker.joining id none }

def setSubscriber (broker : Broker) (id : SubscriberID) (sub : Subscriber) : Broker :=
  { broker with subscribers := Function.update broker.subscribers id (some sub) }

/-- The deferred function of the process loop: the inner entry goes, and the
outer one when it was the last. -/
def deregister (broker : Broker) (id : SubscriberID) (stream : Stream) : Broker :=
  let remaining := (broker.subscribersForStream stream).erase id
  { broker with
    subscribersByStream :=
      if remaining = [] then broker.subscribersByStream.erase stream
      else broker.subscribersByStream.insert stream remaining }

/-! ## Reading -/

def lowestOffset (offsets : List Offset) : Option Offset :=
  selectBy (fun lowest offset => offset.lessThan lowest) offsets

def offsetsOf (broker : Broker) (ids : List SubscriberID) : List Offset :=
  ids.filterMap fun id => (broker.subscribers id).map Subscriber.offset

/-- An order in which iteration may visit the two nested maps. -/
def Arranges (broker : Broker) (order : List (Stream × List SubscriberID)) : Prop :=
  (order.map Prod.fst).Perm broker.subscribersByStream.keys ∧
    ∀ entry, entry ∈ order → entry.2.Perm (broker.subscribersForStream entry.1)

instance (broker : Broker) (order : List (Stream × List SubscriberID)) :
    Decidable (broker.Arranges order) :=
  inferInstanceAs (Decidable (_ ∧ _))

def gatherStreamsWithOffsets (broker : Broker)
    (order : List (Stream × List SubscriberID)) : List (Stream × Option Offset) :=
  order.map fun entry => (entry.1, lowestOffset (broker.offsetsOf entry.2))

/-- The `Count` argument of `XREAD`. -/
def readCount : Nat := 10000

/-- The entries of a stream after an offset, oldest first. -/
def entriesAfter (broker : Broker) (stream : Stream) (offset : Offset) : List Message :=
  ((broker.streams stream).filter fun entry => offset.position < entry.id).take readCount

/-- `XREAD` fails as a whole on an empty offset and leaves out the streams that
have nothing to read. -/
def xread (broker : Broker) (request : List (Stream × Option Offset)) :
    List (Stream × List Message) :=
  if request.any fun entry => entry.2.isNone then []
  else request.filterMap fun entry =>
    match broker.entriesAfter entry.1 (entry.2.getD .minOffset) with
    | [] => none
    | found => some (entry.1, found)

/-- The sends of one dispatch: for each stream read, one to each subscriber
registered at that time, in some order of the inner map. -/
def dispatchWork (results : List (Stream × List Message))
    (order : List (List SubscriberID)) : List (SubscriberID × List Message) :=
  (results.zip order).flatMap fun entry => entry.2.map fun id => (id, entry.1.2)

def ArrangesDispatch (broker : Broker) (results : List (Stream × List Message))
    (order : List (List SubscriberID)) : Prop :=
  order.length = results.length ∧ ∀ entry, entry ∈ results.zip order →
    entry.2.Perm (broker.subscribersForStream entry.1.1)

instance (broker : Broker) (results : List (Stream × List Message))
    (order : List (List SubscriberID)) :
    Decidable (broker.ArrangesDispatch results order) :=
  inferInstanceAs (Decidable (_ ∧ _))

end Broker

/-! ## Processing -/

namespace Subscriber

/-- The message passes the filter: it goes to `messagesOut` and moves the
offset. -/
def deliver (sub : Subscriber) (msg : Message) (rest : List Message) : Subscriber :=
  { sub with
    messagesOut := sub.messagesOut ++ [msg]
    offset := .message msg.id
    loop := .processing rest
    delivered := sub.delivered ++ [msg.id] }

/-- One round of the loop over a batch. It blocks while `messagesOut` is
full. -/
def examine (sub : Subscriber) : Option Subscriber :=
  match sub.loop with
  | .processing (msg :: rest) =>
      if sub.offset.lessThan (.message msg.id) then
        if sub.messagesOut.length < messagesOutCapacity then some (sub.deliver msg rest)
        else none
      else some { sub with loop := .processing rest }
  | _ => none

end Subscriber

/-! ## Acknowledging -/

/-- The ID of a batch that `processAcks` submits for one stream. -/
def highestOffset (ids : List MessageID) : Option MessageID :=
  selectBy (fun highest id => offsetLessThan highest.text id.text) ids

/-- The script on a stored and a submitted ID, giving the stored one. -/
def ackScript (oldOffset : Option MessageID) (newOffset : MessageID) : MessageID :=
  match oldOffset with
  | none => newOffset
  | some oldOffset =>
      if luaReplaces newOffset.text oldOffset.text = some true then newOffset
      else oldOffset

/-- The IDs of a batch that belong to one stream, in the order of arrival. -/
def acksByStream (batch : List Ack) (stream : Stream) : List MessageID :=
  (batch.filter fun ack => ack.stream = stream).map Ack.offset

/-- The stored offset of a stream after its script execution, if there is one. -/
def storedAfter (stored : Option MessageID) (ids : List MessageID) : Option MessageID :=
  match highestOffset ids with
  | none => stored
  | some highest => some (ackScript stored highest)

namespace Broker

/-- Submit a batch. The pipeline may break off, so that only the scripts of
some streams are executed. -/
def executeAcks (broker : Broker) (batch : List Ack) (executed : List Stream) : Broker :=
  { broker with
    offsets := fun stream =>
      if stream ∈ executed then
        storedAfter (broker.offsets stream) (acksByStream batch stream)
      else broker.offsets stream
    acked := fun stream =>
      if stream ∈ executed then broker.acked stream ++ acksByStream batch stream
      else broker.acked stream }

end Broker

/-! ## Steps -/

inductive Action where
  | publish (stream : Stream) (id : MessageID) (data : Text)
  /-- `XTRIM`, by any number of the oldest entries. -/
  | trim (stream : Stream) (count : Nat)
  /-- `NewSubscriber` reads the stored offset. -/
  | readOffset (id : SubscriberID) (stream : Stream)
  /-- `newSubscriber` enters the maps under the write lock. -/
  | register (id : SubscriberID)
  | close (id : SubscriberID)
  | gather (order : List (Stream × List SubscriberID))
  | xread
  | xreadFailed
  | dispatch (order : List (List SubscriberID))
  /-- The reader enters the next `send`, or releases the lock after the last. -/
  | send
  /-- `send` sees the close signal. -/
  | skipClosed
  /-- `send` hands its batch to the process loop. -/
  | handOver
  | examine (id : SubscriberID)
  /-- The process loop signals `processedLastBatch` to the reader. -/
  | processed (id : SubscriberID)
  | recheck (id : SubscriberID)
  /-- The process loop sees the close signal while waiting for a batch. -/
  | stop (id : SubscriberID)
  | deregister (id : SubscriberID)
  /-- A consumer takes a message from `Messages()`. -/
  | receive (id : SubscriberID)
  /-- A consumer calls the acker of a message it has received. -/
  | callAck (id : SubscriberID) (offset : MessageID)
  /-- `processAcks` takes one pending ack and `additional` more. -/
  | processAcks (additional : Nat) (executed : List Stream)
  /-- The process is restarted; Redis keeps its state. -/
  | restart
  deriving DecidableEq, Repr

namespace Broker

/-! ### What the steps change -/

def publish (broker : Broker) (stream : Stream) (id : MessageID) (data : Text) : Broker :=
  { broker with
    streams := Function.update broker.streams stream
      (broker.streams stream ++ [⟨id, data⟩])
    lastID := Function.update broker.lastID stream id }

def trim (broker : Broker) (stream : Stream) (count : Nat) : Broker :=
  { broker with
    streams := Function.update broker.streams stream
      ((broker.streams stream).drop count) }

def readOffset (broker : Broker) (id : SubscriberID) (stream : Stream) : Broker :=
  { broker with
    joining := Function.update broker.joining id
      (some (stream, broker.startingOffset stream)) }

def withReader (broker : Broker) (reader : Reader) : Broker :=
  { broker with reader := reader }

def callAck (broker : Broker) (stream : Stream) (offset : MessageID) : Broker :=
  { broker with
    acks := broker.acks ++ [⟨stream, offset⟩]
    ackCalled := Function.update broker.ackCalled stream
      (broker.ackCalled stream ++ [offset]) }

def processAcks (broker : Broker) (count : Nat) (executed : List Stream) : Broker :=
  { broker.executeAcks (broker.acks.take count) executed with
    acks := broker.acks.drop count }

def restart (broker : Broker) : Broker :=
  { initial with
    streams := broker.streams
    lastID := broker.lastID
    offsets := broker.offsets
    ackCalled := broker.ackCalled
    acked := broker.acked }

/-! ### When the steps are enabled -/

def step (broker : Broker) : Action → Option Broker
  | .publish stream id data =>
      if broker.lastID stream < id then some (broker.publish stream id data) else none
  | .trim stream count => some (broker.trim stream count)
  | .readOffset id stream =>
      if broker.subscribers id = none ∧ broker.joining id = none then
        some (broker.readOffset id stream)
      else none
  | .register id =>
      match broker.joining id with
      | some (stream, startingOffset) =>
          if broker.reader.locked = false then
            some (broker.newSubscriber id stream startingOffset)
          else none
      | none => none
  | .close id =>
      match broker.subscribers id with
      | some sub => some (broker.setSubscriber id { sub with closed := true })
      | none => none
  | .gather order =>
      if broker.reader = .idle ∧ broker.Arranges order then
        some (broker.withReader (.gathered (broker.gatherStreamsWithOffsets order)))
      else none
  | .xread =>
      match broker.reader with
      | .gathered request =>
          match broker.xread request with
          | [] => some (broker.withReader .idle)
          | results => some (broker.withReader (.read results))
      | _ => none
  | .xreadFailed =>
      match broker.reader with
      | .gathered _ => some (broker.withReader .idle)
      | _ => none
  | .dispatch order =>
      match broker.reader with
      | .read results =>
          if broker.ArrangesDispatch results order then
            some (broker.withReader (.dispatching (dispatchWork results order)))
          else none
      | _ => none
  | .send =>
      match broker.reader with
      | .dispatching [] => some (broker.withReader .idle)
      | .dispatching ((target, msgs) :: work) =>
          some (broker.withReader (.sending target msgs work))
      | _ => none
  | .skipClosed =>
      match broker.reader with
      | .sending target _ work =>
          match broker.subscribers target with
          | some sub =>
              if sub.closed = true then some (broker.withReader (.dispatching work))
              else none
          | none => none
      | _ => none
  | .handOver =>
      match broker.reader with
      | .sending target msgs work =>
          match broker.subscribers target with
          | some sub =>
              if sub.loop = .selecting then
                some ((broker.setSubscriber target
                  { sub with loop := .processing msgs }).withReader (.awaiting target work))
              else none
          | none => none
      | _ => none
  | .examine id =>
      match broker.subscribers id with
      | some sub =>
          match sub.examine with
          | some examined => some (broker.setSubscriber id examined)
          | none => none
      | none => none
  | .processed id =>
      match broker.subscribers id, broker.reader with
      | some sub, .awaiting target work =>
          if target = id ∧ sub.loop = .processing [] then
            some ((broker.setSubscriber id
              { sub with loop := .checking }).withReader (.dispatching work))
          else none
      | _, _ => none
  | .recheck id =>
      match broker.subscribers id with
      | some sub =>
          if sub.loop = .checking then
            some (broker.setSubscriber id
              { sub with loop := if sub.closed then .exiting else .selecting })
          else none
      | none => none
  | .stop id =>
      match broker.subscribers id with
      | some sub =>
          if sub.loop = .selecting ∧ sub.closed = true then
            some (broker.setSubscriber id { sub with loop := .exiting })
          else none
      | none => none
  | .deregister id =>
      match broker.subscribers id with
      | some sub =>
          if sub.loop = .exiting ∧ broker.reader.locked = false then
            some ((broker.deregister id sub.stream).setSubscriber id
              { sub with loop := .done })
          else none
      | none => none
  | .receive id =>
      match broker.subscribers id with
      | some sub =>
          match sub.messagesOut with
          | [] => none
          | msg :: rest =>
              some (broker.setSubscriber id
                { sub with messagesOut := rest, received := sub.received ++ [msg.id] })
      | none => none
  | .callAck id offset =>
      match broker.subscribers id with
      | some sub =>
          if offset ∈ sub.received then some (broker.callAck sub.stream offset) else none
      | none => none
  | .processAcks additional executed =>
      if additional < broker.acks.length then
        some (broker.processAcks (additional + 1) executed)
      else none
  | .restart => some broker.restart

/-- The reachable states, under a condition on the steps. -/
def Reaches (permitted : Broker → Action → Prop) (broker : Broker) : Prop :=
  Transition.Run step permitted initial broker

end Broker

end Tassis.RedisBroker
