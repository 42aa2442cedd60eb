import Tassis.Foundation.AckTable
import Tassis.Service.Dispatch
import Tassis.Service.System

/-! # Where the loops of a connection are

The loop over the messages for a client draws a sequence number for each, enters
its acker and sends it. The loop over the client's messages looks up the acker
that an ack names, calls it and deletes it. The positions of both loops in their
code, and what each operation does to them.
-/

namespace Tassis.Service

open Model
open Program (Always only)

/-! ## The loop over the messages for a client -/

inductive Position where
  | waiting (rounds : Nat)
  | drawing (brokerMsg : BrokerMessage) (rounds : Nat)
  | storing (brokerMsg : BrokerMessage) (sequence rounds : Nat)
  | sending (brokerMsg : BrokerMessage) (sequence rounds : Nat)
  | closing
  | closed

namespace Position

/-- The message that tells the client about a broker's message. -/
def message (brokerMsg : BrokerMessage) (sequence : Nat) : Message :=
  ⟨sequence, some (.inboundMessage brokerMsg.data)⟩

/-- The rest of the loop. -/
def program (subscriber : Subscriber) : Position → Task Unit
  | .waiting rounds => handleInbound subscriber rounds
  | .drawing brokerMsg rounds => do
      handleInboundMessage brokerMsg
      handleInbound subscriber rounds
  | .storing brokerMsg sequence rounds => do
      perform (.storeAcker sequence brokerMsg)
      send (message brokerMsg sequence)
      handleInbound subscriber rounds
  | .sending brokerMsg sequence rounds => do
      send (message brokerMsg sequence)
      handleInbound subscriber rounds
  | .closing => perform (.closeSubscriber subscriber)
  | .closed => pure ()

def hand : Position → Hand BrokerMessage
  | .storing brokerMsg sequence _ => .drawn brokerMsg sequence
  | .sending brokerMsg sequence _ => .entered brokerMsg sequence
  | _ => .empty

/-- The broker's message that the loop is working on. -/
def delivery : Position → Option BrokerMessage
  | .drawing brokerMsg _ | .storing brokerMsg _ _ | .sending brokerMsg _ _ => some brokerMsg
  | _ => none

/-- The positions before and after an operation. -/
inductive Step (subscriber : Subscriber) :
    Position → (operation : Operation) → Reply operation → Position → Prop where
  | receive (brokerMsg : BrokerMessage) (rounds : Nat) :
      Step subscriber (.waiting (rounds + 1)) (.nextDelivery subscriber) (some brokerMsg)
        (.drawing brokerMsg rounds)
  | leave (rounds : Nat) :
      Step subscriber (.waiting (rounds + 1)) (.nextDelivery subscriber) none .closing
  | draw (brokerMsg : BrokerMessage) (sequence rounds : Nat) :
      Step subscriber (.drawing brokerMsg rounds) .nextSequence sequence
        (.storing brokerMsg sequence rounds)
  | store (brokerMsg : BrokerMessage) (sequence rounds : Nat) :
      Step subscriber (.storing brokerMsg sequence rounds) (.storeAcker sequence brokerMsg) ()
        (.sending brokerMsg sequence rounds)
  | send (brokerMsg : BrokerMessage) (sequence rounds : Nat) :
      Step subscriber (.sending brokerMsg sequence rounds)
        (.send (message brokerMsg sequence)) () (.waiting rounds)
  | close : Step subscriber .closing (.closeSubscriber subscriber) () .closed

theorem step_of_call {subscriber : Subscriber} {position : Position} {operation : Operation}
    {rest : Reply operation → Task Unit}
    (next : position.program subscriber = .call operation rest) (reply : Reply operation) :
    ∃ position', Step subscriber position operation reply position' ∧
      rest reply = position'.program subscriber := by
  cases position with
  | waiting rounds =>
      cases rounds with
      | zero => cases next
      | succ rounds =>
          cases next
          cases reply with
          | none => exact ⟨_, .leave rounds, rfl⟩
          | some brokerMsg => exact ⟨_, .receive brokerMsg rounds, rfl⟩
  | drawing brokerMsg rounds =>
      cases next
      exact ⟨_, .draw brokerMsg reply rounds, rfl⟩
  | storing brokerMsg sequence rounds =>
      cases next
      exact ⟨_, .store brokerMsg sequence rounds, rfl⟩
  | sending brokerMsg sequence rounds =>
      cases next
      exact ⟨_, .send brokerMsg sequence rounds, rfl⟩
  | closing =>
      cases next
      exact ⟨_, .close, rfl⟩
  | closed => cases next

/-- The goroutine is at this position. -/
def At (subscriber : Subscriber) (position : Position) (thread : Thread) : Prop :=
  thread.program = position.program subscriber ∧
    ∀ brokerMsg, position.delivery = some brokerMsg → thread.view.delivery = some brokerMsg

/-- An operation takes the goroutine from one position to the next. -/
theorem At.step {opts : Opts} {subscriber : Subscriber} {position : Position}
    {operation : Operation} {rest : Reply operation → Task Unit} {view : View}
    (here : position.At subscriber ⟨.call operation rest, view⟩) (reply : Reply operation) :
    ∃ position', Step subscriber position operation reply position' ∧
      position'.At subscriber ⟨rest reply, view.next opts operation reply⟩ := by
  rcases here with ⟨next, handling⟩
  rcases step_of_call next.symm reply with ⟨position', step, rest'⟩
  refine ⟨position', step, rest', ?_⟩
  intro brokerMsg handling'
  cases step with
  | receive received rounds => exact handling'
  | leave rounds => cases handling'
  | draw received sequence rounds => exact handling brokerMsg handling'
  | store received sequence rounds => exact handling brokerMsg handling'
  | send received sequence rounds => cases handling'
  | close => cases handling'

end Position

/-! ## Messages that leave the ackers alone -/

/-- The operation has nothing to do with ackers, sequence numbers or the client's
next message. -/
def Unrelated : Operation → Prop
  | .nextMessage | .nextSequence | .findAcker _ | .storeAcker .. | .deleteAcker _
  | .ack _ => False
  | _ => True

theorem unrelated_of_handles {payload : Option Payload} (notAck : payload ≠ some .ack)
    {operation : Operation} (handles : operation.Handles payload) : Unrelated operation := by
  cases operation <;> trivial

/-- Only an ack of the client has to do with ackers. -/
theorem doHandleOutboundMessage_unrelated (library : Library) (opts : Opts) (msg : Message)
    (notAck : msg.payload ≠ some .ack) :
    Always (only Unrelated) (doHandleOutboundMessage library opts msg) :=
  (doHandleOutboundMessage_handles library opts msg).weaken fun _ => unrelated_of_handles notAck

/-! ## The loop over the client's messages -/

inductive AckStage where
  | waiting (rounds : Nat)
  /-- What is left of a handler that leaves the ackers alone. -/
  | busy (handler : Task Unit) (rounds : Nat)
  | looking (msg : Message) (rounds : Nat)
  | acking (msg : Message) (brokerMsg : BrokerMessage) (rounds : Nat)
  | deleting (msg : Message) (brokerMsg : BrokerMessage) (rounds : Nat)
  | closing
  | closed

namespace AckStage

/-- How the loop goes on after a call of the acker. -/
def afterAck (msg : Message) (rest : Task Unit) : Option Failure → Task Unit
  | some _ => rest
  | none => do
      perform (.deleteAcker msg.sequence)
      rest

/-- How the loop goes on after it has looked for the acker. -/
def afterFind (msg : Message) (rest : Task Unit) : Option BrokerMessage → Task Unit
  | none => rest
  | some brokerMsg => .call (.ack brokerMsg) (afterAck msg rest)

variable (library : Library) (opts : Opts)

/-- The rest of the loop. -/
def program : AckStage → Task Unit
  | .waiting rounds => handleOutbound library opts rounds
  | .busy handler rounds => do
      handler
      handleOutbound library opts rounds
  | .looking msg rounds =>
      .call (.findAcker msg.sequence) (afterFind msg (handleOutbound library opts rounds))
  | .acking msg brokerMsg rounds =>
      .call (.ack brokerMsg) (afterAck msg (handleOutbound library opts rounds))
  | .deleting msg _ rounds => do
      perform (.deleteAcker msg.sequence)
      handleOutbound library opts rounds
  | .closing => perform .close
  | .closed => pure ()

def worker : AckStage → Worker BrokerMessage
  | .looking msg _ => .looking msg.sequence
  | .acking msg brokerMsg _ => .settling brokerMsg msg.sequence
  | .deleting msg brokerMsg _ => .deleting brokerMsg msg.sequence
  | _ => .idle

/-- The ack that is being handled. -/
def ack : AckStage → Option Message
  | .looking msg _ | .acking msg _ _ | .deleting msg _ _ => some msg
  | _ => none

def Valid : AckStage → Prop
  | .busy handler _ => Always (only Unrelated) handler
  | .looking msg _ | .acking msg _ _ | .deleting msg _ _ => msg.payload = some .ack
  | _ => True

/-- The stages before and after an operation. -/
inductive Step : AckStage → (operation : Operation) → Reply operation → AckStage → Prop where
  | unrelated {stage stage' : AckStage} {operation : Operation} {reply : Reply operation}
      (unrelated : Unrelated operation) (idle : stage.ack = none) (idle' : stage'.ack = none) :
      Step stage operation reply stage'
  /-- The connection is closed, or the next message is no ack. -/
  | pass {stage stage' : AckStage} (received : Option Message)
      (notAck : ∀ msg, received = some msg → msg.payload ≠ some .ack) (idle : stage.ack = none)
      (idle' : stage'.ack = none) : Step stage .nextMessage received stage'
  | request {stage : AckStage} (msg : Message) (rounds : Nat) (idle : stage.ack = none) :
      Step stage .nextMessage (some msg) (.looking msg rounds)
  | miss (msg : Message) (rounds : Nat) :
      Step (.looking msg rounds) (.findAcker msg.sequence) none (.waiting rounds)
  | hit (msg : Message) (brokerMsg : BrokerMessage) (rounds : Nat) :
      Step (.looking msg rounds) (.findAcker msg.sequence) (some brokerMsg)
        (.acking msg brokerMsg rounds)
  | fail (msg : Message) (brokerMsg : BrokerMessage) (rounds : Nat) (err : Failure) :
      Step (.acking msg brokerMsg rounds) (.ack brokerMsg) (some err) (.waiting rounds)
  | succeed (msg : Message) (brokerMsg : BrokerMessage) (rounds : Nat) :
      Step (.acking msg brokerMsg rounds) (.ack brokerMsg) none (.deleting msg brokerMsg rounds)
  | delete (msg : Message) (brokerMsg : BrokerMessage) (rounds : Nat) :
      Step (.deleting msg brokerMsg rounds) (.deleteAcker msg.sequence) () (.waiting rounds)

theorem handleACK_bind (msg : Message) (rest : Task Unit) :
    (do
      handleACK msg
      rest) = .call (.findAcker msg.sequence) (afterFind msg rest) := by
  refine congrArg (Program.call _) (funext fun found => ?_)
  cases found with
  | none => rfl
  | some brokerMsg =>
      refine congrArg (Program.call _) (funext fun failed => ?_)
      cases failed with
      | some err => rfl
      | none => rfl

variable {library : Library} {opts : Opts} {operation : Operation}
  {rest : Reply operation → Task Unit}

theorem step_of_waiting {stage : AckStage} {rounds : Nat} (idle : stage.ack = none)
    (next : handleOutbound library opts rounds = .call operation rest)
    (reply : Reply operation) :
    ∃ stage', stage'.Valid ∧ Step stage operation reply stage' ∧
      rest reply = stage'.program library opts := by
  cases rounds with
  | zero => cases next
  | succ rounds =>
      cases next
      cases reply with
      | none =>
          exact ⟨.closing, trivial, .pass none (fun _ none => by cases none) idle rfl, rfl⟩
      | some msg =>
          by_cases isAck : msg.payload = some .ack
          · refine ⟨.looking msg rounds, isAck, .request msg rounds idle, ?_⟩
            rw [program, ← handleACK_bind]
            show (doHandleOutboundMessage library opts msg >>= _) = _
            rw [doHandleOutboundMessage, isAck]
          · exact ⟨.busy (doHandleOutboundMessage library opts msg) rounds,
              doHandleOutboundMessage_unrelated library opts msg isAck,
              .pass (some msg) (fun _ received => Option.some.inj received ▸ isAck) idle rfl,
              rfl⟩

theorem step_of_call {stage : AckStage} (valid : stage.Valid)
    (next : stage.program library opts = .call operation rest) (reply : Reply operation) :
    ∃ stage', stage'.Valid ∧ Step stage operation reply stage' ∧
      rest reply = stage'.program library opts := by
  cases stage with
  | waiting rounds => exact step_of_waiting rfl next reply
  | busy handler rounds =>
      cases handler with
      | done value => exact step_of_waiting rfl next reply
      | call operation' rest' =>
          cases next
          rcases Always.of_call valid with ⟨unrelated, later⟩
          exact ⟨.busy (rest' reply) rounds, later reply, .unrelated unrelated rfl rfl, rfl⟩
      | crash => cases next
      | stopped => cases next
  | looking msg rounds =>
      cases next
      cases reply with
      | none => exact ⟨.waiting rounds, trivial, .miss msg rounds, rfl⟩
      | some brokerMsg =>
          exact ⟨.acking msg brokerMsg rounds, valid, .hit msg brokerMsg rounds, rfl⟩
  | acking msg brokerMsg rounds =>
      cases next
      cases reply with
      | some err => exact ⟨.waiting rounds, trivial, .fail msg brokerMsg rounds err, rfl⟩
      | none =>
          exact ⟨.deleting msg brokerMsg rounds, valid, .succeed msg brokerMsg rounds, rfl⟩
  | deleting msg brokerMsg rounds =>
      cases next
      exact ⟨.waiting rounds, trivial, .delete msg brokerMsg rounds, rfl⟩
  | closing =>
      cases next
      exact ⟨.closed, trivial, .unrelated trivial rfl rfl, rfl⟩
  | closed => cases next

/-- The goroutine is at this stage. -/
def At (library : Library) (opts : Opts) (stage : AckStage) (thread : Thread) : Prop :=
  stage.Valid ∧ thread.program = stage.program library opts ∧
    ∀ msg, stage.ack = some msg → thread.view.message = some msg

theorem worker_of_ack {stage : AckStage} (idle : stage.ack = none) : stage.worker = .idle := by
  cases stage <;> first | rfl | cases idle

/-- An operation takes the goroutine from one stage to the next. -/
theorem At.step {stage : AckStage} {view : View}
    (here : stage.At library opts ⟨.call operation rest, view⟩) (reply : Reply operation) :
    ∃ stage', Step stage operation reply stage' ∧
      stage'.At library opts ⟨rest reply, view.next opts operation reply⟩ := by
  rcases here with ⟨valid, next, handling⟩
  rcases step_of_call valid next.symm reply with ⟨stage', valid', step, rest'⟩
  refine ⟨stage', step, valid', rest', ?_⟩
  intro msg handling'
  cases step with
  | unrelated unrelated idle idle' =>
      rw [idle'] at handling'
      cases handling'
  | pass received notAck idle idle' =>
      rw [idle'] at handling'
      cases handling'
  | request msg rounds idle =>
      cases handling'
      rfl
  | miss msg rounds => cases handling'
  | hit msg brokerMsg rounds => exact handling _ handling'
  | fail msg brokerMsg rounds err => cases handling'
  | succeed msg brokerMsg rounds => exact handling _ handling'
  | delete msg brokerMsg rounds => cases handling'

end AckStage

end Tassis.Service
