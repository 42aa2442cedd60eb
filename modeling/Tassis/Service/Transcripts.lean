import Tassis.Service.Dispatch
import Tassis.Service.Rules

/-! # How acks to a client are earned

The loop over a client's messages acks a registration, a removal or a message to be
sent. Rules over what the loop has done since it received a message say that it acks
the message once at most, and only after the operation has succeeded that the message
asks for.
-/

namespace Tassis.Service

open Model
open Program (Always Obeys obeys_bind obeys_perform obeys_pure only)

/-! ## Transcripts -/

/-- The message asks for this data to be sent, and the topic is that of its recipient
or the one for messages to other hosts. -/
def GoesTo (library : Library) (msg : Message) (topic data : Text) : Prop :=
  ∃ outboundMessage address, Sends msg outboundMessage address ∧
    (topic = topicForAddr library address ∧ data = outboundMessage.unidentifiedSenderMessage ∨
      topic = forwardingTopic ∧ library.marshal ⟨some outboundMessage, 0, 0⟩ = .ok data)

/-- The operation, with this reply, does what the message asks for. -/
def Fulfils (library : Library) (msg : Message) :
    (operation : Operation) → Reply operation → Prop
  | .publish publisher data, none => GoesTo library msg publisher.topic data
  | .register _ _ registration, none => msg.payload = some (.register registration)
  | .unregister .., none => msg.payload = some .unregister
  | _, _ => False

/-- An operation and the reply to it. -/
abbrev Exchange : Type := Sigma Reply

/-- What a message to a device asks for is to be published. -/
theorem Fulfils.publishes {library : Library} {msg : Message} {operation : Operation}
    {reply : Reply operation} (fulfils : Fulfils library msg operation reply)
    {outboundMessage : OutboundMessage}
    (payload : msg.payload = some (.outboundMessage outboundMessage)) :
    ∃ publisher data, (⟨operation, reply⟩ : Exchange) = ⟨.publish publisher data, none⟩ ∧
      GoesTo library msg publisher.topic data := by
  cases operation <;> try exact fulfils.elim
  case publish publisher data =>
      cases reply with
      | some err => exact fulfils.elim
      | none => exact ⟨publisher, data, rfl, fulfils⟩
  case register identityKey deviceId registration =>
      cases reply with
      | some err => exact fulfils.elim
      | none => cases payload.symm.trans fulfils
  case unregister identityKey deviceId =>
      cases reply with
      | some err => exact fulfils.elim
      | none => cases payload.symm.trans fulfils

/-- What the loop over a client's messages has done since it received the message
that it is handling. -/
structure Transcript where
  message : Option Message
  performed : List Exchange

namespace Transcript

def next (transcript : Transcript) : (operation : Operation) → Reply operation → Transcript
  | .nextMessage, some msg => ⟨some msg, []⟩
  | operation, reply => { transcript with performed := ⟨operation, reply⟩ :: transcript.performed }

def Unanswered (transcript : Transcript) : Prop :=
  ∀ msg, (⟨.send msg, ()⟩ : Exchange) ∈ transcript.performed → ¬IsAck msg

/-- The message in hand may be acked like this. -/
def MayAck (library : Library) (transcript : Transcript) (answer : Message) : Prop :=
  transcript.Unanswered ∧ ∃ msg, transcript.message = some msg ∧
    answer.sequence = msg.sequence ∧ ∃ exchange, exchange ∈ transcript.performed ∧
      Fulfils library msg exchange.1 exchange.2

/-- The publishers that the loop gets are for the topics that it asks for. -/
def Expects : (operation : Operation) → Reply operation → Prop
  | .newPublisher topic, result => ∀ publisher, result = .ok publisher → publisher.topic = topic
  | .cachedPublisher topic, result =>
      ∀ publisher, result = some publisher → publisher.topic = topic
  | _, _ => True

def Allows (library : Library) (transcript : Transcript) : Operation → Prop
  | .send answer => IsAck answer → transcript.MayAck library answer
  | _ => True

def rules (library : Library) : Program.Rules Operation Reply Transcript where
  replies _ := Expects
  next := next
  allows := Allows library
  mayCrash _ := True

variable {library : Library} {transcript : Transcript} {operation : Operation}

theorem next_of_ne (other : operation ≠ .nextMessage) (reply : Reply operation) :
    transcript.next operation reply =
      { transcript with performed := ⟨operation, reply⟩ :: transcript.performed } := by
  cases operation <;> try rfl
  case nextMessage => exact absurd rfl other

theorem Unanswered.next (unanswered : transcript.Unanswered)
    (quiet : ∀ answer, operation = .send answer → ¬IsAck answer) (reply : Reply operation) :
    (transcript.next operation reply).Unanswered := by
  by_cases received : operation = .nextMessage
  · subst received
    cases reply with
    | none =>
        intro answer member
        rcases List.mem_cons.mp member with equal | member
        · cases equal
        · exact unanswered answer member
    | some msg =>
        intro answer member
        cases member
  · rw [next_of_ne received]
    intro answer member
    rcases List.mem_cons.mp member with equal | member
    · cases equal
      exact quiet answer rfl
    · exact unanswered answer member

end Transcript

/-! ## Handlers that send no ack -/

section Quiet

variable (opts : Opts) (msg : Message)

theorem error_quiet (err : Failure) : Always (only Operation.Quiet) (error msg err) :=
  error_only msg (fun _ => id) err

theorem notify_quiet {payload : Payload} (other : payload ≠ .ack) :
    Always (only Operation.Quiet) (notify payload) := by
  have different (sequence : Nat) : ¬IsAck ⟨sequence, some payload⟩ := by
    simpa [IsAck] using other
  exact fun _ => ⟨trivial, fun sequence _ => ⟨different sequence, fun _ _ => trivial⟩⟩

theorem sendInitMessages_quiet : Always (only Operation.Quiet) (sendInitMessages opts) := by
  refine Always.bind (Always.perform fun _ => trivial) ?_
  intro nonce
  apply (notify_quiet (by simp)).bind
  exact fun _ => notify_quiet (by simp)

theorem warnPreKeysLow_quiet (numPreKeys : Except Failure Nat) :
    Always (only Operation.Quiet) (warnPreKeysLow opts numPreKeys) := by
  cases numPreKeys with
  | error err => exact Always.pure _
  | ok numPreKeys =>
      rw [warnPreKeysLow]
      split
      · exact notify_quiet (by simp)
      · exact Always.pure _

theorem warnPreKeysLowIfNecessary_quiet (rounds : Nat) :
    Always (only Operation.Quiet) (warnPreKeysLowIfNecessary opts rounds) := by
  induction rounds with
  | zero => exact fun _ => trivial
  | succ rounds induction =>
      apply (getIdentityKey_only trivial).bind
      intro identityKey
      apply (getDeviceId_only trivial).bind
      intro deviceId
      refine Always.bind (Always.perform fun _ => trivial) ?_
      intro numPreKeys
      apply (warnPreKeysLow_quiet opts numPreKeys).bind
      intro _
      refine Always.bind (Always.perform fun _ => trivial) ?_
      intro passed
      split
      · exact induction
      · exact Always.pure _

end Quiet

/-! ## Handlers that send an ack -/

section Acking

variable {library : Library} {opts : Opts} {msg : Message} {transcript : Transcript}

/-- The message is in hand and not answered. -/
structure Transcript.Handles (transcript : Transcript) (msg : Message) : Prop where
  message : transcript.message = some msg
  unanswered : transcript.Unanswered

open Transcript (Handles)

theorem Transcript.Handles.next (handles : transcript.Handles msg) {operation : Operation}
    (quiet : operation.Quiet) (reply : Reply operation) :
    (transcript.next operation reply).Handles msg where
  message := by
    have other : operation ≠ .nextMessage := by
      rintro rfl
      exact quiet
    rw [next_of_ne other]
    exact handles.message
  unanswered := by
    apply handles.unanswered.next
    rintro answer rfl
    exact quiet

/-- A quiet piece of a handler leaves the message in hand. -/
theorem handles_of_quiet {α : Type} {program : Task α}
    (quiet : Always (only Operation.Quiet) program) (handles : transcript.Handles msg) :
    Obeys (Transcript.rules library) (fun later _ => later.Handles msg) program transcript := by
  refine quiet.carries ?_ (fun _ => trivial) handles
  intro later operation handles quiet
  refine ⟨?_, fun reply _ => handles.next quiet reply⟩
  cases operation <;> try trivial
  case send answer => exact fun isAck => absurd isAck quiet

theorem obeys_of_quiet {program : Task Unit} (quiet : Always (only Operation.Quiet) program)
    (handles : transcript.Handles msg) :
    Obeys (Transcript.rules library) (fun _ _ => True) program transcript :=
  (handles_of_quiet quiet handles).mono fun _ _ _ => trivial

/-- What follows a quiet piece finds the message still in hand. -/
theorem obeys_bind_of_quiet {α : Type} {program : Task α} {next : α → Task Unit}
    (quiet : Always (only Operation.Quiet) program) (handles : transcript.Handles msg)
    (rest : ∀ value (later : Transcript), later.Handles msg →
      Obeys (Transcript.rules library) (fun _ _ => True) (next value) later) :
    Obeys (Transcript.rules library) (fun _ _ => True) (program >>= next) transcript := by
  rw [obeys_bind]
  exact (handles_of_quiet quiet handles).mono fun later value handles => rest value later handles

/-- What follows an operation finds the message still in hand, and the operation in
the transcript. -/
theorem obeys_bind_perform {α : Type} {operation : Operation} {next : Reply operation → Task α}
    {post : Transcript → α → Prop} (quiet : operation.Quiet)
    (others : ∀ answer, operation ≠ .send answer) (handles : transcript.Handles msg)
    (rest : ∀ reply (later : Transcript), Transcript.Expects operation reply →
      later.Handles msg → (⟨operation, reply⟩ : Exchange) ∈ later.performed →
      Obeys (Transcript.rules library) post (next reply) later) :
    Obeys (Transcript.rules library) post (perform operation >>= next) transcript := by
  rw [obeys_bind]
  have receives : operation ≠ .nextMessage := by
    rintro rfl
    exact quiet
  constructor
  · cases operation <;> try trivial
    case send answer => exact absurd rfl (others answer)
  · intro reply expected
    apply rest reply _ expected (handles.next quiet reply)
    change _ ∈ (transcript.next operation reply).performed
    rw [Transcript.next_of_ne receives]
    exact List.mem_cons_self

/-- A message may be acked once what it asks for is done. -/
theorem ack_earned {exchange : Exchange} (handles : transcript.Handles msg)
    (performed : exchange ∈ transcript.performed)
    (fulfils : Fulfils library msg exchange.1 exchange.2) :
    Obeys (Transcript.rules library) (fun _ _ => True) (ack msg) transcript :=
  ⟨fun _ => ⟨handles.unanswered, msg, handles.message, rfl, exchange, performed, fulfils⟩,
    fun _ _ => trivial⟩

theorem handleRegister_earns {register : Register}
    (payload : msg.payload = some (.register register)) (handles : transcript.Handles msg) :
    Obeys (Transcript.rules library) (fun _ _ => True) (handleRegister opts msg register)
      transcript := by
  apply obeys_bind_of_quiet (getIdentityKey_only trivial) handles
  intro identityKey later handles
  apply obeys_bind_of_quiet (getDeviceId_only trivial) handles
  intro deviceId later handles
  refine obeys_bind_perform (by trivial) (by simp) handles ?_
  intro failed later _ handles _
  cases failed with
  | some err => exact obeys_of_quiet (error_quiet msg err) handles
  | none =>
      refine obeys_bind_perform (by trivial) (by simp) handles ?_
      intro failed later _ handles performed
      cases failed with
      | some err => exact obeys_of_quiet (error_quiet msg err) handles
      | none => exact ack_earned handles performed payload

theorem handleUnregister_earns (payload : msg.payload = some .unregister)
    (handles : transcript.Handles msg) :
    Obeys (Transcript.rules library) (fun _ _ => True) (handleUnregister msg) transcript := by
  apply obeys_bind_of_quiet (getIdentityKey_only trivial) handles
  intro identityKey later handles
  apply obeys_bind_of_quiet (getDeviceId_only trivial) handles
  intro deviceId later handles
  refine obeys_bind_perform (by trivial) (by simp) handles ?_
  intro failed later _ handles performed
  cases failed with
  | some err => exact obeys_of_quiet (error_quiet msg err) handles
  | none => exact ack_earned handles performed payload

/-- A publisher is found for the topic that was asked for. -/
theorem publisherFor_finds {topic : Text} (handles : transcript.Handles msg) :
    Obeys (Transcript.rules library)
      (fun later result => later.Handles msg ∧
        ∀ publisher, result = .ok publisher → publisher.topic = topic)
      (publisherFor topic) transcript := by
  refine obeys_bind_perform (by trivial) (by simp) handles ?_
  intro cached later expected handles _
  cases cached with
  | some publisher =>
      refine ⟨handles, ?_⟩
      rintro _ ⟨⟩
      exact expected publisher rfl
  | none =>
      refine obeys_bind_perform (by trivial) (by simp) handles ?_
      intro result later expected handles _
      cases result with
      | error err => exact ⟨handles, fun _ found => by cases found⟩
      | ok publisher =>
          refine obeys_bind_perform (by trivial) (by simp) handles ?_
          intro _ later _ handles _
          refine ⟨handles, ?_⟩
          rintro _ ⟨⟩
          exact expected publisher rfl

theorem publishAndAck_earns {topic data : Text} (goesTo : GoesTo library msg topic data)
    (handles : transcript.Handles msg) :
    Obeys (Transcript.rules library) (fun _ _ => True) (publishAndAck msg topic data)
      transcript := by
  rw [publishAndAck, obeys_bind]
  refine (publisherFor_finds handles).mono ?_
  rintro later result ⟨handles, onTopic⟩
  cases result with
  | error err => exact obeys_of_quiet (error_quiet msg err) handles
  | ok publisher =>
      refine obeys_bind_perform (by trivial) (by simp) handles ?_
      intro failed later _ handles performed
      cases failed with
      | some err => exact obeys_of_quiet (error_quiet msg err) handles
      | none =>
          have published : GoesTo library msg publisher.topic data := by
            rw [onTopic publisher rfl]
            exact goesTo
          exact ack_earned handles performed published

theorem sendOutboundMessage_earns {outboundMessage : OutboundMessage}
    (payload : msg.payload = some (.outboundMessage outboundMessage))
    (handles : transcript.Handles msg) :
    Obeys (Transcript.rules library) (fun _ _ => True)
      (sendOutboundMessage library opts msg outboundMessage) transcript := by
  refine obeys_bind_perform (by trivial) (by simp) handles ?_
  intro result later _ handles _
  cases result with
  | error err => exact obeys_of_quiet (error_quiet msg err) handles
  | ok tassisHost =>
      dsimp only
      split
      · trivial
      · rename_i address recipient
        split
        · split
          · exact obeys_of_quiet (error_quiet msg _) handles
          · rename_i data marshalled
            exact publishAndAck_earns
              ⟨outboundMessage, address, ⟨payload, recipient⟩, Or.inr ⟨rfl, marshalled⟩⟩ handles
        · exact publishAndAck_earns
            ⟨outboundMessage, address, ⟨payload, recipient⟩, Or.inl ⟨rfl, rfl⟩⟩ handles

variable {handler : Task Unit}

theorem ifAuthenticated_earns (handles : transcript.Handles msg)
    (earns : ∀ later : Transcript, later.Handles msg →
      Obeys (Transcript.rules library) (fun _ _ => True) handler later) :
    Obeys (Transcript.rules library) (fun _ _ => True) (ifAuthenticated msg handler)
      transcript := by
  apply obeys_bind_of_quiet (isAuthenticated_only trivial) handles
  intro authenticated later handles
  split
  · exact earns later handles
  · exact obeys_of_quiet (error_quiet msg _) handles

theorem ifAnonymous_earns (handles : transcript.Handles msg)
    (earns : ∀ later : Transcript, later.Handles msg →
      Obeys (Transcript.rules library) (fun _ _ => True) handler later) :
    Obeys (Transcript.rules library) (fun _ _ => True) (ifAnonymous msg handler)
      transcript := by
  apply obeys_bind_of_quiet (isAuthenticated_only trivial) handles
  intro authenticated later handles
  split
  · exact obeys_of_quiet (error_quiet msg _) handles
  · exact earns later handles

theorem doHandleOutboundMessage_earns (handles : transcript.Handles msg) :
    Obeys (Transcript.rules library) (fun _ _ => True)
      (doHandleOutboundMessage library opts msg) transcript := by
  by_cases asks : AsksForAck msg.payload
  · cases payload : msg.payload with
    | none =>
        rw [payload] at asks
        exact asks.elim
    | some request =>
        rw [payload] at asks
        rw [doHandleOutboundMessage, payload]
        cases request <;> try exact asks.elim
        case register =>
            exact ifAuthenticated_earns handles fun later => handleRegister_earns payload
        case unregister =>
            exact ifAuthenticated_earns handles fun later => handleUnregister_earns payload
        case outboundMessage =>
            exact ifAnonymous_earns handles fun later => sendOutboundMessage_earns payload
  · exact obeys_of_quiet ((doHandleOutboundMessage_handles library opts msg).weaken
      fun _ => Operation.quiet_of_handles asks) handles

/-- Whatever has happened before, the loop acks what it has done. -/
theorem handleOutbound_earns (rounds : Nat) (transcript : Transcript) :
    Obeys (Transcript.rules library) (fun _ _ => True) (handleOutbound library opts rounds)
      transcript := by
  induction rounds generalizing transcript with
  | zero => trivial
  | succ rounds induction =>
      refine ⟨trivial, fun received _ => ?_⟩
      cases received with
      | none => exact ⟨trivial, fun _ _ => trivial⟩
      | some msg =>
          have handles : (⟨some msg, []⟩ : Transcript).Handles msg :=
            ⟨rfl, fun _ member => by cases member⟩
          change Obeys (Transcript.rules library) _
            (doHandleOutboundMessage library opts msg >>= _) ⟨some msg, []⟩
          rw [obeys_bind]
          exact (doHandleOutboundMessage_earns handles).mono fun later _ _ => induction later

end Acking

end Tassis.Service
