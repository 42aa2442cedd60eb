import Tassis.Service.Dispatch
import Tassis.Service.Soundness

/-! # What goroutines act upon

A second set of rules for the same goroutines: what they forward, transfer and
acknowledge depends on the replies they got on the way. A device is transferred
because it was found at another host, and a request is acknowledged because the
database has executed it.
-/

namespace Tassis.Service

open Model
open Program (Always Obeys obeys_bind obeys_done obeys_perform obeys_pure only)

/-! ## Errands -/

/-- The requests that change whether a device is registered. -/
inductive Request where
  | register
  | unregister
  deriving DecidableEq, Repr

def requestOf (msg : Message) : Option Request :=
  match msg.payload with
  | some (.register _) => some .register
  | some .unregister => some .unregister
  | _ => none

/-- The address that an operation has looked up, with the host. -/
def lookupOf : (operation : Operation) → Reply operation → Option (Option Address × Text)
  | .find address, .ok tassisHost => some (address, tassisHost)
  | _, _ => none

/-- What a goroutine has done for what it is working on. -/
structure Errand where
  /-- The address that it has looked up last, with the host. -/
  found : Option (Option Address × Text)
  /-- The messages that it has received since then. -/
  taken : List Place
  /-- It has waited for a message in vain since then. -/
  idle : Bool
  /-- The request that it has executed and not acknowledged yet. -/
  executed : Option (Address × Request)
  deriving DecidableEq, Repr

namespace Errand

def initial : Errand := ⟨none, [], false, none⟩

/-- The goroutine goes on to something else. -/
def leave (errand : Errand) : Errand :=
  { errand with found := none, taken := [], idle := false }

def next (errand : Errand) : (operation : Operation) → Reply operation → Errand
  | .find address, .ok tassisHost =>
      { errand.leave with found := some (address, tassisHost) }
  | .find _, .error _ => errand.leave
  | .sleep _, _ => errand.leave
  | .nextDelivery _, some brokerMsg => { errand with taken := brokerMsg.place :: errand.taken }
  | .nextDelivery _, none => { errand with idle := true }
  | .register identityKey deviceId _, none =>
      { errand with executed := some (⟨identityKey, deviceId⟩, .register) }
  | .unregister identityKey deviceId, none =>
      { errand.leave with executed := some (⟨identityKey, deviceId⟩, .unregister) }
  | .unregister .., some _ => errand.leave
  | .send msg, _ => if msg.payload = some .ack then { errand with executed := none } else errand
  | _, _ => errand

theorem found_next {errand : Errand} {operation : Operation} {reply : Reply operation}
    {lookup : Option Address × Text} (found : (errand.next operation reply).found = some lookup) :
    errand.found = some lookup ∨ lookupOf operation reply = some lookup := by
  cases operation <;> try exact Or.inl found
  case find address =>
      cases reply with
      | error err => cases found
      | ok tassisHost =>
          cases found
          exact Or.inr rfl
  case sleep => cases found
  case nextDelivery => cases reply <;> exact Or.inl found
  case register => cases reply <;> exact Or.inl found
  case unregister => cases reply <;> cases found
  case send msg =>
      simp only [next] at found
      split at found <;> exact Or.inl found

variable (opts : Opts)

/-- The goroutine has found the address at another host. -/
def Moved (errand : Errand) (address : Address) : Prop :=
  ∃ lookup, lookup ∈ errand.found ∧ lookup.1 = some address ∧ lookup.2 ≠ opts.publicAddr

instance (errand : Errand) (address : Address) : Decidable (errand.Moved opts address) :=
  inferInstanceAs (Decidable (∃ lookup, lookup ∈ errand.found ∧ _))

end Errand

/-! ## Rules -/

/-- The address that a handler gets from the connection. -/
def View.address (view : View) : Address := ⟨view.identityKey.getD [], view.deviceId.getD []⟩

variable (library : Library) (opts : Opts)

/-- A transfer receives the messages of a device that was found elsewhere, each
after it has passed on the one before, and unregisters the device when it has
waited in vain for another. What is sent to another host was found there, and
an acknowledged request has been executed. -/
def Errand.Allows (view : View) (errand : Errand) : Kind → Operation → Prop
  | .transferring, .newSubscriber topic =>
      ∃ address, errand.Moved opts address ∧ topic = topicForAddr library address
  | .transferring, .nextDelivery subscriber =>
      (∃ address, errand.Moved opts address ∧ subscriber.topic = topicForAddr library address) ∧
        (errand.taken = [] ∨ view.settlement = .handedOn)
  | .transferring, .unregister identityKey deviceId =>
      errand.Moved opts ⟨identityKey, deviceId⟩ ∧ errand.idle = true
  | .forwarding, .sendTo tassisHost msg =>
      tassisHost ≠ opts.publicAddr ∧ ∃ outboundMessage,
        msg.payload = some (.outboundMessage outboundMessage) ∧
        errand.found = some (outboundMessage.toAddress, tassisHost)
  | .outbound, .send msg =>
      msg.payload = some .ack → ∀ request, view.message.bind requestOf = some request →
        errand.executed = some (view.address, request)
  | _, _ => True

def errandRules (kind : Kind) : Program.Rules Operation Reply (View × Errand) where
  allows current := current.2.Allows library opts current.1 kind
  replies current := current.1.Expects Environment.any.finds kind
  next current operation reply :=
    (current.1.next opts operation reply, current.2.next operation reply)
  mayCrash _ := True

variable {library : Library} {opts : Opts} {kind : Kind} {view : View} {errand : Errand}

/-! ## Requests -/

section Outbound

theorem send_attends {msg : Message} {post : View × Errand → Unit → Prop}
    (different : msg.payload ≠ some .ack) (holds : post (view, errand) ()) :
    Obeys (errandRules library opts .outbound) post (send msg) (view, errand) := by
  refine ⟨fun isAck => absurd isAck different, ?_⟩
  intro _ _
  simpa [errandRules, View.next, Errand.next, different] using holds

theorem error_attends {msg : Message} {err : Failure} {post : View × Errand → Unit → Prop}
    (holds : post (view, errand) ()) :
    Obeys (errandRules library opts .outbound) post (error msg err) (view, errand) :=
  send_attends (by simp [newError]) holds

theorem ack_attends {msg : Message}
    (executed : ∀ request, view.message.bind requestOf = some request →
      errand.executed = some (view.address, request)) :
    Obeys (errandRules library opts .outbound) (fun _ _ => True) (ack msg) (view, errand) :=
  ⟨fun _ => executed, fun _ _ => trivial⟩

theorem getIdentityKey_attends {post : View × Errand → Text → Prop}
    (holds : post (view, errand) (view.identityKey.getD [])) :
    Obeys (errandRules library opts .outbound) post getIdentityKey (view, errand) := by
  simp only [getIdentityKey, obeys_bind, obeys_perform]
  refine ⟨trivial, ?_⟩
  intro identityKey expected
  cases expected rfl
  exact holds

theorem getDeviceId_attends {post : View × Errand → Text → Prop}
    (holds : post (view, errand) (view.deviceId.getD [])) :
    Obeys (errandRules library opts .outbound) post getDeviceId (view, errand) := by
  simp only [getDeviceId, obeys_bind, obeys_perform]
  refine ⟨trivial, ?_⟩
  intro deviceId expected
  cases expected rfl
  exact holds

theorem handleRegister_attends (msg : Message) (register : Register)
    (handling : view.message.bind requestOf = some .register) :
    Obeys (errandRules library opts .outbound) (fun _ _ => True)
      (handleRegister opts msg register) (view, errand) := by
  rw [handleRegister, obeys_bind]
  apply getIdentityKey_attends
  rw [obeys_bind]
  apply getDeviceId_attends
  rw [obeys_bind, obeys_perform]
  refine ⟨trivial, ?_⟩
  intro failed _
  cases failed with
  | some err => exact error_attends trivial
  | none =>
      dsimp only
      rw [obeys_bind, obeys_perform]
      refine ⟨trivial, ?_⟩
      intro failed _
      cases failed with
      | some err => exact error_attends trivial
      | none =>
          apply ack_attends
          intro request handling'
          cases handling.symm.trans handling'
          rfl

theorem handleUnregister_attends (msg : Message)
    (handling : view.message.bind requestOf = some .unregister) :
    Obeys (errandRules library opts .outbound) (fun _ _ => True)
      (handleUnregister msg) (view, errand) := by
  rw [handleUnregister, obeys_bind]
  apply getIdentityKey_attends
  rw [obeys_bind]
  apply getDeviceId_attends
  rw [obeys_bind, obeys_perform]
  refine ⟨trivial, ?_⟩
  intro failed _
  cases failed with
  | some err => exact error_attends trivial
  | none =>
      apply ack_attends
      intro request handling'
      cases handling.symm.trans handling'
      rfl

theorem ifAuthenticated_attends {msg : Message} {handler : Task Unit}
    (obeys : Obeys (errandRules library opts .outbound) (fun _ _ => True) handler
      (view, errand)) :
    Obeys (errandRules library opts .outbound) (fun _ _ => True)
      (ifAuthenticated msg handler) (view, errand) := by
  simp only [ifAuthenticated, isAuthenticated, obeys_bind]
  apply getIdentityKey_attends
  rw [obeys_pure]
  split
  · exact obeys
  · exact error_attends trivial

/-- A message that is no request may be answered with anything. -/
theorem doHandleOutboundMessage_unrequested {msg : Message}
    (unrequested : view.message.bind requestOf = none) :
    Obeys (errandRules library opts .outbound) (fun _ _ => True)
      (doHandleOutboundMessage library opts msg) (view, errand) := by
  have obeys : Obeys (errandRules library opts .outbound)
      (fun current _ => current.1.message.bind requestOf = none)
      (doHandleOutboundMessage library opts msg) (view, errand) := by
    refine (doHandleOutboundMessage_handles library opts msg).carries ?_ (fun _ => trivial)
      unrequested
    intro current operation unrequested handles
    constructor
    · cases operation <;> try trivial
      case send =>
          intro _ request requested
          cases unrequested.symm.trans requested
    · intro reply _
      have other : operation ≠ .nextMessage := by
        rintro rfl
        exact handles
      exact (congrArg (Option.bind · requestOf) (View.next_message other reply)).trans unrequested
  exact obeys.mono fun _ _ _ => trivial

theorem doHandleOutboundMessage_attends {msg : Message} (handling : view.message = some msg) :
    Obeys (errandRules library opts .outbound) (fun _ _ => True)
      (doHandleOutboundMessage library opts msg) (view, errand) := by
  have requested : view.message.bind requestOf = requestOf msg := by rw [handling]; rfl
  cases request : requestOf msg with
  | none => exact doHandleOutboundMessage_unrequested (requested.trans request)
  | some asked =>
      rw [requestOf] at request
      rw [doHandleOutboundMessage]
      split at request
      · rename_i payload
        rw [payload]
        apply ifAuthenticated_attends
        exact handleRegister_attends msg _ (by rw [requested, requestOf, payload])
      · rename_i payload
        rw [payload]
        apply ifAuthenticated_attends
        exact handleUnregister_attends msg (by rw [requested, requestOf, payload])
      · cases request

theorem handleOutbound_always (rounds : Nat) :
    Always (errandRules library opts .outbound) (handleOutbound library opts rounds) := by
  induction rounds with
  | zero => exact fun _ => trivial
  | succ rounds induction =>
      intro current
      rw [handleOutbound, obeys_bind, obeys_perform]
      refine ⟨trivial, ?_⟩
      intro received _
      cases received with
      | none => exact ⟨trivial, fun _ _ => trivial⟩
      | some msg =>
          dsimp only
          rw [obeys_bind]
          exact Obeys.mono (doHandleOutboundMessage_attends rfl) fun view _ _ => induction view

end Outbound

/-! ## Forwarding -/

section Forwarding

theorem always_of_passesOn {α : Type} {program : Task α}
    (passesOn : Always (only Operation.PassesOn) program) :
    Always (errandRules library opts .forwarding) program := by
  refine passesOn.of_only ?_ fun _ => trivial
  intro current operation passesOn
  cases operation <;> trivial

theorem forward_attends {outboundMessage : OutboundMessage} {tassisHost : Text}
    (elsewhere : tassisHost ≠ opts.publicAddr)
    (found : errand.found = some (outboundMessage.toAddress, tassisHost)) (callback : Callback) :
    Obeys (errandRules library opts .forwarding) (fun _ _ => True)
      (forward library opts outboundMessage tassisHost callback) (view, errand) := by
  rw [forward, obeys_bind, obeys_perform]
  refine ⟨trivial, ?_⟩
  intro result _
  cases result with
  | error err => exact always_of_passesOn (finished_passesOn library opts callback _) _
  | ok _ =>
      dsimp only
      rw [obeys_bind, obeys_perform]
      refine ⟨trivial, ?_⟩
      intro sequence _
      rw [obeys_bind]
      refine ⟨trivial, ?_⟩
      intro _ _
      exact ⟨⟨elsewhere, outboundMessage, rfl, found⟩, fun _ _ => trivial⟩

theorem forwardMessage_always (retryPublisher : Publisher) (brokerMsg : BrokerMessage) :
    Always (errandRules library opts .forwarding)
      (forwardMessage library opts retryPublisher brokerMsg) := by
  unfold forwardMessage
  cases library.unmarshal brokerMsg.data with
  | error err =>
      exact (always_of_passesOn (acknowledge_passesOn brokerMsg)).bind fun _ => Always.pure _
  | ok msg =>
      apply (always_of_passesOn (delayRetry_passesOn opts msg)).bind
      intro _
      cases msg.message with
      | none => exact fun _ => trivial
      | some outboundMessage =>
          intro current
          dsimp only
          rw [obeys_bind, obeys_perform]
          refine ⟨trivial, ?_⟩
          intro result _
          cases result with
          | error err =>
              exact (always_of_passesOn (failMessage_passesOn library opts _ _ _)).bind
                (fun _ => Always.pure _) _
          | ok tassisHost =>
              dsimp only
              split
              · exact always_of_passesOn (publishLocally_passesOn library opts _ _ _ _) _
              · rename_i elsewhere
                rw [obeys_bind]
                exact Obeys.mono (forward_attends elsewhere rfl _) fun _ _ _ => trivial

theorem forwardLoop_always (subscriber : Subscriber) (retryPublisher : Publisher)
    (rounds : Nat) :
    Always (errandRules library opts .forwarding)
      (forwardLoop library opts subscriber retryPublisher rounds) := by
  induction rounds with
  | zero => exact fun _ => trivial
  | succ rounds induction =>
      apply Always.bind (Always.perform fun _ => trivial)
      intro delivered
      cases delivered with
      | none => exact Always.pure _
      | some brokerMsg => exact (forwardMessage_always _ _).bind fun _ => induction

end Forwarding

/-! ## Transfers -/

section Transferring

theorem Errand.moved_of_found {address : Address} {tassisHost : Text}
    (found : errand.found = some (some address, tassisHost))
    (elsewhere : tassisHost ≠ opts.publicAddr) : errand.Moved opts address :=
  ⟨_, found, rfl, elsewhere⟩

/-- The loop ends without an error when it has waited in vain. -/
theorem transferDeviceMessages_attends {subscriber : Subscriber} {addr : Address}
    (publisher : Publisher) (onTopic : subscriber.topic = topicForAddr library addr)
    (moved : errand.Moved opts addr)
    (passedOn : errand.taken = [] ∨ view.settlement = .handedOn) (rounds : Nat) :
    Obeys (errandRules library opts .transferring)
      (fun current failed => failed = none →
        current.2.Moved opts addr ∧ current.2.idle = true)
      (transferDeviceMessages library subscriber addr publisher rounds) (view, errand) := by
  induction rounds generalizing view errand with
  | zero => trivial
  | succ rounds induction =>
      rw [transferDeviceMessages, obeys_bind, obeys_perform]
      refine ⟨⟨⟨addr, moved, onTopic⟩, passedOn⟩, ?_⟩
      intro delivered _
      cases delivered with
      | none => exact ⟨trivial, fun _ _ _ => ⟨moved, rfl⟩⟩
      | some brokerMsg =>
          rcases library.unmarshal_marshal ⟨some ⟨some addr, brokerMsg.data⟩, 0, 0⟩ with
            ⟨data, marshalled, _⟩
          dsimp only
          rw [marshalled]
          dsimp only
          rw [obeys_bind, obeys_perform]
          refine ⟨trivial, ?_⟩
          intro failed _
          cases failed with
          | some err => exact ⟨trivial, fun _ _ impossible => by cases impossible⟩
          | none =>
              dsimp only
              rw [obeys_bind]
              exact ⟨trivial, fun _ _ => induction moved (Or.inr rfl)⟩

theorem transferDevice_always (publisher : Publisher) (rounds : Nat) (addr : Address) :
    Always (errandRules library opts .transferring)
      (transferDevice library opts publisher rounds addr) := by
  intro current
  rw [transferDevice, obeys_bind, obeys_perform]
  refine ⟨trivial, ?_⟩
  intro result _
  cases result with
  | error err => trivial
  | ok tassisHost =>
      dsimp only
      split
      · trivial
      · rename_i elsewhere
        have moved : (current.2.next (.find (some addr)) (.ok tassisHost)).Moved opts addr :=
          Errand.moved_of_found rfl elsewhere
        rw [obeys_bind, obeys_perform]
        refine ⟨⟨addr, moved, rfl⟩, ?_⟩
        intro result expected
        cases result with
        | error err => trivial
        | ok subscriber =>
            dsimp only
            rw [obeys_bind]
            refine Obeys.mono (transferDeviceMessages_attends publisher (expected subscriber rfl)
              moved (Or.inl rfl) rounds) ?_
            intro view failed drained
            cases failed with
            | some err => trivial
            | none => exact ⟨drained rfl, fun _ _ => trivial⟩

theorem transferDevices_always (publisher : Publisher) (rounds : Nat) (addrs : List Address) :
    Always (errandRules library opts .transferring)
      (transferDevices library opts publisher rounds addrs) := by
  induction addrs with
  | nil => exact Always.pure _
  | cons addr addrs induction =>
      exact (transferDevice_always publisher rounds addr).bind fun _ => induction

theorem userTransfers_always (publisher : Publisher) (rounds : Nat) :
    Always (errandRules library opts .transferring)
      (userTransfers library opts publisher rounds) := by
  induction rounds with
  | zero => exact fun _ => trivial
  | succ rounds induction =>
      apply Always.bind (Always.perform fun _ => trivial)
      intro _
      apply Always.bind (Always.perform fun _ => trivial)
      intro result
      cases result with
      | error err => exact induction
      | ok addrs => exact (transferDevices_always publisher rounds addrs).bind fun _ => induction

end Transferring

/-! ## All goroutines -/

theorem notifying_always (program : Task Unit) :
    Always (errandRules library opts .notifying) program :=
  Program.always_of_permissive (fun _ _ => trivial) (fun _ => trivial) program

theorem inbound_always (topic : Text) (program : Task Unit) :
    Always (errandRules library opts (.inbound topic)) program :=
  Program.always_of_permissive (fun _ _ => trivial) (fun _ => trivial) program

theorem starting_always (program : Task Unit) :
    Always (errandRules library opts .starting) program :=
  Program.always_of_permissive (fun _ _ => trivial) (fun _ => trivial) program

theorem taskOf_always (routine : Routine) (rounds : Nat) :
    Always (errandRules library opts routine.kind) (taskOf library opts routine rounds) := by
  cases routine with
  | handleInbound subscriber => exact inbound_always _ _
  | warnPreKeysLowIfNecessary => exact notifying_always _
  | forwardMessages subscriber retryPublisher => exact starting_always _
  | forwardLoop subscriber retryPublisher => exact forwardLoop_always _ _ rounds
  | userTransfers publisher => exact userTransfers_always publisher rounds

/-- The goroutine that an operation starts. -/
def State.started (state : State) (goroutine : Goroutine) : Operation → Option Goroutine
  | .go routine => some (.routine state.performed goroutine.connection routine)
  | _ => none

/-- The errands after a step. -/
def errandsAfter (state : State) (errands : Goroutine → Errand) : Action → Goroutine → Errand
  | .perform goroutine operation reply _ =>
      let after := Function.update errands goroutine ((errands goroutine).next operation reply)
      match state.started goroutine operation with
      | some started => Function.update after started .initial
      | none => after
  | _ => errands

section After

variable {state : State} {errands : Goroutine → Errand} {goroutine other : Goroutine}
  {operation : Operation} {reply : Reply operation} {rounds : Nat}

/-- The errand of a goroutine after an operation: it has just been started, it has
performed the operation, or it has done nothing. -/
theorem errand_after (state : State) (errands : Goroutine → Errand)
    (goroutine other : Goroutine) (reply : Reply operation) (rounds : Nat) :
    let after := errandsAfter state errands (.perform goroutine operation reply rounds) other
    state.started goroutine operation = some other ∧ after = .initial ∨
      state.started goroutine operation ≠ some other ∧
        (other = goroutine ∧ after = (errands other).next operation reply ∨
          other ≠ goroutine ∧ after = errands other) := by
  intro after
  by_cases starts : state.started goroutine operation = some other
  · exact Or.inl ⟨starts, by simp [after, errandsAfter, starts]⟩
  · have unstarted : after = Function.update errands goroutine
        ((errands goroutine).next operation reply) other := by
      simp only [after, errandsAfter]
      cases isStarted : state.started goroutine operation with
      | none => rfl
      | some started =>
          have different : other ≠ started := by
            rintro rfl
            exact starts isStarted
          exact Function.update_of_ne different ..
    refine Or.inr ⟨starts, ?_⟩
    by_cases same : other = goroutine
    · subst same
      exact Or.inl ⟨rfl, unstarted.trans (Function.update_self ..)⟩
    · exact Or.inr ⟨same, unstarted.trans (Function.update_of_ne same ..)⟩

/-- What is recorded of a goroutine after an operation, unless it has just been
started, was recorded before or is due to the operation. -/
theorem errandsAfter_cases (property : Errand → Prop) (initially : ¬property .initial)
    (holds : property
      (errandsAfter state errands (.perform goroutine operation reply rounds) other)) :
    other = goroutine ∧ property ((errands other).next operation reply) ∨
      other ≠ goroutine ∧ property (errands other) := by
  rcases errand_after state errands goroutine other reply rounds with
    ⟨_, isInitial⟩ | ⟨_, ⟨same, errand⟩ | ⟨different, errand⟩⟩
  · exact absurd (isInitial ▸ holds) initially
  · exact Or.inl ⟨same, errand ▸ holds⟩
  · exact Or.inr ⟨different, errand ▸ holds⟩

/-- A goroutine with its errand after an operation: the one that has performed it,
another one, or the one that it has started. -/
theorem threads_after_cases (errands : Goroutine → Errand) {rest : Task Unit} {thread : Thread}
    (present : (state.after library opts goroutine view rest rounds operation reply).threads
      other = some thread) :
    let after := errandsAfter state errands (.perform goroutine operation reply rounds) other
    other = goroutine ∧ thread = ⟨rest, view.next opts operation reply⟩ ∧
        after = (errands goroutine).next operation reply ∨
      other ≠ goroutine ∧ state.threads other = some thread ∧ after = errands other ∨
      ∃ routine, other = .routine state.performed goroutine.connection routine ∧
        thread = ⟨taskOf library opts routine rounds, .initial []⟩ ∧ after = .initial := by
  intro after
  rcases errand_after state errands goroutine other reply rounds with
    ⟨starts, isInitial⟩ | ⟨starts, errand⟩
  · cases operation <;> cases starts
    exact Or.inr (Or.inr ⟨_, rfl, Option.some.inj (present.symm.trans (Function.update_self ..)),
      isInitial⟩)
  · rcases State.threadsAfter_cases present with
      ⟨rfl, rfl⟩ | ⟨different, before⟩ | ⟨routine, rfl, rfl, _⟩
    · exact Or.inl ⟨rfl, rfl, (errand.resolve_right fun other => other.1 rfl).2⟩
    · exact Or.inr (Or.inl ⟨different, before,
        (errand.resolve_left fun own => different own.1).2⟩)
    · exact absurd rfl starts

end After

/-- All goroutines obey the rules for their errands. -/
def Attends (library : Library) (opts : Opts) (errands : Goroutine → Errand) (state : State) :
    Prop :=
  ∀ goroutine thread, state.threads goroutine = some thread →
    Obeys (errandRules library opts goroutine.kind) (fun _ _ => True) thread.program
      (thread.view, errands goroutine)

variable {errands : Goroutine → Errand} {state next : State}

theorem Attends.initial (errands : Goroutine → Errand) :
    Attends library opts errands (.initial opts) := by
  intro goroutine thread present
  rcases State.threads_initial present with ⟨rfl, rfl⟩
  exact starting_always _ _

theorem Attends.allowed (attends : Attends library opts errands state) {goroutine : Goroutine}
    {operation : Operation} {rest : Reply operation → Task Unit}
    (present : state.threads goroutine = some ⟨.call operation rest, view⟩) :
    (errands goroutine).Allows library opts view goroutine.kind operation :=
  (attends goroutine _ present).1

theorem Attends.after (attends : Attends library opts errands state)
    (sound : Sound library opts state) {goroutine : Goroutine} {operation : Operation}
    {rest : Reply operation → Task Unit} {reply : Reply operation} {rounds : Nat}
    (present : state.threads goroutine = some ⟨.call operation rest, view⟩)
    (possible : state.MayReply goroutine operation reply) :
    Attends library opts (errandsAfter state errands (.perform goroutine operation reply rounds))
      (state.after library opts goroutine view (rest reply) rounds operation reply) := by
  intro goroutine' thread present'
  rcases threads_after_cases errands present' with
    ⟨rfl, rfl, equal⟩ | ⟨_, present', equal⟩ | ⟨routine, rfl, rfl, _⟩
  · rw [equal]
    exact (attends goroutine' _ present).2 reply
      (sound.expects (sound.threads _ _ present) possible)
  · rw [equal]
    exact attends goroutine' thread present'
  · exact taskOf_always routine rounds _

theorem Attends.step (attends : Attends library opts errands state)
    (sound : Sound library opts state) {action : Action}
    (taken : step library opts state action = some next) :
    Attends library opts (errandsAfter state errands action) next := by
  cases stepCase_of_step taken with
  | connected nonce rounds =>
      intro goroutine thread present
      rcases of_update_some present with ⟨rfl, rfl⟩ | ⟨_, present⟩
      · exact notifying_always _ _
      · rcases of_update_some present with ⟨rfl, rfl⟩ | ⟨_, present⟩
        · exact handleOutbound_always rounds _
        · exact attends goroutine thread present
  | sent | closed | ticked => exact attends
  | performed reply rounds present possible => exact attends.after sound present possible
  | @finished _ callback forwardingErr =>
      intro goroutine thread present
      rcases of_update_some present with ⟨rfl, rfl⟩ | ⟨_, present⟩
      · exact always_of_passesOn (finished_passesOn library opts callback forwardingErr) _
      · exact attends goroutine thread present

end Tassis.Service
