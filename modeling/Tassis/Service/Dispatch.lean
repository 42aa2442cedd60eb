import Tassis.Service.Forwarding

/-! # What a message makes its loop do

Each operation of the loop over the client's messages serves to handle messages
of some kind, and each operation of the loops that forward messages to pass them on.
What a loop leaves alone while it handles a message is read off from this.
-/

namespace Tassis.Service

open Model
open Program (Always only)

/-! ## Operations -/

def IsAck (msg : Message) : Prop := msg.payload = some .ack

instance (msg : Message) : Decidable (IsAck msg) := inferInstanceAs (Decidable (_ = _))

/-- Messages with this payload are answered with an ack if all goes well. -/
def AsksForAck : Option Payload → Prop
  | some (.register _) | some .unregister | some (.outboundMessage _) => True
  | _ => False

/-- The operation serves to handle a message with this payload. -/
def Operation.Handles (payload : Option Payload) : Operation → Prop
  | .findAcker _ | .ack _ | .deleteAcker _ => payload = some .ack
  | .authNonce | .close | .storeIdentityKey _ | .storeDeviceId _ | .registerChatNumber ..
  | .newSubscriber _ | .go _ => ∃ authResponse, payload = some (.authResponse authResponse)
  | .announce .. | .register .. => ∃ register, payload = some (.register register)
  | .unregister .. => payload = some .unregister
  | .requestPreKeys _ => ∃ request, payload = some (.requestPreKeys request)
  | .authorizeUpload =>
      ∃ numRequested, payload = some (.requestUploadAuthorizations numRequested)
  | .findChatNumberByShortNumber _ =>
      ∃ shortNumber, payload = some (.findChatNumberByShortNumber shortNumber)
  | .findChatNumberByIdentityKey _ =>
      ∃ identityKey, payload = some (.findChatNumberByIdentityKey identityKey)
  | .find _ | .newPublisher _ | .cachedPublisher _ | .cachePublisher .. | .publish .. =>
      ∃ outboundMessage, payload = some (.outboundMessage outboundMessage)
  | .send answer => IsAck answer → AsksForAck payload
  | .loadIdentityKey | .loadDeviceId => True
  | _ => False

/-- The operation serves to complete a login once its identity is stored. -/
def Operation.CompletesLogin : Operation → Prop
  | .registerChatNumber .. | .newSubscriber _ | .go _ | .close | .loadIdentityKey
  | .loadDeviceId => True
  | .send answer => ¬IsAck answer
  | _ => False

/-- The operation neither sends an ack nor takes another message. -/
def Operation.Quiet : Operation → Prop
  | .send answer => ¬IsAck answer
  | .nextMessage => False
  | _ => True

theorem Operation.handles_of_completesLogin {authResponse : AuthResponse} {operation : Operation}
    (completes : operation.CompletesLogin) :
    operation.Handles (some (.authResponse authResponse)) := by
  cases operation <;> first | trivial | exact completes.elim | exact ⟨authResponse, rfl⟩

theorem Operation.quiet_of_handles {payload : Option Payload} (others : ¬AsksForAck payload)
    {operation : Operation} (handles : operation.Handles payload) : operation.Quiet := by
  cases operation <;> try trivial
  case send => exact fun isAck => others (handles isAck)

/-! ## Shared pieces -/

section Pieces

variable {allowed : Operation → Prop} (msg : Message)

theorem send_only (sends : ∀ answer, ¬IsAck answer → allowed (.send answer)) {sequence : Nat}
    {payload : Payload} (other : payload ≠ .ack) :
    Always (only allowed) (send ⟨sequence, some payload⟩) :=
  Always.perform fun _ => sends _ fun isAck => other (Option.some.inj isAck)

theorem error_only (sends : ∀ answer, ¬IsAck answer → allowed (.send answer)) (err : Failure) :
    Always (only allowed) (error msg err) :=
  send_only sends (by simp)

theorem getIdentityKey_only (loads : allowed .loadIdentityKey) :
    Always (only allowed) getIdentityKey :=
  Always.bind (Always.perform fun _ => loads) fun _ => Always.pure _

theorem getDeviceId_only (loads : allowed .loadDeviceId) : Always (only allowed) getDeviceId :=
  Always.bind (Always.perform fun _ => loads) fun _ => Always.pure _

theorem isAuthenticated_only (loads : allowed .loadIdentityKey) :
    Always (only allowed) isAuthenticated :=
  (getIdentityKey_only loads).bind fun _ => Always.pure _

theorem publisherFor_only {topic : Text}
    (opens : allowed (.cachedPublisher topic) ∧ allowed (.newPublisher topic))
    (caches : ∀ publisher, allowed (.cachePublisher topic publisher)) :
    Always (only allowed) (publisherFor topic) := by
  refine Always.bind (Always.perform fun _ => opens.1) ?_
  intro cached
  cases cached with
  | some publisher => exact Always.pure _
  | none =>
      refine Always.bind (Always.perform fun _ => opens.2) ?_
      intro result
      cases result with
      | error err => exact Always.pure _
      | ok publisher =>
          exact Always.bind (Always.perform fun _ => caches publisher) fun _ => Always.pure _

theorem sends_handles {payload : Option Payload} (answer : Message) (other : ¬IsAck answer) :
    Operation.Handles payload (.send answer) :=
  fun isAck => absurd isAck other

end Pieces

/-! ## Logging in -/

section Login

variable (library : Library) (opts : Opts) (msg : Message)

theorem tryNumbers_completesLogin (identityKey preferredNumber : Text) (rounds iter : Nat) :
    Always (only Operation.CompletesLogin)
      (tryNumbers identityKey preferredNumber rounds iter) := by
  induction rounds generalizing iter with
  | zero => exact fun _ => trivial
  | succ rounds induction =>
      rw [tryNumbers]
      split
      · exact fun _ => trivial
      · apply Always.bind (Always.perform fun _ => trivial)
        intro result
        cases result with
        | ok numbers => exact Always.pure _
        | error err =>
            dsimp only
            split
            · exact induction (iter + 1)
            · exact Always.pure _

theorem startHandlingInbound_completesLogin :
    Always (only Operation.CompletesLogin) (startHandlingInbound library) := by
  apply (getIdentityKey_only trivial).bind
  intro identityKey
  apply (getDeviceId_only trivial).bind
  intro deviceId
  apply Always.bind (Always.perform fun _ => trivial)
  intro result
  cases result with
  | error err => exact Always.pure _
  | ok subscriber => exact Always.bind (Always.perform fun _ => trivial) fun _ => Always.pure _

theorem startSession_completesLogin (number shortNumber : Text) :
    Always (only Operation.CompletesLogin)
      (startSession library opts msg number shortNumber) := by
  apply (startHandlingInbound_completesLogin library).bind
  intro failed
  cases failed with
  | some err => exact error_only msg (fun _ => id) err
  | none =>
      dsimp only
      split
      · apply Always.bind (Always.perform fun _ => trivial)
        exact fun _ => send_only (fun _ => id) (by simp)
      · exact send_only (fun _ => id) (by simp)

theorem completeLogin_completesLogin :
    Always (only Operation.CompletesLogin) (completeLogin library opts msg) := by
  have searches : Always (only Operation.CompletesLogin) (getNumber library) :=
    (getIdentityKey_only trivial).bind fun _ => tryNumbers_completesLogin _ _ _ _
  apply searches.bind
  intro result
  cases result with
  | ok numbers => exact startSession_completesLogin library opts msg _ _
  | error err =>
      apply (error_only msg (fun _ => id) err).bind
      intro _
      apply Always.bind (Always.perform fun _ => trivial)
      exact fun _ => startSession_completesLogin library opts msg _ _

theorem handleAuthResponse_handles (authResponse : AuthResponse) :
    Always (only (Operation.Handles (some (.authResponse authResponse))))
      (handleAuthResponse library opts msg authResponse) := by
  have refused : ∀ err, Always (only (Operation.Handles (some (.authResponse authResponse))))
      (do
        error msg err
        perform .close) := fun err =>
    (error_only msg sends_handles err).bind fun _ => Always.perform fun _ => ⟨_, rfl⟩
  rw [handleAuthResponse]
  split
  · exact refused _
  · refine Always.bind (Always.perform fun _ => ⟨_, rfl⟩) ?_
    intro nonce
    split
    · exact refused _
    · split
      · exact fun _ => trivial
      · split
        · exact fun _ => trivial
        · exact refused _
        · refine Always.bind (Always.perform fun _ => ⟨_, rfl⟩) ?_
          intro _
          refine Always.bind (Always.perform fun _ => ⟨_, rfl⟩) ?_
          intro _
          exact (completeLogin_completesLogin library opts msg).weaken
            fun _ => Operation.handles_of_completesLogin

end Login

/-! ## The handlers -/

section Handlers

variable (library : Library) (opts : Opts) (msg : Message)

theorem handleACK_handles : Always (only (Operation.Handles (some .ack))) (handleACK msg) := by
  refine Always.bind (Always.perform fun _ => rfl) ?_
  intro found
  cases found with
  | none => exact Always.pure _
  | some brokerMsg =>
      refine Always.bind (Always.perform fun _ => rfl) ?_
      intro failed
      cases failed with
      | some err => exact Always.pure _
      | none => exact Always.perform fun _ => rfl

theorem handleRegister_handles (register : Register) :
    Always (only (Operation.Handles (some (.register register))))
      (handleRegister opts msg register) := by
  apply (getIdentityKey_only trivial).bind
  intro identityKey
  apply (getDeviceId_only trivial).bind
  intro deviceId
  refine Always.bind (Always.perform fun _ => ⟨_, rfl⟩) ?_
  intro failed
  cases failed with
  | some err => exact error_only msg sends_handles err
  | none =>
      refine Always.bind (Always.perform fun _ => ⟨_, rfl⟩) ?_
      intro failed
      cases failed with
      | some err => exact error_only msg sends_handles err
      | none => exact Always.perform fun _ _ => trivial

theorem handleUnregister_handles :
    Always (only (Operation.Handles (some .unregister))) (handleUnregister msg) := by
  apply (getIdentityKey_only trivial).bind
  intro identityKey
  apply (getDeviceId_only trivial).bind
  intro deviceId
  refine Always.bind (Always.perform fun _ => rfl) ?_
  intro failed
  cases failed with
  | some err => exact error_only msg sends_handles err
  | none => exact Always.perform fun _ _ => trivial

theorem handleRequestPreKeys_handles (request : RequestPreKeys) :
    Always (only (Operation.Handles (some (.requestPreKeys request))))
      (handleRequestPreKeys msg request) := by
  refine Always.bind (Always.perform fun _ => ⟨_, rfl⟩) ?_
  intro result
  cases result with
  | error err => exact error_only msg sends_handles err
  | ok found => exact send_only sends_handles (by simp)

theorem authorizeUploads_handles {numRequested : Int} (remaining : Nat)
    (authorizations : List UploadAuthorization) (finalErr : Option Failure) :
    Always (only (Operation.Handles (some (.requestUploadAuthorizations numRequested))))
      (authorizeUploads remaining authorizations finalErr) := by
  induction remaining generalizing authorizations finalErr with
  | zero => exact Always.pure _
  | succ remaining induction =>
      refine Always.bind (Always.perform fun _ => ⟨_, rfl⟩) ?_
      intro result
      cases result with
      | ok auth => exact induction _ _
      | error err => exact induction _ _

theorem handleRequestUploadAuthorizations_handles (numRequested : Int) :
    Always (only (Operation.Handles (some (.requestUploadAuthorizations numRequested))))
      (handleRequestUploadAuthorizations msg numRequested) := by
  apply (authorizeUploads_handles _ _ _).bind
  rintro ⟨authorizations, finalErr⟩
  dsimp only
  split
  · cases finalErr with
    | some err => exact error_only msg sends_handles err
    | none => exact Always.pure _
  · exact send_only sends_handles (by simp)

theorem handleFindChatNumberByShortNumber_handles (shortNumber : Text) :
    Always (only (Operation.Handles (some (.findChatNumberByShortNumber shortNumber))))
      (handleFindChatNumberByShortNumber opts msg shortNumber) := by
  refine Always.bind (Always.perform fun _ => ⟨_, rfl⟩) ?_
  intro result
  cases result with
  | error err => exact error_only msg sends_handles err
  | ok found => exact send_only sends_handles (by simp)

theorem handleFindChatNumberByIdentityKey_handles (identityKey : Text) :
    Always (only (Operation.Handles (some (.findChatNumberByIdentityKey identityKey))))
      (handleFindChatNumberByIdentityKey opts msg identityKey) := by
  refine Always.bind (Always.perform fun _ => ⟨_, rfl⟩) ?_
  intro result
  cases result with
  | error err => exact error_only msg sends_handles err
  | ok found => exact send_only sends_handles (by simp)

variable (outboundMessage : OutboundMessage)

theorem publishAndAck_handles (topic data : Text) :
    Always (only (Operation.Handles (some (.outboundMessage outboundMessage))))
      (publishAndAck msg topic data) := by
  apply (publisherFor_only ⟨⟨_, rfl⟩, ⟨_, rfl⟩⟩ fun _ => ⟨_, rfl⟩).bind
  intro result
  cases result with
  | error err => exact error_only msg sends_handles err
  | ok publisher =>
      refine Always.bind (Always.perform fun _ => ⟨_, rfl⟩) ?_
      intro failed
      cases failed with
      | some err => exact error_only msg sends_handles err
      | none => exact Always.perform fun _ _ => trivial

theorem sendOutboundMessage_handles :
    Always (only (Operation.Handles (some (.outboundMessage outboundMessage))))
      (sendOutboundMessage library opts msg outboundMessage) := by
  rw [sendOutboundMessage]
  refine Always.bind (Always.perform fun _ => ⟨_, rfl⟩) ?_
  intro result
  cases result with
  | error err => exact error_only msg sends_handles err
  | ok tassisHost =>
      dsimp only
      split
      · exact fun _ => trivial
      · split
        · split
          · exact error_only msg sends_handles _
          · exact publishAndAck_handles msg outboundMessage _ _
        · exact publishAndAck_handles msg outboundMessage _ _

variable {payload : Option Payload} {handler : Task Unit}

theorem ifAuthenticated_handles
    (handles : Always (only (Operation.Handles payload)) handler) :
    Always (only (Operation.Handles payload)) (ifAuthenticated msg handler) := by
  apply (isAuthenticated_only trivial).bind
  intro authenticated
  split
  · exact handles
  · exact error_only msg sends_handles _

theorem ifAnonymous_handles (handles : Always (only (Operation.Handles payload)) handler) :
    Always (only (Operation.Handles payload)) (ifAnonymous msg handler) := by
  apply (isAuthenticated_only trivial).bind
  intro authenticated
  split
  · exact error_only msg sends_handles _
  · exact handles

/-- A message is handled by operations for messages of its kind. -/
theorem doHandleOutboundMessage_handles :
    Always (only (Operation.Handles msg.payload)) (doHandleOutboundMessage library opts msg) := by
  rw [doHandleOutboundMessage]
  split <;> rename_i payload <;> try rw [payload]
  · exact handleACK_handles msg
  · exact ifAnonymous_handles msg (handleAuthResponse_handles library opts msg _)
  · exact ifAuthenticated_handles msg (handleRegister_handles opts msg _)
  · exact ifAuthenticated_handles msg (handleUnregister_handles msg)
  · exact ifAnonymous_handles msg (handleRequestPreKeys_handles msg _)
  · exact ifAnonymous_handles msg (handleRequestUploadAuthorizations_handles msg _)
  · exact ifAnonymous_handles msg (handleFindChatNumberByShortNumber_handles opts msg _)
  · exact ifAnonymous_handles msg (handleFindChatNumberByIdentityKey_handles opts msg _)
  · exact ifAnonymous_handles msg (sendOutboundMessage_handles library opts msg _)
  · exact Always.pure _

end Handlers

/-! ## Forwarding -/

section Forwarding

variable (library : Library) (opts : Opts)

/-- The operation serves to pass a message on within this tassis, or to put it off. -/
def Operation.PassesOn : Operation → Prop
  | .ack _ | .publish .. | .cachedPublisher _ | .newPublisher _ | .cachePublisher ..
  | .nowUnixMillis | .durationSince _ | .sleep _ => True
  | _ => False

theorem acknowledge_passesOn (brokerMsg : BrokerMessage) :
    Always (only Operation.PassesOn) (acknowledge brokerMsg) :=
  Always.bind (Always.perform fun _ => trivial) fun _ => Always.pure _

theorem failMessage_passesOn (retryPublisher : Publisher) (brokerMsg : BrokerMessage)
    (msg : ForwardedMessage) :
    Always (only Operation.PassesOn) (failMessage library opts retryPublisher brokerMsg msg) := by
  refine Always.bind (Always.perform fun _ => trivial) ?_
  intro now
  have fails : Always (only Operation.PassesOn) (hasBeenFailingFor (msg.markFailed now)) := by
    unfold hasBeenFailingFor
    split
    · exact Always.pure _
    · exact Always.perform fun _ => trivial
  apply fails.bind
  intro failingFor
  split
  · exact acknowledge_passesOn brokerMsg
  · cases library.marshal (msg.markFailed now) with
    | error err => exact acknowledge_passesOn brokerMsg
    | ok msgBytes =>
        refine Always.bind (Always.perform fun _ => trivial) ?_
        intro failed
        cases failed with
        | none => exact acknowledge_passesOn brokerMsg
        | some err => exact Always.pure _

theorem finished_passesOn (callback : Callback) (forwardingErr : Option Failure) :
    Always (only Operation.PassesOn) (finished library opts callback forwardingErr) := by
  cases forwardingErr with
  | some err => exact failMessage_passesOn library opts _ _ _
  | none => exact acknowledge_passesOn _

theorem publishLocally_passesOn (retryPublisher : Publisher) (brokerMsg : BrokerMessage)
    (msg : ForwardedMessage) (outboundMessage : OutboundMessage) :
    Always (only Operation.PassesOn)
      (publishLocally library opts retryPublisher brokerMsg msg outboundMessage) := by
  have fails (err : Failure) : Always (only Operation.PassesOn)
      (do
        failMessage library opts retryPublisher brokerMsg msg
        return some err) :=
    (failMessage_passesOn library opts _ _ _).bind fun _ => Always.pure _
  unfold publishLocally
  cases outboundMessage.toAddress with
  | none => exact fun _ => trivial
  | some address =>
      apply (publisherFor_only ⟨trivial, trivial⟩ fun _ => trivial).bind
      intro result
      cases result with
      | error err => exact fails _
      | ok publisher =>
          refine Always.bind (Always.perform fun _ => trivial) ?_
          intro failed
          cases failed with
          | some err => exact fails _
          | none => exact (acknowledge_passesOn brokerMsg).bind fun _ => Always.pure _

theorem delayRetry_passesOn (msg : ForwardedMessage) :
    Always (only Operation.PassesOn) (delayRetry opts msg) := by
  have lasts : Always (only Operation.PassesOn) (durationSinceLastFailure msg) := by
    unfold durationSinceLastFailure
    split
    · exact Always.pure _
    · exact Always.perform fun _ => trivial
  unfold delayRetry
  split
  · apply lasts.bind
    intro duration
    split
    · exact Always.perform fun _ => trivial
    · exact Always.pure _
  · exact Always.pure _

end Forwarding

end Tassis.Service
