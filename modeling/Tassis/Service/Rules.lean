import Tassis.Service.Forwarding

/-! # What each goroutine does

Rules for the operations of each kind of goroutine, and the proof that the code
obeys them. Everything known about the service as a whole is derived from these
rules.
-/

namespace Tassis.Service

open Model
open Program (Obeys obeys_bind obeys_done obeys_perform obeys_pure)

variable (library : Library) (opts : Opts)

/-! ## Views -/

/-- Why a goroutine may ack the message it is working on. -/
inductive Settlement where
  | pending
  /-- It was published elsewhere, or the remote host has it. -/
  | handedOn
  /-- It had been failing since this time for longer than the timeout. -/
  | expired (firstFailed : Int)
  deriving DecidableEq, Repr

/-- What a goroutine has seen so far. -/
structure View where
  nonce : Text
  /-- The client's message that is being handled. -/
  message : Option Message
  identityKey : Option Text
  deviceId : Option Text
  /-- The broker's message that is being handled. -/
  delivery : Option BrokerMessage
  /-- When the message that is being handled was marked as failed. -/
  failedAt : Option Int
  settlement : Settlement
  deriving DecidableEq, Repr

namespace View

def initial (nonce : Text) : View := ⟨nonce, none, none, none, none, none, .pending⟩

def next (view : View) : (operation : Operation) → Reply operation → View
  | .nextMessage, some msg => { view with message := some msg }
  | .storeIdentityKey identityKey, _ => { view with identityKey := some identityKey }
  | .storeDeviceId deviceId, _ => { view with deviceId := some deviceId }
  | .findAcker _, some brokerMsg => { view with delivery := some brokerMsg }
  | .nextDelivery _, some brokerMsg =>
      { view with delivery := some brokerMsg, failedAt := none, settlement := .pending }
  | .publish .., none => { view with settlement := .handedOn }
  | .nowUnixMillis, now => { view with failedAt := some now, settlement := .pending }
  | .durationSince millis, duration =>
      { view with settlement :=
          if view.failedAt.isSome ∧ opts.forwardingTimeout < duration then .expired millis
          else view.settlement }
  | _, _ => view

variable {opts} {view : View} {operation : Operation}

theorem next_message (other : operation ≠ .nextMessage) (reply : Reply operation) :
    (view.next opts operation reply).message = view.message := by
  cases operation <;> try rfl
  case nextMessage => exact absurd rfl other
  all_goals cases reply <;> rfl

theorem next_identityKey (other : ∀ identityKey, operation ≠ .storeIdentityKey identityKey)
    (reply : Reply operation) :
    (view.next opts operation reply).identityKey = view.identityKey := by
  cases operation <;> try rfl
  case storeIdentityKey identityKey => exact absurd rfl (other identityKey)
  all_goals cases reply <;> rfl

/-- The goroutine acts for this address. -/
def ActsFor (view : View) (address : Address) : Prop :=
  view.identityKey = some address.identityKey ∧ view.deviceId = some address.deviceId

/-- Between two messages, either both parts of the identity are stored or none. -/
def Consistent (view : View) : Prop :=
  view.identityKey = none ∧ view.deviceId = none ∨
    ∃ address, view.ActsFor address ∧ address.identityKey ≠ []

end View

/-- A message proves that its sender owns an address: it is a login for the
address, with the nonce of the connection and a signature that verifies. -/
def Proves (msg : Message) (nonce : Text) (address : Address) : Prop :=
  ∃ authResponse login, msg.payload = some (.authResponse authResponse) ∧
    library.unmarshalLogin authResponse.login = .ok login ∧
    login.address = some address ∧ login.nonce = nonce ∧
    library.verify address.identityKey authResponse.login authResponse.signature = some true

theorem Proves.identityKey_ne {library : Library} {msg : Message} {nonce : Text}
    {address : Address} (proves : Proves library msg nonce address) :
    address.identityKey ≠ [] := by
  rcases proves with ⟨_, _, _, _, _, _, verified⟩
  intro empty
  rw [empty] at verified
  exact library.verify_nil _ _ verified

/-- The message is not one from another client. -/
def Ordinary (msg : Message) : Prop :=
  ∀ data, msg.payload ≠ some (.inboundMessage data)

/-- The message asks to send something to an address. -/
def Sends (msg : Message) (outboundMessage : OutboundMessage) (address : Address) : Prop :=
  msg.payload = some (.outboundMessage outboundMessage) ∧
    outboundMessage.toAddress = some address

/-- The message is a login with the right nonce that makes its handler panic: it has no
address, or a signature that `Verify` panics on. -/
def LoginPanics (msg : Message) (nonce : Text) : Prop :=
  ∃ authResponse login, msg.payload = some (.authResponse authResponse) ∧
    library.unmarshalLogin authResponse.login = .ok login ∧ login.nonce = nonce ∧
    (login.address = none ∨ ∃ address, login.address = some address ∧
      library.verify address.identityKey authResponse.login authResponse.signature = none)

/-- The message asks to send something to nobody. -/
def SendsWithoutAddress (msg : Message) : Prop :=
  ∃ outboundMessage, msg.payload = some (.outboundMessage outboundMessage) ∧
    outboundMessage.toAddress = none

/-! ## Rules -/

/-- The kinds of goroutines. -/
inductive Kind where
  /-- The loop over the client's messages. -/
  | outbound
  /-- The first messages to a client, and the check of its pre-keys. -/
  | notifying
  /-- The loop over the messages of a topic for the client. -/
  | inbound (topic : Text)
  /-- Setting up the other background goroutines. -/
  | starting
  | forwarding
  | transferring
  deriving DecidableEq, Repr

/-- The background goroutines work on the topics meant for them. -/
def Routine.InBackground : Routine → Prop
  | .forwardMessages subscriber retryPublisher | .forwardLoop subscriber retryPublisher =>
      IsForwarding subscriber.topic ∧ retryPublisher.topic = forwardingRetryTopic
  | .userTransfers publisher => publisher.topic = forwardingTopic
  | _ => False

namespace View

/-- The loop over the client's messages acts for the address that was proved,
and does what is reserved to anonymous clients only before. -/
def OutboundAllows (view : View) : Operation → Prop
  | .storeIdentityKey identityKey =>
      view.identityKey = none ∧ view.deviceId = none ∧ identityKey ≠ [] ∧
        ∃ msg deviceId, view.message = some msg ∧
          Proves library msg view.nonce ⟨identityKey, deviceId⟩
  | .storeDeviceId deviceId =>
      view.deviceId = none ∧ ∃ msg identityKey, view.identityKey = some identityKey ∧
        view.message = some msg ∧ Proves library msg view.nonce ⟨identityKey, deviceId⟩
  | .register identityKey deviceId _ | .unregister identityKey deviceId =>
      view.ActsFor ⟨identityKey, deviceId⟩
  | .announce address tassisHost => view.ActsFor address ∧ tassisHost = opts.publicAddr
  | .newSubscriber topic => ∃ address, view.ActsFor address ∧ topic = topicForAddr library address
  | .go (.handleInbound subscriber) =>
      ∃ address, view.ActsFor address ∧ subscriber.topic = topicForAddr library address
  | .go routine => routine = .warnPreKeysLowIfNecessary
  | .requestPreKeys _ | .findChatNumberByShortNumber _ | .findChatNumberByIdentityKey _
  | .authorizeUpload => view.identityKey = none
  | .publish publisher data =>
      view.identityKey = none ∧ ∃ msg outboundMessage address, view.message = some msg ∧
        Sends msg outboundMessage address ∧
        (publisher.topic = topicForAddr library address ∧
            data = outboundMessage.unidentifiedSenderMessage ∨
          publisher.topic = forwardingTopic ∧
            library.marshal ⟨some outboundMessage, 0, 0⟩ = .ok data)
  | .send msg => Ordinary msg
  | .ack brokerMsg => view.delivery = some brokerMsg
  | .cachePublisher topic publisher => publisher.topic = topic
  | .authNonce | .nextMessage | .close | .loadIdentityKey | .loadDeviceId | .findAcker _
  | .deleteAcker _ | .registerChatNumber .. | .find _ | .newPublisher _ | .cachedPublisher _ =>
      True
  | _ => False

def NotifyingAllows : Operation → Prop
  | .send msg => Ordinary msg
  | .authNonce | .nextSequence | .loadIdentityKey | .loadDeviceId | .preKeysRemaining ..
  | .sleepUnlessClosed _ => True
  | _ => False

/-- The loop over the messages for a client passes on what its topic delivers. -/
def InboundAllows (view : View) (topic : Text) : Operation → Prop
  | .nextDelivery subscriber => subscriber.topic = topic
  | .storeAcker _ brokerMsg => view.delivery = some brokerMsg
  | .send msg => ∃ brokerMsg, view.delivery = some brokerMsg ∧ brokerMsg.topic = topic ∧
      msg.payload = some (.inboundMessage brokerMsg.data)
  | .nextSequence | .closeSubscriber _ => True
  | _ => False

def StartingAllows : Operation → Prop
  | .newSubscriber topic => IsForwarding topic
  | .cachePublisher topic publisher => publisher.topic = topic
  | .go routine => routine.InBackground
  | .newPublisher _ | .cachedPublisher _ => True
  | _ => False

/-- A goroutine that forwards acks the message it is working on once it is
settled: published to its recipient, published for a retry with the time of the
first failure, taken over by the remote host, or failing for too long. -/
def ForwardingAllows (view : View) : Operation → Prop
  | .nextDelivery subscriber => IsForwarding subscriber.topic
  | .ack brokerMsg => view.delivery = some brokerMsg ∧
      (view.settlement = .pending → ∃ err, library.unmarshal brokerMsg.data = .error err)
  | .durationSince millis => ∀ now, view.failedAt = some now →
      ∃ brokerMsg msg, view.delivery = some brokerMsg ∧
        library.unmarshal brokerMsg.data = .ok msg ∧ millis = (msg.markFailed now).firstFailed
  | .publish publisher data => ∃ brokerMsg msg, view.delivery = some brokerMsg ∧
      library.unmarshal brokerMsg.data = .ok msg ∧
      ((∃ outboundMessage address, msg.message = some outboundMessage ∧
          outboundMessage.toAddress = some address ∧
          publisher.topic = topicForAddr library address ∧
          data = outboundMessage.unidentifiedSenderMessage) ∨
        publisher.topic = forwardingRetryTopic ∧ ∃ now, view.failedAt = some now ∧
          library.marshal (msg.markFailed now) = .ok data)
  | .storeCallback _ callback => view.delivery = some callback.brokerMsg ∧
      library.unmarshal callback.brokerMsg.data = .ok callback.msg ∧
      callback.retryPublisher.topic = forwardingRetryTopic
  | .sendTo _ msg => ∃ brokerMsg forwarded outboundMessage, view.delivery = some brokerMsg ∧
      library.unmarshal brokerMsg.data = .ok forwarded ∧
      forwarded.message = some outboundMessage ∧
      msg.payload = some (.outboundMessage outboundMessage)
  | .cachePublisher topic publisher => publisher.topic = topic
  | .find _ | .newPublisher _ | .cachedPublisher _ | .nowUnixMillis | .sleep _ | .connectTo _
  | .nextForwarderSequence => True
  | _ => False

/-- A transfer acks a message once it is on the forwarding topic. -/
def TransferringAllows (view : View) : Operation → Prop
  | .ack brokerMsg => view.delivery = some brokerMsg ∧ view.settlement = .handedOn
  | .publish publisher data => publisher.topic = forwardingTopic ∧
      ∃ brokerMsg address, view.delivery = some brokerMsg ∧
        brokerMsg.topic = topicForAddr library address ∧
        library.marshal ⟨some ⟨some address, brokerMsg.data⟩, 0, 0⟩ = .ok data
  | .newSubscriber topic => ∃ address, topic = topicForAddr library address
  | .nextDelivery subscriber => ∃ address, subscriber.topic = topicForAddr library address
  | .unregister .. | .allRegisteredDevices | .find _ | .closeSubscriber _ | .sleep _ => True
  | _ => False

def Allows (view : View) (kind : Kind) : Operation → Prop :=
  match kind with
  | .outbound => view.OutboundAllows library opts
  | .notifying => NotifyingAllows
  | .inbound topic => view.InboundAllows topic
  | .starting => StartingAllows
  | .forwarding => view.ForwardingAllows library
  | .transferring => view.TransferringAllows library

/-- The replies that a goroutine can count on. Only the loop over the client's
messages uses the nonce and writes the identity, so it knows what is stored. -/
def Expects (view : View) (finds : Option Address → Text → Prop) (kind : Kind) :
    (operation : Operation) → Reply operation → Prop
  | .authNonce, nonce => kind = .outbound → nonce = view.nonce
  | .loadIdentityKey, identityKey => kind = .outbound → identityKey = view.identityKey
  | .loadDeviceId, deviceId => kind = .outbound → deviceId = view.deviceId
  | .newSubscriber topic, result => ∀ subscriber, result = .ok subscriber →
      subscriber.topic = topic
  | .nextDelivery subscriber, result => ∀ brokerMsg, result = some brokerMsg →
      brokerMsg.topic = subscriber.topic
  | .newPublisher topic, result => ∀ publisher, result = .ok publisher →
      publisher.topic = topic
  | .cachedPublisher topic, result => ∀ publisher, result = some publisher →
      publisher.topic = topic
  | .find address, result => ∀ tassisHost, result = .ok tassisHost → finds address tassisHost
  | .nowUnixMillis, now => 0 < now
  | _, _ => True

end View

/-- What is supposed of the rest of the system. -/
structure Environment where
  /-- The hosts at which the presence repository can find an address. -/
  finds : Option Address → Text → Prop
  /-- Crashes are of no concern. -/
  mayCrash : Prop

/-- Nothing is supposed. -/
def Environment.any : Environment := ⟨fun _ _ => True, True⟩

def rules (environment : Environment) (kind : Kind) :
    Program.Rules Operation Reply View where
  allows view := view.Allows library opts kind
  replies view := view.Expects environment.finds kind
  next := View.next opts
  mayCrash _ := environment.mayCrash

/-! ## Shared pieces -/

variable {library : Library} {opts : Opts} {environment : Environment} {kind : Kind}
  {view : View}

/-- The kinds of goroutines that look up publishers. -/
def Kind.Publishes (kind : Kind) : Prop :=
  kind = .outbound ∨ kind = .starting ∨ kind = .forwarding

theorem publisherFor_obeys (publishes : kind.Publishes) {topic : Text}
    {post : View → Except Failure Publisher → Prop} (failed : ∀ err, post view (.error err))
    (found : ∀ publisher, publisher.topic = topic → post view (.ok publisher)) :
    Obeys (rules library opts environment kind) post (publisherFor topic) view := by
  have cachedAllowed : view.Allows library opts kind (.cachedPublisher topic) := by
    rcases publishes with rfl | rfl | rfl <;> trivial
  have newAllowed : view.Allows library opts kind (.newPublisher topic) := by
    rcases publishes with rfl | rfl | rfl <;> trivial
  have cacheAllowed : ∀ publisher, publisher.topic = topic →
      view.Allows library opts kind (.cachePublisher topic publisher) := by
    intro publisher onTopic
    rcases publishes with rfl | rfl | rfl <;> exact onTopic
  simp only [publisherFor, obeys_bind, obeys_perform]
  refine ⟨cachedAllowed, ?_⟩
  intro cached expected
  cases cached with
  | some publisher => exact found publisher (expected publisher rfl)
  | none =>
      refine ⟨newAllowed, ?_⟩
      intro result expected
      cases result with
      | error err => exact failed err
      | ok publisher =>
          have onTopic := expected publisher rfl
          exact ⟨cacheAllowed publisher onTopic, fun _ _ => found publisher onTopic⟩

theorem ordinary_of_payload {msg : Message} {payload : Payload}
    (hasPayload : msg.payload = some payload)
    (different : ∀ data, payload ≠ .inboundMessage data) : Ordinary msg := by
  intro data equal
  rw [hasPayload] at equal
  exact different data (Option.some.inj equal)

/-! ## The loop over the client's messages -/

section Outbound

/-- Nothing is said about the end of a task but that the identity is complete. -/
def EndsConsistent {α : Type} (view : View) (_ : α) : Prop := view.Consistent

theorem send_obeys {sequence : Nat} {payload : Payload} {post : View → Unit → Prop}
    (different : ∀ data, payload ≠ .inboundMessage data) (holds : post view ()) :
    Obeys (rules library opts environment .outbound) post (send ⟨sequence, some payload⟩) view :=
  ⟨ordinary_of_payload rfl different, fun _ _ => holds⟩

theorem error_obeys {msg : Message} {err : Failure} {post : View → Unit → Prop}
    (holds : post view ()) :
    Obeys (rules library opts environment .outbound) post (error msg err) view :=
  send_obeys (by simp) holds

theorem ack_obeys {msg : Message} {post : View → Unit → Prop} (holds : post view ()) :
    Obeys (rules library opts environment .outbound) post (ack msg) view :=
  send_obeys (by simp) holds

theorem getIdentityKey_obeys {post : View → Text → Prop}
    (holds : post view (view.identityKey.getD [])) :
    Obeys (rules library opts environment .outbound) post getIdentityKey view := by
  simp only [getIdentityKey, obeys_bind, obeys_perform]
  refine ⟨trivial, ?_⟩
  rintro _ expected
  cases expected rfl
  exact holds

theorem getDeviceId_obeys {post : View → Text → Prop}
    (holds : post view (view.deviceId.getD [])) :
    Obeys (rules library opts environment .outbound) post getDeviceId view := by
  simp only [getDeviceId, obeys_bind, obeys_perform]
  refine ⟨trivial, ?_⟩
  rintro _ expected
  cases expected rfl
  exact holds

/-- What a handler for authenticated clients knows. -/
theorem getAddress_obeys {address : Address} (actsFor : view.ActsFor address) {α : Type}
    {next : Text → Text → Task α} {post : View → α → Prop}
    (obeys : Obeys (rules library opts environment .outbound) post
      (next address.identityKey address.deviceId) view) :
    Obeys (rules library opts environment .outbound) post
      (do
        let identityKey ← getIdentityKey
        let deviceId ← getDeviceId
        next identityKey deviceId) view := by
  rw [obeys_bind]
  apply getIdentityKey_obeys
  rw [obeys_bind]
  apply getDeviceId_obeys
  rw [actsFor.1, actsFor.2]
  exact obeys

theorem ifAuthenticated_obeys {msg : Message} {handler : Task Unit}
    (consistent : view.Consistent)
    (obeys : ∀ address, view.ActsFor address →
      Obeys (rules library opts environment .outbound) EndsConsistent handler view) :
    Obeys (rules library opts environment .outbound) EndsConsistent
      (ifAuthenticated msg handler) view := by
  simp only [ifAuthenticated, isAuthenticated, obeys_bind]
  apply getIdentityKey_obeys
  rcases consistent with ⟨noKey, noDevice⟩ | ⟨address, actsFor, nonempty⟩
  · simp only [noKey, Option.getD_none, obeys_pure]
    exact error_obeys (Or.inl ⟨noKey, noDevice⟩)
  · simpa [actsFor.1, nonempty] using obeys address actsFor

theorem ifAnonymous_obeys {msg : Message} {handler : Task Unit}
    (consistent : view.Consistent)
    (obeys : view.identityKey = none → view.deviceId = none →
      Obeys (rules library opts environment .outbound) EndsConsistent handler view) :
    Obeys (rules library opts environment .outbound) EndsConsistent
      (ifAnonymous msg handler) view := by
  simp only [ifAnonymous, isAuthenticated, obeys_bind]
  apply getIdentityKey_obeys
  rcases consistent with ⟨noKey, noDevice⟩ | ⟨address, actsFor, nonempty⟩
  · simpa [noKey] using obeys noKey noDevice
  · have complete : view.Consistent := Or.inr ⟨address, actsFor, nonempty⟩
    simpa [actsFor.1, nonempty] using error_obeys complete

theorem handleACK_obeys (msg : Message) (consistent : view.Consistent) :
    Obeys (rules library opts environment .outbound) EndsConsistent (handleACK msg) view := by
  simp only [handleACK, obeys_bind, obeys_perform]
  refine ⟨trivial, ?_⟩
  intro found _
  cases found with
  | none => exact consistent
  | some brokerMsg =>
      refine ⟨rfl, ?_⟩
      intro failed _
      cases failed with
      | some err => exact consistent
      | none => exact ⟨trivial, fun _ _ => consistent⟩

theorem handleRegister_obeys (msg : Message) (register : Register) {address : Address}
    (actsFor : view.ActsFor address) (consistent : view.Consistent) :
    Obeys (rules library opts environment .outbound) EndsConsistent
      (handleRegister opts msg register)
      view := by
  apply getAddress_obeys actsFor
  rw [obeys_bind, obeys_perform]
  refine ⟨⟨actsFor, rfl⟩, ?_⟩
  intro failed _
  cases failed with
  | some err => exact error_obeys consistent
  | none =>
      dsimp only
      rw [obeys_bind, obeys_perform]
      refine ⟨actsFor, ?_⟩
      intro failed _
      cases failed with
      | some err => exact error_obeys consistent
      | none => exact ack_obeys consistent

theorem handleUnregister_obeys (msg : Message) {address : Address}
    (actsFor : view.ActsFor address) (consistent : view.Consistent) :
    Obeys (rules library opts environment .outbound) EndsConsistent
      (handleUnregister msg) view := by
  apply getAddress_obeys actsFor
  rw [obeys_bind, obeys_perform]
  refine ⟨actsFor, ?_⟩
  intro failed _
  cases failed with
  | some err => exact error_obeys consistent
  | none => exact ack_obeys consistent

theorem handleRequestPreKeys_obeys (msg : Message) (request : RequestPreKeys)
    (anonymous : view.identityKey = none) (consistent : view.Consistent) :
    Obeys (rules library opts environment .outbound) EndsConsistent
      (handleRequestPreKeys msg request)
      view := by
  rw [handleRequestPreKeys, obeys_bind, obeys_perform]
  refine ⟨anonymous, ?_⟩
  intro result _
  cases result with
  | error err => exact error_obeys consistent
  | ok preKeys => exact send_obeys (by simp) consistent

theorem authorizeUploads_obeys (anonymous : view.identityKey = none) (remaining : Nat)
    (authorizations : List UploadAuthorization) (finalErr : Option Failure) :
    Obeys (rules library opts environment .outbound) (fun view' _ => view' = view)
      (authorizeUploads remaining authorizations finalErr) view := by
  induction remaining generalizing authorizations finalErr with
  | zero => exact rfl
  | succ remaining induction =>
      rw [authorizeUploads, obeys_bind, obeys_perform]
      refine ⟨anonymous, ?_⟩
      intro result _
      cases result with
      | error err => exact induction authorizations (some err)
      | ok auth => exact induction (authorizations ++ [auth]) finalErr

theorem handleRequestUploadAuthorizations_obeys (msg : Message) (numRequested : Int)
    (anonymous : view.identityKey = none) (consistent : view.Consistent) :
    Obeys (rules library opts environment .outbound) EndsConsistent
      (handleRequestUploadAuthorizations msg numRequested) view := by
  rw [handleRequestUploadAuthorizations, obeys_bind]
  apply (authorizeUploads_obeys anonymous numRequested.toNat [] none).mono
  rintro _ ⟨authorizations, finalErr⟩ rfl
  dsimp only
  split
  · cases finalErr with
    | some err => exact error_obeys consistent
    | none => exact consistent
  · exact send_obeys (by simp) consistent

theorem handleFindChatNumberByShortNumber_obeys (msg : Message) (shortNumber : Text)
    (anonymous : view.identityKey = none) (consistent : view.Consistent) :
    Obeys (rules library opts environment .outbound) EndsConsistent
      (handleFindChatNumberByShortNumber opts msg shortNumber) view := by
  rw [handleFindChatNumberByShortNumber, obeys_bind, obeys_perform]
  refine ⟨anonymous, ?_⟩
  intro result _
  cases result with
  | error err => exact error_obeys consistent
  | ok number => exact send_obeys (by simp) consistent

theorem handleFindChatNumberByIdentityKey_obeys (msg : Message) (identityKey : Text)
    (anonymous : view.identityKey = none) (consistent : view.Consistent) :
    Obeys (rules library opts environment .outbound) EndsConsistent
      (handleFindChatNumberByIdentityKey opts msg identityKey) view := by
  rw [handleFindChatNumberByIdentityKey, obeys_bind, obeys_perform]
  refine ⟨anonymous, ?_⟩
  intro result _
  cases result with
  | error err => exact error_obeys consistent
  | ok numbers => exact send_obeys (by simp) consistent

theorem publishAndAck_obeys (msg : Message) {topic data : Text}
    (allowed : ∀ publisher, publisher.topic = topic →
      view.OutboundAllows library opts (.publish publisher data))
    (consistent : view.Consistent) :
    Obeys (rules library opts environment .outbound) EndsConsistent
      (publishAndAck msg topic data) view := by
  rw [publishAndAck, obeys_bind]
  apply publisherFor_obeys (Or.inl rfl)
  · intro err
    exact error_obeys consistent
  · intro publisher onTopic
    dsimp only
    rw [obeys_bind, obeys_perform]
    refine ⟨allowed publisher onTopic, ?_⟩
    intro failed _
    cases failed with
    | some err => exact error_obeys consistent
    | none => exact ack_obeys consistent

theorem sendOutboundMessage_obeys {msg : Message} {outboundMessage : OutboundMessage}
    (handling : view.message = some msg)
    (payload : msg.payload = some (.outboundMessage outboundMessage))
    (anonymous : view.identityKey = none) (consistent : view.Consistent)
    (crashes : outboundMessage.toAddress = none → (∃ host, environment.finds none host) →
      environment.mayCrash) :
    Obeys (rules library opts environment .outbound) EndsConsistent
      (sendOutboundMessage library opts msg outboundMessage) view := by
  rw [sendOutboundMessage, obeys_bind, obeys_perform]
  refine ⟨trivial, ?_⟩
  intro result found
  cases result with
  | error err => exact error_obeys consistent
  | ok tassisHost =>
      cases recipient : outboundMessage.toAddress with
      | none => exact crashes recipient ⟨tassisHost, recipient ▸ found tassisHost rfl⟩
      | some address =>
          have sends : Sends msg outboundMessage address := ⟨payload, recipient⟩
          dsimp only
          split
          · cases marshalled : library.marshal ⟨some outboundMessage, 0, 0⟩ with
            | error err => exact error_obeys consistent
            | ok data =>
                apply publishAndAck_obeys msg _ consistent
                intro publisher onTopic
                exact ⟨anonymous, msg, outboundMessage, address, handling, sends,
                  Or.inr ⟨onTopic, marshalled⟩⟩
          · apply publishAndAck_obeys msg _ consistent
            intro publisher onTopic
            exact ⟨anonymous, msg, outboundMessage, address, handling, sends,
              Or.inl ⟨onTopic, rfl⟩⟩

theorem tryNumbers_obeys (identityKey : Text) {preferredNumber : Text}
    (long : 12 ≤ preferredNumber.length) (rounds iter : Nat) :
    Obeys (rules library opts environment .outbound) (fun view' _ => view' = view)
      (tryNumbers identityKey preferredNumber rounds iter) view := by
  induction rounds generalizing iter with
  | zero => trivial
  | succ rounds induction =>
      rw [tryNumbers, if_neg (by omega), obeys_bind, obeys_perform]
      refine ⟨trivial, ?_⟩
      intro result _
      cases result with
      | ok numbers => exact rfl
      | error err =>
          dsimp only
          split
          · exact induction (iter + 1)
          · exact rfl

theorem getNumber_obeys (long : 12 ≤ (library.number (view.identityKey.getD [])).length) :
    Obeys (rules library opts environment .outbound) (fun
      view' _ => view' = view) (getNumber library)
      view := by
  rw [getNumber, obeys_bind]
  apply getIdentityKey_obeys
  exact tryNumbers_obeys _ long _ _

theorem startHandlingInbound_obeys {address : Address} (actsFor : view.ActsFor address) :
    Obeys (rules library opts environment .outbound) (fun view' _ => view' = view)
      (startHandlingInbound library) view := by
  apply getAddress_obeys actsFor
  rw [obeys_bind, obeys_perform]
  refine ⟨⟨address, actsFor, rfl⟩, ?_⟩
  intro result expected
  cases result with
  | error err => exact rfl
  | ok subscriber => exact ⟨⟨address, actsFor, expected subscriber rfl⟩, fun _ _ => rfl⟩

theorem startSession_obeys (msg : Message) (number shortNumber : Text) {address : Address}
    (actsFor : view.ActsFor address) (nonempty : address.identityKey ≠ []) :
    Obeys (rules library opts environment .outbound) EndsConsistent
      (startSession library opts msg number shortNumber) view := by
  have consistent : view.Consistent := Or.inr ⟨address, actsFor, nonempty⟩
  rw [startSession, obeys_bind]
  apply (startHandlingInbound_obeys actsFor).mono
  rintro _ failed rfl
  cases failed with
  | some err => exact error_obeys consistent
  | none =>
      dsimp only
      split
      · rw [obeys_bind]
        exact ⟨rfl, fun _ _ => send_obeys (by simp) consistent⟩
      · exact send_obeys (by simp) consistent

theorem completeLogin_obeys (msg : Message) {address : Address}
    (actsFor : view.ActsFor address) (nonempty : address.identityKey ≠ [])
    (long : 12 ≤ (library.number address.identityKey).length) :
    Obeys (rules library opts environment .outbound) EndsConsistent (completeLogin library opts msg)
      view := by
  rw [completeLogin, obeys_bind]
  apply (getNumber_obeys (by rw [actsFor.1]; exact long)).mono
  rintro _ result rfl
  cases result with
  | ok numbers => exact startSession_obeys msg numbers.1 numbers.2 actsFor nonempty
  | error err =>
      dsimp only
      rw [obeys_bind]
      apply error_obeys
      rw [obeys_bind]
      exact ⟨trivial, fun _ _ => startSession_obeys msg [] [] actsFor nonempty⟩

theorem handleAuthResponse_obeys {msg : Message} {authResponse : AuthResponse}
    (handling : view.message = some msg)
    (payload : msg.payload = some (.authResponse authResponse))
    (noKey : view.identityKey = none) (noDevice : view.deviceId = none)
    (crashes : LoginPanics library msg view.nonce → environment.mayCrash) :
    Obeys (rules library opts environment .outbound) EndsConsistent
      (handleAuthResponse library opts msg authResponse) view := by
  have refused : ∀ err, Obeys (rules library opts environment .outbound) EndsConsistent
      (do
        error msg err
        perform .close) view := by
    intro err
    rw [obeys_bind]
    exact error_obeys ⟨trivial, fun _ _ => Or.inl ⟨noKey, noDevice⟩⟩
  unfold handleAuthResponse
  cases decoded : library.unmarshalLogin authResponse.login with
  | error err => exact refused err
  | ok login =>
      dsimp only
      rw [obeys_bind, obeys_perform]
      refine ⟨trivial, ?_⟩
      intro authNonce expected
      cases expected rfl
      split
      · exact refused (.typed errUnauthorized)
      · rename_i sameNonce
        have ownNonce : login.nonce = view.nonce := (not_not.mp sameNonce).symm
        cases found : login.address with
        | none =>
            exact crashes ⟨authResponse, login, payload, decoded, ownNonce, Or.inl found⟩
        | some address =>
            dsimp only
            split
            · rename_i panics
              exact crashes ⟨authResponse, login, payload, decoded, ownNonce,
                Or.inr ⟨address, found, panics⟩⟩
            · exact refused (.typed errUnauthorized)
            · rename_i verified
              have proves : Proves library msg view.nonce address :=
                ⟨authResponse, login, payload, decoded, found, ownNonce, verified⟩
              have nonempty := proves.identityKey_ne
              rw [obeys_bind]
              refine ⟨⟨noKey, noDevice, nonempty, msg, address.deviceId, handling, proves⟩, ?_⟩
              intro _ _
              rw [obeys_done, obeys_bind]
              refine ⟨⟨noDevice, msg, address.identityKey, rfl, handling, proves⟩, ?_⟩
              intro _ _
              exact completeLogin_obeys msg ⟨rfl, rfl⟩ nonempty
                (library.number_length _ _ _ verified)

/-- Handling a message obeys the rules, and crashes at most for a login that panics or a
message to send without an address. -/
theorem doHandleOutboundMessage_obeys {msg : Message} (handling : view.message = some msg)
    (consistent : view.Consistent)
    (crashes : view.identityKey = none → LoginPanics library msg view.nonce ∨
      SendsWithoutAddress msg ∧ (∃ host, environment.finds none host) →
        environment.mayCrash) :
    Obeys (rules library opts environment .outbound) EndsConsistent
      (doHandleOutboundMessage library opts msg) view := by
  unfold doHandleOutboundMessage
  split
  · exact handleACK_obeys msg consistent
  · rename_i payload
    apply ifAnonymous_obeys consistent
    intro noKey noDevice
    exact handleAuthResponse_obeys handling payload noKey noDevice
      fun absent => crashes noKey (Or.inl absent)
  · apply ifAuthenticated_obeys consistent
    intro address actsFor
    exact handleRegister_obeys msg _ actsFor consistent
  · apply ifAuthenticated_obeys consistent
    intro address actsFor
    exact handleUnregister_obeys msg actsFor consistent
  · apply ifAnonymous_obeys consistent
    intro noKey _
    exact handleRequestPreKeys_obeys msg _ noKey consistent
  · apply ifAnonymous_obeys consistent
    intro noKey _
    exact handleRequestUploadAuthorizations_obeys msg _ noKey consistent
  · apply ifAnonymous_obeys consistent
    intro noKey _
    exact handleFindChatNumberByShortNumber_obeys msg _ noKey consistent
  · apply ifAnonymous_obeys consistent
    intro noKey _
    exact handleFindChatNumberByIdentityKey_obeys msg _ noKey consistent
  · rename_i payload
    apply ifAnonymous_obeys consistent
    intro noKey _
    exact sendOutboundMessage_obeys handling payload noKey consistent
      fun absent found => crashes noKey (Or.inr ⟨⟨_, payload, absent⟩, found⟩)
  · exact consistent

/-- The identity is complete whenever the loop takes the next message. -/
theorem handleOutbound_obeys (mayCrash : environment.mayCrash) (rounds : Nat)
    (consistent : view.Consistent) :
    Obeys (rules library opts environment .outbound) (fun _ _ => True)
      (handleOutbound library opts rounds) view := by
  induction rounds generalizing view with
  | zero => trivial
  | succ rounds induction =>
      rw [handleOutbound, obeys_bind, obeys_perform]
      refine ⟨trivial, ?_⟩
      intro received _
      cases received with
      | none => exact ⟨trivial, fun _ _ => trivial⟩
      | some msg =>
          dsimp only
          rw [obeys_bind]
          have handled : Obeys (rules library opts environment .outbound) EndsConsistent
              (doHandleOutboundMessage library opts msg) { view with message := some msg } :=
            doHandleOutboundMessage_obeys rfl consistent fun _ _ => mayCrash
          exact handled.mono fun _ _ complete => induction complete

end Outbound

/-! ## Notifications -/

section Notifying

theorem notify_obeys {payload : Payload} (different : ∀ data, payload ≠ .inboundMessage data)
    {post : View → Unit → Prop} (holds : post view ()) :
    Obeys (rules library opts environment .notifying) post (notify payload) view := by
  rw [notify, obeys_bind, build, obeys_bind, obeys_perform]
  refine ⟨trivial, ?_⟩
  intro sequence _
  exact ⟨ordinary_of_payload rfl different, fun _ _ => holds⟩

theorem sendInitMessages_obeys :
    Obeys (rules library opts environment .notifying) (fun
      _ _ => True) (sendInitMessages opts) view := by
  rw [sendInitMessages, obeys_bind, obeys_perform]
  refine ⟨trivial, ?_⟩
  intro nonce _
  rw [obeys_bind]
  apply notify_obeys (by simp)
  exact notify_obeys (by simp) trivial

theorem warnPreKeysLow_obeys (result : Except Failure Nat) {post : View → Unit → Prop}
    (holds : post view ()) :
    Obeys (rules library opts environment .notifying) post (warnPreKeysLow opts result) view := by
  unfold warnPreKeysLow
  split
  · split
    · exact notify_obeys (by simp) holds
    · exact holds
  · exact holds

theorem warnPreKeysLowIfNecessary_obeys (rounds : Nat) :
    Obeys (rules library opts environment .notifying) (fun _ _ => True)
      (warnPreKeysLowIfNecessary opts rounds) view := by
  induction rounds with
  | zero => trivial
  | succ rounds induction =>
      rw [warnPreKeysLowIfNecessary, obeys_bind, getIdentityKey, obeys_bind, obeys_perform]
      refine ⟨trivial, ?_⟩
      intro identityKey _
      rw [obeys_pure, obeys_bind, getDeviceId, obeys_bind, obeys_perform]
      refine ⟨trivial, ?_⟩
      intro deviceId _
      rw [obeys_pure, obeys_bind, obeys_perform]
      refine ⟨trivial, ?_⟩
      intro result _
      rw [obeys_bind]
      apply warnPreKeysLow_obeys result
      rw [obeys_bind, obeys_perform]
      refine ⟨trivial, ?_⟩
      intro continues _
      cases continues with
      | false => trivial
      | true => exact induction

end Notifying

/-! ## The loop over the messages for a client -/

theorem handleInbound_obeys (subscriber : Subscriber) (rounds : Nat) :
    Obeys (rules library opts environment (.inbound subscriber.topic)) (fun _ _ => True)
      (handleInbound subscriber rounds) view := by
  induction rounds generalizing view with
  | zero => trivial
  | succ rounds induction =>
      rw [handleInbound, obeys_bind, obeys_perform]
      refine ⟨rfl, ?_⟩
      intro delivered expected
      cases delivered with
      | none => exact ⟨trivial, fun _ _ => trivial⟩
      | some brokerMsg =>
          have onTopic := expected brokerMsg rfl
          dsimp only
          rw [obeys_bind, handleInboundMessage, obeys_bind, build, obeys_bind, obeys_perform]
          refine ⟨trivial, ?_⟩
          intro sequence _
          rw [obeys_pure, obeys_bind]
          refine ⟨rfl, ?_⟩
          intro _ _
          exact ⟨⟨brokerMsg, rfl, onTopic, rfl⟩, fun _ _ => induction⟩

/-! ## Starting the background goroutines -/

section Starting

theorem goAll_obeys {routines : List Routine}
    (inBackground : ∀ routine, routine ∈ routines → routine.InBackground) :
    Obeys (rules library opts environment .starting) (fun _ _ => True) (goAll routines) view := by
  induction routines with
  | nil => trivial
  | cons routine routines induction =>
      rw [goAll, obeys_bind]
      refine ⟨inBackground routine (by simp), ?_⟩
      intro _ _
      exact induction fun other member => inBackground other (by simp [member])

theorem forwardMessages_obeys {subscriber : Subscriber} {retryPublisher : Publisher}
    (inBackground : (Routine.forwardMessages subscriber retryPublisher).InBackground) :
    Obeys (rules library opts environment .starting) (fun _ _ => True)
      (forwardMessages opts subscriber retryPublisher) view := by
  apply goAll_obeys
  intro routine member
  rw [(List.mem_replicate.mp member).2]
  exact inBackground

theorem startForwarding_obeys :
    Obeys (rules library opts environment .starting) (fun
      _ _ => True) (startForwarding opts) view := by
  rw [startForwarding, obeys_bind, obeys_perform]
  refine ⟨Or.inl rfl, ?_⟩
  intro result expected
  cases result with
  | error err => trivial
  | ok subscriber =>
      have onTopic := expected subscriber rfl
      dsimp only
      rw [obeys_bind, obeys_perform]
      refine ⟨Or.inr rfl, ?_⟩
      intro result expected
      cases result with
      | error err => trivial
      | ok retrySubscriber =>
          have onRetryTopic := expected retrySubscriber rfl
          dsimp only
          rw [obeys_bind]
          apply publisherFor_obeys (Or.inr (Or.inl rfl))
          · intro err
            trivial
          · intro retryPublisher publishesRetries
            dsimp only
            rw [obeys_bind]
            apply (goAll_obeys _).mono
            · intro _ _ _
              trivial
            · intro routine member
              simp only [List.mem_flatten, List.mem_replicate] at member
              rcases member with ⟨_, ⟨_, rfl⟩, member⟩
              simp only [List.mem_cons, List.not_mem_nil, or_false] at member
              rcases member with rfl | rfl
              · exact ⟨Or.inl onTopic, publishesRetries⟩
              · exact ⟨Or.inr onRetryTopic, publishesRetries⟩

theorem new_obeys :
    Obeys (rules library opts environment .starting) (fun _ _ => True) (new opts) view := by
  rw [new, obeys_bind]
  apply startForwarding_obeys.mono
  intro view' failed _
  cases failed with
  | some err => trivial
  | none =>
      dsimp only
      split
      · rw [obeys_bind, startUserTransfers, obeys_bind]
        apply publisherFor_obeys (Or.inr (Or.inl rfl))
        · intro err
          trivial
        · intro publisher onTopic
          exact ⟨onTopic, fun _ _ => trivial⟩
      · trivial

end Starting

/-! ## Forwarding -/

section Forwarding

variable {brokerMsg : BrokerMessage} {msg : ForwardedMessage} {retryPublisher : Publisher}
  (mayCrash : environment.mayCrash)

theorem acknowledge_obeys (handling : view.delivery = some brokerMsg)
    (settled : view.settlement ≠ .pending) :
    Obeys (rules library opts environment .forwarding) (fun
      _ _ => True) (acknowledge brokerMsg) view := by
  rw [acknowledge, obeys_bind, obeys_perform]
  exact ⟨⟨handling, fun pending => absurd pending settled⟩, fun _ _ => trivial⟩

theorem firstFailed_markFailed_ne_zero (msg : ForwardedMessage) {now : Int} (positive : 0 < now) :
    (msg.markFailed now).firstFailed ≠ 0 := by
  simp only [ForwardedMessage.markFailed]
  split <;> omega

/-- A failure leads to an ack only if a copy was published or the message has
been failing for too long. -/
theorem failMessage_obeys (handling : view.delivery = some brokerMsg)
    (decoded : library.unmarshal brokerMsg.data = .ok msg)
    (publishesRetries : retryPublisher.topic = forwardingRetryTopic) :
    Obeys (rules library opts environment .forwarding) (fun _ _ => True)
      (failMessage library opts retryPublisher brokerMsg msg) view := by
  rw [failMessage, obeys_bind, obeys_perform]
  refine ⟨trivial, ?_⟩
  intro now positive
  have failed := firstFailed_markFailed_ne_zero msg positive
  dsimp only
  rw [hasBeenFailingFor, if_neg failed, obeys_bind]
  refine ⟨?_, ?_⟩
  · rintro _ ⟨⟩
    exact ⟨brokerMsg, msg, handling, decoded, rfl⟩
  · intro failingFor _
    rw [obeys_done]
    by_cases expired : opts.forwardingTimeout < failingFor
    · rw [if_pos expired]
      apply acknowledge_obeys
      · simpa [rules, View.next, expired] using handling
      · simp [rules, View.next, expired]
    · rw [if_neg expired]
      rcases library.unmarshal_marshal (msg.markFailed now) with ⟨data, marshalled, _⟩
      rw [marshalled]
      dsimp only
      rw [obeys_bind, obeys_perform]
      refine ⟨⟨brokerMsg, msg, ?_, decoded, Or.inr ⟨publishesRetries, now, ?_, marshalled⟩⟩, ?_⟩
      · simpa [rules, View.next, expired] using handling
      · simp [rules, View.next, expired]
      · intro failed _
        cases failed with
        | some err => trivial
        | none =>
            apply acknowledge_obeys
            · simpa [rules, View.next, expired] using handling
            · simp [rules, View.next]

theorem forward_obeys {outboundMessage : OutboundMessage}
    (handling : view.delivery = some brokerMsg)
    (decoded : library.unmarshal brokerMsg.data = .ok msg)
    (carries : msg.message = some outboundMessage)
    (publishesRetries : retryPublisher.topic = forwardingRetryTopic) (tassisHost : Text) :
    Obeys (rules library opts environment .forwarding) (fun _ _ => True)
      (forward library opts outboundMessage tassisHost ⟨msg, brokerMsg, retryPublisher⟩)
      view := by
  rw [forward, obeys_bind, obeys_perform]
  refine ⟨trivial, ?_⟩
  intro result _
  cases result with
  | error err => exact failMessage_obeys handling decoded publishesRetries
  | ok _ =>
      dsimp only
      rw [obeys_bind, obeys_perform]
      refine ⟨trivial, ?_⟩
      intro sequence _
      rw [obeys_bind]
      refine ⟨⟨handling, decoded, publishesRetries⟩, ?_⟩
      intro _ _
      exact ⟨⟨brokerMsg, msg, outboundMessage, handling, decoded, carries, rfl⟩,
        fun _ _ => trivial⟩

include mayCrash in
theorem publishLocally_obeys {outboundMessage : OutboundMessage}
    (handling : view.delivery = some brokerMsg)
    (decoded : library.unmarshal brokerMsg.data = .ok msg)
    (carries : msg.message = some outboundMessage)
    (publishesRetries : retryPublisher.topic = forwardingRetryTopic) :
    Obeys (rules library opts environment .forwarding) (fun _ _ => True)
      (publishLocally library opts retryPublisher brokerMsg msg outboundMessage) view := by
  have fails : ∀ err : Failure, Obeys (rules library opts environment .forwarding) (fun _ _ => True)
      (do
        failMessage library opts retryPublisher brokerMsg msg
        return some err) view := by
    intro err
    rw [obeys_bind]
    exact (failMessage_obeys handling decoded publishesRetries).mono fun _ _ _ => trivial
  unfold publishLocally
  cases recipient : outboundMessage.toAddress with
  | none => exact mayCrash
  | some address =>
      dsimp only
      rw [obeys_bind]
      apply publisherFor_obeys (Or.inr (Or.inr rfl))
      · intro err
        exact fails _
      · intro publisher onTopic
        dsimp only
        rw [obeys_bind, obeys_perform]
        refine ⟨⟨brokerMsg, msg, handling, decoded, Or.inl ⟨outboundMessage, address, carries,
          recipient, onTopic, rfl⟩⟩, ?_⟩
        intro failed _
        cases failed with
        | some err => exact fails _
        | none =>
            dsimp only
            rw [obeys_bind]
            refine Program.Obeys.mono (acknowledge_obeys handling ?_) fun _ _ _ => trivial
            simp [rules, View.next]

theorem delayRetry_obeys (msg : ForwardedMessage) (unfailed : view.failedAt = none) :
    Obeys (rules library opts environment .forwarding) (fun
      view' _ => view' = view) (delayRetry opts msg)
      view := by
  unfold delayRetry
  split
  · rename_i failedBefore
    rw [durationSinceLastFailure, if_neg failedBefore, obeys_bind]
    refine ⟨?_, ?_⟩
    · intro now failed
      rw [unfailed] at failed
      cases failed
    · intro duration _
      have unchanged : View.next opts view (.durationSince msg.lastFailed) duration = view := by
        rcases view with ⟨_, _, _, _, _, failedAt, _⟩
        cases unfailed
        rfl
      change Obeys _ _ _ (View.next opts view (.durationSince msg.lastFailed) duration)
      rw [unchanged, obeys_done]
      split
      · exact ⟨trivial, fun _ _ => rfl⟩
      · exact rfl
  · exact rfl

include mayCrash in
theorem forwardMessage_obeys (handling : view.delivery = some brokerMsg)
    (unfailed : view.failedAt = none)
    (publishesRetries : retryPublisher.topic = forwardingRetryTopic) :
    Obeys (rules library opts environment .forwarding) (fun _ _ => True)
      (forwardMessage library opts retryPublisher brokerMsg) view := by
  unfold forwardMessage
  cases decoded : library.unmarshal brokerMsg.data with
  | error err =>
      exact ⟨⟨handling, fun _ => ⟨err, decoded⟩⟩, fun _ _ => trivial⟩
  | ok msg =>
      dsimp only
      rw [obeys_bind]
      refine (delayRetry_obeys msg unfailed).mono ?_
      rintro _ _ rfl
      cases carries : msg.message with
      | none => exact mayCrash
      | some outboundMessage =>
          dsimp only
          rw [obeys_bind, obeys_perform]
          refine ⟨trivial, ?_⟩
          intro result _
          cases result with
          | error err =>
              dsimp only
              rw [obeys_bind]
              exact Program.Obeys.mono (failMessage_obeys handling decoded publishesRetries)
                fun _ _ _ => trivial
          | ok tassisHost =>
              dsimp only
              split
              · exact publishLocally_obeys mayCrash handling decoded carries publishesRetries
              · rw [obeys_bind]
                exact Program.Obeys.mono
                  (forward_obeys handling decoded carries publishesRetries tassisHost)
                  fun _ _ _ => trivial

/-- The callback finds the message settled if the remote host has it. -/
theorem finished_obeys {callback : Callback} (handling : view.delivery = some callback.brokerMsg)
    (decoded : library.unmarshal callback.brokerMsg.data = .ok callback.msg)
    (publishesRetries : callback.retryPublisher.topic = forwardingRetryTopic)
    {forwardingErr : Option Failure}
    (settled : forwardingErr = none → view.settlement = .handedOn) :
    Obeys (rules library opts environment .forwarding) (fun _ _ => True)
      (finished library opts callback forwardingErr) view := by
  cases forwardingErr with
  | some err => exact failMessage_obeys handling decoded publishesRetries
  | none =>
      apply acknowledge_obeys handling
      rw [settled rfl]
      simp

include mayCrash in
theorem forwardLoop_obeys {subscriber : Subscriber}
    (inBackground : (Routine.forwardLoop subscriber retryPublisher).InBackground)
    (rounds : Nat) :
    Obeys (rules library opts environment .forwarding) (fun _ _ => True)
      (forwardLoop library opts subscriber retryPublisher rounds) view := by
  induction rounds generalizing view with
  | zero => trivial
  | succ rounds induction =>
      rw [forwardLoop, obeys_bind, obeys_perform]
      refine ⟨inBackground.1, ?_⟩
      intro delivered _
      cases delivered with
      | none => trivial
      | some brokerMsg =>
          dsimp only
          rw [obeys_bind]
          have handled : Obeys (rules library opts environment .forwarding) (fun _ _ => True)
              (forwardMessage library opts retryPublisher brokerMsg)
              { view with
                delivery := some brokerMsg, failedAt := none, settlement := .pending } :=
            forwardMessage_obeys mayCrash rfl rfl inBackground.2
          exact handled.mono fun _ _ _ => induction

end Forwarding

/-! ## Transfers -/

section Transferring

theorem transferDeviceMessages_obeys {subscriber : Subscriber} {addr : Address}
    {publisher : Publisher} (onTopic : subscriber.topic = topicForAddr library addr)
    (publishesForwarding : publisher.topic = forwardingTopic) (rounds : Nat) :
    Obeys (rules library opts environment .transferring) (fun _ _ => True)
      (transferDeviceMessages library subscriber addr publisher rounds) view := by
  induction rounds generalizing view with
  | zero => trivial
  | succ rounds induction =>
      rw [transferDeviceMessages, obeys_bind, obeys_perform]
      refine ⟨⟨addr, onTopic⟩, ?_⟩
      intro delivered expected
      cases delivered with
      | none => exact ⟨trivial, fun _ _ => trivial⟩
      | some brokerMsg =>
          rcases library.unmarshal_marshal ⟨some ⟨some addr, brokerMsg.data⟩, 0, 0⟩ with
            ⟨data, marshalled, _⟩
          dsimp only
          rw [marshalled]
          dsimp only
          rw [obeys_bind, obeys_perform]
          refine ⟨⟨publishesForwarding, brokerMsg, addr, rfl,
            (expected brokerMsg rfl).trans onTopic, marshalled⟩, ?_⟩
          intro failed _
          cases failed with
          | some err => exact ⟨trivial, fun _ _ => trivial⟩
          | none =>
              dsimp only
              rw [obeys_bind]
              exact ⟨⟨rfl, rfl⟩, fun _ _ => induction⟩

variable {publisher : Publisher}

theorem transferDevice_obeys (publishesForwarding : publisher.topic = forwardingTopic)
    (rounds : Nat) (addr : Address) :
    Obeys (rules library opts environment .transferring) (fun _ _ => True)
      (transferDevice library opts publisher rounds addr) view := by
  rw [transferDevice, obeys_bind, obeys_perform]
  refine ⟨trivial, ?_⟩
  intro result _
  cases result with
  | error err => trivial
  | ok tassisHost =>
      dsimp only
      split
      · trivial
      · rw [obeys_bind, obeys_perform]
        refine ⟨⟨addr, rfl⟩, ?_⟩
        intro result expected
        cases result with
        | error err => trivial
        | ok subscriber =>
            dsimp only
            rw [obeys_bind]
            refine Program.Obeys.mono (transferDeviceMessages_obeys (expected subscriber rfl)
              publishesForwarding rounds) ?_
            intro view' failed _
            cases failed with
            | some err => trivial
            | none => exact ⟨trivial, fun _ _ => trivial⟩

theorem transferDevices_obeys (publishesForwarding : publisher.topic = forwardingTopic)
    (rounds : Nat) (addrs : List Address) :
    Obeys (rules library opts environment .transferring) (fun _ _ => True)
      (transferDevices library opts publisher rounds addrs) view := by
  induction addrs generalizing view with
  | nil => trivial
  | cons addr addrs induction =>
      rw [transferDevices, obeys_bind]
      apply (transferDevice_obeys publishesForwarding rounds addr).mono
      intro view' _ _
      exact induction

theorem userTransfers_obeys (publishesForwarding : publisher.topic = forwardingTopic)
    (rounds : Nat) :
    Obeys (rules library opts environment .transferring) (fun _ _ => True)
      (userTransfers library opts publisher rounds) view := by
  induction rounds generalizing view with
  | zero => trivial
  | succ rounds induction =>
      rw [userTransfers, obeys_bind]
      refine ⟨trivial, ?_⟩
      intro _ _
      rw [obeys_done, obeys_bind, obeys_perform]
      refine ⟨trivial, ?_⟩
      intro result _
      cases result with
      | error err => exact induction
      | ok addrs =>
          dsimp only
          rw [obeys_bind]
          refine Program.Obeys.mono
            (transferDevices_obeys publishesForwarding rounds addrs) ?_
          intro view' _ _
          exact induction

end Transferring

end Tassis.Service
