import Tassis.Service.Operations

/-! # Client connections

The goroutines of a client connection: the loop over the client's messages with
its handlers, the loop over the messages for the client, and the loop that
warns about low pre-keys.
-/

namespace Tassis.Service

open Model

variable (library : Library) (opts : Opts)

/-! ## The connection -/

def build (payload : Payload) : Task Message := do
  let sequence ← perform .nextSequence
  return ⟨sequence, some payload⟩

def send (msg : Message) : Task Unit := perform (.send msg)

/-- Send a message that is not a response. -/
def notify (payload : Payload) : Task Unit := do
  let msg ← build payload
  send msg

def ack (msg : Message) : Task Unit := send (newAck msg)

def error (msg : Message) (err : Failure) : Task Unit := send (newError msg (typedError err))

def getIdentityKey : Task Text := do
  let identityKey ← perform .loadIdentityKey
  return identityKey.getD []

def getDeviceId : Task Text := do
  let deviceId ← perform .loadDeviceId
  return deviceId.getD []

def isAuthenticated : Task Bool := do
  let identityKey ← getIdentityKey
  return identityKey.length ≠ 0

def sendInitMessages : Task Unit := do
  let nonce ← perform .authNonce
  notify (.authChallenge nonce)
  notify (.configuration opts.maxAttachmentSize)

def warnPreKeysLow : Except Failure Nat → Task Unit
  | .ok numPreKeys =>
      if numPreKeys < opts.lowPreKeysLimit then
        notify (.preKeysLow (opts.numPreKeysToRequest % 2 ^ 32))
      else pure ()
  | .error _ => pure ()

def warnPreKeysLowIfNecessary : Nat → Task Unit
  | 0 => .stopped
  | rounds + 1 => do
      let identityKey ← getIdentityKey
      let deviceId ← getDeviceId
      let numPreKeys ← perform (.preKeysRemaining identityKey deviceId)
      warnPreKeysLow opts numPreKeys
      if ← perform (.sleepUnlessClosed opts.checkPreKeysInterval) then
        warnPreKeysLowIfNecessary rounds

/-! ## Messages for the client -/

def handleInboundMessage (brokerMsg : BrokerMessage) : Task Unit := do
  let msg ← build (.inboundMessage brokerMsg.data)
  perform (.storeAcker msg.sequence brokerMsg)
  send msg

/-- The goroutine that `startHandlingInbound` starts. -/
def handleInbound (subscriber : Subscriber) : Nat → Task Unit
  | 0 => .stopped
  | rounds + 1 => do
      match ← perform (.nextDelivery subscriber) with
      | none => perform (.closeSubscriber subscriber)
      | some brokerMsg =>
          handleInboundMessage brokerMsg
          handleInbound subscriber rounds

def startHandlingInbound : Task (Option Failure) := do
  let identityKey ← getIdentityKey
  let deviceId ← getDeviceId
  match ← perform (.newSubscriber (topicFor library identityKey deviceId)) with
  | .error err => return some (.typed (errUnableToOpenSubscriber.withError err))
  | .ok subscriber =>
      perform (.go (.handleInbound subscriber))
      return none

/-! ## Logging in -/

/-- The iterations of `getNumber`, with a bound on how many are left. -/
def tryNumbers (identityKey preferredNumber : Text) :
    Nat → Nat → Task (Except Failure (Text × Text))
  | 0, _ => .stopped
  | rounds + 1, iter => do
      if preferredNumber.length < 12 then .crash
      else
        let (newNumber, newShortNumber, lastChance) := Database.candidate preferredNumber iter
        match ← perform (.registerChatNumber identityKey newNumber newShortNumber) with
        | .ok numbers => return .ok numbers
        | .error err =>
            if err = .typed errNumberTaken ∧ lastChance = false then
              tryNumbers identityKey preferredNumber rounds (iter + 1)
            else return .error err

def getNumber : Task (Except Failure (Text × Text)) := do
  let identityKey ← getIdentityKey
  let preferredNumber := library.number identityKey
  tryNumbers identityKey preferredNumber (preferredNumber.length + 1) 0

/-- The end of `handleAuthResponse`. -/
def startSession (msg : Message) (number shortNumber : Text) : Task Unit := do
  match ← startHandlingInbound library with
  | some err => error msg err
  | none =>
      if 0 < opts.checkPreKeysInterval then perform (.go .warnPreKeysLowIfNecessary)
      send ⟨msg.sequence, some (.chatNumber ⟨number, shortNumber, opts.chatNumberDomain⟩)⟩

/-- The part of `handleAuthResponse` after the identity is stored. A failure to
get a number closes the connection, but the handler goes on. -/
def completeLogin (msg : Message) : Task Unit := do
  match ← getNumber library with
  | .ok (number, shortNumber) => startSession library opts msg number shortNumber
  | .error err =>
      error msg err
      perform .close
      startSession library opts msg [] []

def handleAuthResponse (msg : Message) (authResponse : AuthResponse) : Task Unit := do
  match library.unmarshalLogin authResponse.login with
  | .error err =>
      error msg err
      perform .close
  | .ok login =>
      let authNonce ← perform .authNonce
      if authNonce ≠ login.nonce then
        error msg (.typed errUnauthorized)
        perform .close
      else match login.address with
        | none => .crash
        | some address =>
            match library.verify address.identityKey authResponse.login authResponse.signature with
            | none => .crash
            | some false =>
                error msg (.typed errUnauthorized)
                perform .close
            | some true =>
                perform (.storeIdentityKey address.identityKey)
                perform (.storeDeviceId address.deviceId)
                completeLogin library opts msg

/-! ## The handlers -/

def handleACK (msg : Message) : Task Unit := do
  match ← perform (.findAcker msg.sequence) with
  | none => return
  | some brokerMsg =>
      match ← perform (.ack brokerMsg) with
      | some _ => return
      | none => perform (.deleteAcker msg.sequence)

def handleRegister (msg : Message) (register : Register) : Task Unit := do
  let identityKey ← getIdentityKey
  let deviceId ← getDeviceId
  match ← perform (.announce ⟨identityKey, deviceId⟩ opts.publicAddr) with
  | some err => error msg err
  | none =>
      match ← perform (.register identityKey deviceId register) with
      | some err => error msg err
      | none => ack msg

def handleUnregister (msg : Message) : Task Unit := do
  let identityKey ← getIdentityKey
  let deviceId ← getDeviceId
  match ← perform (.unregister identityKey deviceId) with
  | some err => error msg err
  | none => ack msg

def handleRequestPreKeys (msg : Message) (request : RequestPreKeys) : Task Unit := do
  match ← perform (.requestPreKeys request) with
  | .error err => error msg err
  | .ok preKeys => send ⟨msg.sequence, some (.preKeys preKeys)⟩

/-- The loop that collects authorizations and the last error. -/
def authorizeUploads : Nat → List UploadAuthorization → Option Failure →
    Task (List UploadAuthorization × Option Failure)
  | 0, authorizations, finalErr => return (authorizations, finalErr)
  | remaining + 1, authorizations, finalErr => do
      match ← perform .authorizeUpload with
      | .ok auth => authorizeUploads remaining (authorizations ++ [auth]) finalErr
      | .error err => authorizeUploads remaining authorizations (some err)

def handleRequestUploadAuthorizations (msg : Message) (numRequested : Int) : Task Unit := do
  let (authorizations, finalErr) ← authorizeUploads numRequested.toNat [] none
  if authorizations.length = 0 then
    match finalErr with
    | some err => error msg err
    | none => return
  else send ⟨msg.sequence, some (.uploadAuthorizations authorizations)⟩

def handleFindChatNumberByShortNumber (msg : Message) (shortNumber : Text) : Task Unit := do
  match ← perform (.findChatNumberByShortNumber shortNumber) with
  | .error err => error msg err
  | .ok number =>
      send ⟨msg.sequence, some (.chatNumber ⟨number, shortNumber, opts.chatNumberDomain⟩)⟩

def handleFindChatNumberByIdentityKey (msg : Message) (identityKey : Text) : Task Unit := do
  match ← perform (.findChatNumberByIdentityKey identityKey) with
  | .error err => error msg err
  | .ok (number, shortNumber) =>
      send ⟨msg.sequence, some (.chatNumber ⟨number, shortNumber, opts.chatNumberDomain⟩)⟩

/-! ## Sending messages -/

def publisherFor (topic : Text) : Task (Except Failure Publisher) := do
  match ← perform (.cachedPublisher topic) with
  | some publisher => return .ok publisher
  | none =>
      match ← perform (.newPublisher topic) with
      | .error err => return .error err
      | .ok publisher =>
          perform (.cachePublisher topic publisher)
          return .ok publisher

/-- The end of `sendOutboundMessage`. -/
def publishAndAck (msg : Message) (topic data : Text) : Task Unit := do
  match ← publisherFor topic with
  | .error err => error msg err
  | .ok publisher =>
      match ← perform (.publish publisher data) with
      | some err => error msg err
      | none => ack msg

def sendOutboundMessage (msg : Message) (outboundMessage : OutboundMessage) : Task Unit := do
  match ← perform (.find outboundMessage.toAddress) with
  | .error err => error msg err
  | .ok tassisHost =>
      match outboundMessage.toAddress with
      | none => .crash
      | some address =>
          if opts.publicAddr ≠ library.toLower tassisHost then
            match library.marshal ⟨some outboundMessage, 0, 0⟩ with
            | .error err => error msg err
            | .ok data => publishAndAck msg forwardingTopic data
          else
            publishAndAck msg (topicForAddr library address)
              outboundMessage.unidentifiedSenderMessage

/-! ## Messages from the client -/

/-- Run the handler if the connection is authenticated. -/
def ifAuthenticated (msg : Message) (handler : Task Unit) : Task Unit := do
  if ← isAuthenticated then handler else error msg (.typed errUnauthorized)

/-- Run the handler if the connection is anonymous. -/
def ifAnonymous (msg : Message) (handler : Task Unit) : Task Unit := do
  if ← isAuthenticated then error msg (.typed errNonAnonymous) else handler

def doHandleOutboundMessage (msg : Message) : Task Unit :=
  match msg.payload with
  | some .ack => handleACK msg
  | some (.authResponse authResponse) =>
      ifAnonymous msg (handleAuthResponse library opts msg authResponse)
  | some (.register register) => ifAuthenticated msg (handleRegister opts msg register)
  | some .unregister => ifAuthenticated msg (handleUnregister msg)
  | some (.requestPreKeys request) => ifAnonymous msg (handleRequestPreKeys msg request)
  | some (.requestUploadAuthorizations numRequested) =>
      ifAnonymous msg (handleRequestUploadAuthorizations msg numRequested)
  | some (.findChatNumberByShortNumber shortNumber) =>
      ifAnonymous msg (handleFindChatNumberByShortNumber opts msg shortNumber)
  | some (.findChatNumberByIdentityKey identityKey) =>
      ifAnonymous msg (handleFindChatNumberByIdentityKey opts msg identityKey)
  | some (.outboundMessage outboundMessage) =>
      ifAnonymous msg (sendOutboundMessage library opts msg outboundMessage)
  | _ => pure ()

def handleOutbound : Nat → Task Unit
  | 0 => .stopped
  | rounds + 1 => do
      match ← perform .nextMessage with
      | none => perform .close
      | some msg =>
          doHandleOutboundMessage library opts msg
          handleOutbound rounds

end Tassis.Service
