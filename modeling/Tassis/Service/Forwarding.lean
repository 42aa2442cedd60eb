import Tassis.Service.Handlers

/-! # Forwarding and user transfers

The background goroutines of a service: those that forward messages to other
tasses and retry the ones that failed, and the one that transfers the messages
of devices that have moved to another tassis.
-/

namespace Tassis.Service

open Model

variable (library : Library) (opts : Opts)

/-! ## Failures -/

def hasBeenFailingFor (msg : ForwardedMessage) : Task Int :=
  if msg.firstFailed = 0 then pure 0 else perform (.durationSince msg.firstFailed)

def durationSinceLastFailure (msg : ForwardedMessage) : Task Int :=
  if msg.lastFailed = 0 then pure 0 else perform (.durationSince msg.lastFailed)

def acknowledge (brokerMsg : BrokerMessage) : Task Unit := do
  let _ ← perform (.ack brokerMsg)

/-- A message that has been failing for too long is discarded, and another is
published for a retry. It stays unacked if that fails. -/
def failMessage (retryPublisher : Publisher) (brokerMsg : BrokerMessage)
    (msg : ForwardedMessage) : Task Unit := do
  let now ← perform .nowUnixMillis
  let msg := msg.markFailed now
  let failingFor ← hasBeenFailingFor msg
  if opts.forwardingTimeout < failingFor then acknowledge brokerMsg
  else match library.marshal msg with
    | .error _ => acknowledge brokerMsg
    | .ok msgBytes =>
        match ← perform (.publish retryPublisher msgBytes) with
        | none => acknowledge brokerMsg
        | some _ => return

/-! ## The forwarder -/

/-- What `forwardMessage` does when the forwarder reports back. -/
def finished (callback : Callback) (forwardingErr : Option Failure) : Task Unit :=
  match forwardingErr with
  | some _ => failMessage library opts callback.retryPublisher callback.brokerMsg callback.msg
  | none => acknowledge callback.brokerMsg

/-- `Forward` calls back itself when it cannot connect. Otherwise the callback
waits for the response to its sequence number. -/
def forward (outboundMessage : OutboundMessage) (tassisHost : Text) (callback : Callback) :
    Task Unit := do
  match ← perform (.connectTo tassisHost) with
  | .error err =>
      finished library opts callback (some (.other ("unable to connect to ".toList ++
        tassisHost ++ ": ".toList ++ err.text)))
  | .ok () =>
      let sequence ← perform .nextForwarderSequence
      perform (.storeCallback sequence callback)
      perform (.sendTo tassisHost ⟨sequence, some (.outboundMessage outboundMessage)⟩)

/-! ## Forwarding messages -/

/-- Delay a message that failed only recently. -/
def delayRetry (msg : ForwardedMessage) : Task Unit := do
  if msg.lastFailed ≠ 0 then
    let duration ← durationSinceLastFailure msg
    if duration < opts.minForwardingRetryInterval then
      perform (.sleep (opts.minForwardingRetryInterval - duration))

/-- The branch of `forwardMessage` for a user who came back. -/
def publishLocally (retryPublisher : Publisher) (brokerMsg : BrokerMessage)
    (msg : ForwardedMessage) (outboundMessage : OutboundMessage) : Task (Option Failure) :=
  match outboundMessage.toAddress with
  | none => .crash
  | some address => do
      match ← publisherFor (topicForAddr library address) with
      | .error err =>
          failMessage library opts retryPublisher brokerMsg msg
          return some (.other ("unable to get publisher: ".toList ++ err.text))
      | .ok publisher =>
          match ← perform (.publish publisher outboundMessage.unidentifiedSenderMessage) with
          | some err =>
              failMessage library opts retryPublisher brokerMsg msg
              return some (.other ("unable to publish: ".toList ++ err.text))
          | none =>
              acknowledge brokerMsg
              return none

def forwardMessage (retryPublisher : Publisher) (brokerMsg : BrokerMessage) :
    Task (Option Failure) := do
  match library.unmarshal brokerMsg.data with
  | .error err =>
      acknowledge brokerMsg
      return some (.other ("unable to unmarshal ForwardedMessage: ".toList ++ err.text))
  | .ok msg =>
      delayRetry opts msg
      match msg.message with
      | none => .crash
      | some outboundMessage =>
          match ← perform (.find outboundMessage.toAddress) with
          | .error err =>
              failMessage library opts retryPublisher brokerMsg msg
              return some (.other ("unable to find tassis host: ".toList ++ err.text))
          | .ok tassisHost =>
              if tassisHost = opts.publicAddr then
                publishLocally library opts retryPublisher brokerMsg msg outboundMessage
              else
                forward library opts outboundMessage tassisHost
                  ⟨msg, brokerMsg, retryPublisher⟩
                return none

/-- The loop that `forwardMessages` starts several times. -/
def forwardLoop (subscriber : Subscriber) (retryPublisher : Publisher) : Nat → Task Unit
  | 0 => .stopped
  | rounds + 1 => do
      match ← perform (.nextDelivery subscriber) with
      | none => return
      | some brokerMsg =>
          let _ ← forwardMessage library opts retryPublisher brokerMsg
          forwardLoop subscriber retryPublisher rounds

/-- Start these goroutines one after the other. -/
def goAll : List Routine → Task Unit
  | [] => pure ()
  | routine :: routines => do
      perform (.go routine)
      goAll routines

def forwardMessages (subscriber : Subscriber) (retryPublisher : Publisher) : Task Unit :=
  goAll (List.replicate opts.forwardingParallelism (.forwardLoop subscriber retryPublisher))

def startForwarding : Task (Option Failure) := do
  match ← perform (.newSubscriber forwardingTopic) with
  | .error err => return some err
  | .ok subscriber =>
      match ← perform (.newSubscriber forwardingRetryTopic) with
      | .error err => return some err
      | .ok retrySubscriber =>
          match ← publisherFor forwardingRetryTopic with
          | .error err => return some err
          | .ok retryPublisher =>
              goAll (List.replicate opts.forwardingParallelism
                [.forwardMessages subscriber retryPublisher,
                  .forwardMessages retrySubscriber retryPublisher]).flatten
              return none

/-! ## User transfers -/

/-- Each round of the loop takes a message and acks it once it is on the
forwarding topic. -/
def transferDeviceMessages (subscriber : Subscriber) (addr : Address) (publisher : Publisher) :
    Nat → Task (Option Failure)
  | 0 => .stopped
  | rounds + 1 => do
      match ← perform (.nextDelivery subscriber) with
      | none =>
          perform (.closeSubscriber subscriber)
          return none
      | some brokerMsg =>
          match library.marshal ⟨some ⟨some addr, brokerMsg.data⟩, 0, 0⟩ with
          | .error err =>
              perform (.closeSubscriber subscriber)
              return some (.other ("unable to marshal message for transfer: ".toList ++
                err.text))
          | .ok forwardedMsgBytes =>
              match ← perform (.publish publisher forwardedMsgBytes) with
              | some err =>
                  perform (.closeSubscriber subscriber)
                  return some (.other ("unable to publish message for transfer: ".toList ++
                    err.text))
              | none =>
                  acknowledge brokerMsg
                  transferDeviceMessages subscriber addr publisher rounds

/-- The body of the loop over all devices. -/
def transferDevice (publisher : Publisher) (rounds : Nat) (addr : Address) : Task Unit := do
  match ← perform (.find (some addr)) with
  | .error _ => return
  | .ok tassisHost =>
      if tassisHost = opts.publicAddr then return
      else match ← perform (.newSubscriber (topicForAddr library addr)) with
        | .error _ => return
        | .ok subscriber =>
            match ← transferDeviceMessages library subscriber addr publisher rounds with
            | some _ => return
            | none =>
                let _ ← perform (.unregister addr.identityKey addr.deviceId)

def transferDevices (publisher : Publisher) (rounds : Nat) : List Address → Task Unit
  | [] => return
  | addr :: addrs => do
      transferDevice library opts publisher rounds addr
      transferDevices publisher rounds addrs

/-- The goroutine that `startUserTransfers` starts. -/
def userTransfers (publisher : Publisher) : Nat → Task Unit
  | 0 => .stopped
  | rounds + 1 => do
      perform (.sleep opts.userTransferInterval)
      match ← perform .allRegisteredDevices with
      | .error _ => userTransfers publisher rounds
      | .ok addrs =>
          transferDevices library opts publisher rounds addrs
          userTransfers publisher rounds

def startUserTransfers : Task (Option Failure) := do
  match ← publisherFor forwardingTopic with
  | .error err => return some err
  | .ok publisher =>
      perform (.go (.userTransfers publisher))
      return none

/-- What the constructor starts when there is a forwarder. -/
def new : Task (Option Failure) := do
  match ← startForwarding opts with
  | some err =>
      return some (.other ("unable to start forwarding outbound messages: ".toList ++ err.text))
  | none =>
      if 0 < opts.userTransferInterval then
        match ← startUserTransfers with
        | some err =>
            return some (.other ("unable to start handling user transfers: ".toList ++ err.text))
        | none => return none
      else return none

/-- The code of a goroutine. -/
def taskOf : Routine → Nat → Task Unit
  | .handleInbound subscriber, rounds => handleInbound subscriber rounds
  | .warnPreKeysLowIfNecessary, rounds => warnPreKeysLowIfNecessary opts rounds
  | .forwardMessages subscriber retryPublisher, _ =>
      forwardMessages opts subscriber retryPublisher
  | .forwardLoop subscriber retryPublisher, rounds =>
      forwardLoop library opts subscriber retryPublisher rounds
  | .userTransfers publisher, rounds => userTransfers library opts publisher rounds

end Tassis.Service
