import Tassis.Database.ChatNumbers
import Tassis.Foundation.Codec
import Tassis.Foundation.Program
import Tassis.Model.Messages

/-! # What the service is built on

The libraries that the service calls, its options, and the operations by which
its goroutines act: on their connection, the database, the presence repository,
the broker, the clock, the forwarder and other goroutines.
-/

namespace Tassis.Service

open Model

/-! ## Libraries and options -/

/-- Cryptography, encodings and serialisation, with what is assumed of them. -/
structure Library where
  /-- Nothing where `Verify` panics, as it does on signatures of less than 64 bytes. -/
  verify : Text → Text → Text → Option Bool
  /-- The digits of an identity key. -/
  number : Text → Text
  keyString : Text → Text
  /-- The base32 encoding of device IDs. -/
  encodeToString : Text → Text
  toLower : Text → Text
  unmarshalLogin : Text → Except Failure Login
  marshal : ForwardedMessage → Except Failure Text
  unmarshal : Text → Except Failure ForwardedMessage
  verify_nil : ∀ message signature, verify [] message signature ≠ some true
  number_length : ∀ identityKey message signature,
    verify identityKey message signature = some true → 12 ≤ (number identityKey).length
  keyString_injective : Function.Injective keyString
  keyString_colon : ∀ identityKey, ':' ∉ keyString identityKey
  encodeToString_injective : Function.Injective encodeToString
  toLower_toLower : ∀ text, toLower (toLower text) = toLower text
  unmarshal_marshal : ∀ msg, ∃ data, marshal msg = .ok data ∧ unmarshal data = .ok msg

theorem Library.unmarshal_of_marshal (library : Library) {msg : ForwardedMessage} {data : Text}
    (marshalled : library.marshal msg = .ok data) : library.unmarshal data = .ok msg := by
  rcases library.unmarshal_marshal msg with ⟨data', marshalled', decoded⟩
  cases marshalled.symm.trans marshalled'
  exact decoded

structure Opts where
  /-- In lower case, as the constructor stores it. -/
  publicAddr : Text
  chatNumberDomain : Text
  maxAttachmentSize : Int
  checkPreKeysInterval : Int
  lowPreKeysLimit : Nat
  numPreKeysToRequest : Nat
  forwardingParallelism : Nat
  forwardingTimeout : Int
  minForwardingRetryInterval : Int
  userTransferInterval : Int

/-! ## Topics -/

def forwardingTopic : Text := "forwarding".toList
def forwardingRetryTopic : Text := "forwardingretry".toList

def topicFor (library : Library) (identityKey deviceId : Text) : Text :=
  library.keyString identityKey ++ ':' :: library.encodeToString deviceId

def topicForAddr (library : Library) (address : Address) : Text :=
  topicFor library address.identityKey address.deviceId

/-- Device topics are pairwise distinct. -/
theorem topicForAddr_injective (library : Library) :
    Function.Injective (topicForAddr library) := by
  intro address address' equal
  have parts := Text.append_separator_inj (library.keyString_colon address.identityKey)
    (library.keyString_colon address'.identityKey) equal
  have sameKey := library.keyString_injective parts.1
  have sameDevice := library.encodeToString_injective parts.2
  cases address
  cases address'
  simp_all

/-- The two topics that hold forwarded messages. -/
def IsForwarding (topic : Text) : Prop := topic = forwardingTopic ∨ topic = forwardingRetryTopic

/-- Device topics are distinct from the forwarding topics. -/
theorem not_isForwarding_topicForAddr (library : Library) (address : Address) :
    ¬IsForwarding (topicForAddr library address) := by
  have colon : ':' ∈ topicForAddr library address := by simp [topicForAddr, topicFor]
  rintro (equal | equal)
  · rw [equal] at colon
    exact absurd colon (by decide)
  · rw [equal] at colon
    exact absurd colon (by decide)

theorem forwardingTopic_ne_forwardingRetryTopic : forwardingTopic ≠ forwardingRetryTopic := by
  decide

/-! ## Operations -/

structure Publisher where
  topic : Text
  deriving DecidableEq, Repr

structure Subscriber where
  topic : Text
  deriving DecidableEq, Repr

/-- A message received from a subscriber. Its place in the topic identifies it
to its acker. -/
structure BrokerMessage where
  topic : Text
  index : Nat
  data : Text
  deriving DecidableEq, Repr

/-- What the callback of a forwarded message refers to. -/
structure Callback where
  msg : ForwardedMessage
  brokerMsg : BrokerMessage
  retryPublisher : Publisher
  deriving DecidableEq, Repr

/-- The functions that are run as goroutines of their own. -/
inductive Routine where
  | handleInbound (subscriber : Subscriber)
  | warnPreKeysLowIfNecessary
  | forwardMessages (subscriber : Subscriber) (retryPublisher : Publisher)
  | forwardLoop (subscriber : Subscriber) (retryPublisher : Publisher)
  | userTransfers (publisher : Publisher)
  deriving DecidableEq, Repr

inductive Operation where
  -- The connection.
  | authNonce
  | nextMessage
  | send (msg : Message)
  | close
  | loadIdentityKey
  | loadDeviceId
  | storeIdentityKey (identityKey : Text)
  | storeDeviceId (deviceId : Text)
  | nextSequence
  | findAcker (sequence : Nat)
  | storeAcker (sequence : Nat) (brokerMsg : BrokerMessage)
  | deleteAcker (sequence : Nat)
  -- The database.
  | register (identityKey deviceId : Text) (registration : Register)
  | unregister (identityKey deviceId : Text)
  | requestPreKeys (request : RequestPreKeys)
  | preKeysRemaining (identityKey deviceId : Text)
  | allRegisteredDevices
  | registerChatNumber (identityKey newNumber newShortNumber : Text)
  | findChatNumberByShortNumber (shortNumber : Text)
  | findChatNumberByIdentityKey (identityKey : Text)
  -- The presence repository.
  | announce (address : Address) (tassisHost : Text)
  | find (address : Option Address)
  -- The broker and the publisher cache.
  | newSubscriber (topic : Text)
  | closeSubscriber (subscriber : Subscriber)
  | nextDelivery (subscriber : Subscriber)
  | newPublisher (topic : Text)
  | publish (publisher : Publisher) (data : Text)
  | ack (brokerMsg : BrokerMessage)
  | cachedPublisher (topic : Text)
  | cachePublisher (topic : Text) (publisher : Publisher)
  -- Attachments, the clock and goroutines.
  | authorizeUpload
  | nowUnixMillis
  | durationSince (millis : Int)
  | sleep (duration : Int)
  | sleepUnlessClosed (duration : Int)
  | go (routine : Routine)
  -- The forwarder.
  | connectTo (tassisHost : Text)
  | nextForwarderSequence
  | storeCallback (sequence : Nat) (callback : Callback)
  | sendTo (tassisHost : Text) (msg : Message)
  deriving DecidableEq, Repr

/-- What an operation returns. `nextMessage` returns nothing when the connection
is closed, `nextDelivery` when the wait is over without a message, and
`sleepUnlessClosed` whether the time has passed. -/
@[reducible] def Reply : Operation → Type
  | .authNonce => Text
  | .nextMessage => Option Message
  | .loadIdentityKey | .loadDeviceId => Option Text
  | .nextSequence | .nextForwarderSequence => Nat
  | .findAcker _ => Option BrokerMessage
  | .register .. | .unregister .. | .announce .. | .publish .. | .ack _ => Option Failure
  | .requestPreKeys _ => Except Failure (List (PreKey Text))
  | .preKeysRemaining .. => Except Failure Nat
  | .allRegisteredDevices => Except Failure (List Address)
  | .registerChatNumber .. | .findChatNumberByIdentityKey _ => Except Failure (Text × Text)
  | .findChatNumberByShortNumber _ | .find _ => Except Failure Text
  | .newSubscriber _ => Except Failure Subscriber
  | .nextDelivery _ => Option BrokerMessage
  | .newPublisher _ => Except Failure Publisher
  | .cachedPublisher _ => Option Publisher
  | .authorizeUpload => Except Failure UploadAuthorization
  | .nowUnixMillis | .durationSince _ => Int
  | .sleepUnlessClosed _ => Bool
  | .connectTo _ => Except Failure Unit
  | .send _ | .close | .storeIdentityKey _ | .storeDeviceId _ | .storeAcker .. | .deleteAcker _
  | .closeSubscriber _ | .cachePublisher .. | .sleep _ | .go _ | .storeCallback ..
  | .sendTo .. => Unit

/-- A piece of the service's code. -/
abbrev Task (α : Type) : Type := Program Operation Reply α

abbrev perform (operation : Operation) : Task (Reply operation) := Program.perform operation

/-! ## A library to compute with -/

/-- Two characters for each character, none of them a colon. -/
def escape (text : Text) : Text :=
  text.flatMap fun character => if character = ':' then ['a', 'a'] else ['b', character]

theorem colon_notMem_escape (text : Text) : ':' ∉ escape text :=
  Text.notMem_escaped (by decide) (by decide) text

theorem escape_injective : Function.Injective escape := Text.escaped_injective

def addressCodec : Codec Address :=
  (Codec.pair Codec.text Codec.text).mapped
    (fun address => (address.identityKey, address.deviceId))
    (fun parts => ⟨parts.1, parts.2⟩) (fun _ => rfl)

def outboundCodec : Codec OutboundMessage :=
  (Codec.pair (Codec.option addressCodec) Codec.text).mapped
    (fun msg => (msg.toAddress, msg.unidentifiedSenderMessage))
    (fun parts => ⟨parts.1, parts.2⟩) (fun _ => rfl)

def forwardedCodec : Codec ForwardedMessage :=
  (Codec.pair (Codec.option outboundCodec) (Codec.pair Codec.int Codec.int)).mapped
    (fun msg => (msg.message, msg.firstFailed, msg.lastFailed))
    (fun parts => ⟨parts.1, parts.2.1, parts.2.2⟩) (fun _ => rfl)

def loginCodec : Codec Login :=
  (Codec.pair (Codec.option addressCodec) Codec.text).mapped
    (fun login => (login.address, login.nonce))
    (fun parts => ⟨parts.1, parts.2⟩) (fun _ => rfl)

theorem toLower_idem (character : Char) : character.toLower.toLower = character.toLower := by
  unfold Char.toLower
  split
  · rename_i upper
    rw [dif_neg]
    intro upperAgain
    have low : 65 ≤ character.val.toNat := UInt32.le_iff_toNat_le.mp upper.1
    have high : character.val.toNat ≤ 90 := UInt32.le_iff_toNat_le.mp upper.2
    have shifted : (character.val + 32).toNat = character.val.toNat + 32 := by
      rw [UInt32.toNat_add]
      apply Nat.mod_eq_of_lt
      change character.val.toNat + 32 < 2 ^ 32
      omega
    have highAgain : (character.val + 32).toNat ≤ 90 := UInt32.le_iff_toNat_le.mp upperAgain.2
    omega
  · rfl

/-- The signature of a key, whatever it signs. -/
def sign (identityKey : Text) : Text := (identityKey ++ List.replicate 64 '0').take 64

/-- Keys verify their signature, and their numbers are long enough. -/
def plainLibrary : Library where
  verify identityKey _ signature :=
    if signature.length < 64 then none
    else some (identityKey ≠ [] ∧ signature = sign identityKey)
  number identityKey := List.replicate 12 '1' ++ identityKey
  keyString := escape
  encodeToString := id
  toLower text := text.map Char.toLower
  unmarshalLogin data :=
    match loginCodec.read data with
    | some login => .ok login
    | none => .error (.other "malformed".toList)
  marshal msg := .ok (forwardedCodec.encode msg)
  unmarshal data :=
    match forwardedCodec.read data with
    | some msg => .ok msg
    | none => .error (.other "malformed".toList)
  verify_nil _ _ := by split <;> simp
  number_length := by simp
  keyString_injective := escape_injective
  keyString_colon := colon_notMem_escape
  encodeToString_injective := Function.injective_id
  toLower_toLower text := by
    rw [List.map_map]
    exact List.map_congr_left fun character _ => toLower_idem character
  unmarshal_marshal := by
    intro msg
    exact ⟨forwardedCodec.encode msg, rfl, by rw [forwardedCodec.read_encode]⟩

/-- One goroutine of each kind, and short intervals. -/
def plainOpts : Opts where
  publicAddr := "tassis".toList
  chatNumberDomain := "domain".toList
  maxAttachmentSize := 100
  checkPreKeysInterval := 0
  lowPreKeysLimit := 10
  numPreKeysToRequest := 10
  forwardingParallelism := 1
  forwardingTimeout := 5 * 10 ^ 9
  minForwardingRetryInterval := 10 ^ 9
  userTransferInterval := 10 ^ 9

/-- A login as a client encodes it. -/
def loginMessage (address : Option Address) (nonce signature : Text) : Message :=
  ⟨1, some (.authResponse ⟨loginCodec.encode ⟨address, nonce⟩, signature⟩)⟩

theorem unmarshalLogin_encode (login : Login) :
    plainLibrary.unmarshalLogin (loginCodec.encode login) = .ok login := by
  simp only [plainLibrary, loginCodec.read_encode]

theorem verify_sign {identityKey : Text} (nonempty : identityKey ≠ []) (message : Text) :
    plainLibrary.verify identityKey message (sign identityKey) = some true := by
  simp [plainLibrary, sign, nonempty]

end Tassis.Service
