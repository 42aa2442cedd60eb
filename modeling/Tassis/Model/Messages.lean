import Tassis.Foundation.Text

/-! # Messages

The protocol messages, with every nested message optional, and the errors that
the service answers with.
-/

namespace Tassis.Model

/-! ## Errors -/

structure Error where
  name : Text
  description : Text
  deriving DecidableEq, Repr

def errUnknown : Error := ⟨"unknown_error".toList, []⟩
def errNumberTaken : Error := ⟨"number_taken".toList, []⟩
def errUnknownDevice : Error := ⟨"unknown_device".toList, []⟩
def errUnauthorized : Error := ⟨"unauthorized".toList, []⟩
def errNonAnonymous : Error :=
  ⟨"attempted_anonymous_op_on_authenticated_connection".toList, []⟩
def errUnableToOpenSubscriber : Error := ⟨"unable_to_open_subscriber".toList, []⟩

/-- An error of any type, as Go code passes it around. -/
inductive Failure where
  | typed (error : Error)
  | other (text : Text)
  deriving DecidableEq, Repr

def Failure.text : Failure → Text
  | .typed error => error.name ++ ':' :: error.description
  | .other text => text

def Error.withDescription (error : Error) (description : Text) : Error :=
  { error with description := description }

def Error.withError (error : Error) (failure : Failure) : Error :=
  error.withDescription failure.text

def typedError : Failure → Error
  | .typed error => error
  | .other text => errUnknown.withDescription text

/-! ## Payloads -/

structure Address where
  identityKey : Text
  deviceId : Text
  deriving DecidableEq, Repr

structure Login where
  address : Option Address
  nonce : Text
  deriving DecidableEq, Repr

structure AuthResponse where
  login : Text
  signature : Text
  deriving DecidableEq, Repr

structure Register where
  signedPreKey : Text
  oneTimePreKeys : List Text
  deriving DecidableEq, Repr

structure RequestPreKeys where
  identityKey : Text
  knownDeviceIds : List Text
  deriving DecidableEq, Repr

structure PreKey (DeviceID : Type) where
  deviceId : DeviceID
  signedPreKey : Text
  oneTimePreKey : Option Text
  deriving DecidableEq, Repr

structure OutboundMessage where
  toAddress : Option Address
  unidentifiedSenderMessage : Text
  deriving DecidableEq, Repr

structure UploadAuthorization where
  uploadURL : Text
  uploadFormData : List (Text × Text)
  authorizationExpiresAt : Int
  maxUploadSize : Int
  downloadURL : Text
  deriving DecidableEq, Repr

structure ChatNumber where
  number : Text
  shortNumber : Text
  domain : Text
  deriving DecidableEq, Repr

inductive Payload where
  | ack
  | error (error : Error)
  | configuration (maxAttachmentSize : Int)
  | authChallenge (nonce : Text)
  | authResponse (authResponse : AuthResponse)
  | register (register : Register)
  | unregister
  | requestPreKeys (request : RequestPreKeys)
  | preKeys (preKeys : List (PreKey Text))
  | preKeysLow (keysRequested : Nat)
  | requestUploadAuthorizations (numRequested : Int)
  | uploadAuthorizations (authorizations : List UploadAuthorization)
  | outboundMessage (outboundMessage : OutboundMessage)
  | inboundMessage (unidentifiedSenderMessage : Text)
  | findChatNumberByShortNumber (shortNumber : Text)
  | findChatNumberByIdentityKey (identityKey : Text)
  | chatNumber (chatNumber : ChatNumber)
  deriving DecidableEq, Repr

structure Message where
  sequence : Nat
  payload : Option Payload
  deriving DecidableEq, Repr

/-! ## Building messages -/

/-- The sequence number after this one. -/
def nextSequence (sequence : Nat) : Nat := (sequence + 1) % 2 ^ 32

def newAck (orig : Message) : Message := ⟨orig.sequence, some .ack⟩

def newError (orig : Message) (error : Error) : Message := ⟨orig.sequence, some (.error error)⟩

/-! ## Forwarded messages -/

structure ForwardedMessage where
  message : Option OutboundMessage
  /-- Milliseconds since the epoch, or 0 if the message never failed. -/
  firstFailed : Int
  lastFailed : Int
  deriving DecidableEq, Repr

def ForwardedMessage.markFailed (msg : ForwardedMessage) (now : Int) : ForwardedMessage :=
  { msg with
    lastFailed := now
    firstFailed := if msg.firstFailed = 0 then now else msg.firstFailed }

end Tassis.Model
