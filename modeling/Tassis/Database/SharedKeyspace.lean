import Tassis.Database.DeviceIndex
import Tassis.Database.KeyNames
import Tassis.RedisBroker.Broker

/-! # One keyspace for everything

The devices, the chat numbers and the broker's streams and offsets in one
keyspace, with the operations of all of them interleaved. Every key there is one
that its component has built, so the keys that look like records of devices are
the records of the registered devices.
-/

namespace Tassis.Database

open RedisBroker (MessageID streamName offsetName luaReplaces)

variable {IdentityKey DeviceID : Type}

/-! ## Who writes what -/

inductive Component where
  | devices
  | chatNumbers
  | broker
  deriving DecidableEq, Repr

namespace KeyName

def component : KeyName IdentityKey DeviceID → Component
  | .device _ _ | .oneTimePreKeys _ | .identityDevices _ => .devices
  | .chatNumbers _ _ | .rateLimit _ _ => .chatNumbers
  | .stream _ | .offset _ => .broker

/-- The values that a key holds. The offset of a stream is a message ID. -/
def Admits : KeyName IdentityKey DeviceID → Value → Prop
  | .device _ _, value => value.shape = .hash
  | .oneTimePreKeys _, value => value.shape = .list
  | .identityDevices _, value => value.shape = .set
  | .stream _, value => value.shape = .stream
  | .offset _, value => ∃ id : MessageID, value = .string id.text
  | .chatNumbers _ _, value => value.shape = .hash
  | .rateLimit _ _, value => value.shape = .integer

end KeyName

variable {codec : KeyCodec IdentityKey DeviceID}

/-- A component writes at its own keys, and there what they hold. -/
def Component.Allows (component : Component) (codec : KeyCodec IdentityKey DeviceID)
    (key : Text) (value : Value) : Prop :=
  ∃ name : KeyName IdentityKey DeviceID,
    name.component = component ∧ key = name.text codec ∧ name.Admits value

theorem Component.not_allows {component : Component} {name : KeyName IdentityKey DeviceID}
    (other : name.component ≠ component) (value : Value) :
    ¬component.Allows codec (name.text codec) value := by
  rintro ⟨name', ofComponent, equal, _⟩
  rw [KeyName.text_injective codec equal] at other
  exact other ofComponent

theorem Component.admits {component : Component} {name : KeyName IdentityKey DeviceID}
    {value : Value} (allows : component.Allows codec (name.text codec) value) :
    name.Admits value := by
  rcases allows with ⟨name', _, equal, admits⟩
  rw [KeyName.text_injective codec equal]
  exact admits

/-! ## The scripts -/

namespace Redisdb

open Keyspace (Writes)

section Allowed

variable {allows : Text → Value → Prop} {keyspace next : Keyspace}
  {deviceKey identityDevicesKey oneTimePreKeysKey : Text}

theorem registerScript_writesOnly {signedPreKey deviceId : Text} {reply : Int}
    (record : ∀ fields, allows deviceKey (.hash fields))
    (index : ∀ members, allows identityDevicesKey (.set members))
    (keys : ∀ items, allows oneTimePreKeysKey (.list items))
    (executes : registerScript keyspace deviceKey identityDevicesKey oneTimePreKeysKey
      signedPreKey deviceId = some (reply, next)) : Writes allows keyspace next := by
  unfold registerScript at executes
  rcases Option.bind_eq_some_iff.mp executes with ⟨oldSignedPreKey, _, executes⟩
  rcases Option.bind_eq_some_iff.mp executes with ⟨indexed, added, executes⟩
  have adds := Writes.sadd index added
  split at executes
  · rcases Option.bind_eq_some_iff.mp executes with ⟨recorded, written, executes⟩
    cases executes
    exact (adds.trans (Writes.hset record written)).trans (Writes.del (keys []))
  · cases executes
    exact adds

theorem unregisterScript_writesOnly {deviceId : Text} {reply : Int}
    (record : ∀ fields, allows deviceKey (.hash fields))
    (index : ∀ members, allows identityDevicesKey (.set members))
    (keys : ∀ items, allows oneTimePreKeysKey (.list items))
    (executes : unregisterScript keyspace deviceKey identityDevicesKey oneTimePreKeysKey
      deviceId = some (reply, next)) : Writes allows keyspace next := by
  unfold unregisterScript at executes
  rcases Option.bind_eq_some_iff.mp executes with ⟨removed, removes, executes⟩
  have removal : Writes allows keyspace removed := by
    unfold removeFromIndex at removes
    rcases Option.bind_eq_some_iff.mp removes with ⟨remainingDevices, _, removes⟩
    split at removes
    · cases removes
      exact Writes.del (index ∅)
    · exact Writes.srem index removes
  cases executes
  exact (removal.trans (Writes.del (record ∅))).trans (Writes.del (keys []))

theorem getPreKeyScript_writesOnly {answer : Option Text × Option Text}
    (keys : ∀ items, allows oneTimePreKeysKey (.list items))
    (executes : getPreKeyScript keyspace deviceKey oneTimePreKeysKey = some (answer, next)) :
    Writes allows keyspace next := by
  unfold getPreKeyScript at executes
  rcases Option.bind_eq_some_iff.mp executes with ⟨signedPreKey, _, executes⟩
  rcases Option.bind_eq_some_iff.mp executes with ⟨⟨oneTimePreKey, popped⟩, pops, executes⟩
  cases executes
  exact Writes.lpop keys pops

theorem rateLimit_writesOnly {requiredTokens now : Int} {shortage : Option Int}
    (integers : ∀ key ∈ integerKeys, ∀ n, allows key (.integer n))
    (limits : rateLimit keyspace requiredTokens now = some (shortage, next)) :
    Writes allows keyspace next := by
  unfold rateLimit at limits
  split at limits
  · rcases Option.bind_eq_some_iff.mp limits with ⟨⟨time, timed⟩, replaces, limits⟩
    have replaced := Writes.getset (integers _ lastRegistrationTimeKey_mem) replaces
    cases time with
    | none =>
        cases limits
        exact replaced
    | some time =>
        rcases Option.bind_eq_some_iff.mp limits with ⟨⟨available, charged⟩, adds, limits⟩
        have added := replaced.trans
          (Writes.incrby (integers _ registrationTokensKey_mem) adds)
        simp only at limits
        split at limits
        · cases limits
          exact added
        · cases limits
          exact added
  · cases limits
    exact Writes.refl _

theorem newRegistration_writesOnly {identityKey newNumber newShortNumber : Text}
    (hashes : ∀ key ∈ hashKeys, ∀ fields, allows key (.hash fields))
    (registers : newRegistration keyspace identityKey newNumber newShortNumber = some next) :
    Writes allows keyspace next := by
  unfold newRegistration at registers
  rcases Option.bind_eq_some_iff.mp registers with ⟨first, numbered, registers⟩
  rcases Option.bind_eq_some_iff.mp registers with ⟨second, identified, registers⟩
  rcases Option.bind_eq_some_iff.mp registers with ⟨third, shortened, lengthened⟩
  have toIdentity : Writes allows keyspace second :=
    (Writes.hset (hashes _ (by simp [hashKeys])) numbered).trans
      (Writes.hset (hashes _ (by simp [hashKeys])) identified)
  exact (toIdentity.trans (Writes.hset (hashes _ (by simp [hashKeys])) shortened)).trans
    (Writes.hset (hashes _ (by simp [hashKeys])) lengthened)

theorem registerChatNumberScript_writesOnly {identityKey newNumber newShortNumber : Text}
    {requiredTokens now : Int} {reply : Reply}
    (hashes : ∀ key ∈ hashKeys, ∀ fields, allows key (.hash fields))
    (integers : ∀ key ∈ integerKeys, ∀ n, allows key (.integer n))
    (executes : registerChatNumberScript keyspace identityKey newNumber newShortNumber
      requiredTokens now = some (reply, next)) : Writes allows keyspace next := by
  unfold registerChatNumberScript at executes
  rcases Option.bind_eq_some_iff.mp executes with ⟨number, _, executes⟩
  split at executes
  · rcases Option.bind_eq_some_iff.mp executes with ⟨shortNumber, _, executes⟩
    cases executes
    exact Writes.refl _
  · rcases Option.bind_eq_some_iff.mp executes with ⟨existingIdentityKey, _, executes⟩
    split at executes
    · cases executes
      exact Writes.refl _
    · rcases Option.bind_eq_some_iff.mp executes with ⟨⟨shortage, limited⟩, limits, executes⟩
      have limiting := rateLimit_writesOnly integers limits
      cases shortage with
      | some tokens =>
          cases executes
          exact limiting
      | none =>
          rcases Option.bind_eq_some_iff.mp executes with ⟨registered, registers, executes⟩
          cases executes
          exact limiting.trans (newRegistration_writesOnly hashes registers)

end Allowed

theorem record_allowed (codec : KeyCodec IdentityKey DeviceID) (identityKey : IdentityKey)
    (deviceId : DeviceID) (fields : Fields) :
    Component.devices.Allows codec (deviceKey codec.toKeyEncoding identityKey deviceId)
      (.hash fields) :=
  ⟨.device identityKey deviceId, rfl, rfl, rfl⟩

theorem index_allowed (codec : KeyCodec IdentityKey DeviceID) (identityKey : IdentityKey)
    (members : Finset Text) :
    Component.devices.Allows codec (identityDevicesKey codec.toKeyEncoding identityKey)
      (.set members) :=
  ⟨.identityDevices identityKey, rfl, rfl, rfl⟩

theorem keys_allowed (codec : KeyCodec IdentityKey DeviceID) (deviceKey : Text)
    (items : List Text) :
    Component.devices.Allows codec (oneTimePreKeysKey deviceKey) (.list items) :=
  ⟨.oneTimePreKeys deviceKey, rfl, rfl, rfl⟩

end Redisdb

namespace RedisDevices

open Redisdb
open Keyspace (Writes)

/-- The calls for devices write at the keys of devices. -/
theorem step_writes {db next : RedisDevices IdentityKey DeviceID}
    {action : Action IdentityKey DeviceID}
    (taken : db.step codec.toKeyEncoding action = some next) :
    Writes (Component.devices.Allows codec) db.keyspace next.keyspace := by
  cases action with
  | register identityKey deviceId signedPreKey oneTimePreKeys =>
      rcases Option.bind_eq_some_iff.mp taken with ⟨keyspace, executes, taken⟩
      cases taken
      unfold Redisdb.register at executes
      rcases Option.bind_eq_some_iff.mp executes with ⟨⟨reply, registered⟩, runs, pushes⟩
      have registering := registerScript_writesOnly (record_allowed codec identityKey deviceId)
        (index_allowed codec identityKey) (keys_allowed codec _) runs
      simp only at pushes
      split at pushes
      · cases pushes
        exact registering
      · exact registering.trans (Writes.lpush (keys_allowed codec _) pushes)
  | unregister identityKey deviceId =>
      rcases Option.bind_eq_some_iff.mp taken with ⟨keyspace, executes, taken⟩
      cases taken
      unfold Redisdb.unregister at executes
      rcases Option.bind_eq_some_iff.mp executes with ⟨⟨reply, unregistered⟩, runs, executes⟩
      cases executes
      exact unregisterScript_writesOnly (record_allowed codec identityKey deviceId)
        (index_allowed codec identityKey) (keys_allowed codec _) runs
  | list number identityKey knownDeviceIds identityDevices =>
      rcases list_taken taken with ⟨_, _, rfl⟩
      exact Writes.refl _
  | getPreKey number =>
      simp only [step, getPreKey] at taken
      split at taken
      · rcases Option.bind_eq_some_iff.mp taken with ⟨⟨answer, popped⟩, runs, taken⟩
        cases taken
        exact getPreKeyScript_writesOnly (keys_allowed codec _) runs
      · cases taken
  | finish number =>
      rcases finish_taken taken with ⟨_, _, _, rfl⟩
      exact Writes.refl _

end RedisDevices

namespace RedisChat

open Keyspace (Writes)

/-- The calls for chat numbers write at the keys for chat numbers. -/
theorem step_writes {db next : RedisChat} {action : Action} (taken : db.step action = some next) :
    Writes (Component.chatNumbers.Allows codec) db.keyspace next.keyspace := by
  rcases step_executes taken with ⟨call, requiredTokens, now, reply, _, executes, _⟩
  exact Redisdb.registerChatNumberScript_writesOnly
    (fun key isHash fields => ⟨.chatNumbers key isHash, rfl, rfl, rfl⟩)
    (fun key isInteger n => ⟨.rateLimit key isInteger, rfl, rfl, rfl⟩) executes

end RedisChat

/-! ## The shared system -/

/-- The keyspace, and what the calls for devices and for chat numbers keep
outside of it. -/
structure SharedRedis (IdentityKey DeviceID : Type) where
  keyspace : Keyspace
  requests : Nat → Option (Redisdb.Request IdentityKey DeviceID)
  sleeping : Nat → Option Registration
  returned : List (Text × Text × Text)
  /-- History: what happened to the devices so far. -/
  log : List (Event (IdentityKey × DeviceID))

namespace SharedRedis

open Redisdb
open Keyspace (Writes)

inductive Action (IdentityKey DeviceID : Type) where
  | devices (action : RedisDevices.Action IdentityKey DeviceID)
  | chatNumbers (action : RedisChat.Action)
  /-- `XADD`, with the ID that Redis assigns. -/
  | publish (topicName : Text) (id : MessageID) (data : Text)
  /-- `XTRIM`, by any number of the oldest entries. -/
  | trim (topicName : Text) (count : Nat)
  | ack (topicName : Text) (newOffset : MessageID)

def initial : SharedRedis IdentityKey DeviceID :=
  ⟨.empty, fun _ => none, fun _ => none, [], []⟩

def devices (shared : SharedRedis IdentityKey DeviceID) : RedisDevices IdentityKey DeviceID :=
  ⟨shared.keyspace, shared.requests, shared.log⟩

def chat (shared : SharedRedis IdentityKey DeviceID) : RedisChat :=
  ⟨shared.keyspace, shared.sleeping, shared.returned⟩

/-- The script that stores an acknowledged offset. -/
def ackScript (keyspace : Keyspace) (offsetKey newOffset : Text) : Option (Int × Keyspace) := do
  let oldOffset ← keyspace.string? offsetKey
  match oldOffset with
  | some oldOffset =>
      let replaces ← luaReplaces newOffset oldOffset
      if replaces then return (1, keyspace.set offsetKey newOffset) else return (0, keyspace)
  | none => return (1, keyspace.set offsetKey newOffset)

def dataField : Text := "data".toList

def step (codec : KeyCodec IdentityKey DeviceID) (shared : SharedRedis IdentityKey DeviceID) :
    Action IdentityKey DeviceID → Option (SharedRedis IdentityKey DeviceID)
  | .devices action => do
      let next ← shared.devices.step codec.toKeyEncoding action
      return { shared with
        keyspace := next.keyspace
        requests := next.requests
        log := next.log }
  | .chatNumbers action => do
      let next ← shared.chat.step action
      return { shared with
        keyspace := next.keyspace
        sleeping := next.sleeping
        returned := next.returned }
  | .publish topicName id data => do
      let keyspace ← shared.keyspace.xadd (streamName topicName) id.text
        ((∅ : Fields).insert dataField data)
      return { shared with keyspace := keyspace }
  | .trim topicName count => do
      let keyspace ← shared.keyspace.xtrim (streamName topicName) count
      return { shared with keyspace := keyspace }
  | .ack topicName newOffset => do
      let (_, keyspace) ← ackScript shared.keyspace (offsetName (streamName topicName))
        newOffset.text
      return { shared with keyspace := keyspace }

def Reaches (codec : KeyCodec IdentityKey DeviceID)
    (shared : SharedRedis IdentityKey DeviceID) : Prop :=
  Transition.Run (step codec) Transition.anyStep initial shared

variable {shared next : SharedRedis IdentityKey DeviceID} {keyspace : Keyspace}

theorem ackScript_writesOnly {allows : Text → Value → Prop} {after : Keyspace}
    {offsetKey newOffset : Text} {reply : Int} (offset : allows offsetKey (.string newOffset))
    (executes : ackScript keyspace offsetKey newOffset = some (reply, after)) :
    Writes allows keyspace after := by
  unfold ackScript at executes
  rcases Option.bind_eq_some_iff.mp executes with ⟨oldOffset, _, executes⟩
  cases oldOffset with
  | none =>
      cases executes
      exact Writes.store offset
  | some oldOffset =>
      rcases Option.bind_eq_some_iff.mp executes with ⟨replaces, _, executes⟩
      cases replaces with
      | false =>
          cases executes
          exact Writes.refl _
      | true =>
          cases executes
          exact Writes.store offset

/-- On a stored message ID the script stores what it stores in the broker's
model. -/
theorem ackScript_stores {offsetKey : Text} {oldOffset : Option MessageID}
    (stored : keyspace.lookup offsetKey = oldOffset.map fun id => .string id.text)
    (newOffset : MessageID) :
    ∃ reply after, ackScript keyspace offsetKey newOffset.text = some (reply, after) ∧
      after.lookup offsetKey =
        some (.string (RedisBroker.ackScript oldOffset newOffset).text) := by
  have written : (keyspace.set offsetKey newOffset.text).lookup offsetKey =
      some (.string newOffset.text) := by
    simp [Keyspace.set, Keyspace.lookup_store_self, Value.isEmpty]
  cases oldOffset with
  | none =>
      refine ⟨1, keyspace.set offsetKey newOffset.text, ?_, written⟩
      simp [ackScript, Keyspace.string?, stored]
  | some oldOffset =>
      have found : keyspace.string? offsetKey = some (some oldOffset.text) := by
        simp [Keyspace.string?, stored]
      have decided := MessageID.luaReplaces_text newOffset oldOffset
      by_cases replaces : luaReplaces newOffset.text oldOffset.text = some true
      · refine ⟨1, keyspace.set offsetKey newOffset.text, ?_, ?_⟩
        · simp [ackScript, found, replaces]
        · rw [written, RedisBroker.ackScript, if_pos replaces]
      · have keeps : luaReplaces newOffset.text oldOffset.text = some false := by
          rw [decided] at replaces ⊢
          simpa using replaces
        refine ⟨0, keyspace, ?_, ?_⟩
        · simp [ackScript, found, keeps]
        · rw [stored, RedisBroker.ackScript, if_neg replaces]
          rfl

/-! ## What the steps write -/

/-- The component that an action belongs to. -/
def Action.component : Action IdentityKey DeviceID → Component
  | .devices _ => .devices
  | .chatNumbers _ => .chatNumbers
  | .publish _ _ _ | .trim _ _ | .ack _ _ => .broker

theorem step_writes {action : Action IdentityKey DeviceID}
    (taken : shared.step codec action = some next) :
    Writes (action.component.Allows codec) shared.keyspace next.keyspace := by
  cases action with
  | devices action =>
      rcases Option.bind_eq_some_iff.mp taken with ⟨db, executes, taken⟩
      cases taken
      exact RedisDevices.step_writes executes
  | chatNumbers action =>
      rcases Option.bind_eq_some_iff.mp taken with ⟨db, executes, taken⟩
      cases taken
      exact RedisChat.step_writes executes
  | publish topicName id data =>
      rcases Option.bind_eq_some_iff.mp taken with ⟨after, added, taken⟩
      cases taken
      exact Writes.xadd (fun entries => ⟨.stream topicName, rfl, rfl, rfl⟩) added
  | trim topicName count =>
      rcases Option.bind_eq_some_iff.mp taken with ⟨after, trimmed, taken⟩
      cases taken
      exact Writes.xtrim (fun entries => ⟨.stream topicName, rfl, rfl, rfl⟩) trimmed
  | ack topicName newOffset =>
      rcases Option.bind_eq_some_iff.mp taken with ⟨⟨reply, after⟩, executes, taken⟩
      cases taken
      exact ackScript_writesOnly ⟨.offset (streamName topicName), rfl, rfl, newOffset, rfl⟩ executes

/-- Only the calls for devices change the requests and the log. -/
theorem devices_of_step {action : Action IdentityKey DeviceID}
    (taken : shared.step codec action = some next) (other : action.component ≠ .devices) :
    next.devices = { shared.devices with keyspace := next.keyspace } := by
  cases action with
  | devices action => exact absurd rfl other
  | chatNumbers | publish | trim | ack =>
      rcases Option.bind_eq_some_iff.mp taken with ⟨_, _, taken⟩
      cases taken
      rfl

end SharedRedis

/-! ## Every run keeps the keyspace in order -/

open Keyspace (Writes) in
/-- Writes at the keys of others leave the devices as they are. -/
theorem RedisDevices.Sound.of_writes [DecidableEq IdentityKey] [DecidableEq DeviceID]
    {db : RedisDevices IdentityKey DeviceID} (sound : Sound codec.toKeyEncoding db)
    {component : Component} (other : component ≠ .devices) {keyspace : Keyspace}
    (writes : Writes (component.Allows codec) db.keyspace keyspace) :
    Sound codec.toKeyEncoding { db with keyspace := keyspace } := by
  have untouched : ∀ name : KeyName IdentityKey DeviceID, name.component = .devices →
      keyspace.lookup (name.text codec) = db.keyspace.lookup (name.text codec) := by
    intro name ofDevices
    exact writes.lookup_of_not_allowed
      (Component.not_allows (by rw [ofDevices]; exact Ne.symm other))
  refine ⟨⟨sound.represents.lawful, ?_⟩, ?_, sound.requests, sound.unanswered⟩
  · intro address
    exact Redisdb.Stores.of_lookup_eq (sound.represents.stored address)
      (untouched (.device address.1 address.2) rfl) (untouched (.oneTimePreKeys _) rfl)
  · intro identityKey
    rcases sound.indexed identityKey with ⟨members, index, listed⟩
    refine ⟨members, ?_, listed⟩
    have same := untouched (.identityDevices identityKey) rfl
    rw [KeyName.text] at same
    rw [Keyspace.set?, same]
    exact index

namespace SharedRedis

open Redisdb
open Keyspace (Writes)

variable {shared next : SharedRedis IdentityKey DeviceID}
  [DecidableEq IdentityKey] [DecidableEq DeviceID]

/-- The devices are as their history has left them, and every key is one that a
component has built and holds what it is for. -/
structure Sound (codec : KeyCodec IdentityKey DeviceID)
    (shared : SharedRedis IdentityKey DeviceID) : Prop where
  devices : RedisDevices.Sound codec.toKeyEncoding shared.devices
  catalogued : ∀ key value, shared.keyspace.lookup key = some value →
    ∃ component : Component, component.Allows codec key value

namespace Sound

theorem initial : Sound codec initial :=
  ⟨.initial, fun _ _ found => by cases found⟩

theorem step (sound : Sound codec shared) {action : Action IdentityKey DeviceID}
    (taken : shared.step codec action = some next) : Sound codec next where
  devices := by
    by_cases ofDevices : action.component = .devices
    · cases action with
      | devices action =>
          rcases Option.bind_eq_some_iff.mp taken with ⟨db, executes, taken⟩
          cases taken
          exact sound.devices.step executes
      | chatNumbers | publish | trim | ack => cases ofDevices
    · rw [devices_of_step taken ofDevices]
      exact sound.devices.of_writes ofDevices (step_writes taken)
  catalogued key value found := by
    rcases (step_writes taken).lookup_cases found with earlier | allowed
    · exact sound.catalogued key value earlier
    · exact ⟨action.component, allowed⟩

theorem of_reaches (reaches : Reaches codec shared) : Sound codec shared :=
  Transition.Run.preserves reaches initial fun _ _ _ _ sound _ taken => sound.step taken

variable (sound : Sound codec shared)

include sound

/-- A key holds what its name admits. -/
theorem admits (name : KeyName IdentityKey DeviceID) {value : Value}
    (found : shared.keyspace.lookup (name.text codec) = some value) : name.Admits value := by
  rcases sound.catalogued _ value found with ⟨component, allowed⟩
  exact Component.admits allowed

/-! ## No command meets a key of another type -/

theorem hash?_chatNumbers {key : Text} (isHash : key ∈ hashKeys) :
    ∃ fields, shared.keyspace.hash? key = some fields := by
  cases found : shared.keyspace.lookup key with
  | none => exact ⟨∅, by simp [Keyspace.hash?, found]⟩
  | some value =>
      have admitted := sound.admits (.chatNumbers key isHash) found
      cases value with
      | hash fields => exact ⟨fields, by simp [Keyspace.hash?, found]⟩
      | integer | set | list | string | stream => cases admitted

theorem integer?_rateLimit {key : Text} (isInteger : key ∈ integerKeys) :
    ∃ old, shared.keyspace.integer? key = some old := by
  cases found : shared.keyspace.lookup key with
  | none => exact ⟨none, by simp [Keyspace.integer?, found]⟩
  | some value =>
      have admitted := sound.admits (.rateLimit key isInteger) found
      cases value with
      | integer n => exact ⟨some n, by simp [Keyspace.integer?, found]⟩
      | hash | set | list | string | stream => cases admitted

theorem stream?_streamName (topicName : Text) :
    ∃ entries, shared.keyspace.stream? (streamName topicName) = some entries := by
  cases found : shared.keyspace.lookup (streamName topicName) with
  | none => exact ⟨none, by simp [Keyspace.stream?, found]⟩
  | some value =>
      have admitted := sound.admits (.stream topicName) found
      cases value with
      | stream entries => exact ⟨some entries, by simp [Keyspace.stream?, found]⟩
      | hash | set | list | string | integer => cases admitted

theorem lookup_offsetName (topicName : Text) :
    ∃ stored : Option MessageID, shared.keyspace.lookup (offsetName (streamName topicName)) =
      stored.map fun id => .string id.text := by
  cases found : shared.keyspace.lookup (offsetName (streamName topicName)) with
  | none => exact ⟨none, rfl⟩
  | some value =>
      rcases sound.admits (.offset (streamName topicName)) found with ⟨id, rfl⟩
      exact ⟨some id, rfl⟩

/-- The keys for chat numbers hold a directory. -/
theorem holds_chatNumbers :
    ∃ chat, Holds shared.keyspace chat := by
  rcases @hash?_chatNumbers _ _ _ _ _ _ sound identityToNumberKey (by simp [hashKeys]) with
    ⟨identityToNumber, numbers⟩
  rcases @hash?_chatNumbers _ _ _ _ _ _ sound numberToIdentityKey (by simp [hashKeys]) with
    ⟨numberToIdentity, identities⟩
  rcases @hash?_chatNumbers _ _ _ _ _ _ sound numberToShortNumberKey (by simp [hashKeys]) with
    ⟨numberToShortNumber, shortNumbers⟩
  rcases @hash?_chatNumbers _ _ _ _ _ _ sound shortNumberToNumberKey (by simp [hashKeys]) with
    ⟨shortNumberToNumber, ofShortNumbers⟩
  exact ⟨⟨identityToNumber, numberToIdentity, numberToShortNumber, shortNumberToNumber⟩,
    numbers, identities, shortNumbers, ofShortNumbers,
    sound.integer?_rateLimit lastRegistrationTimeKey_mem,
    sound.integer?_rateLimit registrationTokensKey_mem⟩

/-- What an action needs of the calls in progress. A request lists the index of
its identity in some order. -/
def Callable (codec : KeyCodec IdentityKey DeviceID)
    (shared : SharedRedis IdentityKey DeviceID) : Action IdentityKey DeviceID → Prop
  | .devices (.list number identityKey _ identityDevices) =>
      shared.requests number = none ∧ identityDevices.Nodup ∧
        shared.keyspace.set? (identityDevicesKey codec.toKeyEncoding identityKey) =
          some identityDevices.toFinset
  | .devices (.getPreKey number) => ∃ identityKey deviceId remaining replies,
      shared.requests number = some ⟨identityKey, deviceId :: remaining, replies, none⟩
  | .devices (.finish number) => ∃ identityKey replies,
      shared.requests number = some ⟨identityKey, [], replies, none⟩
  | .chatNumbers (.firstPass caller _ _ _) => shared.sleeping caller = none
  | .chatNumbers (.secondPass caller _) => ∃ call, shared.sleeping caller = some call
  | _ => True

theorem devices_run {action : RedisDevices.Action IdentityKey DeviceID}
    (callable : Callable codec shared (.devices action)) :
    ∃ db, shared.devices.step codec.toKeyEncoding action = some db := by
  cases action with
  | register identityKey deviceId signedPreKey oneTimePreKeys =>
      rcases register_storesAt sound.devices.indexed
        (sound.devices.represents.stored (identityKey, deviceId)) signedPreKey oneTimePreKeys with
        ⟨keyspace, executes, _⟩
      simp [RedisDevices.step, executes]
  | unregister identityKey deviceId =>
      rcases unregister_storesAt (identityKey, deviceId) sound.devices.indexed with
        ⟨keyspace, executes, _⟩
      simp [RedisDevices.step, executes]
  | list number identityKey knownDeviceIds identityDevices =>
      rcases callable with ⟨unused, once, index⟩
      simp [RedisDevices.step, RedisDevices.list, SharedRedis.devices, unused, once, index]
  | getPreKey number =>
      rcases callable with ⟨identityKey, deviceId, remaining, replies, asked⟩
      rcases (sound.devices.requests number _ asked).devices deviceId (by simp) with ⟨device, rfl⟩
      rcases sound.devices.getPreKey_taken asked with ⟨keyspace, taken, _⟩
      exact ⟨_, taken⟩
  | finish number =>
      rcases callable with ⟨identityKey, replies, asked⟩
      have finished : shared.devices.requests number =
          some ⟨identityKey, [], replies, none⟩ := asked
      rcases RedisDevices.finish_of_asked codec.toKeyEncoding finished with ⟨db, taken, _⟩
      exact ⟨db, taken⟩

theorem chatNumbers_run {action : RedisChat.Action}
    (callable : Callable codec shared (.chatNumbers action)) :
    ∃ db, shared.chat.step action = some db := by
  rcases sound.holds_chatNumbers with ⟨chat, holds⟩
  have executes : ∀ (call : Registration) (requiredTokens now : Int),
      ∃ reply keyspace, shared.chat.execute call requiredTokens now = some (reply, keyspace) := by
    intro call requiredTokens now
    rcases registerChatNumberScript_pass holds call.identityKey call.newNumber
      call.newShortNumber requiredTokens now with ⟨reply, keyspace, _, runs, _⟩
    exact ⟨reply, keyspace, runs⟩
  cases action with
  | firstPass caller call now answered =>
      have awake : shared.chat.sleeping caller = none := callable
      rcases executes call minMillisPerChatNumberRegistration now with ⟨reply, keyspace, runs⟩
      cases answered <;> simp [RedisChat.step, awake, runs]
  | secondPass caller answered =>
      rcases callable with ⟨call, sleeping⟩
      have asleep : shared.chat.sleeping caller = some call := sleeping
      rcases executes call 0 0 with ⟨reply, keyspace, runs⟩
      simp [RedisChat.step, asleep, runs]

/-- No operation fails on what another component has left in the keyspace. -/
theorem every_operation_runs {action : Action IdentityKey DeviceID}
    (callable : Callable codec shared action) : ∃ next, shared.step codec action = some next := by
  cases action with
  | devices action =>
      rcases sound.devices_run callable with ⟨db, taken⟩
      simp [SharedRedis.step, taken]
  | chatNumbers action =>
      rcases sound.chatNumbers_run callable with ⟨db, taken⟩
      simp [SharedRedis.step, taken]
  | publish topicName id data =>
      rcases sound.stream?_streamName topicName with ⟨entries, found⟩
      simp [SharedRedis.step, Keyspace.xadd, found]
  | trim topicName count =>
      rcases sound.stream?_streamName topicName with ⟨entries, found⟩
      simp [SharedRedis.step, Keyspace.xtrim, found]
  | ack topicName newOffset =>
      rcases sound.lookup_offsetName topicName with ⟨stored, found⟩
      rcases ackScript_stores found newOffset with ⟨reply, keyspace, executes, _⟩
      simp [SharedRedis.step, executes]

/-! ## Listing the registered devices -/

/-- A key that matches `device:*` is the record of a device. -/
theorem record_of_matches {key : Text}
    (listed : key ∈ shared.keyspace.keysStartingWith "device:".toList) :
    ∃ address : IdentityKey × DeviceID,
      deviceKey codec.toKeyEncoding address.1 address.2 = key := by
  rcases List.mem_filter.mp listed with ⟨present, isMatch⟩
  rw [← AList.mem_keys, ← AList.lookup_isSome, Option.isSome_iff_exists] at present
  rcases present with ⟨value, found⟩
  rcases sound.catalogued key value found with ⟨component, name, _, rfl, _⟩
  have ofDevice := (name.matches_device_iff codec).mp (List.isPrefixOf_iff_prefix.mp isMatch)
  rcases ofDevice with ⟨identityKey, deviceId, rfl⟩
  exact ⟨(identityKey, deviceId), rfl⟩

/-- The record of a device matches `device:*` exactly while it is registered. -/
theorem record_matches_iff (address : IdentityKey × DeviceID) :
    deviceKey codec.toKeyEncoding address.1 address.2 ∈
        shared.keyspace.keysStartingWith "device:".toList ↔
      (Directory.history shared.log address).isSome = true := by
  have stored := sound.devices.represents.stored address
  have starts : "device:".toList <+: deviceKey codec.toKeyEncoding address.1 address.2 :=
    (KeyName.matches_device_iff codec (.device address.1 address.2)).mpr ⟨_, _, rfl⟩
  rw [Keyspace.keysStartingWith, List.mem_filter, List.isPrefixOf_iff_prefix, ← AList.mem_keys,
    ← AList.lookup_isSome, and_iff_left starts]
  exact StoresAt.hasRecord_iff stored

end Sound

end SharedRedis

/-- The last call of `Register` or `Unregister` for the device was one of
`Register`. -/
def LastRegistered (log : List (Event (IdentityKey × DeviceID)))
    (address : IdentityKey × DeviceID) : Prop :=
  ∃ earlier later signedPreKey oneTimePreKeys,
    log = earlier ++ .registered address signedPreKey oneTimePreKeys :: later ∧
      .unregistered address ∉ later

theorem lastRegistered_concat {log : List (Event (IdentityKey × DeviceID))}
    {event : Event (IdentityKey × DeviceID)} {address : IdentityKey × DeviceID} :
    LastRegistered (log ++ [event]) address ↔
      (∃ signedPreKey oneTimePreKeys, event = .registered address signedPreKey oneTimePreKeys) ∨
        event ≠ .unregistered address ∧ LastRegistered log address := by
  constructor
  · rintro ⟨earlier, later, signedPreKey, oneTimePreKeys, equal, kept⟩
    rcases List.eq_nil_or_concat later with rfl | ⟨before, last, rfl⟩
    · have ends := List.append_inj_right' equal rfl
      exact Or.inl ⟨signedPreKey, oneTimePreKeys, List.singleton_injective ends⟩
    · rw [List.concat_eq_append] at equal kept
      rw [← List.cons_append, ← List.append_assoc] at equal
      have same := List.append_inj_left' equal rfl
      have ends := List.singleton_injective (List.append_inj_right' equal rfl)
      rw [List.mem_append, not_or, List.mem_singleton] at kept
      refine Or.inr ⟨?_, earlier, before, signedPreKey, oneTimePreKeys, same, kept.1⟩
      rw [ends]
      exact Ne.symm kept.2
  · rintro (⟨signedPreKey, oneTimePreKeys, rfl⟩ |
      ⟨notRemoved, earlier, later, signedPreKey, oneTimePreKeys, rfl, kept⟩)
    · exact ⟨log, [], signedPreKey, oneTimePreKeys, rfl, List.not_mem_nil⟩
    · refine ⟨earlier, later ++ [event], signedPreKey, oneTimePreKeys, by simp, ?_⟩
      rw [List.mem_append, not_or, List.mem_singleton]
      exact ⟨kept, Ne.symm notRemoved⟩

/-- The history of a device has an epoch while it is registered. -/
theorem history_isSome_iff [DecidableEq IdentityKey] [DecidableEq DeviceID]
    (log : List (Event (IdentityKey × DeviceID))) (address : IdentityKey × DeviceID) :
    (Directory.history log address).isSome = true ↔ LastRegistered log address := by
  induction log using List.reverseRecOn with
  | nil => simp [Directory.history, Directory.empty, LastRegistered]
  | append_singleton log event induction =>
      rw [Directory.history_append, Directory.record_isSome, lastRegistered_concat]
      cases event with
      | registered owner signedPreKey oneTimePreKeys =>
          simp only [Event.registered.injEq, induction, eq_comm]
          simp
      | unregistered owner =>
          simp only [induction, eq_comm, ne_eq, Event.unregistered.injEq]
          simp
      | answered request owner signedPreKey oneTimePreKey => simp [induction]

namespace SharedRedis

open Redisdb

/-- After any calls for devices and chat numbers and any commands of the broker,
`AllRegisteredDevices` returns every device whose last call was one of
`Register` once, and no other, in whatever order Redis lists the keys. The
address in a device key is read back, no two keys coincide, and only the records
of devices match the pattern. -/
theorem allRegisteredDevices_lists_registered [DecidableEq IdentityKey] [DecidableEq DeviceID]
    (codec : KeyCodec IdentityKey DeviceID) (shared : SharedRedis IdentityKey DeviceID)
    (reaches : Reaches codec shared) :
    (∀ deviceKeys, deviceKeys.Perm (shared.keyspace.keysStartingWith "device:".toList) →
      ∃ addresses, allRegisteredDevices codec deviceKeys = some (.ok addresses) ∧
        addresses.Nodup ∧ ∀ address, address ∈ addresses ↔ LastRegistered shared.log address) ∧
    (∀ identityKey deviceId,
      parseDeviceKey codec (deviceKey codec.toKeyEncoding identityKey deviceId) =
        some (.ok (identityKey, deviceId))) ∧
    Function.Injective (KeyName.text codec) ∧
    (∀ name : KeyName IdentityKey DeviceID, "device:".toList <+: name.text codec ↔
      ∃ identityKey deviceId, name = .device identityKey deviceId) := by
  have sound := Sound.of_reaches reaches
  refine ⟨?_, parseDeviceKey_deviceKey codec, KeyName.text_injective codec,
    KeyName.matches_device_iff codec⟩
  intro deviceKeys order
  have records : deviceKeys ∈ Set.range (List.map fun address : IdentityKey × DeviceID =>
      deviceKey codec.toKeyEncoding address.1 address.2) := by
    rw [Set.range_list_map]
    intro key listed
    exact sound.record_of_matches (order.mem_iff.mp listed)
  rcases records with ⟨addresses, rfl⟩
  have once : (addresses.map fun address : IdentityKey × DeviceID =>
      deviceKey codec.toKeyEncoding address.1 address.2).Nodup :=
    order.nodup_iff.mpr (shared.keyspace.entries.keys_nodup.filter _)
  refine ⟨addresses, collectAddresses_deviceKeys codec addresses [], once.of_map, ?_⟩
  intro address
  have injective : Function.Injective fun address : IdentityKey × DeviceID =>
      deviceKey codec.toKeyEncoding address.1 address.2 := fun _ _ => deviceKey_injective
  rw [← history_isSome_iff, ← sound.record_matches_iff, ← order.mem_iff]
  exact (List.mem_map_of_injective injective).symm

/-- Two identities and two devices, one of them with an empty ID. -/
def letterCodec : KeyCodec Bool Bool where
  keyString
    | true => ['b']
    | false => ['a']
  deviceString
    | true => ['b']
    | false => []
  decodeDevice
    | ['b'] => some true
    | [] => some false
    | _ => none
  decodeKey
    | ['b'] => some true
    | ['a'] => some false
    | _ => none
  keyString_injective first second same := by cases first <;> cases second <;> simp_all
  keyString_brace identityKey := by cases identityKey <;> simp
  decode_deviceString deviceId := by cases deviceId <;> rfl
  decode_keyString identityKey := by cases identityKey <;> rfl
  keyString_plain identityKey := by cases identityKey <;> simp
  deviceString_plain deviceId := by cases deviceId <;> simp

/-- Three registrations, one of which is taken back, among the writes of the
other components. -/
theorem allRegisteredDevices_lists_letters :
    ∃ shared, Reaches letterCodec shared ∧ shared.log.length = 4 ∧
      ∃ addresses, allRegisteredDevices letterCodec
          (shared.keyspace.keysStartingWith "device:".toList) = some (.ok addresses) ∧
        addresses.Nodup ∧ ∀ address, address ∈ addresses ↔ LastRegistered shared.log address := by
  have run : ∃ shared, Transition.Run (step letterCodec) Transition.anyStep initial shared ∧
      shared.log.length = 4 :=
    Transition.Run.exists_of_execute
      [.devices (.register false false "signed".toList ["one".toList]),
        .publish "device:".toList ⟨1, 0⟩ [],
        .devices (.register true true "signed".toList []),
        .ack "device:".toList ⟨1, 0⟩,
        .devices (.register false true "signed".toList []),
        .devices (.unregister true true)] (by decide +kernel)
  rcases run with ⟨shared, reaches, logged⟩
  have lists := (allRegisteredDevices_lists_registered letterCodec shared reaches).1
  exact ⟨shared, reaches, logged, lists _ (List.Perm.refl _)⟩

end SharedRedis

end Tassis.Database
