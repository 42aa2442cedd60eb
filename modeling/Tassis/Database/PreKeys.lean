import Tassis.Database.Devices

/-! # Requests for pre-keys

`RequestPreKeys` in Redis, which lists the devices of an identity and then
executes one script for each of them, and the devices in memory. Whatever the
calls and their interleaving, both databases hand out one-time pre-keys as one
stack per device and signed pre-key.
-/

namespace Tassis.Database

open Model (PreKey)

variable {IdentityKey DeviceID : Type}

/-- Every answer is the top of its stack, a request returns the answers it got,
and the number of keys remaining is that of the stack. -/
structure StackDiscipline [DecidableEq IdentityKey] [DecidableEq DeviceID]
    (log : List (Event (IdentityKey × DeviceID)))
    (returned : Nat → IdentityKey → List (PreKey DeviceID) → Prop)
    (remaining : IdentityKey → DeviceID → Nat → Prop) : Prop where
  lawful : LawfulLog log
  returned : ∀ request identityKey preKeys, returned request identityKey preKeys →
    answersTo log request = preKeys.map fun preKey =>
      ((identityKey, preKey.deviceId), some preKey.signedPreKey, preKey.oneTimePreKey)
  remaining : ∀ identityKey deviceId number, remaining identityKey deviceId number ↔
    ∃ epoch, Directory.history log (identityKey, deviceId) = some epoch ∧
      number + epoch.handedOut.length = epoch.uploaded.length

/-! ## Requests in Redis -/

namespace Redisdb

/-- The reply of the script for a listed device. -/
structure PreKeyReply where
  deviceId : Text
  signedPreKey : Option Text
  oneTimePreKey : Option Text
  deriving DecidableEq, Repr

/-- How a call of `RequestPreKeys` ends. -/
inductive Outcome (DeviceID : Type) where
  | returned (preKeys : List (PreKey DeviceID))
  | failed (error : DBError)
  /-- The type assertion on an absent signed pre-key. -/
  | crashed
  deriving DecidableEq

/-- The devices for which the script is executed. -/
def devicesToAsk (encoding : KeyEncoding IdentityKey DeviceID)
    (knownDeviceIds : List DeviceID) (identityDevices : List Text) : List Text :=
  identityDevices.filter fun deviceId => deviceId ∉ knownDeviceIds.map encoding.deviceString

/-- The loop over the replies. -/
def collectPreKeys (encoding : KeyEncoding IdentityKey DeviceID) :
    List PreKeyReply → List (PreKey DeviceID) → Outcome DeviceID
  | [], preKeys => if preKeys.isEmpty then .failed .unknownIdentity else .returned preKeys
  | reply :: replies, preKeys =>
      match encoding.decodeDevice reply.deviceId with
      | none => .failed (.unparsableDeviceId reply.deviceId)
      | some deviceId =>
          match reply.signedPreKey with
          | none => .crashed
          | some signedPreKey => collectPreKeys encoding replies
              (preKeys ++ [⟨deviceId, signedPreKey, reply.oneTimePreKey⟩])

/-- The reply to a request for this device. -/
def replyFor (encoding : KeyEncoding IdentityKey DeviceID)
    (answer : DeviceID × Option Text × Option Text) : PreKeyReply :=
  ⟨encoding.deviceString answer.1, answer.2.1, answer.2.2⟩

/-- What is returned is the replies, none left out. -/
theorem collectPreKeys_returned {encoding : KeyEncoding IdentityKey DeviceID}
    {answers : List (DeviceID × Option Text × Option Text)}
    {collected preKeys : List (PreKey DeviceID)}
    (returned : collectPreKeys encoding (answers.map (replyFor encoding)) collected =
      .returned preKeys) :
    preKeys.map (fun preKey =>
        (preKey.deviceId, some preKey.signedPreKey, preKey.oneTimePreKey)) =
      collected.map (fun preKey =>
        (preKey.deviceId, some preKey.signedPreKey, preKey.oneTimePreKey)) ++ answers := by
  induction answers generalizing collected with
  | nil =>
      simp only [List.map_nil, collectPreKeys] at returned
      split at returned
      · cases returned
      · cases returned
        simp
  | cons answer answers induction =>
      rcases answer with ⟨deviceId, signedPreKey, oneTimePreKey⟩
      simp only [List.map_cons, collectPreKeys, replyFor, encoding.decode_deviceString]
        at returned
      cases signedPreKey with
      | none => cases returned
      | some signedPreKey =>
          rw [induction returned]
          simp

/-- A call of `RequestPreKeys`. -/
structure Request (IdentityKey DeviceID : Type) where
  identityKey : IdentityKey
  /-- The listed devices for which the script is still to be executed. -/
  remaining : List Text
  replies : List PreKeyReply
  outcome : Option (Outcome DeviceID)

end Redisdb

/-- The devices in Redis and the calls of `RequestPreKeys`, numbered. -/
structure RedisDevices (IdentityKey DeviceID : Type) where
  keyspace : Keyspace
  requests : Nat → Option (Redisdb.Request IdentityKey DeviceID)
  /-- History: what happened to the devices so far. -/
  log : List (Event (IdentityKey × DeviceID))

namespace RedisDevices

open Redisdb

inductive Action (IdentityKey DeviceID : Type) where
  | register (identityKey : IdentityKey) (deviceId : DeviceID) (signedPreKey : Text)
      (oneTimePreKeys : List Text)
  | unregister (identityKey : IdentityKey) (deviceId : DeviceID)
  /-- Start a request with the members of the index, in some order. -/
  | list (request : Nat) (identityKey : IdentityKey) (knownDeviceIds : List DeviceID)
      (identityDevices : List Text)
  /-- Execute the script for the next device of a request. -/
  | getPreKey (request : Nat)
  | finish (request : Nat)

def initial : RedisDevices IdentityKey DeviceID := ⟨.empty, fun _ => none, []⟩

variable (encoding : KeyEncoding IdentityKey DeviceID)

def list (db : RedisDevices IdentityKey DeviceID) (request : Nat) (identityKey : IdentityKey)
    (knownDeviceIds : List DeviceID) (identityDevices : List Text) :
    Option (RedisDevices IdentityKey DeviceID) := do
  let members ← db.keyspace.set? (identityDevicesKey encoding identityKey)
  if db.requests request = none ∧ identityDevices.Nodup ∧
      identityDevices.toFinset = members then
    return { db with
      requests := Function.update db.requests request
        (some ⟨identityKey, devicesToAsk encoding knownDeviceIds identityDevices, [], none⟩) }
  else none

def getPreKey (db : RedisDevices IdentityKey DeviceID) (request : Nat) :
    Option (RedisDevices IdentityKey DeviceID) :=
  match db.requests request with
  | some ⟨identityKey, deviceId :: remaining, replies, none⟩ => do
      let deviceKey := deviceKeyFromString encoding identityKey deviceId
      let ((signedPreKey, oneTimePreKey), keyspace) ←
        getPreKeyScript db.keyspace deviceKey (oneTimePreKeysKey deviceKey)
      return {
        keyspace := keyspace
        requests := Function.update db.requests request (some ⟨identityKey, remaining,
          replies ++ [⟨deviceId, signedPreKey, oneTimePreKey⟩], none⟩)
        log := db.log ++ (encoding.decodeDevice deviceId).toList.map fun deviceId =>
          .answered request (identityKey, deviceId) signedPreKey oneTimePreKey }
  | _ => none

def finish (db : RedisDevices IdentityKey DeviceID) (request : Nat) :
    Option (RedisDevices IdentityKey DeviceID) :=
  match db.requests request with
  | some ⟨identityKey, [], replies, none⟩ =>
      some { db with
        requests := Function.update db.requests request (some ⟨identityKey, [], replies,
          some (collectPreKeys encoding replies [])⟩) }
  | _ => none

def step (db : RedisDevices IdentityKey DeviceID) :
    Action IdentityKey DeviceID → Option (RedisDevices IdentityKey DeviceID)
  | .register identityKey deviceId signedPreKey oneTimePreKeys => do
      let keyspace ← Redisdb.register encoding db.keyspace identityKey deviceId signedPreKey
        oneTimePreKeys
      return { db with
        keyspace := keyspace
        log := db.log ++ [.registered (identityKey, deviceId) signedPreKey oneTimePreKeys] }
  | .unregister identityKey deviceId => do
      let keyspace ← Redisdb.unregister encoding db.keyspace identityKey deviceId
      return { db with
        keyspace := keyspace
        log := db.log ++ [.unregistered (identityKey, deviceId)] }
  | .list request identityKey knownDeviceIds identityDevices =>
      db.list encoding request identityKey knownDeviceIds identityDevices
  | .getPreKey request => db.getPreKey encoding request
  | .finish request => db.finish encoding request

def Reaches (db : RedisDevices IdentityKey DeviceID) : Prop :=
  Transition.Run (step encoding) Transition.anyStep initial db

/-- The call with this number has returned these pre-keys. -/
def Returned (db : RedisDevices IdentityKey DeviceID) (request : Nat)
    (identityKey : IdentityKey) (preKeys : List (PreKey DeviceID)) : Prop :=
  (db.requests request).map (fun current => (current.identityKey, current.outcome)) =
    some (identityKey, some (.returned preKeys))

instance [DecidableEq IdentityKey] [DecidableEq DeviceID]
    (db : RedisDevices IdentityKey DeviceID) (request : Nat) (identityKey : IdentityKey)
    (preKeys : List (PreKey DeviceID)) : Decidable (db.Returned request identityKey preKeys) :=
  inferInstanceAs (Decidable (_ = _))

/-! ## Every run keeps the stacks in Redis -/

variable {encoding : KeyEncoding IdentityKey DeviceID}
  {log : List (Event (IdentityKey × DeviceID))}
  {db next : RedisDevices IdentityKey DeviceID}

/-- What holds of the request with this number. -/
structure RequestSound (encoding : KeyEncoding IdentityKey DeviceID)
    (log : List (Event (IdentityKey × DeviceID))) (number : Nat)
    (request : Request IdentityKey DeviceID) : Prop where
  devices : ∀ deviceId, deviceId ∈ request.remaining →
    ∃ device, deviceId = encoding.deviceString device
  replies : ∃ answers : List (DeviceID × Option Text × Option Text),
    request.replies = answers.map (replyFor encoding) ∧
      answersTo log number = answers.map fun answer =>
        ((request.identityKey, answer.1), answer.2)
  outcome : ∀ outcome, request.outcome = some outcome →
    outcome = collectPreKeys encoding request.replies []

variable [DecidableEq IdentityKey] [DecidableEq DeviceID]

structure Sound (encoding : KeyEncoding IdentityKey DeviceID)
    (db : RedisDevices IdentityKey DeviceID) : Prop where
  represents : Represents (StoresAt encoding db.keyspace) db.log
  indexed : Indexed encoding db.keyspace
  requests : ∀ number request, request ∈ db.requests number →
    RequestSound encoding db.log number request
  unanswered : ∀ number, db.requests number = none → answersTo db.log number = []

theorem Sound.initial : Sound encoding initial where
  represents := .empty fun _ => ⟨rfl, rfl⟩
  indexed := fun _ => ⟨∅, rfl, by simp⟩
  requests := by
    intro number request present
    cases present
  unanswered := fun _ _ => rfl

section Steps

variable (sound : Sound encoding db)

include sound

/-- An event that answers no request concerns no request. -/
theorem Sound.of_event {keyspace : Keyspace} {event : Event (IdentityKey × DeviceID)}
    (noAnswer : ∀ number, answersTo [event] number = [])
    (represents : Represents (StoresAt encoding keyspace) (db.log ++ [event]))
    (indexed : Indexed encoding keyspace) :
    Sound encoding { db with keyspace := keyspace, log := db.log ++ [event] } where
  represents := represents
  indexed := indexed
  requests := by
    intro number request present
    have earlier := sound.requests number request present
    refine ⟨earlier.devices, ?_, earlier.outcome⟩
    rw [answersTo_append, noAnswer, List.append_nil]
    exact earlier.replies
  unanswered := by
    intro number absent
    rw [answersTo_append, noAnswer, List.append_nil]
    exact sound.unanswered number absent

theorem Sound.register {identityKey : IdentityKey}
    {deviceId : DeviceID} {signedPreKey : Text} {oneTimePreKeys : List Text}
    (taken : db.step encoding (.register identityKey deviceId signedPreKey oneTimePreKeys) =
      some next) : Sound encoding next := by
  have stored := sound.represents.stored (identityKey, deviceId)
  rcases register_storesAt sound.indexed stored signedPreKey oneTimePreKeys with
    ⟨keyspace, executes, stores, indexed, elsewhere⟩
  simp only [step, executes, Option.bind_eq_bind, Option.bind_some, Option.pure_def,
    Option.some.injEq] at taken
  subst next
  apply sound.of_event (fun _ => rfl) _ indexed
  refine sound.represents.append
    (.registered (identityKey, deviceId) signedPreKey oneTimePreKeys) trivial ?_ elsewhere
  simpa [Directory.record, Event.address] using stores

theorem Sound.unregister {identityKey : IdentityKey} {deviceId : DeviceID}
    (taken : db.step encoding (.unregister identityKey deviceId) = some next) :
    Sound encoding next := by
  rcases unregister_storesAt (identityKey, deviceId) sound.indexed with
    ⟨keyspace, executes, stores, indexed, elsewhere⟩
  simp only [step, executes, Option.bind_eq_bind, Option.bind_some, Option.pure_def,
    Option.some.injEq] at taken
  subst next
  apply sound.of_event (fun _ => rfl) _ indexed
  refine sound.represents.append (.unregistered (identityKey, deviceId)) trivial ?_ elsewhere
  simpa [Directory.record, Event.address] using stores

/-- Replacing a request by a sound one. -/
theorem Sound.set_request {number : Nat} {request : Request IdentityKey DeviceID}
    (requestSound : RequestSound encoding db.log number request) :
    Sound encoding { db with
      requests := Function.update db.requests number (some request) } where
  represents := sound.represents
  indexed := sound.indexed
  requests := by
    intro other request' present
    rcases of_update_some present with ⟨rfl, rfl⟩ | ⟨_, earlier⟩
    · exact requestSound
    · exact sound.requests other request' earlier
  unanswered := by
    intro other absent
    by_cases same : other = number
    · subst other
      simp at absent
    · simp only [Function.update_of_ne same] at absent
      exact sound.unanswered other absent

theorem Sound.list {number : Nat} {identityKey : IdentityKey} {knownDeviceIds : List DeviceID}
    {identityDevices : List Text}
    (taken : db.list encoding number identityKey knownDeviceIds identityDevices = some next) :
    Sound encoding next := by
  rcases sound.indexed identityKey with ⟨members, index, listed⟩
  simp only [RedisDevices.list, index, Option.bind_eq_bind, Option.bind_some,
    Option.pure_def] at taken
  split at taken
  · rename_i condition
    rcases condition with ⟨unused, _, sameMembers⟩
    rw [Option.some.injEq] at taken
    subst next
    apply sound.set_request
    refine ⟨?_, ⟨[], rfl, sound.unanswered number unused⟩, by simp⟩
    intro deviceId member
    apply listed deviceId
    rw [← sameMembers, List.mem_toFinset]
    exact List.mem_of_mem_filter member
  · cases taken

/-- An answer for the next device of a request goes to that request alone. -/
theorem Sound.of_answer {number : Nat} {identityKey : IdentityKey}
    {device : DeviceID} {remaining : List Text} {replies : List PreKeyReply}
    (asked : db.requests number =
      some ⟨identityKey, encoding.deviceString device :: remaining, replies, none⟩)
    {keyspace : Keyspace} {signedPreKey oneTimePreKey : Option Text}
    (represents : Represents (StoresAt encoding keyspace)
      (db.log ++ [.answered number (identityKey, device) signedPreKey oneTimePreKey]))
    (indexed : Indexed encoding keyspace) :
    Sound encoding
      { keyspace := keyspace
        requests := Function.update db.requests number (some ⟨identityKey, remaining,
          replies ++ [⟨encoding.deviceString device, signedPreKey, oneTimePreKey⟩], none⟩)
        log := db.log ++
          [.answered number (identityKey, device) signedPreKey oneTimePreKey] } where
  represents := represents
  indexed := indexed
  requests := by
    intro other request present
    rcases of_update_some present with ⟨rfl, rfl⟩ | ⟨different, present⟩
    · have earlier := sound.requests other _ asked
      rcases earlier.replies with ⟨answers, replied, logged⟩
      refine ⟨fun deviceId member => earlier.devices deviceId (List.mem_cons_of_mem _ member),
        ⟨answers ++ [(device, signedPreKey, oneTimePreKey)], ?_, ?_⟩, by simp⟩
      · simp [replyFor, ← replied]
      · rw [answersTo_append, logged, answersTo_answered, List.map_append]
        rfl
    · have earlier := sound.requests other request present
      refine ⟨earlier.devices, ?_, earlier.outcome⟩
      rw [answersTo_append, answersTo_answered_of_ne different.symm, List.append_nil]
      exact earlier.replies
  unanswered := by
    intro other absent
    by_cases same : other = number
    · subst other
      simp at absent
    · simp only [Function.update_of_ne same] at absent
      rw [answersTo_append, answersTo_answered_of_ne (Ne.symm same), List.append_nil]
      exact sound.unanswered other absent

theorem Sound.getPreKey {number : Nat} (taken : db.getPreKey encoding number = some next) :
    Sound encoding next := by
  unfold RedisDevices.getPreKey at taken
  split at taken
  · rename_i identityKey deviceId remaining replies asked
    rcases (sound.requests number _ asked).devices deviceId (by simp) with ⟨device, rfl⟩
    have stored := sound.represents.stored (identityKey, device)
    rcases getPreKey_storesAt sound.indexed stored with
      ⟨keyspace, executes, stores, indexed, elsewhere⟩
    simp only [Redisdb.deviceKey] at executes
    simp only [executes, encoding.decode_deviceString, Option.bind_eq_bind, Option.bind_some,
      Option.pure_def, Option.toList_some, List.map_cons, List.map_nil,
      Option.some.injEq] at taken
    subst next
    apply sound.of_answer asked _ indexed
    apply sound.represents.append _ (Directory.lawful_pop _ _ _) _ elsewhere
    simpa [Directory.record, Event.address] using stores
  · cases taken

theorem Sound.finish {number : Nat} (taken : db.finish encoding number = some next) :
    Sound encoding next := by
  unfold RedisDevices.finish at taken
  split at taken
  · rename_i identityKey replies asked
    rw [Option.some.injEq] at taken
    subst next
    have earlier := sound.requests number _ asked
    exact sound.set_request ⟨earlier.devices, earlier.replies, by simp⟩
  · cases taken

theorem Sound.step {action : Action IdentityKey DeviceID}
    (taken : db.step encoding action = some next) : Sound encoding next := by
  cases action with
  | register identityKey deviceId signedPreKey oneTimePreKeys =>
      exact sound.register taken
  | unregister identityKey deviceId => exact sound.unregister taken
  | list number identityKey knownDeviceIds identityDevices => exact sound.list taken
  | getPreKey number => exact sound.getPreKey taken
  | finish number => exact sound.finish taken

end Steps

theorem Sound.of_reaches (reaches : Reaches encoding db) : Sound encoding db := by
  apply Transition.Run.preserves reaches Sound.initial
  intro current action next _ sound _ taken
  exact sound.step taken

theorem Sound.stackDiscipline (sound : Sound encoding db) :
    StackDiscipline db.log db.Returned (fun identityKey deviceId number =>
      preKeysRemaining encoding db.keyspace identityKey deviceId = some (.ok number)) where
  lawful := sound.represents.lawful
  returned := by
    intro number identityKey preKeys returned
    rcases Option.map_eq_some_iff.mp returned with ⟨request, present, outcome⟩
    rcases Prod.mk.inj outcome with ⟨rfl, ended⟩
    have requestSound := sound.requests number request present
    rcases requestSound.replies with ⟨answers, replied, logged⟩
    have collected := requestSound.outcome _ ended
    rw [replied] at collected
    rw [logged, ← List.nil_append answers, ← List.map_nil,
      ← collectPreKeys_returned collected.symm, List.map_map]
    rfl
  remaining := by
    intro identityKey deviceId number
    have stored := sound.represents.stored (identityKey, deviceId)
    cases registered : Directory.history db.log (identityKey, deviceId) with
    | none => simp [preKeysRemaining_of_storesAt (registered ▸ stored)]
    | some epoch =>
        have counted := epoch.length_keys
        simp only [preKeysRemaining_of_storesAt (registered ▸ stored), Option.some.injEq,
          Except.ok.injEq, exists_eq_left']
        omega

end RedisDevices

end Tassis.Database
