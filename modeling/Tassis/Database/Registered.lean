import Tassis.Database.Transaction

/-! # Registered devices

Which devices `AllRegisteredDevices` lists after a call of `Register`, also one
that has failed. In Redis these are the devices with a record, and in memory
those of any identity.
-/

namespace Tassis.Database

variable {IdentityKey DeviceID : Type} {encoding : KeyEncoding IdentityKey DeviceID}

/-! ## In Redis -/

namespace Redisdb

variable {deviceKey identityDevicesKey : Text} {keyspace next : Keyspace}

theorem Signed.exists? {signedPreKey : Text} (signed : Signed deviceKey keyspace signedPreKey) :
    keyspace.exists? deviceKey = true := by
  unfold Signed Keyspace.hget Keyspace.hash? at signed
  cases stored : keyspace.lookup deviceKey with
  | none => simp [stored] at signed
  | some value => simp [Keyspace.exists?, stored]

/-- The script changes no other key. -/
theorem lookup_of_registerScript {oneTimePreKeysKey signedPreKey deviceId : Text} {reply : Int}
    (executes : registerScript keyspace deviceKey identityDevicesKey oneTimePreKeysKey
      signedPreKey deviceId = some (reply, next)) {key : Text} (notRecord : key ≠ deviceKey)
    (notKeys : key ≠ oneTimePreKeysKey) (notIndex : key ≠ identityDevicesKey) :
    next.lookup key = keyspace.lookup key := by
  rcases Option.bind_eq_some_iff.mp executes with ⟨signed, _, indexes⟩
  rcases Option.bind_eq_some_iff.mp indexes with ⟨indexed, added, writes⟩
  have same := Keyspace.lookup_of_sadd notIndex added
  split at writes
  · rcases Option.bind_eq_some_iff.mp writes with ⟨recorded, written, returned⟩
    cases returned
    rw [Keyspace.lookup_del_of_ne notKeys, Keyspace.lookup_of_hset notRecord written, same]
  · cases writes
    exact same

section Transactions

variable {signedPreKey deviceId : Text} {oneTimePreKeys : List Text} {faults : Faults}

/-- What follows the script in the transaction. -/
def pushes (deviceKey : Text) (oneTimePreKeys : List Text) (faults : Faults) :
    List Keyspace.Queued :=
  if oneTimePreKeys = [] then [] else [queuedPush deviceKey oneTimePreKeys faults]

theorem queuedCommands_eq :
    queuedCommands deviceKey identityDevicesKey signedPreKey deviceId oneTimePreKeys faults =
      queuedScript deviceKey identityDevicesKey signedPreKey deviceId faults ::
        pushes deviceKey oneTimePreKeys faults := by
  unfold queuedCommands pushes
  split <;> rfl

theorem lookup_of_pushes {key : Text} (notKeys : key ≠ oneTimePreKeysKey deviceKey) :
    ∀ queued ∈ pushes deviceKey oneTimePreKeys faults, ∀ keyspace next,
      queued.command keyspace = some next → next.lookup key = keyspace.lookup key := by
  intro queued member keyspace next executes
  unfold pushes at member
  split at member
  · cases member
  · cases List.mem_singleton.mp member
    exact Keyspace.lookup_of_lpush notKeys executes

/-- The transaction changes no other key. -/
theorem lookup_transact_queuedCommands {key : Text} (notRecord : key ≠ deviceKey)
    (notKeys : key ≠ oneTimePreKeysKey deviceKey) (notIndex : key ≠ identityDevicesKey) :
    (Keyspace.transact (queuedCommands deviceKey identityDevicesKey signedPreKey deviceId
      oneTimePreKeys faults) keyspace).2.lookup key = keyspace.lookup key := by
  rw [queuedCommands_eq]
  apply Keyspace.lookup_transact
  intro queued member keyspace next executes
  cases member with
  | head =>
      rcases Option.map_eq_some_iff.mp executes with ⟨⟨reply, result⟩, ran, rfl⟩
      exact lookup_of_registerScript ran notRecord notKeys notIndex
  | tail _ member => exact lookup_of_pushes notKeys queued member keyspace next executes

/-- The device has a record if it had one or if the script has run, whether or not
the transaction fails. -/
theorem exists?_transact_queuedCommands (separate : Separate deviceKey identityDevicesKey) :
    (Keyspace.transact (queuedCommands deviceKey identityDevicesKey signedPreKey deviceId
        oneTimePreKeys faults) keyspace).2.exists? deviceKey = true ↔
      keyspace.exists? deviceKey = true ∨
        ScriptRuns deviceKey identityDevicesKey keyspace faults := by
  let script := queuedScript deviceKey identityDevicesKey signedPreKey deviceId faults
  have pushed : (Keyspace.transact (pushes deviceKey oneTimePreKeys faults)
      (script.run keyspace).2).2.exists? deviceKey =
        (script.run keyspace).2.exists? deviceKey := by
    rw [Keyspace.exists?, Keyspace.lookup_transact (lookup_of_pushes separate.keys),
      Keyspace.exists?]
  rw [queuedCommands_eq]
  show (Keyspace.transact (pushes deviceKey oneTimePreKeys faults)
    (script.run keyspace).2).2.exists? deviceKey = true ↔ _
  rw [pushed]
  rcases queuedScript_run separate keyspace signedPreKey deviceId faults with
    ⟨stops, run⟩ | ⟨runs, next, run, writes⟩
  · rw [show script.run keyspace = (true, keyspace) from run]
    simp [stops]
  · rw [show script.run keyspace = (false, next) from run]
    simp [runs, writes.signed.exists?]

end Transactions

/-- A call of `Register` leaves the same devices registered, and its own one if the
script has run. -/
theorem registered_registerTransaction
    (registration : DeviceRegistration IdentityKey DeviceID) (faults : Faults)
    (address : IdentityKey × DeviceID) :
    HasRecord encoding (registerTransaction encoding keyspace registration faults).2 address ↔
      HasRecord encoding keyspace address ∨
        address = (registration.identityKey, registration.deviceId) ∧
          ScriptRuns (Redisdb.deviceKey encoding registration.identityKey registration.deviceId)
            (Redisdb.identityDevicesKey encoding registration.identityKey) keyspace faults := by
  by_cases own : address = (registration.identityKey, registration.deviceId)
  · subst own
    rw [and_iff_right rfl]
    exact exists?_transact_queuedCommands (separate_keys _ _)
  · have notRecord : Redisdb.deviceKey encoding address.1 address.2 ≠
        Redisdb.deviceKey encoding registration.identityKey registration.deviceId := by
      intro equal
      exact own (@deviceKey_injective _ _ encoding address (_, _) equal)
    rw [HasRecord, Keyspace.exists?, registerTransaction,
      lookup_transact_queuedCommands notRecord
        (deviceKeyFromString_ne_oneTimePreKeysKey _ _ _)
        (deviceKeyFromString_ne_identityDevicesKey _ _ _)]
    simp [own, HasRecord, Keyspace.exists?]

end Redisdb

/-! ## In memory -/

namespace Memdb

def Registered (encoding : KeyEncoding IdentityKey DeviceID) [DecidableEq DeviceID]
    (identities : Identities DeviceID) (address : IdentityKey × DeviceID) : Prop :=
  (device identities (encoding.keyString address.1) address.2).isSome = true

end Memdb

end Tassis.Database
