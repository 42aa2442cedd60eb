import Tassis.Database.ChatNumbers
import Tassis.Database.Epoch
import Tassis.Model.Messages

/-! # Registered devices in Redis

The records, indexes and one-time key lists of devices, the scripts that update
them, and the interleaved calls of `Register`, `Unregister` and
`RequestPreKeys`. A request lists the devices of an identity first and then
executes one script for each of them.
-/

namespace Tassis.Database

/-- How keys and device IDs are written into Redis keys. -/
structure KeyEncoding (IdentityKey DeviceID : Type) where
  keyString : IdentityKey → Text
  deviceString : DeviceID → Text
  decodeDevice : Text → Option DeviceID
  keyString_injective : Function.Injective keyString
  keyString_brace : ∀ identityKey, '}' ∉ keyString identityKey
  decode_deviceString : ∀ deviceId, decodeDevice (deviceString deviceId) = some deviceId

variable {IdentityKey DeviceID : Type}

namespace Redisdb

/-! ## Keys -/

def deviceKeyFromString (encoding : KeyEncoding IdentityKey DeviceID)
    (identityKey : IdentityKey) (deviceId : Text) : Text :=
  "device:\x7b".toList ++ (encoding.keyString identityKey ++ '}' :: ':' :: deviceId)

def deviceKey (encoding : KeyEncoding IdentityKey DeviceID) (identityKey : IdentityKey)
    (deviceId : DeviceID) : Text :=
  deviceKeyFromString encoding identityKey (encoding.deviceString deviceId)

def identityDevicesKey (encoding : KeyEncoding IdentityKey DeviceID)
    (identityKey : IdentityKey) : Text :=
  "identity->devices:\x7b".toList ++ (encoding.keyString identityKey ++ ['}'])

def oneTimePreKeysKey (deviceKey : Text) : Text := "otpk:".toList ++ deviceKey

/-- The device has a record. -/
def HasRecord (encoding : KeyEncoding IdentityKey DeviceID) (keyspace : Keyspace)
    (address : IdentityKey × DeviceID) : Prop :=
  keyspace.exists? (deviceKey encoding address.1 address.2) = true

instance (encoding : KeyEncoding IdentityKey DeviceID) (keyspace : Keyspace)
    (address : IdentityKey × DeviceID) : Decidable (HasRecord encoding keyspace address) :=
  inferInstanceAs (Decidable (_ = true))

variable {encoding : KeyEncoding IdentityKey DeviceID}

theorem deviceKeyFromString_inj {identityKey identityKey' : IdentityKey}
    {deviceId deviceId' : Text}
    (equal : deviceKeyFromString encoding identityKey deviceId =
      deviceKeyFromString encoding identityKey' deviceId') :
    identityKey = identityKey' ∧ deviceId = deviceId' := by
  have parts := Text.append_separator_inj (encoding.keyString_brace identityKey)
    (encoding.keyString_brace identityKey') (List.append_cancel_left equal)
  exact ⟨encoding.keyString_injective parts.1, (List.cons.inj parts.2).2⟩

theorem identityDevicesKey_injective :
    Function.Injective (identityDevicesKey encoding) := by
  intro identityKey identityKey' equal
  have parts := Text.append_separator_inj (encoding.keyString_brace identityKey)
    (encoding.keyString_brace identityKey') (List.append_cancel_left equal)
  exact encoding.keyString_injective parts.1

theorem oneTimePreKeysKey_injective : Function.Injective oneTimePreKeysKey :=
  fun _ _ equal => List.append_cancel_left equal

theorem deviceKeyFromString_ne_oneTimePreKeysKey (identityKey : IdentityKey)
    (deviceId deviceKey : Text) :
    deviceKeyFromString encoding identityKey deviceId ≠ oneTimePreKeysKey deviceKey := by
  intro equal
  cases (List.cons.inj equal).1

theorem deviceKeyFromString_ne_identityDevicesKey (identityKey identityKey' : IdentityKey)
    (deviceId : Text) :
    deviceKeyFromString encoding identityKey deviceId ≠
      identityDevicesKey encoding identityKey' := by
  intro equal
  cases (List.cons.inj equal).1

theorem oneTimePreKeysKey_ne_identityDevicesKey (deviceKey : Text)
    (identityKey : IdentityKey) :
    oneTimePreKeysKey deviceKey ≠ identityDevicesKey encoding identityKey := by
  intro equal
  cases (List.cons.inj equal).1

/-! ## Scripts -/

def signedPreKeyField : Text := "signedPreKey".toList

def registerScript (keyspace : Keyspace) (deviceKey identityDevicesKey oneTimePreKeysKey
    newSignedPreKey deviceId : Text) : Option (Int × Keyspace) := do
  let oldSignedPreKey ← keyspace.hget deviceKey signedPreKeyField
  let keyspace ← keyspace.sadd identityDevicesKey deviceId
  if some newSignedPreKey ≠ oldSignedPreKey then
    let keyspace ← keyspace.hset deviceKey signedPreKeyField newSignedPreKey
    return (0, keyspace.del oneTimePreKeysKey)
  else return (1, keyspace)

/-- The first block of the script for unregistering. The index is deleted when
it has one member, whichever that is. -/
def removeFromIndex (keyspace : Keyspace) (identityDevicesKey deviceId : Text) :
    Option Keyspace := do
  let remainingDevices ← keyspace.scard identityDevicesKey
  if remainingDevices = 1 then return keyspace.del identityDevicesKey
  else keyspace.srem identityDevicesKey deviceId

def unregisterScript (keyspace : Keyspace) (deviceKey identityDevicesKey oneTimePreKeysKey
    deviceId : Text) : Option (Int × Keyspace) := do
  let keyspace ← removeFromIndex keyspace identityDevicesKey deviceId
  return (0, (keyspace.del deviceKey).del oneTimePreKeysKey)

def getPreKeyScript (keyspace : Keyspace) (deviceKey oneTimePreKeysKey : Text) :
    Option ((Option Text × Option Text) × Keyspace) := do
  let signedPreKey ← keyspace.hget deviceKey signedPreKeyField
  let (oneTimePreKey, keyspace) ← keyspace.lpop oneTimePreKeysKey
  return ((signedPreKey, oneTimePreKey), keyspace)

/-! ## Calls -/

/-- The script and the push of one transaction. -/
def register (encoding : KeyEncoding IdentityKey DeviceID) (keyspace : Keyspace)
    (identityKey : IdentityKey) (deviceId : DeviceID) (signedPreKey : Text)
    (oneTimePreKeys : List Text) : Option Keyspace := do
  let deviceKey := deviceKey encoding identityKey deviceId
  let (_, keyspace) ← registerScript keyspace deviceKey
    (identityDevicesKey encoding identityKey) (oneTimePreKeysKey deviceKey) signedPreKey
    (encoding.deviceString deviceId)
  if oneTimePreKeys = [] then return keyspace
  else keyspace.lpush (oneTimePreKeysKey deviceKey) oneTimePreKeys

def unregister (encoding : KeyEncoding IdentityKey DeviceID) (keyspace : Keyspace)
    (identityKey : IdentityKey) (deviceId : DeviceID) : Option Keyspace := do
  let deviceKey := deviceKey encoding identityKey deviceId
  let (_, keyspace) ← unregisterScript keyspace deviceKey
    (identityDevicesKey encoding identityKey) (oneTimePreKeysKey deviceKey)
    (encoding.deviceString deviceId)
  return keyspace

def preKeysRemaining (encoding : KeyEncoding IdentityKey DeviceID) (keyspace : Keyspace)
    (identityKey : IdentityKey) (deviceId : DeviceID) : Option (Except DBError Nat) := do
  let deviceKey := deviceKey encoding identityKey deviceId
  let numPreKeys ← keyspace.llen (oneTimePreKeysKey deviceKey)
  if keyspace.exists? deviceKey then return .ok numPreKeys
  else return .error .unknownDevice

/-! ## What the calls do to a device -/

/-- The keyspace stores this epoch for the device at this key. -/
structure Stores (keyspace : Keyspace) (deviceKey : Text) (epoch : Option Epoch) : Prop where
  record : match epoch with
    | none => keyspace.lookup deviceKey = none
    | some epoch => ∃ fields, keyspace.lookup deviceKey = some (.hash fields) ∧
        fields.lookup signedPreKeyField = some epoch.signedPreKey
  keys : keyspace.list? (oneTimePreKeysKey deviceKey) =
    some ((epoch.map Epoch.keys).getD [])

variable {keyspace next : Keyspace} {deviceKey identityDevicesKey : Text}
  {epoch : Option Epoch}

theorem Stores.of_lookup_eq (stores : Stores keyspace deviceKey epoch)
    (sameRecord : next.lookup deviceKey = keyspace.lookup deviceKey)
    (sameKeys : next.lookup (oneTimePreKeysKey deviceKey) =
      keyspace.lookup (oneTimePreKeysKey deviceKey)) : Stores next deviceKey epoch where
  record := by
    rw [sameRecord]
    exact stores.record
  keys := by
    rw [Keyspace.list?, sameKeys]
    exact stores.keys

theorem Stores.hash? (stores : Stores keyspace deviceKey epoch) :
    ∃ fields, keyspace.hash? deviceKey = some fields ∧
      fields.lookup signedPreKeyField = epoch.map Epoch.signedPreKey := by
  cases epoch with
  | none => exact ⟨∅, by simp [Keyspace.hash?, stores.record], by simp⟩
  | some epoch =>
      rcases stores.record with ⟨fields, stored, signed⟩
      exact ⟨fields, by simp [Keyspace.hash?, stored], signed⟩

/-- A call changes no other key than those of its device and the index. -/
def Frames (keyspace next : Keyspace) (deviceKey identityDevicesKey : Text) : Prop :=
  ∀ key, key ≠ deviceKey → key ≠ oneTimePreKeysKey deviceKey → key ≠ identityDevicesKey →
    next.lookup key = keyspace.lookup key

/-- The three keys of a call differ. -/
structure Separate (deviceKey identityDevicesKey : Text) : Prop where
  keys : deviceKey ≠ oneTimePreKeysKey deviceKey
  record_index : deviceKey ≠ identityDevicesKey
  keys_index : oneTimePreKeysKey deviceKey ≠ identityDevicesKey

/-- Registering continues the epoch or begins a new one. -/
theorem registerScript_stores (separate : Separate deviceKey identityDevicesKey)
    (stores : Stores keyspace deviceKey epoch) {members : Finset Text}
    (index : keyspace.set? identityDevicesKey = some members)
    (signedPreKey deviceId : Text) :
    ∃ reply next, registerScript keyspace deviceKey identityDevicesKey
        (oneTimePreKeysKey deviceKey) signedPreKey deviceId = some (reply, next) ∧
      Stores next deviceKey (some (Epoch.continuing epoch signedPreKey)) ∧
      next.set? identityDevicesKey = some (insert deviceId members) ∧
      Frames keyspace next deviceKey identityDevicesKey := by
  rcases stores.hash? with ⟨fields, isHash, signed⟩
  let indexed := keyspace.store identityDevicesKey (.set (insert deviceId members))
  by_cases same : some signedPreKey = epoch.map Epoch.signedPreKey
  · have continues : epoch = some (Epoch.continuing epoch signedPreKey) := by
      cases epoch with
      | none => cases same
      | some epoch =>
          rw [Epoch.continuing, if_pos (Option.some.inj same).symm]
    refine ⟨1, indexed, ?_, ?_, ?_, ?_⟩
    · simp [registerScript, Keyspace.hget, Keyspace.sadd, isHash, index, signed, ← same,
        indexed]
    · rw [← continues]
      exact stores.of_lookup_eq (Keyspace.lookup_store_of_ne separate.record_index)
        (Keyspace.lookup_store_of_ne separate.keys_index)
    · exact Keyspace.set?_store_self _
    · intro key _ _ notIndex
      exact Keyspace.lookup_store_of_ne notIndex
  · have restarts : Epoch.continuing epoch signedPreKey = .new signedPreKey := by
      cases epoch with
      | none => rfl
      | some epoch =>
          rw [Epoch.continuing, if_neg]
          intro equal
          exact same (by simp [equal])
    have isHash' : indexed.hash? deviceKey = some fields :=
      (Keyspace.hash?_store_of_ne separate.record_index).trans isHash
    refine ⟨0, (indexed.store deviceKey (.hash (fields.insert signedPreKeyField
      signedPreKey))).del (oneTimePreKeysKey deviceKey), ?_, ?_, ?_, ?_⟩
    · simp [registerScript, Keyspace.hget, Keyspace.sadd, Keyspace.hset, isHash, index,
        signed, same, indexed, isHash']
    · rw [restarts]
      refine ⟨⟨fields.insert signedPreKeyField signedPreKey, ?_, AList.lookup_insert ..⟩, ?_⟩
      · rw [Keyspace.lookup_del_of_ne separate.keys]
        exact Keyspace.lookup_store_hash_insert fields signedPreKeyField signedPreKey
      · exact Keyspace.list?_del_self
    · rw [Keyspace.set?_del_of_ne separate.keys_index.symm,
        Keyspace.set?_store_of_ne separate.record_index.symm]
      exact Keyspace.set?_store_self _
    · intro key notRecord notKeys notIndex
      rw [Keyspace.lookup_del_of_ne notKeys, Keyspace.lookup_store_of_ne notRecord]
      exact Keyspace.lookup_store_of_ne notIndex

/-- Pushing keys uploads them into the current epoch. -/
theorem Stores.lpush {current : Epoch} (separate : Separate deviceKey identityDevicesKey)
    (stores : Stores keyspace deviceKey (some current)) (oneTimePreKeys : List Text) :
    ∃ next, keyspace.lpush (oneTimePreKeysKey deviceKey) oneTimePreKeys = some next ∧
      Stores next deviceKey (some (current.upload oneTimePreKeys)) ∧
      ∀ key, key ≠ oneTimePreKeysKey deviceKey → next.lookup key = keyspace.lookup key := by
  refine ⟨keyspace.store (oneTimePreKeysKey deviceKey)
    (.list (oneTimePreKeys.reverse ++ current.keys)), ?_, ⟨?_, ?_⟩, ?_⟩
  · simp [Keyspace.lpush, stores.keys]
  · rw [Keyspace.lookup_store_of_ne separate.keys]
    exact stores.record
  · simp [Epoch.keys_upload]
  · intro key different
    exact Keyspace.lookup_store_of_ne different

theorem removeFromIndex_index {members : Finset Text}
    (index : keyspace.set? identityDevicesKey = some members) (deviceId : Text) :
    ∃ next members', removeFromIndex keyspace identityDevicesKey deviceId = some next ∧
      next.set? identityDevicesKey = some members' ∧ members' ⊆ members ∧
      ∀ key, key ≠ identityDevicesKey → next.lookup key = keyspace.lookup key := by
  by_cases last : members.card = 1
  · exact ⟨_, ∅, by simp [removeFromIndex, Keyspace.scard, index, last],
      Keyspace.set?_del_self, Finset.empty_subset _,
      fun key different => Keyspace.lookup_del_of_ne different⟩
  · refine ⟨keyspace.store identityDevicesKey (.set (members.erase deviceId)),
      members.erase deviceId, ?_, Keyspace.set?_store_self _, Finset.erase_subset _ _,
      fun key different => Keyspace.lookup_store_of_ne different⟩
    simp [removeFromIndex, Keyspace.scard, Keyspace.srem, index, last]

/-- Unregistering ends the epoch. -/
theorem unregisterScript_stores (separate : Separate deviceKey identityDevicesKey)
    {members : Finset Text} (index : keyspace.set? identityDevicesKey = some members)
    (deviceId : Text) :
    ∃ next, unregisterScript keyspace deviceKey identityDevicesKey
        (oneTimePreKeysKey deviceKey) deviceId = some (0, next) ∧
      Stores next deviceKey none ∧
      (∃ members', next.set? identityDevicesKey = some members' ∧ members' ⊆ members) ∧
      Frames keyspace next deviceKey identityDevicesKey := by
  rcases removeFromIndex_index index deviceId with
    ⟨indexed, members', updates, index', fewer, unchanged⟩
  refine ⟨(indexed.del deviceKey).del (oneTimePreKeysKey deviceKey), ?_, ⟨?_, ?_⟩, ?_, ?_⟩
  · simp [unregisterScript, updates]
  · rw [Keyspace.lookup_del_of_ne separate.keys]
    exact Keyspace.lookup_del_self
  · exact Keyspace.list?_del_self
  · refine ⟨members', ?_, fewer⟩
    rw [Keyspace.set?_del_of_ne separate.keys_index.symm,
      Keyspace.set?_del_of_ne separate.record_index.symm]
    exact index'
  · intro key notRecord notKeys notIndex
    rw [Keyspace.lookup_del_of_ne notKeys, Keyspace.lookup_del_of_ne notRecord]
    exact unchanged key notIndex

/-- A request answers with the signed pre-key and the top of the stack. -/
theorem getPreKeyScript_stores (different : deviceKey ≠ oneTimePreKeysKey deviceKey)
    (stores : Stores keyspace deviceKey epoch) :
    ∃ next, getPreKeyScript keyspace deviceKey (oneTimePreKeysKey deviceKey) =
        some ((epoch.map Epoch.signedPreKey, epoch.bind fun epoch => epoch.pop.1), next) ∧
      Stores next deviceKey (epoch.map fun epoch => epoch.pop.2) ∧
      ∀ key, key ≠ oneTimePreKeysKey deviceKey → next.lookup key = keyspace.lookup key := by
  rcases stores.hash? with ⟨fields, isHash, signed⟩
  refine ⟨keyspace.store (oneTimePreKeysKey deviceKey)
    (.list ((epoch.map Epoch.keys).getD []).tail), ?_, ⟨?_, ?_⟩, ?_⟩
  · cases epoch with
    | none => simp [getPreKeyScript, Keyspace.hget, Keyspace.lpop, isHash, signed, stores.keys]
    | some epoch =>
        simp [getPreKeyScript, Keyspace.hget, Keyspace.lpop, isHash, signed, stores.keys,
          Epoch.pop_fst]
  · rw [Keyspace.lookup_store_of_ne different]
    cases epoch with
    | none => exact stores.record
    | some epoch => simpa using stores.record
  · cases epoch with
    | none => simp
    | some epoch => simp [Epoch.keys_pop]
  · intro key notKeys
    exact Keyspace.lookup_store_of_ne notKeys

/-! ## What the calls do to all devices -/

theorem separate_keys (identityKey : IdentityKey) (deviceId : DeviceID) :
    Separate (Redisdb.deviceKey encoding identityKey deviceId)
      (Redisdb.identityDevicesKey encoding identityKey) where
  keys := deviceKeyFromString_ne_oneTimePreKeysKey _ _ _
  record_index := deviceKeyFromString_ne_identityDevicesKey _ _ _
  keys_index := oneTimePreKeysKey_ne_identityDevicesKey _ _

theorem deviceKey_injective {address address' : IdentityKey × DeviceID}
    (equal : Redisdb.deviceKey encoding address.1 address.2 =
      Redisdb.deviceKey encoding address'.1 address'.2) : address = address' := by
  have parts := deviceKeyFromString_inj equal
  have sameDevice : some address.2 = some address'.2 := by
    rw [← encoding.decode_deviceString, parts.2, encoding.decode_deviceString]
  exact Prod.ext parts.1 (Option.some.inj sameDevice)

/-- A call leaves the other devices alone. -/
theorem Stores.of_frames {address address' : IdentityKey × DeviceID}
    (stores : Stores keyspace (Redisdb.deviceKey encoding address'.1 address'.2) epoch)
    (frames : Frames keyspace next (Redisdb.deviceKey encoding address.1 address.2)
      (Redisdb.identityDevicesKey encoding address.1))
    (different : address' ≠ address) :
    Stores next (Redisdb.deviceKey encoding address'.1 address'.2) epoch := by
  have otherKey : Redisdb.deviceKey encoding address'.1 address'.2 ≠
      Redisdb.deviceKey encoding address.1 address.2 :=
    fun equal => different (deviceKey_injective equal)
  apply stores.of_lookup_eq
  · exact frames _ otherKey (deviceKeyFromString_ne_oneTimePreKeysKey _ _ _)
      (deviceKeyFromString_ne_identityDevicesKey _ _ _)
  · exact frames _ (deviceKeyFromString_ne_oneTimePreKeysKey _ _ _).symm
      (oneTimePreKeysKey_injective.ne otherKey) (oneTimePreKeysKey_ne_identityDevicesKey _ _)

/-- The index of every identity lists devices. -/
def Indexed (encoding : KeyEncoding IdentityKey DeviceID) (keyspace : Keyspace) : Prop :=
  ∀ identityKey, ∃ members,
    keyspace.set? (Redisdb.identityDevicesKey encoding identityKey) = some members ∧
    ∀ deviceId, deviceId ∈ members → ∃ device, deviceId = encoding.deviceString device

theorem Indexed.of_frames {address : IdentityKey × DeviceID}
    (indexed : Indexed encoding keyspace)
    (frames : Frames keyspace next (Redisdb.deviceKey encoding address.1 address.2)
      (Redisdb.identityDevicesKey encoding address.1))
    (atIdentity : ∃ members,
      next.set? (Redisdb.identityDevicesKey encoding address.1) = some members ∧
      ∀ deviceId, deviceId ∈ members → ∃ device, deviceId = encoding.deviceString device) :
    Indexed encoding next := by
  intro identityKey
  by_cases same : identityKey = address.1
  · rw [same]
    exact atIdentity
  · rcases indexed identityKey with ⟨members, index, listed⟩
    refine ⟨members, ?_, listed⟩
    rw [← index, Keyspace.set?, Keyspace.set?,
      frames _ (deviceKeyFromString_ne_identityDevicesKey _ _ _).symm
        (oneTimePreKeysKey_ne_identityDevicesKey _ _).symm
        (identityDevicesKey_injective.ne same)]

/-- The record and the keys of each device, as stored in Redis. -/
def StoresAt (encoding : KeyEncoding IdentityKey DeviceID) (keyspace : Keyspace)
    (address : IdentityKey × DeviceID) (epoch : Option Epoch) : Prop :=
  Stores keyspace (Redisdb.deviceKey encoding address.1 address.2) epoch

theorem register_storesAt {address : IdentityKey × DeviceID}
    (indexed : Indexed encoding keyspace) (stores : StoresAt encoding keyspace address epoch)
    (signedPreKey : Text) (oneTimePreKeys : List Text) :
    ∃ next, register encoding keyspace address.1 address.2 signedPreKey oneTimePreKeys =
        some next ∧
      StoresAt encoding next address
        (some ((Epoch.continuing epoch signedPreKey).upload oneTimePreKeys)) ∧
      Indexed encoding next ∧
      ∀ address' epoch', address' ≠ address → StoresAt encoding keyspace address' epoch' →
        StoresAt encoding next address' epoch' := by
  rcases indexed address.1 with ⟨members, index, listed⟩
  rcases registerScript_stores (separate_keys address.1 address.2) stores index signedPreKey
    (encoding.deviceString address.2) with ⟨reply, registered, executes, stores', index', frames⟩
  have listed' : ∀ deviceId, deviceId ∈ insert (encoding.deviceString address.2) members →
      ∃ device, deviceId = encoding.deviceString device := by
    intro deviceId member
    rcases Finset.mem_insert.mp member with equal | earlier
    · exact ⟨address.2, equal⟩
    · exact listed deviceId earlier
  have indexed' : Indexed encoding registered :=
    indexed.of_frames frames ⟨_, index', listed'⟩
  have elsewhere : ∀ address' epoch', address' ≠ address →
      StoresAt encoding keyspace address' epoch' →
      StoresAt encoding registered address' epoch' :=
    fun address' epoch' different stores => Stores.of_frames stores frames different
  by_cases none : oneTimePreKeys = []
  · refine ⟨registered, ?_, ?_, indexed', elsewhere⟩
    · simp [register, executes, none]
    · rw [none, Epoch.upload_nil]
      exact stores'
  · rcases Stores.lpush (separate_keys address.1 address.2) stores' oneTimePreKeys with
      ⟨next, pushes, stores'', unchanged⟩
    have frames' : Frames registered next (Redisdb.deviceKey encoding address.1 address.2)
        (Redisdb.identityDevicesKey encoding address.1) :=
      fun key _ notKeys _ => unchanged key notKeys
    refine ⟨next, ?_, stores'', ?_, ?_⟩
    · simp [register, executes, none, pushes]
    · refine indexed'.of_frames frames' ⟨_, ?_, listed'⟩
      rw [Keyspace.set?, unchanged _ (separate_keys address.1 address.2).keys_index.symm]
      exact index'
    · intro address' epoch' different stores
      exact Stores.of_frames (elsewhere address' epoch' different stores) frames' different

theorem unregister_storesAt (address : IdentityKey × DeviceID)
    (indexed : Indexed encoding keyspace) :
    ∃ next, unregister encoding keyspace address.1 address.2 = some next ∧
      StoresAt encoding next address none ∧ Indexed encoding next ∧
      ∀ address' epoch', address' ≠ address → StoresAt encoding keyspace address' epoch' →
        StoresAt encoding next address' epoch' := by
  rcases indexed address.1 with ⟨members, index, listed⟩
  rcases unregisterScript_stores (separate_keys address.1 address.2) index
    (encoding.deviceString address.2) with
    ⟨next, executes, stores, ⟨members', index', fewer⟩, frames⟩
  refine ⟨next, by simp [unregister, executes], stores, ?_, ?_⟩
  · exact indexed.of_frames frames
      ⟨members', index', fun deviceId member => listed deviceId (fewer member)⟩
  · intro address' epoch' different stores
    exact Stores.of_frames stores frames different

theorem getPreKey_storesAt {address : IdentityKey × DeviceID}
    (indexed : Indexed encoding keyspace) (stores : StoresAt encoding keyspace address epoch) :
    ∃ next, getPreKeyScript keyspace (Redisdb.deviceKey encoding address.1 address.2)
          (oneTimePreKeysKey (Redisdb.deviceKey encoding address.1 address.2)) =
        some ((epoch.map Epoch.signedPreKey, epoch.bind fun epoch => epoch.pop.1), next) ∧
      StoresAt encoding next address (epoch.map fun epoch => epoch.pop.2) ∧
      Indexed encoding next ∧
      ∀ address' epoch', address' ≠ address → StoresAt encoding keyspace address' epoch' →
        StoresAt encoding next address' epoch' := by
  rcases getPreKeyScript_stores (separate_keys address.1 address.2).keys stores with
    ⟨next, executes, stores', unchanged⟩
  have frames : Frames keyspace next (Redisdb.deviceKey encoding address.1 address.2)
      (Redisdb.identityDevicesKey encoding address.1) :=
    fun key _ notKeys _ => unchanged key notKeys
  refine ⟨next, executes, stores', ?_, ?_⟩
  · rcases indexed address.1 with ⟨members, index, listed⟩
    refine indexed.of_frames frames ⟨members, ?_, listed⟩
    rw [Keyspace.set?, unchanged _ (separate_keys address.1 address.2).keys_index.symm]
    exact index
  · intro address' epoch' different stores
    exact Stores.of_frames stores frames different

/-- The number of keys remaining is the size of the stack. -/
theorem preKeysRemaining_of_storesAt {address : IdentityKey × DeviceID}
    (stores : StoresAt encoding keyspace address epoch) :
    preKeysRemaining encoding keyspace address.1 address.2 = match epoch with
      | none => some (.error .unknownDevice)
      | some epoch => some (.ok epoch.keys.length) := by
  have keys := stores.keys
  have record := stores.record
  cases epoch with
  | none => simp [preKeysRemaining, Keyspace.llen, Keyspace.exists?, keys, record]
  | some epoch =>
      rcases record with ⟨fields, present, _⟩
      simp [preKeysRemaining, Keyspace.llen, Keyspace.exists?, keys, present]

end Redisdb

end Tassis.Database
