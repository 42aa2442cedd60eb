import Tassis.Database.MemDevices

/-! # The index of devices in Redis

The index of an identity against the records of its devices, and requests for
pre-keys against devices that are removed while the request is under way.
-/

namespace Tassis.Database

open Model (PreKey)

variable {IdentityKey DeviceID : Type}

namespace Redisdb

variable {encoding : KeyEncoding IdentityKey DeviceID} {keyspace next : Keyspace}
  {address : IdentityKey × DeviceID}

/-! ## Indexes -/

/-- The device is a member of the index of its identity. -/
def Lists (encoding : KeyEncoding IdentityKey DeviceID) (keyspace : Keyspace)
    (address : IdentityKey × DeviceID) : Prop :=
  ∃ members, keyspace.set? (identityDevicesKey encoding address.1) = some members ∧
    encoding.deviceString address.2 ∈ members

instance (encoding : KeyEncoding IdentityKey DeviceID) (keyspace : Keyspace)
    (address : IdentityKey × DeviceID) : Decidable (Lists encoding keyspace address) :=
  match listing : keyspace.set? (identityDevicesKey encoding address.1) with
  | none => .isFalse (by simp [Lists, listing])
  | some members =>
      decidable_of_iff (encoding.deviceString address.2 ∈ members) (by simp [Lists, listing])

theorem lists_iff {members : Finset Text}
    (index : keyspace.set? (identityDevicesKey encoding address.1) = some members) :
    Lists encoding keyspace address ↔ encoding.deviceString address.2 ∈ members := by
  simp [Lists, index]

theorem lists_of_lookup_eq
    (same : next.lookup (identityDevicesKey encoding address.1) =
      keyspace.lookup (identityDevicesKey encoding address.1)) :
    Lists encoding next address ↔ Lists encoding keyspace address := by
  rw [Lists, Lists, Keyspace.set?, Keyspace.set?, same]

theorem deviceString_injective (encoding : KeyEncoding IdentityKey DeviceID) :
    Function.Injective encoding.deviceString := by
  intro deviceId deviceId' equal
  have decoded := encoding.decode_deviceString deviceId
  rw [equal, encoding.decode_deviceString] at decoded
  exact (Option.some.inj decoded).symm

theorem StoresAt.hasRecord_iff {epoch : Option Epoch}
    (stores : StoresAt encoding keyspace address epoch) :
    HasRecord encoding keyspace address ↔ epoch.isSome = true := by
  have record := stores.record
  cases epoch with
  | none => simp [HasRecord, Keyspace.exists?, record]
  | some epoch =>
      rcases record with ⟨fields, present, _⟩
      simp [HasRecord, Keyspace.exists?, present]

/-- A call for another identity leaves the index alone. -/
theorem Frames.lists_iff {owner : IdentityKey × DeviceID}
    (frames : Frames keyspace next (deviceKey encoding owner.1 owner.2)
      (identityDevicesKey encoding owner.1)) (different : address.1 ≠ owner.1) :
    Lists encoding next address ↔ Lists encoding keyspace address := by
  apply lists_of_lookup_eq
  exact frames _ (deviceKeyFromString_ne_identityDevicesKey _ _ _).symm
    (oneTimePreKeysKey_ne_identityDevicesKey _ _).symm
    (identityDevicesKey_injective.ne different)

/-- Registering adds the device to the index. -/
theorem register_lists {owner : IdentityKey × DeviceID} {epoch : Option Epoch}
    (indexed : Indexed encoding keyspace) (stores : StoresAt encoding keyspace owner epoch)
    {signedPreKey : Text} {oneTimePreKeys : List Text}
    (executes : register encoding keyspace owner.1 owner.2 signedPreKey oneTimePreKeys =
      some next) (address : IdentityKey × DeviceID) :
    Lists encoding next address ↔ address = owner ∨ Lists encoding keyspace address := by
  rcases indexed owner.1 with ⟨members, index, _⟩
  rcases registerScript_stores (separate_keys owner.1 owner.2) stores index signedPreKey
    (encoding.deviceString owner.2) with
    ⟨reply, registered, runs, stores', index', frames⟩
  have pushed : ∀ key, key ≠ oneTimePreKeysKey (deviceKey encoding owner.1 owner.2) →
      next.lookup key = registered.lookup key := by
    intro key notKeys
    by_cases none : oneTimePreKeys = []
    · simp only [register, runs, none, if_true, Option.bind_eq_bind, Option.bind_some,
        Option.pure_def, Option.some.injEq] at executes
      rw [executes]
    · rcases stores'.lpush (separate_keys owner.1 owner.2) oneTimePreKeys with
        ⟨after, pushes, _, unchanged⟩
      simp only [register, runs, none, if_false, Option.bind_eq_bind, Option.bind_some,
        pushes, Option.some.injEq] at executes
      rw [← executes]
      exact unchanged key notKeys
  rw [lists_of_lookup_eq (pushed _ (oneTimePreKeysKey_ne_identityDevicesKey _ _).symm)]
  by_cases same : address.1 = owner.1
  · rw [← same] at index index'
    rw [Redisdb.lists_iff index', Redisdb.lists_iff index, Finset.mem_insert,
      (deviceString_injective encoding).eq_iff, Prod.ext_iff]
    simp [same]
  · rw [frames.lists_iff same]
    have different : address ≠ owner := fun equal => same (congrArg Prod.fst equal)
    simp [different]

/-- The index is not left with the device of another call as its last member. -/
def SparesOthers (encoding : KeyEncoding IdentityKey DeviceID) (keyspace : Keyspace)
    (address : IdentityKey × DeviceID) : Prop :=
  ∀ members, members ∈ keyspace.set? (identityDevicesKey encoding address.1) →
    members.card = 1 → encoding.deviceString address.2 ∈ members

instance (encoding : KeyEncoding IdentityKey DeviceID) (keyspace : Keyspace)
    (address : IdentityKey × DeviceID) : Decidable (SparesOthers encoding keyspace address) :=
  inferInstanceAs (Decidable (∀ members : Finset Text, members ∈ _ → members.card = 1 → _))

theorem removeFromIndex_of_spares {identityDevicesKey deviceId : Text}
    {members : Finset Text} (index : keyspace.set? identityDevicesKey = some members)
    (spares : members.card = 1 → deviceId ∈ members) :
    ∃ next, removeFromIndex keyspace identityDevicesKey deviceId = some next ∧
      next.set? identityDevicesKey = some (members.erase deviceId) := by
  by_cases last : members.card = 1
  · have emptied : members.erase deviceId = ∅ := by
      rw [← Finset.card_eq_zero, Finset.card_erase_of_mem (spares last), last]
    refine ⟨keyspace.del identityDevicesKey, ?_, ?_⟩
    · simp [removeFromIndex, Keyspace.scard, index, last]
    · rw [Keyspace.set?_del_self, emptied]
  · refine ⟨keyspace.store identityDevicesKey (.set (members.erase deviceId)), ?_,
      Keyspace.set?_store_self _⟩
    simp [removeFromIndex, Keyspace.scard, Keyspace.srem, index, last]

theorem unregister_frames {owner : IdentityKey × DeviceID}
    (indexed : Indexed encoding keyspace)
    (executes : unregister encoding keyspace owner.1 owner.2 = some next) :
    Frames keyspace next (deviceKey encoding owner.1 owner.2)
      (identityDevicesKey encoding owner.1) := by
  rcases indexed owner.1 with ⟨members, index, _⟩
  rcases unregisterScript_stores (separate_keys owner.1 owner.2) index
    (encoding.deviceString owner.2) with ⟨after, runs, _, _, frames⟩
  simp only [unregister, runs, Option.bind_eq_bind, Option.bind_some, Option.pure_def,
    Option.some.injEq] at executes
  rw [← executes]
  exact frames

/-- Unregistering removes the device from the index, and no other one if the
index is not deleted for another device. -/
theorem unregister_lists {owner : IdentityKey × DeviceID}
    (indexed : Indexed encoding keyspace) (spares : SparesOthers encoding keyspace owner)
    (executes : unregister encoding keyspace owner.1 owner.2 = some next)
    (address : IdentityKey × DeviceID) :
    Lists encoding next address ↔ address ≠ owner ∧ Lists encoding keyspace address := by
  have separate : Separate (deviceKey encoding owner.1 owner.2)
      (identityDevicesKey encoding owner.1) := separate_keys owner.1 owner.2
  by_cases same : address.1 = owner.1
  · rcases indexed owner.1 with ⟨members, index, _⟩
    rcases removeFromIndex_of_spares index (spares members index) with
      ⟨removed, removes, index'⟩
    simp only [unregister, unregisterScript, removes, Option.bind_eq_bind, Option.bind_some,
      Option.pure_def, Option.some.injEq] at executes
    have index'' : next.set? (identityDevicesKey encoding owner.1) =
        some (members.erase (encoding.deviceString owner.2)) := by
      rw [← executes, Keyspace.set?_del_of_ne separate.keys_index.symm,
        Keyspace.set?_del_of_ne separate.record_index.symm]
      exact index'
    rw [← same] at index index''
    rw [Redisdb.lists_iff index'', Redisdb.lists_iff index, Finset.mem_erase,
      (deviceString_injective encoding).ne_iff, ne_eq, ne_eq, Prod.ext_iff]
    simp [same]
  · have different : address ≠ owner := fun equal => same (congrArg Prod.fst equal)
    rw [(unregister_frames indexed executes).lists_iff same]
    simp [different]

end Redisdb

/-! ## Every run keeps the indexes -/

/-- The devices that are registered after an event. -/
theorem Directory.record_isSome {Address : Type} [DecidableEq Address]
    (directory : Directory Address) (event : Event Address) (address : Address) :
    (directory.record event address).isSome = true ↔ match event with
      | .registered owner _ _ => address = owner ∨ (directory address).isSome = true
      | .unregistered owner => address ≠ owner ∧ (directory address).isSome = true
      | .answered _ _ _ _ => (directory address).isSome = true := by
  by_cases same : address = event.address
  · subst same
    cases event <;> simp [record, Event.address]
  · rw [record_of_ne same]
    cases event <;> simp_all [Event.address]

/-- An answer was given at some point of the log. -/
theorem exists_prefix_of_mem_answersTo {Address : Type} {log : List (Event Address)}
    {number : Nat} {address : Address} {signedPreKey oneTimePreKey : Option Text}
    (member : (address, signedPreKey, oneTimePreKey) ∈ answersTo log number) :
    ∃ earlier, earlier ++ [.answered number address signedPreKey oneTimePreKey] <+: log := by
  rcases List.mem_filterMap.mp member with ⟨event, listed, answers⟩
  cases event with
  | registered | unregistered => cases answers
  | answered request owner signed oneTime =>
      rcases List.append_of_mem listed with ⟨earlier, later, rfl⟩
      simp only [Option.ite_none_right_eq_some, Option.some.injEq, Prod.mk.injEq] at answers
      rcases answers with ⟨rfl, rfl, rfl, rfl⟩
      exact ⟨earlier, later, by simp⟩

namespace RedisDevices

open Redisdb

variable {encoding : KeyEncoding IdentityKey DeviceID}
  {db next : RedisDevices IdentityKey DeviceID} [DecidableEq IdentityKey] [DecidableEq DeviceID]

/-- No call of `Unregister` deletes the index of an identity for another device
than its last member. -/
def Spares (encoding : KeyEncoding IdentityKey DeviceID)
    (db : RedisDevices IdentityKey DeviceID) : Action IdentityKey DeviceID → Prop
  | .unregister identityKey deviceId =>
      SparesOthers encoding db.keyspace (identityKey, deviceId)
  | _ => True

instance (encoding : KeyEncoding IdentityKey DeviceID)
    (db : RedisDevices IdentityKey DeviceID) (action : Action IdentityKey DeviceID) :
    Decidable (Spares encoding db action) :=
  match action with
  | .unregister identityKey deviceId =>
      inferInstanceAs (Decidable (SparesOthers encoding db.keyspace (identityKey, deviceId)))
  | .register .. | .list .. | .getPreKey .. | .finish .. => inferInstanceAs (Decidable True)

/-- What the next script of a request does. -/
theorem Sound.getPreKey_taken (sound : Sound encoding db) {number : Nat}
    {identityKey : IdentityKey} {device : DeviceID} {remaining : List Text}
    {replies : List PreKeyReply}
    (asked : db.requests number =
      some ⟨identityKey, encoding.deviceString device :: remaining, replies, none⟩) :
    ∃ keyspace, db.step encoding (.getPreKey number) = some
        { keyspace := keyspace
          requests := Function.update db.requests number (some ⟨identityKey, remaining,
            replies ++ [replyFor encoding (device,
              (Directory.history db.log (identityKey, device)).map Epoch.signedPreKey,
              (Directory.history db.log (identityKey, device)).bind fun epoch =>
                epoch.pop.1)], none⟩)
          log := db.log ++ [.answered number (identityKey, device)
            ((Directory.history db.log (identityKey, device)).map Epoch.signedPreKey)
            ((Directory.history db.log (identityKey, device)).bind fun epoch =>
              epoch.pop.1)] } ∧
      ∀ address, Lists encoding keyspace address ↔ Lists encoding db.keyspace address := by
  have stored := sound.represents.stored (identityKey, device)
  rcases getPreKeyScript_stores (separate_keys identityKey device).keys stored with
    ⟨keyspace, executes, _, unchanged⟩
  simp only [Redisdb.deviceKey] at executes
  refine ⟨keyspace, ?_, ?_⟩
  · simp only [RedisDevices.step, RedisDevices.getPreKey, asked, executes,
      encoding.decode_deviceString, Option.bind_eq_bind, Option.bind_some, Option.pure_def,
      Option.toList_some, List.map_cons, List.map_nil, replyFor]
  · intro address
    exact lists_of_lookup_eq (unchanged _ (oneTimePreKeysKey_ne_identityDevicesKey _ _).symm)

theorem Sound.asked_of_getPreKey (sound : Sound encoding db) {number : Nat}
    (taken : db.getPreKey encoding number = some next) :
    ∃ identityKey device remaining replies, db.requests number =
      some ⟨identityKey, encoding.deviceString device :: remaining, replies, none⟩ := by
  unfold RedisDevices.getPreKey at taken
  split at taken
  · rename_i identityKey deviceId remaining replies asked
    rcases (sound.requests number _ asked).devices deviceId (by simp) with ⟨device, rfl⟩
    exact ⟨identityKey, device, remaining, replies, asked⟩
  · cases taken

omit [DecidableEq IdentityKey] [DecidableEq DeviceID] in
theorem list_taken {number : Nat} {identityKey : IdentityKey}
    {knownDeviceIds : List DeviceID} {identityDevices : List Text}
    (taken : db.list encoding number identityKey knownDeviceIds identityDevices = some next) :
    db.requests number = none ∧
      db.keyspace.set? (identityDevicesKey encoding identityKey) =
        some identityDevices.toFinset ∧
      next = { db with
        requests := Function.update db.requests number (some ⟨identityKey,
          devicesToAsk encoding knownDeviceIds identityDevices, [], none⟩) } := by
  rcases Option.bind_eq_some_iff.mp taken with ⟨members, index, taken⟩
  split at taken
  · rename_i condition
    cases taken
    exact ⟨condition.1, condition.2.2 ▸ index, rfl⟩
  · cases taken

omit [DecidableEq IdentityKey] [DecidableEq DeviceID] in
theorem finish_taken {number : Nat} (taken : db.finish encoding number = some next) :
    ∃ identityKey replies, db.requests number = some ⟨identityKey, [], replies, none⟩ ∧
      next = { db with
        requests := Function.update db.requests number (some ⟨identityKey, [], replies,
          some (collectPreKeys encoding replies [])⟩) } := by
  unfold RedisDevices.finish at taken
  split at taken
  · rename_i identityKey replies asked
    cases taken
    exact ⟨identityKey, replies, asked, rfl⟩
  · cases taken

omit [DecidableEq IdentityKey] [DecidableEq DeviceID] in
theorem finish_of_asked (encoding : KeyEncoding IdentityKey DeviceID) {number : Nat}
    {identityKey : IdentityKey} {replies : List PreKeyReply}
    (asked : db.requests number = some ⟨identityKey, [], replies, none⟩) :
    ∃ final, db.step encoding (.finish number) = some final ∧
      final.requests number = some ⟨identityKey, [], replies,
        some (collectPreKeys encoding replies [])⟩ := by
  simp [RedisDevices.step, RedisDevices.finish, asked]

/-- The index of each identity lists the devices that are registered. -/
def Agrees (encoding : KeyEncoding IdentityKey DeviceID)
    (db : RedisDevices IdentityKey DeviceID) : Prop :=
  ∀ address, Lists encoding db.keyspace address ↔
    (Directory.history db.log address).isSome = true

theorem Agrees.step (agrees : Agrees encoding db) (sound : Sound encoding db)
    {action : Action IdentityKey DeviceID} (spares : Spares encoding db action)
    (taken : db.step encoding action = some next) : Agrees encoding next := by
  intro address
  cases action with
  | register identityKey deviceId signedPreKey oneTimePreKeys =>
      rcases Option.bind_eq_some_iff.mp taken with ⟨keyspace, executes, equal⟩
      cases equal
      have stored := sound.represents.stored (identityKey, deviceId)
      rw [register_lists sound.indexed stored executes address, Directory.history_append,
        Directory.record_isSome, agrees address]
  | unregister identityKey deviceId =>
      rcases Option.bind_eq_some_iff.mp taken with ⟨keyspace, executes, equal⟩
      cases equal
      have owned : SparesOthers encoding db.keyspace (identityKey, deviceId) := spares
      rw [unregister_lists sound.indexed owned executes address, Directory.history_append,
        Directory.record_isSome, agrees address]
  | list number identityKey knownDeviceIds identityDevices =>
      rcases list_taken taken with ⟨_, _, rfl⟩
      exact agrees address
  | getPreKey number =>
      rcases sound.asked_of_getPreKey taken with ⟨identityKey, device, remaining, replies, asked⟩
      rcases sound.getPreKey_taken asked with ⟨keyspace, executes, sameLists⟩
      cases taken.symm.trans executes
      rw [sameLists address, Directory.history_append, Directory.record_isSome,
        agrees address]
  | finish number =>
      rcases finish_taken taken with ⟨identityKey, replies, _, rfl⟩
      exact agrees address

theorem Sound.of_run {permitted : RedisDevices IdentityKey DeviceID →
      Action IdentityKey DeviceID → Prop}
    (run : Transition.Run (RedisDevices.step encoding) permitted RedisDevices.initial db) :
    Sound encoding db :=
  .of_reaches (run.weaken fun _ _ _ => trivial)

theorem Agrees.of_run
    (run : Transition.Run (RedisDevices.step encoding) (Spares encoding) initial db) :
    Agrees encoding db := by
  have starts : Agrees encoding initial := by
    intro address
    simp [initial, Redisdb.Lists, Keyspace.set?, Keyspace.lookup, Keyspace.empty,
      Directory.history, Directory.empty]
  apply Transition.Run.preserves run starts
  intro current action next reached agrees spares taken
  exact agrees.step (Sound.of_run reached) spares taken

/-! ## Requests -/

/-- What a step does to a request. -/
inductive RequestStep (encoding : KeyEncoding IdentityKey DeviceID)
    (directory : Directory (IdentityKey × DeviceID)) (number : Nat) :
    Action IdentityKey DeviceID → Option (Request IdentityKey DeviceID) →
      Option (Request IdentityKey DeviceID) → Prop where
  | unchanged {action request} : RequestStep encoding directory number action request request
  | listed {identityKey knownDeviceIds identityDevices} :
      RequestStep encoding directory number
        (.list number identityKey knownDeviceIds identityDevices) none
        (some ⟨identityKey, devicesToAsk encoding knownDeviceIds identityDevices, [], none⟩)
  | answered {identityKey device remaining replies} :
      RequestStep encoding directory number (.getPreKey number)
        (some ⟨identityKey, encoding.deviceString device :: remaining, replies, none⟩)
        (some ⟨identityKey, remaining, replies ++ [replyFor encoding (device,
          (directory (identityKey, device)).map Epoch.signedPreKey,
          (directory (identityKey, device)).bind fun epoch => epoch.pop.1)], none⟩)
  | finished {identityKey replies} :
      RequestStep encoding directory number (.finish number)
        (some ⟨identityKey, [], replies, none⟩)
        (some ⟨identityKey, [], replies, some (collectPreKeys encoding replies [])⟩)

omit [DecidableEq IdentityKey] [DecidableEq DeviceID] in
/-- A step that replaces one request leaves the others alone. -/
theorem RequestStep.update {directory : Directory (IdentityKey × DeviceID)} {changed : Nat}
    {action : Action IdentityKey DeviceID}
    {requests : Nat → Option (Request IdentityKey DeviceID)}
    {before after : Option (Request IdentityKey DeviceID)}
    (taken : RequestStep encoding directory changed action before after)
    (current : requests changed = before) (number : Nat) :
    RequestStep encoding directory number action (requests number)
      (Function.update requests changed after number) := by
  by_cases same : number = changed
  · subst number
    rw [current, Function.update_self]
    exact taken
  · rw [Function.update_of_ne same]
    exact .unchanged

theorem Sound.requestStep (sound : Sound encoding db) {action : Action IdentityKey DeviceID}
    (taken : db.step encoding action = some next) (number : Nat) :
    RequestStep encoding (Directory.history db.log) number action (db.requests number)
      (next.requests number) := by
  cases action with
  | register identityKey deviceId signedPreKey oneTimePreKeys =>
      rcases Option.bind_eq_some_iff.mp taken with ⟨keyspace, _, equal⟩
      cases equal
      exact .unchanged
  | unregister identityKey deviceId =>
      rcases Option.bind_eq_some_iff.mp taken with ⟨keyspace, _, equal⟩
      cases equal
      exact .unchanged
  | list listed identityKey knownDeviceIds identityDevices =>
      rcases list_taken taken with ⟨unused, _, rfl⟩
      exact RequestStep.listed.update unused number
  | getPreKey asking =>
      rcases sound.asked_of_getPreKey taken with ⟨identityKey, device, remaining, replies, asked⟩
      rcases sound.getPreKey_taken asked with ⟨keyspace, executes, _⟩
      cases taken.symm.trans executes
      exact RequestStep.answered.update asked number
  | finish finished =>
      rcases finish_taken taken with ⟨identityKey, replies, asked, rfl⟩
      exact RequestStep.finished.update asked number

/-- The next script of every request finds the record of its device. -/
def FindsRecord (encoding : KeyEncoding IdentityKey DeviceID)
    (db : RedisDevices IdentityKey DeviceID) : Action IdentityKey DeviceID → Prop
  | .getPreKey number => ∀ request, request ∈ db.requests number →
      ∀ deviceId, deviceId ∈ request.remaining.head? →
        db.keyspace.exists? (deviceKeyFromString encoding request.identityKey deviceId) = true
  | _ => True

instance (encoding : KeyEncoding IdentityKey DeviceID)
    (db : RedisDevices IdentityKey DeviceID) (action : Action IdentityKey DeviceID) :
    Decidable (FindsRecord encoding db action) :=
  match action with
  | .getPreKey _ => inferInstanceAs (Decidable (∀ request : Request IdentityKey DeviceID,
      request ∈ _ → ∀ deviceId, deviceId ∈ request.remaining.head? → _ = true))
  | .register .. | .unregister .. | .list .. | .finish .. => inferInstanceAs (Decidable True)

/-- A request for these devices is under way or has ended, and every reply that
it got so far has a signed pre-key. -/
structure Progress (asked : List Text) (identityKey : IdentityKey)
    (request : Request IdentityKey DeviceID) : Prop where
  identityKey : request.identityKey = identityKey
  asked : request.replies.map PreKeyReply.deviceId ++ request.remaining = asked
  signed : ∀ reply, reply ∈ request.replies → reply.signedPreKey ≠ none
  ended : request.outcome ≠ none → request.remaining = []

theorem Progress.step (sound : Sound encoding db) {number : Nat} {asked : List Text}
    {identityKey : IdentityKey} {request : Request IdentityKey DeviceID}
    (present : db.requests number = some request)
    (progress : Progress asked identityKey request)
    {action : Action IdentityKey DeviceID} (finds : FindsRecord encoding db action)
    (taken : db.step encoding action = some next) :
    ∃ request', next.requests number = some request' ∧
      Progress asked identityKey request' := by
  have changes := sound.requestStep taken number
  rw [present] at changes
  generalize next.requests number = after at changes
  cases changes with
  | unchanged => exact ⟨request, rfl, progress⟩
  | @answered identityKey' device remaining replies =>
      refine ⟨_, rfl, progress.identityKey, ?_, ?_, by simp⟩
      · rw [← progress.asked]
        simp [replyFor]
      · intro reply member
        rcases List.mem_append.mp member with earlier | new
        · exact progress.signed reply earlier
        · have record := finds _ present (encoding.deviceString device) rfl
          have stored := sound.represents.stored (identityKey', device)
          rw [List.mem_singleton.mp new]
          simpa [replyFor, Option.isSome_iff_ne_none] using stored.hasRecord_iff.mp record
  | finished => exact ⟨_, rfl, progress.identityKey, progress.asked, progress.signed, by simp⟩

/-- What has been asked for stays the same until the end of a run. -/
theorem Progress.of_run (sound : Sound encoding db) {number : Nat} {asked : List Text}
    {identityKey : IdentityKey} {request : Request IdentityKey DeviceID}
    (present : db.requests number = some request)
    (progress : Progress asked identityKey request)
    (run : Transition.Run (RedisDevices.step encoding) (FindsRecord encoding) db next) :
    Sound encoding next ∧ ∃ request', next.requests number = some request' ∧
      Progress asked identityKey request' := by
  have begins : Sound encoding db ∧ ∃ request', db.requests number = some request' ∧
      Progress asked identityKey request' := ⟨sound, request, present, progress⟩
  apply Transition.Run.preserves run begins
  intro current action after _ holds finds taken
  rcases holds with ⟨sound, request, present, progress⟩
  exact ⟨sound.step taken, progress.step sound present finds taken⟩

/-- A request that has not ended can take its next step. -/
theorem Sound.request_continues (sound : Sound encoding db) {number : Nat}
    {request : Request IdentityKey DeviceID} (present : db.requests number = some request)
    (pending : request.outcome = none) :
    (request.remaining ≠ [] → ∃ next, db.step encoding (.getPreKey number) = some next) ∧
    (request.remaining = [] → ∃ next, db.step encoding (.finish number) = some next) := by
  rcases request with ⟨owner, remaining, replies, outcome⟩
  cases pending
  constructor
  · intro more
    rcases List.exists_cons_of_ne_nil more with ⟨deviceId, rest, rfl⟩
    rcases (sound.requests number _ present).devices deviceId (by simp) with ⟨device, rfl⟩
    rcases sound.getPreKey_taken present with ⟨keyspace, executes, _⟩
    exact ⟨_, executes⟩
  · intro last
    cases last
    rcases finish_of_asked encoding present with ⟨final, finishes, _⟩
    exact ⟨final, finishes⟩

omit [DecidableEq IdentityKey] [DecidableEq DeviceID] in
/-- Replies with signed pre-keys are collected without a failed assertion. -/
theorem collectPreKeys_of_signed {answers : List (DeviceID × Option Text × Option Text)}
    {collected : List (PreKey DeviceID)}
    (signed : ∀ reply, reply ∈ answers.map (replyFor encoding) → reply.signedPreKey ≠ none)
    (nonempty : answers = [] → collected ≠ []) :
    ∃ preKeys, collectPreKeys encoding (answers.map (replyFor encoding)) collected =
      .returned preKeys := by
  induction answers generalizing collected with
  | nil => exact ⟨collected, by simpa [collectPreKeys] using nonempty rfl⟩
  | cons answer answers induction =>
      rcases answer with ⟨deviceId, signedPreKey, oneTimePreKey⟩
      cases signedPreKey with
      | none => exact absurd rfl (signed _ (List.mem_cons_self ..))
      | some signedPreKey =>
          simp only [List.map_cons, collectPreKeys, replyFor, encoding.decode_deviceString]
          exact induction (fun reply member => signed reply (List.mem_cons_of_mem _ member))
            (by simp)

/-- A request that ended returned one pre-key for each device it asked for. -/
theorem Progress.outcome (sound : Sound encoding db) {number : Nat} {asked : List Text}
    {identityKey : IdentityKey} {request : Request IdentityKey DeviceID}
    (present : db.requests number = some request)
    (progress : Progress asked identityKey request) {outcome : Outcome DeviceID}
    (ended : request.outcome = some outcome) :
    (asked = [] ∧ outcome = .failed .unknownIdentity) ∨
      ∃ preKeys, outcome = .returned preKeys ∧
        preKeys.map (fun preKey => encoding.deviceString preKey.deviceId) = asked := by
  have requestSound := sound.requests number request present
  rcases requestSound.replies with ⟨answers, replied, _⟩
  have collects := requestSound.outcome outcome ended
  have devices : answers.map (fun answer => encoding.deviceString answer.1) = asked := by
    have all := progress.asked
    rw [progress.ended (by simp [ended]), List.append_nil, replied, List.map_map] at all
    exact all
  have signed := progress.signed
  rw [replied] at signed collects
  by_cases nothing : answers = []
  · left
    subst nothing
    exact ⟨devices.symm, collects⟩
  · right
    rcases collectPreKeys_of_signed signed (fun equal => absurd equal nothing) with
      ⟨preKeys, returns⟩
    have contents := congrArg (List.map fun answer => encoding.deviceString answer.1)
      (collectPreKeys_returned returns)
    refine ⟨preKeys, collects.trans returns, ?_⟩
    simpa [List.map_map, Function.comp_def, devices] using contents

/-- The pre-key is signed as its device was when the script for it ran. -/
def SignedAtAnswer (log : List (Event (IdentityKey × DeviceID))) (number : Nat)
    (identityKey : IdentityKey) (preKey : PreKey DeviceID) : Prop :=
  ∃ earlier epoch, earlier ++ [.answered number (identityKey, preKey.deviceId)
      (some preKey.signedPreKey) preKey.oneTimePreKey] <+: log ∧
    Directory.history earlier (identityKey, preKey.deviceId) = some epoch ∧
    epoch.signedPreKey = preKey.signedPreKey

theorem Sound.signedAtAnswer (sound : Sound encoding db) {number : Nat}
    {identityKey : IdentityKey} {preKeys : List (PreKey DeviceID)}
    (returned : db.Returned number identityKey preKeys) {preKey : PreKey DeviceID}
    (member : preKey ∈ preKeys) : SignedAtAnswer db.log number identityKey preKey := by
  have answers := sound.stackDiscipline.returned number identityKey preKeys returned
  have answered : ((identityKey, preKey.deviceId), some preKey.signedPreKey,
      preKey.oneTimePreKey) ∈ answersTo db.log number := by
    rw [answers]
    exact List.mem_map_of_mem member
  rcases exists_prefix_of_mem_answersTo answered with ⟨earlier, isPrefix⟩
  have lawful := sound.represents.lawful earlier _ isPrefix
  simp only [Directory.Lawful] at lawful
  split at lawful
  · cases lawful.1
  · rename_i epoch registered
    exact ⟨earlier, epoch, isPrefix, registered, (Option.some.inj lawful.1).symm⟩

/-! ## Requests without interruption -/

/-- The steps of a request of which no other step comes in between. -/
def requestSteps (encoding : KeyEncoding IdentityKey DeviceID) (number : Nat)
    (identityKey : IdentityKey) (knownDeviceIds : List DeviceID) (identityDevices : List Text) :
    List (Action IdentityKey DeviceID) :=
  .list number identityKey knownDeviceIds identityDevices ::
    (List.replicate (devicesToAsk encoding knownDeviceIds identityDevices).length
      (.getPreKey number) ++ [.finish number])

/-- The scripts for registered devices run to the last one. -/
theorem Sound.execute_scripts (sound : Sound encoding db) {number : Nat}
    {identityKey : IdentityKey} {remaining : List Text} {replies : List PreKeyReply}
    (asked : db.requests number = some ⟨identityKey, remaining, replies, none⟩)
    (registered : ∀ device, encoding.deviceString device ∈ remaining →
      (Directory.history db.log (identityKey, device)).isSome = true) :
    ∃ final replies', Transition.execute (RedisDevices.step encoding) Transition.anyStep db
        (List.replicate remaining.length (.getPreKey number)) = some final ∧
      final.requests number = some ⟨identityKey, [], replies ++ replies', none⟩ ∧
      replies'.map PreKeyReply.deviceId = remaining ∧
      (∀ reply, reply ∈ replies' → reply.signedPreKey ≠ none) ∧ Sound encoding final := by
  induction remaining generalizing db replies with
  | nil => exact ⟨db, [], rfl, by simpa using asked, rfl, by simp, sound⟩
  | cons deviceId remaining induction =>
      rcases (sound.requests number _ asked).devices deviceId (by simp) with ⟨device, rfl⟩
      have signed := registered device (by simp)
      rcases sound.getPreKey_taken asked with ⟨keyspace, executes, _⟩
      have sound' := sound.getPreKey executes
      rcases induction sound' (Function.update_self ..) (by
        intro other member
        rw [Directory.history_append, Directory.record_isSome]
        exact registered other (List.mem_cons_of_mem _ member)) with
        ⟨final, replies', runs, ended, devices, allSigned, finalSound⟩
      refine ⟨final, replyFor encoding (device,
        (Directory.history db.log (identityKey, device)).map Epoch.signedPreKey,
        (Directory.history db.log (identityKey, device)).bind fun epoch => epoch.pop.1) ::
          replies', ?_, ?_, ?_, ?_, finalSound⟩
      · rw [List.length_cons, List.replicate_succ, Transition.execute_cons trivial executes]
        exact runs
      · rw [ended, List.append_assoc, List.singleton_append]
      · rw [List.map_cons, devices]
        rfl
      · intro reply member
        rcases List.mem_cons.mp member with equal | later
        · rw [equal]
          simpa [replyFor, Option.isSome_iff_ne_none] using signed
        · exact allSigned reply later

/-- If the index lists registered devices only, a request without interruption
returns a pre-key for each of them that is not known. -/
theorem Sound.request_returns (sound : Sound encoding db) (agrees : Agrees encoding db)
    {number : Nat} (unused : db.requests number = none) {identityKey : IdentityKey}
    {identityDevices : List Text} (once : identityDevices.Nodup)
    (listing : db.keyspace.set? (identityDevicesKey encoding identityKey) =
      some identityDevices.toFinset)
    {knownDeviceIds : List DeviceID} {deviceId : DeviceID} (unknown : deviceId ∉ knownDeviceIds)
    (listed : Lists encoding db.keyspace (identityKey, deviceId)) :
    ∃ final preKeys, Transition.execute (RedisDevices.step encoding) Transition.anyStep db
        (requestSteps encoding number identityKey knownDeviceIds identityDevices) =
          some final ∧
      final.Returned number identityKey preKeys ∧ deviceId ∈ preKeys.map PreKey.deviceId := by
  have starts : db.step encoding (.list number identityKey knownDeviceIds identityDevices) =
      some { db with
        requests := Function.update db.requests number (some ⟨identityKey,
          devicesToAsk encoding knownDeviceIds identityDevices, [], none⟩) } := by
    simp [RedisDevices.step, RedisDevices.list, listing, unused, once]
  have registered : ∀ device, encoding.deviceString device ∈
      devicesToAsk encoding knownDeviceIds identityDevices →
      (Directory.history db.log (identityKey, device)).isSome = true := by
    intro device member
    rw [← agrees (identityKey, device), Redisdb.lists_iff listing, List.mem_toFinset]
    exact List.mem_of_mem_filter member
  have asks : encoding.deviceString deviceId ∈
      devicesToAsk encoding knownDeviceIds identityDevices := by
    rw [Redisdb.lists_iff listing, List.mem_toFinset] at listed
    simp only [devicesToAsk, List.mem_filter, decide_eq_true_eq,
      List.mem_map_of_injective (deviceString_injective encoding)]
    exact ⟨listed, unknown⟩
  rcases (sound.list starts).execute_scripts (Function.update_self ..) registered with
    ⟨scripted, replies, runs, asked, devices, signed, scriptedSound⟩
  rw [List.nil_append] at asked
  rcases finish_of_asked encoding asked with ⟨final, finishes, ended⟩
  have progress : Progress (devicesToAsk encoding knownDeviceIds identityDevices) identityKey
      (⟨identityKey, [], replies, some (collectPreKeys encoding replies [])⟩ :
        Request IdentityKey DeviceID) :=
    ⟨rfl, by simpa using devices, signed, fun _ => rfl⟩
  rcases progress.outcome (scriptedSound.finish finishes) ended rfl with
    nothing | ⟨preKeys, returns, all⟩
  · rw [nothing.1] at asks
    cases asks
  · refine ⟨final, preKeys, ?_, ?_, ?_⟩
    · rw [requestSteps, Transition.execute_cons trivial starts,
        Transition.execute_append runs, Transition.execute_cons trivial finishes]
      rfl
    · simp [Returned, ended, returns]
    · rw [← all] at asks
      rcases List.mem_map.mp asks with ⟨preKey, member, same⟩
      rw [← deviceString_injective encoding same]
      exact List.mem_map_of_mem member

end RedisDevices

open RedisDevices Redisdb in
/-- In every run in which no call of `Unregister` deletes an index for another
device than its last member, the index lists exactly the devices with a record,
and `Unregister` leaves every other device alone, so that requests still return
it. -/
theorem unregister_touches_own_device_only [DecidableEq IdentityKey] [DecidableEq DeviceID]
    {encoding : KeyEncoding IdentityKey DeviceID} {db : RedisDevices IdentityKey DeviceID}
    (run : Transition.Run (RedisDevices.step encoding) (Spares encoding)
      RedisDevices.initial db) :
    (∀ address, Lists encoding db.keyspace address ↔
      HasRecord encoding db.keyspace address) ∧
    ∀ owner next, Spares encoding db (.unregister owner.1 owner.2) →
      db.step encoding (.unregister owner.1 owner.2) = some next →
      ∀ address, address ≠ owner →
        next.keyspace.lookup (deviceKey encoding address.1 address.2) =
          db.keyspace.lookup (deviceKey encoding address.1 address.2) ∧
        next.keyspace.lookup (oneTimePreKeysKey (deviceKey encoding address.1 address.2)) =
          db.keyspace.lookup (oneTimePreKeysKey (deviceKey encoding address.1 address.2)) ∧
        (Lists encoding next.keyspace address ↔ Lists encoding db.keyspace address) ∧
        (HasRecord encoding db.keyspace address →
          ∀ number knownDeviceIds identityDevices, db.requests number = none →
            address.2 ∉ knownDeviceIds → identityDevices.Nodup →
            next.keyspace.set? (identityDevicesKey encoding address.1) =
              some identityDevices.toFinset →
            ∃ final preKeys, Transition.execute (RedisDevices.step encoding)
                Transition.anyStep next (requestSteps encoding number address.1
                  knownDeviceIds identityDevices) = some final ∧
              final.Returned number address.1 preKeys ∧
              address.2 ∈ preKeys.map PreKey.deviceId) := by
  have sound := Sound.of_run run
  have agrees := Agrees.of_run run
  have lists_iff_record : ∀ address, Lists encoding db.keyspace address ↔
      HasRecord encoding db.keyspace address := by
    intro address
    have stored : StoresAt encoding db.keyspace address _ := sound.represents.stored address
    rw [agrees address, stored.hasRecord_iff]
  refine ⟨lists_iff_record, ?_⟩
  intro owner next spares taken address different
  have sound' := sound.step taken
  have agrees' := agrees.step sound spares taken
  rcases Option.bind_eq_some_iff.mp taken with ⟨keyspace, executes, equal⟩
  cases equal
  have frames := unregister_frames sound.indexed executes
  have otherKey : deviceKey encoding address.1 address.2 ≠ deviceKey encoding owner.1 owner.2 :=
    fun equal => different (deviceKey_injective equal)
  have sameLists : Lists encoding keyspace address ↔ Lists encoding db.keyspace address := by
    rw [unregister_lists sound.indexed spares executes address]
    simp [different]
  refine ⟨?_, ?_, sameLists, ?_⟩
  · exact frames _ otherKey (deviceKeyFromString_ne_oneTimePreKeysKey _ _ _)
      (deviceKeyFromString_ne_identityDevicesKey _ _ _)
  · exact frames _ (deviceKeyFromString_ne_oneTimePreKeysKey _ _ _).symm
      (oneTimePreKeysKey_injective.ne otherKey) (oneTimePreKeysKey_ne_identityDevicesKey _ _)
  · intro record number knownDeviceIds identityDevices unused unknown once listing
    have listed := sameLists.mpr ((lists_iff_record address).mpr record)
    exact sound'.request_returns agrees' unused once listing unknown listed

open RedisDevices Redisdb in
/-- Unregistering a device that is not registered removes the only registered
device of the identity from the index, and a request does not find it. -/
theorem unregister_hides_another_device :
    ∃ db, RedisDevices.Reaches letterEncoding db ∧
      db.log = [.registered (false, true) "signed".toList [], .unregistered (false, false)] ∧
      HasRecord letterEncoding db.keyspace (false, true) ∧
      ¬ Lists letterEncoding db.keyspace (false, true) ∧
      ∃ final, Transition.Run (RedisDevices.step letterEncoding) Transition.anyStep db final ∧
        (final.requests 1).bind Request.outcome = some (.failed .unknownIdentity) := by
  have run : ∃ db, RedisDevices.Reaches letterEncoding db ∧
      db.log = [.registered (false, true) "signed".toList [], .unregistered (false, false)] ∧
      HasRecord letterEncoding db.keyspace (false, true) ∧
      ¬ Lists letterEncoding db.keyspace (false, true) ∧
      (Transition.execute (RedisDevices.step letterEncoding) Transition.anyStep db
        (requestSteps letterEncoding 1 false [] [])).any (fun final =>
          (final.requests 1).bind Request.outcome = some (.failed .unknownIdentity)) = true :=
    Transition.Run.exists_of_execute
      [.register false true "signed".toList [], .unregister false false] (by decide +kernel)
  rcases run with ⟨db, reaches, logged, record, hidden, requested⟩
  exact ⟨db, reaches, logged, record, hidden, Transition.Run.exists_of_execute _ requested⟩

open RedisDevices Redisdb in
/-- Of two registered devices, one is unregistered twice. -/
theorem unregistering_twice_keeps_the_other_device :
    ∃ db, Transition.Run (RedisDevices.step letterEncoding) (Spares letterEncoding)
        RedisDevices.initial db ∧
      db.log.length = 4 ∧ Lists letterEncoding db.keyspace (false, true) ∧
      (Lists letterEncoding db.keyspace (false, true) ↔
        HasRecord letterEncoding db.keyspace (false, true)) := by
  have run : ∃ db, Transition.Run (RedisDevices.step letterEncoding) (Spares letterEncoding)
        RedisDevices.initial db ∧
      db.log.length = 4 ∧ Lists letterEncoding db.keyspace (false, true) :=
    Transition.Run.exists_of_execute
      [.unregister false false, .register false false "signed".toList ["one".toList],
        .register false true "other".toList [], .unregister false false] (by decide +kernel)
  rcases run with ⟨db, reaches, logged, listed⟩
  exact ⟨db, reaches, logged, listed, (unregister_touches_own_device_only reaches).1 _⟩

/-! ## Requests and removals -/

open RedisDevices Redisdb in
/-- In every run in which each script of a request finds the record of its
device, a request can take its next step, does not crash, and returns one
pre-key for each listed device that is not known, signed as the device was when
its script ran. -/
theorem request_answers_for_every_listed_device [DecidableEq IdentityKey]
    [DecidableEq DeviceID] {encoding : KeyEncoding IdentityKey DeviceID}
    {start begun db : RedisDevices IdentityKey DeviceID}
    {number : Nat} {identityKey : IdentityKey} {knownDeviceIds : List DeviceID}
    {identityDevices : List Text}
    (reached : Transition.Run (RedisDevices.step encoding) (FindsRecord encoding)
      RedisDevices.initial start)
    (listed : start.step encoding (.list number identityKey knownDeviceIds identityDevices) =
      some begun)
    (run : Transition.Run (RedisDevices.step encoding) (FindsRecord encoding) begun db) :
    ∃ request, db.requests number = some request ∧
      (request.outcome = none →
        (request.remaining ≠ [] → ∃ next, db.step encoding (.getPreKey number) = some next) ∧
        (request.remaining = [] → ∃ next, db.step encoding (.finish number) = some next)) ∧
      request.outcome ≠ some .crashed ∧
      ∀ outcome, request.outcome = some outcome →
        (devicesToAsk encoding knownDeviceIds identityDevices = [] ∧
          outcome = .failed .unknownIdentity) ∨
        ∃ preKeys, outcome = .returned preKeys ∧
          preKeys.map (fun preKey => encoding.deviceString preKey.deviceId) =
            devicesToAsk encoding knownDeviceIds identityDevices ∧
          ∀ preKey, preKey ∈ preKeys → SignedAtAnswer db.log number identityKey preKey := by
  have sound := Sound.of_run reached
  have begins : ∃ request, begun.requests number = some request ∧
      Progress (devicesToAsk encoding knownDeviceIds identityDevices) identityKey request := by
    rcases list_taken listed with ⟨_, _, rfl⟩
    exact ⟨_, Function.update_self .., rfl, rfl, by simp, by simp⟩
  rcases begins with ⟨first, present, progress⟩
  rcases progress.of_run (sound.step listed) present run with
    ⟨sound', request, present, progress⟩
  have outcomes : ∀ outcome, request.outcome = some outcome → _ :=
    fun outcome ended => progress.outcome sound' present ended
  refine ⟨request, present, sound'.request_continues present, ?_, ?_⟩
  · intro crashed
    rcases outcomes .crashed crashed with ⟨_, equal⟩ | ⟨preKeys, equal, _⟩
    · cases equal
    · cases equal
  · intro outcome ended
    rcases outcomes outcome ended with nothing | ⟨preKeys, rfl, all⟩
    · exact Or.inl nothing
    · refine Or.inr ⟨preKeys, rfl, all, ?_⟩
      intro preKey member
      have returned : db.Returned number identityKey preKeys := by
        simp [Returned, present, ended, progress.identityKey]
      exact sound'.signedAtAnswer returned member

open RedisDevices Redisdb in
/-- A request crashes if its device is unregistered before its script runs. -/
theorem request_crashes_on_a_removed_device :
    ∃ db, RedisDevices.Reaches letterEncoding db ∧
      db.log = [.registered (false, true) "signed".toList [], .unregistered (false, true),
        .answered 1 (false, true) none none] ∧
      (db.requests 1).bind Request.outcome = some .crashed :=
  Transition.Run.exists_of_execute
    [.register false true "signed".toList [], .list 1 false [] [['b']],
      .unregister false true, .getPreKey 1, .finish 1] (by decide +kernel)

open RedisDevices Redisdb in
/-- A device that registers again while a request is under way answers with its
new signed pre-key. -/
theorem request_answers_with_the_new_key :
    ∃ start begun db, Transition.Run (RedisDevices.step letterEncoding)
        (FindsRecord letterEncoding) RedisDevices.initial start ∧
      start.step letterEncoding (.list 1 false [false] [['b'], ['a']]) = some begun ∧
      Transition.Run (RedisDevices.step letterEncoding) (FindsRecord letterEncoding) begun db ∧
      db.Returned 1 false [⟨true, "new".toList, none⟩] ∧
      ∃ request, db.requests 1 = some request ∧ request.outcome ≠ some .crashed := by
  have run : ∃ start, Transition.Run (RedisDevices.step letterEncoding)
        (FindsRecord letterEncoding) RedisDevices.initial start ∧
      ((start.step letterEncoding (.list 1 false [false] [['b'], ['a']])).any fun begun =>
        (Transition.execute (RedisDevices.step letterEncoding) (FindsRecord letterEncoding)
          begun [.unregister false true, .register false true "new".toList [],
            .getPreKey 1, .finish 1]).any fun db =>
          db.Returned 1 false [⟨true, "new".toList, none⟩]) = true :=
    Transition.Run.exists_of_execute
      [.register false true "signed".toList ["one".toList],
        .register false false "other".toList []] (by decide +kernel)
  rcases run with ⟨start, reached, requested⟩
  rcases (Option.any_eq_true _ _).mp requested with ⟨begun, listed, requested⟩
  rcases Transition.Run.exists_of_execute _ requested with ⟨db, run, returned⟩
  rcases request_answers_for_every_listed_device reached listed run with
    ⟨request, present, _, survives, _⟩
  exact ⟨start, begun, db, reached, listed, run, returned, request, present, survives⟩

end Tassis.Database
