import Tassis.Database.PreKeys

/-! # Registered devices in memory

The calls on devices of the database in memory, each of which runs under one
lock, and the result on one-time pre-keys for both databases.
-/

namespace Tassis.Database

open Model (PreKey Register)

variable {IdentityKey DeviceID : Type} [DecidableEq DeviceID]

namespace Memdb

/-- The devices of an identity. -/
abbrev Identity (DeviceID : Type) : Type := AList fun _ : DeviceID => Register

abbrev Identities (DeviceID : Type) : Type := AList fun _ : Text => Identity DeviceID

/-! ## Calls -/

/-- The registration to keep for a device that registers again. -/
def addPreKeys (existing : Option Register) (registration : Register) : Register :=
  match existing with
  | none => registration
  | some existing =>
      if existing.signedPreKey = registration.signedPreKey then
        { existing with
          oneTimePreKeys := existing.oneTimePreKeys ++ registration.oneTimePreKeys }
      else registration

def register (identities : Identities DeviceID) (identityKey : Text) (deviceId : DeviceID)
    (registration : Register) : Identities DeviceID :=
  let identity := (identities.lookup identityKey).getD ∅
  identities.insert identityKey
    (identity.insert deviceId (addPreKeys (identity.lookup deviceId) registration))

def unregister (identities : Identities DeviceID) (identityKey : Text)
    (deviceId : DeviceID) : Identities DeviceID :=
  match identities.lookup identityKey with
  | none => identities
  | some identity =>
      let identity := identity.erase deviceId
      if identity.keys = [] then identities.erase identityKey
      else identities.insert identityKey identity

/-- The loop over the devices of an identity. -/
def requestLoop (knownDeviceIds : List DeviceID) : List DeviceID → Identity DeviceID →
    List (PreKey DeviceID) → List (PreKey DeviceID) × Identity DeviceID
  | [], identity, result => (result, identity)
  | deviceId :: rest, identity, result =>
      if deviceId ∈ knownDeviceIds then requestLoop knownDeviceIds rest identity result
      else match identity.lookup deviceId with
        | none => requestLoop knownDeviceIds rest identity result
        | some registration =>
            requestLoop knownDeviceIds rest
              (identity.insert deviceId
                { registration with
                  oneTimePreKeys := registration.oneTimePreKeys.dropLast })
              (result ++ [⟨deviceId, registration.signedPreKey,
                registration.oneTimePreKeys.getLast?⟩])

/-- The loop visits the devices in some order. -/
def requestPreKeys (identities : Identities DeviceID) (identityKey : Text)
    (knownDeviceIds order : List DeviceID) :
    Except DBError (List (PreKey DeviceID)) × Identities DeviceID :=
  match identities.lookup identityKey with
  | none => (.error .unknownIdentity, identities)
  | some identity =>
      let (result, identity) := requestLoop knownDeviceIds order identity []
      (.ok result, identities.insert identityKey identity)

def preKeysRemaining (identities : Identities DeviceID) (identityKey : Text)
    (deviceId : DeviceID) : Except DBError Nat :=
  match identities.lookup identityKey with
  | none => .error .unknownIdentity
  | some identity =>
      match identity.lookup deviceId with
      | none => .error .unknownDevice
      | some device => .ok device.oneTimePreKeys.length

/-! ## What the calls do to a device -/

/-- The registration that stands for an epoch: the keys are stored in the order
of upload and taken from the end. -/
def registrationOf (epoch : Epoch) : Register := ⟨epoch.signedPreKey, epoch.keys.reverse⟩

def device (identities : Identities DeviceID) (identityKey : Text) (deviceId : DeviceID) :
    Option Register :=
  (identities.lookup identityKey).bind fun identity => identity.lookup deviceId

def StoresAt (encoding : KeyEncoding IdentityKey DeviceID) (identities : Identities DeviceID)
    (address : IdentityKey × DeviceID) (epoch : Option Epoch) : Prop :=
  device identities (encoding.keyString address.1) address.2 = epoch.map registrationOf

theorem addPreKeys_registrationOf (epoch : Option Epoch) (signedPreKey : Text)
    (oneTimePreKeys : List Text) :
    addPreKeys (epoch.map registrationOf) ⟨signedPreKey, oneTimePreKeys⟩ =
      registrationOf ((Epoch.continuing epoch signedPreKey).upload oneTimePreKeys) := by
  cases epoch with
  | none => simp [addPreKeys, registrationOf, Epoch.keys_upload, Epoch.continuing]
  | some epoch =>
      by_cases same : epoch.signedPreKey = signedPreKey <;>
        simp [addPreKeys, registrationOf, Epoch.keys_upload, Epoch.continuing, same]

theorem getLast?_registrationOf (epoch : Epoch) :
    (registrationOf epoch).oneTimePreKeys.getLast? = epoch.pop.1 := by
  rw [registrationOf, List.getLast?_reverse, Epoch.pop_fst]

theorem dropLast_registrationOf (epoch : Epoch) :
    { registrationOf epoch with
      oneTimePreKeys := (registrationOf epoch).oneTimePreKeys.dropLast } =
        registrationOf epoch.pop.2 := by
  simp [registrationOf, Epoch.keys_pop, List.dropLast_reverse]

theorem device_insert (identities : Identities DeviceID) (identityKey : Text)
    (identity : Identity DeviceID) (deviceId : DeviceID) :
    device (identities.insert identityKey identity) identityKey deviceId =
      identity.lookup deviceId := by
  simp [device]

theorem device_insert_of_ne (identities : Identities DeviceID)
    {identityKey identityKey' : Text} (different : identityKey' ≠ identityKey)
    (identity : Identity DeviceID) (deviceId : DeviceID) :
    device (identities.insert identityKey identity) identityKey' deviceId =
      device identities identityKey' deviceId := by
  rw [device, AList.lookup_insert_ne different, device]

/-- Replacing one registration leaves the others alone. -/
theorem StoresAt.of_ne {encoding : KeyEncoding IdentityKey DeviceID}
    {identities identities' : Identities DeviceID}
    {address address' : IdentityKey × DeviceID} {epoch : Option Epoch}
    (different : address' ≠ address)
    (sameOthers : ∀ identityKey deviceId, identityKey ≠ encoding.keyString address.1 →
      device identities' identityKey deviceId = device identities identityKey deviceId)
    (sameIdentity : ∀ deviceId, deviceId ≠ address.2 →
      device identities' (encoding.keyString address.1) deviceId =
        device identities (encoding.keyString address.1) deviceId)
    (stores : StoresAt encoding identities address' epoch) :
    StoresAt encoding identities' address' epoch := by
  unfold StoresAt at stores ⊢
  rw [← stores]
  by_cases same : address'.1 = address.1
  · rw [same]
    apply sameIdentity
    intro sameDevice
    exact different (Prod.ext same sameDevice)
  · apply sameOthers
    exact encoding.keyString_injective.ne same

theorem preKeysRemaining_of_device (identities : Identities DeviceID) (identityKey : Text)
    (deviceId : DeviceID) (number : Nat) :
    preKeysRemaining identities identityKey deviceId = .ok number ↔
      ∃ registration, device identities identityKey deviceId = some registration ∧
        registration.oneTimePreKeys.length = number := by
  unfold preKeysRemaining device
  cases identities.lookup identityKey with
  | none => simp
  | some identity => cases lookedUp : identity.lookup deviceId <;> simp [lookedUp]

variable {encoding : KeyEncoding IdentityKey DeviceID} {identities : Identities DeviceID}
  {address : IdentityKey × DeviceID} {epoch : Option Epoch}

theorem register_storesAt (stores : StoresAt encoding identities address epoch)
    (signedPreKey : Text) (oneTimePreKeys : List Text) :
    StoresAt encoding (register identities (encoding.keyString address.1) address.2
        ⟨signedPreKey, oneTimePreKeys⟩) address
      (some ((Epoch.continuing epoch signedPreKey).upload oneTimePreKeys)) := by
  have existing : ((identities.lookup (encoding.keyString address.1)).getD ∅).lookup
      address.2 = epoch.map registrationOf := by
    rw [← stores, device]
    cases identities.lookup (encoding.keyString address.1) <;> rfl
  unfold StoresAt register
  rw [device_insert, AList.lookup_insert, existing, addPreKeys_registrationOf]
  rfl

theorem register_leaves_others (address : IdentityKey × DeviceID) (registration : Register)
    {address' : IdentityKey × DeviceID} (different : address' ≠ address)
    (stores : StoresAt encoding identities address' epoch) :
    StoresAt encoding (register identities (encoding.keyString address.1) address.2
      registration) address' epoch := by
  apply stores.of_ne different
  · intro identityKey deviceId otherIdentity
    exact device_insert_of_ne identities otherIdentity _ deviceId
  · intro deviceId otherDevice
    rw [register, device_insert, AList.lookup_insert_ne otherDevice, device]
    cases identities.lookup (encoding.keyString address.1) <;> rfl

theorem lookup_erase_device (identity : Identity DeviceID) (deviceId deviceId' : DeviceID) :
    (identity.erase deviceId).lookup deviceId' =
      if deviceId' = deviceId then none else identity.lookup deviceId' := by
  by_cases same : deviceId' = deviceId
  · rw [if_pos same, same, AList.lookup_erase]
  · rw [if_neg same, AList.lookup_erase_ne same]

theorem device_unregister (identities : Identities DeviceID) (identityKey : Text)
    (deviceId deviceId' : DeviceID) :
    device (unregister identities identityKey deviceId) identityKey deviceId' =
      if deviceId' = deviceId then none else device identities identityKey deviceId' := by
  cases found : identities.lookup identityKey with
  | none => simp [unregister, device, found]
  | some identity =>
      have present : device identities identityKey deviceId' = identity.lookup deviceId' := by
        rw [device, found, Option.bind_some]
      rw [present, ← lookup_erase_device]
      simp only [unregister, found]
      split
      · rename_i empty
        rw [device, AList.lookup_erase, Option.bind_none, eq_comm, AList.lookup_eq_none,
          AList.mem_keys, empty]
        exact List.not_mem_nil
      · exact device_insert identities identityKey _ deviceId'

theorem device_unregister_of_ne (identities : Identities DeviceID)
    {identityKey identityKey' : Text} (different : identityKey' ≠ identityKey)
    (deviceId deviceId' : DeviceID) :
    device (unregister identities identityKey deviceId) identityKey' deviceId' =
      device identities identityKey' deviceId' := by
  unfold unregister
  cases identities.lookup identityKey with
  | none => rfl
  | some identity =>
      dsimp only
      split
      · rw [device, AList.lookup_erase_ne different, device]
      · exact device_insert_of_ne identities different _ deviceId'

theorem unregister_storesAt (encoding : KeyEncoding IdentityKey DeviceID)
    (identities : Identities DeviceID) (address : IdentityKey × DeviceID) :
    StoresAt encoding (unregister identities (encoding.keyString address.1) address.2) address
      none := by
  rw [StoresAt, device_unregister, if_pos rfl]
  rfl

theorem unregister_leaves_others (address : IdentityKey × DeviceID)
    {address' : IdentityKey × DeviceID} (different : address' ≠ address)
    (stores : StoresAt encoding identities address' epoch) :
    StoresAt encoding (unregister identities (encoding.keyString address.1) address.2)
      address' epoch := by
  apply stores.of_ne different
  · intro identityKey deviceId otherIdentity
    exact device_unregister_of_ne identities otherIdentity _ _
  · intro deviceId otherDevice
    rw [device_unregister, if_neg otherDevice]

theorem storesAt_insert_self {identityKey : IdentityKey} {identity : Identity DeviceID}
    (found : identities.lookup (encoding.keyString identityKey) = some identity) :
    StoresAt encoding (identities.insert (encoding.keyString identityKey) identity) =
      StoresAt encoding identities := by
  funext address epoch
  have same : device (identities.insert (encoding.keyString identityKey) identity)
      (encoding.keyString address.1) address.2 =
        device identities (encoding.keyString address.1) address.2 := by
    by_cases own : encoding.keyString address.1 = encoding.keyString identityKey
    · rw [own, device_insert, device, found, Option.bind_some]
    · exact device_insert_of_ne identities own identity address.2
  rw [StoresAt, same, StoresAt]

/-! ## Requests -/

/-- What happens to a device for which a request returns this pre-key. -/
def answerEvent (request : Nat) (identityKey : IdentityKey) (preKey : PreKey DeviceID) :
    Event (IdentityKey × DeviceID) :=
  .answered request (identityKey, preKey.deviceId) (some preKey.signedPreKey)
    preKey.oneTimePreKey

omit [DecidableEq DeviceID] in
theorem answersTo_answerEvent (request : Nat) (identityKey : IdentityKey)
    (preKeys : List (PreKey DeviceID)) :
    answersTo (preKeys.map (answerEvent request identityKey)) request =
      preKeys.map fun preKey =>
        ((identityKey, preKey.deviceId), some preKey.signedPreKey, preKey.oneTimePreKey) := by
  simp [answersTo, answerEvent, List.filterMap_map, Function.comp_def]

omit [DecidableEq DeviceID] in
theorem answersTo_answerEvent_of_ne {request other : Nat} (different : other ≠ request)
    (identityKey : IdentityKey) (preKeys : List (PreKey DeviceID)) :
    answersTo (preKeys.map (answerEvent request identityKey)) other = [] := by
  simp [answersTo, answerEvent, List.filterMap_map, Function.comp_def, different.symm]

variable [DecidableEq IdentityKey]

/-- An iteration answers with the top of the stack. -/
theorem represents_answer {identityKey : IdentityKey} {identity : Identity DeviceID}
    {log : List (Event (IdentityKey × DeviceID))}
    (represents : Represents (StoresAt encoding
      (identities.insert (encoding.keyString identityKey) identity)) log)
    (request : Nat) {deviceId : DeviceID} {registration : Register}
    (found : identity.lookup deviceId = some registration) :
    Represents (StoresAt encoding (identities.insert (encoding.keyString identityKey)
        (identity.insert deviceId
          { registration with oneTimePreKeys := registration.oneTimePreKeys.dropLast })))
      (log ++ [answerEvent request identityKey ⟨deviceId, registration.signedPreKey,
        registration.oneTimePreKeys.getLast?⟩]) := by
  have stored := represents.stored (identityKey, deviceId)
  rw [StoresAt, device_insert, found] at stored
  rcases Option.map_eq_some_iff.mp stored.symm with ⟨epoch, current, rfl⟩
  have lawful := Directory.lawful_pop (Directory.history log) request (identityKey, deviceId)
  rw [current] at lawful
  rw [getLast?_registrationOf, dropLast_registrationOf]
  refine represents.append _ lawful ?_ ?_
  · simp only [answerEvent, Event.address, Directory.record, Function.update_self, current]
    rw [StoresAt, device_insert, AList.lookup_insert]
    rfl
  · intro address epoch' different stores
    change address ≠ (identityKey, deviceId) at different
    apply stores.of_ne different
    · intro identityKey' deviceId' otherIdentity
      rw [device_insert_of_ne _ otherIdentity, device_insert_of_ne _ otherIdentity]
    · intro deviceId' otherDevice
      rw [device_insert, AList.lookup_insert_ne otherDevice, device_insert]

/-- Each iteration of the loop answers for one device or skips it. -/
theorem requestLoop_represents {identityKey : IdentityKey} {identity : Identity DeviceID}
    {log : List (Event (IdentityKey × DeviceID))}
    (represents : Represents (StoresAt encoding
      (identities.insert (encoding.keyString identityKey) identity)) log)
    (request : Nat) (knownDeviceIds order : List DeviceID) (result : List (PreKey DeviceID)) :
    ∃ preKeys, (requestLoop knownDeviceIds order identity result).1 = result ++ preKeys ∧
      Represents (StoresAt encoding (identities.insert (encoding.keyString identityKey)
          (requestLoop knownDeviceIds order identity result).2))
        (log ++ preKeys.map (answerEvent request identityKey)) := by
  induction order generalizing identity log result with
  | nil => exact ⟨[], by simp [requestLoop], by simpa [requestLoop] using represents⟩
  | cons deviceId rest induction =>
      by_cases known : deviceId ∈ knownDeviceIds
      · simp only [requestLoop, if_pos known]
        exact induction represents result
      · cases found : identity.lookup deviceId with
        | none =>
            simp only [requestLoop, if_neg known, found]
            exact induction represents result
        | some registration =>
            simp only [requestLoop, if_neg known, found]
            have represents' := represents_answer represents request found
            rcases induction represents' (result ++ [⟨deviceId, registration.signedPreKey,
              registration.oneTimePreKeys.getLast?⟩]) with ⟨preKeys, returned, represents''⟩
            refine ⟨⟨deviceId, registration.signedPreKey,
              registration.oneTimePreKeys.getLast?⟩ :: preKeys, ?_, ?_⟩
            · rw [returned, List.append_assoc, List.singleton_append]
            · rw [List.map_cons, List.append_cons log]
              exact represents''

end Memdb

/-- The devices in memory, with the results of the numbered calls of
`RequestPreKeys`. -/
structure MemDevices (IdentityKey DeviceID : Type) where
  identities : Memdb.Identities DeviceID
  results : Nat → Option (IdentityKey × Except DBError (List (PreKey DeviceID)))
  /-- History: what happened to the devices so far. -/
  log : List (Event (IdentityKey × DeviceID))

namespace MemDevices

inductive Action (IdentityKey DeviceID : Type) where
  | register (identityKey : IdentityKey) (deviceId : DeviceID)
      (registration : Register)
  | unregister (identityKey : IdentityKey) (deviceId : DeviceID)
  /-- The loop visits the devices in the given order. -/
  | requestPreKeys (request : Nat) (identityKey : IdentityKey)
      (knownDeviceIds order : List DeviceID)

def initial : MemDevices IdentityKey DeviceID := ⟨∅, fun _ => none, []⟩

def requestPreKeys (encoding : KeyEncoding IdentityKey DeviceID)
    (db : MemDevices IdentityKey DeviceID) (request : Nat) (identityKey : IdentityKey)
    (knownDeviceIds order : List DeviceID) : MemDevices IdentityKey DeviceID :=
  let (result, identities) := Memdb.requestPreKeys db.identities
    (encoding.keyString identityKey) knownDeviceIds order
  { identities := identities
    results := Function.update db.results request (some (identityKey, result))
    log := db.log ++ (result.toOption.getD []).map (Memdb.answerEvent request identityKey) }

def step (encoding : KeyEncoding IdentityKey DeviceID)
    (db : MemDevices IdentityKey DeviceID) :
    Action IdentityKey DeviceID → Option (MemDevices IdentityKey DeviceID)
  | .register identityKey deviceId registration =>
      some { db with
        identities := Memdb.register db.identities (encoding.keyString identityKey) deviceId
          registration
        log := db.log ++ [.registered (identityKey, deviceId) registration.signedPreKey
          registration.oneTimePreKeys] }
  | .unregister identityKey deviceId =>
      some { db with
        identities := Memdb.unregister db.identities (encoding.keyString identityKey) deviceId
        log := db.log ++ [.unregistered (identityKey, deviceId)] }
  | .requestPreKeys request identityKey knownDeviceIds order =>
      let devices := ((db.identities.lookup (encoding.keyString identityKey)).map
        AList.keys).getD []
      if db.results request = none ∧ order.Perm devices then
        some (db.requestPreKeys encoding request identityKey knownDeviceIds order)
      else none

def Reaches (encoding : KeyEncoding IdentityKey DeviceID)
    (db : MemDevices IdentityKey DeviceID) : Prop :=
  Transition.Run (step encoding) Transition.anyStep initial db

/-- The call with this number has returned these pre-keys. -/
def Returned (db : MemDevices IdentityKey DeviceID) (request : Nat)
    (identityKey : IdentityKey) (preKeys : List (PreKey DeviceID)) : Prop :=
  (db.results request).map (fun result => (result.1, result.2.toOption)) =
    some (identityKey, some preKeys)

instance [DecidableEq IdentityKey] (db : MemDevices IdentityKey DeviceID) (request : Nat)
    (identityKey : IdentityKey) (preKeys : List (PreKey DeviceID)) :
    Decidable (db.Returned request identityKey preKeys) :=
  inferInstanceAs (Decidable (_ = _))

/-! ## Every run keeps the stacks in memory -/

variable [DecidableEq IdentityKey] {encoding : KeyEncoding IdentityKey DeviceID}
  {db next : MemDevices IdentityKey DeviceID}

structure Sound (encoding : KeyEncoding IdentityKey DeviceID)
    (db : MemDevices IdentityKey DeviceID) : Prop where
  represents : Represents (Memdb.StoresAt encoding db.identities) db.log
  returned : ∀ request identityKey preKeys, db.Returned request identityKey preKeys →
    answersTo db.log request = preKeys.map fun preKey =>
      ((identityKey, preKey.deviceId), some preKey.signedPreKey, preKey.oneTimePreKey)
  unanswered : ∀ request, db.results request = none → answersTo db.log request = []

theorem Sound.initial : Sound encoding initial where
  represents := .empty fun _ => rfl
  returned := by
    intro request identityKey preKeys returned
    cases returned
  unanswered := fun _ _ => rfl

theorem Sound.of_event (sound : Sound encoding db) {identities : Memdb.Identities DeviceID}
    {event : Event (IdentityKey × DeviceID)}
    (noAnswer : ∀ request, answersTo [event] request = [])
    (represents : Represents (Memdb.StoresAt encoding identities) (db.log ++ [event])) :
    Sound encoding { db with identities := identities, log := db.log ++ [event] } where
  represents := represents
  returned := by
    intro request identityKey preKeys returned
    rw [answersTo_append, noAnswer, List.append_nil]
    exact sound.returned request identityKey preKeys returned
  unanswered := by
    intro request pending
    rw [answersTo_append, noAnswer, List.append_nil]
    exact sound.unanswered request pending

/-- A request that ran to its end returns its answers, and other requests
keep theirs. -/
theorem Sound.of_result (sound : Sound encoding db) {request : Nat}
    (unused : db.results request = none) (identityKey : IdentityKey)
    {result : Except DBError (List (PreKey DeviceID))} {identities : Memdb.Identities DeviceID}
    (represents : Represents (Memdb.StoresAt encoding identities)
      (db.log ++ (result.toOption.getD []).map (Memdb.answerEvent request identityKey))) :
    Sound encoding
      { identities := identities
        results := Function.update db.results request (some (identityKey, result))
        log := db.log ++
          (result.toOption.getD []).map (Memdb.answerEvent request identityKey) } where
  represents := represents
  returned := by
    intro other identityKey' preKeys returned
    rw [answersTo_append]
    by_cases same : other = request
    · subst other
      simp only [Returned, Function.update_self, Option.map_some, Option.some.injEq,
        Prod.mk.injEq] at returned
      rcases returned with ⟨rfl, returned⟩
      rw [sound.unanswered request unused, List.nil_append, returned]
      exact Memdb.answersTo_answerEvent request identityKey preKeys
    · simp only [Returned, Function.update_of_ne same] at returned
      rw [Memdb.answersTo_answerEvent_of_ne same, List.append_nil]
      exact sound.returned other identityKey' preKeys returned
  unanswered := by
    intro other pending
    by_cases same : other = request
    · subst other
      simp at pending
    · simp only [Function.update_of_ne same] at pending
      rw [answersTo_append, Memdb.answersTo_answerEvent_of_ne same, List.append_nil]
      exact sound.unanswered other pending

theorem Sound.requestPreKeys (sound : Sound encoding db) {request : Nat}
    (unused : db.results request = none) (identityKey : IdentityKey)
    (knownDeviceIds order : List DeviceID) :
    Sound encoding (db.requestPreKeys encoding request identityKey knownDeviceIds order) := by
  unfold MemDevices.requestPreKeys Memdb.requestPreKeys
  cases found : db.identities.lookup (encoding.keyString identityKey) with
  | none =>
      apply sound.of_result unused identityKey
      simpa [Except.toOption] using sound.represents
  | some identity =>
      have reinserted : Represents (Memdb.StoresAt encoding
          (db.identities.insert (encoding.keyString identityKey) identity)) db.log := by
        rw [Memdb.storesAt_insert_self found]
        exact sound.represents
      rcases Memdb.requestLoop_represents reinserted request knownDeviceIds order [] with
        ⟨preKeys, returned, represents⟩
      apply sound.of_result unused identityKey
      simpa [Except.toOption, returned] using represents

theorem Sound.step (sound : Sound encoding db) {action : Action IdentityKey DeviceID}
    (taken : db.step encoding action = some next) : Sound encoding next := by
  cases action with
  | register identityKey deviceId registration =>
      rw [MemDevices.step, Option.some.injEq] at taken
      subst next
      apply sound.of_event fun _ => rfl
      have stored := sound.represents.stored (identityKey, deviceId)
      refine sound.represents.append _ trivial ?_ ?_
      · simpa [Directory.record, Event.address] using Memdb.register_storesAt stored
          registration.signedPreKey registration.oneTimePreKeys
      · intro address epoch different stores
        exact Memdb.register_leaves_others (identityKey, deviceId) registration different stores
  | unregister identityKey deviceId =>
      rw [MemDevices.step, Option.some.injEq] at taken
      subst next
      apply sound.of_event fun _ => rfl
      refine sound.represents.append _ trivial ?_ ?_
      · simpa [Directory.record, Event.address] using
          Memdb.unregister_storesAt encoding db.identities (identityKey, deviceId)
      · intro address epoch different stores
        exact Memdb.unregister_leaves_others (identityKey, deviceId) different stores
  | requestPreKeys request identityKey knownDeviceIds order =>
      simp only [MemDevices.step] at taken
      split at taken
      · rename_i condition
        rw [Option.some.injEq] at taken
        subst next
        exact sound.requestPreKeys condition.1 identityKey knownDeviceIds order
      · cases taken

theorem Sound.of_reaches (reaches : Reaches encoding db) : Sound encoding db := by
  apply Transition.Run.preserves reaches Sound.initial
  intro current action next _ sound _ taken
  exact sound.step taken

theorem Sound.stackDiscipline (sound : Sound encoding db) :
    StackDiscipline db.log db.Returned (fun identityKey deviceId number =>
      Memdb.preKeysRemaining db.identities (encoding.keyString identityKey) deviceId =
        .ok number) where
  lawful := sound.represents.lawful
  returned := sound.returned
  remaining := by
    intro identityKey deviceId number
    have stored := sound.represents.stored (identityKey, deviceId)
    rw [Memdb.preKeysRemaining_of_device, stored]
    cases Directory.history db.log (identityKey, deviceId) with
    | none => simp
    | some epoch =>
        have counted := epoch.length_keys
        simp only [Option.map_some, Memdb.registrationOf, Option.some.injEq,
          exists_eq_left', List.length_reverse]
        omega

end MemDevices

/-- In every interleaving of calls on devices, in Redis and in memory, one-time
pre-keys are handed out as one stack per device and signed pre-key. -/
theorem one_time_pre_keys_form_stacks [DecidableEq IdentityKey]
    (encoding : KeyEncoding IdentityKey DeviceID) :
    (∀ db, RedisDevices.Reaches encoding db →
      StackDiscipline db.log db.Returned fun identityKey deviceId number =>
        Redisdb.preKeysRemaining encoding db.keyspace identityKey deviceId =
          some (.ok number)) ∧
    (∀ db, MemDevices.Reaches encoding db →
      StackDiscipline db.log db.Returned fun identityKey deviceId number =>
        Memdb.preKeysRemaining db.identities (encoding.keyString identityKey) deviceId =
          .ok number) := by
  constructor
  · intro db reaches
    exact (RedisDevices.Sound.of_reaches reaches).stackDiscipline
  · intro db reaches
    exact (MemDevices.Sound.of_reaches reaches).stackDiscipline

/-! ## Two requests for one device -/

/-- Two identities with two devices each. -/
def letterEncoding : KeyEncoding Bool Bool where
  keyString identityKey := if identityKey then ['b'] else ['a']
  deviceString deviceId := if deviceId then ['b'] else ['a']
  decodeDevice text :=
    if text = ['b'] then some true else if text = ['a'] then some false else none
  keyString_injective := by decide
  keyString_brace := by decide
  decode_deviceString := by decide

/-- The second of two interleaved requests gets the top of the stack, and the
first gets the key below it. -/
theorem interleaved_requests_form_stacks :
    (∃ db, RedisDevices.Reaches letterEncoding db ∧
      db.Returned 1 false [⟨true, "signed".toList, some "one".toList⟩] ∧
      db.Returned 2 false [⟨true, "signed".toList, some "two".toList⟩] ∧
      StackDiscipline db.log db.Returned fun identityKey deviceId number =>
        Redisdb.preKeysRemaining letterEncoding db.keyspace identityKey deviceId =
          some (.ok number)) ∧
    (∃ db, MemDevices.Reaches letterEncoding db ∧
      db.Returned 1 false [⟨true, "signed".toList, some "two".toList⟩] ∧
      db.Returned 2 false [⟨true, "signed".toList, some "one".toList⟩] ∧
      StackDiscipline db.log db.Returned fun identityKey deviceId number =>
        Memdb.preKeysRemaining db.identities (letterEncoding.keyString identityKey)
          deviceId = .ok number) := by
  constructor
  · have run : ∃ db, RedisDevices.Reaches letterEncoding db ∧
        db.Returned 1 false [⟨true, "signed".toList, some "one".toList⟩] ∧
        db.Returned 2 false [⟨true, "signed".toList, some "two".toList⟩] :=
      Transition.Run.exists_of_execute
        [.register false true "signed".toList ["one".toList, "two".toList],
          .list 1 false [] [['b']], .list 2 false [] [['b']], .getPreKey 2, .getPreKey 1,
          .finish 1, .finish 2] (by decide)
    rcases run with ⟨db, reaches, first, second⟩
    exact ⟨db, reaches, first, second,
      (one_time_pre_keys_form_stacks letterEncoding).1 db reaches⟩
  · have run : ∃ db, MemDevices.Reaches letterEncoding db ∧
        db.Returned 1 false [⟨true, "signed".toList, some "two".toList⟩] ∧
        db.Returned 2 false [⟨true, "signed".toList, some "one".toList⟩] :=
      Transition.Run.exists_of_execute
        [.register false true ⟨"signed".toList, ["one".toList, "two".toList]⟩,
          .requestPreKeys 1 false [] [true], .requestPreKeys 2 false [] [true]] (by decide)
    rcases run with ⟨db, reaches, first, second⟩
    exact ⟨db, reaches, first, second,
      (one_time_pre_keys_form_stacks letterEncoding).2 db reaches⟩

end Tassis.Database
