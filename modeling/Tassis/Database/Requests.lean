import Mathlib.Data.Set.List
import Tassis.Database.DeviceIndex

/-! # Requests on both databases

What `RequestPreKeys` answers in Redis and in memory after the same
registrations and removals, against one specification: a pre-key for each
registered device of the identity that is not known.
-/

namespace Tassis.Database

open Model (PreKey Register)

variable {IdentityKey DeviceID : Type}

/-! ## The specification -/

section Specification

variable (directory : Directory (IdentityKey × DeviceID)) (identityKey : IdentityKey)
  (knownDeviceIds : List DeviceID)

/-- Some device of the identity is registered. -/
def HasDevice : Prop := ∃ device, (directory (identityKey, device)).isSome = true

/-- If the identity has a device, it has one that is not known. -/
def HasUnknownDevice : Prop :=
  HasDevice directory identityKey →
    ∃ device, device ∉ knownDeviceIds ∧ (directory (identityKey, device)).isSome = true

/-- The pre-key is what a registered device that is not known answers with. -/
def IsAnswer (preKey : PreKey DeviceID) : Prop :=
  preKey.deviceId ∉ knownDeviceIds ∧ ∃ epoch,
    directory (identityKey, preKey.deviceId) = some epoch ∧
      preKey.signedPreKey = epoch.signedPreKey ∧ preKey.oneTimePreKey = epoch.pop.1

/-- The signed pre-key and the one-time pre-key that a device answers with. -/
def answerFor (device : DeviceID) : DeviceID × Option Text × Option Text :=
  (device, (directory (identityKey, device)).map Epoch.signedPreKey,
    (directory (identityKey, device)).bind fun epoch => epoch.pop.1)

/-- One pre-key for each registered device that is not known, or an unknown
identity if no device is registered. -/
def RequestSpec : Except DBError (List (PreKey DeviceID)) → Prop
  | .ok preKeys => HasDevice directory identityKey ∧ (preKeys.map PreKey.deviceId).Nodup ∧
      ∀ preKey, preKey ∈ preKeys ↔ IsAnswer directory identityKey knownDeviceIds preKey
  | .error err => err = .unknownIdentity ∧ ¬HasDevice directory identityKey

end Specification

/-- The same answer up to the order of the pre-keys. -/
def SameAnswer : Except DBError (List (PreKey DeviceID)) →
    Except DBError (List (PreKey DeviceID)) → Prop
  | .ok preKeys, .ok preKeys' => preKeys.Perm preKeys'
  | .error err, .error err' => err = err'
  | _, _ => False

section Specification

variable {directory : Directory (IdentityKey × DeviceID)} {identityKey : IdentityKey}
  {knownDeviceIds : List DeviceID} {result result' : Except DBError (List (PreKey DeviceID))}

/-- The specification leaves open the order only. -/
theorem RequestSpec.sameAnswer (spec : RequestSpec directory identityKey knownDeviceIds result)
    (spec' : RequestSpec directory identityKey knownDeviceIds result') :
    SameAnswer result result' := by
  cases result with
  | error err =>
      cases result' with
      | error err' => exact spec.1.trans spec'.1.symm
      | ok preKeys' => exact spec.2 spec'.1
  | ok preKeys =>
      cases result' with
      | error err' => exact spec'.2 spec.1
      | ok preKeys' =>
          refine (List.perm_ext_iff_of_nodup (spec.2.1.of_map _) (spec'.2.1.of_map _)).mpr ?_
          intro preKey
          rw [spec.2.2 preKey, spec'.2.2 preKey]

theorem RequestSpec.of_sameAnswer
    (spec : RequestSpec directory identityKey knownDeviceIds result)
    (same : SameAnswer result' result) :
    RequestSpec directory identityKey knownDeviceIds result' := by
  cases result with
  | error err =>
      cases result' with
      | error err' => exact ⟨same.trans spec.1, spec.2⟩
      | ok preKeys' => exact same.elim
  | ok preKeys =>
      cases result' with
      | error err' => exact same.elim
      | ok preKeys' =>
          refine ⟨spec.1, ((same.map PreKey.deviceId).nodup_iff).mpr spec.2.1, ?_⟩
          intro preKey
          rw [same.mem_iff, spec.2.2 preKey]

/-- There is one answer for a device. -/
theorem IsAnswer.unique {preKey preKey' : PreKey DeviceID}
    (answer : IsAnswer directory identityKey knownDeviceIds preKey)
    (answer' : IsAnswer directory identityKey knownDeviceIds preKey')
    (same : preKey.deviceId = preKey'.deviceId) : preKey = preKey' := by
  rcases answer with ⟨_, epoch, registered, signed, oneTime⟩
  rcases answer' with ⟨_, epoch', registered', signed', oneTime'⟩
  have sameEpoch : epoch = epoch' := by
    rw [same, registered'] at registered
    exact (Option.some.inj registered).symm
  cases preKey
  cases preKey'
  subst sameEpoch
  simp_all

/-- Answers for different devices meet the specification if the devices are
those that should answer. -/
theorem RequestSpec.of_answers {devices : List DeviceID} (once : devices.Nodup)
    (asked : ∀ device, device ∈ devices ↔ device ∉ knownDeviceIds ∧
      (directory (identityKey, device)).isSome = true)
    (hasDevice : HasDevice directory identityKey) {preKeys : List (PreKey DeviceID)}
    (answers : preKeys.map (fun preKey =>
        (preKey.deviceId, some preKey.signedPreKey, preKey.oneTimePreKey)) =
      devices.map (answerFor directory identityKey)) :
    RequestSpec directory identityKey knownDeviceIds (.ok preKeys) := by
  have deviceIds : preKeys.map PreKey.deviceId = devices := by
    have firsts := congrArg (List.map Prod.fst) answers
    simpa [List.map_map, Function.comp_def, answerFor] using firsts
  have correct : ∀ preKey, preKey ∈ preKeys →
      IsAnswer directory identityKey knownDeviceIds preKey := by
    intro preKey member
    have answered : (preKey.deviceId, some preKey.signedPreKey, preKey.oneTimePreKey) ∈
        devices.map (answerFor directory identityKey) := by
      rw [← answers]
      exact List.mem_map_of_mem member
    rcases List.mem_map.mp answered with ⟨device, listed, equal⟩
    simp only [answerFor, Prod.mk.injEq] at equal
    rcases equal with ⟨rfl, signed, oneTime⟩
    rcases (asked preKey.deviceId).mp listed with ⟨unknown, registered⟩
    rcases Option.isSome_iff_exists.mp registered with ⟨epoch, registered⟩
    rw [registered] at signed oneTime
    exact ⟨unknown, epoch, registered, (Option.some.inj signed).symm, oneTime.symm⟩
  refine ⟨hasDevice, deviceIds ▸ once, fun preKey => ⟨correct preKey, ?_⟩⟩
  intro answer
  rcases answer with ⟨unknown, epoch, registered, signed, oneTime⟩
  have listed := (asked preKey.deviceId).mpr ⟨unknown, by rw [registered]; rfl⟩
  rw [← deviceIds] at listed
  rcases List.mem_map.mp listed with ⟨preKey', member, same⟩
  have answer : IsAnswer directory identityKey knownDeviceIds preKey :=
    ⟨unknown, epoch, registered, signed, oneTime⟩
  rw [← (correct preKey' member).unique answer same]
  exact member

end Specification

/-! ## Whole requests in Redis -/

namespace Redisdb

/-- The scripts of one request, in order. -/
def getPreKeys (encoding : KeyEncoding IdentityKey DeviceID) (identityKey : IdentityKey) :
    List Text → Keyspace → Option (List PreKeyReply × Keyspace)
  | [], keyspace => some ([], keyspace)
  | deviceId :: rest, keyspace => do
      let deviceKey := deviceKeyFromString encoding identityKey deviceId
      let ((signedPreKey, oneTimePreKey), keyspace) ←
        getPreKeyScript keyspace deviceKey (oneTimePreKeysKey deviceKey)
      let (replies, keyspace) ← getPreKeys encoding identityKey rest keyspace
      return (⟨deviceId, signedPreKey, oneTimePreKey⟩ :: replies, keyspace)

/-- A request that no other call interrupts. The index is listed in some order. -/
def requestPreKeys (encoding : KeyEncoding IdentityKey DeviceID) (keyspace : Keyspace)
    (identityKey : IdentityKey) (knownDeviceIds : List DeviceID) (identityDevices : List Text) :
    Option (Outcome DeviceID × Keyspace) := do
  let (replies, keyspace) ← getPreKeys encoding identityKey
    (devicesToAsk encoding knownDeviceIds identityDevices) keyspace
  return (collectPreKeys encoding replies [], keyspace)

variable {encoding : KeyEncoding IdentityKey DeviceID} {keyspace next : Keyspace}
  {identityKey : IdentityKey}

/-- The scripts for different devices do not disturb each other. -/
theorem getPreKeys_replies {devices : List DeviceID} (once : devices.Nodup)
    {directory : Directory (IdentityKey × DeviceID)}
    (stores : ∀ device, device ∈ devices →
      StoresAt encoding keyspace (identityKey, device) (directory (identityKey, device))) :
    ∃ next, getPreKeys encoding identityKey (devices.map encoding.deviceString) keyspace =
      some ((devices.map (answerFor directory identityKey)).map (replyFor encoding), next) := by
  induction devices generalizing keyspace with
  | nil => exact ⟨keyspace, rfl⟩
  | cons device rest induction =>
      rcases getPreKeyScript_stores (separate_keys identityKey device).keys
        (stores device List.mem_cons_self) with ⟨popped, executes, _, unchanged⟩
      rcases induction once.of_cons (fun other member => by
        have different : other ≠ device := fun equal =>
          (List.nodup_cons.mp once).1 (equal ▸ member)
        have otherKey : Redisdb.deviceKey encoding identityKey other ≠
            Redisdb.deviceKey encoding identityKey device := fun equal =>
          different (deviceString_injective encoding (deviceKeyFromString_inj equal).2)
        exact Stores.of_lookup_eq (stores other (List.mem_cons_of_mem _ member))
          (unchanged _ (deviceKeyFromString_ne_oneTimePreKeysKey _ _ _))
          (unchanged _ (oneTimePreKeysKey_injective.ne otherKey))) with ⟨next, runs⟩
      refine ⟨next, ?_⟩
      simp only [Redisdb.deviceKey] at executes
      simp only [List.map_cons, getPreKeys, executes, Option.bind_eq_bind, Option.bind_some,
        runs]
      rfl

/-- The devices that are asked, decoded. -/
theorem devicesToAsk_map (encoding : KeyEncoding IdentityKey DeviceID) [DecidableEq DeviceID]
    (knownDeviceIds devices : List DeviceID) :
    devicesToAsk encoding knownDeviceIds (devices.map encoding.deviceString) =
      (devices.filter fun device => device ∉ knownDeviceIds).map encoding.deviceString := by
  rw [devicesToAsk, List.filter_map]
  congr 1
  apply List.filter_congr
  intro device _
  simp only [Function.comp_apply, List.mem_map_of_injective (deviceString_injective encoding)]

/-- The members of an index, listed in some order, are strings of devices. -/
theorem Indexed.devices_of_listing (indexed : Indexed encoding keyspace)
    {identityDevices : List Text} (once : identityDevices.Nodup)
    (listing : keyspace.set? (identityDevicesKey encoding identityKey) =
      some identityDevices.toFinset) :
    ∃ devices : List DeviceID, devices.Nodup ∧
      identityDevices = devices.map encoding.deviceString := by
  rcases indexed identityKey with ⟨members, index, decoded⟩
  cases Option.some.inj (index.symm.trans listing)
  have listed : identityDevices ∈ Set.range (List.map encoding.deviceString) := by
    rw [Set.range_list_map]
    intro deviceId member
    rcases decoded deviceId (List.mem_toFinset.mpr member) with ⟨device, rfl⟩
    exact Set.mem_range_self device
  rcases listed with ⟨devices, rfl⟩
  exact ⟨devices, once.of_map _, rfl⟩

/-- What a call returns, if it does not crash. -/
def Outcome.result : Outcome DeviceID → Option (Except DBError (List (PreKey DeviceID)))
  | .returned preKeys => some (.ok preKeys)
  | .failed err => some (.error err)
  | .crashed => none

variable {directory : Directory (IdentityKey × DeviceID)} {knownDeviceIds : List DeviceID}
  {identityDevices : List Text}

/-- The pre-keys that are collected for registered devices. -/
theorem collectPreKeys_registered {devices : List DeviceID} (nonempty : devices ≠ [])
    (registered : ∀ device, device ∈ devices →
      (directory (identityKey, device)).isSome = true) :
    ∃ preKeys, collectPreKeys encoding
        ((devices.map (answerFor directory identityKey)).map (replyFor encoding)) [] =
          .returned preKeys ∧
      preKeys.map (fun preKey =>
          (preKey.deviceId, some preKey.signedPreKey, preKey.oneTimePreKey)) =
        devices.map (answerFor directory identityKey) := by
  have signed : ∀ reply,
      reply ∈ (devices.map (answerFor directory identityKey)).map (replyFor encoding) →
        reply.signedPreKey ≠ none := by
    intro reply member
    rw [List.map_map] at member
    rcases List.mem_map.mp member with ⟨device, asked, rfl⟩
    simpa [replyFor, answerFor, Option.isSome_iff_ne_none] using registered device asked
  have some : devices.map (answerFor directory identityKey) = [] →
      ([] : List (PreKey DeviceID)) ≠ [] :=
    fun none => absurd (List.map_eq_nil_iff.mp none) nonempty
  rcases RedisDevices.collectPreKeys_of_signed signed some with ⟨preKeys, returned⟩
  exact ⟨preKeys, returned, by simpa using collectPreKeys_returned returned⟩

variable [DecidableEq DeviceID]

/-- What a request answers if the index lists the registered devices: without a
device to ask, it fails. -/
theorem requestPreKeys_answers (indexed : Indexed encoding keyspace)
    (stores : ∀ address, StoresAt encoding keyspace address (directory address))
    (agrees : ∀ address, Redisdb.Lists encoding keyspace address ↔
      (directory address).isSome = true)
    (once : identityDevices.Nodup)
    (listing : keyspace.set? (identityDevicesKey encoding identityKey) =
      some identityDevices.toFinset) :
    ∃ result outcome next, requestPreKeys encoding keyspace identityKey knownDeviceIds
        identityDevices = some (outcome, next) ∧ outcome.result = some result ∧
      (RequestSpec directory identityKey knownDeviceIds result ↔
        HasUnknownDevice directory identityKey knownDeviceIds) := by
  rcases indexed.devices_of_listing once listing with ⟨devices, distinct, rfl⟩
  have listed : ∀ device, device ∈ devices ↔
      (directory (identityKey, device)).isSome = true := by
    intro device
    rw [← agrees (identityKey, device), Redisdb.lists_iff listing, List.mem_toFinset,
      List.mem_map_of_injective (deviceString_injective encoding)]
  -- The devices that are asked, each once.
  generalize askedEq : (devices.filter fun device => device ∉ knownDeviceIds) = unknown
  have asked : ∀ device, device ∈ unknown ↔
      device ∉ knownDeviceIds ∧ (directory (identityKey, device)).isSome = true := by
    intro device
    rw [← askedEq, List.mem_filter, listed device, decide_eq_true_eq, and_comm]
  have onceAsked : unknown.Nodup := askedEq ▸ distinct.filter _
  rcases getPreKeys_replies onceAsked (fun device _ => stores (identityKey, device)) with
    ⟨next, executes⟩
  have answers : requestPreKeys encoding keyspace identityKey knownDeviceIds
      (devices.map encoding.deviceString) = some (collectPreKeys encoding
        ((unknown.map (answerFor directory identityKey)).map (replyFor encoding)) [],
          next) := by
    simp only [requestPreKeys, devicesToAsk_map, askedEq, executes, Option.bind_eq_bind,
      Option.bind_some, Option.pure_def]
  by_cases nonempty : unknown = []
  · subst nonempty
    refine ⟨.error .unknownIdentity, .failed .unknownIdentity, next, answers, rfl, ?_⟩
    have none : ¬∃ device, device ∉ knownDeviceIds ∧
        (directory (identityKey, device)).isSome = true := by
      rintro ⟨device, present⟩
      exact List.not_mem_nil ((asked device).mpr present)
    simp only [RequestSpec, HasUnknownDevice, none, true_and, imp_false]
  · rcases collectPreKeys_registered nonempty (fun device member => ((asked device).mp member).2)
      with ⟨preKeys, returned, contents⟩
    rw [returned] at answers
    rcases List.exists_mem_of_ne_nil _ nonempty with ⟨device, member⟩
    have present := (asked device).mp member
    refine ⟨.ok preKeys, .returned preKeys, next, answers, rfl, ?_⟩
    have spec : RequestSpec directory identityKey knownDeviceIds (.ok preKeys) :=
      .of_answers onceAsked asked ⟨device, present.2⟩ contents
    simp only [spec, true_iff]
    exact fun _ => ⟨device, present⟩

end Redisdb

/-! ## Whole requests and their steps -/

namespace RedisDevices

open Redisdb

variable {encoding : KeyEncoding IdentityKey DeviceID} {db : RedisDevices IdentityKey DeviceID}
  {number : Nat} {identityKey : IdentityKey} {keyspace : Keyspace}

theorem execute_getPreKeys {deviceIds : List Text} {replies replies' : List PreKeyReply}
    (asked : db.requests number = some ⟨identityKey, deviceIds, replies, none⟩)
    (executes : getPreKeys encoding identityKey deviceIds db.keyspace =
      some (replies', keyspace)) :
    ∃ final, Transition.execute (RedisDevices.step encoding) Transition.anyStep db
        (List.replicate deviceIds.length (.getPreKey number)) = some final ∧
      final.keyspace = keyspace ∧
      final.requests number = some ⟨identityKey, [], replies ++ replies', none⟩ := by
  induction deviceIds generalizing db replies replies' with
  | nil =>
      simp only [getPreKeys, Option.some.injEq, Prod.mk.injEq] at executes
      rcases executes with ⟨rfl, rfl⟩
      exact ⟨db, rfl, rfl, by simpa using asked⟩
  | cons deviceId rest induction =>
      rcases Option.bind_eq_some_iff.mp executes with ⟨⟨reply, middle⟩, script, executes⟩
      rcases Option.bind_eq_some_iff.mp executes with ⟨⟨later, last⟩, scripts, equal⟩
      cases equal
      have taken : ∃ next, db.step encoding (.getPreKey number) = some next ∧
          next.keyspace = middle ∧ next.requests number = some ⟨identityKey, rest,
            replies ++ [⟨deviceId, reply.1, reply.2⟩], none⟩ := by
        simp [RedisDevices.step, RedisDevices.getPreKey, asked, script]
      rcases taken with ⟨next, taken, rfl, asked'⟩
      rcases induction asked' scripts with ⟨final, runs, stored, ended⟩
      refine ⟨final, ?_, stored, ?_⟩
      · rw [List.length_cons, List.replicate_succ, Transition.execute_cons trivial taken]
        exact runs
      · rw [ended, List.append_assoc, List.singleton_append]

/-- A whole request does what its steps do if no other step comes in between. -/
theorem execute_requestSteps {identityDevices : List Text} {knownDeviceIds : List DeviceID}
    {outcome : Outcome DeviceID} (unused : db.requests number = none)
    (once : identityDevices.Nodup)
    (listing : db.keyspace.set? (identityDevicesKey encoding identityKey) =
      some identityDevices.toFinset)
    (executes : Redisdb.requestPreKeys encoding db.keyspace identityKey knownDeviceIds
      identityDevices = some (outcome, keyspace)) :
    ∃ final, Transition.execute (RedisDevices.step encoding) Transition.anyStep db
        (requestSteps encoding number identityKey knownDeviceIds identityDevices) = some final ∧
      final.keyspace = keyspace ∧
      (final.requests number).bind Request.outcome = some outcome := by
  rcases Option.bind_eq_some_iff.mp executes with ⟨⟨replies, last⟩, scripts, equal⟩
  cases equal
  have starts : ∃ next, db.step encoding
      (.list number identityKey knownDeviceIds identityDevices) = some next ∧
      next.keyspace = db.keyspace ∧ next.requests number = some ⟨identityKey,
        devicesToAsk encoding knownDeviceIds identityDevices, [], none⟩ := by
    simp [RedisDevices.step, RedisDevices.list, listing, unused, once]
  rcases starts with ⟨listed, starts, same, asked⟩
  rw [← same] at scripts
  rcases execute_getPreKeys asked scripts with ⟨scripted, runs, rfl, asked'⟩
  have finishes : ∃ final, scripted.step encoding (.finish number) = some final ∧
      final.keyspace = scripted.keyspace ∧
      (final.requests number).bind Request.outcome =
        some (collectPreKeys encoding replies []) := by
    simp [RedisDevices.step, RedisDevices.finish, asked']
  rcases finishes with ⟨final, finishes, stored, ended⟩
  refine ⟨final, ?_, stored, ended⟩
  rw [requestSteps, Transition.execute_cons trivial starts,
    Transition.execute_append runs, Transition.execute_cons trivial finishes]
  rfl

end RedisDevices

/-! ## Whole requests in memory -/

namespace Memdb

variable [DecidableEq DeviceID] {encoding : KeyEncoding IdentityKey DeviceID}
  {directory : Directory (IdentityKey × DeviceID)} {identityKey : IdentityKey}
  {knownDeviceIds order : List DeviceID}

/-- The loop answers once for each device that it visits and that is not known. -/
theorem requestLoop_answers {identity : Identity DeviceID} (once : order.Nodup)
    (stores : ∀ device, device ∈ order → ∃ epoch, directory (identityKey, device) = some epoch ∧
      identity.lookup device = some (registrationOf epoch))
    (result : List (PreKey DeviceID)) :
    (requestLoop knownDeviceIds order identity result).1.map (fun preKey =>
        (preKey.deviceId, some preKey.signedPreKey, preKey.oneTimePreKey)) =
      result.map (fun preKey =>
        (preKey.deviceId, some preKey.signedPreKey, preKey.oneTimePreKey)) ++
      (order.filter fun device => device ∉ knownDeviceIds).map
        (answerFor directory identityKey) := by
  induction order generalizing identity result with
  | nil => simp [requestLoop]
  | cons device rest induction =>
      rcases List.nodup_cons.mp once with ⟨notAgain, onceRest⟩
      by_cases known : device ∈ knownDeviceIds
      · rw [requestLoop, if_pos known,
          induction onceRest (fun other member => stores other (List.mem_cons_of_mem _ member)),
          List.filter_cons_of_neg (by simpa using known)]
      · rcases stores device List.mem_cons_self with ⟨epoch, registered, found⟩
        simp only [requestLoop, if_neg known, found]
        rw [induction onceRest, List.filter_cons_of_pos (by simpa using known)]
        · simp [answerFor, registered, registrationOf, Epoch.pop_fst]
        · intro other member
          have different : other ≠ device := fun equal => notAgain (equal ▸ member)
          rw [AList.lookup_insert_ne different]
          exact stores other (List.mem_cons_of_mem _ member)

/-- No identity is kept without a device. -/
def Inhabited (identities : Identities DeviceID) : Prop :=
  ∀ identityKey identity, identities.lookup identityKey = some identity → identity.keys ≠ []

theorem Inhabited.register {identities : Identities DeviceID} (inhabited : Inhabited identities)
    (identityKey : Text) (deviceId : DeviceID) (registration : Register) :
    Inhabited (Memdb.register identities identityKey deviceId registration) := by
  intro other identity found
  by_cases same : other = identityKey
  · subst same
    rw [Memdb.register, AList.lookup_insert, Option.some.injEq] at found
    subst found
    simp [AList.keys_insert]
  · rw [Memdb.register, AList.lookup_insert_ne same] at found
    exact inhabited other identity found

theorem Inhabited.unregister {identities : Identities DeviceID}
    (inhabited : Inhabited identities) (identityKey : Text) (deviceId : DeviceID) :
    Inhabited (Memdb.unregister identities identityKey deviceId) := by
  intro other identity found
  unfold Memdb.unregister at found
  cases current : identities.lookup identityKey with
  | none =>
      rw [current] at found
      exact inhabited other identity found
  | some remaining =>
      rw [current] at found
      by_cases same : other = identityKey
      · subst same
        by_cases last : (remaining.erase deviceId).keys = []
        · simp [last] at found
        · simp only [last, if_false, AList.lookup_insert, Option.some.injEq] at found
          rw [← found]
          exact last
      · apply inhabited other identity
        simp only at found
        split at found
        · rwa [AList.lookup_erase_ne same] at found
        · rwa [AList.lookup_insert_ne same] at found

/-- A request in memory meets the specification. -/
theorem requestPreKeys_spec {identities : Identities DeviceID}
    (inhabited : Inhabited identities)
    (stores : ∀ address, StoresAt encoding identities address (directory address))
    (visits : order.Perm (((identities.lookup (encoding.keyString identityKey)).map
      AList.keys).getD [])) :
    RequestSpec directory identityKey knownDeviceIds
      (requestPreKeys identities (encoding.keyString identityKey) knownDeviceIds order).1 := by
  cases found : identities.lookup (encoding.keyString identityKey) with
  | none =>
      have absent : ¬HasDevice directory identityKey := by
        rintro ⟨device, registered⟩
        have stored := stores (identityKey, device)
        rw [StoresAt, Memdb.device, found, Option.bind_none] at stored
        rw [Option.map_eq_none_iff.mp stored.symm] at registered
        cases registered
      simpa [requestPreKeys, found, RequestSpec] using absent
  | some identity =>
      rw [found, Option.map_some, Option.getD_some] at visits
      have lookups : ∀ device, identity.lookup device =
          (directory (identityKey, device)).map registrationOf := by
        intro device
        have stored := stores (identityKey, device)
        rwa [StoresAt, Memdb.device, found, Option.bind_some] at stored
      have listed : ∀ device, device ∈ order ↔
          (directory (identityKey, device)).isSome = true := by
        intro device
        rw [visits.mem_iff, ← AList.mem_keys, ← AList.lookup_isSome, lookups,
          Option.isSome_map]
      have once : order.Nodup := visits.nodup_iff.mpr identity.nodupKeys
      rcases List.exists_mem_of_ne_nil _ (inhabited _ identity found) with ⟨first, member⟩
      have visited : ∀ device, device ∈ order → ∃ epoch,
          directory (identityKey, device) = some epoch ∧
            identity.lookup device = some (registrationOf epoch) := by
        intro device visit
        rcases Option.isSome_iff_exists.mp ((listed device).mp visit) with ⟨epoch, registered⟩
        exact ⟨epoch, registered, by rw [lookups, registered]; rfl⟩
      have asked : ∀ device, device ∈ order.filter (fun device => device ∉ knownDeviceIds) ↔
          device ∉ knownDeviceIds ∧ (directory (identityKey, device)).isSome = true := by
        intro device
        rw [List.mem_filter, listed device, decide_eq_true_eq, and_comm]
      simp only [requestPreKeys, found]
      exact RequestSpec.of_answers (once.filter _) asked
        ⟨first, (listed first).mp (visits.mem_iff.mpr member)⟩
        (requestLoop_answers once visited [])

end Memdb

/-! ## Both databases -/

/-- Both databases after the same calls. -/
structure DevicePair (IdentityKey DeviceID : Type) where
  redis : RedisDevices IdentityKey DeviceID
  memory : MemDevices IdentityKey DeviceID

namespace DevicePair

inductive Call (IdentityKey DeviceID : Type) where
  | register (identityKey : IdentityKey) (deviceId : DeviceID) (registration : Register)
  | unregister (identityKey : IdentityKey) (deviceId : DeviceID)

def Call.inRedis : Call IdentityKey DeviceID → RedisDevices.Action IdentityKey DeviceID
  | .register identityKey deviceId registration =>
      .register identityKey deviceId registration.signedPreKey registration.oneTimePreKeys
  | .unregister identityKey deviceId => .unregister identityKey deviceId

def Call.inMemory : Call IdentityKey DeviceID → MemDevices.Action IdentityKey DeviceID
  | .register identityKey deviceId registration => .register identityKey deviceId registration
  | .unregister identityKey deviceId => .unregister identityKey deviceId

def initial : DevicePair IdentityKey DeviceID := ⟨.initial, .initial⟩

variable [DecidableEq IdentityKey] [DecidableEq DeviceID]

def step (encoding : KeyEncoding IdentityKey DeviceID) (pair : DevicePair IdentityKey DeviceID)
    (call : Call IdentityKey DeviceID) : Option (DevicePair IdentityKey DeviceID) := do
  let redis ← pair.redis.step encoding call.inRedis
  let memory ← pair.memory.step encoding call.inMemory
  return ⟨redis, memory⟩

/-- No call of `Unregister` deletes the index of an identity for another device
than its last member. -/
def Spares (encoding : KeyEncoding IdentityKey DeviceID)
    (pair : DevicePair IdentityKey DeviceID) (call : Call IdentityKey DeviceID) : Prop :=
  RedisDevices.Spares encoding pair.redis call.inRedis

instance (encoding : KeyEncoding IdentityKey DeviceID)
    (pair : DevicePair IdentityKey DeviceID) (call : Call IdentityKey DeviceID) :
    Decidable (Spares encoding pair call) :=
  inferInstanceAs (Decidable (RedisDevices.Spares encoding pair.redis call.inRedis))

structure Sound (encoding : KeyEncoding IdentityKey DeviceID)
    (pair : DevicePair IdentityKey DeviceID) : Prop where
  redis : RedisDevices.Sound encoding pair.redis
  agrees : RedisDevices.Agrees encoding pair.redis
  memory : MemDevices.Sound encoding pair.memory
  inhabited : Memdb.Inhabited pair.memory.identities
  sameLog : pair.memory.log = pair.redis.log

variable {encoding : KeyEncoding IdentityKey DeviceID}
  {pair next : DevicePair IdentityKey DeviceID}

omit [DecidableEq IdentityKey] in
/-- Both databases record the same event. -/
theorem sameLog_of_steps {redis : RedisDevices IdentityKey DeviceID}
    {memory : MemDevices IdentityKey DeviceID} {call : Call IdentityKey DeviceID}
    (sameLog : pair.memory.log = pair.redis.log)
    (inRedis : pair.redis.step encoding call.inRedis = some redis)
    (inMemory : pair.memory.step encoding call.inMemory = some memory) :
    memory.log = redis.log := by
  cases call with
  | register identityKey deviceId registration =>
      rcases Option.bind_eq_some_iff.mp inRedis with ⟨_, _, equal⟩
      cases equal
      cases inMemory
      simp [sameLog]
  | unregister identityKey deviceId =>
      rcases Option.bind_eq_some_iff.mp inRedis with ⟨_, _, equal⟩
      cases equal
      cases inMemory
      simp [sameLog]

omit [DecidableEq IdentityKey] in
theorem inhabited_of_step {memory : MemDevices IdentityKey DeviceID}
    {call : Call IdentityKey DeviceID} (inhabited : Memdb.Inhabited pair.memory.identities)
    (inMemory : pair.memory.step encoding call.inMemory = some memory) :
    Memdb.Inhabited memory.identities := by
  cases call with
  | register identityKey deviceId registration =>
      cases inMemory
      exact inhabited.register _ deviceId registration
  | unregister identityKey deviceId =>
      cases inMemory
      exact inhabited.unregister _ deviceId

theorem Sound.initial : Sound encoding initial where
  redis := .initial
  agrees := .of_run (.refl _)
  memory := .initial
  inhabited := by
    intro identityKey identity found
    simp [DevicePair.initial, MemDevices.initial] at found
  sameLog := rfl

theorem Sound.step (sound : Sound encoding pair) {call : Call IdentityKey DeviceID}
    (spares : Spares encoding pair call) (taken : pair.step encoding call = some next) :
    Sound encoding next := by
  rcases Option.bind_eq_some_iff.mp taken with ⟨redis, inRedis, taken⟩
  rcases Option.bind_eq_some_iff.mp taken with ⟨memory, inMemory, equal⟩
  cases equal
  exact {
    redis := sound.redis.step inRedis
    agrees := sound.agrees.step sound.redis spares inRedis
    memory := sound.memory.step inMemory
    inhabited := inhabited_of_step sound.inhabited inMemory
    sameLog := sameLog_of_steps sound.sameLog inRedis inMemory }

theorem Sound.of_run
    (run : Transition.Run (DevicePair.step encoding) (Spares encoding) DevicePair.initial pair) :
    Sound encoding pair := by
  apply Transition.Run.preserves run Sound.initial
  intro current call next _ sound spares taken
  exact sound.step spares taken

/-- The devices that the loop in memory visits. -/
def devicesInMemory (encoding : KeyEncoding IdentityKey DeviceID)
    (pair : DevicePair IdentityKey DeviceID) (identityKey : IdentityKey) : List DeviceID :=
  ((pair.memory.identities.lookup (encoding.keyString identityKey)).map AList.keys).getD []

end DevicePair

/-- In every state reached by calls of `Register` and `Unregister` that spare
the indexes of other devices: a request in memory meets the specification, in
whichever order it visits the devices; a request in Redis returns, in whichever
order the devices are listed, and it meets the specification and agrees with the
one in memory if and only if the identity is unknown or has a device that is not
known. -/
theorem requests_answer_alike_iff [DecidableEq IdentityKey] [DecidableEq DeviceID]
    {encoding : KeyEncoding IdentityKey DeviceID} {pair : DevicePair IdentityKey DeviceID}
    (run : Transition.Run (DevicePair.step encoding) (DevicePair.Spares encoding)
      DevicePair.initial pair)
    (identityKey : IdentityKey) (knownDeviceIds : List DeviceID) {identityDevices : List Text}
    (once : identityDevices.Nodup)
    (listing : pair.redis.keyspace.set? (Redisdb.identityDevicesKey encoding identityKey) =
      some identityDevices.toFinset)
    {order : List DeviceID} (visits : order.Perm (pair.devicesInMemory encoding identityKey)) :
    ∃ result outcome keyspace inMemory identities,
      Redisdb.requestPreKeys encoding pair.redis.keyspace identityKey knownDeviceIds
        identityDevices = some (outcome, keyspace) ∧
      outcome.result = some result ∧
      Memdb.requestPreKeys pair.memory.identities (encoding.keyString identityKey)
        knownDeviceIds order = (inMemory, identities) ∧
      RequestSpec (Directory.history pair.redis.log) identityKey knownDeviceIds inMemory ∧
      (RequestSpec (Directory.history pair.redis.log) identityKey knownDeviceIds result ↔
        HasUnknownDevice (Directory.history pair.redis.log) identityKey knownDeviceIds) ∧
      (SameAnswer result inMemory ↔
        HasUnknownDevice (Directory.history pair.redis.log) identityKey knownDeviceIds) := by
  have sound := DevicePair.Sound.of_run run
  have inMemory : RequestSpec (Directory.history pair.memory.log) identityKey knownDeviceIds _ :=
    Memdb.requestPreKeys_spec sound.inhabited sound.memory.represents.stored visits
  rw [sound.sameLog] at inMemory
  rcases Redisdb.requestPreKeys_answers sound.redis.indexed sound.redis.represents.stored
    sound.agrees once listing with ⟨result, outcome, keyspace, executes, returns, spec⟩
  refine ⟨result, outcome, keyspace, _, _, executes, returns, rfl, inMemory, spec, ?_⟩
  rw [← spec]
  constructor
  · intro same
    exact inMemory.of_sameAnswer same
  · intro meets
    exact meets.sameAnswer inMemory

open DevicePair in
/-- A request that knows the only device of an identity finds the identity
unknown in Redis, and so does a request after another device was unregistered
that was not registered. -/
theorem registered_identity_is_unknown :
    (∃ pair, Transition.Run (DevicePair.step letterEncoding) (Spares letterEncoding)
        DevicePair.initial pair ∧
      (Directory.history pair.redis.log (false, true)).isSome = true ∧
      pair.redis.keyspace.set? (Redisdb.identityDevicesKey letterEncoding false) =
        some [['b']].toFinset ∧
      (Redisdb.requestPreKeys letterEncoding pair.redis.keyspace false [true] [['b']]).map
        Prod.fst = some (.failed .unknownIdentity) ∧
      (Memdb.requestPreKeys pair.memory.identities (letterEncoding.keyString false) [true]
        [true]).1 = .ok [] ∧
      ¬RequestSpec (Directory.history pair.redis.log) false [true]
        (.error .unknownIdentity)) ∧
    ∃ pair, Transition.Run (DevicePair.step letterEncoding) Transition.anyStep
        DevicePair.initial pair ∧
      (Directory.history pair.redis.log (false, true)).isSome = true ∧
      pair.redis.keyspace.set? (Redisdb.identityDevicesKey letterEncoding false) = some ∅ ∧
      (Redisdb.requestPreKeys letterEncoding pair.redis.keyspace false [] []).map
        Prod.fst = some (.failed .unknownIdentity) ∧
      (Memdb.requestPreKeys pair.memory.identities (letterEncoding.keyString false) []
        [true]).1 = .ok [⟨true, "signed".toList, none⟩] := by
  constructor
  · have run : ∃ pair, Transition.Run (DevicePair.step letterEncoding) (Spares letterEncoding)
          DevicePair.initial pair ∧
        (Directory.history pair.redis.log (false, true)).isSome = true ∧
        pair.redis.keyspace.set? (Redisdb.identityDevicesKey letterEncoding false) =
          some [['b']].toFinset ∧
        (Redisdb.requestPreKeys letterEncoding pair.redis.keyspace false [true] [['b']]).map
          Prod.fst = some (.failed .unknownIdentity) ∧
        (Memdb.requestPreKeys pair.memory.identities (letterEncoding.keyString false) [true]
          [true]).1 = .ok [] :=
      Transition.Run.exists_of_execute [.register false true ⟨"signed".toList, []⟩]
        (by decide +kernel)
    rcases run with ⟨pair, run, registered, listing, inRedis, inMemory⟩
    refine ⟨pair, run, registered, listing, inRedis, inMemory, ?_⟩
    intro spec
    exact spec.2 ⟨true, registered⟩
  · exact Transition.Run.exists_of_execute
      [.register false true ⟨"signed".toList, []⟩, .unregister false false] (by decide +kernel)

open DevicePair in
/-- Two devices are registered and one of them is known. -/
theorem unknown_device_answers_alike :
    ∃ pair, Transition.Run (DevicePair.step letterEncoding) (Spares letterEncoding)
        DevicePair.initial pair ∧
      pair.redis.log.length = 2 ∧
      ∃ result outcome keyspace inMemory identities,
        Redisdb.requestPreKeys letterEncoding pair.redis.keyspace false [true] [['b'], ['a']] =
          some (outcome, keyspace) ∧
        outcome.result = some result ∧
        Memdb.requestPreKeys pair.memory.identities (letterEncoding.keyString false) [true]
          [false, true] = (inMemory, identities) ∧
        SameAnswer result inMemory := by
  have run : ∃ pair, Transition.Run (DevicePair.step letterEncoding) (Spares letterEncoding)
        DevicePair.initial pair ∧
      pair.redis.log.length = 2 ∧
      (Directory.history pair.redis.log (false, false)).isSome = true ∧
      pair.redis.keyspace.set? (Redisdb.identityDevicesKey letterEncoding false) =
        some [['b'], ['a']].toFinset ∧
      [false, true].Perm (pair.devicesInMemory letterEncoding false) :=
    Transition.Run.exists_of_execute
      [.register false true ⟨"signed".toList, ["one".toList]⟩,
        .register false false ⟨"other".toList, []⟩] (by decide +kernel)
  rcases run with ⟨pair, run, logged, registered, listing, visits⟩
  rcases requests_answer_alike_iff run false [true] (by decide) listing visits with
    ⟨result, outcome, keyspace, inMemory, identities, inRedis, returns, requested, _, _, same⟩
  refine ⟨pair, run, logged, result, outcome, keyspace, inMemory, identities, inRedis, returns,
    requested, same.mpr ?_⟩
  exact fun _ => ⟨false, by decide, registered⟩

end Tassis.Database
