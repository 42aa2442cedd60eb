import Tassis.Database.MemDevices

/-! # The transaction of `Register`

`Register` queues the script and, if the registration brings one-time keys, a
push in one `MULTI/EXEC`. Redis runs both even if one of them fails, and undoes
nothing. What a failed call leaves behind, and what retries add to it.
-/

namespace Tassis.Database

variable {IdentityKey DeviceID : Type}

/-- The arguments of `Register`. -/
structure DeviceRegistration (IdentityKey DeviceID : Type) where
  identityKey : IdentityKey
  deviceId : DeviceID
  signedPreKey : Text
  oneTimePreKeys : List Text
  deriving DecidableEq

namespace Redisdb

/-- The commands of the transaction that fail whatever they find, such as the
script after Redis has lost it. -/
structure Faults where
  script : Bool
  push : Bool
  deriving DecidableEq, Repr

/-! ## At the keys of a device -/

section Keys

variable (deviceKey identityDevicesKey : Text)

def queuedScript (signedPreKey deviceId : Text) (faults : Faults) : Keyspace.Queued where
  faulty := faults.script
  command keyspace := (registerScript keyspace deviceKey identityDevicesKey
    (oneTimePreKeysKey deviceKey) signedPreKey deviceId).map Prod.snd

def queuedPush (oneTimePreKeys : List Text) (faults : Faults) : Keyspace.Queued where
  faulty := faults.push
  command keyspace := keyspace.lpush (oneTimePreKeysKey deviceKey) oneTimePreKeys

def queuedCommands (signedPreKey deviceId : Text) (oneTimePreKeys : List Text)
    (faults : Faults) : List Keyspace.Queued :=
  let script := queuedScript deviceKey identityDevicesKey signedPreKey deviceId faults
  if oneTimePreKeys = [] then [script]
  else [script, queuedPush deviceKey oneTimePreKeys faults]

/-- The record, the index and the list of one-time keys are the same. -/
structure Unchanged (keyspace next : Keyspace) : Prop where
  record : next.lookup deviceKey = keyspace.lookup deviceKey
  index : next.lookup identityDevicesKey = keyspace.lookup identityDevicesKey
  keys : next.lookup (oneTimePreKeysKey deviceKey) =
    keyspace.lookup (oneTimePreKeysKey deviceKey)

/-- The script is there and finds values of the types it expects. -/
def ScriptRuns (keyspace : Keyspace) (faults : Faults) : Prop :=
  faults.script = false ∧ (keyspace.hash? deviceKey).isSome ∧
    (keyspace.set? identityDevicesKey).isSome

/-- The record has this signed pre-key. -/
def Signed (keyspace : Keyspace) (signedPreKey : Text) : Prop :=
  keyspace.hget deviceKey signedPreKeyField = some (some signedPreKey)

instance (keyspace : Keyspace) (signedPreKey : Text) :
    Decidable (Signed deviceKey keyspace signedPreKey) :=
  inferInstanceAs (Decidable (_ = _))

/-- The one-time keys that a registration with this signed pre-key adds to. -/
def keptKeys (keyspace : Keyspace) (signedPreKey : Text) : Option (List Text) :=
  if Signed deviceKey keyspace signedPreKey then keyspace.list? (oneTimePreKeysKey deviceKey)
  else some []

/-- The script would write nothing that is not there. -/
def Recorded (keyspace : Keyspace) (signedPreKey deviceId : Text) : Prop :=
  Signed deviceKey keyspace signedPreKey ∧
    deviceId ∈ (keyspace.set? identityDevicesKey).getD ∅

/-- A push onto the list as it is succeeds. -/
def PushRuns (keyspace : Keyspace) (faults : Faults) : Prop :=
  faults.push = false ∧ (keyspace.list? (oneTimePreKeysKey deviceKey)).isSome

/-- If a command fails, no other one changes anything: there is nothing to push,
the script runs and so does the push or the script has nothing to write, or
neither runs. A script that resets the list makes room for the push. -/
def FailsWhole (keyspace : Keyspace) (signedPreKey deviceId : Text)
    (oneTimePreKeys : List Text) (faults : Faults) : Prop :=
  oneTimePreKeys = [] ∨
    ScriptRuns deviceKey identityDevicesKey keyspace faults ∧
      (PushRuns deviceKey keyspace faults ∨
        faults.push = false ∧ ¬Signed deviceKey keyspace signedPreKey ∨
        Recorded deviceKey identityDevicesKey keyspace signedPreKey deviceId) ∨
    ¬ScriptRuns deviceKey identityDevicesKey keyspace faults ∧
      ¬PushRuns deviceKey keyspace faults

instance (keyspace : Keyspace) (signedPreKey deviceId : Text) (oneTimePreKeys : List Text)
    (faults : Faults) : Decidable (FailsWhole deviceKey identityDevicesKey keyspace signedPreKey
      deviceId oneTimePreKeys faults) :=
  haveI (keyspace : Keyspace) (faults : Faults) :
      Decidable (ScriptRuns deviceKey identityDevicesKey keyspace faults) :=
    inferInstanceAs (Decidable (_ ∧ _))
  haveI (keyspace : Keyspace) (faults : Faults) :
      Decidable (PushRuns deviceKey keyspace faults) :=
    inferInstanceAs (Decidable (_ ∧ _))
  haveI (keyspace : Keyspace) (signedPreKey deviceId : Text) :
      Decidable (Recorded deviceKey identityDevicesKey keyspace signedPreKey deviceId) :=
    inferInstanceAs (Decidable (_ ∧ _))
  inferInstanceAs (Decidable (_ ∨ _))

end Keys

variable {deviceKey identityDevicesKey signedPreKey deviceId : Text}
  {oneTimePreKeys : List Text} {faults : Faults} {keyspace next : Keyspace}

theorem Unchanged.refl (keyspace : Keyspace) :
    Unchanged deviceKey identityDevicesKey keyspace keyspace := ⟨rfl, rfl, rfl⟩

/-- The record, the index and the kept keys after the script. -/
structure ScriptWrites (deviceKey identityDevicesKey signedPreKey deviceId : Text)
    (keyspace next : Keyspace) : Prop where
  signed : Signed deviceKey next signedPreKey
  indexed : deviceId ∈ (next.set? identityDevicesKey).getD ∅
  keys : next.list? (oneTimePreKeysKey deviceKey) = keptKeys deviceKey keyspace signedPreKey
  recorded : Recorded deviceKey identityDevicesKey keyspace signedPreKey deviceId →
    Unchanged deviceKey identityDevicesKey keyspace next

theorem lookup_of_mem_set? {key member : Text}
    (listed : member ∈ (keyspace.set? key).getD ∅) :
    ∃ members, keyspace.lookup key = some (.set members) ∧ member ∈ members := by
  unfold Keyspace.set? at listed
  split at listed
  · simp at listed
  · exact ⟨_, ‹_›, by simpa using listed⟩
  · simp at listed

/-- Adding a member that a set has already changes nothing. -/
theorem lookup_sadd_of_mem {key member : Text} {members : Finset Text}
    (stored : keyspace.lookup key = some (.set members)) (listed : member ∈ members) :
    (keyspace.store key (.set (insert member members))).lookup key = keyspace.lookup key := by
  have present : members ≠ ∅ := Finset.ne_empty_of_mem listed
  rw [Finset.insert_eq_of_mem listed, Keyspace.lookup_store_self, stored]
  simp [Value.isEmpty, present]

theorem registerScript_writes (separate : Separate deviceKey identityDevicesKey)
    {fields : Fields} {members : Finset Text} (isHash : keyspace.hash? deviceKey = some fields)
    (index : keyspace.set? identityDevicesKey = some members) (signedPreKey deviceId : Text) :
    ∃ reply next, registerScript keyspace deviceKey identityDevicesKey
        (oneTimePreKeysKey deviceKey) signedPreKey deviceId = some (reply, next) ∧
      ScriptWrites deviceKey identityDevicesKey signedPreKey deviceId keyspace next := by
  let indexed := keyspace.store identityDevicesKey (.set (insert deviceId members))
  have isHash' : indexed.hash? deviceKey = some fields :=
    (Keyspace.hash?_store_of_ne separate.record_index).trans isHash
  by_cases same : fields.lookup signedPreKeyField = some signedPreKey
  · have signed : Signed deviceKey keyspace signedPreKey := by
      simp [Signed, Keyspace.hget, isHash, same]
    have keys : indexed.lookup (oneTimePreKeysKey deviceKey) =
        keyspace.lookup (oneTimePreKeysKey deviceKey) :=
      Keyspace.lookup_store_of_ne separate.keys_index
    refine ⟨1, indexed, ?_, ?_, ?_, ?_, ?_⟩
    · simp [registerScript, Keyspace.hget, Keyspace.sadd, isHash, index, same, indexed]
    · simp [Signed, Keyspace.hget, isHash', same]
    · simp [indexed]
    · rw [keptKeys, if_pos signed, Keyspace.list?, keys, Keyspace.list?]
    · intro recorded
      refine ⟨Keyspace.lookup_store_of_ne separate.record_index, ?_, keys⟩
      rcases lookup_of_mem_set? recorded.2 with ⟨members', stored, listed⟩
      have equal : members = members' := by
        simpa [Keyspace.set?, stored] using index.symm
      exact lookup_sadd_of_mem (equal ▸ stored) (equal ▸ listed)
  · have unsigned : ¬Signed deviceKey keyspace signedPreKey := by
      simp [Signed, Keyspace.hget, isHash, same]
    have different : some signedPreKey ≠ fields.lookup signedPreKeyField := Ne.symm same
    refine ⟨0, (indexed.store deviceKey (.hash (fields.insert signedPreKeyField
      signedPreKey))).del (oneTimePreKeysKey deviceKey), ?_, ?_, ?_, ?_, ?_⟩
    · simp [registerScript, Keyspace.hget, Keyspace.sadd, Keyspace.hset, isHash, index,
        different, indexed, isHash']
    · simp [Signed, Keyspace.hget, Keyspace.hash?, Keyspace.lookup_del_of_ne separate.keys,
        Keyspace.lookup_store_hash_insert]
    · rw [Keyspace.set?_del_of_ne separate.keys_index.symm,
        Keyspace.set?_store_of_ne separate.record_index.symm]
      simp [indexed]
    · rw [keptKeys, if_neg unsigned, Keyspace.list?_del_self]
    · intro recorded
      exact absurd recorded.1 unsigned

/-- The script fails before it has written anything, or it runs to its end. -/
theorem queuedScript_run (separate : Separate deviceKey identityDevicesKey)
    (keyspace : Keyspace) (signedPreKey deviceId : Text) (faults : Faults) :
    ¬ScriptRuns deviceKey identityDevicesKey keyspace faults ∧
      (queuedScript deviceKey identityDevicesKey signedPreKey deviceId faults).run keyspace =
        (true, keyspace) ∨
    ScriptRuns deviceKey identityDevicesKey keyspace faults ∧ ∃ next,
      (queuedScript deviceKey identityDevicesKey signedPreKey deviceId faults).run keyspace =
        (false, next) ∧
      ScriptWrites deviceKey identityDevicesKey signedPreKey deviceId keyspace next := by
  rcases faults with ⟨_ | _, push⟩
  · cases isHash : keyspace.hash? deviceKey with
    | none =>
        refine Or.inl ⟨by simp [ScriptRuns, isHash], Keyspace.Queued.run_of_none ?_⟩
        simp [registerScript, Keyspace.hget, isHash]
    | some fields =>
        cases index : keyspace.set? identityDevicesKey with
        | none =>
            refine Or.inl ⟨by simp [ScriptRuns, index], Keyspace.Queued.run_of_none ?_⟩
            simp [registerScript, Keyspace.hget, Keyspace.sadd, isHash, index]
        | some members =>
            rcases registerScript_writes separate isHash index signedPreKey deviceId with
              ⟨reply, next, executes, writes⟩
            refine Or.inr ⟨by simp [ScriptRuns, isHash, index], next, ?_, writes⟩
            exact Keyspace.Queued.run_of_some (by simp [executes])
  · exact Or.inl ⟨by simp [ScriptRuns], rfl⟩

theorem queuedPush_run (deviceKey : Text) (keyspace : Keyspace) (oneTimePreKeys : List Text)
    (faults : Faults) :
    ¬PushRuns deviceKey keyspace faults ∧
      (queuedPush deviceKey oneTimePreKeys faults).run keyspace = (true, keyspace) ∨
    PushRuns deviceKey keyspace faults ∧ ∃ items next,
      keyspace.list? (oneTimePreKeysKey deviceKey) = some items ∧
      (queuedPush deviceKey oneTimePreKeys faults).run keyspace = (false, next) ∧
      next = keyspace.store (oneTimePreKeysKey deviceKey)
        (.list (oneTimePreKeys.reverse ++ items)) := by
  rcases faults with ⟨script, _ | _⟩
  · cases isList : keyspace.list? (oneTimePreKeysKey deviceKey) with
    | none =>
        refine Or.inl ⟨by simp [PushRuns, isList], Keyspace.Queued.run_of_none ?_⟩
        simp [Keyspace.lpush, isList]
    | some items =>
        refine Or.inr ⟨by simp [PushRuns, isList], items, _, rfl, ?_, rfl⟩
        exact Keyspace.Queued.run_of_some (by simp [Keyspace.lpush, isList])
  · exact Or.inl ⟨by simp [PushRuns], rfl⟩

/-- A push of at least one key shows in the list. -/
theorem list?_store_push_ne {items : List Text} (hasKeys : oneTimePreKeys ≠ [])
    (isList : keyspace.list? (oneTimePreKeysKey deviceKey) = some items) :
    (keyspace.store (oneTimePreKeysKey deviceKey)
      (.list (oneTimePreKeys.reverse ++ items))).list? (oneTimePreKeysKey deviceKey) ≠
    keyspace.list? (oneTimePreKeysKey deviceKey) := by
  rw [Keyspace.list?_store_self, isList]
  intro equal
  have same := congrArg List.length (Option.some.inj equal)
  have positive := List.length_pos_iff.mpr hasKeys
  simp only [List.length_append, List.length_reverse] at same
  omega

theorem Unchanged.signed (unchanged : Unchanged deviceKey identityDevicesKey keyspace next)
    (signedPreKey : Text) :
    Signed deviceKey next signedPreKey ↔ Signed deviceKey keyspace signedPreKey := by
  rw [Signed, Signed, Keyspace.hget, Keyspace.hash?, unchanged.record, Keyspace.hget,
    Keyspace.hash?]

theorem ScriptWrites.unchanged_iff
    (writes : ScriptWrites deviceKey identityDevicesKey signedPreKey deviceId keyspace next) :
    Unchanged deviceKey identityDevicesKey keyspace next ↔
      Recorded deviceKey identityDevicesKey keyspace signedPreKey deviceId := by
  refine ⟨fun unchanged => ⟨(unchanged.signed signedPreKey).mp writes.signed, ?_⟩,
    writes.recorded⟩
  have indexed := writes.indexed
  rwa [Keyspace.set?, unchanged.index] at indexed

/-- After the script a push succeeds if it would have before, or if the script
has reset the list. -/
theorem ScriptWrites.pushRuns_iff
    (writes : ScriptWrites deviceKey identityDevicesKey signedPreKey deviceId keyspace next) :
    PushRuns deviceKey next faults ↔ PushRuns deviceKey keyspace faults ∨
      faults.push = false ∧ ¬Signed deviceKey keyspace signedPreKey := by
  rw [PushRuns, writes.keys, keptKeys, PushRuns]
  by_cases signed : Signed deviceKey keyspace signedPreKey
  · simp [signed]
  · rw [if_neg signed]
    exact ⟨fun runs => Or.inr ⟨runs.1, signed⟩, fun either => ⟨either.elim And.left And.left, rfl⟩⟩

/-- A failed transaction has changed nothing exactly if it fails whole. -/
theorem transact_failed_iff (separate : Separate deviceKey identityDevicesKey)
    (keyspace : Keyspace) (signedPreKey deviceId : Text) (oneTimePreKeys : List Text)
    (faults : Faults) :
    ((Keyspace.transact (queuedCommands deviceKey identityDevicesKey signedPreKey deviceId
          oneTimePreKeys faults) keyspace).1 = true →
      Unchanged deviceKey identityDevicesKey keyspace
        (Keyspace.transact (queuedCommands deviceKey identityDevicesKey signedPreKey deviceId
          oneTimePreKeys faults) keyspace).2) ↔
    FailsWhole deviceKey identityDevicesKey keyspace signedPreKey deviceId oneTimePreKeys
      faults := by
  by_cases nothing : oneTimePreKeys = []
  · rcases queuedScript_run separate keyspace signedPreKey deviceId faults with
      ⟨stops, run⟩ | ⟨runs, next, run, writes⟩
    · simp [queuedCommands, nothing, Keyspace.transact, run, FailsWhole, Unchanged.refl]
    · simp [queuedCommands, nothing, Keyspace.transact, run, FailsWhole]
  · rcases queuedScript_run separate keyspace signedPreKey deviceId faults with
      ⟨stops, run⟩ | ⟨runs, next, run, writes⟩
    · rcases queuedPush_run deviceKey keyspace oneTimePreKeys faults with
        ⟨pushStops, push⟩ | ⟨pushRuns, items, pushed, isList, push, rfl⟩
      · simp [queuedCommands, nothing, Keyspace.transact, run, push, FailsWhole, stops,
          pushStops, Unchanged.refl]
      · -- The keys are pushed although the script has not run.
        have changed := list?_store_push_ne nothing isList
        have notUnchanged : ¬Unchanged deviceKey identityDevicesKey keyspace
            (keyspace.store (oneTimePreKeysKey deviceKey)
              (.list (oneTimePreKeys.reverse ++ items))) := by
          intro unchanged
          rw [Keyspace.list?, unchanged.keys] at changed
          exact changed rfl
        simp [queuedCommands, nothing, Keyspace.transact, run, push, FailsWhole, stops,
          pushRuns, notUnchanged]
    · rcases queuedPush_run deviceKey next oneTimePreKeys faults with
        ⟨pushStops, push⟩ | ⟨pushRuns, items, pushed, isList, push, rfl⟩
      · rw [writes.pushRuns_iff, not_or] at pushStops
        simp [queuedCommands, nothing, Keyspace.transact, run, push, FailsWhole, runs,
          pushStops, writes.unchanged_iff]
      · have room := writes.pushRuns_iff.mp pushRuns
        simp only [queuedCommands, nothing, if_false, Keyspace.transact, run, push,
          Bool.or_false, Bool.false_eq_true, false_implies, true_iff]
        exact Or.inr (Or.inl ⟨runs, room.imp_right Or.inl⟩)

/-- A transaction that succeeds stores the signed pre-key and pushes the keys
onto those it keeps. -/
theorem transact_succeeded (separate : Separate deviceKey identityDevicesKey)
    (succeeds : Keyspace.transact (queuedCommands deviceKey identityDevicesKey signedPreKey
      deviceId oneTimePreKeys faults) keyspace = (false, next)) :
    Signed deviceKey next signedPreKey ∧ next.list? (oneTimePreKeysKey deviceKey) =
      (keptKeys deviceKey keyspace signedPreKey).map (oneTimePreKeys.reverse ++ ·) := by
  rcases queuedScript_run separate keyspace signedPreKey deviceId faults with
    ⟨stops, run⟩ | ⟨runs, registered, run, writes⟩
  · by_cases nothing : oneTimePreKeys = [] <;>
      simp [queuedCommands, nothing, Keyspace.transact, run] at succeeds
  · by_cases nothing : oneTimePreKeys = []
    · simp [queuedCommands, nothing, Keyspace.transact, run] at succeeds
      subst next
      refine ⟨writes.signed, ?_⟩
      rw [writes.keys, nothing]
      cases keptKeys deviceKey keyspace signedPreKey <;> rfl
    · rcases queuedPush_run deviceKey registered oneTimePreKeys faults with
        ⟨pushStops, push⟩ | ⟨pushRuns, items, pushed, isList, push, rfl⟩
      · simp [queuedCommands, nothing, Keyspace.transact, run, push] at succeeds
      · simp [queuedCommands, nothing, Keyspace.transact, run, push] at succeeds
        subst next
        constructor
        · rw [Signed, Keyspace.hget, Keyspace.hash?_store_of_ne separate.keys]
          exact writes.signed
        · rw [← writes.keys, isList, Keyspace.list?_store_self]
          rfl

/-! ## Calls -/

/-- The transaction, and whether `Exec` returns an error. -/
def registerTransaction (encoding : KeyEncoding IdentityKey DeviceID) (keyspace : Keyspace)
    (registration : DeviceRegistration IdentityKey DeviceID) (faults : Faults) :
    Bool × Keyspace :=
  Keyspace.transact (queuedCommands
    (Redisdb.deviceKey encoding registration.identityKey registration.deviceId)
    (Redisdb.identityDevicesKey encoding registration.identityKey) registration.signedPreKey
    (encoding.deviceString registration.deviceId) registration.oneTimePreKeys faults) keyspace

/-- Without faults the transaction is the call that succeeds or finds values of
other types. -/
theorem registerTransaction_eq_register (encoding : KeyEncoding IdentityKey DeviceID)
    (keyspace next : Keyspace) (registration : DeviceRegistration IdentityKey DeviceID) :
    registerTransaction encoding keyspace registration ⟨false, false⟩ = (false, next) ↔
      register encoding keyspace registration.identityKey registration.deviceId
        registration.signedPreKey registration.oneTimePreKeys = some next := by
  let deviceKey := Redisdb.deviceKey encoding registration.identityKey registration.deviceId
  cases executes : registerScript keyspace deviceKey
      (Redisdb.identityDevicesKey encoding registration.identityKey)
      (oneTimePreKeysKey deviceKey) registration.signedPreKey
      (encoding.deviceString registration.deviceId) with
  | none =>
      by_cases nothing : registration.oneTimePreKeys = [] <;>
        simp [registerTransaction, queuedCommands, nothing, Keyspace.transact, queuedScript,
          Keyspace.Queued.run, register, deviceKey, executes]
  | some result =>
      by_cases nothing : registration.oneTimePreKeys = []
      · simp [registerTransaction, queuedCommands, nothing, Keyspace.transact, queuedScript,
          Keyspace.Queued.run, register, deviceKey, executes]
      · cases pushes : result.2.lpush (oneTimePreKeysKey deviceKey)
            registration.oneTimePreKeys <;>
          simp [registerTransaction, queuedCommands, nothing, Keyspace.transact, queuedScript,
            queuedPush, Keyspace.Queued.run, register, deviceKey, executes, pushes]

/-- The registration's keys, as far as they are new, are stored at most once and
only under the registration's signed pre-key. -/
def StoredOnce (deviceKey signedPreKey : Text) (oneTimePreKeys : List Text)
    (keyspace next : Keyspace) : Prop :=
  ∀ before after key, keyspace.list? (oneTimePreKeysKey deviceKey) = some before →
    next.list? (oneTimePreKeysKey deviceKey) = some after → key ∉ before →
    after.count key ≤ oneTimePreKeys.count key ∧
      (key ∈ after → Signed deviceKey next signedPreKey)

theorem Unchanged.storedOnce
    (unchanged : Unchanged deviceKey identityDevicesKey keyspace next) (signedPreKey : Text)
    (oneTimePreKeys : List Text) :
    StoredOnce deviceKey signedPreKey oneTimePreKeys keyspace next := by
  intro before after key isBefore isAfter new
  have same : after = before := by
    rw [Keyspace.list?, unchanged.keys] at isAfter
    exact Option.some.inj (isAfter.symm.trans isBefore)
  subst after
  exact ⟨by simp [List.count_eq_zero_of_not_mem new], fun listed => absurd listed new⟩

theorem Unchanged.trans {later : Keyspace}
    (first : Unchanged deviceKey identityDevicesKey keyspace next)
    (second : Unchanged deviceKey identityDevicesKey next later) :
    Unchanged deviceKey identityDevicesKey keyspace later where
  record := second.record.trans first.record
  index := second.index.trans first.index
  keys := second.keys.trans first.keys

/-- A call that succeeds after calls that changed nothing stores its keys once. -/
theorem StoredOnce.of_succeeded {current : Keyspace}
    (separate : Separate deviceKey identityDevicesKey)
    (unchanged : Unchanged deviceKey identityDevicesKey keyspace current)
    (succeeds : Keyspace.transact (queuedCommands deviceKey identityDevicesKey signedPreKey
      deviceId oneTimePreKeys faults) current = (false, next)) :
    StoredOnce deviceKey signedPreKey oneTimePreKeys keyspace next := by
  intro before after key isBefore isAfter new
  rcases transact_succeeded separate succeeds with ⟨signed, keys⟩
  refine ⟨?_, fun _ => signed⟩
  rw [isAfter] at keys
  rcases Option.map_eq_some_iff.mp keys.symm with ⟨kept, isKept, rfl⟩
  have notKept : key ∉ kept := by
    unfold keptKeys at isKept
    split at isKept
    · rw [Keyspace.list?, unchanged.keys] at isKept
      exact Option.some.inj (isBefore.symm.trans isKept) ▸ new
    · exact Option.some.inj isKept ▸ List.not_mem_nil
  rw [List.count_append, List.count_reverse, List.count_eq_zero_of_not_mem notKept]
  exact Nat.le_refl _

end Redisdb

/-! ## Retries -/

/-- A client that makes the same call until it succeeds. -/
structure Retries where
  keyspace : Keyspace
  succeeded : Bool
  deriving DecidableEq

namespace Retries

open Redisdb

section Steps

variable (encoding : KeyEncoding IdentityKey DeviceID)
  (registration : DeviceRegistration IdentityKey DeviceID)

def step (retries : Retries) (faults : Faults) : Option Retries :=
  if retries.succeeded then none
  else
    let (failed, keyspace) := registerTransaction encoding retries.keyspace registration faults
    some ⟨keyspace, !failed⟩

/-- The transaction of the next call fails whole if it fails. -/
def FailsWhole (retries : Retries) (faults : Faults) : Prop :=
  Redisdb.FailsWhole (deviceKey encoding registration.identityKey registration.deviceId)
    (identityDevicesKey encoding registration.identityKey) retries.keyspace
    registration.signedPreKey (encoding.deviceString registration.deviceId)
    registration.oneTimePreKeys faults

instance (retries : Retries) (faults : Faults) :
    Decidable (retries.FailsWhole encoding registration faults) :=
  inferInstanceAs (Decidable (Redisdb.FailsWhole ..))

def Unchanged (keyspace next : Keyspace) : Prop :=
  Redisdb.Unchanged (deviceKey encoding registration.identityKey registration.deviceId)
    (identityDevicesKey encoding registration.identityKey) keyspace next

def StoredOnce (keyspace next : Keyspace) : Prop :=
  Redisdb.StoredOnce (deviceKey encoding registration.identityKey registration.deviceId)
    registration.signedPreKey registration.oneTimePreKeys keyspace next

def Reaches (permitted : Retries → Faults → Prop) (keyspace : Keyspace) (retries : Retries) :
    Prop :=
  Transition.Run (step encoding registration) permitted ⟨keyspace, false⟩ retries

end Steps

variable {encoding : KeyEncoding IdentityKey DeviceID}
  {registration : DeviceRegistration IdentityKey DeviceID}

/-- What holds of calls that fail whole until one succeeds. -/
structure Sound (encoding : KeyEncoding IdentityKey DeviceID)
    (registration : DeviceRegistration IdentityKey DeviceID) (keyspace : Keyspace)
    (retries : Retries) : Prop where
  failed : retries.succeeded = false → Unchanged encoding registration keyspace retries.keyspace
  once : StoredOnce encoding registration keyspace retries.keyspace

theorem Sound.step {keyspace : Keyspace} {retries next : Retries} {faults : Faults}
    (sound : Sound encoding registration keyspace retries)
    (whole : retries.FailsWhole encoding registration faults)
    (taken : retries.step encoding registration faults = some next) :
    Sound encoding registration keyspace next := by
  have separate : Separate (deviceKey encoding registration.identityKey registration.deviceId)
      (identityDevicesKey encoding registration.identityKey) := separate_keys _ _
  unfold Retries.step at taken
  split at taken
  · cases taken
  · rename_i running
    have unchanged := sound.failed (Bool.eq_false_of_not_eq_true running)
    have cleanly : (registerTransaction encoding retries.keyspace registration faults).1 = true →
        Unchanged encoding registration retries.keyspace
          (registerTransaction encoding retries.keyspace registration faults).2 :=
      (transact_failed_iff separate retries.keyspace registration.signedPreKey
        (encoding.deviceString registration.deviceId) registration.oneTimePreKeys faults).mpr
        whole
    rcases transacts : registerTransaction encoding retries.keyspace registration faults with
      ⟨_ | _, keyspace'⟩
    · simp only [transacts, Bool.not_false, Option.some.injEq] at taken
      subst next
      exact ⟨fun failed => Bool.noConfusion failed,
        StoredOnce.of_succeeded separate unchanged transacts⟩
    · simp only [transacts, Bool.not_true, Option.some.injEq] at taken
      subst next
      rw [transacts] at cleanly
      have same : Unchanged encoding registration keyspace keyspace' :=
        unchanged.trans (cleanly rfl)
      exact ⟨fun _ => same, same.storedOnce _ _⟩

theorem Sound.of_reaches {keyspace : Keyspace} {retries : Retries}
    (reaches : Reaches encoding registration (FailsWhole encoding registration) keyspace
      retries) : Sound encoding registration keyspace retries := by
  refine Transition.Run.preserves reaches ?_ ?_
  · have same : Unchanged encoding registration keyspace keyspace := .refl keyspace
    exact ⟨fun _ => same, same.storedOnce _ _⟩
  · intro current faults next _ sound whole taken
    exact sound.step whole taken

end Retries

/-- A call that returns an error has changed nothing exactly if its transaction
fails whole. A client whose calls all do so has changed nothing until one
succeeds, and has stored no one-time key twice or under another signed
pre-key. -/
theorem failed_register_changes_nothing (encoding : KeyEncoding IdentityKey DeviceID)
    (registration : DeviceRegistration IdentityKey DeviceID) (keyspace : Keyspace) :
    (∀ faults, ((Redisdb.registerTransaction encoding keyspace registration faults).1 = true →
        Retries.Unchanged encoding registration keyspace
          (Redisdb.registerTransaction encoding keyspace registration faults).2) ↔
      Retries.FailsWhole encoding registration ⟨keyspace, false⟩ faults) ∧
    ∀ retries, Retries.Reaches encoding registration
        (Retries.FailsWhole encoding registration) keyspace retries →
      (retries.succeeded = false →
        Retries.Unchanged encoding registration keyspace retries.keyspace) ∧
      Retries.StoredOnce encoding registration keyspace retries.keyspace := by
  constructor
  · intro faults
    exact Redisdb.transact_failed_iff (Redisdb.separate_keys _ _) keyspace _ _ _ faults
  · intro retries reaches
    have sound := Retries.Sound.of_reaches reaches
    exact ⟨sound.failed, sound.once⟩

/-! ## Registering after a restart -/

/-- A device registers two one-time keys under a new signed pre-key. -/
def renewal : DeviceRegistration Bool Bool :=
  ⟨false, true, "new".toList, ["one".toList, "two".toList]⟩

/-- The device as it was registered before. -/
def signedBefore : Keyspace :=
  (Redisdb.register letterEncoding .empty false true "old".toList ["zero".toList]).getD .empty

def deviceKeys (keyspace : Keyspace) : Option (List Text) :=
  keyspace.list? (Redisdb.oneTimePreKeysKey (Redisdb.deviceKey letterEncoding false true))

def deviceSigned (keyspace : Keyspace) (signedPreKey : Text) : Prop :=
  Redisdb.Signed (Redisdb.deviceKey letterEncoding false true) keyspace signedPreKey

instance (keyspace : Keyspace) (signedPreKey : Text) :
    Decidable (deviceSigned keyspace signedPreKey) :=
  inferInstanceAs (Decidable (Redisdb.Signed _ _ _))

/-- Redis has lost the script. Two calls fail, and the keys are in the list
twice, under the old signed pre-key. -/
theorem lost_script_pushes_keys :
    (Redisdb.registerTransaction letterEncoding signedBefore renewal ⟨true, false⟩).1 = true ∧
    ¬Retries.Unchanged letterEncoding renewal signedBefore
      (Redisdb.registerTransaction letterEncoding signedBefore renewal ⟨true, false⟩).2 ∧
    ∃ retries, Retries.Reaches letterEncoding renewal Transition.anyStep signedBefore retries ∧
      retries.succeeded = false ∧
      deviceKeys retries.keyspace = some ["two".toList, "one".toList, "two".toList,
        "one".toList, "zero".toList] ∧
      deviceSigned retries.keyspace "old".toList := by
  refine ⟨by decide +kernel, ?_, ?_⟩
  · intro unchanged
    have keys := unchanged.keys
    revert keys
    decide +kernel
  · exact Transition.Run.exists_of_execute [⟨true, false⟩, ⟨true, false⟩] (by decide +kernel)

/-- A call of which both commands fail changes nothing, and the next one stores
the keys once. -/
theorem whole_failure_keeps_keys :
    Retries.Unchanged letterEncoding renewal signedBefore
      (Redisdb.registerTransaction letterEncoding signedBefore renewal ⟨true, true⟩).2 ∧
    ∃ retries, Retries.Reaches letterEncoding renewal
        (Retries.FailsWhole letterEncoding renewal) signedBefore retries ∧
      retries.succeeded = true ∧
      deviceKeys retries.keyspace = some ["two".toList, "one".toList] ∧
      Retries.StoredOnce letterEncoding renewal signedBefore retries.keyspace := by
  have facts := failed_register_changes_nothing letterEncoding renewal signedBefore
  have run : ∃ retries, Retries.Reaches letterEncoding renewal
        (Retries.FailsWhole letterEncoding renewal) signedBefore retries ∧
      retries.succeeded = true ∧
      deviceKeys retries.keyspace = some ["two".toList, "one".toList] :=
    Transition.Run.exists_of_execute [⟨true, true⟩, ⟨false, false⟩] (by decide +kernel)
  rcases run with ⟨retries, reaches, succeeded, keys⟩
  exact ⟨(facts.1 ⟨true, true⟩).mpr (by decide +kernel) (by decide +kernel), retries, reaches,
    succeeded, keys, (facts.2 retries reaches).2⟩

end Tassis.Database
