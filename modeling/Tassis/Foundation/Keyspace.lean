import Mathlib.Data.Finset.Card
import Mathlib.Data.List.AList
import Tassis.Foundation.Text

/-! # A typed keyspace

A Redis-style store. Every key holds one value of one type, a command on a key
of another type fails, and a key whose collection becomes empty disappears.
Commands take the store and return the new one, so that a script is a sequence
of commands in the option monad.
-/

namespace Tassis

abbrev Fields := AList fun _ : Text => Text

inductive Value where
  /-- A string that holds a decimal integer. -/
  | integer (n : Int)
  | hash (fields : Fields)
  | set (members : Finset Text)
  | list (items : List Text)
  /-- Any other string. -/
  | string (text : Text)
  /-- Entries with their IDs, oldest first. -/
  | stream (entries : List (Text × Fields))
  deriving DecidableEq

/-- A stream stays when it has become empty. -/
def Value.isEmpty : Value → Bool
  | .integer _ => false
  | .string _ => false
  | .stream _ => false
  | .hash fields => fields.entries.isEmpty
  | .set members => members = ∅
  | .list items => items.isEmpty

structure Keyspace where
  entries : AList fun _ : Text => Value
  deriving DecidableEq

namespace Keyspace

def empty : Keyspace := ⟨∅⟩

def lookup (keyspace : Keyspace) (key : Text) : Option Value :=
  keyspace.entries.lookup key

def store (keyspace : Keyspace) (key : Text) (value : Value) : Keyspace :=
  if value.isEmpty then ⟨keyspace.entries.erase key⟩ else ⟨keyspace.entries.insert key value⟩

/-! ## Typed reads

A missing key reads as an empty collection, a key of another type as a
failure. -/

def integer? (keyspace : Keyspace) (key : Text) : Option (Option Int) :=
  match keyspace.lookup key with
  | none => some none
  | some (.integer n) => some (some n)
  | some _ => none

def hash? (keyspace : Keyspace) (key : Text) : Option Fields :=
  match keyspace.lookup key with
  | none => some ∅
  | some (.hash fields) => some fields
  | some _ => none

def set? (keyspace : Keyspace) (key : Text) : Option (Finset Text) :=
  match keyspace.lookup key with
  | none => some ∅
  | some (.set members) => some members
  | some _ => none

def list? (keyspace : Keyspace) (key : Text) : Option (List Text) :=
  match keyspace.lookup key with
  | none => some []
  | some (.list items) => some items
  | some _ => none

def string? (keyspace : Keyspace) (key : Text) : Option (Option Text) :=
  match keyspace.lookup key with
  | none => some none
  | some (.integer n) => some (some (toString n).toList)
  | some (.string text) => some (some text)
  | some _ => none

def stream? (keyspace : Keyspace) (key : Text) : Option (Option (List (Text × Fields))) :=
  match keyspace.lookup key with
  | none => some none
  | some (.stream entries) => some (some entries)
  | some _ => none

/-! ## Commands -/

/-- `KEYS` with a pattern that ends in its only star. -/
def keysStartingWith (keyspace : Keyspace) (start : Text) : List Text :=
  keyspace.entries.keys.filter fun key => start.isPrefixOf key

def del (keyspace : Keyspace) (key : Text) : Keyspace := ⟨keyspace.entries.erase key⟩

def exists? (keyspace : Keyspace) (key : Text) : Bool := (keyspace.lookup key).isSome

def getset (keyspace : Keyspace) (key : Text) (n : Int) : Option (Option Int × Keyspace) :=
  (keyspace.integer? key).map fun old => (old, keyspace.store key (.integer n))

def incrby (keyspace : Keyspace) (key : Text) (delta : Int) : Option (Int × Keyspace) :=
  (keyspace.integer? key).map fun old =>
    (old.getD 0 + delta, keyspace.store key (.integer (old.getD 0 + delta)))

def hget (keyspace : Keyspace) (key field : Text) : Option (Option Text) :=
  (keyspace.hash? key).map fun fields => fields.lookup field

def hset (keyspace : Keyspace) (key field value : Text) : Option Keyspace :=
  (keyspace.hash? key).map fun fields =>
    keyspace.store key (.hash (fields.insert field value))

def sadd (keyspace : Keyspace) (key member : Text) : Option Keyspace :=
  (keyspace.set? key).map fun members => keyspace.store key (.set (insert member members))

def srem (keyspace : Keyspace) (key member : Text) : Option Keyspace :=
  (keyspace.set? key).map fun members => keyspace.store key (.set (members.erase member))

def scard (keyspace : Keyspace) (key : Text) : Option Nat :=
  (keyspace.set? key).map Finset.card

/-- Push items one after the other onto the head. -/
def lpush (keyspace : Keyspace) (key : Text) (items : List Text) : Option Keyspace :=
  (keyspace.list? key).map fun old => keyspace.store key (.list (items.reverse ++ old))

def lpop (keyspace : Keyspace) (key : Text) : Option (Option Text × Keyspace) :=
  (keyspace.list? key).map fun items =>
    (items.head?, keyspace.store key (.list items.tail))

def llen (keyspace : Keyspace) (key : Text) : Option Nat :=
  (keyspace.list? key).map List.length

/-- A string replaces whatever the key holds. -/
def set (keyspace : Keyspace) (key text : Text) : Keyspace := keyspace.store key (.string text)

/-- Append an entry, under the ID that the store has assigned to it. -/
def xadd (keyspace : Keyspace) (key id : Text) (fields : Fields) : Option Keyspace :=
  (keyspace.stream? key).map fun entries =>
    keyspace.store key (.stream (entries.getD [] ++ [(id, fields)]))

/-- Remove this many of the oldest entries. -/
def xtrim (keyspace : Keyspace) (key : Text) (count : Nat) : Option Keyspace :=
  (keyspace.stream? key).map fun entries =>
    match entries with
    | none => keyspace
    | some entries => keyspace.store key (.stream (entries.drop count))

/-! ## Transactions

The commands queued in a transaction are run one after the other. One that
fails changes nothing, and it neither stops nor undoes the others.
-/

/-- A queued command, and whether it fails whatever it finds. -/
structure Queued where
  faulty : Bool
  command : Keyspace → Option Keyspace

/-- Whether the command fails, and the keyspace after it. -/
def Queued.run (queued : Queued) (keyspace : Keyspace) : Bool × Keyspace :=
  match queued.faulty, queued.command keyspace with
  | false, some next => (false, next)
  | _, _ => (true, keyspace)

/-- Whether a command fails, and the keyspace after all of them. -/
def transact : List Queued → Keyspace → Bool × Keyspace
  | [], keyspace => (false, keyspace)
  | queued :: rest, keyspace =>
      let ran := queued.run keyspace
      let others := transact rest ran.2
      (ran.1 || others.1, others.2)

/-! ## Reads after writes -/

variable {keyspace next : Keyspace} {key other : Text} {value : Value}

theorem Queued.run_of_some {command : Keyspace → Option Keyspace}
    (runs : command keyspace = some next) :
    Queued.run ⟨false, command⟩ keyspace = (false, next) := by
  simp [Queued.run, runs]

theorem Queued.run_of_none {faulty : Bool} {command : Keyspace → Option Keyspace}
    (fails : command keyspace = none) :
    Queued.run ⟨faulty, command⟩ keyspace = (true, keyspace) := by
  cases faulty with
  | false => simp [Queued.run, fails]
  | true => rfl

theorem lookup_del_self : (keyspace.del key).lookup key = none :=
  AList.lookup_erase ..

theorem lookup_del_of_ne (different : key ≠ other) :
    (keyspace.del other).lookup key = keyspace.lookup key :=
  AList.lookup_erase_ne different

theorem lookup_store_self :
    (keyspace.store key value).lookup key = if value.isEmpty then none else some value := by
  unfold store
  split
  · exact AList.lookup_erase ..
  · exact AList.lookup_insert ..

theorem lookup_store_of_ne (different : key ≠ other) :
    (keyspace.store other value).lookup key = keyspace.lookup key := by
  unfold store
  split
  · exact AList.lookup_erase_ne different
  · exact AList.lookup_insert_ne different

theorem lookup_of_sadd {member : Text} (different : key ≠ other)
    (added : keyspace.sadd other member = some next) : next.lookup key = keyspace.lookup key := by
  rcases Option.map_eq_some_iff.mp added with ⟨members, _, rfl⟩
  exact lookup_store_of_ne different

theorem lookup_of_hset {field text : Text} (different : key ≠ other)
    (written : keyspace.hset other field text = some next) :
    next.lookup key = keyspace.lookup key := by
  rcases Option.map_eq_some_iff.mp written with ⟨fields, _, rfl⟩
  exact lookup_store_of_ne different

theorem lookup_of_lpush {items : List Text} (different : key ≠ other)
    (pushed : keyspace.lpush other items = some next) :
    next.lookup key = keyspace.lookup key := by
  rcases Option.map_eq_some_iff.mp pushed with ⟨old, _, rfl⟩
  exact lookup_store_of_ne different

/-- A key that no queued command changes is as before the transaction. -/
theorem lookup_transact {commands : List Queued}
    (frames : ∀ queued ∈ commands, ∀ keyspace next, queued.command keyspace = some next →
      next.lookup key = keyspace.lookup key) :
    (transact commands keyspace).2.lookup key = keyspace.lookup key := by
  induction commands generalizing keyspace with
  | nil => rfl
  | cons queued rest induction =>
      have later := @induction (queued.run keyspace).2 fun other member =>
        frames other (List.mem_cons_of_mem _ member)
      have first : (queued.run keyspace).2.lookup key = keyspace.lookup key := by
        unfold Queued.run
        split
        · exact frames queued List.mem_cons_self keyspace _ ‹_›
        · rfl
      exact later.trans first

@[simp] theorem integer?_store_self (n : Int) :
    (keyspace.store key (.integer n)).integer? key = some (some n) := by
  simp [integer?, lookup_store_self, Value.isEmpty]

@[simp] theorem hash?_store_self (fields : Fields) :
    (keyspace.store key (.hash fields)).hash? key = some fields := by
  by_cases nothing : fields.entries = []
  · have equal : fields = ∅ := AList.ext nothing
    simp [hash?, lookup_store_self, Value.isEmpty, equal]
  · simp [hash?, lookup_store_self, Value.isEmpty, nothing]

@[simp] theorem set?_store_self (members : Finset Text) :
    (keyspace.store key (.set members)).set? key = some members := by
  by_cases nothing : members = ∅
  · simp [set?, lookup_store_self, Value.isEmpty, nothing]
  · simp [set?, lookup_store_self, Value.isEmpty, nothing]

@[simp] theorem list?_store_self (items : List Text) :
    (keyspace.store key (.list items)).list? key = some items := by
  cases items with
  | nil => simp [list?, lookup_store_self, Value.isEmpty]
  | cons item rest => simp [list?, lookup_store_self, Value.isEmpty]

theorem integer?_store_of_ne (different : key ≠ other) :
    (keyspace.store other value).integer? key = keyspace.integer? key := by
  simp only [integer?, lookup_store_of_ne different]

theorem hash?_store_of_ne (different : key ≠ other) :
    (keyspace.store other value).hash? key = keyspace.hash? key := by
  simp only [hash?, lookup_store_of_ne different]

theorem set?_store_of_ne (different : key ≠ other) :
    (keyspace.store other value).set? key = keyspace.set? key := by
  simp only [set?, lookup_store_of_ne different]

theorem set?_del_of_ne (different : key ≠ other) :
    (keyspace.del other).set? key = keyspace.set? key := by
  simp only [set?, lookup_del_of_ne different]

@[simp] theorem set?_del_self : (keyspace.del key).set? key = some ∅ := by
  simp [set?, lookup_del_self]

theorem lookup_store_hash_insert (fields : Fields) (field text : Text) :
    (keyspace.store key (.hash (fields.insert field text))).lookup key =
      some (.hash (fields.insert field text)) := by
  simp [lookup_store_self, Value.isEmpty, AList.entries_insert]

@[simp] theorem list?_del_self : (keyspace.del key).list? key = some [] := by
  simp [list?, lookup_del_self]

end Keyspace

end Tassis
