import Mathlib.Logic.Relation
import Tassis.Foundation.Keyspace

/-! # Writing to a keyspace

A script is a sequence of writes. Which values it may write at which keys is all
that the users of other keys need to know about it.
-/

namespace Tassis

/-- The type of a value. Commands for another type fail. -/
inductive Shape where
  | integer
  | hash
  | set
  | list
  | string
  | stream
  deriving DecidableEq, Repr

def Value.shape : Value → Shape
  | .integer _ => .integer
  | .hash _ => .hash
  | .set _ => .set
  | .list _ => .list
  | .string _ => .string
  | .stream _ => .stream

namespace Keyspace

variable {allows : Text → Value → Prop} {keyspace next : Keyspace} {key : Text}
  {value : Value}

/-- One write: a value that is allowed at its key, or the removal of such a
key. -/
def Write (allows : Text → Value → Prop) (keyspace next : Keyspace) : Prop :=
  ∃ key value, allows key value ∧ (next = keyspace.store key value ∨ next = keyspace.del key)

def Writes (allows : Text → Value → Prop) : Keyspace → Keyspace → Prop :=
  Relation.ReflTransGen (Write allows)

namespace Writes

theorem refl (keyspace : Keyspace) : Writes allows keyspace keyspace :=
  Relation.ReflTransGen.refl

theorem trans {middle : Keyspace} (earlier : Writes allows keyspace middle)
    (later : Writes allows middle next) : Writes allows keyspace next :=
  Relation.ReflTransGen.trans earlier later

/-! ## What is found afterwards -/

theorem lookup_of_not_allowed (writes : Writes allows keyspace next)
    (untouched : ∀ value, ¬allows key value) : next.lookup key = keyspace.lookup key := by
  induction writes with
  | refl => rfl
  | tail _ write same =>
      rcases write with ⟨other, value, allowed, stored | deleted⟩
      · have different : key ≠ other := fun equal => untouched value (equal ▸ allowed)
        rw [stored, lookup_store_of_ne different, same]
      · have different : key ≠ other := fun equal => untouched value (equal ▸ allowed)
        rw [deleted, lookup_del_of_ne different, same]

theorem lookup_cases (writes : Writes allows keyspace next)
    (found : next.lookup key = some value) :
    keyspace.lookup key = some value ∨ allows key value := by
  induction writes with
  | refl => exact Or.inl found
  | tail _ write earlier =>
      rcases write with ⟨other, written, allowed, stored | deleted⟩
      · by_cases same : key = other
        · subst same
          rw [stored, lookup_store_self] at found
          split at found
          · cases found
          · cases found
            exact Or.inr allowed
        · rw [stored, lookup_store_of_ne same] at found
          exact earlier found
      · by_cases same : key = other
        · subst same
          rw [deleted, lookup_del_self] at found
          cases found
        · rw [deleted, lookup_del_of_ne same] at found
          exact earlier found

/-! ## Commands as writes -/

theorem store (allowed : allows key value) : Writes allows keyspace (keyspace.store key value) :=
  .single ⟨key, value, allowed, Or.inl rfl⟩

theorem del (allowed : allows key value) : Writes allows keyspace (keyspace.del key) :=
  .single ⟨key, value, allowed, Or.inr rfl⟩

theorem getset {n : Int} {old : Option Int} (allowed : ∀ n, allows key (.integer n))
    (replaced : keyspace.getset key n = some (old, next)) : Writes allows keyspace next := by
  rcases Option.map_eq_some_iff.mp replaced with ⟨_, _, equal⟩
  cases equal
  exact store (allowed n)

theorem incrby {delta sum : Int} (allowed : ∀ n, allows key (.integer n))
    (added : keyspace.incrby key delta = some (sum, next)) : Writes allows keyspace next := by
  rcases Option.map_eq_some_iff.mp added with ⟨_, _, equal⟩
  cases equal
  exact store (allowed _)

theorem hset {field text : Text} (allowed : ∀ fields, allows key (.hash fields))
    (written : keyspace.hset key field text = some next) : Writes allows keyspace next := by
  rcases Option.map_eq_some_iff.mp written with ⟨_, _, rfl⟩
  exact store (allowed _)

theorem sadd {member : Text} (allowed : ∀ members, allows key (.set members))
    (added : keyspace.sadd key member = some next) : Writes allows keyspace next := by
  rcases Option.map_eq_some_iff.mp added with ⟨_, _, rfl⟩
  exact store (allowed _)

theorem srem {member : Text} (allowed : ∀ members, allows key (.set members))
    (removed : keyspace.srem key member = some next) : Writes allows keyspace next := by
  rcases Option.map_eq_some_iff.mp removed with ⟨_, _, rfl⟩
  exact store (allowed _)

theorem lpush {items : List Text} (allowed : ∀ items, allows key (.list items))
    (pushed : keyspace.lpush key items = some next) : Writes allows keyspace next := by
  rcases Option.map_eq_some_iff.mp pushed with ⟨_, _, rfl⟩
  exact store (allowed _)

theorem lpop {item : Option Text} (allowed : ∀ items, allows key (.list items))
    (popped : keyspace.lpop key = some (item, next)) : Writes allows keyspace next := by
  rcases Option.map_eq_some_iff.mp popped with ⟨_, _, equal⟩
  cases equal
  exact store (allowed _)

theorem xadd {id : Text} {fields : Fields} (allowed : ∀ entries, allows key (.stream entries))
    (added : keyspace.xadd key id fields = some next) : Writes allows keyspace next := by
  rcases Option.map_eq_some_iff.mp added with ⟨_, _, rfl⟩
  exact store (allowed _)

theorem xtrim {count : Nat} (allowed : ∀ entries, allows key (.stream entries))
    (trimmed : keyspace.xtrim key count = some next) : Writes allows keyspace next := by
  rcases Option.map_eq_some_iff.mp trimmed with ⟨entries, _, equal⟩
  cases entries with
  | none =>
      cases equal
      exact refl keyspace
  | some entries =>
      cases equal
      exact store (allowed _)

end Writes

end Keyspace

end Tassis
