import Mathlib.Data.List.Nodup
import Tassis.Foundation.Transition

/-! # Custody

Numbered tokens that are issued into a table, taken from there by holders, and
handed in at the end. At any time a token is in one place at most, so that none
is handed in twice.
-/

namespace Tassis

universe u v

variable {Key : Type u} {Holder : Type v}

/-- The tokens in the table, those that holders have, and those handed in. All
numbers from `fresh` on have not been issued. -/
structure Custody (table : Key → Option Nat) (held : Holder → Option Nat)
    (handedIn : List Nat) (fresh : Nat) : Prop where
  tabled : ∀ key token, table key = some token →
    token < fresh ∧ token ∉ handedIn ∧ ∀ holder, held holder ≠ some token
  tabledOnce : ∀ key key' token, table key = some token → table key' = some token → key = key'
  holds : ∀ holder token, held holder = some token → token < fresh ∧ token ∉ handedIn
  holdsAlone : ∀ holder holder' token, held holder = some token →
    held holder' = some token → holder = holder'
  issued : ∀ token, token ∈ handedIn → token < fresh
  once : handedIn.Nodup

namespace Custody

variable {table : Key → Option Nat} {held : Holder → Option Nat} {handedIn : List Nat}
  {fresh : Nat}

theorem empty : Custody (fun _ : Key => none) (fun _ : Holder => none) [] 0 := by
  constructor <;> simp

theorem fresh_notMem (custody : Custody table held handedIn fresh) : fresh ∉ handedIn :=
  fun member => Nat.lt_irrefl _ (custody.issued fresh member)

theorem nodup_concat {tokens : List Nat} {token : Nat} (once : tokens.Nodup)
    (new : token ∉ tokens) : (tokens ++ [token]).Nodup := by
  rw [List.nodup_append_comm]
  exact List.nodup_cons.mpr ⟨new, once⟩

/-- A new token is put into the table, perhaps in place of another one. -/
theorem issue [DecidableEq Key] (custody : Custody table held handedIn fresh) (key : Key) :
    Custody (Function.update table key (some fresh)) held handedIn (fresh + 1) where
  tabled other token found := by
    rcases of_update_some found with ⟨rfl, rfl⟩ | ⟨_, earlier⟩
    · refine ⟨Nat.lt_succ_self _, custody.fresh_notMem, ?_⟩
      intro holder isHeld
      exact Nat.lt_irrefl _ (custody.holds holder _ isHeld).1
    · have known := custody.tabled other token earlier
      exact ⟨Nat.lt_succ_of_lt known.1, known.2⟩
  tabledOnce first second token found found' := by
    have unused : ∀ other, table other ≠ some fresh := fun other earlier =>
      Nat.lt_irrefl _ (custody.tabled other _ earlier).1
    rcases of_update_some found with ⟨isFirst, new⟩ | ⟨_, earlier⟩ <;>
      rcases of_update_some found' with ⟨isSecond, new'⟩ | ⟨_, earlier'⟩
    · rw [isFirst, isSecond]
    · exact absurd (new ▸ earlier') (unused second)
    · exact absurd (new' ▸ earlier) (unused first)
    · exact custody.tabledOnce first second token earlier earlier'
  holds holder token isHeld := by
    have known := custody.holds holder token isHeld
    exact ⟨Nat.lt_succ_of_lt known.1, known.2⟩
  holdsAlone := custody.holdsAlone
  issued token member := Nat.lt_succ_of_lt (custody.issued token member)
  once := custody.once

/-- A new token is handed in at once. -/
theorem issueHandedIn (custody : Custody table held handedIn fresh) :
    Custody table held (handedIn ++ [fresh]) (fresh + 1) where
  tabled key token found := by
    have known := custody.tabled key token found
    refine ⟨Nat.lt_succ_of_lt known.1, ?_, known.2.2⟩
    simp [known.2.1, Nat.ne_of_lt known.1]
  tabledOnce := custody.tabledOnce
  holds holder token isHeld := by
    have known := custody.holds holder token isHeld
    refine ⟨Nat.lt_succ_of_lt known.1, ?_⟩
    simp [known.2, Nat.ne_of_lt known.1]
  holdsAlone := custody.holdsAlone
  issued token member := by
    rcases List.mem_append.mp member with earlier | new
    · exact Nat.lt_succ_of_lt (custody.issued token earlier)
    · rw [List.mem_singleton.mp new]
      exact Nat.lt_succ_self _
  once := nodup_concat custody.once custody.fresh_notMem

/-- A holder takes a token from the table. -/
theorem take [DecidableEq Key] [DecidableEq Holder]
    (custody : Custody table held handedIn fresh) {key : Key} {token : Nat}
    (found : table key = some token) (holder : Holder) :
    Custody (Function.update table key none) (Function.update held holder (some token))
      handedIn fresh where
  tabled other token' found' := by
    have earlier := of_update_none found'
    have known := custody.tabled other token' earlier.2
    refine ⟨known.1, known.2.1, ?_⟩
    intro holder' isHeld
    rcases of_update_some isHeld with ⟨_, rfl⟩ | ⟨_, isHeld⟩
    · exact earlier.1 (custody.tabledOnce other key token' earlier.2 found)
    · exact known.2.2 holder' isHeld
  tabledOnce first second token' found' found'' :=
    custody.tabledOnce first second token' (of_update_none found').2 (of_update_none found'').2
  holds holder' token' isHeld := by
    rcases of_update_some isHeld with ⟨_, rfl⟩ | ⟨_, isHeld⟩
    · have known := custody.tabled key token' found
      exact ⟨known.1, known.2.1⟩
    · exact custody.holds holder' token' isHeld
  holdsAlone first second token' isHeld isHeld' := by
    have unheld := (custody.tabled key token found).2.2
    rcases of_update_some isHeld with ⟨isFirst, new⟩ | ⟨_, earlier⟩ <;>
      rcases of_update_some isHeld' with ⟨isSecond, new'⟩ | ⟨_, earlier'⟩
    · rw [isFirst, isSecond]
    · exact absurd (new ▸ earlier') (unheld second)
    · exact absurd (new' ▸ earlier) (unheld first)
    · exact custody.holdsAlone first second token' earlier earlier'
  issued := custody.issued
  once := custody.once

/-- A holder hands its token in. -/
theorem handIn [DecidableEq Holder] (custody : Custody table held handedIn fresh)
    {holder : Holder} {token : Nat} (isHeld : held holder = some token) :
    Custody table (Function.update held holder none) (handedIn ++ [token]) fresh where
  tabled key token' found := by
    have known := custody.tabled key token' found
    have different : token' ≠ token := fun same => known.2.2 holder (same ▸ isHeld)
    refine ⟨known.1, by simp [known.2.1, different], ?_⟩
    intro holder' isHeld'
    exact known.2.2 holder' (of_update_none isHeld').2
  tabledOnce := custody.tabledOnce
  holds holder' token' isHeld' := by
    have earlier := of_update_none isHeld'
    have known := custody.holds holder' token' earlier.2
    have different : token' ≠ token := fun same =>
      earlier.1 (custody.holdsAlone holder' holder token' earlier.2 (same ▸ isHeld))
    exact ⟨known.1, by simp [known.2, different]⟩
  holdsAlone first second token' isHeld' isHeld'' :=
    custody.holdsAlone first second token' (of_update_none isHeld').2
      (of_update_none isHeld'').2
  issued token' member := by
    rcases List.mem_append.mp member with earlier | new
    · exact custody.issued token' earlier
    · rw [List.mem_singleton.mp new]
      exact (custody.holds holder token isHeld).1
  once := nodup_concat custody.once (custody.holds holder token isHeld).2

end Custody

end Tassis
