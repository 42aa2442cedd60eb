import Mathlib.Logic.Function.Basic
import Tassis.Foundation.Transition

/-! # Tables of unacknowledged items

Agents number items from a common counter, enter them into a table under their
numbers and then hand them over. A single worker takes acknowledgements that
name a number, looks it up, tries to settle the item and deletes the entry if
that has succeeded. Lookup, settlement and deletion are steps of their own, and
so are drawing a number, entering and handing over.
-/

namespace Tassis

/-- What an agent has in hand. -/
inductive Hand (Item : Type) where
  | empty
  | drawn (item : Item) (number : Nat)
  | entered (item : Item) (number : Nat)
  deriving DecidableEq, Repr

def Hand.number {Item : Type} : Hand Item → Option Nat
  | .empty => none
  | .drawn _ number | .entered _ number => some number

/-- What the worker is doing. -/
inductive Worker (Item : Type) where
  | idle
  | looking (number : Nat)
  | settling (item : Item) (number : Nat)
  | deleting (item : Item) (number : Nat)
  deriving DecidableEq, Repr

structure AckTable (Agent Item : Type) where
  counter : Nat
  hands : Agent → Hand Item
  entries : Nat → Option Item
  worker : Worker Item
  /-- History: the items that were handed over, with their numbers. -/
  delivered : List (Nat × Item)
  /-- History: the items that were settled. -/
  settled : List (Nat × Item)

namespace AckTable

variable {Agent Item : Type}

def initial : AckTable Agent Item := ⟨0, fun _ => .empty, fun _ => none, .idle, [], []⟩

/-! ## What holds of a table -/

/-- The number stands for this item: it was handed over under the number, or is
about to be. -/
def Bears (table : AckTable Agent Item) (number : Nat) (item : Item) : Prop :=
  (number, item) ∈ table.delivered ∨ ∃ agent, table.hands agent = .entered item number

/-- No item has been settled under this number. -/
def Unsettled (table : AckTable Agent Item) (number : Nat) : Prop :=
  ∀ item, (number, item) ∉ table.settled

structure Sound (table : AckTable Agent Item) : Prop where
  counted : ∀ agent number, (table.hands agent).number = some number → number ≤ table.counter
  deliveredCounted : ∀ number item, (number, item) ∈ table.delivered → number ≤ table.counter
  distinct : ∀ agent agent' number, (table.hands agent).number = some number →
    (table.hands agent').number = some number → agent = agent'
  undelivered : ∀ agent number item, (table.hands agent).number = some number →
    (number, item) ∉ table.delivered
  fresh : ∀ agent item number, table.hands agent = .drawn item number →
    table.entries number = none ∧ table.Unsettled number
  unique : ∀ number item item', (number, item) ∈ table.delivered →
    (number, item') ∈ table.delivered → item = item'
  entry : ∀ number item, table.entries number = some item → table.Bears number item
  settledBears : ∀ number item, (number, item) ∈ table.settled → table.Bears number item
  available : ∀ number item, table.Bears number item →
    table.entries number = some item ∨ (number, item) ∈ table.settled
  removed : ∀ number item, (number, item) ∈ table.settled →
    table.entries number = none ∨ table.worker = .deleting item number
  settling : ∀ number item, table.worker = .settling item number →
    table.entries number = some item
  deleting : ∀ number item, table.worker = .deleting item number →
    (number, item) ∈ table.settled ∧ table.entries number = some item

variable {table : AckTable Agent Item} {agent : Agent} {item : Item} {number : Nat}

theorem Sound.initial : Sound (initial : AckTable Agent Item) := by
  constructor <;> simp [AckTable.initial, Hand.number, Bears]

section Sound

variable (sound : Sound table)

include sound

theorem Sound.bears_counted (bears : table.Bears number item) :
    number ≤ table.counter := by
  rcases bears with delivered | ⟨agent, entered⟩
  · exact sound.deliveredCounted number item delivered
  · exact sound.counted agent number (by rw [entered]; rfl)

/-- A number stands for one item. -/
theorem Sound.bears_unique {item' : Item} (bears : table.Bears number item)
    (bears' : table.Bears number item') : item = item' := by
  rcases bears with delivered | ⟨agent, entered⟩ <;>
    rcases bears' with delivered' | ⟨agent', entered'⟩
  · exact sound.unique number item item' delivered delivered'
  · exact absurd delivered (sound.undelivered agent' number item (by rw [entered']; rfl))
  · exact absurd delivered' (sound.undelivered agent number item' (by rw [entered]; rfl))
  · have same := sound.distinct agent agent' number (by rw [entered]; rfl) (by rw [entered']; rfl)
    subst same
    cases entered.symm.trans entered'
    rfl

/-- A number above the counter is not in use. -/
theorem Sound.unused (above : table.counter < number) :
    table.entries number = none ∧ table.Unsettled number := by
  constructor
  · cases stored : table.entries number with
    | none => rfl
    | some item =>
        have counted := sound.bears_counted (sound.entry number item stored)
        omega
  · intro item settled
    have counted := sound.bears_counted (sound.settledBears number item settled)
    omega

/-- What the worker is about to settle has not been settled. -/
theorem Sound.unsettled (settling : table.worker = .settling item number) :
    table.Unsettled number := by
  intro item' settled
  rcases sound.removed number item' settled with absent | deleting
  · rw [sound.settling number item settling] at absent
    cases absent
  · cases settling.symm.trans deleting

/-- The worker has nothing in hand, or an entry that is not settled. -/
theorem Sound.of_worker {worker : Worker Item}
    (before : ∀ number item, table.worker ≠ .deleting item number)
    (after : ∀ number item, worker ≠ .deleting item number)
    (settling : ∀ number item, worker = .settling item number →
      table.entries number = some item) :
    Sound { table with worker } := by
  refine ⟨sound.counted, sound.deliveredCounted, sound.distinct, sound.undelivered, sound.fresh,
    sound.unique, sound.entry, sound.settledBears, sound.available, ?_, settling, ?_⟩
  · intro number item settled
    exact (sound.removed number item settled).imp_right fun deleting =>
      absurd deleting (before number item)
  · intro number item deleting
    exact absurd deleting (after number item)

theorem Sound.skip : Sound { table with counter := table.counter + 1 } :=
  ⟨fun agent number holds => Nat.le_succ_of_le (sound.counted agent number holds),
    fun number item delivered => Nat.le_succ_of_le (sound.deliveredCounted number item delivered),
    sound.distinct, sound.undelivered, sound.fresh, sound.unique, sound.entry,
    sound.settledBears, sound.available, sound.removed, sound.settling, sound.deleting⟩

theorem Sound.settle (settling : table.worker = .settling item number) :
    Sound { table with
      worker := .deleting item number
      settled := (number, item) :: table.settled } := by
  have stored := sound.settling number item settling
  refine ⟨sound.counted, sound.deliveredCounted, sound.distinct, sound.undelivered, ?_,
    sound.unique, sound.entry, ?_, ?_, ?_, by simp, ?_⟩
  · intro agent item' number' drawn
    rcases sound.fresh agent item' number' drawn with ⟨absent, unsettled⟩
    refine ⟨absent, ?_⟩
    intro item'' settled
    rcases List.mem_cons.mp settled with same | settled
    · cases same
      rw [absent] at stored
      cases stored
    · exact unsettled item'' settled
  · intro number' item' settled
    rcases List.mem_cons.mp settled with same | settled
    · cases same
      exact sound.entry number item stored
    · exact sound.settledBears number' item' settled
  · intro number' item' bears
    exact (sound.available number' item' bears).imp_right (List.mem_cons_of_mem _)
  · intro number' item' settled
    rcases List.mem_cons.mp settled with same | settled
    · cases same
      exact Or.inr rfl
    · refine Or.inl ((sound.removed number' item' settled).resolve_right ?_)
      rw [settling]
      simp
  · rintro number' item' deleting
    cases deleting
    exact ⟨List.mem_cons_self, stored⟩

theorem Sound.delete (deleting : table.worker = .deleting item number) :
    Sound { table with
      worker := .idle
      entries := Function.update table.entries number none } := by
  rcases sound.deleting number item deleting with ⟨settled, _⟩
  refine ⟨sound.counted, sound.deliveredCounted, sound.distinct, sound.undelivered, ?_,
    sound.unique, ?_, sound.settledBears, ?_, ?_, by simp, by simp⟩
  · intro agent item' number' drawn
    rcases sound.fresh agent item' number' drawn with ⟨absent, unsettled⟩
    have different : number' ≠ number := fun same => unsettled item (same ▸ settled)
    exact ⟨(Function.update_of_ne different _ _).trans absent, unsettled⟩
  · intro number' item' stored
    exact sound.entry number' item' (of_update_none stored).2
  · intro number' item' bears
    by_cases same : number' = number
    · subst same
      rw [sound.bears_unique bears (sound.settledBears _ item settled)]
      exact Or.inr settled
    · exact (sound.available number' item' bears).imp_left
        ((Function.update_of_ne same _ _).trans ·)
  · intro number' item' settled'
    by_cases same : number' = number
    · rw [same]
      exact Or.inl (Function.update_self ..)
    · rcases sound.removed number' item' settled' with absent | deleting'
      · exact Or.inl ((Function.update_of_ne same _ _).trans absent)
      · cases deleting.symm.trans deleting'
        exact absurd rfl same

/-- An item that is entered overwrites no other. -/
theorem Sound.entries_enter (drawn : table.hands agent = .drawn item number) {number' : Nat}
    {item' : Item} (stored : table.entries number' = some item') :
    Function.update table.entries number (some item) number' = some item' := by
  have different : number' ≠ number := by
    rintro rfl
    rw [(sound.fresh agent item number' drawn).1] at stored
    cases stored
  exact (Function.update_of_ne different _ _).trans stored

end Sound

/-! ## Steps -/

inductive Action (Agent Item : Type) where
  | draw (agent : Agent) (item : Item)
  /-- Someone else draws a number. -/
  | skip
  | enter (agent : Agent)
  | deliver (agent : Agent)
  | request (number : Nat)
  | look
  | settle (succeeds : Bool)
  | delete
  deriving DecidableEq, Repr

/-- What the worker does with an entry that it has looked up. -/
def found (number : Nat) : Option Item → Worker Item
  | some item => .settling item number
  | none => .idle

section Steps

variable [DecidableEq Agent]

def step (table : AckTable Agent Item) :
    Action Agent Item → Option (AckTable Agent Item)
  | .draw agent item =>
      match table.hands agent with
      | .empty => some { table with
          counter := table.counter + 1
          hands := Function.update table.hands agent (.drawn item (table.counter + 1)) }
      | _ => none
  | .skip => some { table with counter := table.counter + 1 }
  | .enter agent =>
      match table.hands agent with
      | .drawn item number => some { table with
          hands := Function.update table.hands agent (.entered item number)
          entries := Function.update table.entries number (some item) }
      | _ => none
  | .deliver agent =>
      match table.hands agent with
      | .entered item number => some { table with
          hands := Function.update table.hands agent .empty
          delivered := (number, item) :: table.delivered }
      | _ => none
  | .request number =>
      match table.worker with
      | .idle => some { table with worker := .looking number }
      | _ => none
  | .look =>
      match table.worker with
      | .looking number => some { table with worker := found number (table.entries number) }
      | _ => none
  | .settle succeeds =>
      match table.worker with
      | .settling item number => some (if succeeds then { table with
          worker := .deleting item number
          settled := (number, item) :: table.settled } else { table with worker := .idle })
      | _ => none
  | .delete =>
      match table.worker with
      | .deleting _ number => some { table with
          worker := .idle
          entries := Function.update table.entries number none }
      | _ => none

def Reaches (table : AckTable Agent Item) : Prop :=
  Transition.Run step Transition.anyStep initial table

/-- What a step does to the table. -/
inductive Effect (table : AckTable Agent Item) : Action Agent Item → AckTable Agent Item → Prop
    where
  | draw (agent : Agent) (item : Item) (empty : table.hands agent = .empty) :
      Effect table (.draw agent item) { table with
        counter := table.counter + 1
        hands := Function.update table.hands agent (.drawn item (table.counter + 1)) }
  | skip : Effect table .skip { table with counter := table.counter + 1 }
  | enter (agent : Agent) {item : Item} {number : Nat}
      (drawn : table.hands agent = .drawn item number) :
      Effect table (.enter agent) { table with
        hands := Function.update table.hands agent (.entered item number)
        entries := Function.update table.entries number (some item) }
  | deliver (agent : Agent) {item : Item} {number : Nat}
      (entered : table.hands agent = .entered item number) :
      Effect table (.deliver agent) { table with
        hands := Function.update table.hands agent .empty
        delivered := (number, item) :: table.delivered }
  | request (number : Nat) (idle : table.worker = .idle) :
      Effect table (.request number) { table with worker := .looking number }
  | look {number : Nat} (looking : table.worker = .looking number) :
      Effect table .look { table with worker := found number (table.entries number) }
  | settle {item : Item} {number : Nat} (settling : table.worker = .settling item number) :
      Effect table (.settle true) { table with
        worker := .deleting item number
        settled := (number, item) :: table.settled }
  | fail {item : Item} {number : Nat} (settling : table.worker = .settling item number) :
      Effect table (.settle false) { table with worker := .idle }
  | delete {item : Item} {number : Nat} (deleting : table.worker = .deleting item number) :
      Effect table .delete { table with
        worker := .idle
        entries := Function.update table.entries number none }

theorem effect_of_step {action : Action Agent Item} {next : AckTable Agent Item}
    (taken : table.step action = some next) : Effect table action next := by
  cases action with
  | skip =>
      cases taken
      exact .skip
  | settle succeeds =>
      simp only [step] at taken
      split at taken
      · rename_i settling
        cases succeeds with
        | true =>
            cases taken
            exact .settle settling
        | false =>
            cases taken
            exact .fail settling
      · cases taken
  | draw | enter | deliver | request | look | delete =>
      simp only [step] at taken
      split at taken
      · cases taken
        constructor
        assumption
      · cases taken

theorem number_update {hand : Hand Item} {other : Agent}
    (holds : (Function.update table.hands agent hand other).number = some number) :
    other = agent ∧ hand.number = some number ∨
      other ≠ agent ∧ (table.hands other).number = some number := by
  by_cases same : other = agent
  · rw [same, Function.update_self] at holds
    exact Or.inl ⟨same, holds⟩
  · rw [Function.update_of_ne same] at holds
    exact Or.inr ⟨same, holds⟩

/-- A hand without an entered item is replaced by another. -/
theorem entered_update_iff {hand : Hand Item}
    (before : ∀ item number, table.hands agent ≠ .entered item number)
    (after : ∀ item number, hand ≠ .entered item number) :
    (∃ other, Function.update table.hands agent hand other = .entered item number) ↔
      ∃ other, table.hands other = .entered item number := by
  constructor
  · rintro ⟨other, entered⟩
    by_cases same : other = agent
    · rw [same, Function.update_self] at entered
      exact absurd entered (after item number)
    · rw [Function.update_of_ne same] at entered
      exact ⟨other, entered⟩
  · rintro ⟨other, entered⟩
    have different : other ≠ agent := fun same => before item number (same ▸ entered)
    exact ⟨other, (Function.update_of_ne different _ _).trans entered⟩

theorem Sound.draw (sound : Sound table) (empty : table.hands agent = .empty) (item : Item) :
    Sound { table with
      counter := table.counter + 1
      hands := Function.update table.hands agent (.drawn item (table.counter + 1)) } := by
  have same : ∀ number item', (∃ other, Function.update table.hands agent
      (.drawn item (table.counter + 1)) other = .entered item' number) ↔
        ∃ other, table.hands other = .entered item' number := fun _ _ =>
    entered_update_iff (by simp [empty]) (by simp)
  have unused := sound.unused (Nat.lt_succ_self table.counter)
  refine ⟨?_, ?_, ?_, ?_, ?_, sound.unique, ?_, ?_, ?_, sound.removed, sound.settling,
    sound.deleting⟩
  · intro other number holds
    rcases number_update holds with ⟨_, drawn⟩ | ⟨_, holds⟩
    · cases drawn
      exact Nat.le_refl _
    · exact Nat.le_succ_of_le (sound.counted other number holds)
  · intro number item' delivered
    exact Nat.le_succ_of_le (sound.deliveredCounted number item' delivered)
  · intro other other' number holds holds'
    rcases number_update holds with ⟨own, drawn⟩ | ⟨_, held⟩ <;>
      rcases number_update holds' with ⟨own', drawn'⟩ | ⟨_, held'⟩
    · rw [own, own']
    · cases drawn
      have counted := sound.counted other' _ held'
      omega
    · cases drawn'
      have counted := sound.counted other _ held
      omega
    · exact sound.distinct other other' number held held'
  · intro other number item' holds delivered
    rcases number_update holds with ⟨_, drawn⟩ | ⟨_, holds⟩
    · cases drawn
      have counted := sound.deliveredCounted _ item' delivered
      omega
    · exact sound.undelivered other number item' holds delivered
  · intro other item' number drawn
    by_cases own : other = agent
    · rw [own] at drawn
      cases (Function.update_self ..).symm.trans drawn
      exact unused
    · exact sound.fresh other item' number ((Function.update_of_ne own _ _).symm.trans drawn)
  · intro number item' stored
    exact (sound.entry number item' stored).imp_right (same number item').mpr
  · intro number item' settled
    exact (sound.settledBears number item' settled).imp_right (same number item').mpr
  · intro number item' bears
    exact sound.available number item' (bears.imp_right (same number item').mp)

/-- Entering an item changes no number in hand. -/
theorem number_enter (drawn : table.hands agent = .drawn item number) (other : Agent) :
    (Function.update table.hands agent (.entered item number) other).number =
      (table.hands other).number := by
  by_cases own : other = agent
  · rw [own, Function.update_self, drawn]
    rfl
  · rw [Function.update_of_ne own]

theorem Bears.enter (drawn : table.hands agent = .drawn item number) {number' : Nat}
    {item' : Item} (bears : table.Bears number' item') :
    (number', item') ∈ table.delivered ∨ ∃ other, Function.update table.hands agent
      (.entered item number) other = .entered item' number' := by
  rcases bears with delivered | ⟨other, entered⟩
  · exact Or.inl delivered
  · have different : other ≠ agent := by
      rintro rfl
      cases drawn.symm.trans entered
    exact Or.inr ⟨other, (Function.update_of_ne different _ _).trans entered⟩

theorem Sound.enter (sound : Sound table) (drawn : table.hands agent = .drawn item number) :
    Sound { table with
      hands := Function.update table.hands agent (.entered item number)
      entries := Function.update table.entries number (some item) } := by
  have sameNumber := number_enter drawn
  refine ⟨?_, sound.deliveredCounted, ?_, ?_, ?_, sound.unique, ?_, ?_, ?_, ?_, ?_, ?_⟩
  · intro other number' holds
    exact sound.counted other number' ((sameNumber other).symm.trans holds)
  · intro other other' number' holds holds'
    exact sound.distinct other other' number' ((sameNumber other).symm.trans holds)
      ((sameNumber other').symm.trans holds')
  · intro other number' item' holds
    exact sound.undelivered other number' item' ((sameNumber other).symm.trans holds)
  · intro other item' number' drawn'
    have different : other ≠ agent := by
      rintro rfl
      cases (Function.update_self ..).symm.trans drawn'
    have before : table.hands other = .drawn item' number' :=
      (Function.update_of_ne different _ _).symm.trans drawn'
    have otherNumber : number' ≠ number := by
      rintro rfl
      exact different (sound.distinct other agent number' (by rw [before]; rfl)
        (by rw [drawn]; rfl))
    rcases sound.fresh other item' number' before with ⟨absent', unsettled'⟩
    exact ⟨(Function.update_of_ne otherNumber _ _).trans absent', unsettled'⟩
  · intro number' item' stored
    rcases of_update_some stored with ⟨rfl, rfl⟩ | ⟨_, stored⟩
    · exact Or.inr ⟨agent, Function.update_self ..⟩
    · exact (sound.entry number' item' stored).enter drawn
  · intro number' item' settled
    exact (sound.settledBears number' item' settled).enter drawn
  · rintro number' item' (delivered | ⟨other, entered⟩)
    · exact (sound.available number' item' (Or.inl delivered)).imp_left
        (sound.entries_enter drawn)
    · by_cases own : other = agent
      · rw [own] at entered
        cases (Function.update_self ..).symm.trans entered
        exact Or.inl (Function.update_self ..)
      · have entered : table.hands other = .entered item' number' :=
          (Function.update_of_ne own _ _).symm.trans entered
        exact (sound.available number' item' (Or.inr ⟨other, entered⟩)).imp_left
          (sound.entries_enter drawn)
  · intro number' item' settled
    have different : number' ≠ number := fun same =>
      (sound.fresh agent item number drawn).2 item' (same ▸ settled)
    exact (sound.removed number' item' settled).imp_left
      ((Function.update_of_ne different _ _).trans ·)
  · intro number' item' settling
    exact sound.entries_enter drawn (sound.settling number' item' settling)
  · intro number' item' deleting
    exact (sound.deleting number' item' deleting).imp_right (sound.entries_enter drawn)

/-- Handing an item over changes nothing in what the numbers stand for. -/
theorem bears_deliver_iff (entered : table.hands agent = .entered item number) (number' : Nat)
    (item' : Item) :
    ((number', item') ∈ (number, item) :: table.delivered ∨
      ∃ other, Function.update table.hands agent .empty other = .entered item' number') ↔
        table.Bears number' item' := by
  constructor
  · rintro (delivered | ⟨other, entered'⟩)
    · rcases List.mem_cons.mp delivered with new | delivered
      · cases new
        exact Or.inr ⟨agent, entered⟩
      · exact Or.inl delivered
    · by_cases own : other = agent
      · rw [own] at entered'
        cases (Function.update_self ..).symm.trans entered'
      · exact Or.inr ⟨other, (Function.update_of_ne own _ _).symm.trans entered'⟩
  · rintro (delivered | ⟨other, entered'⟩)
    · exact Or.inl (List.mem_cons_of_mem _ delivered)
    · by_cases own : other = agent
      · subst own
        cases entered.symm.trans entered'
        exact Or.inl List.mem_cons_self
      · exact Or.inr ⟨other, (Function.update_of_ne own _ _).trans entered'⟩

theorem Sound.deliver (sound : Sound table) (entered : table.hands agent = .entered item number) :
    Sound { table with
      hands := Function.update table.hands agent .empty
      delivered := (number, item) :: table.delivered } := by
  have held : (table.hands agent).number = some number := by
    rw [entered]
    rfl
  have others : ∀ other number', (Function.update table.hands agent .empty other).number =
      some number' → other ≠ agent ∧ (table.hands other).number = some number' := by
    intro other number' holds
    rcases number_update holds with ⟨_, impossible⟩ | elsewhere
    · cases impossible
    · exact elsewhere
  have same := bears_deliver_iff entered
  refine ⟨?_, ?_, ?_, ?_, ?_, ?_, ?_, ?_, ?_, sound.removed, sound.settling, sound.deleting⟩
  · intro other number' holds
    exact sound.counted other number' (others other number' holds).2
  · intro number' item' delivered
    exact sound.bears_counted ((same number' item').mp (Or.inl delivered))
  · intro other other' number' holds holds'
    exact sound.distinct other other' number' (others other number' holds).2
      (others other' number' holds').2
  · intro other number' item' holds delivered
    rcases others other number' holds with ⟨different, holds⟩
    rcases List.mem_cons.mp delivered with new | delivered
    · cases new
      exact different (sound.distinct other agent number holds held)
    · exact sound.undelivered other number' item' holds delivered
  · intro other item' number' drawn
    have different : other ≠ agent := by
      rintro rfl
      cases (Function.update_self ..).symm.trans drawn
    exact sound.fresh other item' number' ((Function.update_of_ne different _ _).symm.trans drawn)
  · intro number' item' item'' delivered delivered'
    exact sound.bears_unique ((same number' item').mp (Or.inl delivered))
      ((same number' item'').mp (Or.inl delivered'))
  · intro number' item' stored
    exact (same number' item').mpr (sound.entry number' item' stored)
  · intro number' item' settled
    exact (same number' item').mpr (sound.settledBears number' item' settled)
  · intro number' item' bears
    exact sound.available number' item' ((same number' item').mp bears)

theorem Sound.step (sound : Sound table) {action : Action Agent Item}
    {next : AckTable Agent Item} (taken : table.step action = some next) : Sound next := by
  cases effect_of_step taken with
  | draw agent item empty => exact sound.draw empty item
  | skip => exact sound.skip
  | enter agent drawn => exact sound.enter drawn
  | deliver agent entered => exact sound.deliver entered
  | request number idle => exact sound.of_worker (by simp [idle]) (by simp) (by simp)
  | @look number looking =>
      cases stored : table.entries number with
      | none => exact sound.of_worker (by simp [looking]) (by simp [found]) (by simp [found])
      | some item =>
          refine sound.of_worker (by simp [looking]) (by simp [found]) ?_
          rintro _ _ ⟨⟩
          exact stored
  | settle settling => exact sound.settle settling
  | fail settling => exact sound.of_worker (by simp [settling]) (by simp) (by simp)
  | delete deleting => exact sound.delete deleting

theorem Sound.of_reaches {table : AckTable Agent Item} (reaches : table.Reaches) :
    Sound table :=
  Transition.Run.preserves reaches Sound.initial
    fun _ _ _ _ sound _ taken => sound.step taken

/-- An entry stays as it is until its item is settled. -/
theorem Sound.entry_step (sound : Sound table) {action : Action Agent Item}
    {next : AckTable Agent Item} (taken : table.step action = some next)
    (stored : table.entries number = some item) :
    next.entries number = some item ∨
      next.entries number = none ∧ (number, item) ∈ table.settled := by
  cases effect_of_step taken with
  | enter agent drawn => exact Or.inl (sound.entries_enter drawn stored)
  | @delete item' number' deleting =>
      by_cases same : number = number'
      · subst same
        rcases sound.deleting _ _ deleting with ⟨settled, stored'⟩
        cases stored.symm.trans stored'
        exact Or.inr ⟨Function.update_self .., settled⟩
      · exact Or.inl ((Function.update_of_ne same _ _).trans stored)
  | draw | skip | deliver | request | look | settle | fail => exact Or.inl stored

/-- The table takes a step or stays as it is. -/
def Moves (table next : AckTable Agent Item) : Prop :=
  next = table ∨ ∃ action, table.step action = some next

theorem Reaches.moves {next : AckTable Agent Item} (reaches : table.Reaches)
    (moves : table.Moves next) : next.Reaches := by
  rcases moves with rfl | ⟨action, taken⟩
  · exact reaches
  · exact Transition.Run.tail reaches trivial taken

theorem Sound.entry_moves (sound : Sound table) {next : AckTable Agent Item}
    (moves : table.Moves next) (stored : table.entries number = some item) :
    next.entries number = some item ∨
      next.entries number = none ∧ (number, item) ∈ table.settled := by
  rcases moves with rfl | ⟨action, taken⟩
  · exact Or.inl stored
  · exact sound.entry_step taken stored

end Steps

end AckTable

end Tassis
