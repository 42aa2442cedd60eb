import Tassis.Database.RateLimit

/-! # Charges and registrations

Every execution that reaches the rate limiting block is charged. Its charge pays
for the number it registers, for the number a sleeping call is going to
register, or for nothing.
-/

namespace Tassis.Database

/-- The directory in Redis with what has been charged for nothing. -/
structure Charges where
  limited : LimitedChat
  /-- History: the charges that paid for nothing. -/
  wasted : Nat

namespace Charges

inductive Action where
  | pass (action : RedisChat.Action)
  /-- The deadline of a sleeping call passes, and its second pass fails. -/
  | deadline (caller : Nat)
  deriving DecidableEq, Repr

def initial : Charges := ⟨.initial, 0⟩

/-- What is charged in the step or was charged before it pays for a number: the
answer that tells a call to sleep is not lost, and a call that has slept is let
through to its registration. -/
def Pays (limited : LimitedChat) : Action → Prop
  | .pass (.firstPass _ call now answered) =>
      answered = true ∨
        ¬Redisdb.PassesChecks limited.db.chatNumbers call.identityKey call.newNumber ∨
        0 ≤ available (limited.timestamps ++ [now])
  | .pass (.secondPass caller _) =>
      ∀ call, call ∈ limited.db.sleeping caller →
        Redisdb.PassesChecks limited.db.chatNumbers call.identityKey call.newNumber
  | .deadline _ => False

instance (limited : LimitedChat) (action : Action) : Decidable (Pays limited action) :=
  match action with
  | .pass (.firstPass ..) => inferInstanceAs (Decidable (_ ∨ _))
  | .pass (.secondPass ..) => inferInstanceAs (Decidable (∀ _, _ → _))
  | .deadline _ => inferInstanceAs (Decidable False)

def step (state : Charges) (action : Action) : Option Charges :=
  let wasted := state.wasted + if Pays state.limited action then 0 else 1
  match action with
  | .pass action => (state.limited.step action).map fun limited => ⟨limited, wasted⟩
  | .deadline caller =>
      (state.limited.db.sleeping caller).map fun _ =>
        ⟨{ state.limited with db := { state.limited.db with
            sleeping := Function.update state.limited.db.sleeping caller none } }, wasted⟩

def Reaches (permitted : Charges → Action → Prop) (state : Charges) : Prop :=
  Transition.Run step permitted initial state

/-- The numbers that are registered. -/
def registered (state : Charges) : Nat :=
  state.limited.db.chatNumbers.numberToIdentity.keys.length

/-! ## Sleepers -/

/-- These callers sleep, and no others. -/
def Sleepers (sleeping : Nat → Option Registration) (sleepers : Finset Nat) : Prop :=
  ∀ caller, caller ∈ sleepers ↔ sleeping caller ≠ none

section Sleepers

variable {sleeping : Nat → Option Registration} {sleepers : Finset Nat}

theorem Sleepers.insert (lists : Sleepers sleeping sleepers) (caller : Nat)
    (call : Registration) :
    Sleepers (Function.update sleeping caller (some call)) (insert caller sleepers) := by
  intro other
  by_cases same : other = caller
  · simp [same]
  · rw [Function.update_of_ne same, Finset.mem_insert, lists other]
    simp [same]

theorem Sleepers.erase (lists : Sleepers sleeping sleepers) (caller : Nat) :
    Sleepers (Function.update sleeping caller none) (sleepers.erase caller) := by
  intro other
  by_cases same : other = caller
  · simp [same]
  · rw [Function.update_of_ne same, Finset.mem_erase, lists other]
    simp [same]

theorem Sleepers.card_erase (lists : Sleepers sleeping sleepers) {caller : Nat}
    {call : Registration} (asleep : sleeping caller = some call) :
    (sleepers.erase caller).card + 1 = sleepers.card := by
  apply Finset.card_erase_add_one
  rw [lists caller, asleep]
  simp

end Sleepers

/-! ## Every charge is accounted for -/

structure Balanced (state : Charges) : Prop where
  sound : state.limited.Sound
  charged : ∃ sleepers, Sleepers state.limited.db.sleeping sleepers ∧
    state.limited.timestamps.length = state.registered + sleepers.card + state.wasted

theorem Balanced.initial : Balanced initial where
  sound := .initial
  charged := by
    refine ⟨∅, ?_, rfl⟩
    intro caller
    simp [Charges.initial, LimitedChat.initial, RedisChat.initial]

variable {state next : Charges}

/-- The answer that tells a call to sleep is lost. -/
theorem not_pays_of_lost {limited : LimitedChat} {caller : Nat} {call : Registration} {now : Int}
    (passesChecks : Redisdb.PassesChecks limited.db.chatNumbers call.identityKey call.newNumber)
    (lacking : available (limited.timestamps ++ [now]) < 0) :
    ¬Pays limited (.pass (.firstPass caller call now false)) := by
  rintro (lost | failsChecks | enough)
  · cases lost
  · exact failsChecks passesChecks
  · omega

theorem Balanced.firstPass (balanced : state.Balanced) {caller : Nat} {call : Registration}
    {now : Int} {answered : Bool}
    (taken : state.step (.pass (.firstPass caller call now answered)) = some next) :
    next.Balanced := by
  rcases balanced.charged with ⟨sleepers, lists, account⟩
  rcases Option.map_eq_some_iff.mp taken with ⟨limited, passes, rfl⟩
  rcases balanced.sound.firstPass passes with ⟨sound, reply, replied, execution, _⟩
  rcases Option.map_eq_some_iff.mp passes with ⟨db, passes', rfl⟩
  rcases RedisChat.firstPass_taken passes' with ⟨awake, reply', keyspace, executes, result⟩
  rw [executes] at replied
  cases replied
  have sleeping : db.sleeping = if answered then
      Function.update state.limited.db.sleeping caller (RedisChat.sleepsAfter call reply')
      else state.limited.db.sleeping := by
    rw [result]
    cases answered <;> rfl
  have notListed : caller ∉ sleepers := by
    rw [lists caller, awake]
    simp
  -- A call that does not fall asleep leaves the sleepers as they are.
  have unchanged : RedisChat.sleepsAfter call reply' = none → Sleepers db.sleeping sleepers := by
    intro staysAwake
    rw [sleeping, staysAwake, ← awake, Function.update_eq_self, ite_self]
    exact lists
  refine ⟨sound, ?_⟩
  dsimp only [registered] at account ⊢
  dsimp only at execution
  generalize state.limited.timestamps ++ LimitedChat.limitedAt state.limited.db
    (.firstPass caller call now answered) = timestamps at execution ⊢
  generalize db.chatNumbers = chat at execution ⊢
  cases execution with
  | checked failsChecks settled =>
      have pays : Pays state.limited (.pass (.firstPass caller call now answered)) :=
        Or.inr (Or.inl failsChecks)
      refine ⟨sleepers, unchanged ?_, by rw [if_pos pays]; exact account⟩
      cases reply' with
      | numbers number shortNumber => rfl
      | integer n => exact if_pos (settled n rfl)
  | short passesChecks isLimited lacking =>
      rw [List.length_append, List.length_singleton]
      have sleeps : RedisChat.sleepsAfter call
          (.integer (-available (state.limited.timestamps ++ [now]))) = some call :=
        if_neg (by omega)
      rw [sleeps] at sleeping
      cases answered with
      | true =>
          rw [if_pos rfl] at sleeping
          have pays : Pays state.limited (.pass (.firstPass caller call now true)) :=
            Or.inl rfl
          refine ⟨insert caller sleepers, sleeping ▸ lists.insert caller call, ?_⟩
          rw [if_pos pays, Finset.card_insert_of_notMem notListed]
          omega
      | false =>
          rw [if_neg Bool.false_ne_true] at sleeping
          refine ⟨sleepers, sleeping ▸ lists, ?_⟩
          rw [if_neg (not_pays_of_lost passesChecks (by omega))]
          omega
  | registered passesChecks enough =>
      have pays : Pays state.limited (.pass (.firstPass caller call now answered)) :=
        Or.inr (Or.inr (enough rfl))
      refine ⟨sleepers, unchanged rfl, ?_⟩
      rw [if_pos pays, if_pos rfl, List.length_append, List.length_singleton,
        TimedChat.length_keys_register _ passesChecks.2]
      omega

theorem Balanced.secondPass (balanced : state.Balanced) {caller : Nat} {answered : Bool}
    (taken : state.step (.pass (.secondPass caller answered)) = some next) :
    next.Balanced := by
  rcases balanced.charged with ⟨sleepers, lists, account⟩
  rcases Option.map_eq_some_iff.mp taken with ⟨limited, passes, rfl⟩
  rcases balanced.sound.secondPass passes with
    ⟨sound, call, reply, asleep, _, execution, sleeping⟩
  refine ⟨sound, sleepers.erase caller, sleeping ▸ lists.erase caller, ?_⟩
  have fewer := lists.card_erase asleep
  dsimp only [registered] at account ⊢
  generalize limited.timestamps = timestamps at execution ⊢
  generalize limited.db.chatNumbers = chat at execution ⊢
  cases execution with
  | checked failsChecks =>
      have wastes : ¬Pays state.limited (.pass (.secondPass caller answered)) :=
        fun pays => failsChecks (pays call asleep)
      rw [if_neg wastes]
      omega
  | short _ isLimited => cases isLimited
  | registered passesChecks =>
      have pays : Pays state.limited (.pass (.secondPass caller answered)) := by
        intro call' asleep'
        cases asleep.symm.trans asleep'
        exact passesChecks
      rw [if_pos pays, if_neg Bool.false_ne_true,
        TimedChat.length_keys_register _ passesChecks.2]
      omega

theorem Balanced.deadline (balanced : state.Balanced) {caller : Nat}
    (taken : state.step (.deadline caller) = some next) : next.Balanced := by
  rcases balanced.charged with ⟨sleepers, lists, account⟩
  rcases Option.map_eq_some_iff.mp taken with ⟨call, asleep, rfl⟩
  have fewer := lists.card_erase asleep
  refine ⟨⟨balanced.sound.holds, balanced.sound.limits⟩, sleepers.erase caller,
    lists.erase caller, ?_⟩
  change state.limited.timestamps.length = state.registered + (sleepers.erase caller).card +
    (state.wasted + if Pays state.limited (.deadline caller) then 0 else 1)
  have wastes : ¬Pays state.limited (.deadline caller) := id
  rw [if_neg wastes]
  omega

theorem Balanced.step (balanced : state.Balanced) {action : Action}
    (taken : state.step action = some next) : next.Balanced := by
  cases action with
  | deadline caller => exact balanced.deadline taken
  | pass action =>
      cases action with
      | firstPass caller call now answered => exact balanced.firstPass taken
      | secondPass caller answered => exact balanced.secondPass taken

theorem Balanced.of_reaches (reaches : Reaches Transition.anyStep state) : state.Balanced := by
  refine Transition.Run.preserves reaches .initial ?_
  intro current action next _ balanced _ taken
  exact balanced.step taken

/-- A step that pays wastes nothing. -/
theorem wasted_of_pays {action : Action} (pays : Pays state.limited action)
    (taken : state.step action = some next) : next.wasted = state.wasted := by
  cases action with
  | pass action =>
      rcases Option.map_eq_some_iff.mp taken with ⟨limited, _, rfl⟩
      simp only [if_pos pays, Nat.add_zero]
  | deadline caller => exact pays.elim

theorem wasted_of_reaches (reaches : Reaches (fun state action => Pays state.limited action)
    state) : state.wasted = 0 := by
  refine @Transition.Run.preserves _ _ _ _ (fun state => state.wasted = 0) _ _ reaches rfl ?_
  intro current action next _ nothing pays taken
  exact (wasted_of_pays pays taken).trans nothing

/-- In a state without sleepers the counter is what the registrations account
for, less the charges that were wasted. -/
theorem Balanced.tokens (balanced : state.Balanced)
    (quiet : ∀ caller, state.limited.db.sleeping caller = none)
    (numbered : 0 < state.registered) :
    ∃ first last, state.limited.timestamps.head? = some first ∧
      state.limited.db.keyspace.integer? Redisdb.lastRegistrationTimeKey =
        some (some last) ∧
      state.limited.tokens =
        last - first - 500 * (state.registered - 1 : Int) - 500 * state.wasted := by
  rcases balanced.charged with ⟨sleepers, lists, account⟩
  have nobody : sleepers = ∅ := by
    apply Finset.eq_empty_of_forall_notMem
    intro caller
    rw [lists caller, quiet caller]
    simp
  rw [nobody, Finset.card_empty, Nat.add_zero] at account
  have tokens := balanced.sound.tokens
  have stored := balanced.sound.limits.last
  cases times : state.limited.timestamps with
  | nil =>
      rw [times, List.length_nil] at account
      omega
  | cons first rest =>
      rw [times] at tokens stored account
      refine ⟨first, rest.getLastD first, rfl, ?_, ?_⟩
      · rw [stored, List.getLast?_cons, List.getLastD_eq_getLast?]
      · rw [tokens, available, Redisdb.minMillisPerChatNumberRegistration]
        rw [List.length_cons] at account
        omega

end Charges

/-- In every run whose charges all pay for a number, the counter without calls in
progress is the time from the first to the last charge, less 500 for each
registered number but the first. In any run this is so exactly if no charge was
wasted. -/
theorem charges_match_registrations (state : Charges)
    (quiet : ∀ caller, state.limited.db.sleeping caller = none)
    (numbered : 0 < state.registered) :
    (Charges.Reaches (fun state action => Charges.Pays state.limited action) state →
      ∃ first last, state.limited.timestamps.head? = some first ∧
        state.limited.db.keyspace.integer? Redisdb.lastRegistrationTimeKey =
          some (some last) ∧
        state.limited.tokens = last - first - 500 * (state.registered - 1 : Int)) ∧
    (Charges.Reaches Transition.anyStep state →
      ∃ first last, state.limited.timestamps.head? = some first ∧
        state.limited.db.keyspace.integer? Redisdb.lastRegistrationTimeKey =
          some (some last) ∧
        (state.limited.tokens = last - first - 500 * (state.registered - 1 : Int) ↔
          state.wasted = 0)) := by
  constructor
  · intro reaches
    have balanced := Charges.Balanced.of_reaches (reaches.weaken fun _ _ _ => trivial)
    rcases balanced.tokens quiet numbered with ⟨first, last, isFirst, isLast, tokens⟩
    refine ⟨first, last, isFirst, isLast, ?_⟩
    rw [tokens, Charges.wasted_of_reaches reaches]
    omega
  · intro reaches
    have balanced := Charges.Balanced.of_reaches reaches
    rcases balanced.tokens quiet numbered with ⟨first, last, isFirst, isLast, tokens⟩
    refine ⟨first, last, isFirst, isLast, ?_⟩
    rw [tokens]
    omega

/-! ## Calls at the same time -/

namespace Charges

def Action.caller : Action → Nat
  | .pass (.firstPass caller _ _ _) | .pass (.secondPass caller _) | .deadline caller => caller

variable {state next : Charges}

theorem sleeping_of_step {action : Action} (taken : state.step action = some next)
    {other : Nat} (different : other ≠ action.caller) :
    next.limited.db.sleeping other = state.limited.db.sleeping other := by
  cases action with
  | deadline caller =>
      rcases Option.map_eq_some_iff.mp taken with ⟨call, _, rfl⟩
      exact Function.update_of_ne different ..
  | pass action =>
      rcases Option.map_eq_some_iff.mp taken with ⟨limited, passes, rfl⟩
      rcases Option.map_eq_some_iff.mp passes with ⟨db, passes', rfl⟩
      cases action with
      | firstPass caller call now answered =>
          rcases RedisChat.firstPass_taken passes' with ⟨_, reply, keyspace, _, rfl⟩
          cases answered with
          | false => rfl
          | true => exact Function.update_of_ne different ..
      | secondPass caller answered =>
          rcases RedisChat.secondPass_taken passes' with ⟨_, reply, keyspace, _, _, rfl⟩
          exact Function.update_of_ne different ..

/-- Callers that take no step do not sleep. -/
theorem quiet_of_bounded {bound : Nat}
    (reaches : Reaches (fun _ action => action.caller < bound) state)
    (quiet : ∀ caller, caller < bound → state.limited.db.sleeping caller = none) (caller : Nat) :
    state.limited.db.sleeping caller = none := by
  by_cases takesSteps : caller < bound
  · exact quiet caller takesSteps
  · refine @Transition.Run.preserves _ _ _ _
      (fun state => state.limited.db.sleeping caller = none) _ _ reaches rfl ?_
    intro current action next _ awake bounded taken
    exact (sleeping_of_step taken (by omega)).trans awake

end Charges

def firstCall : Registration := ⟨['a'], ['1'], ['1']⟩

def secondCall : Registration := ⟨['b'], ['2'], ['2']⟩

/-- Two calls for one identity sleep, the second of them for a number that the
first has registered by then, and a third one misses its deadline. Two numbers
are registered, and three are charged for beside the first. -/
theorem repeated_call_is_charged :
    ∃ state, Charges.Reaches Transition.anyStep state ∧
      (∀ caller, state.limited.db.sleeping caller = none) ∧ state.registered = 2 ∧
      state.limited.timestamps.head? = some 0 ∧
      state.limited.db.keyspace.integer? Redisdb.lastRegistrationTimeKey = some (some 0) ∧
      state.limited.tokens = -1500 := by
  have run : ∃ state, Charges.Reaches (fun _ action => action.caller < 4) state ∧
      (∀ caller, caller < 4 → state.limited.db.sleeping caller = none) ∧
      state.registered = 2 ∧ state.limited.timestamps.head? = some 0 ∧
      state.limited.db.keyspace.integer? Redisdb.lastRegistrationTimeKey = some (some 0) ∧
      state.limited.tokens = -1500 :=
    Transition.Run.exists_of_execute
      [.pass (.firstPass 0 firstCall 0 true), .pass (.firstPass 1 secondCall 0 true),
        .pass (.firstPass 2 secondCall 0 true), .pass (.firstPass 3 secondCall 0 true),
        .pass (.secondPass 1 true), .pass (.secondPass 2 true), .deadline 3]
      (by decide +kernel)
  rcases run with ⟨state, reaches, quiet, facts⟩
  exact ⟨state, reaches.weaken fun _ _ _ => trivial,
    Charges.quiet_of_bounded reaches quiet, facts⟩

/-- Two calls for two identities, one of which sleeps. -/
theorem separate_calls_pay :
    ∃ state, Charges.Reaches (fun state action => Charges.Pays state.limited action) state ∧
      state.registered = 2 ∧
      ∃ first last, state.limited.timestamps.head? = some first ∧
        state.limited.db.keyspace.integer? Redisdb.lastRegistrationTimeKey =
          some (some last) ∧
        state.limited.tokens = last - first - 500 * (state.registered - 1 : Int) := by
  have run : ∃ state, Charges.Reaches (fun state action =>
        Charges.Pays state.limited action ∧ action.caller < 2) state ∧
      (∀ caller, caller < 2 → state.limited.db.sleeping caller = none) ∧
      state.registered = 2 :=
    Transition.Run.exists_of_execute
      [.pass (.firstPass 0 firstCall 0 true), .pass (.firstPass 1 secondCall 100 true),
        .pass (.secondPass 1 true)] (by decide +kernel)
  rcases run with ⟨state, reaches, quiet, registered⟩
  have pays := reaches.weaken fun _ _ both => And.left both
  have bounded := reaches.weaken fun _ _ both => And.right both
  have facts := charges_match_registrations state (Charges.quiet_of_bounded bounded quiet)
    (by omega)
  exact ⟨state, pays, registered, facts.1 pays⟩

end Tassis.Database
