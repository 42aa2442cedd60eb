import Tassis.Database.ChatNumbers

/-! # The rate of registrations

The tokens of the script for chat numbers, which all servers share, and the
times at which registrations are written when every caller sleeps as long as it
is told to.
-/

namespace Tassis.Database

/-! ## Tokens -/

/-- The tokens after executions with these timestamps. -/
def available : List Int → Int
  | [] => 0
  | first :: rest =>
      rest.getLastD first - first - Redisdb.minMillisPerChatNumberRegistration * rest.length

/-- An execution adds the time since the last one and takes its own tokens. -/
theorem available_append (timestamps : List Int) (now : Int) :
    available (timestamps ++ [now]) = match timestamps.getLast? with
      | none => 0
      | some last => available timestamps +
          (now - last - Redisdb.minMillisPerChatNumberRegistration) := by
  cases timestamps with
  | nil => simp [available]
  | cons first rest =>
      have last : (first :: rest).getLast? = some (rest.getLastD first) := by
        cases rest with
        | nil => rfl
        | cons second rest => simp [List.getLast?_cons]
      rw [last]
      simp only [available, List.cons_append, List.getLastD_concat, List.length_append,
        List.length_singleton, Redisdb.minMillisPerChatNumberRegistration]
      push_cast
      omega

namespace Redisdb

variable {keyspace next : Keyspace} {chat : ChatNumbers} {timestamps : List Int}
  {identityKey newNumber newShortNumber : Text}

/-- The keyspace holds the time of the last execution that reached the rate
limiting block, and the tokens. A missing counter counts as zero. -/
structure Limits (keyspace : Keyspace) (timestamps : List Int) : Prop where
  last : keyspace.integer? lastRegistrationTimeKey = some timestamps.getLast?
  tokens : ∃ tokens, keyspace.integer? registrationTokensKey = some tokens ∧
    tokens.getD 0 = available timestamps

/-- The checks before the rate limiting block let the call through. -/
def PassesChecks (chat : ChatNumbers) (identityKey newNumber : Text) : Prop :=
  (chat.identityToNumber.lookup identityKey).getD [] = [] ∧
    chat.numberToIdentity.lookup newNumber = none

instance (chat : ChatNumbers) (identityKey newNumber : Text) :
    Decidable (PassesChecks chat identityKey newNumber) :=
  inferInstanceAs (Decidable (_ ∧ _))

theorem rateLimit_limits (holds : Holds keyspace chat) (limits : Limits keyspace timestamps)
    (now : Int) :
    ∃ next, rateLimit keyspace minMillisPerChatNumberRegistration now =
        some (if available (timestamps ++ [now]) < 0 then
          some (-available (timestamps ++ [now])) else none, next) ∧
      Holds next chat ∧ Limits next (timestamps ++ [now]) := by
  have positive : 0 < minMillisPerChatNumberRegistration := by decide
  have stamped := holds.store_integer lastRegistrationTimeKey_mem now
  rcases limits.tokens with ⟨tokens, stored, counted⟩
  have stored' : (keyspace.store lastRegistrationTimeKey (.integer now)).integer?
      registrationTokensKey = some tokens :=
    (Keyspace.integer?_store_of_ne (by decide)).trans stored
  have counts := available_append timestamps now
  cases last : timestamps.getLast? with
  | none =>
      rw [last] at counts
      refine ⟨_, ?_, stamped, ?_, tokens, stored', ?_⟩
      · simp [rateLimit, positive, Keyspace.getset, limits.last, last, counts]
      · simp
      · rw [List.getLast?_eq_none_iff.mp last] at counted
        exact counted.trans counts.symm
  | some time =>
      rw [last] at counts
      rw [← counted] at counts
      have charged := stamped.store_integer registrationTokensKey_mem
        (available (timestamps ++ [now]))
      refine ⟨_, ?_, charged, ?_, _, Keyspace.integer?_store_self _, rfl⟩
      · simp only [rateLimit, positive, if_true, Keyspace.getset, limits.last, last,
          Keyspace.incrby, stored', Option.map_some, Option.bind_eq_bind, Option.bind_some,
          ← counts]
        split <;> rfl
      · rw [Keyspace.integer?_store_of_ne (by decide), Keyspace.integer?_store_self]
        simp

theorem integer?_of_hset {key other field value : Text} (different : key ≠ other)
    (sets : keyspace.hset other field value = some next) :
    next.integer? key = keyspace.integer? key := by
  rcases Option.map_eq_some_iff.mp sets with ⟨fields, _, rfl⟩
  exact Keyspace.integer?_store_of_ne different

/-- A registration leaves the time and the tokens alone. -/
theorem Limits.of_newRegistration (limits : Limits keyspace timestamps)
    (registers : newRegistration keyspace identityKey newNumber newShortNumber = some next) :
    Limits next timestamps := by
  have same : ∀ key, key ∈ integerKeys → next.integer? key = keyspace.integer? key := by
    intro key isInteger
    have notHash : ∀ hashKey, hashKey ∈ hashKeys → key ≠ hashKey :=
      fun _ isHash => (hashKey_ne_integerKey isHash isInteger).symm
    rcases Option.bind_eq_some_iff.mp registers with ⟨first, sets, registers⟩
    rcases Option.bind_eq_some_iff.mp registers with ⟨second, sets', registers⟩
    rcases Option.bind_eq_some_iff.mp registers with ⟨third, sets'', registers⟩
    rw [integer?_of_hset (notHash _ (by simp [hashKeys])) registers,
      integer?_of_hset (notHash _ (by simp [hashKeys])) sets'',
      integer?_of_hset (notHash _ (by simp [hashKeys])) sets',
      integer?_of_hset (notHash _ (by simp [hashKeys])) sets]
  constructor
  · rw [same _ lastRegistrationTimeKey_mem]
    exact limits.last
  · rw [same _ registrationTokensKey_mem]
    exact limits.tokens

/-- What an execution of the script answers and does to the directory and the
timestamps. -/
inductive Execution (chat : ChatNumbers) (timestamps : List Int)
    (identityKey newNumber newShortNumber : Text) (limited : Bool) (now : Int) :
    Reply → ChatNumbers → List Int → Prop where
  | checked {reply} (failsChecks : ¬ PassesChecks chat identityKey newNumber)
      (settled : ∀ n, reply = .integer n → n = -1) :
      Execution chat timestamps identityKey newNumber newShortNumber limited now reply chat
        timestamps
  | short (passes : PassesChecks chat identityKey newNumber) (isLimited : limited = true)
      (lacking : available (timestamps ++ [now]) < 0) :
      Execution chat timestamps identityKey newNumber newShortNumber limited now
        (.integer (-available (timestamps ++ [now]))) chat (timestamps ++ [now])
  | registered (passes : PassesChecks chat identityKey newNumber)
      (enough : limited = true → 0 ≤ available (timestamps ++ [now])) :
      Execution chat timestamps identityKey newNumber newShortNumber limited now
        (.numbers newNumber (some newShortNumber))
        (chat.register identityKey newNumber newShortNumber)
        (if limited then timestamps ++ [now] else timestamps)

theorem Execution.timestamps_eq {limited : Bool} {now : Int} {reply : Reply}
    {chat' : ChatNumbers} {timestamps' : List Int}
    (execution : Execution chat timestamps identityKey newNumber newShortNumber limited now
      reply chat' timestamps') :
    timestamps' = timestamps ++
      if limited = true ∧ PassesChecks chat identityKey newNumber then [now] else [] := by
  cases execution with
  | checked fails => simp [fails]
  | short passes isLimited => simp [passes, isLimited]
  | registered passes => cases limited <;> simp [passes]

/-- The tokens that the script requires. -/
def requiredTokens (limited : Bool) : Int :=
  if limited then minMillisPerChatNumberRegistration else 0

theorem rateLimit_execution (holds : Holds keyspace chat) (limits : Limits keyspace timestamps)
    (limited : Bool) (now : Int) :
    ∃ next, rateLimit keyspace (requiredTokens limited) now =
        some (if limited = true ∧ available (timestamps ++ [now]) < 0 then
          some (-available (timestamps ++ [now])) else none, next) ∧
      Holds next chat ∧ Limits next (if limited then timestamps ++ [now] else timestamps) := by
  cases limited with
  | true => simpa [requiredTokens] using rateLimit_limits holds limits now
  | false => exact ⟨keyspace, rfl, holds, limits⟩

theorem registerChatNumberScript_execution (holds : Holds keyspace chat)
    (limits : Limits keyspace timestamps) (identityKey newNumber newShortNumber : Text)
    (limited : Bool) (now : Int) :
    ∃ reply next chat' timestamps', registerChatNumberScript keyspace identityKey newNumber
        newShortNumber (requiredTokens limited) now = some (reply, next) ∧
      Execution chat timestamps identityKey newNumber newShortNumber limited now reply chat'
        timestamps' ∧
      Holds next chat' ∧ Limits next timestamps' := by
  by_cases unregistered : (chat.identityToNumber.lookup identityKey).getD [] = []
  · by_cases free : chat.numberToIdentity.lookup newNumber = none
    · have passes : PassesChecks chat identityKey newNumber := ⟨unregistered, free⟩
      rcases rateLimit_execution holds limits limited now with
        ⟨limitedSpace, limits', holds', stamped⟩
      by_cases lacking : limited = true ∧ available (timestamps ++ [now]) < 0
      · rw [if_pos lacking] at limits'
        rw [if_pos lacking.1] at stamped
        refine ⟨_, limitedSpace, chat, timestamps ++ [now], ?_,
          .short passes lacking.1 lacking.2, holds', stamped⟩
        simp [registerChatNumberScript, Keyspace.hget, holds.identityToNumber,
          holds.numberToIdentity, unregistered, free, limits']
      · rw [if_neg lacking] at limits'
        rcases newRegistration_holds holds' identityKey newNumber newShortNumber with
          ⟨next, registers, registered⟩
        refine ⟨_, next, _, _, ?_, .registered passes ?_, registered,
          stamped.of_newRegistration registers⟩
        · simp [registerChatNumberScript, Keyspace.hget, holds.identityToNumber,
            holds.numberToIdentity, unregistered, free, limits', registers]
        · intro isLimited
          by_contra negative
          exact lacking ⟨isLimited, by omega⟩
    · refine ⟨.integer (-1), keyspace, chat, timestamps, ?_,
        .checked (fun passes => free passes.2) (by simp), holds, limits⟩
      rcases Option.ne_none_iff_exists'.mp free with ⟨identity, owner⟩
      simp [registerChatNumberScript, Keyspace.hget, holds.identityToNumber,
        holds.numberToIdentity, unregistered, owner]
  · refine ⟨.numbers ((chat.identityToNumber.lookup identityKey).getD [])
      (chat.numberToShortNumber.lookup ((chat.identityToNumber.lookup identityKey).getD [])),
      keyspace, chat, timestamps, ?_,
      .checked (fun passes => unregistered passes.1) (by simp), holds, limits⟩
    simp [registerChatNumberScript, Keyspace.hget, holds.identityToNumber,
      holds.numberToShortNumber, unregistered]

end Redisdb

/-! ## Timestamps of whole runs -/

/-- The directory in Redis with the timestamps of all executions that reached
the rate limiting block. -/
structure LimitedChat where
  db : RedisChat
  /-- History: in the order of the executions. -/
  timestamps : List Int

namespace LimitedChat

def initial : LimitedChat := ⟨.initial, []⟩

/-- The timestamp of a step that reaches the rate limiting block. -/
def limitedAt (db : RedisChat) : RedisChat.Action → List Int
  | .firstPass _ call now _ =>
      if Redisdb.PassesChecks db.chatNumbers call.identityKey call.newNumber then [now] else []
  | .secondPass _ _ => []

def step (state : LimitedChat) (action : RedisChat.Action) : Option LimitedChat :=
  (state.db.step action).map fun db => ⟨db, state.timestamps ++ limitedAt state.db action⟩

/-- The token counter. A missing counter counts as zero. -/
def tokens (state : LimitedChat) : Int :=
  ((state.db.keyspace.integer? Redisdb.registrationTokensKey).getD none).getD 0

structure Sound (state : LimitedChat) : Prop where
  holds : Redisdb.Holds state.db.keyspace state.db.chatNumbers
  limits : Redisdb.Limits state.db.keyspace state.timestamps

theorem Sound.initial : Sound initial where
  holds := .empty
  limits := ⟨rfl, none, rfl, rfl⟩

variable {state next : LimitedChat}

theorem Sound.tokens (sound : Sound state) : state.tokens = available state.timestamps := by
  rcases sound.limits.tokens with ⟨tokens, stored, counted⟩
  rw [LimitedChat.tokens, stored]
  exact counted

/-- An execution of the script for a call. -/
theorem Sound.execution (sound : Sound state) (limited : Bool) {db : RedisChat}
    {call : Registration} {now : Int} {reply : Redisdb.Reply}
    (executes : state.db.execute call (Redisdb.requiredTokens limited) now =
      some (reply, db.keyspace)) :
    ∃ timestamps, Sound ⟨db, timestamps⟩ ∧
      Redisdb.Execution state.db.chatNumbers state.timestamps call.identityKey call.newNumber
        call.newShortNumber limited now reply db.chatNumbers timestamps ∧
      timestamps = state.timestamps ++ if limited = true ∧
        Redisdb.PassesChecks state.db.chatNumbers call.identityKey call.newNumber
        then [now] else [] := by
  rcases Redisdb.registerChatNumberScript_execution sound.holds sound.limits call.identityKey
    call.newNumber call.newShortNumber limited now with
    ⟨reply', keyspace, chat, timestamps, runs, execution, holds, limits⟩
  cases runs.symm.trans executes
  have sameChat : db.chatNumbers = chat := RedisChat.chatNumbers_of_holds holds
  subst chat
  exact ⟨timestamps, ⟨holds, limits⟩, execution, execution.timestamps_eq⟩

/-- What the first pass of a call does. -/
theorem Sound.firstPass (sound : Sound state) {caller : Nat} {call : Registration} {now : Int}
    {answered : Bool} (taken : state.step (.firstPass caller call now answered) = some next) :
    Sound next ∧ ∃ reply, (state.db.execute call
        Redisdb.minMillisPerChatNumberRegistration now).map Prod.fst = some reply ∧
      Redisdb.Execution state.db.chatNumbers state.timestamps call.identityKey call.newNumber
        call.newShortNumber true now reply next.db.chatNumbers next.timestamps ∧
      ∀ other, next.db.sleeping other ≠ none →
        other ≠ caller ∧ state.db.sleeping other ≠ none ∨
        other = caller ∧ RedisChat.sleepsAfter call reply ≠ none := by
  rcases Option.map_eq_some_iff.mp taken with ⟨db, passes, rfl⟩
  rcases RedisChat.firstPass_taken passes with ⟨awake, reply, keyspace, executes, result⟩
  have sameKeyspace : db.keyspace = keyspace := by
    rw [result]
    cases answered <;> rfl
  have sleeping : db.sleeping = if answered then
      Function.update state.db.sleeping caller (RedisChat.sleepsAfter call reply)
      else state.db.sleeping := by
    rw [result]
    cases answered <;> rfl
  subst keyspace
  rcases sound.execution true executes with ⟨timestamps, sound', execution, times⟩
  simp only [true_and] at times
  rw [times] at sound' execution
  refine ⟨sound', reply, by rw [executes]; rfl, execution, ?_⟩
  intro other asleep
  change db.sleeping other ≠ none at asleep
  rw [sleeping] at asleep
  by_cases same : other = caller
  · subst other
    cases answered with
    | false => exact absurd awake asleep
    | true =>
        simp only [if_true, Function.update_self] at asleep
        exact Or.inr ⟨rfl, asleep⟩
  · left
    cases answered with
    | false => exact ⟨same, asleep⟩
    | true =>
        simp only [if_true, Function.update_of_ne same] at asleep
        exact ⟨same, asleep⟩

/-- What the second pass of a call does. -/
theorem Sound.secondPass (sound : Sound state) {caller : Nat} {answered : Bool}
    (taken : state.step (.secondPass caller answered) = some next) :
    Sound next ∧ ∃ call reply, state.db.sleeping caller = some call ∧
      (state.db.execute call 0 0).map Prod.fst = some reply ∧
      Redisdb.Execution state.db.chatNumbers state.timestamps call.identityKey call.newNumber
        call.newShortNumber false 0 reply next.db.chatNumbers next.timestamps ∧
      next.db.sleeping = Function.update state.db.sleeping caller none := by
  rcases Option.map_eq_some_iff.mp taken with ⟨db, passes, rfl⟩
  rcases RedisChat.secondPass_taken passes with
    ⟨call, reply, keyspace, asleep, executes, result⟩
  have sameKeyspace : db.keyspace = keyspace := by rw [result]
  subst keyspace
  rcases sound.execution false executes with ⟨timestamps, sound', execution, times⟩
  simp only [Bool.false_eq_true, false_and, if_false] at times
  rw [times] at sound' execution
  exact ⟨sound', call, reply, asleep, by rw [executes]; rfl, execution, by rw [result]⟩

theorem Sound.of_run
    (run : Transition.Run LimitedChat.step Transition.anyStep LimitedChat.initial state) :
    Sound state := by
  apply Transition.Run.preserves run Sound.initial
  intro current action next _ sound _ taken
  cases action with
  | firstPass caller call now answered => exact (sound.firstPass taken).1
  | secondPass caller answered => exact (sound.secondPass taken).1

end LimitedChat

/-! ## A common clock -/

/-- The callers share a clock, in nanoseconds. A caller reads it, executes the
script with what it read, and sleeps for as long as the answer says. -/
structure TimedChat where
  limited : LimitedChat
  clock : Int
  /-- The calls that have read the clock, and what they read. -/
  calling : Nat → Option (Registration × Int)
  /-- When a sleeping call may wake up, and the execution that it belongs to,
  counted from one. -/
  wake : Nat → Int × Nat
  /-- History: for each registration the execution that it belongs to and the
  time at which it was written. -/
  writes : List (Nat × Int)

namespace TimedChat

inductive Action where
  | tick (nanoseconds : Nat)
  | readClock (caller : Nat) (call : Registration)
  | firstPass (caller : Nat) (answered : Bool)
  | secondPass (caller : Nat) (answered : Bool)
  deriving DecidableEq, Repr

def initial (clock : Int) : TimedChat := ⟨.initial, clock, fun _ => none, fun _ => (0, 0), []⟩

def nanosPerMilli : Int := 1000000

def unixMilli (clock : Int) : Int := clock / nanosPerMilli

/-- The duration of the sleep after the first pass. -/
def sleepFor : Redisdb.Reply → Int
  | .integer n => n * nanosPerMilli
  | .numbers _ _ => 0

/-- The registration that is written by an execution with this answer, if the
checks let the call through. -/
def writtenBy (db : RedisChat) (call : Registration) (execution : Nat) (clock : Int) :
    Redisdb.Reply → List (Nat × Int)
  | .numbers _ _ =>
      if Redisdb.PassesChecks db.chatNumbers call.identityKey call.newNumber
      then [(execution, clock)] else []
  | .integer _ => []

def step (state : TimedChat) : Action → Option TimedChat
  | .tick nanoseconds => some { state with clock := state.clock + nanoseconds }
  | .readClock caller call =>
      if state.calling caller = none ∧ state.limited.db.sleeping caller = none then
        some { state with
          calling := Function.update state.calling caller
            (some (call, unixMilli state.clock)) }
      else none
  | .firstPass caller answered => do
      let (call, now) ← state.calling caller
      let (reply, _) ← state.limited.db.execute call
        Redisdb.minMillisPerChatNumberRegistration now
      let limited ← state.limited.step (.firstPass caller call now answered)
      let execution := limited.timestamps.length
      return { state with
        limited := limited
        calling := Function.update state.calling caller none
        wake := Function.update state.wake caller (state.clock + sleepFor reply, execution)
        writes := state.writes ++
          writtenBy state.limited.db call execution state.clock reply }
  | .secondPass caller answered => do
      let call ← state.limited.db.sleeping caller
      if (state.wake caller).1 ≤ state.clock then
        let (reply, _) ← state.limited.db.execute call 0 0
        let limited ← state.limited.step (.secondPass caller answered)
        return { state with
          limited := limited
          writes := state.writes ++
            writtenBy state.limited.db call (state.wake caller).2 state.clock reply }
      else none

theorem writtenBy_of_fails {db : RedisChat} {call : Registration} {execution : Nat} {clock : Int}
    {reply : Redisdb.Reply}
    (fails : ¬ Redisdb.PassesChecks db.chatNumbers call.identityKey call.newNumber) :
    writtenBy db call execution clock reply = [] := by
  cases reply <;> simp [writtenBy, fails]

/-! ### Every registration is written in time -/

/-- The time before which the registration of an execution is not written. -/
def due (timestamps : List Int) (execution : Nat) : Int :=
  (timestamps.headD 0 + Redisdb.minMillisPerChatNumberRegistration * (execution - 1)) *
    nanosPerMilli

/-- This execution took place, and the time is not before its registration is
due. -/
structure Due (timestamps : List Int) (execution : Nat) (time : Int) : Prop where
  positive : 1 ≤ execution
  bounded : execution ≤ timestamps.length
  inTime : due timestamps execution ≤ time

theorem Due.append {timestamps : List Int} {execution : Nat} {time : Int}
    (isDue : Due timestamps execution time) (later : List Int) :
    Due (timestamps ++ later) execution time := by
  have positive := isDue.positive
  have bounded := isDue.bounded
  have sameHead : (timestamps ++ later).headD 0 = timestamps.headD 0 := by
    cases timestamps with
    | nil =>
        rw [List.length_nil] at bounded
        omega
    | cons first rest => rfl
  refine ⟨positive, ?_, ?_⟩
  · rw [List.length_append]
    omega
  · rw [due, sameHead]
    exact isDue.inTime

/-- The tokens are what is left of the time at which the execution is due. -/
theorem due_concat (timestamps : List Int) (now : Int) :
    due (timestamps ++ [now]) (timestamps.length + 1) =
      (now - available (timestamps ++ [now])) * nanosPerMilli := by
  cases timestamps with
  | nil => simp [due, available]
  | cons first rest =>
      simp only [due, available, List.cons_append, List.headD_cons, List.getLastD_concat,
        List.length_append, List.length_cons, List.length_nil,
        Redisdb.minMillisPerChatNumberRegistration, nanosPerMilli]
      push_cast
      omega

theorem Due.newest (timestamps : List Int) {now time : Int}
    (inTime : (now - available (timestamps ++ [now])) * nanosPerMilli ≤ time) :
    Due (timestamps ++ [now]) (timestamps.length + 1) time where
  positive := by omega
  bounded := by simp
  inTime := (due_concat timestamps now).le.trans inTime

theorem unixMilli_le (clock : Int) : unixMilli clock * nanosPerMilli ≤ clock := by
  simp only [unixMilli, nanosPerMilli]
  omega

/-- Every sleeping call and every registration belongs to an execution of its
own, and neither wakes up nor is written before it is due. -/
structure Owned (timestamps : List Int) (asleep : Nat → Prop) (wake : Nat → Int × Nat)
    (writes : List (Nat × Int)) : Prop where
  sleepers : ∀ caller, asleep caller → Due timestamps (wake caller).2 (wake caller).1
  apart : ∀ caller other, asleep caller → asleep other →
    (wake caller).2 = (wake other).2 → caller = other
  unwritten : ∀ caller, asleep caller → (wake caller).2 ∉ writes.map Prod.fst
  written : ∀ execution time, (execution, time) ∈ writes → Due timestamps execution time
  once : (writes.map Prod.fst).Nodup

namespace Owned

variable {timestamps : List Int} {asleep asleep' : Nat → Prop} {wake wake' : Nat → Int × Nat}
  {writes : List (Nat × Int)}

variable (owned : Owned timestamps asleep wake writes)

include owned

theorem bounded {execution : Nat} (written : execution ∈ writes.map Prod.fst) :
    execution ≤ timestamps.length := by
  rcases List.mem_map.mp written with ⟨⟨_, time⟩, member, rfl⟩
  exact (owned.written _ time member).bounded

/-- Calls may end, and executions may be added. -/
theorem mono (later : List Int)
    (fewer : ∀ caller, asleep' caller → asleep caller ∧ wake' caller = wake caller) :
    Owned (timestamps ++ later) asleep' wake' writes where
  sleepers caller sleeps := by
    rw [(fewer caller sleeps).2]
    exact (owned.sleepers caller (fewer caller sleeps).1).append later
  apart caller other sleeps sleeps' same := by
    rw [(fewer caller sleeps).2, (fewer other sleeps').2] at same
    exact owned.apart caller other (fewer caller sleeps).1 (fewer other sleeps').1 same
  unwritten caller sleeps := by
    rw [(fewer caller sleeps).2]
    exact owned.unwritten caller (fewer caller sleeps).1
  written execution time member := (owned.written execution time member).append later
  once := owned.once

theorem restrict (fewer : ∀ caller, asleep' caller → asleep caller ∧ wake' caller = wake caller) :
    Owned timestamps asleep' wake' writes := by
  have kept := owned.mono [] fewer
  rwa [List.append_nil] at kept

/-- The call of a new execution goes to sleep. -/
theorem sleep {now : Int} {caller : Nat}
    (own : (wake' caller).2 = timestamps.length + 1)
    (isDue : Due (timestamps ++ [now]) (wake' caller).2 (wake' caller).1)
    (others : ∀ other, asleep' other → other ≠ caller →
      asleep other ∧ wake' other = wake other) :
    Owned (timestamps ++ [now]) asleep' wake' writes := by
  have earlier : ∀ other, asleep' other → other ≠ caller →
      (wake' other).2 ≠ (wake' caller).2 := by
    intro other sleeps different same
    have bounded := (owned.sleepers other (others other sleeps different).1).bounded
    rw [(others other sleeps different).2, own] at same
    omega
  constructor
  · intro other sleeps
    by_cases same : other = caller
    · exact same ▸ isDue
    · rw [(others other sleeps same).2]
      exact (owned.sleepers other (others other sleeps same).1).append [now]
  · intro first second sleeps sleeps' same
    by_cases isFirst : first = caller
    · by_contra different
      subst isFirst
      exact earlier second sleeps' (Ne.symm different) same.symm
    · by_cases isSecond : second = caller
      · subst isSecond
        exact absurd same (earlier first sleeps isFirst)
      · rw [(others first sleeps isFirst).2, (others second sleeps' isSecond).2] at same
        exact owned.apart first second (others first sleeps isFirst).1
          (others second sleeps' isSecond).1 same
  · intro other sleeps
    by_cases same : other = caller
    · intro written
      have bounded := owned.bounded written
      rw [same, own] at bounded
      omega
    · rw [(others other sleeps same).2]
      exact owned.unwritten other (others other sleeps same).1
  · intro execution time member
    exact (owned.written execution time member).append [now]
  · exact owned.once

/-- A registration is written for an execution that no sleeping call has. -/
theorem write {execution : Nat} {time : Int} (isDue : Due timestamps execution time)
    (unused : execution ∉ writes.map Prod.fst)
    (free : ∀ caller, asleep caller → (wake caller).2 ≠ execution) :
    Owned timestamps asleep wake (writes ++ [(execution, time)]) where
  sleepers := owned.sleepers
  apart := owned.apart
  unwritten caller sleeps := by
    simp only [List.map_append, List.map_cons, List.map_nil, List.mem_append,
      List.mem_singleton, not_or]
    exact ⟨owned.unwritten caller sleeps, free caller sleeps⟩
  written execution' time' member := by
    rcases List.mem_append.mp member with earlier | new
    · exact owned.written execution' time' earlier
    · cases List.mem_singleton.mp new
      exact isDue
  once := by
    rw [List.map_append, List.nodup_append_comm]
    exact List.nodup_cons.mpr ⟨unused, owned.once⟩

/-- The call of a new execution writes its registration at once. -/
theorem writeNewest {now time : Int}
    (isDue : Due (timestamps ++ [now]) (timestamps.length + 1) time)
    (fewer : ∀ caller, asleep' caller → asleep caller ∧ wake' caller = wake caller) :
    Owned (timestamps ++ [now]) asleep' wake'
      (writes ++ [(timestamps.length + 1, time)]) := by
  apply (owned.mono [now] fewer).write isDue
  · intro written
    have bounded := owned.bounded written
    omega
  · intro caller sleeps same
    have bounded := (owned.sleepers caller (fewer caller sleeps).1).bounded
    rw [(fewer caller sleeps).2] at same
    omega

end Owned

structure Sound (state : TimedChat) : Prop where
  limited : state.limited.Sound
  readings : ∀ caller call now, state.calling caller = some (call, now) →
    now * nanosPerMilli ≤ state.clock
  owned : Owned state.limited.timestamps (fun caller =>
    state.limited.db.sleeping caller ≠ none) state.wake state.writes
  counted : state.limited.db.chatNumbers.numberToIdentity.keys.length = state.writes.length

theorem Sound.initial (clock : Int) : Sound (initial clock) where
  limited := .initial
  readings := by simp [TimedChat.initial]
  owned := by constructor <;> simp [TimedChat.initial, LimitedChat.initial, RedisChat.initial]
  counted := rfl

variable {state next : TimedChat}

/-- A free number adds one entry. -/
theorem length_keys_register (chat : ChatNumbers) {identityKey newNumber newShortNumber : Text}
    (free : chat.numberToIdentity.lookup newNumber = none) :
    (chat.register identityKey newNumber newShortNumber).numberToIdentity.keys.length =
      chat.numberToIdentity.keys.length + 1 := by
  have absent := AList.lookup_eq_none.mp free
  rw [ChatNumbers.register, AList.keys, AList.entries_insert_of_notMem absent]
  rfl

theorem Sound.firstPass (sound : Sound state) {caller : Nat} {answered : Bool}
    (taken : state.step (.firstPass caller answered) = some next) : Sound next := by
  rcases Option.bind_eq_some_iff.mp taken with ⟨⟨call, now⟩, reads, taken⟩
  rcases Option.bind_eq_some_iff.mp taken with ⟨⟨reply, keyspace⟩, executes, taken⟩
  rcases Option.bind_eq_some_iff.mp taken with ⟨limited, passes, taken⟩
  cases taken
  rcases sound.limited.firstPass passes with ⟨limitedSound, reply', replied, execution, asleep⟩
  rw [executes] at replied
  cases replied
  have inTime := sound.readings caller call now reads
  have unread : ∀ other call' now', Function.update state.calling caller none other =
      some (call', now') → now' * nanosPerMilli ≤ state.clock := by
    intro other call' now' reads'
    exact sound.readings other call' now' (of_update_none reads').2
  suffices after : Owned limited.timestamps (fun other => limited.db.sleeping other ≠ none)
      (Function.update state.wake caller (state.clock + sleepFor reply,
        limited.timestamps.length))
      (state.writes ++ writtenBy state.limited.db call limited.timestamps.length state.clock
        reply) ∧
      limited.db.chatNumbers.numberToIdentity.keys.length =
        (state.writes ++ writtenBy state.limited.db call limited.timestamps.length state.clock
          reply).length by
    exact ⟨limitedSound, unread, after.1, after.2⟩
  have others : ∀ other, limited.db.sleeping other ≠ none → other ≠ caller →
      state.limited.db.sleeping other ≠ none ∧
        Function.update state.wake caller (state.clock + sleepFor reply,
          limited.timestamps.length) other = state.wake other := by
    intro other sleeps different
    rcases asleep other sleeps with earlier | ⟨same, _⟩
    · exact ⟨earlier.2, Function.update_of_ne different ..⟩
    · exact absurd same different
  have awake : RedisChat.sleepsAfter call reply = none →
      ∀ other, limited.db.sleeping other ≠ none →
        state.limited.db.sleeping other ≠ none ∧
          Function.update state.wake caller (state.clock + sleepFor reply,
            limited.timestamps.length) other = state.wake other := by
    intro settled other sleeps
    rcases asleep other sleeps with ⟨different, _⟩ | ⟨_, falls⟩
    · exact others other sleeps different
    · exact absurd settled falls
  generalize limited.db.chatNumbers = chat at execution
  generalize limited.timestamps = timestamps at execution others awake
  cases execution with
  | checked fails settled =>
      have stays : RedisChat.sleepsAfter call reply = none := by
        cases reply with
        | numbers => rfl
        | integer n => simp [RedisChat.sleepsAfter, settled n rfl]
      rw [writtenBy_of_fails fails, List.append_nil]
      exact ⟨sound.owned.restrict (awake stays), sound.counted⟩
  | short passes isLimited lacking =>
      rw [writtenBy, List.append_nil]
      refine ⟨sound.owned.sleep (by simp) ?_ others, sound.counted⟩
      rw [Function.update_self, List.length_append, List.length_singleton]
      apply Due.newest
      simp only [sleepFor, nanosPerMilli] at inTime ⊢
      omega
  | registered passes enough =>
      rw [if_pos rfl, List.length_append, List.length_singleton] at awake ⊢
      rw [writtenBy, if_pos passes, length_keys_register _ passes.2, sound.counted,
        List.length_append, List.length_singleton]
      refine ⟨sound.owned.writeNewest ?_ (awake rfl), rfl⟩
      apply Due.newest
      have enough := enough rfl
      simp only [nanosPerMilli] at inTime ⊢
      omega

theorem Sound.secondPass (sound : Sound state) {caller : Nat} {answered : Bool}
    (taken : state.step (.secondPass caller answered) = some next) : Sound next := by
  rcases Option.bind_eq_some_iff.mp taken with ⟨call, sleeping, taken⟩
  split at taken
  · rename_i woken
    rcases Option.bind_eq_some_iff.mp taken with ⟨⟨reply, keyspace⟩, executes, taken⟩
    rcases Option.bind_eq_some_iff.mp taken with ⟨limited, passes, taken⟩
    cases taken
    rcases sound.limited.secondPass passes with
      ⟨limitedSound, call', reply', sleeping', replied, execution, remaining⟩
    cases sleeping.symm.trans sleeping'
    rw [executes] at replied
    cases replied
    suffices after : Owned limited.timestamps (fun other => limited.db.sleeping other ≠ none)
        state.wake (state.writes ++ writtenBy state.limited.db call (state.wake caller).2
          state.clock reply) ∧
        limited.db.chatNumbers.numberToIdentity.keys.length = (state.writes ++
          writtenBy state.limited.db call (state.wake caller).2 state.clock reply).length by
      exact ⟨limitedSound, sound.readings, after.1, after.2⟩
    have isAsleep : state.limited.db.sleeping caller ≠ none := by simp [sleeping]
    have others : ∀ other, limited.db.sleeping other ≠ none →
        other ≠ caller ∧ state.limited.db.sleeping other ≠ none := by
      intro other sleeps
      rw [remaining] at sleeps
      by_cases same : other = caller
      · rw [same, Function.update_self] at sleeps
        exact absurd rfl sleeps
      · rw [Function.update_of_ne same] at sleeps
        exact ⟨same, sleeps⟩
    have kept := sound.owned.restrict fun other sleeps => ⟨(others other sleeps).2, rfl⟩
    generalize limited.db.chatNumbers = chat at execution
    generalize limited.timestamps = timestamps at execution
    cases execution with
    | checked fails settled =>
        rw [writtenBy_of_fails fails, List.append_nil]
        exact ⟨kept, sound.counted⟩
    | short passes isLimited => cases isLimited
    | registered passes =>
        have isDue := sound.owned.sleepers caller isAsleep
        rw [writtenBy, if_pos passes, length_keys_register _ passes.2, sound.counted,
          List.length_append, List.length_singleton]
        refine ⟨?_, rfl⟩
        apply kept.write
        · exact ⟨isDue.positive, isDue.bounded, isDue.inTime.trans woken⟩
        · exact sound.owned.unwritten caller isAsleep
        · intro other sleeps same
          have facts := others other sleeps
          exact facts.1 (sound.owned.apart other caller facts.2 isAsleep same)
  · cases taken

theorem Sound.step (sound : Sound state) {action : Action}
    (taken : state.step action = some next) : Sound next := by
  cases action with
  | tick nanoseconds =>
      cases taken
      refine ⟨sound.limited, ?_, sound.owned, sound.counted⟩
      intro caller call now reads
      have inTime := sound.readings caller call now reads
      dsimp only
      omega
  | readClock caller call =>
      simp only [TimedChat.step] at taken
      split at taken
      · cases taken
        refine ⟨sound.limited, ?_, sound.owned, sound.counted⟩
        intro other call' now reads
        rcases of_update_some reads with ⟨_, new⟩ | ⟨_, earlier⟩
        · cases new
          exact unixMilli_le state.clock
        · exact sound.readings other call' now earlier
      · cases taken
  | firstPass caller answered => exact sound.firstPass taken
  | secondPass caller answered => exact sound.secondPass taken

theorem Sound.of_run {clock : Int}
    (run : Transition.Run TimedChat.step Transition.anyStep (TimedChat.initial clock) state) :
    Sound state := by
  apply Transition.Run.preserves run (Sound.initial clock)
  intro current action next _ sound _ taken
  exact sound.step taken

/-- Registrations that are written early belong to early executions. -/
theorem Owned.length_filter_le {first : Int} {rest : List Int} {asleep : Nat → Prop}
    {wake : Nat → Int × Nat} {writes : List (Nat × Int)}
    (owned : Owned (first :: rest) asleep wake writes) (period : Nat) :
    (writes.filter fun write => write.2 ≤ (first + period) * nanosPerMilli).length ≤
      period / 500 + 1 := by
  have subset : (writes.filter fun write =>
      write.2 ≤ (first + period) * nanosPerMilli).map Prod.fst ⊆
      List.range' 1 (period / 500 + 1) := by
    intro execution member
    rcases List.mem_map.mp member with ⟨⟨_, time⟩, early, rfl⟩
    rcases List.mem_filter.mp early with ⟨written, early⟩
    have isDue := owned.written _ time written
    have positive := isDue.positive
    have inTime := isDue.inTime
    have early : time ≤ (first + period) * nanosPerMilli := of_decide_eq_true early
    simp only [due, List.headD_cons, Redisdb.minMillisPerChatNumberRegistration,
      nanosPerMilli] at inTime early
    rw [List.mem_range'_1]
    omega
  have distinct : ((writes.filter fun write =>
      write.2 ≤ (first + period) * nanosPerMilli).map Prod.fst).Nodup :=
    owned.once.sublist (List.filter_sublist.map Prod.fst)
  have bound := (List.subperm_of_subset distinct subset).length_le
  simpa using bound

end TimedChat

/-- With arbitrary timestamps, the token counter is the time from the first to
the last execution that reached the rate limiting block, less the tokens that
all but the first of them took. On a common clock, the registration of an
execution is not written before its turn, so that their number is bounded. -/
theorem registration_rate_is_bounded :
    (∀ state, Transition.Run LimitedChat.step Transition.anyStep LimitedChat.initial state →
      ∀ first rest, state.timestamps = first :: rest →
        state.tokens = rest.getLastD first - first - 500 * rest.length) ∧
    (∀ clock state, Transition.Run TimedChat.step Transition.anyStep
        (TimedChat.initial clock) state →
      ∀ first rest, state.limited.timestamps = first :: rest →
        (∀ execution time, (execution, time) ∈ state.writes →
          1 ≤ execution ∧ execution ≤ rest.length + 1 ∧
          (first + 500 * (execution - 1)) * TimedChat.nanosPerMilli ≤ time) ∧
        (state.writes.map Prod.fst).Nodup ∧
        state.limited.db.chatNumbers.numberToIdentity.keys.length = state.writes.length ∧
        ∀ period : Nat, (state.writes.filter fun write =>
            write.2 ≤ (first + period) * TimedChat.nanosPerMilli).length ≤
          period / 500 + 1) := by
  constructor
  · intro state run first rest times
    rw [(LimitedChat.Sound.of_run run).tokens, times]
    rfl
  · intro clock state run first rest times
    have sound := TimedChat.Sound.of_run run
    have owned := sound.owned
    rw [times] at owned
    refine ⟨?_, owned.once, sound.counted, owned.length_filter_le⟩
    intro execution time written
    have isDue := owned.written execution time written
    exact ⟨isDue.positive, isDue.bounded, isDue.inTime⟩

/-- Three registrations, the second of which has to wait, and two executions
whose timestamps are out of order. -/
theorem registrations_wait_for_their_turn :
    (∃ state, Transition.Run LimitedChat.step Transition.anyStep LimitedChat.initial state ∧
      state.timestamps = [1000, 900] ∧ state.tokens = -600) ∧
    (∃ state, Transition.Run TimedChat.step Transition.anyStep (TimedChat.initial 0) state ∧
      state.writes = [(1, 0), (3, 1100000000), (2, 1100000000)] ∧
      (state.writes.filter fun write => write.2 ≤ (0 + 600) * TimedChat.nanosPerMilli).length ≤
        600 / 500 + 1) := by
  constructor
  · have run : ∃ state, Transition.Run LimitedChat.step Transition.anyStep
          LimitedChat.initial state ∧ state.timestamps = [1000, 900] :=
      Transition.Run.exists_of_execute [.firstPass 1 ⟨['a'], ['1'], ['1']⟩ 1000 true,
        .firstPass 2 ⟨['b'], ['2'], ['2']⟩ 900 true] (by decide +kernel)
    rcases run with ⟨state, run, times⟩
    exact ⟨state, run, times, registration_rate_is_bounded.1 state run 1000 [900] times⟩
  · have run : ∃ state, Transition.Run TimedChat.step Transition.anyStep
          (TimedChat.initial 0) state ∧
        state.writes = [(1, 0), (3, 1100000000), (2, 1100000000)] ∧
        state.limited.timestamps = [0, 0, 1100] :=
      Transition.Run.exists_of_execute
        [.readClock 1 ⟨['a'], ['1'], ['1']⟩, .readClock 2 ⟨['b'], ['2'], ['2']⟩,
          .firstPass 1 true, .firstPass 2 true, .tick 1100000000,
          .readClock 3 ⟨['c'], ['3'], ['3']⟩, .firstPass 3 true, .secondPass 2 true]
        (by decide +kernel)
    rcases run with ⟨state, run, writes, times⟩
    exact ⟨state, run, writes,
      (registration_rate_is_bounded.2 0 state run 0 [0, 1100] times).2.2.2 600⟩

end Tassis.Database
