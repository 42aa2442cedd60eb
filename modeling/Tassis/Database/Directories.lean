import Tassis.Database.Permanence

/-! # The two directories of chat numbers

The calls on the directory in memory and on the one in Redis. A registration in
Redis may sleep between two executions of its script. Both directories go
through the same states, and they give the same answers to the same calls
except for entries that are missing.
-/

namespace Tassis.Database

inductive Backend where
  | memdb
  | redisdb
  deriving DecidableEq, Repr

/-- How far an execution brings a call of `RegisterChatNumber`. -/
inductive CallProgress where
  | answered (result : Except DBError (Text × Text))
  | sleeps
  /-- A type assertion on the reply fails. -/
  | crashed
  deriving DecidableEq

/-! ## What an execution does to a directory -/

/-- What an execution for a call does to the directory. -/
inductive ChatNumbers.Answers (chat : ChatNumbers) (call : Registration) (asleep : Bool) :
    CallProgress → ChatNumbers → Prop where
  | existing {number shortNumber} (has : chat.Has call.identityKey number shortNumber) :
      Answers chat call asleep (.answered (.ok (number, shortNumber))) chat
  | taken {owner} (unregistered : chat.identityToNumber.lookup call.identityKey = none)
      (owned : chat.numberToIdentity.lookup call.newNumber = some owner) :
      Answers chat call asleep (.answered (.error .numberTaken)) chat
  | registered (unregistered : chat.identityToNumber.lookup call.identityKey = none)
      (free : chat.numberToIdentity.lookup call.newNumber = none) :
      Answers chat call asleep (.answered (.ok (call.newNumber, call.newShortNumber)))
        (chat.register call.identityKey call.newNumber call.newShortNumber)
  | sleeps (unregistered : chat.identityToNumber.lookup call.identityKey = none)
      (free : chat.numberToIdentity.lookup call.newNumber = none) (awake : asleep = false) :
      Answers chat call asleep .sleeps chat

namespace ChatNumbers

variable {chat next : ChatNumbers} {call : Registration} {asleep : Bool} {progress : CallProgress}

theorem Answers.bijective (answers : chat.Answers call asleep progress next)
    (bijective : chat.Bijective) : next.Bijective := by
  cases answers with
  | existing | taken | sleeps => exact bijective
  | registered unregistered free => exact bijective.register unregistered free

theorem Answers.named (answers : chat.Answers call asleep progress next) (named : chat.Named)
    (nonempty : call.newNumber ≠ []) : next.Named := by
  cases answers with
  | existing | taken | sleeps => exact named
  | registered => exact named.register nonempty

theorem Answers.grows (answers : chat.Answers call asleep progress next)
    (bijective : chat.Bijective) : chat.Extends next := by
  cases answers with
  | existing | taken | sleeps => exact .refl chat
  | registered unregistered free => exact bijective.extends_register unregistered free

/-- A pair that is answered is what the identity has. -/
theorem Answers.has {number shortNumber : Text}
    (answers : chat.Answers call asleep (.answered (.ok (number, shortNumber))) next) :
    next.Has call.identityKey number shortNumber := by
  cases answers with
  | existing has => exact has
  | registered => exact has_register ..

theorem Answers.taken_of_error {err : DBError}
    (answers : chat.Answers call asleep (.answered (.error err)) next) :
    err = .numberTaken ∧ ∃ owner, chat.identityToNumber.lookup call.identityKey = none ∧
      chat.numberToIdentity.lookup call.newNumber = some owner ∧ next = chat := by
  cases answers with
  | taken unregistered owned => exact ⟨rfl, _, unregistered, owned, rfl⟩

/-- What an identity has after an execution, it had before or it was given. -/
theorem Answers.of_has (answers : chat.Answers call asleep progress next)
    (bijective : chat.Bijective) {identityKey number shortNumber : Text}
    (has : next.Has identityKey number shortNumber) :
    chat.Has identityKey number shortNumber ∨
      identityKey = call.identityKey ∧ number = call.newNumber ∧
        shortNumber = call.newShortNumber := by
  cases answers with
  | existing | taken | sleeps => exact Or.inl has
  | registered unregistered free =>
      by_cases sameIdentity : identityKey = call.identityKey
      · subst identityKey
        rcases Has.unique (has_register chat call.identityKey call.newNumber
          call.newShortNumber) has with ⟨sameNumber, sameShort⟩
        exact Or.inr ⟨rfl, sameNumber, sameShort⟩
      · have numbered := has.numbered
        simp only [register, AList.lookup_insert_ne sameIdentity] at numbered
        have different : number ≠ call.newNumber := by
          rintro rfl
          rw [(bijective.inverse _ _).mp numbered] at free
          cases free
        have shortened := has.shortened
        simp only [register, AList.lookup_insert_ne different] at shortened
        exact Or.inl ⟨numbered, shortened⟩

/-- The directory determines what a call is answered. -/
theorem Answers.unique {asleep' : Bool} {next' : ChatNumbers}
    {result result' : Except DBError (Text × Text)}
    (first : chat.Answers call asleep (.answered result) next)
    (second : chat.Answers call asleep' (.answered result') next') :
    result' = result ∧ next' = next := by
  cases first with
  | existing has =>
      cases second with
      | existing has' =>
          rcases has.unique has' with ⟨rfl, rfl⟩
          exact ⟨rfl, rfl⟩
      | taken unregistered | registered unregistered =>
          cases has.numbered.symm.trans unregistered
  | taken unregistered owned =>
      cases second with
      | existing has => cases has.numbered.symm.trans unregistered
      | taken => exact ⟨rfl, rfl⟩
      | registered _ free => cases owned.symm.trans free
  | registered unregistered free =>
      cases second with
      | existing has => cases has.numbered.symm.trans unregistered
      | taken _ owned => cases owned.symm.trans free
      | registered => exact ⟨rfl, rfl⟩

end ChatNumbers

/-! ## Executions -/

namespace Redisdb

/-- What the code makes of a reply, before or after the sleep. -/
def progress (asleep : Bool) : Reply → CallProgress
  | .numbers number (some shortNumber) => .answered (.ok (number, shortNumber))
  | .numbers _ none => .crashed
  | .integer n =>
      if n = -1 then .answered (.error .numberTaken)
      else if asleep then .crashed else .sleeps

/-- An execution of the script, which has no rate limiting after the sleep. -/
def executeScript (keyspace : Keyspace) (asleep : Bool) (call : Registration) (now : Int) :
    Option (CallProgress × Keyspace) := do
  let (reply, keyspace) ← registerChatNumberScript keyspace call.identityKey call.newNumber
    call.newShortNumber (if asleep then 0 else minMillisPerChatNumberRegistration)
    (if asleep then 0 else now)
  return (progress asleep reply, keyspace)

/-- A call is short of a positive number of tokens. -/
theorem rateLimit_positive {keyspace next : Keyspace} {requiredTokens now tokens : Int}
    (limits : rateLimit keyspace requiredTokens now = some (some tokens, next)) :
    0 < tokens := by
  unfold rateLimit at limits
  split at limits
  · rcases Option.bind_eq_some_iff.mp limits with ⟨⟨time, stamped⟩, _, limits⟩
    cases time with
    | none => cases limits
    | some time =>
        rcases Option.bind_eq_some_iff.mp limits with ⟨⟨available, charged⟩, _, limits⟩
        dsimp only at limits
        split at limits
        · rename_i lacking
          simp only [Option.pure_def, Option.some.injEq, Prod.mk.injEq] at limits
          omega
        · cases limits
  · cases limits

theorem executeScript_answers {keyspace : Keyspace} {chat : ChatNumbers}
    (holds : Holds keyspace chat) (bijective : chat.Bijective) (named : chat.Named)
    (asleep : Bool) (call : Registration) (now : Int) :
    ∃ progress next chat', executeScript keyspace asleep call now = some (progress, next) ∧
      Holds next chat' ∧ chat.Answers call asleep progress chat' := by
  cases found : chat.identityToNumber.lookup call.identityKey with
  | some number =>
      have nonempty : number ≠ [] := named call.identityKey number found
      rcases bijective.has found with ⟨shortNumber, has⟩
      refine ⟨_, keyspace, chat, ?_, holds, .existing has⟩
      simp [executeScript, registerChatNumberScript, Keyspace.hget, holds.identityToNumber,
        holds.numberToShortNumber, found, nonempty, has.shortened, progress]
  | none =>
      cases owner : chat.numberToIdentity.lookup call.newNumber with
      | some identity =>
          refine ⟨_, keyspace, chat, ?_, holds, .taken found owner⟩
          simp [executeScript, registerChatNumberScript, Keyspace.hget,
            holds.identityToNumber, holds.numberToIdentity, found, owner, progress]
      | none =>
          rcases rateLimit_holds holds
            (if asleep then 0 else minMillisPerChatNumberRegistration)
            (if asleep then 0 else now) with ⟨shortage, limited, limits, limitedHolds⟩
          cases shortage with
          | none =>
              rcases newRegistration_holds limitedHolds call.identityKey call.newNumber
                call.newShortNumber with ⟨next, registers, nextHolds⟩
              refine ⟨_, next, _, ?_, nextHolds, .registered found owner⟩
              simp [executeScript, registerChatNumberScript, Keyspace.hget,
                holds.identityToNumber, holds.numberToIdentity, found, owner, limits,
                registers, progress]
          | some tokens =>
              have positive := rateLimit_positive limits
              have notTaken : tokens ≠ -1 := by omega
              cases asleep with
              | true => simp [rateLimit] at limits
              | false =>
                  simp only [Bool.false_eq_true, if_false] at limits
                  refine ⟨_, limited, chat, ?_, limitedHolds, .sleeps found owner rfl⟩
                  simp [executeScript, registerChatNumberScript, Keyspace.hget,
                    holds.identityToNumber, holds.numberToIdentity, found, owner, limits,
                    notTaken, progress]

end Redisdb

theorem Memdb.registerChatNumber_answers {chat : ChatNumbers} (bijective : chat.Bijective)
    (asleep : Bool) (call : Registration) :
    ∃ result next, registerChatNumber chat call.identityKey call.newNumber
        call.newShortNumber = (result, next) ∧
      chat.Answers call asleep (.answered result) next := by
  cases found : chat.identityToNumber.lookup call.identityKey with
  | some number =>
      rcases bijective.has found with ⟨shortNumber, has⟩
      refine ⟨_, chat, ?_, .existing has⟩
      simp [registerChatNumber, found, has.shortened]
  | none =>
      cases owner : chat.numberToIdentity.lookup call.newNumber with
      | some identity =>
          exact ⟨_, chat, by simp [registerChatNumber, found, owner], .taken found owner⟩
      | none =>
          exact ⟨_, _, by simp [registerChatNumber, found, owner], .registered found owner⟩

namespace Backend

def State : Backend → Type
  | .memdb => ChatNumbers
  | .redisdb => Keyspace

def initial : (backend : Backend) → backend.State
  | .memdb => ChatNumbers.empty
  | .redisdb => Keyspace.empty

/-- The directory that a database holds. -/
def directory : (backend : Backend) → backend.State → ChatNumbers
  | .memdb, chat => chat
  | .redisdb, keyspace => RedisChat.chatNumbers ⟨keyspace, fun _ => none, []⟩

def execute : (backend : Backend) → backend.State → Bool → Registration → Int →
    Option (CallProgress × backend.State)
  | .memdb, chat, _, call, _ =>
      let (result, chat) := Memdb.registerChatNumber chat call.identityKey call.newNumber
        call.newShortNumber
      some (.answered result, chat)
  | .redisdb, keyspace, asleep, call, now => Redisdb.executeScript keyspace asleep call now

/-- The database holds a directory of belonging identities and numbers. -/
structure Sound (backend : Backend) (state : backend.State) : Prop where
  holds : match backend, state with
    | .memdb, _ => True
    | .redisdb, keyspace => Redisdb.Holds keyspace (directory .redisdb keyspace)
  bijective : (backend.directory state).Bijective
  named : (backend.directory state).Named

theorem Sound.initial (backend : Backend) : Sound backend backend.initial := by
  cases backend with
  | memdb => exact ⟨trivial, .empty, fun _ _ found => by cases found⟩
  | redisdb => exact ⟨.empty, .empty, fun _ _ found => by cases found⟩

/-- An execution is always possible, and does the same to the directory in both
databases. -/
theorem Sound.execute {backend : Backend} {state : backend.State}
    (sound : Sound backend state) (asleep : Bool) {call : Registration}
    (nonempty : call.newNumber ≠ []) (now : Int) :
    ∃ progress next, backend.execute state asleep call now = some (progress, next) ∧
      Sound backend next ∧
      (backend.directory state).Answers call asleep progress (backend.directory next) := by
  cases backend with
  | memdb =>
      rcases Memdb.registerChatNumber_answers sound.bijective asleep call with
        ⟨result, next, registers, answers⟩
      refine ⟨_, next, ?_, ⟨trivial, answers.bijective sound.bijective,
        answers.named sound.named nonempty⟩, answers⟩
      have registers' : Memdb.registerChatNumber state call.identityKey call.newNumber
          call.newShortNumber = (result, next) := registers
      simp only [Backend.execute, registers']
  | redisdb =>
      rcases Redisdb.executeScript_answers sound.holds sound.bijective sound.named asleep call
        now with ⟨progress, next, chat, executes, holds, answers⟩
      have same : directory .redisdb next = chat := RedisChat.chatNumbers_of_holds holds
      subst chat
      exact ⟨progress, next, executes, ⟨holds, answers.bijective sound.bijective,
        answers.named sound.named nonempty⟩, answers⟩

end Backend

/-! ## Whole calls -/

/-- A call on a directory. A registration in Redis reads the clock. -/
inductive Call where
  | registerChatNumber (call : Registration) (now : Int)
  | findChatNumberByShortNumber (shortNumber : Text)
  | findChatNumberByIdentityKey (identityKey : Text)
  deriving DecidableEq, Repr

inductive Answer where
  | registration (progress : CallProgress)
  | number (result : Except DBError Text)
  | numbers (result : Except DBError (Text × Text))
  deriving DecidableEq

namespace Call

/-- A registration has a number that is not empty. -/
def Named : Call → Prop
  | .registerChatNumber call _ => call.newNumber ≠ []
  | _ => True

/-- A lookup finds an entry in this directory. -/
def Finds (chat : ChatNumbers) : Call → Prop
  | .registerChatNumber _ _ => True
  | .findChatNumberByShortNumber shortNumber =>
      chat.shortNumberToNumber.lookup shortNumber ≠ none
  | .findChatNumberByIdentityKey identityKey => chat.identityToNumber.lookup identityKey ≠ none

instance (call : Call) : Decidable call.Named :=
  match call with
  | .registerChatNumber .. => inferInstanceAs (Decidable (_ ≠ _))
  | .findChatNumberByShortNumber _ => inferInstanceAs (Decidable True)
  | .findChatNumberByIdentityKey _ => inferInstanceAs (Decidable True)

instance (chat : ChatNumbers) (call : Call) : Decidable (call.Finds chat) :=
  match call with
  | .registerChatNumber .. => inferInstanceAs (Decidable True)
  | .findChatNumberByShortNumber _ => inferInstanceAs (Decidable (_ ≠ _))
  | .findChatNumberByIdentityKey _ => inferInstanceAs (Decidable (_ ≠ _))

end Call

namespace Backend

/-- A registration that no other call interrupts. -/
def registerChatNumber (backend : Backend) (state : backend.State) (call : Registration)
    (now : Int) : Option (CallProgress × backend.State) := do
  let (progress, state) ← backend.execute state false call now
  match progress with
  | .sleeps => backend.execute state true call now
  | _ => return (progress, state)

def answer : (backend : Backend) → backend.State → Call → Option (Answer × backend.State)
  | backend, state, .registerChatNumber call now =>
      (backend.registerChatNumber state call now).map fun (progress, state) =>
        (.registration progress, state)
  | .memdb, chat, .findChatNumberByShortNumber shortNumber =>
      some (.number (Memdb.findChatNumberByShortNumber chat shortNumber), chat)
  | .memdb, chat, .findChatNumberByIdentityKey identityKey =>
      some (.numbers (Memdb.findChatNumberByIdentityKey chat identityKey), chat)
  | .redisdb, keyspace, .findChatNumberByShortNumber shortNumber =>
      (Redisdb.findChatNumberByShortNumber keyspace shortNumber).map fun result =>
        (.number result, keyspace)
  | .redisdb, keyspace, .findChatNumberByIdentityKey identityKey =>
      (Redisdb.findChatNumberByIdentityKey keyspace identityKey).map fun result =>
        (.numbers result, keyspace)

/-- A whole registration is answered, in Redis after one sleep at most. -/
theorem Sound.registerChatNumber {backend : Backend} {state : backend.State}
    (sound : Sound backend state) {call : Registration} (nonempty : call.newNumber ≠ [])
    (now : Int) :
    ∃ result next asleep,
      backend.registerChatNumber state call now = some (.answered result, next) ∧
      Sound backend next ∧
      (backend.directory state).Answers call asleep (.answered result)
        (backend.directory next) := by
  rcases sound.execute false nonempty now with ⟨progress, first, executes, sound', answers⟩
  cases progress with
  | answered result =>
      exact ⟨result, first, false, by simp [Backend.registerChatNumber, executes], sound',
        answers⟩
  | sleeps =>
      rcases sound'.execute true nonempty now with
        ⟨progress, second, executes', sound'', answers'⟩
      have same : backend.directory first = backend.directory state := by
        generalize backend.directory first = later at answers
        cases answers
        rfl
      rw [same] at answers'
      cases progress with
      | answered result =>
          exact ⟨result, second, true,
            by simp [Backend.registerChatNumber, executes, executes'], sound'', answers'⟩
      | sleeps =>
          generalize backend.directory second = later at answers'
          cases answers' with
          | sleeps _ _ awake => cases awake
      | crashed => cases answers'
  | crashed => cases answers

end Backend

/-- A directory in memory and one in Redis that get the same calls. -/
structure Directories where
  memory : ChatNumbers
  redis : Keyspace

namespace Directories

def initial : Directories := ⟨.empty, .empty⟩

def step (directories : Directories) (call : Call) : Option Directories := do
  let (_, memory) ← Backend.answer .memdb directories.memory call
  let (_, redis) ← Backend.answer .redisdb directories.redis call
  return ⟨memory, redis⟩

def Reaches (permitted : Directories → Call → Prop) (directories : Directories) : Prop :=
  Transition.Run step permitted initial directories

/-- Redis holds the directory in memory, and no short number leads to the empty
number. -/
structure Sound (directories : Directories) : Prop where
  memory : Backend.Sound .memdb directories.memory
  redis : Backend.Sound .redisdb directories.redis
  same : Backend.directory .redisdb directories.redis = directories.memory
  shortNamed : ∀ shortNumber number,
    directories.memory.shortNumberToNumber.lookup shortNumber = some number → number ≠ []

theorem Sound.initial : Sound initial where
  memory := .initial .memdb
  redis := .initial .redisdb
  same := rfl
  shortNamed := by
    intro shortNumber number found
    cases found

variable {directories next : Directories} {call : Call}

theorem Sound.holds (sound : directories.Sound) :
    Redisdb.Holds directories.redis directories.memory :=
  sound.same ▸ sound.redis.holds

/-- Both directories answer the call and stay sound, and their answers agree
exactly if it looks for no missing entry. -/
def Answered (directories : Directories) (call : Call) : Prop :=
  ∃ answer memory answer' redis,
    Backend.answer .memdb directories.memory call = some (answer, memory) ∧
    Backend.answer .redisdb directories.redis call = some (answer', redis) ∧
    Sound ⟨memory, redis⟩ ∧ (answer' = answer ↔ call.Finds directories.memory)

theorem Sound.registerChatNumber (sound : directories.Sound) {call : Registration}
    (nonempty : call.newNumber ≠ []) (now : Int) :
    directories.Answered (.registerChatNumber call now) := by
  rcases sound.memory.registerChatNumber nonempty now with
    ⟨result, memory, asleep, registers, sound', answers⟩
  rcases sound.redis.registerChatNumber nonempty now with
    ⟨result', redis, asleep', registers', sound'', answers'⟩
  rw [sound.same] at answers'
  rcases answers.unique answers' with ⟨rfl, same⟩
  have shortNamed : ∀ shortNumber number,
      (Backend.directory .memdb memory).shortNumberToNumber.lookup shortNumber = some number →
      number ≠ [] := by
    generalize Backend.directory .memdb memory = later at answers
    cases answers with
    | existing | taken => exact sound.shortNamed
    | registered =>
        intro shortNumber number found
        simp only [ChatNumbers.register] at found
        by_cases isNew : shortNumber = call.newShortNumber
        · rw [isNew, AList.lookup_insert, Option.some.injEq] at found
          exact found ▸ nonempty
        · rw [AList.lookup_insert_ne isNew] at found
          exact sound.shortNamed shortNumber number found
  refine ⟨.registration (.answered result'), memory, .registration (.answered result'),
    redis, ?_, ?_, ⟨sound', sound'', same, shortNamed⟩, by simp [Call.Finds]⟩
  · simp [Backend.answer, registers]
  · simp [Backend.answer, registers']

theorem Sound.findChatNumberByShortNumber (sound : directories.Sound) (shortNumber : Text) :
    directories.Answered (.findChatNumberByShortNumber shortNumber) := by
  have holds := sound.holds
  cases found : directories.memory.shortNumberToNumber.lookup shortNumber with
  | none =>
      refine ⟨.number (.error .unknownShortNumber), directories.memory,
        .number (.error .redisNil), directories.redis, ?_, ?_, sound, ?_⟩
      · simp [Backend.answer, Memdb.findChatNumberByShortNumber, found]
      · simp [Backend.answer, Redisdb.findChatNumberByShortNumber, Keyspace.hget,
          holds.shortNumberToNumber, found]
      · simp [Call.Finds, found]
  | some number =>
      have nonempty : number ≠ [] := sound.shortNamed shortNumber number found
      refine ⟨.number (.ok number), directories.memory, .number (.ok number),
        directories.redis, ?_, ?_, sound, ?_⟩
      · simp [Backend.answer, Memdb.findChatNumberByShortNumber, found]
      · simp [Backend.answer, Redisdb.findChatNumberByShortNumber, Keyspace.hget,
          holds.shortNumberToNumber, found, nonempty]
      · simp [Call.Finds, found]

theorem Sound.findChatNumberByIdentityKey (sound : directories.Sound) (identityKey : Text) :
    directories.Answered (.findChatNumberByIdentityKey identityKey) := by
  have holds := sound.holds
  cases found : directories.memory.identityToNumber.lookup identityKey with
  | none =>
      refine ⟨.numbers (.error .unknownIdentity), directories.memory,
        .numbers (.error .redisNil), directories.redis, ?_, ?_, sound, ?_⟩
      · simp [Backend.answer, Memdb.findChatNumberByIdentityKey, found]
      · simp [Backend.answer, Redisdb.findChatNumberByIdentityKey, Keyspace.hget,
          holds.identityToNumber, found]
      · simp [Call.Finds, found]
  | some number =>
      have nonempty : number ≠ [] := sound.memory.named identityKey number found
      rcases sound.memory.bijective.has found with ⟨shortNumber, has⟩
      have shortened : directories.memory.numberToShortNumber.lookup number =
        some shortNumber := has.shortened
      refine ⟨.numbers (.ok (number, shortNumber)), directories.memory,
        .numbers (.ok (number, shortNumber)), directories.redis, ?_, ?_, sound, ?_⟩
      · simp [Backend.answer, Memdb.findChatNumberByIdentityKey, found, shortened]
      · simp [Backend.answer, Redisdb.findChatNumberByIdentityKey, Keyspace.hget,
          holds.identityToNumber, holds.numberToShortNumber, found, nonempty, shortened]
      · simp [Call.Finds, found]

theorem Sound.answered (sound : directories.Sound) (named : call.Named) :
    directories.Answered call := by
  cases call with
  | registerChatNumber call now => exact sound.registerChatNumber named now
  | findChatNumberByShortNumber shortNumber =>
      exact sound.findChatNumberByShortNumber shortNumber
  | findChatNumberByIdentityKey identityKey =>
      exact sound.findChatNumberByIdentityKey identityKey

theorem Sound.step (sound : directories.Sound) (named : call.Named)
    (taken : directories.step call = some next) : next.Sound := by
  rcases sound.answered named with ⟨answer, memory, answer', redis, answers, answers', sound', _⟩
  simp only [Directories.step, answers, answers', Option.bind_eq_bind, Option.bind_some,
    Option.pure_def, Option.some.injEq] at taken
  exact taken ▸ sound'

theorem Sound.of_reaches (reaches : Reaches (fun _ call => call.Named) directories) :
    directories.Sound := by
  refine Transition.Run.preserves reaches .initial ?_
  intro current call next _ sound named taken
  exact sound.step named taken

end Directories

/-- After any sequence of calls, the two directories answer the next call alike
exactly if it does not look for an entry that is missing. -/
theorem directories_answer_alike_iff (directories : Directories)
    (reaches : Directories.Reaches (fun _ call => call.Named) directories) (call : Call)
    (named : call.Named) :
    ∃ answer memory answer' redis,
      Backend.answer .memdb directories.memory call = some (answer, memory) ∧
      Backend.answer .redisdb directories.redis call = some (answer', redis) ∧
      (answer' = answer ↔ call.Finds directories.memory) := by
  rcases (Directories.Sound.of_reaches reaches).answered named with
    ⟨answer, memory, answer', redis, answers, answers', _, agree⟩
  exact ⟨answer, memory, answer', redis, answers, answers', agree⟩

/-- For a short number and an identity that were never registered, Redis answers
with the error of its client library. -/
theorem missing_entries_differ :
    Backend.answer .memdb Directories.initial.memory (.findChatNumberByShortNumber ['1']) =
      some (.number (.error .unknownShortNumber), .empty) ∧
    Backend.answer .redisdb Directories.initial.redis (.findChatNumberByShortNumber ['1']) =
      some (.number (.error .redisNil), .empty) ∧
    Backend.answer .memdb Directories.initial.memory (.findChatNumberByIdentityKey ['a']) =
      some (.numbers (.error .unknownIdentity), .empty) ∧
    Backend.answer .redisdb Directories.initial.redis (.findChatNumberByIdentityKey ['a']) =
      some (.numbers (.error .redisNil), .empty) :=
  ⟨rfl, rfl, rfl, rfl⟩

/-- The second of two registrations sleeps in Redis, and both directories find
its short number. -/
theorem registered_entries_agree :
    ∃ directories answer memory redis,
      Directories.Reaches (fun _ call => call.Named) directories ∧
      Backend.answer .memdb directories.memory
        (.findChatNumberByShortNumber otherDigits.newShortNumber) = some (answer, memory) ∧
      Backend.answer .redisdb directories.redis
        (.findChatNumberByShortNumber otherDigits.newShortNumber) = some (answer, redis) := by
  have run : ∃ directories, Directories.Reaches (fun _ call => call.Named) directories ∧
      Call.Finds directories.memory
        (.findChatNumberByShortNumber otherDigits.newShortNumber) :=
    Transition.Run.exists_of_execute
      [.registerChatNumber firstCaller 0, .registerChatNumber otherDigits 1]
      (by decide +kernel)
  rcases run with ⟨directories, reaches, finds⟩
  rcases directories_answer_alike_iff directories reaches
    (.findChatNumberByShortNumber otherDigits.newShortNumber) trivial with
    ⟨answer, memory, answer', redis, answers, answers', agree⟩
  exact ⟨directories, answer, memory, redis, reaches, answers, agree.mpr finds ▸ answers'⟩

end Tassis.Database
