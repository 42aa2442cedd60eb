import Tassis.Foundation.Keyspace
import Tassis.Foundation.Transition

/-! # Chat numbers

The directory that gives every identity a chat number and a short form of it:
as four maps in memory, and as four hashes in a keyspace that are updated by a
script with rate limiting.
-/

namespace Tassis.Database

inductive DBError where
  | numberTaken
  | unknownShortNumber
  | unknownIdentity
  | unknownDevice
  /-- A device ID that does not decode. -/
  | unparsableDeviceId (deviceId : Text)
  /-- The client library's answer for a missing value. -/
  | redisNil
  deriving DecidableEq, Repr

/-! ## Candidates -/

/-- The number and short number that `getNumber` tries in an iteration, and
whether it is the last one. -/
def candidate (preferredNumber : Text) (iter : Nat) : Text × Text × Bool :=
  let newNumberTail := List.replicate iter '5' ++ preferredNumber.drop 12
  let newShortNumber := List.replicate iter '5' ++ preferredNumber.take 12
  if preferredNumber.length ≤ newShortNumber.length then
    (preferredNumber, preferredNumber, true)
  else (newShortNumber ++ newNumberTail, newShortNumber, false)

/-- A pair that `getNumber` can pass to `RegisterChatNumber`. -/
def IsCandidate (newNumber newShortNumber : Text) : Prop :=
  ∃ preferredNumber iter lastChance, 12 ≤ preferredNumber.length ∧
    candidate preferredNumber iter = (newNumber, newShortNumber, lastChance)

theorem IsCandidate.ne_nil {newNumber newShortNumber : Text}
    (isCandidate : IsCandidate newNumber newShortNumber) : newNumber ≠ [] := by
  rcases isCandidate with ⟨preferredNumber, iter, lastChance, long, produced⟩
  simp only [candidate] at produced
  split at produced
  · cases produced
    intro nothing
    simp [nothing] at long
  · cases produced
    intro nothing
    simp only [List.append_eq_nil_iff] at nothing
    have short : (preferredNumber.take 12).length = 0 := by simp [nothing.1.2]
    rw [List.length_take] at short
    omega

/-! ## The directory -/

/-- The four maps of the directory. -/
structure ChatNumbers where
  identityToNumber : Fields
  numberToIdentity : Fields
  numberToShortNumber : Fields
  shortNumberToNumber : Fields
  deriving DecidableEq

namespace ChatNumbers

def empty : ChatNumbers := ⟨∅, ∅, ∅, ∅⟩

def register (chat : ChatNumbers) (identityKey newNumber newShortNumber : Text) :
    ChatNumbers where
  identityToNumber := chat.identityToNumber.insert identityKey newNumber
  numberToIdentity := chat.numberToIdentity.insert newNumber identityKey
  numberToShortNumber := chat.numberToShortNumber.insert newNumber newShortNumber
  shortNumberToNumber := chat.shortNumberToNumber.insert newShortNumber newNumber

/-- What one execution of a registration can do to the directory and answer. -/
inductive Pass (chat : ChatNumbers) (identityKey newNumber newShortNumber : Text) :
    Option (Text × Option Text) → ChatNumbers → Prop where
  | existing {number} (found : chat.identityToNumber.lookup identityKey = some number)
      (nonempty : number ≠ []) :
      Pass chat identityKey newNumber newShortNumber
        (some (number, chat.numberToShortNumber.lookup number)) chat
  /-- The number is taken, or the caller has to wait. -/
  | refused : Pass chat identityKey newNumber newShortNumber none chat
  | registered (unregistered : (chat.identityToNumber.lookup identityKey).getD [] = [])
      (free : chat.numberToIdentity.lookup newNumber = none) :
      Pass chat identityKey newNumber newShortNumber (some (newNumber, some newShortNumber))
        (chat.register identityKey newNumber newShortNumber)

/-- The short number is unclaimed if the registration would go through. -/
def Unclaimed (chat : ChatNumbers) (identityKey newNumber newShortNumber : Text) : Prop :=
  (chat.identityToNumber.lookup identityKey).getD [] = [] →
    chat.numberToIdentity.lookup newNumber = none →
    chat.shortNumberToNumber.lookup newShortNumber = none

instance (chat : ChatNumbers) (identityKey newNumber newShortNumber : Text) :
    Decidable (chat.Unclaimed identityKey newNumber newShortNumber) :=
  inferInstanceAs (Decidable (_ → _ → _))

/-- The two maps between numbers and short numbers are inverse to each other. -/
def Inverse (chat : ChatNumbers) : Prop :=
  ∀ number shortNumber, chat.numberToShortNumber.lookup number = some shortNumber ↔
    chat.shortNumberToNumber.lookup shortNumber = some number

/-- The number has this short number, and it is not the empty number. -/
def Assigns (chat : ChatNumbers) (number shortNumber : Text) : Prop :=
  number ≠ [] ∧ chat.numberToShortNumber.lookup number = some shortNumber

structure Consistent (chat : ChatNumbers) : Prop where
  inverse : chat.Inverse
  owned : ∀ number shortNumber, chat.numberToShortNumber.lookup number = some shortNumber →
    chat.numberToIdentity.lookup number ≠ none
  numbered : ∀ identityKey number, chat.identityToNumber.lookup identityKey = some number →
    ∃ shortNumber, chat.Assigns number shortNumber

theorem Consistent.empty : ChatNumbers.empty.Consistent where
  inverse number shortNumber := by simp [ChatNumbers.empty]
  owned number shortNumber found := by simp [ChatNumbers.empty] at found
  numbered identityKey number found := by simp [ChatNumbers.empty] at found

variable {chat next : ChatNumbers} {identityKey newNumber newShortNumber : Text}
  {answer : Option (Text × Option Text)}

/-- A number that is free has no short number, and is the number of none. -/
theorem Consistent.ne_of_free (consistent : chat.Consistent)
    (free : chat.numberToIdentity.lookup newNumber = none) {number shortNumber : Text}
    (found : chat.numberToShortNumber.lookup number = some shortNumber) :
    number ≠ newNumber := by
  rintro rfl
  exact consistent.owned number shortNumber found free

theorem Assigns.pass {number shortNumber : Text} (assigns : chat.Assigns number shortNumber)
    (consistent : chat.Consistent)
    (pass : chat.Pass identityKey newNumber newShortNumber answer next) :
    next.Assigns number shortNumber := by
  cases pass with
  | existing | refused => exact assigns
  | registered unregistered free =>
      refine ⟨assigns.1, ?_⟩
      simp only [register]
      rw [AList.lookup_insert_ne (consistent.ne_of_free free assigns.2)]
      exact assigns.2

theorem Inverse.register (inverse : chat.Inverse) (consistent : chat.Consistent)
    (free : chat.numberToIdentity.lookup newNumber = none)
    (fresh : chat.shortNumberToNumber.lookup newShortNumber = none) :
    (chat.register identityKey newNumber newShortNumber).Inverse := by
  intro number shortNumber
  simp only [ChatNumbers.register]
  by_cases sameNumber : number = newNumber
  · subst number
    by_cases sameShort : shortNumber = newShortNumber
    · subst shortNumber
      rw [AList.lookup_insert, AList.lookup_insert]
      simp
    · rw [AList.lookup_insert, AList.lookup_insert_ne sameShort]
      constructor
      · intro equal
        exact absurd (Option.some.inj equal).symm sameShort
      · intro found
        have earlier := (inverse newNumber shortNumber).mpr found
        exact absurd rfl (consistent.ne_of_free free earlier)
  · rw [AList.lookup_insert_ne sameNumber]
    by_cases sameShort : shortNumber = newShortNumber
    · subst shortNumber
      rw [AList.lookup_insert, inverse number newShortNumber, fresh]
      simp [Ne.symm sameNumber]
    · rw [AList.lookup_insert_ne sameShort]
      exact inverse number shortNumber

/-- A pass keeps the directory consistent unless it takes over a short number. -/
theorem Consistent.pass (consistent : chat.Consistent) (nonempty : newNumber ≠ [])
    (unclaimed : chat.Unclaimed identityKey newNumber newShortNumber)
    (pass : chat.Pass identityKey newNumber newShortNumber answer next) :
    next.Consistent := by
  have keeps : ∀ number shortNumber, chat.Assigns number shortNumber →
      next.Assigns number shortNumber := fun _ _ assigns => assigns.pass consistent pass
  cases pass with
  | existing | refused => exact consistent
  | registered unregistered free =>
      constructor
      · exact consistent.inverse.register consistent free (unclaimed unregistered free)
      · intro number shortNumber found
        simp only [register] at found ⊢
        by_cases sameNumber : number = newNumber
        · simp [sameNumber]
        · rw [AList.lookup_insert_ne sameNumber] at found ⊢
          exact consistent.owned number shortNumber found
      · intro identity number found
        by_cases sameIdentity : identity = identityKey
        · subst identity
          simp only [register, AList.lookup_insert, Option.some.injEq] at found
          subst number
          exact ⟨newShortNumber, nonempty, AList.lookup_insert ..⟩
        · simp only [register, AList.lookup_insert_ne sameIdentity] at found
          rcases consistent.numbered identity number found with ⟨shortNumber, assigns⟩
          exact ⟨shortNumber, keeps number shortNumber assigns⟩

/-- A pair that is answered is assigned. -/
theorem Pass.assigns {number shortNumber : Text} (nonempty : newNumber ≠ [])
    (pass : chat.Pass identityKey newNumber newShortNumber
      (some (number, some shortNumber)) next) : next.Assigns number shortNumber := by
  generalize answered : some (number, some shortNumber) = answer at pass
  cases pass with
  | existing found registered =>
      simp only [Option.some.injEq, Prod.mk.injEq] at answered
      rcases answered with ⟨rfl, short⟩
      exact ⟨registered, short.symm⟩
  | refused => cases answered
  | registered unregistered free =>
      cases answered
      exact ⟨nonempty, AList.lookup_insert ..⟩

end ChatNumbers

/-! ## In memory -/

namespace Memdb

/-- A missing map entry reads as the empty string. -/
def registerChatNumber (chat : ChatNumbers) (identityKey newNumber newShortNumber : Text) :
    Except DBError (Text × Text) × ChatNumbers :=
  match chat.identityToNumber.lookup identityKey with
  | some number =>
      (.ok (number, (chat.numberToShortNumber.lookup number).getD []), chat)
  | none =>
      match chat.numberToIdentity.lookup newNumber with
      | some _ => (.error .numberTaken, chat)
      | none =>
          (.ok (newNumber, newShortNumber),
            chat.register identityKey newNumber newShortNumber)

def findChatNumberByShortNumber (chat : ChatNumbers) (shortNumber : Text) :
    Except DBError Text :=
  match chat.shortNumberToNumber.lookup shortNumber with
  | some number => .ok number
  | none => .error .unknownShortNumber

def findChatNumberByIdentityKey (chat : ChatNumbers) (identityKey : Text) :
    Except DBError (Text × Text) :=
  match chat.identityToNumber.lookup identityKey with
  | some number => .ok (number, (chat.numberToShortNumber.lookup number).getD [])
  | none => .error .unknownIdentity

end Memdb

/-! ## In Redis -/

namespace Redisdb

def identityToNumberKey : Text := "\x7bglobal\x7didentity->number".toList
def numberToIdentityKey : Text := "\x7bglobal\x7dnumber->identity".toList
def numberToShortNumberKey : Text := "\x7bglobal\x7dnumber->shortnumber".toList
def shortNumberToNumberKey : Text := "\x7bglobal\x7dshortnumber->number".toList
def lastRegistrationTimeKey : Text := "\x7bglobal\x7dlast-registration-time".toList
def registrationTokensKey : Text := "\x7bglobal\x7dregistration-tokens".toList

/-- The keys of the hashes, and those of the values for rate limiting. -/
def hashKeys : List Text :=
  [identityToNumberKey, numberToIdentityKey, numberToShortNumberKey, shortNumberToNumberKey]

def integerKeys : List Text := [lastRegistrationTimeKey, registrationTokensKey]

theorem lastRegistrationTimeKey_mem : lastRegistrationTimeKey ∈ integerKeys :=
  List.mem_cons_self

theorem registrationTokensKey_mem : registrationTokensKey ∈ integerKeys :=
  List.mem_cons_of_mem _ List.mem_cons_self

theorem keys_nodup : (hashKeys ++ integerKeys).Nodup := by decide +kernel

theorem hashKey_ne_integerKey {hashKey key : Text} (isHash : hashKey ∈ hashKeys)
    (isInteger : key ∈ integerKeys) : hashKey ≠ key :=
  (List.nodup_append.mp keys_nodup).2.2 hashKey isHash key isInteger

def minMillisPerChatNumberRegistration : Int := 500

/-- The answers of the script: a pair of numbers, or an integer. -/
inductive Reply where
  | numbers (number : Text) (shortNumber : Option Text)
  | integer (n : Int)
  deriving DecidableEq, Repr

/-- The rate limiting block of the script: the number of tokens the caller is
short of, if any. -/
def rateLimit (keyspace : Keyspace) (requiredTokens now : Int) :
    Option (Option Int × Keyspace) :=
  if 0 < requiredTokens then do
    let (lastRegistrationTime, keyspace) ← keyspace.getset lastRegistrationTimeKey now
    match lastRegistrationTime with
    | none => return (none, keyspace)
    | some lastRegistrationTime =>
        let delta := now - lastRegistrationTime - requiredTokens
        let (availableTokens, keyspace) ← keyspace.incrby registrationTokensKey delta
        if availableTokens < 0 then return (some (-availableTokens), keyspace)
        else return (none, keyspace)
  else return (none, keyspace)

/-- The final block of the script. -/
def newRegistration (keyspace : Keyspace) (identityKey newNumber newShortNumber : Text) :
    Option Keyspace := do
  let keyspace ← keyspace.hset identityToNumberKey identityKey newNumber
  let keyspace ← keyspace.hset numberToIdentityKey newNumber identityKey
  let keyspace ← keyspace.hset numberToShortNumberKey newNumber newShortNumber
  keyspace.hset shortNumberToNumberKey newShortNumber newNumber

def registerChatNumberScript (keyspace : Keyspace)
    (identityKey newNumber newShortNumber : Text) (requiredTokens now : Int) :
    Option (Reply × Keyspace) := do
  let number ← keyspace.hget identityToNumberKey identityKey
  if number.getD [] ≠ [] then
    let shortNumber ← keyspace.hget numberToShortNumberKey (number.getD [])
    return (.numbers (number.getD []) shortNumber, keyspace)
  else
    let existingIdentityKey ← keyspace.hget numberToIdentityKey newNumber
    if existingIdentityKey.isSome then return (.integer (-1), keyspace)
    else
      let (shortage, keyspace) ← rateLimit keyspace requiredTokens now
      match shortage with
      | some tokens => return (.integer tokens, keyspace)
      | none =>
          let keyspace ← newRegistration keyspace identityKey newNumber newShortNumber
          return (.numbers newNumber (some newShortNumber), keyspace)

/-! ### The script updates the directory -/

/-- The keyspace holds this directory, and integers for rate limiting. -/
structure Holds (keyspace : Keyspace) (chat : ChatNumbers) : Prop where
  identityToNumber : keyspace.hash? identityToNumberKey = some chat.identityToNumber
  numberToIdentity : keyspace.hash? numberToIdentityKey = some chat.numberToIdentity
  numberToShortNumber : keyspace.hash? numberToShortNumberKey = some chat.numberToShortNumber
  shortNumberToNumber : keyspace.hash? shortNumberToNumberKey = some chat.shortNumberToNumber
  lastRegistrationTime : ∃ time, keyspace.integer? lastRegistrationTimeKey = some time
  registrationTokens : ∃ tokens, keyspace.integer? registrationTokensKey = some tokens

variable {keyspace : Keyspace} {chat : ChatNumbers}

theorem Holds.empty : Holds Keyspace.empty ChatNumbers.empty where
  identityToNumber := rfl
  numberToIdentity := rfl
  numberToShortNumber := rfl
  shortNumberToNumber := rfl
  lastRegistrationTime := ⟨none, rfl⟩
  registrationTokens := ⟨none, rfl⟩

theorem Holds.store_integer (holds : Holds keyspace chat) {key : Text}
    (isInteger : key ∈ integerKeys) (n : Int) :
    Holds (keyspace.store key (.integer n)) chat := by
  have hashes : ∀ hashKey, hashKey ∈ hashKeys →
      (keyspace.store key (.integer n)).hash? hashKey = keyspace.hash? hashKey :=
    fun _ isHash => Keyspace.hash?_store_of_ne (hashKey_ne_integerKey isHash isInteger)
  have integers : ∀ other, (∃ old, keyspace.integer? other = some old) →
      ∃ new, (keyspace.store key (.integer n)).integer? other = some new := by
    rintro other ⟨old, stored⟩
    by_cases same : other = key
    · subst other
      exact ⟨some n, Keyspace.integer?_store_self n⟩
    · exact ⟨old, (Keyspace.integer?_store_of_ne same).trans stored⟩
  constructor
  · exact (hashes _ (by simp [hashKeys])).trans holds.identityToNumber
  · exact (hashes _ (by simp [hashKeys])).trans holds.numberToIdentity
  · exact (hashes _ (by simp [hashKeys])).trans holds.numberToShortNumber
  · exact (hashes _ (by simp [hashKeys])).trans holds.shortNumberToNumber
  · exact integers _ holds.lastRegistrationTime
  · exact integers _ holds.registrationTokens

theorem rateLimit_holds (holds : Holds keyspace chat) (requiredTokens now : Int) :
    ∃ shortage next, rateLimit keyspace requiredTokens now = some (shortage, next) ∧
      Holds next chat := by
  unfold rateLimit
  split
  · rcases holds.lastRegistrationTime with ⟨time, stored⟩
    have limited := holds.store_integer lastRegistrationTimeKey_mem now
    rcases limited.registrationTokens with ⟨tokens, stored'⟩
    cases time with
    | none => exact ⟨none, _, by simp [Keyspace.getset, stored], limited⟩
    | some time =>
        have charged := limited.store_integer registrationTokensKey_mem
          (tokens.getD 0 + (now - time - requiredTokens))
        by_cases short : tokens.getD 0 + (now - time - requiredTokens) < 0
        · exact ⟨some (-(tokens.getD 0 + (now - time - requiredTokens))), _,
            by simp [Keyspace.getset, Keyspace.incrby, stored, stored', short], charged⟩
        · exact ⟨none, _,
            by simp [Keyspace.getset, Keyspace.incrby, stored, stored', short], charged⟩
  · exact ⟨none, keyspace, rfl, holds⟩

theorem newRegistration_holds (holds : Holds keyspace chat)
    (identityKey newNumber newShortNumber : Text) :
    ∃ next, newRegistration keyspace identityKey newNumber newShortNumber = some next ∧
      Holds next (chat.register identityKey newNumber newShortNumber) := by
  let first := keyspace.store identityToNumberKey
    (.hash (chat.identityToNumber.insert identityKey newNumber))
  let second := first.store numberToIdentityKey
    (.hash (chat.numberToIdentity.insert newNumber identityKey))
  let third := second.store numberToShortNumberKey
    (.hash (chat.numberToShortNumber.insert newNumber newShortNumber))
  have distinct := (keys_nodup.imp fun different => And.intro different different.symm :
    (hashKeys ++ integerKeys).Pairwise fun key other => key ≠ other ∧ other ≠ key)
  simp only [hashKeys, integerKeys, List.cons_append, List.nil_append, List.pairwise_cons,
    List.forall_mem_cons] at distinct
  refine ⟨third.store shortNumberToNumberKey
    (.hash (chat.shortNumberToNumber.insert newShortNumber newNumber)), ?_, ?_⟩
  · simp [distinct, newRegistration, Keyspace.hset, Keyspace.hash?_store_of_ne,
      holds.identityToNumber, holds.numberToIdentity, holds.numberToShortNumber,
      holds.shortNumberToNumber, first, second, third]
  · constructor <;> simp [distinct, ChatNumbers.register,
      Keyspace.hash?_store_of_ne, Keyspace.integer?_store_of_ne,
      holds.lastRegistrationTime, holds.registrationTokens, first, second, third]

/-- What the script answers about numbers. -/
def Reply.answer : Reply → Option (Text × Option Text)
  | .numbers number shortNumber => some (number, shortNumber)
  | .integer _ => none

/-- One execution of the script passes over the directory it holds. -/
theorem registerChatNumberScript_pass (holds : Holds keyspace chat)
    (identityKey newNumber newShortNumber : Text) (requiredTokens now : Int) :
    ∃ reply next chat', registerChatNumberScript keyspace identityKey newNumber
        newShortNumber requiredTokens now = some (reply, next) ∧ Holds next chat' ∧
      chat.Pass identityKey newNumber newShortNumber reply.answer chat' := by
  by_cases registered : (chat.identityToNumber.lookup identityKey).getD [] = []
  · cases owner : chat.numberToIdentity.lookup newNumber with
    | some identity =>
        refine ⟨.integer (-1), keyspace, chat, ?_, holds, .refused⟩
        simp [registerChatNumberScript, Keyspace.hget, holds.identityToNumber,
          holds.numberToIdentity, registered, owner]
    | none =>
        rcases rateLimit_holds holds requiredTokens now with
          ⟨shortage, limited, limits, limitedHolds⟩
        cases shortage with
        | some tokens =>
            refine ⟨.integer tokens, limited, chat, ?_, limitedHolds, .refused⟩
            simp [registerChatNumberScript, Keyspace.hget, holds.identityToNumber,
              holds.numberToIdentity, registered, owner, limits]
        | none =>
            rcases newRegistration_holds limitedHolds identityKey newNumber newShortNumber with
              ⟨next, registers, nextHolds⟩
            refine ⟨.numbers newNumber (some newShortNumber), next, _, ?_, nextHolds,
              .registered registered owner⟩
            simp [registerChatNumberScript, Keyspace.hget, holds.identityToNumber,
              holds.numberToIdentity, registered, owner, limits, registers]
  · cases found : chat.identityToNumber.lookup identityKey with
    | none => simp [found] at registered
    | some number =>
        have nonempty : number ≠ [] := by simpa [found] using registered
        refine ⟨.numbers number (chat.numberToShortNumber.lookup number), keyspace, chat, ?_,
          holds, .existing found nonempty⟩
        simp [registerChatNumberScript, Keyspace.hget, holds.identityToNumber,
          holds.numberToShortNumber, found, nonempty]

def findChatNumberByShortNumber (keyspace : Keyspace) (shortNumber : Text) :
    Option (Except DBError Text) := do
  let number ← keyspace.hget shortNumberToNumberKey shortNumber
  match number with
  | none => return .error .redisNil
  | some number =>
      if number = [] then return .error .unknownShortNumber else return .ok number

def findChatNumberByIdentityKey (keyspace : Keyspace) (identityKey : Text) :
    Option (Except DBError (Text × Text)) := do
  let number ← keyspace.hget identityToNumberKey identityKey
  match number with
  | none => return .error .redisNil
  | some number =>
      if number = [] then return .error .unknownIdentity
      else
        let shortNumber ← keyspace.hget numberToShortNumberKey number
        match shortNumber with
        | none => return .error .redisNil
        | some shortNumber => return .ok (number, shortNumber)

end Redisdb

/-! ## Runs -/

/-- The arguments of a call of `RegisterChatNumber`. -/
structure Registration where
  identityKey : Text
  newNumber : Text
  newShortNumber : Text
  deriving DecidableEq, Repr

namespace Registration

/-- What the call returns if it is granted. -/
def granted (call : Registration) : Text × Text × Text :=
  (call.identityKey, call.newNumber, call.newShortNumber)

/-- The call may be made on this directory: `getNumber` can make it, and it does
not take over a short number. -/
def Permitted (call : Registration) (chat : ChatNumbers) : Prop :=
  IsCandidate call.newNumber call.newShortNumber ∧
    chat.Unclaimed call.identityKey call.newNumber call.newShortNumber

end Registration

/-- Every pair returned is assigned by the directory. -/
def Honours (chat : ChatNumbers) (returned : List (Text × Text × Text)) : Prop :=
  ∀ identityKey number shortNumber, (identityKey, number, shortNumber) ∈ returned →
    chat.Assigns number shortNumber

theorem Honours.pass {chat next : ChatNumbers} {call : Registration}
    {answer : Option (Text × Option Text)} {returned returned' : List (Text × Text × Text)}
    (honours : Honours chat returned) (consistent : chat.Consistent)
    (nonempty : call.newNumber ≠ [])
    (pass : chat.Pass call.identityKey call.newNumber call.newShortNumber answer next)
    (answered : ∀ entry, entry ∈ returned' → entry ∈ returned ∨
      answer = some (entry.2.1, some entry.2.2)) : Honours next returned' := by
  intro identityKey number shortNumber member
  rcases answered _ member with earlier | equal
  · exact (honours identityKey number shortNumber earlier).pass consistent pass
  · subst answer
    exact pass.assigns nonempty

/-- The directory in memory, with the pairs returned so far. -/
structure MemChat where
  chat : ChatNumbers
  /-- History: identity, number and short number of every successful call. -/
  returned : List (Text × Text × Text)
  deriving DecidableEq

namespace MemChat

def initial : MemChat := ⟨.empty, []⟩

def step (db : MemChat) (call : Registration) : Option MemChat :=
  match Memdb.registerChatNumber db.chat call.identityKey call.newNumber
      call.newShortNumber with
  | (.ok (number, shortNumber), chat) =>
      some ⟨chat, db.returned ++ [(call.identityKey, number, shortNumber)]⟩
  | (.error _, chat) => some ⟨chat, db.returned⟩

def Reaches (permitted : MemChat → Registration → Prop) (db : MemChat) : Prop :=
  Transition.Run step permitted initial db

variable {db next : MemChat} {call : Registration}

/-- A call passes over the directory, and what it returns is the answer. -/
theorem pass_of_step (consistent : db.chat.Consistent) (taken : db.step call = some next) :
    ∃ answer, db.chat.Pass call.identityKey call.newNumber call.newShortNumber answer
        next.chat ∧
      ∀ entry, entry ∈ next.returned → entry ∈ db.returned ∨
        answer = some (entry.2.1, some entry.2.2) := by
  unfold step Memdb.registerChatNumber at taken
  cases found : db.chat.identityToNumber.lookup call.identityKey with
  | some number =>
      rcases consistent.numbered _ number found with ⟨shortNumber, nonempty, assigned⟩
      simp only [found, assigned, Option.getD_some, Option.some.injEq] at taken
      subst next
      refine ⟨_, .existing found nonempty, ?_⟩
      intro entry member
      rcases List.mem_append.mp member with earlier | new
      · exact Or.inl earlier
      · rw [List.mem_singleton.mp new, assigned]
        exact Or.inr rfl
  | none =>
      cases owner : db.chat.numberToIdentity.lookup call.newNumber with
      | some identity =>
          simp only [found, owner, Option.some.injEq] at taken
          subst next
          exact ⟨none, .refused, fun entry member => Or.inl member⟩
      | none =>
          simp only [found, owner, Option.some.injEq] at taken
          subst next
          refine ⟨_, .registered (by simp [found]) owner, ?_⟩
          intro entry member
          rcases List.mem_append.mp member with earlier | new
          · exact Or.inl earlier
          · rw [List.mem_singleton.mp new]
            exact Or.inr rfl

structure Sound (db : MemChat) : Prop where
  consistent : db.chat.Consistent
  honours : Honours db.chat db.returned

theorem Sound.of_reaches (reaches : Reaches (fun db call => call.Permitted db.chat) db) :
    db.Sound := by
  refine Transition.Run.preserves reaches ⟨.empty, by intro _ _ _ member; cases member⟩ ?_
  intro current call next _ sound permitted taken
  rcases pass_of_step sound.consistent taken with ⟨answer, pass, answered⟩
  have nonempty := permitted.1.ne_nil
  exact ⟨sound.consistent.pass nonempty permitted.2 pass,
    sound.honours.pass sound.consistent nonempty pass answered⟩

end MemChat

/-- The directory in Redis, with the calls that sleep between their two passes. -/
structure RedisChat where
  keyspace : Keyspace
  sleeping : Nat → Option Registration
  /-- History: identity, number and short number of every successful call. -/
  returned : List (Text × Text × Text)

namespace RedisChat

def initial : RedisChat := ⟨.empty, fun _ => none, []⟩

inductive Action where
  /-- The first execution of the script. Its answer may get lost. -/
  | firstPass (caller : Nat) (call : Registration) (now : Int) (answered : Bool)
  /-- The execution after the sleep. -/
  | secondPass (caller : Nat) (answered : Bool)
  deriving DecidableEq, Repr

/-- A call that is answered with a pair returns it. A pair without short number
fails a type assertion. -/
def returnedBy (call : Registration) : Redisdb.Reply → List (Text × Text × Text)
  | .numbers number (some shortNumber) => [(call.identityKey, number, shortNumber)]
  | _ => []

/-- After the first pass, a positive integer is the time to sleep. -/
def sleepsAfter (call : Registration) : Redisdb.Reply → Option Registration
  | .integer n => if n = -1 then none else some call
  | .numbers _ _ => none

def execute (db : RedisChat) (call : Registration) (requiredTokens now : Int) :
    Option (Redisdb.Reply × Keyspace) :=
  Redisdb.registerChatNumberScript db.keyspace call.identityKey call.newNumber
    call.newShortNumber requiredTokens now

def step (db : RedisChat) : Action → Option RedisChat
  | .firstPass caller call now answered =>
      if db.sleeping caller = none then do
        let (reply, keyspace) ← db.execute call
          Redisdb.minMillisPerChatNumberRegistration now
        if answered then
          return ⟨keyspace, Function.update db.sleeping caller (sleepsAfter call reply),
            db.returned ++ returnedBy call reply⟩
        else return { db with keyspace := keyspace }
      else none
  | .secondPass caller answered => do
      let call ← db.sleeping caller
      let (reply, keyspace) ← db.execute call 0 0
      return ⟨keyspace, Function.update db.sleeping caller none,
        db.returned ++ if answered then returnedBy call reply else []⟩

def Reaches (permitted : RedisChat → Action → Prop) (db : RedisChat) : Prop :=
  Transition.Run step permitted initial db

/-- The call that a step executes the script for. -/
def callOf (db : RedisChat) : Action → Option Registration
  | .firstPass _ call _ _ => some call
  | .secondPass caller _ => db.sleeping caller

variable {db next : RedisChat} {action : Action} {chat : ChatNumbers}

theorem mem_returnedBy {call : Registration} {reply : Redisdb.Reply}
    {entry : Text × Text × Text} (member : entry ∈ returnedBy call reply) :
    reply.answer = some (entry.2.1, some entry.2.2) := by
  unfold returnedBy at member
  split at member
  · rw [List.mem_singleton.mp member]
    rfl
  · cases member

theorem firstPass_taken {caller : Nat} {call : Registration} {now : Int} {answered : Bool}
    (taken : db.step (.firstPass caller call now answered) = some next) :
    db.sleeping caller = none ∧ ∃ reply keyspace,
      db.execute call Redisdb.minMillisPerChatNumberRegistration now =
        some (reply, keyspace) ∧
      next = if answered then
          ⟨keyspace, Function.update db.sleeping caller (sleepsAfter call reply),
            db.returned ++ returnedBy call reply⟩
        else { db with keyspace := keyspace } := by
  simp only [step] at taken
  split at taken
  · rename_i awake
    rcases Option.bind_eq_some_iff.mp taken with ⟨⟨reply, keyspace⟩, executes, taken⟩
    refine ⟨awake, reply, keyspace, executes, ?_⟩
    split at taken
    · rename_i isAnswered
      rw [if_pos isAnswered]
      exact (Option.some.inj taken).symm
    · rename_i isLost
      rw [if_neg isLost]
      exact (Option.some.inj taken).symm
  · cases taken

theorem secondPass_taken {caller : Nat} {answered : Bool}
    (taken : db.step (.secondPass caller answered) = some next) :
    ∃ call reply keyspace, db.sleeping caller = some call ∧
      db.execute call 0 0 = some (reply, keyspace) ∧
      next = ⟨keyspace, Function.update db.sleeping caller none,
        db.returned ++ if answered then returnedBy call reply else []⟩ := by
  rcases Option.bind_eq_some_iff.mp taken with ⟨call, sleeping, taken⟩
  rcases Option.bind_eq_some_iff.mp taken with ⟨⟨reply, keyspace⟩, executes, taken⟩
  exact ⟨call, reply, keyspace, sleeping, executes, (Option.some.inj taken).symm⟩

/-- A step executes the script once, for its call. -/
theorem step_executes (taken : db.step action = some next) :
    ∃ call requiredTokens now reply, db.callOf action = some call ∧
      db.execute call requiredTokens now = some (reply, next.keyspace) ∧
      (next.returned = db.returned ∨ next.returned = db.returned ++ returnedBy call reply) ∧
      ∀ caller, next.sleeping caller = db.sleeping caller ∨ next.sleeping caller = none ∨
        next.sleeping caller = some call := by
  cases action with
  | firstPass caller call now answered =>
      rcases firstPass_taken taken with ⟨awake, reply, keyspace, executes, rfl⟩
      cases answered with
      | false =>
          exact ⟨call, _, now, reply, rfl, executes, Or.inl rfl, fun _ => Or.inl rfl⟩
      | true =>
          refine ⟨call, _, now, reply, rfl, executes, Or.inr rfl, ?_⟩
          intro other
          by_cases same : other = caller
          · subst other
            simp only [if_true, Function.update_self, sleepsAfter]
            split
            · split <;> simp
            · simp
          · exact Or.inl (Function.update_of_ne same ..)
  | secondPass caller answered =>
      rcases secondPass_taken taken with ⟨call, reply, keyspace, sleeping, executes, rfl⟩
      refine ⟨call, 0, 0, reply, sleeping, executes, ?_, ?_⟩
      · cases answered with
        | false => exact Or.inl (List.append_nil _)
        | true => exact Or.inr rfl
      · intro other
        by_cases same : other = caller
        · subst other
          exact Or.inr (Or.inl (Function.update_self ..))
        · exact Or.inl (Function.update_of_ne same ..)

/-- A step passes over the directory for its call, and what it returns is the
answer. -/
theorem pass_of_step (holds : Redisdb.Holds db.keyspace chat)
    (taken : db.step action = some next) :
    ∃ call answer chat', db.callOf action = some call ∧ Redisdb.Holds next.keyspace chat' ∧
      chat.Pass call.identityKey call.newNumber call.newShortNumber answer chat' ∧
      (∀ entry, entry ∈ next.returned → entry ∈ db.returned ∨
        answer = some (entry.2.1, some entry.2.2)) := by
  rcases step_executes taken with
    ⟨call, requiredTokens, now, reply, ofCall, executes, returned, _⟩
  rcases Redisdb.registerChatNumberScript_pass holds call.identityKey call.newNumber
    call.newShortNumber requiredTokens now with ⟨reply', keyspace, chat', runs, holds', pass⟩
  cases runs.symm.trans executes
  refine ⟨call, reply.answer, chat', ofCall, holds', pass, ?_⟩
  intro entry member
  rcases returned with same | more
  · exact Or.inl (same ▸ member)
  · rw [more] at member
    rcases List.mem_append.mp member with earlier | new
    · exact Or.inl earlier
    · exact Or.inr (mem_returnedBy new)

/-- The directory that the keyspace holds. -/
def chatNumbers (db : RedisChat) : ChatNumbers where
  identityToNumber := (db.keyspace.hash? Redisdb.identityToNumberKey).getD ∅
  numberToIdentity := (db.keyspace.hash? Redisdb.numberToIdentityKey).getD ∅
  numberToShortNumber := (db.keyspace.hash? Redisdb.numberToShortNumberKey).getD ∅
  shortNumberToNumber := (db.keyspace.hash? Redisdb.shortNumberToNumberKey).getD ∅

theorem chatNumbers_of_holds (holds : Redisdb.Holds db.keyspace chat) :
    db.chatNumbers = chat := by
  simp [chatNumbers, holds.identityToNumber, holds.numberToIdentity,
    holds.numberToShortNumber, holds.shortNumberToNumber]

/-- Every execution of the script is for a permitted call. -/
def Fresh (db : RedisChat) (action : Action) : Prop :=
  ∀ call, db.callOf action = some call → call.Permitted db.chatNumbers

structure Sound (db : RedisChat) : Prop where
  holds : Redisdb.Holds db.keyspace db.chatNumbers
  consistent : db.chatNumbers.Consistent
  honours : Honours db.chatNumbers db.returned

theorem Sound.initial : Sound RedisChat.initial where
  holds := .empty
  consistent := .empty
  honours := by
    intro _ _ _ member
    cases member

theorem Sound.of_reaches (reaches : Reaches Fresh db) : db.Sound := by
  refine Transition.Run.preserves reaches .initial ?_
  intro current action next _ sound fresh taken
  rcases pass_of_step sound.holds taken with
    ⟨call, answer, chat', ofCall, holds, pass, answered⟩
  have permitted := fresh call ofCall
  have nonempty := permitted.1.ne_nil
  have equal := chatNumbers_of_holds holds
  refine ⟨equal.symm ▸ holds, equal.symm ▸ ?_, equal.symm ▸ ?_⟩
  · exact sound.consistent.pass nonempty permitted.2 pass
  · exact sound.honours.pass sound.consistent nonempty pass answered

end RedisChat

/-- Of a consistent directory, the lookup by short number in memory returns the
number that was returned with it. -/
theorem Memdb.findChatNumberByShortNumber_of_assigns {chat : ChatNumbers}
    {number shortNumber : Text} (consistent : chat.Consistent)
    (assigns : chat.Assigns number shortNumber) :
    findChatNumberByShortNumber chat shortNumber = .ok number := by
  have found := (consistent.inverse number shortNumber).mp assigns.2
  simp [findChatNumberByShortNumber, found]

theorem Redisdb.findChatNumberByShortNumber_of_assigns {keyspace : Keyspace}
    {chat : ChatNumbers} {number shortNumber : Text} (holds : Holds keyspace chat)
    (consistent : chat.Consistent) (assigns : chat.Assigns number shortNumber) :
    findChatNumberByShortNumber keyspace shortNumber = some (.ok number) := by
  have found := (consistent.inverse number shortNumber).mp assigns.2
  simp [findChatNumberByShortNumber, Keyspace.hget, holds.shortNumberToNumber, found,
    assigns.1]

/-- In every run in which no registration takes over a short number, on Redis
and in memory, the two maps between numbers and short numbers are inverse, and
the short number of every pair returned so far leads to its number. -/
theorem short_number_never_changes_hands (redis : RedisChat) (memory : MemChat) :
    (RedisChat.Reaches RedisChat.Fresh redis → redis.chatNumbers.Inverse ∧
      ∀ identityKey number shortNumber, (identityKey, number, shortNumber) ∈ redis.returned →
        Redisdb.findChatNumberByShortNumber redis.keyspace shortNumber =
          some (.ok number)) ∧
    (MemChat.Reaches (fun db call => call.Permitted db.chat) memory →
      memory.chat.Inverse ∧
      ∀ identityKey number shortNumber, (identityKey, number, shortNumber) ∈ memory.returned →
        Memdb.findChatNumberByShortNumber memory.chat shortNumber = .ok number) := by
  constructor
  · intro reaches
    have sound := RedisChat.Sound.of_reaches reaches
    refine ⟨sound.consistent.inverse, ?_⟩
    intro identityKey number shortNumber member
    exact Redisdb.findChatNumberByShortNumber_of_assigns sound.holds sound.consistent
      (sound.honours identityKey number shortNumber member)
  · intro reaches
    have sound := MemChat.Sound.of_reaches reaches
    refine ⟨sound.consistent.inverse, ?_⟩
    intro identityKey number shortNumber member
    exact Memdb.findChatNumberByShortNumber_of_assigns sound.consistent
      (sound.honours identityKey number shortNumber member)

/-! ## Two registrations -/

/-- Two identities register their preferred numbers, on Redis. -/
def redisTrace (first second : Registration) : List RedisChat.Action :=
  [.firstPass 1 first 0 true, .firstPass 2 second 1000 true]

/-- The first iteration of `getNumber` for a number of thirteen digits. -/
def firstCandidate (identityKey preferredNumber : Text) : Registration :=
  ⟨identityKey, preferredNumber, preferredNumber.take 12⟩

def firstCaller : Registration := firstCandidate ['a'] "2920139401381".toList

/-- A number with the same first twelve digits. -/
def sameDigits : Registration := firstCandidate ['b'] "2920139401382".toList

def otherDigits : Registration := firstCandidate ['c'] "3920139401382".toList

theorem firstCandidate_isCandidate {call : Registration}
    (listed : call ∈ [firstCaller, sameDigits, otherDigits]) :
    IsCandidate call.newNumber call.newShortNumber := by
  simp only [List.mem_cons, List.not_mem_nil, or_false] at listed
  rcases listed with rfl | rfl | rfl
  · exact ⟨firstCaller.newNumber, 0, false, by decide, by decide⟩
  · exact ⟨sameDigits.newNumber, 0, false, by decide, by decide⟩
  · exact ⟨otherDigits.newNumber, 0, false, by decide, by decide⟩

theorem mem_of_redisTrace {first second call : Registration} {db : RedisChat}
    {action : RedisChat.Action} {calls : List Registration}
    (listed : action ∈ redisTrace first second) (ofCall : db.callOf action = some call)
    (hasFirst : first ∈ calls) (hasSecond : second ∈ calls) : call ∈ calls := by
  simp only [redisTrace, List.mem_cons, List.not_mem_nil, or_false] at listed
  rcases listed with rfl | rfl <;> cases ofCall
  · exact hasFirst
  · exact hasSecond

/-- The second of two numbers with the same first digits takes over the short
number, on Redis and in memory. -/
theorem shared_digits_change_hands :
    (∃ db, RedisChat.Reaches
        (fun db action => ∀ call, db.callOf action = some call →
          IsCandidate call.newNumber call.newShortNumber) db ∧
      firstCaller.granted ∈ db.returned ∧
      Redisdb.findChatNumberByShortNumber db.keyspace firstCaller.newShortNumber =
        some (.ok sameDigits.newNumber)) ∧
    (∃ db, MemChat.Reaches
        (fun _ call => IsCandidate call.newNumber call.newShortNumber) db ∧
      firstCaller.granted ∈ db.returned ∧
      Memdb.findChatNumberByShortNumber db.chat firstCaller.newShortNumber =
        .ok sameDigits.newNumber) := by
  constructor
  · have run : ∃ db, RedisChat.Reaches
          (fun _ action => action ∈ redisTrace firstCaller sameDigits) db ∧
        firstCaller.granted ∈ db.returned ∧
        Redisdb.findChatNumberByShortNumber db.keyspace firstCaller.newShortNumber =
          some (.ok sameDigits.newNumber) :=
      Transition.Run.exists_of_execute (redisTrace firstCaller sameDigits) (by decide +kernel)
    rcases run with ⟨db, reaches, facts⟩
    refine ⟨db, reaches.weaken ?_, facts⟩
    intro state action listed call ofCall
    exact firstCandidate_isCandidate (mem_of_redisTrace listed ofCall (by simp) (by simp))
  · have run : ∃ db, MemChat.Reaches (fun _ call => call ∈ [firstCaller, sameDigits]) db ∧
        firstCaller.granted ∈ db.returned ∧
        Memdb.findChatNumberByShortNumber db.chat firstCaller.newShortNumber =
          .ok sameDigits.newNumber :=
      Transition.Run.exists_of_execute [firstCaller, sameDigits] (by decide +kernel)
    rcases run with ⟨db, reaches, facts⟩
    refine ⟨db, reaches.weaken ?_, facts⟩
    intro state call listed
    exact firstCandidate_isCandidate (List.mem_append_left [otherDigits] listed)

/-- Numbers with different first digits keep their short numbers. -/
theorem separate_digits_keep_hands :
    (∃ db, RedisChat.Reaches RedisChat.Fresh db ∧
      firstCaller.granted ∈ db.returned ∧ otherDigits.granted ∈ db.returned ∧
      Redisdb.findChatNumberByShortNumber db.keyspace firstCaller.newShortNumber =
        some (.ok firstCaller.newNumber)) ∧
    (∃ db, MemChat.Reaches (fun db call => call.Permitted db.chat) db ∧
      firstCaller.granted ∈ db.returned ∧ otherDigits.granted ∈ db.returned ∧
      Memdb.findChatNumberByShortNumber db.chat firstCaller.newShortNumber =
        .ok firstCaller.newNumber) := by
  constructor
  · have run : ∃ db, RedisChat.Reaches (fun db action =>
          action ∈ redisTrace firstCaller otherDigits ∧ ∀ call, call ∈ db.callOf action →
            db.chatNumbers.Unclaimed call.identityKey call.newNumber call.newShortNumber) db ∧
        firstCaller.granted ∈ db.returned ∧ otherDigits.granted ∈ db.returned :=
      Transition.Run.exists_of_execute (redisTrace firstCaller otherDigits) (by decide +kernel)
    rcases run with ⟨db, reaches, first, second⟩
    have fresh : RedisChat.Reaches RedisChat.Fresh db := reaches.weaken (by
      intro state action permitted call ofCall
      exact ⟨firstCandidate_isCandidate (mem_of_redisTrace permitted.1 ofCall (by simp)
        (by simp)), permitted.2 call ofCall⟩)
    exact ⟨db, fresh, first, second,
      ((short_number_never_changes_hands db MemChat.initial).1 fresh).2 _ _ _ first⟩
  · have run : ∃ db, MemChat.Reaches (fun db call => call ∈ [firstCaller, otherDigits] ∧
          db.chat.Unclaimed call.identityKey call.newNumber call.newShortNumber) db ∧
        firstCaller.granted ∈ db.returned ∧ otherDigits.granted ∈ db.returned :=
      Transition.Run.exists_of_execute [firstCaller, otherDigits] (by decide +kernel)
    rcases run with ⟨db, reaches, first, second⟩
    have permitted : MemChat.Reaches (fun db call => call.Permitted db.chat) db :=
      reaches.weaken (by
        rintro state call ⟨listed, unclaimed⟩
        refine ⟨firstCandidate_isCandidate ?_, unclaimed⟩
        simp only [List.mem_cons, List.not_mem_nil, or_false] at listed ⊢
        exact listed.imp_right Or.inr)
    exact ⟨db, permitted, first, second,
      ((short_number_never_changes_hands RedisChat.initial db).2 permitted).2 _ _ _ first⟩

end Tassis.Database
