import Tassis.Database.ChatNumbers

/-! # Chat numbers are permanent

An identity and its number belong to each other, and neither the number nor its
short form ever changes, whatever calls run between the two executions of the
script of one call.
-/

namespace Tassis.Database

namespace ChatNumbers

/-! ## Directories -/

/-- The maps between identities and numbers are inverse to each other, and the
numbers that have an identity are those that have a short number. -/
structure Bijective (chat : ChatNumbers) : Prop where
  inverse : ∀ identityKey number, chat.identityToNumber.lookup identityKey = some number ↔
    chat.numberToIdentity.lookup number = some identityKey
  shortened : ∀ number, chat.numberToShortNumber.lookup number = none ↔
    chat.numberToIdentity.lookup number = none

/-- No entry is changed or removed. -/
structure Extends (chat later : ChatNumbers) : Prop where
  identityToNumber : ∀ identityKey number,
    chat.identityToNumber.lookup identityKey = some number →
    later.identityToNumber.lookup identityKey = some number
  numberToIdentity : ∀ number identityKey,
    chat.numberToIdentity.lookup number = some identityKey →
    later.numberToIdentity.lookup number = some identityKey
  numberToShortNumber : ∀ number shortNumber,
    chat.numberToShortNumber.lookup number = some shortNumber →
    later.numberToShortNumber.lookup number = some shortNumber

/-- The identity has this number and short number. -/
structure Has (chat : ChatNumbers) (identityKey number shortNumber : Text) : Prop where
  numbered : chat.identityToNumber.lookup identityKey = some number
  shortened : chat.numberToShortNumber.lookup number = some shortNumber

variable {chat next later : ChatNumbers} {identityKey newNumber newShortNumber : Text}

theorem Bijective.empty : ChatNumbers.empty.Bijective where
  inverse identityKey number := by simp [ChatNumbers.empty]
  shortened number := by simp [ChatNumbers.empty]

theorem Extends.refl (chat : ChatNumbers) : chat.Extends chat :=
  ⟨fun _ _ => id, fun _ _ => id, fun _ _ => id⟩

theorem Extends.trans (first : chat.Extends next) (second : next.Extends later) :
    chat.Extends later where
  identityToNumber _ _ found :=
    second.identityToNumber _ _ (first.identityToNumber _ _ found)
  numberToIdentity _ _ found :=
    second.numberToIdentity _ _ (first.numberToIdentity _ _ found)
  numberToShortNumber _ _ found :=
    second.numberToShortNumber _ _ (first.numberToShortNumber _ _ found)

theorem Has.of_extends {number shortNumber : Text}
    (has : chat.Has identityKey number shortNumber) (grows : chat.Extends later) :
    later.Has identityKey number shortNumber :=
  ⟨grows.identityToNumber _ _ has.numbered, grows.numberToShortNumber _ _ has.shortened⟩

theorem Has.unique {number shortNumber number' shortNumber' : Text}
    (has : chat.Has identityKey number shortNumber)
    (has' : chat.Has identityKey number' shortNumber') :
    number' = number ∧ shortNumber' = shortNumber := by
  have sameNumber : number' = number := Option.some.inj (has'.numbered.symm.trans has.numbered)
  subst number'
  exact ⟨rfl, Option.some.inj (has'.shortened.symm.trans has.shortened)⟩

/-- An identity with a number has a short number too. -/
theorem Bijective.has (bijective : chat.Bijective) {number : Text}
    (found : chat.identityToNumber.lookup identityKey = some number) :
    ∃ shortNumber, chat.Has identityKey number shortNumber := by
  have owned := (bijective.inverse identityKey number).mp found
  have present : chat.numberToShortNumber.lookup number ≠ none := by
    intro absent
    rw [(bijective.shortened number).mp absent] at owned
    cases owned
  rcases Option.ne_none_iff_exists'.mp present with ⟨shortNumber, short⟩
  exact ⟨shortNumber, found, short⟩

theorem lookup_insert_of_ne_none {fields : Fields} {field other value : Text}
    (free : fields.lookup field = none) {old : Text} (found : fields.lookup other = some old) :
    (fields.insert field value).lookup other = some old := by
  rw [AList.lookup_insert_ne, found]
  rintro rfl
  rw [free] at found
  cases found

/-- Registering a free number for an identity without number adds entries. -/
theorem Bijective.extends_register (bijective : chat.Bijective)
    (unregistered : chat.identityToNumber.lookup identityKey = none)
    (free : chat.numberToIdentity.lookup newNumber = none) :
    chat.Extends (chat.register identityKey newNumber newShortNumber) where
  identityToNumber _ _ found := lookup_insert_of_ne_none unregistered found
  numberToIdentity _ _ found := lookup_insert_of_ne_none free found
  numberToShortNumber _ _ found :=
    lookup_insert_of_ne_none ((bijective.shortened newNumber).mpr free) found

theorem has_register (chat : ChatNumbers) (identityKey newNumber newShortNumber : Text) :
    (chat.register identityKey newNumber newShortNumber).Has identityKey newNumber
      newShortNumber :=
  ⟨AList.lookup_insert .., AList.lookup_insert ..⟩

theorem Bijective.register (bijective : chat.Bijective)
    (unregistered : chat.identityToNumber.lookup identityKey = none)
    (free : chat.numberToIdentity.lookup newNumber = none) :
    (chat.register identityKey newNumber newShortNumber).Bijective := by
  constructor
  · intro identity number
    simp only [ChatNumbers.register]
    by_cases sameIdentity : identity = identityKey
    · by_cases sameNumber : number = newNumber
      · rw [sameIdentity, sameNumber, AList.lookup_insert, AList.lookup_insert]
        simp
      · -- Another number that led to this identity would be its old number.
        have notOwned : chat.numberToIdentity.lookup number ≠ some identityKey := by
          rw [ne_eq, ← bijective.inverse, unregistered]
          simp
        rw [sameIdentity, AList.lookup_insert, AList.lookup_insert_ne sameNumber]
        simp [notOwned, Ne.symm sameNumber]
    · rw [AList.lookup_insert_ne sameIdentity]
      by_cases sameNumber : number = newNumber
      · rw [sameNumber, AList.lookup_insert, bijective.inverse, free]
        simp [Ne.symm sameIdentity]
      · rw [AList.lookup_insert_ne sameNumber]
        exact bijective.inverse identity number
  · intro number
    simp only [ChatNumbers.register]
    by_cases sameNumber : number = newNumber
    · simp [sameNumber]
    · rw [AList.lookup_insert_ne sameNumber, AList.lookup_insert_ne sameNumber]
      exact bijective.shortened number

/-! ## Executions -/

/-- No identity has the empty number, which the script takes for none. -/
def Named (chat : ChatNumbers) : Prop :=
  ∀ identityKey number, chat.identityToNumber.lookup identityKey = some number → number ≠ []

theorem Named.register (named : chat.Named) (nonempty : newNumber ≠ []) :
    (chat.register identityKey newNumber newShortNumber).Named := by
  intro identity number found
  simp only [ChatNumbers.register] at found
  by_cases same : identity = identityKey
  · rw [same, AList.lookup_insert, Option.some.injEq] at found
    exact found ▸ nonempty
  · rw [AList.lookup_insert_ne same] at found
    exact named identity number found

theorem Named.unregistered (named : chat.Named)
    (empty : (chat.identityToNumber.lookup identityKey).getD [] = []) :
    chat.identityToNumber.lookup identityKey = none := by
  cases found : chat.identityToNumber.lookup identityKey with
  | none => rfl
  | some number =>
      rw [found, Option.getD_some] at empty
      exact absurd empty (named identityKey number found)

/-- What an execution does to the directory, and what it answers. -/
structure Registers (chat : ChatNumbers) (identityKey : Text)
    (answer : Option (Text × Option Text)) (next : ChatNumbers) : Prop where
  bijective : next.Bijective
  grows : chat.Extends next
  answered : ∀ number short, answer = some (number, short) →
    ∃ shortNumber, short = some shortNumber ∧ next.Has identityKey number shortNumber

theorem Bijective.pass (bijective : chat.Bijective) (named : chat.Named)
    {answer : Option (Text × Option Text)}
    (pass : chat.Pass identityKey newNumber newShortNumber answer next) :
    chat.Registers identityKey answer next := by
  cases pass with
  | existing found nonempty =>
      refine ⟨bijective, .refl chat, ?_⟩
      intro number short equal
      cases equal
      rcases bijective.has found with ⟨shortNumber, has⟩
      exact ⟨shortNumber, has.shortened, has⟩
  | refused =>
      refine ⟨bijective, .refl chat, ?_⟩
      intro number short equal
      cases equal
  | registered unregistered free =>
      have absent := named.unregistered unregistered
      refine ⟨bijective.register absent free, bijective.extends_register absent free, ?_⟩
      intro number short equal
      cases equal
      exact ⟨newShortNumber, rfl, has_register chat identityKey newNumber newShortNumber⟩

theorem Named.pass (named : chat.Named) (nonempty : newNumber ≠ [])
    {answer : Option (Text × Option Text)}
    (pass : chat.Pass identityKey newNumber newShortNumber answer next) : next.Named := by
  cases pass with
  | existing | refused => exact named
  | registered => exact named.register nonempty

end ChatNumbers

/-! ## Runs -/

/-- Every pair returned is what its identity has. -/
def Keeps (chat : ChatNumbers) (returned : List (Text × Text × Text)) : Prop :=
  ∀ identityKey number shortNumber, (identityKey, number, shortNumber) ∈ returned →
    chat.Has identityKey number shortNumber

theorem Keeps.of_extends {chat later : ChatNumbers} {returned : List (Text × Text × Text)}
    (keeps : Keeps chat returned) (grows : chat.Extends later) : Keeps later returned :=
  fun identityKey number shortNumber member =>
    (keeps identityKey number shortNumber member).of_extends grows

/-- What holds of a directory and the pairs returned, now and in a later state. -/
structure Permanent (chat later : ChatNumbers)
    (returned laterReturned : List (Text × Text × Text))
    (finds : Text → Text × Text → Prop) : Prop where
  inverse : ∀ identityKey number, chat.identityToNumber.lookup identityKey = some number ↔
    chat.numberToIdentity.lookup number = some identityKey
  kept : chat.Extends later
  found : ∀ identityKey number shortNumber, (identityKey, number, shortNumber) ∈ returned →
    finds identityKey (number, shortNumber)
  same : ∀ identityKey number shortNumber number' shortNumber',
    (identityKey, number, shortNumber) ∈ returned →
    (identityKey, number', shortNumber') ∈ laterReturned →
    number' = number ∧ shortNumber' = shortNumber

theorem Permanent.of_keeps {chat later : ChatNumbers}
    {returned laterReturned : List (Text × Text × Text)} {finds : Text → Text × Text → Prop}
    (bijective : chat.Bijective) (grows : chat.Extends later) (keeps : Keeps chat returned)
    (laterKeeps : Keeps later laterReturned)
    (findsHeld : ∀ identityKey number shortNumber, later.Has identityKey number shortNumber →
      finds identityKey (number, shortNumber)) :
    Permanent chat later returned laterReturned finds where
  inverse := bijective.inverse
  kept := grows
  found identityKey number shortNumber member :=
    findsHeld _ _ _ ((keeps identityKey number shortNumber member).of_extends grows)
  same _ _ _ _ _ member member' :=
    ((keeps _ _ _ member).of_extends grows).unique (laterKeeps _ _ _ member')

/-- Without rate limiting, an integer says that the number is taken. -/
theorem Redisdb.unlimited_reply {keyspace next : Keyspace}
    {identityKey newNumber newShortNumber : Text} {requiredTokens now n : Int}
    (unlimited : requiredTokens ≤ 0)
    (runs : registerChatNumberScript keyspace identityKey newNumber newShortNumber
      requiredTokens now = some (.integer n, next)) : n = -1 := by
  have unlimits : rateLimit keyspace requiredTokens now = some (none, keyspace) := by
    rw [rateLimit, if_neg (by omega)]
    rfl
  rcases Option.bind_eq_some_iff.mp runs with ⟨number, _, runs⟩
  split at runs
  · rcases Option.bind_eq_some_iff.mp runs with ⟨shortNumber, _, runs⟩
    cases runs
  · rcases Option.bind_eq_some_iff.mp runs with ⟨existingIdentityKey, _, runs⟩
    split at runs
    · cases runs
      rfl
    · simp only [unlimits, Option.bind_eq_bind, Option.bind_some] at runs
      rcases Option.bind_eq_some_iff.mp runs with ⟨registered, _, runs⟩
      cases runs

namespace RedisChat

variable {db next : RedisChat} {action : Action}

theorem mem_returnedBy_identityKey {call : Registration} {reply : Redisdb.Reply}
    {entry : Text × Text × Text} (member : entry ∈ returnedBy call reply) :
    entry.1 = call.identityKey := by
  unfold returnedBy at member
  split at member
  · rw [List.mem_singleton.mp member]
  · cases member

/-- Calls have a number that is not empty. -/
def Named (_ : RedisChat) : Action → Prop
  | .firstPass _ call _ _ => call.newNumber ≠ []
  | .secondPass _ _ => True

instance (db : RedisChat) (action : Action) : Decidable (Named db action) :=
  match action with
  | .firstPass .. => inferInstanceAs (Decidable (_ ≠ _))
  | .secondPass .. => inferInstanceAs (Decidable True)

structure Settled (db : RedisChat) : Prop where
  holds : Redisdb.Holds db.keyspace db.chatNumbers
  bijective : db.chatNumbers.Bijective
  named : db.chatNumbers.Named
  sleeping : ∀ caller call, db.sleeping caller = some call → call.newNumber ≠ []
  keeps : Keeps db.chatNumbers db.returned

theorem Settled.initial : Settled initial where
  holds := .empty
  bijective := .empty
  named := by
    intro identityKey number found
    cases found
  sleeping := by
    intro caller call asleep
    cases asleep
  keeps := by
    intro identityKey number shortNumber member
    cases member

theorem Settled.nonempty (settled : db.Settled) (named : db.Named action)
    {call : Registration} (ofCall : db.callOf action = some call) : call.newNumber ≠ [] := by
  cases action with
  | firstPass caller call' now answered =>
      cases ofCall
      exact named
  | secondPass caller answered => exact settled.sleeping caller call ofCall

theorem Settled.step (settled : db.Settled) (named : db.Named action)
    (taken : db.step action = some next) :
    next.Settled ∧ db.chatNumbers.Extends next.chatNumbers := by
  rcases step_executes taken with
    ⟨call, requiredTokens, now, reply, ofCall, executes, returned, sleeping⟩
  rcases Redisdb.registerChatNumberScript_pass settled.holds call.identityKey call.newNumber
    call.newShortNumber requiredTokens now with ⟨reply', keyspace, chat', runs, holds, pass⟩
  cases runs.symm.trans executes
  have equal := chatNumbers_of_holds holds
  have nonempty := settled.nonempty named ofCall
  have registers := settled.bijective.pass settled.named pass
  refine ⟨⟨equal.symm ▸ holds, equal.symm ▸ registers.bijective,
    equal.symm ▸ settled.named.pass nonempty pass, ?_, ?_⟩, equal.symm ▸ registers.grows⟩
  · intro caller call' asleep
    rcases sleeping caller with same | awake | falls
    · exact settled.sleeping caller call' (same ▸ asleep)
    · rw [awake] at asleep
      cases asleep
    · rw [falls, Option.some.injEq] at asleep
      exact asleep ▸ nonempty
  · rw [equal]
    have kept := settled.keeps.of_extends registers.grows
    rcases returned with same | more
    · exact same ▸ kept
    · intro identityKey number shortNumber member
      rw [more] at member
      rcases List.mem_append.mp member with earlier | new
      · exact kept identityKey number shortNumber earlier
      · have answer := mem_returnedBy new
        rcases registers.answered _ _ answer with ⟨shortNumber', same, has⟩
        cases same
        have identity : identityKey = call.identityKey := mem_returnedBy_identityKey new
        exact identity ▸ has

theorem Settled.of_run (run : Transition.Run RedisChat.step Named db next)
    (settled : db.Settled) : next.Settled ∧ db.chatNumbers.Extends next.chatNumbers := by
  apply Transition.Run.preserves run ⟨settled, .refl _⟩
  rintro current action next _ ⟨settled, grows⟩ named taken
  have after := settled.step named taken
  exact ⟨after.1, grows.trans after.2⟩

/-- The script answers a call with a pair or with an integer, which without
rate limiting can only say that the number is taken. -/
theorem Settled.reply (settled : db.Settled) (call : Registration)
    (requiredTokens now : Int) :
    ∃ reply keyspace, db.execute call requiredTokens now = some (reply, keyspace) ∧
      ((∃ number shortNumber, reply = .numbers number (some shortNumber)) ∨
        ∃ n, reply = .integer n ∧ (requiredTokens ≤ 0 → n = -1)) := by
  rcases Redisdb.registerChatNumberScript_pass settled.holds call.identityKey call.newNumber
    call.newShortNumber requiredTokens now with ⟨reply, keyspace, chat', runs, holds, pass⟩
  have registers := settled.bijective.pass settled.named pass
  refine ⟨reply, keyspace, runs, ?_⟩
  cases reply with
  | numbers number short =>
      rcases registers.answered number short rfl with ⟨shortNumber, rfl, _⟩
      exact Or.inl ⟨number, shortNumber, rfl⟩
  | integer n =>
      exact Or.inr ⟨n, rfl, fun unlimited => Redisdb.unlimited_reply unlimited runs⟩

theorem findChatNumberByIdentityKey_of_has (settled : db.Settled)
    {identityKey number shortNumber : Text}
    (has : db.chatNumbers.Has identityKey number shortNumber) :
    Redisdb.findChatNumberByIdentityKey db.keyspace identityKey =
      some (.ok (number, shortNumber)) := by
  simp [Redisdb.findChatNumberByIdentityKey, Keyspace.hget, settled.holds.identityToNumber,
    settled.holds.numberToShortNumber, has.numbered, has.shortened,
    settled.named identityKey number has.numbered]

end RedisChat

namespace MemChat

variable {db next : MemChat} {call : Registration}

structure Settled (db : MemChat) : Prop where
  bijective : db.chat.Bijective
  keeps : Keeps db.chat db.returned

theorem Settled.initial : Settled initial where
  bijective := .empty
  keeps := by
    intro identityKey number shortNumber member
    cases member

theorem Settled.of_answer (settled : db.Settled) {chat : ChatNumbers}
    (bijective : chat.Bijective) (grows : db.chat.Extends chat)
    {identityKey number shortNumber : Text} (has : chat.Has identityKey number shortNumber) :
    Settled ⟨chat, db.returned ++ [(identityKey, number, shortNumber)]⟩ := by
  refine ⟨bijective, ?_⟩
  intro identity number' shortNumber' member
  rcases List.mem_append.mp member with earlier | new
  · exact (settled.keeps _ _ _ earlier).of_extends grows
  · cases List.mem_singleton.mp new
    exact has

theorem Settled.step (settled : db.Settled) (taken : db.step call = some next) :
    next.Settled ∧ db.chat.Extends next.chat := by
  unfold MemChat.step Memdb.registerChatNumber at taken
  cases found : db.chat.identityToNumber.lookup call.identityKey with
  | some number =>
      rcases settled.bijective.has found with ⟨shortNumber, has⟩
      simp only [found, has.shortened, Option.getD_some, Option.some.injEq] at taken
      subst next
      exact ⟨settled.of_answer settled.bijective (.refl _) has, .refl _⟩
  | none =>
      cases owner : db.chat.numberToIdentity.lookup call.newNumber with
      | some identity =>
          simp only [found, owner, Option.some.injEq] at taken
          subst next
          exact ⟨settled, .refl _⟩
      | none =>
          simp only [found, owner, Option.some.injEq] at taken
          subst next
          have grows : db.chat.Extends (db.chat.register call.identityKey call.newNumber
              call.newShortNumber) := settled.bijective.extends_register found owner
          exact ⟨settled.of_answer (settled.bijective.register found owner) grows
            (ChatNumbers.has_register ..), grows⟩

theorem Settled.of_run (run : Transition.Run MemChat.step Transition.anyStep db next)
    (settled : db.Settled) : next.Settled ∧ db.chat.Extends next.chat := by
  apply Transition.Run.preserves run ⟨settled, .refl _⟩
  rintro current call next _ ⟨settled, grows⟩ _ taken
  have after := settled.step taken
  exact ⟨after.1, grows.trans after.2⟩

end MemChat

theorem Memdb.findChatNumberByIdentityKey_of_has {chat : ChatNumbers}
    {identityKey number shortNumber : Text} (has : chat.Has identityKey number shortNumber) :
    findChatNumberByIdentityKey chat identityKey = .ok (number, shortNumber) := by
  simp [findChatNumberByIdentityKey, has.numbered, has.shortened]

/-- In every run, on Redis with numbers that are not empty and in memory with
any numbers, identities and numbers belong to each other, no entry changes, and
every call for an identity returns the pair that a lookup finds from then on.
On Redis, every execution of the script is answered by a pair, or by an integer
that after the sleep can only say that the number is taken. -/
theorem chat_number_is_unique_and_permanent :
    (∀ db later, RedisChat.Reaches RedisChat.Named db →
      Transition.Run RedisChat.step RedisChat.Named db later →
      Permanent db.chatNumbers later.chatNumbers db.returned later.returned
        (fun identityKey pair =>
          Redisdb.findChatNumberByIdentityKey later.keyspace identityKey =
            some (.ok pair)) ∧
      (∀ call now, ∃ reply keyspace,
        db.execute call Redisdb.minMillisPerChatNumberRegistration now =
          some (reply, keyspace) ∧
        ((∃ number shortNumber, reply = .numbers number (some shortNumber)) ∨
          ∃ n, reply = .integer n)) ∧
      (∀ caller call, db.sleeping caller = some call → ∃ reply keyspace,
        db.execute call 0 0 = some (reply, keyspace) ∧
        ((∃ number shortNumber, reply = .numbers number (some shortNumber)) ∨
          reply = .integer (-1)))) ∧
    (∀ db later, MemChat.Reaches Transition.anyStep db →
      Transition.Run MemChat.step Transition.anyStep db later →
      Permanent db.chat later.chat db.returned later.returned (fun identityKey pair =>
        Memdb.findChatNumberByIdentityKey later.chat identityKey = .ok pair)) := by
  constructor
  · intro db later reaches run
    have settled := (RedisChat.Settled.of_run reaches .initial).1
    have laterSettled := RedisChat.Settled.of_run run settled
    refine ⟨?_, ?_, ?_⟩
    · apply Permanent.of_keeps settled.bijective laterSettled.2 settled.keeps
        laterSettled.1.keeps
      intro identityKey number shortNumber has
      exact RedisChat.findChatNumberByIdentityKey_of_has laterSettled.1 has
    · intro call now
      rcases settled.reply call Redisdb.minMillisPerChatNumberRegistration now with
        ⟨reply, keyspace, executes, pair | ⟨n, integer, _⟩⟩
      · exact ⟨reply, keyspace, executes, Or.inl pair⟩
      · exact ⟨reply, keyspace, executes, Or.inr ⟨n, integer⟩⟩
    · intro caller call _
      rcases settled.reply call 0 0 with ⟨reply, keyspace, executes, pair | ⟨n, integer, taken⟩⟩
      · exact ⟨reply, keyspace, executes, Or.inl pair⟩
      · rw [taken (le_refl 0)] at integer
        exact ⟨reply, keyspace, executes, Or.inr integer⟩
  · intro db later reaches run
    have settled := (MemChat.Settled.of_run reaches .initial).1
    have laterSettled := MemChat.Settled.of_run run settled
    apply Permanent.of_keeps settled.bijective laterSettled.2 settled.keeps
      laterSettled.1.keeps
    intro identityKey number shortNumber has
    exact Memdb.findChatNumberByIdentityKey_of_has has

/-- The second of two identities is rate limited on one connection and registers
another number on a second one before it wakes up. -/
def overlappingCalls : List RedisChat.Action :=
  [.firstPass 1 ⟨['a'], ['1'], ['1']⟩ 0 true, .firstPass 2 ⟨['b'], ['2'], ['2']⟩ 100 true,
    .firstPass 3 ⟨['b'], ['3'], ['3']⟩ 1200 true]

theorem overlapping_calls_get_one_number :
    (∃ db later, RedisChat.Reaches RedisChat.Named db ∧
      Transition.Run RedisChat.step RedisChat.Named db later ∧
      db.sleeping 2 = some ⟨['b'], ['2'], ['2']⟩ ∧
      later.returned = [(['a'], ['1'], ['1']), (['b'], ['3'], ['3']), (['b'], ['3'], ['3'])] ∧
      db.chatNumbers.Extends later.chatNumbers) ∧
    (∃ db later, MemChat.Reaches Transition.anyStep db ∧
      Transition.Run MemChat.step Transition.anyStep db later ∧
      later.returned = [(['a'], ['1'], ['1']), (['a'], ['1'], ['1'])] ∧
      db.chat.Extends later.chat) := by
  constructor
  · have run : ∃ db, RedisChat.Reaches RedisChat.Named db ∧
        db.sleeping 2 = some ⟨['b'], ['2'], ['2']⟩ ∧
        (Transition.execute RedisChat.step RedisChat.Named db [.secondPass 2 true]).any
          (fun later => later.returned =
            [(['a'], ['1'], ['1']), (['b'], ['3'], ['3']), (['b'], ['3'], ['3'])]) = true :=
      Transition.Run.exists_of_execute overlappingCalls (by decide +kernel)
    rcases run with ⟨db, reaches, asleep, woken⟩
    rcases Transition.Run.exists_of_execute _ woken with ⟨later, run, returned⟩
    exact ⟨db, later, reaches, run, asleep, returned,
      (chat_number_is_unique_and_permanent.1 db later reaches run).1.kept⟩
  · have run : ∃ db, MemChat.Reaches Transition.anyStep db ∧
        (Transition.execute MemChat.step Transition.anyStep db [⟨['a'], ['2'], ['2']⟩]).any
          (fun later => later.returned =
            [(['a'], ['1'], ['1']), (['a'], ['1'], ['1'])]) = true :=
      Transition.Run.exists_of_execute [⟨['a'], ['1'], ['1']⟩] (by decide +kernel)
    rcases run with ⟨db, reaches, again⟩
    rcases Transition.Run.exists_of_execute _ again with ⟨later, run, returned⟩
    exact ⟨db, later, reaches, run, returned,
      (chat_number_is_unique_and_permanent.2 db later reaches run).kept⟩

end Tassis.Database
