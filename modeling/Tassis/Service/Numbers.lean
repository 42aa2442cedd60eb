import Tassis.Database.Candidates
import Tassis.Database.Directories
import Tassis.Service.Handlers

/-! # Finding a number

Logins that call `getNumber` at the same time, on either database. A call of
the database is one execution, or two with a sleep between them, and executions
of different logins interleave.
-/

namespace Tassis.Service

open Model Database

/-! ## Searches -/

/-- A call of `getNumber`. -/
structure Search where
  identityKey : Text
  /-- What the call has still to do. -/
  task : Task (Except Failure (Text × Text))
  /-- The current call of the database sleeps. -/
  asleep : Bool
  /-- History: the calls of the database that have returned. -/
  calls : Nat

/-- The searches of all logins, by connection. -/
structure Searches (backend : Backend) where
  store : backend.State
  searches : Nat → Option Search

namespace Searches

inductive Action where
  | start (connection : Nat) (identityKey : Text)
  /-- An execution for the current call of the database. -/
  | execute (connection : Nat) (now : Int)
  deriving DecidableEq, Repr

variable {backend : Backend}

def initial (backend : Backend) : Searches backend := ⟨backend.initial, fun _ => none⟩

/-- The result of a call as the service sees it. No other error is returned. -/
def reply : Except DBError (Text × Text) → Option (Except Failure (Text × Text))
  | .ok numbers => some (.ok numbers)
  | .error .numberTaken => some (.error (.typed errNumberTaken))
  | .error _ => none

def setSearch (state : Searches backend) (connection : Nat) (search : Search) :
    Searches backend :=
  { state with searches := Function.update state.searches connection (some search) }

section Steps

variable (library : Library)

def execute (state : Searches backend) (connection : Nat) (search : Search) (now : Int) :
    Option (Searches backend) :=
  match search.task with
  | .call (.registerChatNumber identityKey newNumber newShortNumber) next => do
      let (progress, store) ← backend.execute state.store search.asleep
        ⟨library.keyString identityKey, newNumber, newShortNumber⟩ now
      match progress with
      | .sleeps =>
          return setSearch ⟨store, state.searches⟩ connection { search with asleep := true }
      | .answered result =>
          let result ← reply result
          return setSearch ⟨store, state.searches⟩ connection
            { search with task := next result, asleep := false, calls := search.calls + 1 }
      | .crashed => none
  | _ => none

def step (state : Searches backend) : Action → Option (Searches backend)
  | .start connection identityKey =>
      match state.searches connection with
      | none => do
          let task ← (getNumber library).resume .loadIdentityKey (some identityKey)
          return state.setSearch connection ⟨identityKey, task, false, 0⟩
      | some _ => none
  | .execute connection now => do
      let search ← state.searches connection
      state.execute library connection search now

def Reaches (state : Searches backend) : Prop :=
  Transition.Run (step library) Transition.anyStep (initial backend) state

end Steps

end Searches

/-! ## The loop -/

/-- How `getNumber` goes on after an answer in this iteration. -/
def afterAttempt (identityKey preferredNumber : Text) (rounds iter : Nat) :
    Except Failure (Text × Text) → Task (Except Failure (Text × Text))
  | .ok numbers => .done (.ok numbers)
  | .error err =>
      if err = .typed errNumberTaken ∧ (candidate preferredNumber iter).2.2 = false then
        tryNumbers identityKey preferredNumber rounds (iter + 1)
      else .done (.error err)

theorem tryNumbers_succ {identityKey preferredNumber : Text}
    (long : 12 ≤ preferredNumber.length) (rounds iter : Nat) :
    tryNumbers identityKey preferredNumber (rounds + 1) iter =
      .call (.registerChatNumber identityKey (candidate preferredNumber iter).1
        (candidate preferredNumber iter).2.1)
        (afterAttempt identityKey preferredNumber rounds iter) := by
  rw [tryNumbers, if_neg (by omega)]
  refine congrArg (Program.call _) (funext fun result => ?_)
  cases result with
  | ok numbers => rfl
  | error err => rfl

/-- Another identity has the number. -/
def Held (chat : ChatNumbers) (key number : Text) : Prop :=
  ∃ owner, owner ≠ key ∧ chat.numberToIdentity.lookup number = some owner

theorem Held.of_extends {chat later : ChatNumbers} {key number : Text}
    (held : Held chat key number) (grows : chat.Extends later) : Held later key number := by
  rcases held with ⟨owner, different, owned⟩
  exact ⟨owner, different, grows.numberToIdentity _ _ owned⟩

/-- How far a search has come, and what it has found out. -/
inductive Stage (chat : ChatNumbers) (key identityKey preferredNumber : Text) :
    Task (Except Failure (Text × Text)) → Bool → Nat → Prop where
  | short (tooShort : preferredNumber.length < 12) :
      Stage chat key identityKey preferredNumber .crash false 0
  | trying {iter : Nat} {asleep : Bool} (long : 12 ≤ preferredNumber.length)
      (bounded : iter ≤ preferredNumber.length - 12)
      (held : ∀ earlier, earlier < iter →
        Held chat key (candidate preferredNumber earlier).1) :
      Stage chat key identityKey preferredNumber
        (tryNumbers identityKey preferredNumber (preferredNumber.length + 1 - iter) iter)
        asleep iter
  | found {number shortNumber : Text} {calls : Nat} (has : chat.Has key number shortNumber)
      (bounded : calls ≤ preferredNumber.length - 12 + 1) :
      Stage chat key identityKey preferredNumber (.done (.ok (number, shortNumber))) false calls
  | exhausted (held : ∀ iter, iter ≤ preferredNumber.length - 12 →
        Held chat key (candidate preferredNumber iter).1) :
      Stage chat key identityKey preferredNumber (.done (.error (.typed errNumberTaken))) false
        (preferredNumber.length - 12 + 1)

theorem Stage.of_extends {chat later : ChatNumbers} {key identityKey preferredNumber : Text}
    {task : Task (Except Failure (Text × Text))} {asleep : Bool} {calls : Nat}
    (stage : Stage chat key identityKey preferredNumber task asleep calls)
    (grows : chat.Extends later) :
    Stage later key identityKey preferredNumber task asleep calls := by
  cases stage with
  | short tooShort => exact .short tooShort
  | trying long bounded held =>
      exact .trying long bounded fun earlier before => (held earlier before).of_extends grows
  | found has bounded => exact .found (has.of_extends grows) bounded
  | exhausted held => exact .exhausted fun iter before => (held iter before).of_extends grows

/-- A number that another identity has when this one is unregistered. -/
theorem held_of_owned {chat : ChatNumbers} (bijective : chat.Bijective)
    {key number owner : Text} (unregistered : chat.identityToNumber.lookup key = none)
    (owned : chat.numberToIdentity.lookup number = some owner) : Held chat key number := by
  refine ⟨owner, ?_, owned⟩
  rintro rfl
  rw [(bijective.inverse _ _).mpr owned] at unregistered
  cases unregistered

/-- The stage after an answer. -/
theorem Stage.of_answer {chat next : ChatNumbers} {key identityKey preferredNumber : Text}
    {iter : Nat} {asleep : Bool} {result : Except DBError (Text × Text)}
    (bijective : chat.Bijective)
    (answers : chat.Answers ⟨key, (candidate preferredNumber iter).1,
      (candidate preferredNumber iter).2.1⟩ asleep (.answered result) next)
    (long : 12 ≤ preferredNumber.length) (bounded : iter ≤ preferredNumber.length - 12)
    (held : ∀ earlier, earlier < iter → Held next key (candidate preferredNumber earlier).1) :
    ∃ result', Searches.reply result = some result' ∧
      Stage next key identityKey preferredNumber
        (afterAttempt identityKey preferredNumber (preferredNumber.length - iter) iter result')
        false (iter + 1) := by
  cases result with
  | ok numbers => exact ⟨.ok numbers, rfl, .found answers.has (by omega)⟩
  | error err =>
      rcases answers.taken_of_error with ⟨rfl, owner, unregistered, owned, rfl⟩
      refine ⟨.error (.typed errNumberTaken), rfl, ?_⟩
      have heldNow : ∀ earlier, earlier ≤ iter →
          Held next key (candidate preferredNumber earlier).1 := by
        intro earlier before
        rcases Nat.lt_or_eq_of_le before with before | rfl
        · exact held earlier before
        · exact held_of_owned bijective unregistered owned
      by_cases last : iter = preferredNumber.length - 12
      · have lastChance := (candidate_lastChance long).mpr (Nat.le_of_eq last.symm)
        rw [afterAttempt, if_neg (by simp [lastChance]), last]
        exact .exhausted (last ▸ heldNow)
      · have notLast : (candidate preferredNumber iter).2.2 = false := by
          rw [← Bool.not_eq_true, candidate_lastChance long]
          omega
        rw [afterAttempt, if_pos ⟨rfl, notLast⟩, ← Nat.add_sub_add_right _ 1 iter]
        exact .trying long (by omega) fun earlier before =>
          heldNow earlier (Nat.lt_succ_iff.mp before)

/-! ## Every run -/

namespace Searches

variable {library : Library} {backend : Backend} {state next : Searches backend}

/-- The call of the database for a candidate. -/
def registrationOf (library : Library) (identityKey : Text) (iter : Nat) : Registration :=
  ⟨library.keyString identityKey, (candidate (library.number identityKey) iter).1,
    (candidate (library.number identityKey) iter).2.1⟩

theorem registrationOf_ne_nil {identityKey : Text}
    (long : 12 ≤ (library.number identityKey).length) (iter : Nat) :
    (registrationOf library identityKey iter).newNumber ≠ [] :=
  IsCandidate.ne_nil ⟨library.number identityKey, iter, _, long, rfl⟩

structure Sound (library : Library) (state : Searches backend) : Prop where
  store : Backend.Sound backend state.store
  /-- What an identity has is a candidate of its own. -/
  candidates : ∀ identityKey number shortNumber,
    (backend.directory state.store).Has (library.keyString identityKey) number shortNumber →
    12 ≤ (library.number identityKey).length ∧ ∃ iter,
      number = (registrationOf library identityKey iter).newNumber ∧
      shortNumber = (registrationOf library identityKey iter).newShortNumber
  stages : ∀ connection search, state.searches connection = some search →
    Stage (backend.directory state.store) (library.keyString search.identityKey)
      search.identityKey (library.number search.identityKey) search.task search.asleep
      search.calls

theorem Sound.initial (library : Library) (backend : Backend) :
    Sound library (initial backend) where
  store := .initial backend
  candidates := by
    intro identityKey number shortNumber has
    cases backend <;> cases has.numbered
  stages := by
    intro connection search found
    cases found

/-- An execution for a candidate keeps the directory sound, and the stages of the
other searches. -/
theorem Sound.of_answers (sound : Sound library state) {store : backend.State}
    (stored : Backend.Sound backend store) {identityKey : Text} {iter : Nat} {asleep : Bool}
    {progress : CallProgress} (long : 12 ≤ (library.number identityKey).length)
    (answers : (backend.directory state.store).Answers (registrationOf library identityKey iter)
      asleep progress (backend.directory store)) {connection : Nat} {search : Search}
    (stage : Stage (backend.directory store) (library.keyString search.identityKey)
      search.identityKey (library.number search.identityKey) search.task search.asleep
      search.calls) :
    Sound library (setSearch ⟨store, state.searches⟩ connection search) where
  store := stored
  candidates := by
    intro identityKey' number shortNumber has
    rcases answers.of_has sound.store.bijective has with earlier | ⟨sameKey, rfl, rfl⟩
    · exact sound.candidates identityKey' number shortNumber earlier
    · cases library.keyString_injective sameKey
      exact ⟨long, iter, rfl, rfl⟩
  stages := by
    intro connection' search' found
    rcases of_update_some found with ⟨_, rfl⟩ | ⟨_, earlier⟩
    · exact stage
    · exact (sound.stages connection' search' earlier).of_extends
        (answers.grows sound.store.bijective)

/-- Twice the number of calls that have returned, and one if a call sleeps. -/
def effort (search : Search) : Nat := 2 * search.calls + search.asleep.toNat

/-- The next execution of a search is possible and brings it forward. -/
theorem Sound.attempt (sound : Sound library state) {identityKey : Text} {iter : Nat}
    (asleep : Bool) (long : 12 ≤ (library.number identityKey).length)
    (bounded : iter ≤ (library.number identityKey).length - 12)
    (held : ∀ earlier, earlier < iter → Held (backend.directory state.store)
      (library.keyString identityKey) (candidate (library.number identityKey) earlier).1)
    (connection : Nat) (now : Int) :
    ∃ store search, state.execute library connection
        ⟨identityKey, tryNumbers identityKey (library.number identityKey)
          ((library.number identityKey).length + 1 - iter) iter, asleep, iter⟩ now =
        some (setSearch ⟨store, state.searches⟩ connection search) ∧
      2 * iter + asleep.toNat < effort search ∧
      Sound library (setSearch ⟨store, state.searches⟩ connection search) := by
  have rounds : (library.number identityKey).length + 1 - iter =
      (library.number identityKey).length - iter + 1 := by omega
  rw [rounds, tryNumbers_succ long]
  rcases sound.store.execute asleep (registrationOf_ne_nil long iter) now with
    ⟨progress, store, executes, stored, answers⟩
  have executes' : backend.execute state.store asleep ⟨library.keyString identityKey,
      (candidate (library.number identityKey) iter).1,
      (candidate (library.number identityKey) iter).2.1⟩ now = some (progress, store) := executes
  have heldStill := fun earlier before =>
    (held earlier before).of_extends (answers.grows sound.store.bijective)
  cases progress with
  | crashed => cases answers
  | sleeps =>
      have awake : asleep = false := by
        generalize backend.directory store = later at answers
        cases answers
        assumption
      refine ⟨store, _, by simp only [execute, executes']; rfl, ?_,
        sound.of_answers stored long answers ?_⟩
      · simp [effort, awake]
      · dsimp only
        rw [← tryNumbers_succ long, ← rounds]
        exact .trying long bounded heldStill
  | answered result =>
      rcases Stage.of_answer sound.store.bijective answers long bounded heldStill with
        ⟨result', replies, stage⟩
      refine ⟨store, ⟨identityKey, afterAttempt identityKey (library.number identityKey)
        ((library.number identityKey).length - iter) iter result', false, iter + 1⟩, ?_, ?_,
        sound.of_answers stored long answers stage⟩
      · simp only [execute, executes', Option.bind_eq_bind, Option.bind_some, replies]
        rfl
      · have atMost := Bool.toNat_le asleep
        simp only [effort, Bool.toNat_false]
        omega

theorem getNumber_resume (library : Library) (identityKey : Text) :
    (getNumber library).resume .loadIdentityKey (some identityKey) =
      some (tryNumbers identityKey (library.number identityKey)
        ((library.number identityKey).length + 1) 0) := by
  rfl

theorem Sound.start (sound : Sound library state) {connection : Nat} {identityKey : Text}
    (taken : state.step library (.start connection identityKey) = some next) :
    Sound library next := by
  simp only [step] at taken
  split at taken
  · simp only [getNumber_resume, Option.bind_eq_bind, Option.bind_some, Option.pure_def,
      Option.some.injEq] at taken
    subst next
    refine ⟨sound.store, sound.candidates, ?_⟩
    intro connection' search found
    rcases of_update_some found with ⟨_, rfl⟩ | ⟨_, earlier⟩
    · by_cases long : 12 ≤ (library.number identityKey).length
      · exact .trying long (Nat.zero_le _) fun earlier before => absurd before (Nat.not_lt_zero _)
      · rw [tryNumbers, if_pos (Nat.lt_of_not_le long)]
        exact .short (Nat.lt_of_not_le long)
    · exact sound.stages connection' search earlier
  · cases taken

theorem Sound.step (sound : Sound library state) {action : Action}
    (taken : state.step library action = some next) : Sound library next := by
  cases action with
  | start connection identityKey => exact sound.start taken
  | execute connection now =>
      rcases Option.bind_eq_some_iff.mp taken with ⟨search, found, taken⟩
      have stage := sound.stages connection search found
      rcases search with ⟨identityKey, task, asleep, calls⟩
      dsimp only at stage
      cases stage with
      | short | found | exhausted => cases taken
      | trying long bounded held =>
          rcases sound.attempt asleep long bounded held connection now with
            ⟨store, search, executes, _, sound'⟩
          cases executes.symm.trans taken
          exact sound'

theorem Sound.of_reaches (reaches : Reaches library state) : Sound library state := by
  refine Transition.Run.preserves reaches (.initial library backend) ?_
  intro current action next _ sound _ taken
  exact sound.step taken

/-- All candidates of an identity are held by others only if it has no number. -/
theorem Sound.unregistered (sound : Sound library state) {identityKey : Text}
    (held : ∀ iter, iter ≤ (library.number identityKey).length - 12 →
      Held (backend.directory state.store) (library.keyString identityKey)
        (candidate (library.number identityKey) iter).1) :
    (backend.directory state.store).identityToNumber.lookup (library.keyString identityKey) =
      none := by
  cases found : (backend.directory state.store).identityToNumber.lookup
      (library.keyString identityKey) with
  | none => rfl
  | some number =>
      rcases sound.store.bijective.has found with ⟨shortNumber, has⟩
      rcases sound.candidates identityKey number shortNumber has with ⟨long, iter, rfl, _⟩
      -- A candidate from an iteration after the last chance is the last chance.
      have owned := (sound.store.bijective.inverse _ _).mp found
      have heldHere : Held (backend.directory state.store) (library.keyString identityKey)
          (candidate (library.number identityKey) iter).1 := by
        by_cases early : iter ≤ (library.number identityKey).length - 12
        · exact held iter early
        · have last := held _ (Nat.le_refl _)
          rw [candidate_of_le long (Nat.le_refl _)] at last
          rw [candidate_of_le long (by omega)]
          exact last
      rcases heldHere with ⟨owner, different, owned'⟩
      exact absurd (Option.some.inj (owned'.symm.trans owned)) different

end Searches

/-! ## What is found -/

/-- A number as identity keys have them: longer than a short number, and without
fives. -/
structure IsPlain (number : Text) : Prop where
  long : 12 < number.length
  plain : '5' ∉ number

instance (number : Text) : Decidable (IsPlain number) :=
  decidable_of_iff (12 < number.length ∧ '5' ∉ number)
    ⟨fun both => ⟨both.1, both.2⟩, fun isPlain => ⟨isPlain.long, isPlain.plain⟩⟩

/-- What a search comes to, with its number of calls. Every execution brings an
unfinished search forward, so that it comes to an end. -/
structure SearchLaws (library : Library) {backend : Backend} (state : Searches backend)
    (connection : Nat) (search : Search) : Prop where
  bounded : search.calls ≤ (library.number search.identityKey).length - 11
  proceeds : (∀ result, search.task ≠ .done result) →
    search.calls < (library.number search.identityKey).length - 11 ∧
    ∀ now, ∃ next search', state.step library (.execute connection now) = some next ∧
      next.searches connection = some search' ∧
      Searches.effort search < Searches.effort search'
  succeeds : ∀ number shortNumber, search.task = .done (.ok (number, shortNumber)) →
    IsForm (library.number search.identityKey) number shortNumber ∧
    (backend.directory state.store).Has (library.keyString search.identityKey) number
      shortNumber
  fails : ∀ err, search.task = .done (.error err) → err = .typed errNumberTaken ∧
    (backend.directory state.store).identityToNumber.lookup
      (library.keyString search.identityKey) = none ∧
    ∀ iter, iter < (library.number search.identityKey).length - 12 →
      Held (backend.directory state.store) (library.keyString search.identityKey)
        (candidate (library.number search.identityKey) iter).1

namespace Searches

variable {library : Library} {backend : Backend} {state : Searches backend}

theorem Sound.isForm (sound : Sound library state) {identityKey number shortNumber : Text}
    (isPlain : IsPlain (library.number identityKey))
    (has : (backend.directory state.store).Has (library.keyString identityKey) number
      shortNumber) : IsForm (library.number identityKey) number shortNumber := by
  rcases sound.candidates identityKey number shortNumber has with ⟨long, iter, rfl, rfl⟩
  exact candidate_isForm long isPlain.plain iter

theorem Sound.searchLaws (sound : Sound library state) {connection : Nat} {search : Search}
    (found : state.searches connection = some search)
    (isPlain : IsPlain (library.number search.identityKey)) :
    SearchLaws library state connection search := by
  have stage := sound.stages connection search found
  have long := isPlain.long
  rcases search with ⟨identityKey, task, asleep, calls⟩
  dsimp only at stage isPlain long
  cases stage with
  | short tooShort => omega
  | found has bounded =>
      refine ⟨by dsimp only; omega, fun unfinished => absurd rfl (unfinished _), ?_, ?_⟩
      · intro number shortNumber finished
        cases finished
        exact ⟨sound.isForm isPlain has, has⟩
      · intro err finished
        cases finished
  | exhausted held =>
      refine ⟨by dsimp only; omega, fun unfinished => absurd rfl (unfinished _), ?_, ?_⟩
      · intro number shortNumber finished
        cases finished
      · intro err finished
        cases finished
        exact ⟨rfl, sound.unregistered held, fun iter early => held iter (Nat.le_of_lt early)⟩
  | trying isLong bounded held =>
      have unfinished : ∀ result, tryNumbers identityKey (library.number identityKey)
          ((library.number identityKey).length + 1 - calls) calls ≠ .done result := by
        intro result finished
        rw [(by omega : (library.number identityKey).length + 1 - calls =
          (library.number identityKey).length - calls + 1), tryNumbers_succ isLong] at finished
        cases finished
      refine ⟨by dsimp only; omega, fun _ => ⟨by dsimp only; omega, ?_⟩,
        fun number shortNumber finished => absurd finished (unfinished _),
        fun err finished => absurd finished (unfinished _)⟩
      intro now
      rcases sound.attempt asleep isLong bounded held connection now with
        ⟨store, search, executes, further, _⟩
      refine ⟨setSearch ⟨store, state.searches⟩ connection search, search, ?_,
        Function.update_self .., further⟩
      simp only [Searches.step, found, Option.bind_eq_bind, Option.bind_some]
      exact executes

end Searches

/-- Whatever logins search for numbers at the same time and on which database,
candidates of different numbers or iterations differ, every identity has a form
of its own number, and every search comes to the end it should. -/
theorem getNumber_finds_free_form (library : Library) (backend : Backend)
    (state : Searches backend) (reaches : Searches.Reaches library state) :
    (∀ preferredNumber preferredNumber' iter iter',
      IsPlain preferredNumber → IsPlain preferredNumber' →
      (preferredNumber ≠ preferredNumber' →
        (candidate preferredNumber iter).1 ≠ (candidate preferredNumber' iter').1) ∧
      (iter < preferredNumber.length - 12 → iter' < preferredNumber.length - 12 →
        iter ≠ iter' →
        (candidate preferredNumber iter).1 ≠ (candidate preferredNumber iter').1)) ∧
    (∀ identityKey number shortNumber, IsPlain (library.number identityKey) →
      (backend.directory state.store).Has (library.keyString identityKey) number shortNumber →
      IsForm (library.number identityKey) number shortNumber) ∧
    ∀ connection search, state.searches connection = some search →
      IsPlain (library.number search.identityKey) →
      SearchLaws library state connection search := by
  have sound := Searches.Sound.of_reaches reaches
  refine ⟨?_, ?_, ?_⟩
  · intro preferredNumber preferredNumber' iter iter' isPlain isPlain'
    refine ⟨fun different => ?_, candidate_ne_of_iter_ne⟩
    exact candidate_ne_of_ne isPlain.long.le isPlain'.long.le isPlain.plain isPlain'.plain
      different iter iter'
  · intro identityKey number shortNumber isPlain has
    exact sound.isForm isPlain has
  · intro connection search found isPlain
    exact sound.searchLaws found isPlain

/-! ## Three identities with the same number -/

/-- All identities have the same fourteen digits, so that there are two
candidates. -/
def crowdedLibrary : Library :=
  { plainLibrary with
    number := fun _ => List.replicate 14 '1'
    number_length := by simp }

def Search.result? (search : Search) : Option (Except Failure (Text × Text)) :=
  match search.task with
  | .done result => some result
  | _ => none

theorem Search.task_of_result? {search : Search} {result : Except Failure (Text × Text)}
    (finished : search.result? = some result) : search.task = .done result := by
  unfold result? at finished
  split at finished
  · rename_i value isDone
    cases finished
    exact isDone
  · cases finished

def secondForm : Text × Text :=
  ('5' :: List.replicate 12 '1' ++ "511".toList, '5' :: List.replicate 12 '1')

/-- Two identities sleep with the second form in hand. The one that wakes up
first gets it, and the other finds all forms taken. -/
theorem crowded_searches_end :
    ∃ state : Searches .redisdb, Searches.Reaches crowdedLibrary state ∧
      IsForm (List.replicate 14 '1') secondForm.1 secondForm.2 ∧
      (Backend.directory .redisdb state.store).Has (crowdedLibrary.keyString ['b'])
        secondForm.1 secondForm.2 ∧
      (Backend.directory .redisdb state.store).identityToNumber.lookup
        (crowdedLibrary.keyString ['c']) = none ∧
      Held (Backend.directory .redisdb state.store) (crowdedLibrary.keyString ['c'])
        (candidate (List.replicate 14 '1') 1).1 := by
  have run : ∃ state : Searches .redisdb, Searches.Reaches crowdedLibrary state ∧
      ((state.searches 2).any fun search => search.identityKey = ['b'] ∧
        search.result? = some (.ok secondForm)) = true ∧
      ((state.searches 3).any fun search => search.identityKey = ['c'] ∧
        search.result? = some (.error (.typed errNumberTaken))) = true :=
    Transition.Run.exists_of_execute
      [.start 1 ['a'], .start 2 ['b'], .start 3 ['c'], .execute 1 0, .execute 2 0,
        .execute 2 0, .execute 3 0, .execute 3 0, .execute 2 0, .execute 3 0, .execute 3 0]
      (by decide +kernel)
  rcases run with ⟨state, reaches, second, third⟩
  have laws := (getNumber_finds_free_form crowdedLibrary .redisdb state reaches).2.2
  have isPlain : IsPlain (List.replicate 14 '1') := by decide
  rcases (Option.any_eq_true _ _).mp second with ⟨search, found, finished⟩
  rcases (Option.any_eq_true _ _).mp third with ⟨search', found', finished'⟩
  simp only [decide_eq_true_eq] at finished finished'
  have succeeds := (laws 2 search found isPlain).succeeds secondForm.1 secondForm.2
    (Search.task_of_result? finished.2)
  have fails := (laws 3 search' found' isPlain).fails _ (Search.task_of_result? finished'.2)
  rw [finished.1] at succeeds
  rw [finished'.1] at fails
  exact ⟨state, reaches, succeeds.1, succeeds.2, fails.2.1, fails.2.2 1 (by decide)⟩

end Tassis.Service
