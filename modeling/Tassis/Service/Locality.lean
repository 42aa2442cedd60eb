import Tassis.Service.Errands

/-! # Local addresses

Three pieces of code decide whether an address is hosted by the service itself,
each from a host that the presence repository has replied. The one for messages
from clients converts the host to lower case, and the other two do not.
-/

namespace Tassis.Service

open Model
open Program (Upon upon_call_self upon_call_other)

/-- The options as the constructor stores them. -/
def Opts.stored (library : Library) (opts : Opts) : Opts :=
  { opts with publicAddr := library.toLower opts.publicAddr }

/-! ## The three decisions -/

section Decisions

variable (library : Library) (opts : Opts) (address : Address) (tassisHost : Text)

/-- What the code does next when it has found the address at the host. -/
def GoesOnWith {α : Type} (program : Task α) (operation : Option Operation) : Prop :=
  ∀ rest, Upon (.find (some address)) (.ok tassisHost) program rest →
    rest.operation = operation

/-- The code goes on to publish to the topic of the address. -/
def Publishes {α : Type} (program : Task α) : Prop :=
  GoesOnWith address tassisHost program
    (some (.cachedPublisher (topicForAddr library address)))

/-- `sendOutboundMessage` takes the address as local. -/
def SendsLocally : Prop :=
  ∀ msg data, Publishes library address tassisHost
    (sendOutboundMessage library opts msg ⟨some address, data⟩)

/-- `forwardMessage` takes the address as local. -/
def ForwardsLocally : Prop :=
  ∀ retryPublisher brokerMsg msg data, library.unmarshal brokerMsg.data = .ok msg →
    msg.message = some ⟨some address, data⟩ →
    Publishes library address tassisHost
      (forwardMessage library opts retryPublisher brokerMsg)

/-- A transfer takes the address as local, and leaves it alone. -/
def LeavesAlone : Prop :=
  ∀ publisher rounds, GoesOnWith address tassisHost
    (transferDevice library opts publisher rounds address) none

end Decisions

variable {library : Library} {opts : Opts} {address : Address} {tassisHost : Text}

theorem goesOnWith_find {α : Type} {next : Except Failure Text → Task α}
    {operation : Option Operation} :
    GoesOnWith address tassisHost (perform (.find (some address)) >>= next) operation ↔
      (next (.ok tassisHost)).operation = operation := by
  constructor
  · intro goesOn
    exact goesOn _ .here
  · intro goesOn rest upon
    rw [upon_call_self.mp upon]
    exact goesOn

theorem topicForAddr_ne_forwardingTopic :
    forwardingTopic ≠ topicForAddr library address := by
  intro same
  exact not_isForwarding_topicForAddr library address (Or.inl same.symm)

/-- Messages from clients are compared in lower case. -/
theorem sendsLocally_iff :
    SendsLocally library opts address tassisHost ↔
      library.toLower tassisHost = opts.publicAddr := by
  constructor
  · intro sends
    by_contra elsewhere
    have goesOn := goesOnWith_find.mp (sends ⟨0, none⟩ [])
    rcases library.unmarshal_marshal ⟨some ⟨some address, []⟩, 0, 0⟩ with ⟨data, marshalled, _⟩
    dsimp only at goesOn
    rw [if_pos (Ne.symm elsewhere), marshalled] at goesOn
    have sameTopic := Operation.cachedPublisher.inj (Option.some.inj goesOn)
    exact topicForAddr_ne_forwardingTopic sameTopic
  · intro here msg data
    apply goesOnWith_find.mpr
    dsimp only
    rw [if_neg (not_not.mpr here.symm)]
    rfl

/-- Before `forwardMessage` looks up the recipient, it waits at most. -/
theorem upon_find_of_delayRetry {α : Type} {msg : ForwardedMessage} {next : Task α}
    {rest : Task α} (upon : Upon (.find (some address)) (.ok tassisHost)
      (do
        delayRetry opts msg
        next) rest) : Upon (.find (some address)) (.ok tassisHost) next rest := by
  unfold delayRetry at upon
  split at upon
  · rename_i failed
    rw [durationSinceLastFailure, if_neg failed] at upon
    rcases (upon_call_other (by simp)).mp upon with ⟨duration, upon⟩
    simp only [Program.bind] at upon
    split at upon
    · rcases (upon_call_other (by simp)).mp upon with ⟨_, upon⟩
      exact upon
    · exact upon
  · exact upon

/-- Messages to forward are compared as they are. -/
theorem forwardsLocally_iff :
    ForwardsLocally library opts address tassisHost ↔ tassisHost = opts.publicAddr := by
  constructor
  · intro forwards
    by_contra elsewhere
    rcases library.unmarshal_marshal ⟨some ⟨some address, []⟩, 0, 0⟩ with ⟨data, _, decoded⟩
    have publishes := forwards ⟨[]⟩ ⟨[], 0, data⟩ _ [] decoded rfl
    rw [forwardMessage, decoded] at publishes
    have goesOn := goesOnWith_find.mp publishes
    dsimp only at goesOn
    rw [if_neg elsewhere] at goesOn
    cases goesOn
  · intro here retryPublisher brokerMsg msg data decoded carries rest upon
    rw [forwardMessage, decoded] at upon
    have found := upon_find_of_delayRetry upon
    rw [carries] at found
    rw [upon_call_self.mp found, here]
    simp only [Program.bind]
    rw [if_pos trivial]
    rfl

/-- Devices to transfer are compared as they are. -/
theorem leavesAlone_iff :
    LeavesAlone library opts address tassisHost ↔ tassisHost = opts.publicAddr := by
  constructor
  · intro leaves
    by_contra elsewhere
    have goesOn := goesOnWith_find.mp (leaves ⟨[]⟩ 0)
    dsimp only at goesOn
    rw [if_neg elsewhere] at goesOn
    cases goesOn
  · intro here publisher rounds
    apply goesOnWith_find.mpr
    dsimp only
    rw [if_pos here]
    rfl

/-- The three decisions agree unless the host is the address of the service in
other letters. -/
theorem decisions_agree_iff (library : Library) (opts : Opts) (address : Address)
    (tassisHost : Text) :
    (SendsLocally library (opts.stored library) address tassisHost ↔
        ForwardsLocally library (opts.stored library) address tassisHost) ∧
      (SendsLocally library (opts.stored library) address tassisHost ↔
        LeavesAlone library (opts.stored library) address tassisHost) ↔
    (library.toLower tassisHost = (opts.stored library).publicAddr →
      tassisHost = (opts.stored library).publicAddr) := by
  rw [sendsLocally_iff, forwardsLocally_iff, leavesAlone_iff, and_self]
  have lowered : tassisHost = (opts.stored library).publicAddr →
      library.toLower tassisHost = (opts.stored library).publicAddr := by
    intro here
    rw [here]
    exact library.toLower_toLower opts.publicAddr
  exact ⟨Iff.mp, fun normal => ⟨normal, lowered⟩⟩

/-! ## Runs -/

def Action.lookup : Action → Option (Option Address × Text)
  | .perform _ operation reply _ => lookupOf operation reply
  | _ => none

section Runs

variable (library : Library) (opts : Opts) (address : Address)

/-- Whenever the address is looked up and found, messages from clients for it
are local, and the host is written like the address of the service. -/
def FoundHere (_ : State) (action : Action) : Prop :=
  ∀ lookup, lookup ∈ action.lookup → lookup.1 = some address →
    library.toLower lookup.2 = opts.publicAddr ∧
      (library.toLower lookup.2 = opts.publicAddr → lookup.2 = opts.publicAddr)

instance (state : State) (action : Action) :
    Decidable (FoundHere library opts address state action) :=
  inferInstanceAs (Decidable (∀ lookup, lookup ∈ action.lookup → _))

/-- No transfer is about to take messages of the address or to unregister it,
and no worker is about to forward a message for it. -/
structure Untouched (state : State) : Prop where
  subscribes : ∀ goroutine, goroutine.kind = .transferring →
    ¬state.Performs goroutine (.newSubscriber (topicForAddr library address))
  receives : ∀ goroutine, goroutine.kind = .transferring →
    ¬state.Performs goroutine (.nextDelivery ⟨topicForAddr library address⟩)
  unregisters : ∀ goroutine, goroutine.kind = .transferring →
    ¬state.Performs goroutine (.unregister address.identityKey address.deviceId)
  forwards : ∀ goroutine tassisHost sequence data, goroutine.kind = .forwarding →
    ¬state.Performs goroutine
      (.sendTo tassisHost ⟨sequence, some (.outboundMessage ⟨some address, data⟩)⟩)

/-- Every goroutine that has found the address has found it here. -/
def FoundHereOnly (errands : Goroutine → Errand) : Prop :=
  ∀ goroutine tassisHost, (errands goroutine).found = some (some address, tassisHost) →
    tassisHost = opts.publicAddr

end Runs

variable {errands : Goroutine → Errand} {state : State}

theorem FoundHereOnly.after (foundHere : FoundHereOnly opts address errands) {action : Action}
    (permitted : FoundHere library opts address state action) :
    FoundHereOnly opts address (errandsAfter state errands action) := by
  cases action <;> try exact foundHere
  case perform goroutine operation reply rounds =>
      intro other tassisHost found
      rcases errandsAfter_cases (fun errand => errand.found = some (some address, tassisHost))
        (by simp [Errand.initial]) found with ⟨_, found⟩ | ⟨_, found⟩
      · rcases Errand.found_next found with before | looked
        · exact foundHere other tassisHost before
        · have here := permitted _ looked rfl
          exact here.2 here.1
      · exact foundHere other tassisHost found

theorem FoundHereOnly.not_moved (foundHere : FoundHereOnly opts address errands)
    (goroutine : Goroutine) : ¬(errands goroutine).Moved opts address := by
  intro moved
  rcases moved with ⟨⟨found, tassisHost⟩, looked, same, elsewhere⟩
  dsimp only at same
  subst found
  exact elsewhere (foundHere goroutine tassisHost looked)

theorem FoundHereOnly.untouched (foundHere : FoundHereOnly opts address errands)
    (attends : Attends library opts errands state) : Untouched library address state := by
  have notMoved : ∀ goroutine address', (errands goroutine).Moved opts address' →
      topicForAddr library address ≠ topicForAddr library address' := by
    intro goroutine address' moved sameTopic
    rw [← topicForAddr_injective library sameTopic] at moved
    exact foundHere.not_moved goroutine moved
  constructor
  · intro goroutine kind performs
    rcases performs.thread with ⟨rest, view, present⟩
    have allowed := attends.allowed present
    rw [kind] at allowed
    rcases allowed with ⟨address', moved, sameTopic⟩
    exact notMoved goroutine address' moved sameTopic
  · intro goroutine kind performs
    rcases performs.thread with ⟨rest, view, present⟩
    have allowed := attends.allowed present
    rw [kind] at allowed
    rcases allowed.1 with ⟨address', moved, sameTopic⟩
    exact notMoved goroutine address' moved sameTopic
  · intro goroutine kind performs
    rcases performs.thread with ⟨rest, view, present⟩
    have allowed := attends.allowed present
    rw [kind] at allowed
    exact foundHere.not_moved goroutine allowed.1
  · intro goroutine tassisHost sequence data kind performs
    rcases performs.thread with ⟨rest, view, present⟩
    have allowed := attends.allowed present
    rw [kind] at allowed
    rcases allowed with ⟨elsewhere, outboundMessage, payload, found⟩
    cases payload
    exact elsewhere (foundHere goroutine tassisHost found)

theorem untouched_of_run
    (run : Transition.Run (step library opts) (FoundHere library opts address)
      (.initial opts) state) : Untouched library address state := by
  have attended : Sound library opts state ∧ ∃ errands, Attends library opts errands state ∧
      FoundHereOnly opts address errands := by
    apply Transition.Run.preserves run
    · exact ⟨Sound.initial, fun _ => .initial, Attends.initial _, fun _ _ found => by cases found⟩
    · intro current action next _ holds permitted taken
      rcases holds with ⟨sound, errands, attends, foundHere⟩
      exact ⟨sound.step taken, errandsAfter current errands action, attends.step sound taken,
        foundHere.after permitted⟩
  rcases attended with ⟨_, errands, attends, foundHere⟩
  exact foundHere.untouched attends

/-- The three pieces of code make the same decision exactly if the host is not
the address of the service in other letters. In every run in which the address
is found here only, and not in other letters, its messages are left alone. -/
theorem local_addresses_are_left_alone (library : Library) (opts : Opts) (address : Address) :
    (∀ tassisHost,
      (SendsLocally library (opts.stored library) address tassisHost ↔
          ForwardsLocally library (opts.stored library) address tassisHost) ∧
        (SendsLocally library (opts.stored library) address tassisHost ↔
          LeavesAlone library (opts.stored library) address tassisHost) ↔
      (library.toLower tassisHost = (opts.stored library).publicAddr →
        tassisHost = (opts.stored library).publicAddr)) ∧
    ∀ state, Transition.Run (step library (opts.stored library))
        (FoundHere library (opts.stored library) address) (.initial (opts.stored library)) state →
      Untouched library address state :=
  ⟨decisions_agree_iff library opts address, fun _ run => untouched_of_run run⟩

/-! ## A service whose address has capital letters -/

/-- A service starts to transfer users. -/
def transferringTrace (rounds : Nat) : List Action :=
  let publisher : Publisher := ⟨forwardingTopic⟩
  forwardingTrace ++
    [.perform .main (.go (.forwardMessages ⟨forwardingRetryTopic⟩ ⟨forwardingRetryTopic⟩)) () 0,
      .perform .main (.cachedPublisher forwardingTopic) none 0,
      .perform .main (.newPublisher forwardingTopic) (.ok publisher) 0,
      .perform .main (.cachePublisher forwardingTopic publisher) () 0,
      .perform .main (.go (.userTransfers publisher)) () rounds]

/-- The goroutine that is started by `transferringTrace`. -/
def transferLoop : Goroutine := .routine 11 none (.userTransfers ⟨forwardingTopic⟩)

/-- A pass begins with a device that is found at the host. -/
def passTrace (interval : Int) (address : Address) (tassisHost : Text) : List Action :=
  [.perform transferLoop (.sleep interval) () 0,
    .perform transferLoop .allRegisteredDevices (.ok [address]) 0,
    .perform transferLoop (.find (some address)) (.ok tassisHost) 0]

/-- The messages of the device are awaited in vain. -/
def idleTrace (topic : Text) : List Action :=
  [.perform transferLoop (.newSubscriber topic) (.ok ⟨topic⟩) 0,
    .perform transferLoop (.nextDelivery ⟨topic⟩) none 0,
    .perform transferLoop (.closeSubscriber ⟨topic⟩) () 0]

/-- The presence repository knows a single host. -/
def Static (tassisHost : Text) (_ : State) (action : Action) : Prop :=
  ∀ lookup, lookup ∈ action.lookup → lookup.2 = tassisHost

instance (tassisHost : Text) (state : State) (action : Action) :
    Decidable (Static tassisHost state action) :=
  inferInstanceAs (Decidable (∀ lookup, lookup ∈ action.lookup → _))

/-- A service whose configured address is not in lower case. -/
def capitalOpts : Opts := { plainOpts with publicAddr := "Tassis".toList }

/-- With the configured address as the only host of the presence repository,
messages from clients are local but forwarding and transfers take the device as
moved, and a transfer comes to unregister it. -/
theorem local_device_is_transferred :
    SendsLocally plainLibrary (capitalOpts.stored plainLibrary) ⟨['k'], ['d']⟩
        "Tassis".toList ∧
      ¬ForwardsLocally plainLibrary (capitalOpts.stored plainLibrary) ⟨['k'], ['d']⟩
        "Tassis".toList ∧
      ¬LeavesAlone plainLibrary (capitalOpts.stored plainLibrary) ⟨['k'], ['d']⟩
        "Tassis".toList ∧
      ∃ state, Transition.Run (step plainLibrary (capitalOpts.stored plainLibrary))
          (Static "Tassis".toList) (.initial (capitalOpts.stored plainLibrary)) state ∧
        state.Performs transferLoop (.unregister ['k'] ['d']) := by
  rw [sendsLocally_iff, forwardsLocally_iff, leavesAlone_iff]
  refine ⟨by decide, by decide, by decide, ?_⟩
  exact Transition.Run.exists_of_execute
    (transferringTrace 2 ++ passTrace (10 ^ 9) ⟨['k'], ['d']⟩ "Tassis".toList ++
      idleTrace (topicForAddr plainLibrary ⟨['k'], ['d']⟩)) (by decide +kernel)

/-- The device of a service with an address in lower case is left alone. -/
theorem local_device_is_left_alone :
    (SendsLocally plainLibrary (plainOpts.stored plainLibrary) ⟨['k'], ['d']⟩
        "tassis".toList ↔
      LeavesAlone plainLibrary (plainOpts.stored plainLibrary) ⟨['k'], ['d']⟩
        "tassis".toList) ∧
    ∃ state, Transition.Run (step plainLibrary (plainOpts.stored plainLibrary))
        (FoundHere plainLibrary (plainOpts.stored plainLibrary) ⟨['k'], ['d']⟩)
        (.initial (plainOpts.stored plainLibrary)) state ∧
      state.Performs transferLoop (.sleep (10 ^ 9)) ∧
      Untouched plainLibrary ⟨['k'], ['d']⟩ state := by
  have agree := local_addresses_are_left_alone plainLibrary plainOpts ⟨['k'], ['d']⟩
  have run : ∃ state, Transition.Run (step plainLibrary (plainOpts.stored plainLibrary))
        (FoundHere plainLibrary (plainOpts.stored plainLibrary) ⟨['k'], ['d']⟩)
        (.initial (plainOpts.stored plainLibrary)) state ∧
      state.Performs transferLoop (.sleep (10 ^ 9)) :=
    Transition.Run.exists_of_execute
      (transferringTrace 2 ++ passTrace (10 ^ 9) ⟨['k'], ['d']⟩ "tassis".toList)
      (by decide +kernel)
  rcases run with ⟨state, run, performs⟩
  exact ⟨((agree.1 _).mpr (by decide)).2, state, run, performs, agree.2 state run⟩

end Tassis.Service
