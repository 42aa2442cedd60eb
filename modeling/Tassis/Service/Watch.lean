import Tassis.Service.AckStages
import Tassis.Service.Soundness

/-! # A connection that is watched

A connection is watched along a run of the service: the messages that were sent
to its client and those whose acker was called with success are recorded with
their sequence numbers. A table of unacknowledged messages says where the
goroutines of the connection are.
-/

namespace Tassis.Service

open Model

/-! ## Watching a connection -/

/-- A service and what has happened on one of its connections. -/
structure Watch where
  service : State
  /-- How many messages of its own the service has numbered. -/
  drawn : Nat
  delivered : List (Nat × BrokerMessage)
  acked : List (Nat × BrokerMessage)

/-- The goroutine passes messages on to the client of a connection. -/
def Goroutine.delivers (number : Nat) : Goroutine → Bool
  | .routine _ (some owner) (.handleInbound _) => owner = number
  | _ => false

namespace Watch

def initial (opts : Opts) : Watch := ⟨.initial opts, 0, [], []⟩

/-- The message of its client that a connection is handling. -/
def handling (watch : Watch) (number : Nat) : Option Message :=
  (watch.service.threads (.outbound number)).bind (·.view.message)

/-- The broker's message that a goroutine is handling. -/
def passing (watch : Watch) (goroutine : Goroutine) : Option BrokerMessage :=
  (watch.service.threads goroutine).bind (·.view.delivery)

def drawnBy (number : Nat) (goroutine : Goroutine) : Operation → Nat
  | .nextSequence => if goroutine.connection = some number then 1 else 0
  | _ => 0

def deliveredBy (watch : Watch) (number : Nat) (goroutine : Goroutine) :
    Operation → List (Nat × BrokerMessage)
  | .send msg =>
      if goroutine.delivers number then (watch.passing goroutine).toList.map (msg.sequence, ·)
      else []
  | _ => []

def ackedBy (watch : Watch) (number : Nat) (goroutine : Goroutine) :
    (operation : Operation) → Reply operation → List (Nat × BrokerMessage)
  | .ack brokerMsg, none =>
      if goroutine = .outbound number then
        (watch.handling number).toList.map fun msg => (msg.sequence, brokerMsg)
      else []
  | _, _ => []

def after (watch : Watch) (number : Nat) (next : State) : Action → Watch
  | .perform goroutine operation reply _ =>
      { service := next
        drawn := watch.drawn + drawnBy number goroutine operation
        delivered := watch.deliveredBy number goroutine operation ++ watch.delivered
        acked := watch.ackedBy number goroutine operation reply ++ watch.acked }
  | _ => { watch with service := next }

variable (library : Library) (opts : Opts) (number : Nat)

def step (watch : Watch) (action : Action) : Option Watch :=
  (Service.step library opts watch.service action).map (watch.after number · action)

def Reaches (watch : Watch) : Prop :=
  Transition.Run (step library opts number) Transition.anyStep (initial opts) watch

variable {library : Library} {opts : Opts} {number : Nat} {watch next : Watch}

theorem after_service (watch : Watch) (number : Nat) (next : State) (action : Action) :
    (watch.after number next action).service = next := by
  cases action <;> rfl

theorem service_of_step {action : Action}
    (taken : step library opts number watch action = some next) :
    Service.step library opts watch.service action = some next.service ∧
      next = watch.after number next.service action := by
  rcases Option.map_eq_some_iff.mp taken with ⟨service, performed, rfl⟩
  rw [after_service]
  exact ⟨performed, rfl⟩

theorem Reaches.service (reaches : Reaches library opts number watch) :
    Service.Reaches library opts watch.service :=
  Transition.Run.project Watch.service reaches fun _ _ _ taken => (service_of_step taken).1

end Watch

/-! ## Goroutines and their numbers -/

/-- A goroutine is numbered by the operation that started it, and belongs to a
connection that is there. -/
structure Rooted (state : State) : Prop where
  started : ∀ id owner code thread, state.threads (.routine id owner code) = some thread →
    id < state.performed
  connected : ∀ goroutine thread number, state.threads goroutine = some thread →
    goroutine.connection = some number → state.connections number ≠ none

section Rooted

variable {library : Library} {opts : Opts} {state next : State}

theorem Rooted.initial (opts : Opts) : Rooted (.initial opts) := by
  constructor
  · intro id owner code thread present
    cases (State.threads_initial present).1
  · intro goroutine thread number present owned
    rw [(State.threads_initial present).1] at owned
    cases owned

/-- Where a goroutine comes from that is there after a step. -/
inductive Origin (state next : State) (goroutine : Goroutine) : Prop where
  | kept {thread : Thread} (present : state.threads goroutine = some thread)
  | opened (number : Nat) (same : goroutine = .outbound number ∨ goroutine = .init number)
      (connected : next.connections number ≠ none)
  | started {starter : Goroutine} {thread : Thread} {code : Routine}
      (present : state.threads starter = some thread)
      (same : goroutine = .routine state.performed starter.connection code)
      (counted : state.performed < next.performed)
  | called (number : Nat) (same : goroutine = .callback number)

theorem origin_of_step {action : Action} (taken : step library opts state action = some next)
    {goroutine : Goroutine} {thread : Thread} (present : next.threads goroutine = some thread) :
    Origin state next goroutine := by
  cases stepCase_of_step taken with
  | @connected number nonce =>
      have connected : Function.update state.connections number (some (.initial nonce)) number ≠
          none := by simp
      rcases of_update_some present with ⟨same, _⟩ | ⟨_, present⟩
      · exact .opened number (Or.inr same) connected
      · rcases of_update_some present with ⟨same, _⟩ | ⟨_, present⟩
        · exact .opened number (Or.inl same) connected
        · exact .kept present
  | sent | closed | ticked => exact .kept present
  | performed reply rounds before =>
      rcases State.threadsAfter_cases present with
        ⟨rfl, _⟩ | ⟨_, present⟩ | ⟨routine, _, same, _⟩
      · exact .kept before
      · exact .kept present
      · exact .started before same (Nat.lt_succ_self _)
  | finished =>
      rcases of_update_some present with ⟨same, _⟩ | ⟨_, present⟩
      · exact .called state.called same
      · exact .kept present

theorem performed_le_step {action : Action}
    (taken : step library opts state action = some next) : state.performed ≤ next.performed := by
  cases stepCase_of_step taken with
  | performed => exact Nat.le_succ _
  | _ => exact Nat.le_refl _

theorem Rooted.step (rooted : Rooted state) (sound : Sound library opts state)
    {action : Action} (taken : step library opts state action = some next) : Rooted next := by
  have kept : ∀ number, state.connections number ≠ none → next.connections number ≠ none := by
    intro number stored
    rcases Option.ne_none_iff_exists'.mp stored with ⟨connection, stored⟩
    rcases (sound.extends taken).connections number connection stored with ⟨_, stored', _⟩
    rw [stored']
    simp
  constructor
  · intro id owner code thread present
    cases origin_of_step taken present with
    | kept before =>
        exact Nat.lt_of_lt_of_le (rooted.started id owner code _ before) (performed_le_step taken)
    | opened number same => rcases same with same | same <;> cases same
    | started _ same counted =>
        cases same
        exact counted
    | called number same => cases same
  · intro goroutine thread number present owned
    cases origin_of_step taken present with
    | kept before => exact kept number (rooted.connected goroutine _ number before owned)
    | opened number' same connected =>
        rcases same with rfl | rfl <;> cases owned <;> exact connected
    | started before same =>
        rw [same] at owned
        exact kept number (rooted.connected _ _ number before owned)
    | called number' same =>
        rw [same] at owned
        cases owned

theorem Rooted.of_reaches (reaches : Reaches library opts state) : Rooted state :=
  Transition.Run.preserves reaches (Rooted.initial opts)
    fun _ _ _ reached rooted _ taken => rooted.step (Sound.of_reaches reached) taken

variable {goroutine other : Goroutine} {operation : Operation} {thread thread' : Thread}
  {rounds : Nat}

/-- No goroutine that is there is replaced by one that is started. -/
theorem Rooted.threadsAfter_of_present (rooted : Rooted state)
    (present : state.threads other = some thread) :
    state.threadsAfter library opts goroutine thread' rounds operation other =
      Function.update state.threads goroutine (some thread') other := by
  unfold State.threadsAfter
  split
  · refine Function.update_of_ne ?_ _ _
    rintro rfl
    exact absurd (rooted.started _ _ _ thread present) (Nat.lt_irrefl _)
  · rfl

theorem Rooted.threadsAfter_self (rooted : Rooted state)
    (present : state.threads goroutine = some thread) :
    state.threadsAfter library opts goroutine thread' rounds operation goroutine =
      some thread' :=
  (rooted.threadsAfter_of_present present).trans (Function.update_self ..)

theorem Rooted.threadsAfter_other (rooted : Rooted state) (different : other ≠ goroutine)
    (present : state.threads other = some thread) :
    state.threadsAfter library opts goroutine thread' rounds operation other = some thread :=
  (rooted.threadsAfter_of_present present).trans
    ((Function.update_of_ne different _ _).trans present)

end Rooted

/-! ## A connection follows a table -/

/-- What a goroutine has in hand for the client of a connection. -/
inductive Holding (number : Nat) (state : State) (goroutine : Goroutine) :
    Hand BrokerMessage → Prop where
  | position {id : Nat} {subscriber : Subscriber} {thread : Thread} (position : Position)
      (delivers : goroutine = .routine id (some number) (.handleInbound subscriber))
      (present : state.threads goroutine = some thread)
      (here : position.At subscriber thread) : Holding number state goroutine position.hand
  | absent (absent : goroutine.delivers number = true → state.threads goroutine = none) :
      Holding number state goroutine .empty

/-- The loop over the client's messages is where the worker of a table is. -/
def Works (library : Library) (opts : Opts) (number : Nat) (state : State)
    (worker : Worker BrokerMessage) : Prop :=
  ∃ thread stage, state.threads (.outbound number) = some thread ∧
    AckStage.At library opts stage thread ∧ worker = stage.worker

/-- Every message that the client was sent for another client is on record. -/
def Recorded (inbox : List Message) (delivered : List (Nat × BrokerMessage)) : Prop :=
  ∀ sequence data, ⟨sequence, some (.inboundMessage data)⟩ ∈ inbox →
    ∃ brokerMsg : BrokerMessage, brokerMsg.data = data ∧ (sequence, brokerMsg) ∈ delivered

structure Tracks (library : Library) (opts : Opts) (number : Nat) (watch : Watch)
    (connection : Connection) (table : AckTable Goroutine BrokerMessage) : Prop where
  stored : watch.service.connections number = some connection
  counter : table.counter = watch.drawn
  sequence : connection.sequence = watch.drawn
  entries : table.entries = connection.unackedMessages
  delivered : table.delivered = watch.delivered
  settled : table.settled = watch.acked
  inbox : Recorded connection.inbox watch.delivered
  hands : ∀ goroutine, Holding number watch.service goroutine (table.hands goroutine)
  works : Works library opts number watch.service table.worker

/-- Before its client connects, nothing happens on a connection. -/
structure Unconnected (number : Nat) (watch : Watch)
    (table : AckTable Goroutine BrokerMessage) : Prop where
  unused : watch.service.connections number = none
  drawn : watch.drawn = 0
  delivered : watch.delivered = []
  acked : watch.acked = []
  initial : table = .initial

def Follows (library : Library) (opts : Opts) (number : Nat) (watch : Watch)
    (table : AckTable Goroutine BrokerMessage) : Prop :=
  Unconnected number watch table ∨
    ∃ connection, Tracks library opts number watch connection table

section Goroutines

variable {number : Nat} {goroutine : Goroutine}

theorem Goroutine.delivers_iff :
    goroutine.delivers number = true ↔
      ∃ id subscriber, goroutine = .routine id (some number) (.handleInbound subscriber) := by
  constructor
  · intro holds
    unfold delivers at holds
    split at holds
    · rename_i id owner subscriber
      rw [of_decide_eq_true holds]
      exact ⟨id, subscriber, rfl⟩
    · cases holds
  · rintro ⟨id, subscriber, rfl⟩
    exact decide_eq_true rfl

theorem Goroutine.not_delivers (different : goroutine.connection ≠ some number) :
    goroutine.delivers number = false := by
  cases delivers : goroutine.delivers number with
  | false => rfl
  | true =>
      rcases delivers_iff.mp delivers with ⟨id, subscriber, rfl⟩
      exact absurd rfl different

/-- The goroutines that belong to a connection. -/
theorem Goroutine.owned_cases (owned : goroutine.connection = some number)
    (unowned : goroutine.kind.OfService → goroutine.connection = none) :
    goroutine = .outbound number ∨
      (goroutine.kind = .notifying ∧ goroutine.delivers number = false) ∨
      ∃ id subscriber, goroutine = .routine id (some number) (.handleInbound subscriber) := by
  have owned' : ¬ goroutine.kind.OfService := fun ofService => by
    rw [unowned ofService] at owned
    cases owned
  cases goroutine with
  | main => cases owned
  | outbound owner =>
      cases owned
      exact Or.inl rfl
  | init owner => exact Or.inr (Or.inl ⟨rfl, rfl⟩)
  | callback called => cases owned
  | routine id owner code =>
      cases owned
      cases code with
      | handleInbound subscriber => exact Or.inr (Or.inr ⟨id, subscriber, rfl⟩)
      | warnPreKeysLowIfNecessary => exact Or.inr (Or.inl ⟨rfl, rfl⟩)
      | forwardMessages => exact absurd trivial owned'
      | forwardLoop => exact absurd trivial owned'
      | userTransfers => exact absurd trivial owned'

variable {state : State} {hand : Hand BrokerMessage}

theorem Holding.eq_empty (holding : Holding number state goroutine hand)
    (idle : goroutine.delivers number = false) : hand = .empty := by
  cases holding with
  | position position delivers present here =>
      rw [Goroutine.delivers_iff.mpr ⟨_, _, delivers⟩] at idle
      cases idle
  | absent absent => rfl

theorem Holding.of_idle (idle : goroutine.delivers number = false) :
    Holding number state goroutine .empty := by
  apply Holding.absent
  intro delivers
  rw [idle] at delivers
  cases delivers

/-- A goroutine that is left alone keeps what it has in hand. -/
theorem Holding.of_threads {next : State} (holding : Holding number state goroutine hand)
    (same : goroutine.delivers number = true →
      next.threads goroutine = state.threads goroutine) :
    Holding number next goroutine hand := by
  cases holding with
  | position position delivers present here =>
      have unchanged := same (Goroutine.delivers_iff.mpr ⟨_, _, delivers⟩)
      exact .position position delivers (unchanged.trans present) here
  | absent absent => exact .absent fun delivers => (same delivers).trans (absent delivers)

variable {library : Library} {opts : Opts} {other : Goroutine} {operation : Operation}
  {reply : Reply operation} {thread : Thread} {rest : Task Unit} {rounds : Nat} {view : View}

/-- A goroutine that was just started has nothing in hand. -/
theorem Holding.after_other (rooted : Rooted state) (different : other ≠ goroutine)
    (holding : Holding number state other hand) :
    Holding number (state.after library opts goroutine view rest rounds operation reply) other
      hand := by
  cases holding with
  | position position delivers present here =>
      exact .position position delivers (rooted.threadsAfter_other different present) here
  | absent absent =>
      cases present : (state.after library opts goroutine view rest rounds operation
        reply).threads other with
      | none => exact .absent fun _ => present
      | some thread =>
          by_cases delivers : other.delivers number = true
          · rcases State.threadsAfter_cases present with
              ⟨same, _⟩ | ⟨_, before⟩ | ⟨routine, _, started, new⟩
            · exact absurd same different
            · rw [absent delivers] at before
              cases before
            · rcases Goroutine.delivers_iff.mp delivers with ⟨id, subscriber, own⟩
              have code : routine = .handleInbound subscriber :=
                (Goroutine.routine.inj (started.symm.trans own)).2.2
              subst code
              exact .position (.waiting rounds) own present
                ⟨congrArg Thread.program new, fun _ impossible => by cases impossible⟩
          · exact .of_idle (Bool.eq_false_iff.mpr delivers)

/-- What the goroutines have in hand after an operation of one of them. -/
theorem holding_after {hands hands' : Goroutine → Hand BrokerMessage} (rooted : Rooted state)
    (holding : ∀ other, Holding number state other (hands other))
    (own : Holding number (state.after library opts goroutine view rest rounds operation reply)
      goroutine (hands' goroutine))
    (others : ∀ other, other ≠ goroutine → hands' other = hands other) (other : Goroutine) :
    Holding number (state.after library opts goroutine view rest rounds operation reply) other
      (hands' other) := by
  by_cases same : other = goroutine
  · rw [same]
    exact own
  · rw [others other same]
    exact (holding other).after_other rooted same

theorem holding_after_idle {hands : Goroutine → Hand BrokerMessage} (rooted : Rooted state)
    (holding : ∀ other, Holding number state other (hands other))
    (idle : goroutine.delivers number = false) (other : Goroutine) :
    Holding number (state.after library opts goroutine view rest rounds operation reply) other
      (hands other) := by
  refine holding_after rooted holding ?_ (fun _ _ => rfl) other
  rw [(holding goroutine).eq_empty idle]
  exact .of_idle idle

theorem Works.after_other {worker : Worker BrokerMessage} (rooted : Rooted state)
    (works : Works library opts number state worker) (different : goroutine ≠ .outbound number) :
    Works library opts number
      (state.after library opts goroutine view rest rounds operation reply) worker := by
  rcases works with ⟨thread, stage, present, here, same⟩
  exact ⟨thread, stage, rooted.threadsAfter_other different.symm present, here, same⟩

end Goroutines

end Tassis.Service
