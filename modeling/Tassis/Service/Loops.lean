import Tassis.Service.Rejections
import Tassis.Service.Soundness
import Tassis.Service.Transcripts

/-! # The loop over a client's messages

What a step of the service does to the loop over the messages of one client. No other
goroutine sends acks or receives messages.
-/

namespace Tassis.Service

open Model
open Program (Always Obeys only)

/-- The sequence numbers that were acked to the client. -/
def Connection.acks (connection : Connection) : List Nat :=
  (connection.inbox.filter IsAck).map Message.sequence

/-! ## The other goroutines of a connection -/

/-- The goroutines that notify clients send no acks and receive no messages. -/
def Discreet (state : State) : Prop :=
  ∀ goroutine thread, state.threads goroutine = some thread → goroutine.kind = .notifying →
    Always (only Operation.Quiet) thread.program

section Discreet

variable {library : Library} {opts : Opts} {state next : State} {number : Nat}

theorem Discreet.initial (opts : Opts) : Discreet (.initial opts) := by
  intro goroutine thread present notifying
  simp only [State.initial] at present
  rcases of_update_some present with ⟨rfl, _⟩ | ⟨_, absent⟩
  · cases notifying
  · cases absent

theorem Discreet.step (discreet : Discreet state) {action : Action}
    (taken : step library opts state action = some next) : Discreet next := by
  intro goroutine thread present notifying
  cases threadStep_of_step taken present with
  | kept before => exact discreet goroutine thread before notifying
  | resumed _ before => exact (discreet goroutine _ before notifying).of_call.2 _
  | outbound | called => cases notifying
  | init => exact sendInitMessages_quiet opts
  | started owner code rounds =>
      cases code <;> try cases notifying
      exact warnPreKeysLowIfNecessary_quiet opts rounds

theorem Discreet.of_reaches (reaches : Reaches library opts state) : Discreet state :=
  Transition.Run.preserves reaches (Discreet.initial opts)
    fun _ _ _ _ discreet _ taken => discreet.step taken

/-- Only the loop over the client's messages sends acks or receives messages. -/
theorem quiet_of_other {goroutine : Goroutine} {operation : Operation}
    {rest : Reply operation → Task Unit} {view : View}
    (reaches : Reaches library opts state)
    (present : state.threads goroutine = some ⟨.call operation rest, view⟩)
    (connected : goroutine.connection = some number) (other : goroutine ≠ .outbound number) :
    operation.Quiet := by
  have sane := (Sound.of_reaches reaches).threads _ _ present
  rcases goroutine.owned_cases connected sane.unowned with rfl | notifying | inbound
  · exact absurd rfl other
  · exact (Discreet.of_reaches reaches _ _ present notifying.1).of_call.1
  · rcases inbound with ⟨id, subscriber, rfl⟩
    have allowed := sane.allowed
    cases operation <;> try first | trivial | exact allowed.elim
    case send answer =>
        rcases allowed with ⟨brokerMsg, _, _, payload⟩
        rw [Operation.Quiet, IsAck, payload]
        simp

/-- The client has sent no message that was received since, and got no ack. -/
structure Connection.Agrees (connection later : Connection) : Prop where
  acks : later.acks = connection.acks
  processed : later.processed = connection.processed
  within : later.received ≤ later.out.length

theorem Connection.agrees_after {connection : Connection} {operation : Operation}
    (within : connection.received ≤ connection.out.length) (quiet : operation.Quiet)
    (reply : Reply operation) : connection.Agrees (connection.after operation reply) := by
  cases operation <;> try exact ⟨rfl, rfl, within⟩
  case nextMessage => exact quiet.elim
  case send answer =>
      refine ⟨?_, rfl, within⟩
      have notAck : ¬IsAck answer := quiet
      simp [Connection.acks, Connection.after, notAck]

theorem Connection.acks_after_ack {connection : Connection} {answer : Message}
    (isAck : IsAck answer) {reply : Reply (.send answer)} :
    (connection.after (.send answer) reply).acks = connection.acks ++ [answer.sequence] := by
  simp [Connection.acks, Connection.after, isAck]

theorem Connection.processed_after_message {connection : Connection} {msg : Message}
    (possible : connection.mayReply .nextMessage (some msg) = true) :
    (connection.after .nextMessage (some msg)).processed = connection.processed ++ [msg] := by
  have found : connection.out[connection.received]? = some msg := by
    simpa [Connection.mayReply] using possible
  simp [Connection.processed, Connection.after, List.take_add_one, found]

theorem agrees_of_apart {action : Action} {connection later : Connection}
    (reaches : Reaches library opts state) (taken : step library opts state action = some next)
    (apart : ¬action.Concerns number) (stored : state.connections number = some connection)
    (within : connection.received ≤ connection.out.length)
    (kept : next.connections number = some later) : connection.Agrees later := by
  have same (unchanged : next.connections number = state.connections number) :
      connection.Agrees later := by
    rw [unchanged, stored] at kept
    cases kept
    exact ⟨rfl, rfl, within⟩
  cases stepCase_of_step taken with
  | connected nonce rounds unused =>
      have different := fun same : number = _ => apart same.symm
      exact same (Function.update_of_ne different _ _)
  | sent msg found =>
      rcases of_update_some kept with ⟨rfl, rfl⟩ | ⟨different, _⟩
      · cases stored.symm.trans found
        refine ⟨rfl, List.take_append_of_le_length within, ?_⟩
        exact within.trans (by simp)
      · exact same (Function.update_of_ne different _ _)
  | closed found =>
      rcases of_update_some kept with ⟨rfl, rfl⟩ | ⟨different, _⟩
      · cases stored.symm.trans found
        exact ⟨rfl, rfl, within⟩
      · exact same (Function.update_of_ne different _ _)
  | @performed goroutine operation rest view reply rounds present =>
      rw [State.connections_after, stored] at kept
      by_cases connected : goroutine.connection = some number
      · have changed : connection.after operation reply = later := by
          simpa [connected] using kept
        rw [← changed]
        exact Connection.agrees_after within
          (quiet_of_other reaches present connected apart) reply
      · have unchanged : connection = later := by simpa [connected] using kept
        rw [← unchanged]
        exact ⟨rfl, rfl, within⟩
  | finished | ticked => exact same rfl

end Discreet

/-! ## Steps -/

/-- A connection and its loop before and after a step. -/
inductive LoopStep (opts : Opts) (action : Action) (number : Nat) (connection : Connection) :
    Thread → Connection → Thread → Prop where
  | apart {later : Connection} (thread : Thread) (apart : ¬action.Concerns number)
      (agrees : connection.Agrees later) : LoopStep opts action number connection thread later thread
  | performed {operation : Operation} {rest : Reply operation → Task Unit} {view : View}
      {reply : Reply operation} {rounds : Nat}
      (same : action = .perform (.outbound number) operation reply rounds)
      (expected : Transcript.Expects operation reply)
      (possible : connection.mayReply operation reply = true) :
      LoopStep opts action number connection ⟨.call operation rest, view⟩
        (connection.after operation reply) ⟨rest reply, view.next opts operation reply⟩

section Loop

variable {library : Library} {opts : Opts} {state next : State} {number : Nat}
  {connection : Connection} {thread : Thread} {action : Action}

theorem Connection.within_after {operation : Operation} {reply : Reply operation}
    (within : connection.received ≤ connection.out.length)
    (possible : connection.mayReply operation reply = true) :
    (connection.after operation reply).received ≤ (connection.after operation reply).out.length := by
  cases operation <;> try exact within
  case nextMessage =>
      cases reply with
      | none => exact within
      | some msg =>
          have found : connection.out[connection.received]? = some msg := by
            simpa [Connection.mayReply] using possible
          exact (List.getElem?_eq_some_iff.mp found).1

theorem loop_of_connect {nonce : Text} {rounds : Nat}
    (taken : step library opts state (.connect number nonce rounds) = some next) :
    state.connections number = none ∧ next.connections number = some (.initial nonce) ∧
      next.threads (.outbound number) =
        some ⟨handleOutbound library opts rounds, .initial nonce⟩ := by
  cases stepCase_of_step taken with
  | connected _ _ unused => exact ⟨unused, Function.update_self .., by simp [State.setThread]⟩

theorem loopStep_of_step (reaches : Reaches library opts state)
    (taken : step library opts state action = some next)
    (stored : state.connections number = some connection)
    (present : state.threads (.outbound number) = some thread)
    (within : connection.received ≤ connection.out.length) :
    ∃ later thread', next.connections number = some later ∧
      next.threads (.outbound number) = some thread' ∧
      LoopStep opts action number connection thread later thread' := by
  by_cases concerns : action.Concerns number
  · cases action with
    | connect opened nonce rounds =>
        cases concerns
        cases stored.symm.trans (loop_of_connect taken).1
    | perform goroutine operation reply rounds =>
        cases concerns
        have sound := Sound.of_reaches reaches
        rcases performNext_cases taken with ⟨rest, view, running, possible, rfl⟩
        cases running.symm.trans present
        have replies := possible.2
        rw [State.connectionOf, Goroutine.connection, Option.bind_some, stored] at replies
        have expected : Transcript.Expects operation reply := by
          have expects := sound.expects (sound.threads _ _ running) possible
          cases operation <;> trivial
        have kept : (state.after library opts (.outbound number) view (rest reply) rounds operation
            reply).connections number = some (connection.after operation reply) := by
          rw [State.connections_after, stored]
          exact congrArg some (if_pos rfl)
        exact ⟨_, _, kept, (Rooted.of_reaches reaches).threadsAfter_self running,
          .performed rfl expected replies⟩
    | _ => exact concerns.elim
  · rcases ((Sound.of_reaches reaches).extends taken).connections _ _ stored with ⟨later, kept, _⟩
    exact ⟨later, thread, kept, (outbound_of_step taken concerns).1.trans present,
      .apart thread concerns (agrees_of_apart reaches taken concerns stored within kept)⟩

/-- Every connection has its loop, which has received no more than was sent. -/
def Looped (state : State) : Prop :=
  ∀ number connection, state.connections number = some connection →
    connection.received ≤ connection.out.length ∧
      ∃ thread, state.threads (.outbound number) = some thread

theorem unused_of_apart (reaches : Reaches library opts state)
    (taken : step library opts state action = some next)
    (unused : state.connections number = none) :
    (∃ nonce rounds, action = .connect number nonce rounds) ∨
      ¬action.Concerns number ∧ next.connections number = none := by
  by_cases concerns : action.Concerns number
  · cases action with
    | connect opened nonce rounds =>
        cases concerns
        exact Or.inl ⟨nonce, rounds, rfl⟩
    | perform goroutine operation reply rounds =>
        cases concerns
        rcases performNext_cases taken with ⟨rest, view, running, _, _⟩
        rcases ((Sound.of_reaches reaches).threads _ _ running).mirrors number rfl with
          ⟨connection, stored, _⟩
        cases unused.symm.trans stored
    | _ => exact concerns.elim
  · exact Or.inr ⟨concerns, (outbound_of_step taken concerns).2 unused⟩

/-- A connection number before and after a step. -/
inductive LoopEffect (library : Library) (opts : Opts) (state next : State) (action : Action)
    (number : Nat) : Prop where
  | idle (apart : ¬action.Concerns number) (unused : state.connections number = none)
      (unused' : next.connections number = none)
  | opened (nonce : Text) (rounds : Nat) (same : action = .connect number nonce rounds)
      (unused : state.connections number = none)
      (stored : next.connections number = some (.initial nonce))
      (present : next.threads (.outbound number) =
        some ⟨handleOutbound library opts rounds, .initial nonce⟩)
  | moved {connection later : Connection} {thread thread' : Thread}
      (stored : state.connections number = some connection)
      (present : state.threads (.outbound number) = some thread)
      (stored' : next.connections number = some later)
      (present' : next.threads (.outbound number) = some thread')
      (moves : LoopStep opts action number connection thread later thread')

theorem Looped.loopEffect (looped : Looped state) (reaches : Reaches library opts state)
    (taken : step library opts state action = some next) (number : Nat) :
    LoopEffect library opts state next action number := by
  cases stored : state.connections number with
  | none =>
      rcases unused_of_apart reaches taken stored with ⟨nonce, rounds, rfl⟩ | ⟨apart, unused⟩
      · rcases loop_of_connect taken with ⟨_, opened, loop⟩
        exact .opened nonce rounds rfl stored opened loop
      · exact .idle apart stored unused
  | some connection =>
      rcases looped number connection stored with ⟨within, thread, present⟩
      rcases loopStep_of_step reaches taken stored present within with
        ⟨later, thread', kept, present', moves⟩
      exact .moved stored present kept present' moves

theorem Looped.step (looped : Looped state) (reaches : Reaches library opts state)
    (taken : step library opts state action = some next) : Looped next := by
  intro number later kept
  cases looped.loopEffect reaches taken number with
  | idle _ _ unused => cases kept.symm.trans unused
  | opened _ _ _ _ opened loop =>
      cases kept.symm.trans opened
      exact ⟨le_rfl, _, loop⟩
  | moved stored _ kept' present moves =>
      cases kept.symm.trans kept'
      refine ⟨?_, _, present⟩
      cases moves with
      | apart _ _ agrees => exact agrees.within
      | performed _ _ possible =>
          exact Connection.within_after (looped number _ stored).1 possible

theorem Looped.of_reaches (reaches : Reaches library opts state) : Looped state := by
  have starts : Looped (.initial opts) := fun _ _ stored => by cases stored
  apply Transition.Run.preserves reaches starts
  intro current action next reached looped _ taken
  exact looped.step reached taken

theorem loopEffect_of_step (reaches : Reaches library opts state)
    (taken : step library opts state action = some next) (number : Nat) :
    LoopEffect library opts state next action number :=
  (Looped.of_reaches reaches).loopEffect reaches taken number

end Loop

end Tassis.Service
