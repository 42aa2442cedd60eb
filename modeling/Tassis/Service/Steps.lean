import Tassis.Service.System

/-! # What a step of a service can do

The steps of a service with what they require, and where the goroutines come from that
are there after a step.
-/

namespace Tassis.Service

open Model

/-- A step and the state after it. -/
inductive StepCase (library : Library) (opts : Opts) (state : State) : Action → State → Prop where
  | connected {number : Nat} (nonce : Text) (rounds : Nat)
      (unused : state.connections number = none) :
      StepCase library opts state (.connect number nonce rounds)
        (((state.setConnection number (.initial nonce)).setThread (.outbound number)
          ⟨handleOutbound library opts rounds, .initial nonce⟩).setThread (.init number)
          ⟨sendInitMessages opts, .initial nonce⟩)
  | sent {number : Nat} {connection : Connection} (msg : Message)
      (stored : state.connections number = some connection) :
      StepCase library opts state (.send number msg)
        (state.setConnection number { connection with out := connection.out ++ [msg] })
  | closed {number : Nat} {connection : Connection}
      (stored : state.connections number = some connection) :
      StepCase library opts state (.close number)
        (state.setConnection number { connection with closed := true })
  | performed {goroutine : Goroutine} {operation : Operation}
      {rest : Reply operation → Task Unit} {view : View} (reply : Reply operation) (rounds : Nat)
      (present : state.threads goroutine = some ⟨.call operation rest, view⟩)
      (possible : state.MayReply goroutine operation reply) :
      StepCase library opts state (.perform goroutine operation reply rounds)
        (state.after library opts goroutine view (rest reply) rounds operation reply)
  | finished {sequence : Nat} {callback : Callback} (forwardingErr : Option Failure)
      (waits : state.forwarder.callbacks sequence = some callback) :
      StepCase library opts state (.finishForward sequence forwardingErr)
        { state with
          threads := Function.update state.threads (.callback state.called)
            (some ⟨finished library opts callback forwardingErr,
              callbackView callback forwardingErr⟩)
          called := state.called + 1
          forwarder := { state.forwarder with
            callbacks := Function.update state.forwarder.callbacks sequence none }
          history := if forwardingErr.isNone then
            (callback.brokerMsg.place, .ackedRemotely) :: state.history else state.history }
  | ticked (nanos : Nat) :
      StepCase library opts state (.tick nanos) { state with clock := state.clock + nanos }

/-- The program of a goroutine that is there after a step. -/
inductive ThreadStep (library : Library) (opts : Opts) (state : State) (action : Action) :
    Goroutine → Thread → Prop where
  | kept {goroutine : Goroutine} {thread : Thread}
      (present : state.threads goroutine = some thread)
      (apart : ∀ operation reply rounds, action ≠ .perform goroutine operation reply rounds) :
      ThreadStep library opts state action goroutine thread
  | resumed {goroutine : Goroutine} {operation : Operation} {reply : Reply operation}
      {rounds : Nat} {rest : Reply operation → Task Unit} {view : View}
      (same : action = .perform goroutine operation reply rounds)
      (present : state.threads goroutine = some ⟨.call operation rest, view⟩) :
      ThreadStep library opts state action goroutine
        ⟨rest reply, view.next opts operation reply⟩
  | outbound (number : Nat) (nonce : Text) (rounds : Nat) :
      ThreadStep library opts state action (.outbound number)
        ⟨handleOutbound library opts rounds, .initial nonce⟩
  | init (number : Nat) (nonce : Text) :
      ThreadStep library opts state action (.init number)
        ⟨sendInitMessages opts, .initial nonce⟩
  | started (owner : Option Nat) (code : Routine) (rounds : Nat) :
      ThreadStep library opts state action (.routine state.performed owner code)
        ⟨taskOf library opts code rounds, .initial []⟩
  | called (callback : Callback) (forwardingErr : Option Failure) :
      ThreadStep library opts state action (.callback state.called)
        ⟨finished library opts callback forwardingErr, callbackView callback forwardingErr⟩

section Steps

variable {library : Library} {opts : Opts} {state next : State} {action : Action}

theorem State.threads_initial {goroutine : Goroutine} {thread : Thread}
    (present : (State.initial opts).threads goroutine = some thread) :
    goroutine = .main ∧ thread = ⟨do let _ ← new opts, .initial []⟩ := by
  simp only [State.initial] at present
  rcases of_update_some present with main | ⟨_, absent⟩
  · exact main
  · cases absent

theorem performNext_cases {goroutine : Goroutine} {operation : Operation}
    {reply : Reply operation} {rounds : Nat}
    (performed : performNext library opts state goroutine operation reply rounds = some next) :
    ∃ rest view, state.threads goroutine = some ⟨.call operation rest, view⟩ ∧
      state.MayReply goroutine operation reply ∧
      next = state.after library opts goroutine view (rest reply) rounds operation reply := by
  rcases Option.bind_eq_some_iff.mp performed with ⟨⟨program, view⟩, present, performed⟩
  rcases Option.bind_eq_some_iff.mp performed with ⟨program', resumed, performed⟩
  rcases Program.resume_eq_some resumed with ⟨rest, rfl, rfl⟩
  split at performed
  · rename_i possible
    exact ⟨rest, view, present, possible, (Option.some.inj performed).symm⟩
  · cases performed

theorem State.threadsAfter_cases {goroutine goroutine' : Goroutine} {operation : Operation}
    {thread thread' : Thread} {rounds : Nat}
    (present : state.threadsAfter library opts goroutine thread rounds operation goroutine' =
      some thread') :
    goroutine' = goroutine ∧ thread' = thread ∨
      goroutine' ≠ goroutine ∧ state.threads goroutine' = some thread' ∨
      ∃ routine, operation = .go routine ∧
        goroutine' = .routine state.performed goroutine.connection routine ∧
        thread' = ⟨taskOf library opts routine rounds, .initial []⟩ := by
  unfold threadsAfter at present
  split at present
  · rename_i routine
    rcases of_update_some present with ⟨started, new⟩ | ⟨_, present⟩
    · exact Or.inr (Or.inr ⟨routine, rfl, started, new⟩)
    · exact (of_update_some present).imp_right Or.inl
  · exact (of_update_some present).imp_right Or.inl

theorem stepCase_of_step (taken : step library opts state action = some next) :
    StepCase library opts state action next := by
  cases action with
  | connect number nonce rounds =>
      simp only [step, connect] at taken
      split at taken
      · cases taken
      · rename_i unused
        cases taken
        exact .connected nonce rounds unused
  | send number msg =>
      rcases Option.map_eq_some_iff.mp taken with ⟨connection, stored, rfl⟩
      exact .sent msg stored
  | close number =>
      rcases Option.map_eq_some_iff.mp taken with ⟨connection, stored, rfl⟩
      exact .closed stored
  | perform goroutine operation reply rounds =>
      rcases performNext_cases taken with ⟨rest, view, present, possible, rfl⟩
      exact .performed reply rounds present possible
  | finishForward sequence forwardingErr =>
      rcases Option.map_eq_some_iff.mp taken with ⟨callback, waits, rfl⟩
      exact .finished forwardingErr waits
  | tick nanos =>
      cases taken
      exact .ticked nanos

theorem threadStep_of_step (taken : step library opts state action = some next)
    {goroutine : Goroutine} {thread : Thread} (present : next.threads goroutine = some thread) :
    ThreadStep library opts state action goroutine thread := by
  cases stepCase_of_step taken with
  | @connected number nonce rounds =>
      rcases of_update_some present with ⟨rfl, rfl⟩ | ⟨_, present⟩
      · exact .init number nonce
      · rcases of_update_some present with ⟨rfl, rfl⟩ | ⟨_, present⟩
        · exact .outbound number nonce rounds
        · exact .kept present (by simp)
  | sent | closed | ticked => exact .kept present (by simp)
  | performed reply rounds before =>
      rcases State.threadsAfter_cases present with
        ⟨rfl, rfl⟩ | ⟨different, present⟩ | ⟨code, _, rfl, rfl⟩
      · exact .resumed rfl before
      · refine .kept present ?_
        rintro operation' reply' rounds' ⟨⟩
        exact different rfl
      · exact .started _ code rounds
  | @finished _ callback forwardingErr =>
      rcases of_update_some present with ⟨rfl, rfl⟩ | ⟨_, present⟩
      · exact .called callback forwardingErr
      · exact .kept present (by simp)

end Steps

end Tassis.Service
