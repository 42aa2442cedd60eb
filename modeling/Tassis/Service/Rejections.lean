import Tassis.Service.Trials
import Tassis.Service.Watch

/-! # After a rejected login

A login that is rejected closes its connection. The loop over the client's
messages may still take another message that is pending, since it does not
prefer the signal that the connection is closed. A connection is followed along
a run of the service: how many logins were evaluated, whether one was rejected,
and what took effect afterwards.
-/

namespace Tassis.Service

open Model
open Program (Obeys)

/-! ## The record of a connection -/

/-- The message that the loop over a client's messages takes. -/
def Action.received (number : Nat) : Action → Option Message
  | .perform goroutine .nextMessage received _ =>
      if goroutine = .outbound number then received else none
  | _ => none

/-- A service, and what became of the logins on one of its connections. -/
structure Audit where
  service : State
  /-- How many logins were evaluated. -/
  evaluated : Nat
  /-- A login was rejected and the connection closed. -/
  rejected : Bool
  /-- What goroutines of the connection did with effect after the rejection. -/
  effects : List Operation

namespace Audit

def initial (opts : Opts) : Audit := ⟨.initial opts, 0, false, []⟩

/-- What the goroutine has seen, if it is the loop over the client's messages. -/
def loopView (audit : Audit) (number : Nat) (goroutine : Goroutine) : Option View :=
  if goroutine = .outbound number then (audit.service.threads goroutine).map (·.view) else none

def after (audit : Audit) (number : Nat) (next : State) : Action → Audit
  | .perform goroutine operation reply _ =>
      { service := next
        evaluated := audit.evaluated +
          if (audit.loopView number goroutine).any (·.evaluates operation reply) then 1 else 0
        rejected := audit.rejected ||
          (audit.loopView number goroutine).any (·.rejects operation)
        effects :=
          if audit.rejected = true ∧ goroutine.connection = some number ∧
              operation.takesEffect = true then operation :: audit.effects
          else audit.effects }
  | _ => { audit with service := next }

variable (library : Library) (opts : Opts) (number : Nat)

def step (audit : Audit) (action : Action) : Option Audit :=
  (Service.step library opts audit.service action).map (audit.after number · action)

/-- After the rejection, the loop takes no message by which an anonymous client
may log in or have an effect. -/
def Heeds (audit : Audit) (action : Action) : Prop :=
  audit.rejected = true → (action.received number).any consequential = false

instance (audit : Audit) (action : Action) : Decidable (audit.Heeds number action) :=
  inferInstanceAs (Decidable (_ → _))

variable {library : Library} {opts : Opts} {number : Nat} {audit next : Audit}

theorem after_service (audit : Audit) (number : Nat) (next : State) (action : Action) :
    (audit.after number next action).service = next := by
  cases action <;> rfl

theorem service_of_step {action : Action}
    (taken : step library opts number audit action = some next) :
    Service.step library opts audit.service action = some next.service ∧
      next = audit.after number next.service action := by
  rcases Option.map_eq_some_iff.mp taken with ⟨service, performed, rfl⟩
  rw [after_service]
  exact ⟨performed, rfl⟩

theorem reaches_service {permitted : Audit → Action → Prop}
    (run : Transition.Run (step library opts number) permitted (initial opts) audit) :
    Service.Reaches library opts audit.service :=
  Transition.Run.project Audit.service run fun _ _ _ taken => (service_of_step taken).1

end Audit

/-! ## Ackers -/

/-- Who is not logged in was sent no message to ack. -/
def Unsent (state : State) : Prop :=
  ∀ number connection sequence, state.connections number = some connection →
    connection.identityKey = none → connection.unackedMessages sequence = none

section Ackers

variable {library : Library} {opts : Opts} {state next : State}

theorem Unsent.initial (opts : Opts) : Unsent (.initial opts) := by
  intro number connection sequence stored
  cases stored

theorem Unsent.step (unsent : Unsent state) (sound : Sound library opts state) {action : Action}
    (taken : step library opts state action = some next) : Unsent next := by
  intro number connection sequence stored
  have before := unsent number
  have changed := connectionStep_of_step taken stored
  generalize found : state.connections number = current at changed
  cases changed with
  | connected nonce => exact fun _ => rfl
  | kept => exact before connection sequence found
  | sent connection msg sends => exact before connection sequence found
  | closed connection => exact before connection sequence found
  | @acted connection goroutine operation rest view reply connected present =>
      have same := before connection sequence found
      have sane := sound.threads _ _ present
      cases operation <;> try exact same
      case nextMessage => cases reply <;> exact same
      case storeIdentityKey identityKey =>
          intro unset
          cases unset
      case storeAcker sequence' brokerMsg =>
          intro unset
          have allowed := sane.allowed
          cases goroutine with
          | routine id owner code =>
              cases code <;> try exact allowed.elim
              rcases sane.subscribed id owner _ rfl with
                ⟨owning, connection', address, owned, stored', actsFor, _⟩
              cases owned.symm.trans connected
              cases stored'.symm.trans found
              cases actsFor.1.symm.trans unset
          | _ => exact allowed.elim
      case deleteAcker sequence' =>
          intro unset
          simp only [Connection.after, Function.update_apply]
          split
          · rfl
          · exact same unset

theorem Unsent.of_reaches (reaches : Reaches library opts state) : Unsent state :=
  Transition.Run.preserves reaches (Unsent.initial opts)
    fun _ _ _ reached unsent _ taken => unsent.step (Sound.of_reaches reached) taken

end Ackers

/-! ## Steps -/

/-- A client connects here, or the loop over its messages goes on. -/
def Action.Concerns (number : Nat) : Action → Prop
  | .connect opened _ _ => opened = number
  | .perform goroutine _ _ _ => goroutine = .outbound number
  | _ => False

theorem setConnection_unused {state : State} {changed number : Nat} {current value : Connection}
    (stored : state.connections changed = some current)
    (unused : state.connections number = none) :
    (state.setConnection changed value).connections number = none := by
  have different : number ≠ changed := by
    rintro rfl
    cases unused.symm.trans stored
  exact (Function.update_of_ne different _ _).trans unused

theorem outbound_of_step {library : Library} {opts : Opts} {state next : State} {number : Nat}
    {action : Action} (taken : step library opts state action = some next)
    (apart : ¬action.Concerns number) :
    next.threads (.outbound number) = state.threads (.outbound number) ∧
      (state.connections number = none → next.connections number = none) := by
  cases stepCase_of_step taken with
  | @connected opened =>
      have different : number ≠ opened := fun same => apart same.symm
      simp [State.setThread, State.setConnection, different]
  | sent msg stored | closed stored => exact ⟨rfl, setConnection_unused stored⟩
  | @performed goroutine =>
      have different : Goroutine.outbound number ≠ goroutine := fun same => apart same.symm
      constructor
      · simp only [State.after, State.threadsAfter]
        split
        · rw [Function.update_of_ne (by simp), Function.update_of_ne different]
        · exact Function.update_of_ne different _ _
      · intro unused
        rw [State.connections_after, unused]
        rfl
  | finished =>
      have different : Goroutine.outbound number ≠ .callback state.called := by simp
      refine ⟨?_, id⟩
      dsimp only
      rw [Function.update_of_ne different]
  | ticked => exact ⟨rfl, id⟩

namespace Audit

/-- Where the loop over the client's messages stands. -/
inductive Stands (opts : Opts) (number : Nat) (audit : Audit) : Prop where
  | unconnected (unused : audit.service.connections number = none)
      (unevaluated : audit.evaluated = 0) (unrejected : audit.rejected = false)
  | looping (thread : Thread)
      (present : audit.service.threads (.outbound number) = some thread)
      (fair : Trial.Fair ⟨thread.view, audit.evaluated, audit.rejected⟩)
      (obeys : Obeys (Trial.rules opts) (fun _ _ => True) thread.program
        ⟨thread.view, audit.evaluated, audit.rejected⟩)

variable {library : Library} {opts : Opts} {number : Nat} {audit next : Audit}
  {connection : Connection}

theorem after_of_apart {action : Action} (apart : ¬action.Concerns number) (state : State) :
    (audit.after number state action).evaluated = audit.evaluated ∧
      (audit.after number state action).rejected = audit.rejected := by
  cases action <;> try exact ⟨rfl, rfl⟩
  case perform goroutine operation reply rounds =>
      have noLoop : audit.loopView number goroutine = none := if_neg apart
      simp only [after, noLoop]
      exact ⟨rfl, Bool.or_false _⟩

theorem Stands.once (stands : audit.Stands opts number) : audit.evaluated ≤ 1 := by
  cases stands with
  | unconnected _ unevaluated => exact unevaluated ▸ Nat.zero_le 1
  | looping thread present fair => exact fair.once

theorem Stands.anonymous (stands : audit.Stands opts number)
    (sound : Sound library opts audit.service) (rejected : audit.rejected = true)
    (stored : audit.service.connections number = some connection) :
    connection.identityKey = none := by
  cases stands with
  | unconnected unused =>
      rw [unused] at stored
      cases stored
  | looping thread present fair =>
      have mirrors := (sound.threads _ _ present).mirrors_connection rfl rfl stored
      exact mirrors.identityKey.symm.trans (fair.anonymous rejected)

theorem expects_of_mayReply {operation : Operation} {reply : Reply operation} {rounds : Nat}
    {thread : Thread} (sound : Sound library opts audit.service)
    (unsent : Unsent audit.service)
    (present : audit.service.threads (.outbound number) = some thread)
    (possible : audit.service.MayReply (.outbound number) operation reply)
    (heeds : audit.Heeds number (.perform (.outbound number) operation reply rounds)) :
    Trial.Expects ⟨thread.view, audit.evaluated, audit.rejected⟩ operation reply := by
  have sane := sound.threads _ _ present
  cases operation <;> try trivial
  case nextMessage =>
      intro rejected
      have taken := heeds rejected
      rw [Action.received, if_pos rfl] at taken
      exact taken
  case loadIdentityKey => exact sound.expects sane possible rfl
  case findAcker sequence =>
      intro unset
      rcases sane.mirrors number rfl with ⟨connection, stored, mirrors⟩
      have replies := possible.2
      rw [show audit.service.connectionOf (.outbound number) = some connection from stored]
        at replies
      have found : reply = connection.unackedMessages sequence := by
        simpa [Connection.mayReply] using replies
      rw [found]
      exact unsent number connection sequence stored (mirrors.identityKey.symm.trans unset)

/-- The loop of a new connection starts with nobody logged in. -/
theorem Stands.connect (stands : audit.Stands opts number)
    (sound : Sound library opts audit.service) {nonce : Text} {rounds : Nat} {state : State}
    (performed : Service.step library opts audit.service (.connect number nonce rounds) =
      some state) : Stands opts number { audit with service := state } := by
  simp only [Service.step, Service.connect] at performed
  split at performed
  · cases performed
  · rename_i unused
    cases performed
    cases stands with
    | unconnected _ unevaluated unrejected =>
        have rests : Trial.Rests ⟨.initial nonce, audit.evaluated, audit.rejected⟩ :=
          .fresh unevaluated unrejected rfl
        refine .looping ⟨handleOutbound library opts rounds, .initial nonce⟩ ?_ rests.fair
          (handleOutbound_tried rests rounds)
        simp [State.setThread]
    | looping thread present =>
        rcases (sound.threads _ _ present).mirrors number rfl with ⟨connection, stored, _⟩
        cases unused.symm.trans stored

theorem Stands.perform (stands : audit.Stands opts number)
    (reaches : Service.Reaches library opts audit.service) {operation : Operation}
    {reply : Reply operation} {rounds : Nat} {state : State}
    (heeds : audit.Heeds number (.perform (.outbound number) operation reply rounds))
    (performed : Service.step library opts audit.service
      (.perform (.outbound number) operation reply rounds) = some state) :
    (audit.after number state (.perform (.outbound number) operation reply rounds)).Stands
      opts number := by
  have sound := Sound.of_reaches reaches
  rcases performNext_cases performed with ⟨rest, view, present, possible, rfl⟩
  cases stands with
  | unconnected unused =>
      rcases (sound.threads _ _ present).mirrors number rfl with ⟨connection, stored, _⟩
      cases unused.symm.trans stored
  | looping thread present' fair obeys =>
      cases present.symm.trans present'
      have expects := expects_of_mayReply sound (Unsent.of_reaches reaches) present possible heeds
      have loop : audit.loopView number (.outbound number) = some view := by
        rw [loopView, if_pos rfl, present]
        rfl
      refine .looping ⟨rest reply, view.next opts operation reply⟩
        ((Rooted.of_reaches reaches).threadsAfter_self present) ?_ ?_
      · simp only [after, loop]
        exact obeys.1.2 reply expects
      · simp only [after, loop]
        exact obeys.2 reply expects

theorem Stands.step (stands : audit.Stands opts number)
    (reaches : Service.Reaches library opts audit.service) {action : Action}
    (heeds : audit.Heeds number action)
    (taken : step library opts number audit action = some next) : next.Stands opts number := by
  rcases service_of_step taken with ⟨performed, same⟩
  by_cases concerns : action.Concerns number
  · cases action with
    | connect opened nonce rounds =>
        cases concerns
        rw [same]
        exact stands.connect (Sound.of_reaches reaches) performed
    | perform goroutine operation reply rounds =>
        cases concerns
        rw [same]
        exact stands.perform reaches heeds performed
    | _ => exact concerns.elim
  · have untouched := outbound_of_step performed concerns
    have kept := audit.after_of_apart concerns next.service
    rw [← same] at kept
    cases stands with
    | unconnected unused unevaluated unrejected =>
        exact .unconnected (untouched.2 unused) (kept.1.trans unevaluated)
          (kept.2.trans unrejected)
    | looping thread present fair obeys =>
        refine .looping thread (untouched.1.trans present) ?_ ?_
        · rw [kept.1, kept.2]
          exact fair
        · rw [kept.1, kept.2]
          exact obeys

/-- A goroutine of a connection with nobody logged in does nothing with effect, the
loop over the client's messages apart. -/
theorem takesEffect_of_other {goroutine : Goroutine} {operation : Operation}
    {rest : Reply operation → Task Unit} {view : View}
    (sane : Sane library opts audit.service goroutine ⟨.call operation rest, view⟩)
    (connected : goroutine.connection = some number) (other : goroutine ≠ .outbound number)
    (unset : ∀ connection, audit.service.connections number = some connection →
      connection.identityKey = none) : operation.takesEffect = false := by
  rcases goroutine.owned_cases connected sane.unowned with rfl | notifying | inbound
  · exact absurd rfl other
  · have allowed := sane.allowed
    rw [notifying.1] at allowed
    cases operation <;> first | rfl | exact allowed.elim
  · rcases inbound with ⟨id, subscriber, rfl⟩
    rcases sane.subscribed id _ subscriber rfl with
      ⟨owning, connection, address, owned, stored, actsFor, _⟩
    cases owned
    cases actsFor.1.symm.trans (unset connection stored)

theorem effects_of_step {action : Action} (stands : audit.Stands opts number)
    (reaches : Service.Reaches library opts audit.service)
    (taken : step library opts number audit action = some next) :
    next.effects = audit.effects := by
  have sound := Sound.of_reaches reaches
  rcases service_of_step taken with ⟨performed, same⟩
  rw [same]
  cases action <;> try rfl
  case perform goroutine operation reply rounds =>
      rcases performNext_cases performed with ⟨rest, view, present, _, _⟩
      refine if_neg ?_
      rintro ⟨rejected, connected, effective⟩
      have inert : operation.takesEffect = false := by
        by_cases loop : goroutine = .outbound number
        · cases stands with
          | unconnected _ _ unrejected =>
              rw [unrejected] at rejected
              cases rejected
          | looping thread present' _ obeys =>
              rw [loop] at present
              cases present.symm.trans present'
              exact obeys.1.1 rejected
        · exact takesEffect_of_other (sound.threads _ _ present) connected loop
            fun connection stored => stands.anonymous sound rejected stored
      rw [inert] at effective
      cases effective

/-! ## Runs in which a login is rejected -/

/-- A login with the nonce of another connection. -/
def wrongLogin : Message :=
  loginMessage (some ⟨"key".toList, "device".toList⟩) "other".toList (sign "key".toList)

def rightLogin : Message :=
  loginMessage (some ⟨"key".toList, "device".toList⟩) "nonce".toList (sign "key".toList)

/-- A client sends two logins one after the other, and the first is rejected. -/
def rejectTrace : List Action :=
  [.connect 0 "nonce".toList 2, .send 0 wrongLogin, .send 0 rightLogin,
    .perform (.outbound 0) .nextMessage (some wrongLogin) 0,
    .perform (.outbound 0) .loadIdentityKey none 0,
    .perform (.outbound 0) .authNonce "nonce".toList 0,
    .perform (.outbound 0) (.send (newError wrongLogin (typedError (.typed errUnauthorized)))) ()
      0,
    .perform (.outbound 0) .close () 0]

/-- In every run in which the loop takes no message after the rejection by which an
anonymous client may log in or have an effect, at most one login of the connection
is evaluated, and nothing takes effect on it after a login was rejected. -/
theorem nothing_after_rejection
    (run : Transition.Run (step library opts number) (Heeds number) (initial opts) audit) :
    audit.evaluated ≤ 1 ∧ audit.effects = [] := by
  have starts : (initial opts).Stands opts number ∧ (initial opts).effects = [] :=
    ⟨.unconnected rfl rfl rfl, rfl⟩
  have holds : audit.Stands opts number ∧ audit.effects = [] := by
    apply Transition.Run.preserves run starts
    intro current action next reached holds heeds taken
    have reaches := reaches_service reached
    exact ⟨holds.1.step reaches heeds taken,
      (effects_of_step holds.1 reaches taken).trans holds.2⟩
  exact ⟨holds.1.once, holds.2⟩

/-- The loop notices that the connection is closed, and the second login is left. -/
theorem nothing_after_rejection_noticed :
    ∃ audit, Transition.Run (step plainLibrary plainOpts 0) (Heeds 0) (initial plainOpts)
        audit ∧ audit.rejected = true ∧ audit.evaluated ≤ 1 ∧ audit.effects = [] := by
  have run : ∃ audit, Transition.Run (step plainLibrary plainOpts 0) (Heeds 0)
      (initial plainOpts) audit ∧ audit.rejected = true :=
    Transition.Run.exists_of_execute
      (rejectTrace ++ [.perform (.outbound 0) .nextMessage none 0,
        .perform (.outbound 0) .close () 0]) (by decide +kernel)
  rcases run with ⟨audit, run, rejected⟩
  exact ⟨audit, run, rejected, nothing_after_rejection run⟩

/-- The loop takes the second login although the connection is closed, and the client
is logged in. -/
theorem login_after_rejection :
    ∃ audit, Transition.Run (step plainLibrary plainOpts 0) Transition.anyStep
        (initial plainOpts) audit ∧
      audit.rejected = true ∧ audit.evaluated = 2 ∧
      audit.effects = [.storeDeviceId "device".toList, .storeIdentityKey "key".toList] :=
  Transition.Run.exists_of_execute
    (rejectTrace ++ [.perform (.outbound 0) .nextMessage (some rightLogin) 0,
      .perform (.outbound 0) .loadIdentityKey none 0,
      .perform (.outbound 0) .authNonce "nonce".toList 0,
      .perform (.outbound 0) (.storeIdentityKey "key".toList) () 0,
      .perform (.outbound 0) (.storeDeviceId "device".toList) () 0]) (by decide +kernel)

end Audit

end Tassis.Service
