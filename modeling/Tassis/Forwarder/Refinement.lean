import Tassis.Forwarder.Callbacks
import Tassis.Service.Network

/-! # The forwarder as a service sees it

A service sees the sequence number of its forwarder, the callbacks that wait for a
response, and what was sent to each host. The connections, their readers and the calls
that have not sent their message yet are hidden from it. Every step of the forwarder is
one that the service sees, in actions of its own, or one that changes nothing for it.
-/

namespace Tassis

/-! ## Steps that a service sees -/

namespace Service.Forwarder

variable {library : Library} {opts : Opts} {state next : State} {action : Action}

def initial : Forwarder := ⟨0, fun _ => none, []⟩

/-- What an action of the service does to the forwarder. -/
def step (forwarder : Forwarder) : Action → Option Forwarder
  | .perform _ .nextForwarderSequence sequence _ =>
      if sequence = Model.nextSequence forwarder.sequence then
        some (forwarder.after .nextForwarderSequence sequence)
      else none
  | .perform _ operation reply _ => some (forwarder.after operation reply)
  | .finishForward sequence _ =>
      (forwarder.callbacks sequence).map fun _ =>
        { forwarder with callbacks := Function.update forwarder.callbacks sequence none }
  | _ => some forwarder

theorem step_of_step (taken : Service.step library opts state action = some next) :
    state.forwarder.step action = some next.forwarder := by
  cases stepCase_of_step taken with
  | @performed _ operation _ _ _ _ _ possible =>
      cases operation with
      | nextForwarderSequence => exact if_pos (of_decide_eq_true possible.1)
      | _ => rfl
  | finished _ waits => exact congrArg (Option.map _) waits
  | _ => rfl

/-- In every run of a service, its forwarder takes these steps. -/
theorem runs_of_reaches (reaches : Reaches library opts state) :
    Transition.Run step Transition.anyStep initial state.forwarder :=
  reaches.project State.forwarder fun _ _ _ => step_of_step

end Service.Forwarder

/-! ## The forwarder takes these steps -/

namespace Forwarder

open Model (Message Payload Failure OutboundMessage)

/-- What a service sees of the forwarder, with its own names for the callbacks. -/
structure Represents (callbackOf : CallID → Service.Callback) (forwarder : Forwarder)
    (seen : Service.Forwarder) : Prop where
  sequence : seen.sequence = forwarder.sequence
  callbacks : seen.callbacks = fun sequence =>
    (forwarder.callbacks.lookup sequence).map callbackOf
  sent : ∀ id connection, forwarder.connections id = some connection →
    seen.wireTo connection.host = connection.out
  unsent : ∀ tassisHost, forwarder.conns.lookup tassisHost = none → seen.wireTo tassisHost = []

/-- What a goroutine does when it enqueues a message. -/
def enqueuing (goroutine : Service.Goroutine) (tassisHost : Host) (sequence : Nat)
    (callback : Service.Callback) : List Service.Action :=
  [.perform goroutine (.connectTo tassisHost) (.ok ()) 0,
    .perform goroutine .nextForwarderSequence sequence 0,
    .perform goroutine (.storeCallback sequence callback) () 0]

/-- What the service does when a response is read. -/
def answering (forwarder : Forwarder) (msg : Message) : List Service.Action :=
  match responseOf msg, forwarder.callbacks.lookup msg.sequence with
  | some err, some _ => [.finishForward msg.sequence err]
  | _, _ => []

/-- What the service does in a step of the forwarder. The goroutine that has called
`Forward` performs the operations of the call. -/
def seenAs (callbackOf : CallID → Service.Callback) (goroutineOf : CallID → Service.Goroutine)
    (forwarder : Forwarder) : Action → List Service.Action
  | .forward _ tassisHost dialled =>
      let goroutine := goroutineOf forwarder.nextCall
      match forwarder.conns.lookup tassisHost, dialled with
      | none, .error err => [.perform goroutine (.connectTo tassisHost) (.error (.other err)) 0]
      | _, _ =>
          enqueuing goroutine tassisHost (Model.nextSequence forwarder.sequence)
            (callbackOf forwarder.nextCall)
  | .send call =>
      match forwarder.calls call with
      | some made =>
          [.perform (goroutineOf call) (.sendTo made.tassisHost made.fullMsg) () 0]
      | none => []
  | .read id =>
      match (forwarder.connections id).bind (·.inbox.head?) with
      | some msg => forwarder.answering msg
      | none => []
  | _ => []

variable {forwarder next : Forwarder} {action : Action} {callbackOf : CallID → Service.Callback}
  {seen : Service.Forwarder}

theorem Represents.initial : Represents callbackOf initial .initial where
  sequence := rfl
  callbacks := rfl
  sent _ _ present := by cases present
  unsent _ _ := rfl

section Steps

variable (represents : Represents callbackOf forwarder seen)

include represents

/-- A step that changes one connection, on which nothing is sent. -/
theorem Represents.of_update {id : ConnectionID} {before after : Connection}
    (present : forwarder.connections id = some before)
    (connections : next.connections = Function.update forwarder.connections id (some after))
    (sameHost : after.host = before.host) (sameOut : after.out = before.out)
    (conns : next.conns = forwarder.conns) (sequence : next.sequence = forwarder.sequence)
    (callbacks : next.callbacks = forwarder.callbacks) : Represents callbackOf next seen where
  sequence := by rw [sequence, represents.sequence]
  callbacks := by rw [callbacks, represents.callbacks]
  sent other connection present' := by
    rw [connections] at present'
    rcases of_update_some present' with ⟨_, rfl⟩ | ⟨_, present'⟩
    · rw [sameHost, sameOut, represents.sent id before present]
    · exact represents.sent other connection present'
  unsent := by
    rw [conns]
    exact represents.unsent

theorem Represents.connect {tassisHost : Host} {id : ConnectionID}
    (missing : forwarder.conns.lookup tassisHost = none) :
    Represents callbackOf (forwarder.connect tassisHost id) seen where
  sequence := represents.sequence
  callbacks := represents.callbacks
  sent other connection present := by
    rcases of_update_some present with ⟨_, rfl⟩ | ⟨_, present⟩
    · exact represents.unsent tassisHost missing
    · exact represents.sent other connection present
  unsent other absent := by
    by_cases same : other = tassisHost
    · subst same
      exact represents.unsent other missing
    · exact represents.unsent other ((AList.lookup_insert_ne same).symm.trans absent)

/-- The number is drawn and the callback is stored. -/
theorem Represents.enqueue (goroutine : Service.Goroutine) (msg : OutboundMessage)
    (tassisHost : Host) (connection : ConnectionID) :
    ∃ seen', Transition.execute Service.Forwarder.step Transition.anyStep seen
        (enqueuing goroutine tassisHost (Model.nextSequence forwarder.sequence)
          (callbackOf forwarder.nextCall)) = some seen' ∧
      Represents callbackOf (forwarder.enqueue msg tassisHost connection) seen' := by
  rw [enqueuing, ← represents.sequence]
  refine ⟨⟨Model.nextSequence seen.sequence, Function.update seen.callbacks
    (Model.nextSequence seen.sequence) (some (callbackOf forwarder.nextCall)), seen.wire⟩,
    ?_, ?_, ?_, represents.sent, represents.unsent⟩
  · rw [Transition.execute_cons trivial rfl, Transition.execute_cons trivial (if_pos rfl),
      Transition.execute_cons trivial rfl]
    rfl
  · rw [represents.sequence]
    rfl
  · rw [represents.sequence]
    funext other
    by_cases same : other = Model.nextSequence forwarder.sequence
    · subst same
      simp [Forwarder.enqueue]
    · simp [Forwarder.enqueue, represents.callbacks, same]

theorem Represents.send (sound : Sound forwarder) {call : CallID} {made : Call}
    {connection : Connection} (isMade : forwarder.calls call = some made)
    (present : forwarder.connections made.connection = some connection) :
    Represents callbackOf
      { forwarder.setConnection made.connection
          { connection with out := connection.out ++ [made.fullMsg] } with
        sending := forwarder.sending.erase call }
      { seen with wire := seen.wire ++ [(made.tassisHost, made.fullMsg)] } where
  sequence := represents.sequence
  callbacks := represents.callbacks
  sent id connection' present' := by
    have cached := (sound.made call made isMade).2
    have own : connection.host = made.tassisHost := by
      rcases (sound.cached made.tassisHost made.connection).mp cached with ⟨other, stored, ofHost⟩
      cases present.symm.trans stored
      exact ofHost
    have before := represents.sent
    simp only [Service.Forwarder.wireTo] at before ⊢
    rw [List.filter_append, List.map_append]
    rcases of_update_some present' with ⟨_, rfl⟩ | ⟨different, present'⟩
    · rw [before _ connection present]
      simp [own]
    · -- Another connection has another host.
      have apart : made.tassisHost ≠ connection'.host := by
        intro same
        have other := (sound.cached made.tassisHost id).mpr ⟨connection', present', same.symm⟩
        exact different (Option.some.inj (other.symm.trans cached))
      rw [before id connection' present']
      simp [apart]
  unsent tassisHost absent := by
    have apart : made.tassisHost ≠ tassisHost := by
      rintro rfl
      cases absent.symm.trans (sound.made call made isMade).2
    have before := represents.unsent tassisHost absent
    simp only [Service.Forwarder.wireTo] at before ⊢
    rw [List.filter_append, List.map_append, before]
    simp [apart]

theorem Represents.erase (sequence : Nat) :
    Represents callbackOf { forwarder with callbacks := forwarder.callbacks.erase sequence }
      { seen with callbacks := Function.update seen.callbacks sequence none } where
  sequence := represents.sequence
  callbacks := by
    funext other
    by_cases same : other = sequence
    · subst same
      simp
    · simp [represents.callbacks, same]
  sent := represents.sent
  unsent := represents.unsent

theorem Represents.readFrom {id : ConnectionID} {connection : Connection}
    (present : forwarder.connections id = some connection) (rest : List Message)
    (msg : Message) :
    ∃ seen', Transition.execute Service.Forwarder.step Transition.anyStep seen
        (forwarder.answering msg) = some seen' ∧
      Represents callbackOf (forwarder.readFrom id { connection with inbox := rest } msg)
        seen' := by
  simp only [answering, Forwarder.readFrom, triggerCallbackFor]
  cases responseOf msg with
  | none => exact ⟨seen, rfl, represents.of_update present rfl rfl rfl rfl rfl rfl⟩
  | some err =>
      have waits := congrFun represents.callbacks msg.sequence
      cases found : forwarder.callbacks.lookup msg.sequence with
      | none => exact ⟨seen, rfl, represents.of_update present rfl rfl rfl rfl rfl rfl⟩
      | some call =>
          rw [found] at waits
          refine ⟨_, Transition.execute_cons trivial (congrArg (Option.map _) waits) [], ?_⟩
          exact (represents.erase msg.sequence).of_update present rfl rfl rfl rfl rfl rfl

/-- Every step of the forwarder is one that the service sees. -/
theorem Represents.step (goroutineOf : CallID → Service.Goroutine) (sound : Sound forwarder)
    (taken : forwarder.step action = some next) :
    ∃ seen', Transition.execute Service.Forwarder.step Transition.anyStep seen
        (forwarder.seenAs callbackOf goroutineOf action) = some seen' ∧
      Represents callbackOf next seen' := by
  cases effect_of_step taken with
  | cached found =>
      simp only [seenAs, found]
      exact represents.enqueue _ _ _ _
  | dialFailed missing =>
      simp only [seenAs, missing]
      exact ⟨seen, rfl, represents.sequence, represents.callbacks, represents.sent,
        represents.unsent⟩
  | dialled missing =>
      simp only [seenAs, missing]
      exact (represents.connect missing).enqueue _ _ _ _
  | sent isMade present =>
      simp only [seenAs, isMade]
      exact ⟨_, rfl, represents.send sound isMade present⟩
  | responded present | closed present | calledBack present | exited present =>
      exact ⟨seen, rfl, represents.of_update present rfl rfl rfl rfl rfl rfl⟩
  | @read id connection msg rest present ranging buffered =>
      simp only [seenAs, present, buffered, Option.bind_some, List.head?_cons]
      exact represents.readFrom present rest msg

/-- A service in a network goes on with a callback when the forwarder has read a
response for it. -/
theorem Represents.readFrom_network {library : Service.Library} {opts : Text → Service.Opts}
    {network : Service.Network} {source : Text}
    (isSeen : (network.services source).forwarder = seen) {id : ConnectionID}
    {connection : Connection} (present : forwarder.connections id = some connection)
    (rest : List Message) (msg : Message) :
    Represents callbackOf (forwarder.readFrom id { connection with inbox := rest } msg)
      ((network.readFrom library opts source msg).services source).forwarder := by
  subst isSeen
  rcases represents.readFrom present rest msg with ⟨seen', performed, represents'⟩
  suffices same : Transition.execute Service.Forwarder.step Transition.anyStep
      (network.services source).forwarder (forwarder.answering msg) =
        some ((network.readFrom library opts source msg).services source).forwarder by
    cases same.symm.trans performed
    exact represents'
  have waits := congrFun represents.callbacks msg.sequence
  simp only [answering, Service.Network.readFrom]
  cases responseOf msg with
  | none => rfl
  | some err =>
      cases found : forwarder.callbacks.lookup msg.sequence <;> rw [found] at waits <;>
        simp [Service.Network.move, Service.step, Service.triggerCallbackFor, waits,
          Transition.execute, Transition.anyStep, Service.Forwarder.step,
          Service.Network.moved]

end Steps

/-- In every run of the forwarder, the service sees what its own model of the forwarder
can do. -/
theorem represented_of_reaches {permitted : Forwarder → Action → Prop}
    (callbackOf : CallID → Service.Callback) (goroutineOf : CallID → Service.Goroutine)
    (reaches : Reaches permitted forwarder) :
    ∃ seen, Transition.Run Service.Forwarder.step Transition.anyStep .initial seen ∧
      Represents callbackOf forwarder seen := by
  apply Transition.Run.preserves reaches ⟨.initial, Transition.Run.refl _, Represents.initial⟩
  rintro current action next reached ⟨seen, run, represents⟩ _ taken
  rcases represents.step goroutineOf (Sound.of_reaches reached) taken with
    ⟨seen', performed, represents'⟩
  exact ⟨seen', run.trans (Transition.Run.of_execute performed), represents'⟩

end Forwarder

end Tassis
