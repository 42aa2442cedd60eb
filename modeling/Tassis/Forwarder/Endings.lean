import Tassis.Forwarder.Callbacks

/-! # Ended connections

A connection stays in the table of connections after its reader has ended, and
the callbacks of the calls that used it stay in theirs.
-/

namespace Tassis.Forwarder

open Model (Message Payload Failure OutboundMessage)

variable {forwarder next : Forwarder} {action : Action}

/-- The loop that reads from the connection has not ended. -/
def Running (forwarder : Forwarder) (id : ConnectionID) : Prop :=
  ∃ connection, connection ∈ forwarder.connections id ∧ connection.reader ≠ .done

/-- The loop of a connection ends only when no forward is pending on it, and no
message is forwarded to a host whose connection has ended. -/
def EndsIdle (forwarder : Forwarder) : Action → Prop
  | .exit id => ∀ entry, entry ∈ forwarder.callbacks.entries →
      ∀ made, made ∈ forwarder.calls entry.2 → made.connection ≠ id
  | .forward _ tassisHost _ => ∀ id, id ∈ forwarder.conns.lookup tassisHost →
      ∀ connection, connection ∈ forwarder.connections id → connection.reader ≠ .done
  | _ => True

instance (forwarder : Forwarder) (action : Action) : Decidable (EndsIdle forwarder action) :=
  match action with
  | .exit _ => inferInstanceAs (Decidable
      (∀ entry, entry ∈ forwarder.callbacks.entries → _))
  | .forward _ tassisHost _ => inferInstanceAs (Decidable
      (∀ id, id ∈ forwarder.conns.lookup tassisHost → _))
  | .send _ | .respond .. | .close _ | .read _ | .callBack _ => isTrue trivial

/-- Each pending callback is that of a call whose connection is being read. -/
def Attended (forwarder : Forwarder) : Prop :=
  ∀ sequence call made, forwarder.callbacks.lookup sequence = some call →
    forwarder.calls call = some made → forwarder.Running made.connection

theorem Running.of_update {id other : ConnectionID} {before after : Connection}
    (running : forwarder.Running other) (present : forwarder.connections id = some before)
    (connections : next.connections = Function.update forwarder.connections id (some after))
    (reader : before.reader ≠ .done → after.reader ≠ .done) : next.Running other := by
  rcases running with ⟨connection, found, isRunning⟩
  by_cases same : other = id
  · subst other
    cases present.symm.trans found
    exact ⟨after, connections ▸ Function.update_self .., reader isRunning⟩
  · refine ⟨connection, ?_, isRunning⟩
    rw [connections, Function.update_of_ne same]
    exact found

theorem Attended.of_update (attended : Attended forwarder) {id : ConnectionID}
    {before after : Connection} (present : forwarder.connections id = some before)
    (connections : next.connections = Function.update forwarder.connections id (some after))
    (calls : next.calls = forwarder.calls)
    (callbacks : ∀ sequence call, next.callbacks.lookup sequence = some call →
      forwarder.callbacks.lookup sequence = some call)
    (reader : before.reader ≠ .done → after.reader ≠ .done) : Attended next := by
  intro sequence call made isPending isMade
  rw [calls] at isMade
  have running := attended sequence call made (callbacks sequence call isPending) isMade
  exact running.of_update present connections reader

theorem Attended.enqueue (attended : Attended forwarder)
    {id : ConnectionID} (running : forwarder.Running id) (msg : OutboundMessage)
    (tassisHost : Host) : Attended (forwarder.enqueue msg tassisHost id) := by
  intro sequence call made isPending isMade
  rcases of_update_some isMade with ⟨_, rfl⟩ | ⟨earlier, isMade⟩
  · exact running
  · have inserted := congrFun (lookup_insert_eq forwarder.callbacks
      (Model.nextSequence forwarder.sequence) forwarder.nextCall) sequence
    rcases of_update_some (inserted.symm.trans isPending) with ⟨_, new⟩ | ⟨_, isPending⟩
    · exact absurd new earlier
    · exact attended sequence call made isPending isMade

theorem Attended.connect (attended : Attended forwarder) {id : ConnectionID}
    (unused : forwarder.connections id = none) (tassisHost : Host) :
    Attended (forwarder.connect tassisHost id) := by
  intro sequence call made isPending isMade
  rcases attended sequence call made isPending isMade with ⟨connection, present, running⟩
  refine ⟨connection, ?_, running⟩
  have different : made.connection ≠ id := by
    intro same
    rw [same, unused] at present
    cases present
  exact (Function.update_of_ne different ..).trans present

theorem Attended.exit (attended : Attended forwarder) {id : ConnectionID}
    {connection : Connection} (endsIdle : forwarder.EndsIdle (.exit id)) :
    Attended (forwarder.setConnection id connection) := by
  intro sequence call made isPending isMade
  rcases attended sequence call made isPending isMade with ⟨other, present, running⟩
  have different : made.connection ≠ id :=
    endsIdle ⟨sequence, call⟩ (AList.mem_lookup_iff.mp isPending) made isMade
  exact ⟨other, (Function.update_of_ne different ..).trans present, running⟩

theorem Attended.step (attended : Attended forwarder) (sound : Sound forwarder)
    (endsIdle : EndsIdle forwarder action) (effect : Effect forwarder action next) :
    Attended next := by
  cases effect with
  | cached found =>
      rcases (sound.cached _ _).mp found with ⟨connection, present, _⟩
      exact attended.enqueue ⟨connection, present, endsIdle _ found connection present⟩ _ _
  | dialFailed missing =>
      exact attended
  | @dialled msg tassisHost id missing unused =>
      have running : (forwarder.connect tassisHost id).Running id :=
        ⟨_, Function.update_self .., Reader.noConfusion⟩
      exact (attended.connect unused _).enqueue running _ _
  | sent isMade present =>
      exact attended.of_update present rfl rfl (fun _ _ isPending => isPending) id
  | responded present =>
      exact attended.of_update present rfl rfl (fun _ _ isPending => isPending) id
  | closed present =>
      exact attended.of_update present rfl rfl (fun _ _ isPending => isPending) id
  | @read id connection msg rest present ranging buffered =>
      have iteration := readFrom_iteration forwarder id { connection with inbox := rest } msg
      generalize forwarder.readFrom id { connection with inbox := rest } msg = next at iteration
      cases iteration with
      | ignored =>
          exact attended.of_update present rfl rfl (fun _ _ isPending => isPending)
            (fun running => running)
      | removed response found =>
          refine attended.of_update present rfl rfl ?_ (fun _ => Reader.noConfusion)
          intro sequence call isPending
          exact lookup_of_lookup_erase isPending
  | calledBack present calling =>
      exact attended.of_update present rfl rfl (fun _ _ isPending => isPending)
        (fun _ => Reader.noConfusion)
  | exited present ranging =>
      exact attended.exit endsIdle

theorem Attended.of_reaches (reaches : Reaches EndsIdle forwarder) : Attended forwarder := by
  have starts : Attended initial := by
    intro sequence call made isPending
    cases isPending
  apply Transition.Run.preserves reaches starts
  intro current action next reached attended endsIdle taken
  exact attended.step (Sound.of_reaches reached) endsIdle (effect_of_step taken)

/-- A call that has got a connection is pending. -/
theorem pending_of_forward (sound : Sound forwarder) {msg : OutboundMessage}
    {tassisHost : Host} {dialled : Except Text ConnectionID} {made : Call}
    (effect : Effect forwarder (.forward msg tassisHost dialled) next)
    (isMade : next.calls forwarder.nextCall = some made) :
    next.callbacks.lookup made.fullMsg.sequence = some forwarder.nextCall := by
  have enqueued : ∀ {current : Forwarder} {id : ConnectionID},
      (current.enqueue msg tassisHost id).calls current.nextCall = some made →
      (current.enqueue msg tassisHost id).callbacks.lookup made.fullMsg.sequence =
        some current.nextCall := by
    intro current id isMade
    cases (Function.update_self ..).symm.trans isMade
    exact AList.lookup_insert _
  cases effect with
  | cached found =>
      exact enqueued isMade
  | dialFailed missing =>
      exact absurd (sound.made _ _ isMade).1 (Nat.lt_irrefl _)
  | dialled missing unused =>
      exact enqueued isMade

/-- In every run in which connections end only while no forward is pending on
them and are not used any more afterwards, each pending callback belongs to a
message of a connection that is still being read, and the next call of `Forward`
uses such a connection. -/
theorem pending_forwards_are_attended (reaches : Reaches EndsIdle forwarder) :
    (∀ sequence call, forwarder.callbacks.lookup sequence = some call →
      ∃ made, forwarder.calls call = some made ∧ made.fullMsg.sequence = sequence ∧
        forwarder.Running made.connection) ∧
    ∀ msg tassisHost dialled next made,
      forwarder.EndsIdle (.forward msg tassisHost dialled) →
      forwarder.step (.forward msg tassisHost dialled) = some next →
      next.calls forwarder.nextCall = some made → next.Running made.connection := by
  have sound := Sound.of_reaches reaches
  constructor
  · intro sequence call isPending
    rcases sound.pending sequence call isPending with ⟨made, isMade, sameSequence⟩
    exact ⟨made, isMade, sameSequence,
      Attended.of_reaches reaches sequence call made isPending isMade⟩
  · intro msg tassisHost dialled next made endsIdle taken isMade
    have isPending := pending_of_forward sound (effect_of_step taken) isMade
    exact Attended.of_reaches (reaches.tail endsIdle taken) _ _ made isPending isMade

def forwardToHost : List Action := [.forward ⟨none, []⟩ ['a'] (.ok 0), .send 0]

/-- The connection ends while a forward is pending, whose callback stays, and
the next message is forwarded on the same connection. -/
theorem forward_is_pending_on_an_ended_connection :
    ∃ forwarder, Reaches Transition.anyStep forwarder ∧
      forwarder.callbacks.lookup 1 = some 0 ∧ forwarder.callbacks.lookup 2 = some 1 ∧
      (forwarder.calls 0).map Call.connection = some 0 ∧
      (forwarder.calls 1).map Call.connection = some 0 ∧
      (forwarder.connections 0).map Connection.reader = some .done ∧ forwarder.log = [] :=
  Transition.Run.exists_of_execute
    (forwardToHost ++ [.close 0, .exit 0, .forward ⟨none, []⟩ ['a'] (.ok 1), .send 1])
    (by decide +kernel)

/-- The connection to one host ends when its message has been acknowledged, with
a forward to another host pending. -/
theorem pending_forward_is_attended_after_another_connection_ends :
    ∃ forwarder, Reaches EndsIdle forwarder ∧ forwarder.callbacks.lookup 2 = some 1 ∧
      (forwarder.connections 0).map Connection.reader = some .done ∧
      ∃ made, forwarder.calls 1 = some made ∧ made.fullMsg.sequence = 2 ∧
        forwarder.Running made.connection := by
  have run : ∃ forwarder, Reaches EndsIdle forwarder ∧
      forwarder.callbacks.lookup 2 = some 1 ∧
      (forwarder.connections 0).map Connection.reader = some .done :=
    Transition.Run.exists_of_execute
      (forwardToTwoHosts ++ acknowledge 0 1 ++ [.close 0, .exit 0]) (by decide +kernel)
  rcases run with ⟨forwarder, reaches, isPending, ended⟩
  exact ⟨forwarder, reaches, isPending, ended,
    (pending_forwards_are_attended reaches).1 2 1 isPending⟩

end Tassis.Forwarder
