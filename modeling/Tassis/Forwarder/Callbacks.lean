import Tassis.Foundation.Custody
import Tassis.Forwarder.Forwarder

/-! # Callbacks

The callback of a call is in the table, with a reader that has removed it, or
has been called. A reader removes callbacks by the sequence number of a
response, whichever host the response comes from.
-/

namespace Tassis.Forwarder

open Model (Message Payload Failure OutboundMessage)

variable {forwarder next : Forwarder} {action : Action}

/-! ## Callbacks are called at most once -/

def Connection.calling (connection : Connection) : Option CallID :=
  match connection.reader with
  | .calling call _ => some call
  | _ => none

/-- The call whose callback a reader is about to call. -/
def reading (forwarder : Forwarder) (id : ConnectionID) : Option CallID :=
  (forwarder.connections id).bind Connection.calling

/-- The calls whose callback has been called. -/
def finishedCalls (log : List Event) : List CallID :=
  log.filterMap fun
    | .finished call _ => some call
    | .received _ _ => none

structure Sound (forwarder : Forwarder) : Prop where
  cached : ∀ tassisHost id, forwarder.conns.lookup tassisHost = some id ↔
    ∃ connection, forwarder.connections id = some connection ∧ connection.host = tassisHost
  made : ∀ call made, forwarder.calls call = some made →
    call < forwarder.nextCall ∧ forwarder.conns.lookup made.tassisHost = some made.connection
  pending : ∀ sequence call, forwarder.callbacks.lookup sequence = some call →
    ∃ made, forwarder.calls call = some made ∧ made.fullMsg.sequence = sequence
  custody : Custody (fun sequence => forwarder.callbacks.lookup sequence) forwarder.reading
    (finishedCalls forwarder.log) forwarder.nextCall

theorem Sound.initial : Sound initial where
  cached tassisHost id := by simp [Forwarder.initial]
  made call made isMade := by cases isMade
  pending sequence call found := by cases found
  custody := Custody.empty

theorem reading_of_update {id : ConnectionID} {connection : Connection}
    (updated : next.connections = Function.update forwarder.connections id (some connection)) :
    next.reading = Function.update forwarder.reading id connection.calling := by
  funext other
  by_cases same : other = id
  · subst other
    simp [reading, updated]
  · simp [reading, updated, same]

theorem lookup_erase_eq (callbacks : AList fun _ : Nat => CallID) (sequence : Nat) :
    (fun other => (callbacks.erase sequence).lookup other) =
      Function.update (fun other => callbacks.lookup other) sequence none := by
  funext other
  by_cases same : other = sequence
  · rw [same, AList.lookup_erase, Function.update_self]
  · rw [AList.lookup_erase_ne same, Function.update_of_ne same]

theorem lookup_of_lookup_erase {callbacks : AList fun _ : Nat => CallID} {sequence other : Nat}
    {call : CallID} (found : (callbacks.erase sequence).lookup other = some call) :
    callbacks.lookup other = some call := by
  have erased := congrFun (lookup_erase_eq callbacks sequence) other
  exact (of_update_none (erased.symm.trans found)).2

theorem lookup_insert_eq (callbacks : AList fun _ : Nat => CallID) (sequence : Nat)
    (call : CallID) :
    (fun other => (callbacks.insert sequence call).lookup other) =
      Function.update (fun other => callbacks.lookup other) sequence (some call) := by
  funext other
  by_cases same : other = sequence
  · rw [same, AList.lookup_insert, Function.update_self]
  · rw [AList.lookup_insert_ne same, Function.update_of_ne same]

/-- A step that changes one connection, which keeps its host. -/
theorem Sound.of_update (sound : Sound forwarder) {id : ConnectionID}
    {before after : Connection} (present : forwarder.connections id = some before)
    (connections : next.connections = Function.update forwarder.connections id (some after))
    (sameHost : after.host = before.host) (conns : next.conns = forwarder.conns)
    (calls : next.calls = forwarder.calls) (nextCall : next.nextCall = forwarder.nextCall)
    (callbacks : ∀ sequence call, next.callbacks.lookup sequence = some call →
      forwarder.callbacks.lookup sequence = some call)
    (custody : Custody (fun sequence => next.callbacks.lookup sequence)
      (Function.update forwarder.reading id after.calling) (finishedCalls next.log)
      forwarder.nextCall) : Sound next where
  cached tassisHost other := by
    rw [conns, connections, sound.cached]
    by_cases same : other = id
    · subst other
      simp [present, sameHost]
    · rw [Function.update_of_ne same]
  made call made isMade := by
    rw [calls] at isMade
    rw [conns, nextCall]
    exact sound.made call made isMade
  pending sequence call found := by
    rw [calls]
    exact sound.pending sequence call (callbacks sequence call found)
  custody := by
    rw [reading_of_update connections, nextCall]
    exact custody

/-- Such a step that concerns no callback. -/
theorem Sound.of_quiet_update (sound : Sound forwarder) {id : ConnectionID}
    {before after : Connection} (present : forwarder.connections id = some before)
    (connections : next.connections = Function.update forwarder.connections id (some after))
    (sameHost : after.host = before.host) (sameCalling : after.calling = before.calling)
    (conns : next.conns = forwarder.conns)
    (calls : next.calls = forwarder.calls) (nextCall : next.nextCall = forwarder.nextCall)
    (callbacks : next.callbacks = forwarder.callbacks)
    (log : finishedCalls next.log = finishedCalls forwarder.log) : Sound next := by
  have reads : after.calling = forwarder.reading id := by
    rw [sameCalling, reading, present, Option.bind_some]
  apply sound.of_update present connections sameHost conns calls nextCall
  · rw [callbacks]
    exact fun _ _ found => found
  · rw [reads, Function.update_eq_self, callbacks, log]
    exact sound.custody

theorem Sound.enqueue (sound : Sound forwarder) {tassisHost : Host}
    {connection : ConnectionID}
    (found : forwarder.conns.lookup tassisHost = some connection) (msg : OutboundMessage) :
    Sound (forwarder.enqueue msg tassisHost connection) where
  cached := sound.cached
  made call made isMade := by
    rcases of_update_some isMade with ⟨rfl, rfl⟩ | ⟨_, earlier⟩
    · exact ⟨Nat.lt_succ_self _, found⟩
    · have known := sound.made call made earlier
      exact ⟨Nat.lt_succ_of_lt known.1, known.2⟩
  pending sequence call isPending := by
    rw [Forwarder.enqueue] at isPending
    by_cases same : sequence = Model.nextSequence forwarder.sequence
    · rw [same, AList.lookup_insert, Option.some.injEq] at isPending
      subst call
      exact ⟨_, Function.update_self .., same.symm⟩
    · rw [AList.lookup_insert_ne same] at isPending
      rcases sound.pending sequence call isPending with ⟨made, isMade, ofSequence⟩
      have earlier := (sound.made call made isMade).1
      exact ⟨made, (Function.update_of_ne (Nat.ne_of_lt earlier) ..).trans isMade, ofSequence⟩
  custody := by
    have issued := sound.custody.issue (Model.nextSequence forwarder.sequence)
    rw [← lookup_insert_eq] at issued
    exact issued

theorem Sound.connect (sound : Sound forwarder) {tassisHost : Host} {id : ConnectionID}
    (missing : forwarder.conns.lookup tassisHost = none)
    (unused : forwarder.connections id = none) : Sound (forwarder.connect tassisHost id) where
  cached other id' := by
    simp only [Forwarder.connect]
    by_cases sameHost : other = tassisHost
    · subst other
      rw [AList.lookup_insert]
      by_cases sameID : id' = id
      · subst id'
        simp [Connection.new]
      · rw [Function.update_of_ne sameID, ← sound.cached, missing]
        simp [Ne.symm sameID]
    · rw [AList.lookup_insert_ne sameHost]
      by_cases sameID : id' = id
      · subst id'
        simp [sound.cached, unused, Connection.new, Ne.symm sameHost]
      · rw [Function.update_of_ne sameID, sound.cached]
  made call made isMade := by
    have known := sound.made call made isMade
    refine ⟨known.1, ?_⟩
    rw [Forwarder.connect, AList.lookup_insert_ne, known.2]
    intro same
    rw [same, missing] at known
    cases known.2
  pending := sound.pending
  custody := by
    have reads : (forwarder.connect tassisHost id).reading = forwarder.reading := by
      rw [reading_of_update rfl, Function.update_eq_self_iff]
      simp [reading, unused, Connection.new, Connection.calling]
    rw [reads]
    exact sound.custody

theorem finishedCalls_concat_received (log : List Event) (id : ConnectionID) (msg : Message) :
    finishedCalls (log ++ [.received id msg]) = finishedCalls log := by
  simp [finishedCalls]

theorem finishedCalls_concat_finished (log : List Event) (call : CallID)
    (err : Option Failure) :
    finishedCalls (log ++ [.finished call err]) = finishedCalls log ++ [call] := by
  simp [finishedCalls]

theorem Sound.failDial (sound : Sound forwarder) (tassisHost : Host) (err : Text) :
    Sound (forwarder.failDial tassisHost err) where
  cached := sound.cached
  made call made isMade := by
    have known := sound.made call made isMade
    exact ⟨Nat.lt_succ_of_lt known.1, known.2⟩
  pending := sound.pending
  custody := by
    rw [Forwarder.failDial, finishedCalls_concat_finished]
    exact sound.custody.issueHandedIn

/-- What an iteration of `readFrom` can do. -/
inductive Iteration (forwarder : Forwarder) (id : ConnectionID) (connection : Connection)
    (msg : Message) : Forwarder → Prop where
  | ignored : Iteration forwarder id connection msg
      { forwarder.setConnection id connection with
        log := forwarder.log ++ [.received id msg] }
  | removed {call err} (response : responseOf msg = some err)
      (found : forwarder.callbacks.lookup msg.sequence = some call) :
      Iteration forwarder id connection msg
        { forwarder.setConnection id { connection with reader := .calling call err } with
          callbacks := forwarder.callbacks.erase msg.sequence
          log := forwarder.log ++ [.received id msg] }

theorem readFrom_iteration (forwarder : Forwarder) (id : ConnectionID)
    (connection : Connection) (msg : Message) :
    Iteration forwarder id connection msg (forwarder.readFrom id connection msg) := by
  rw [readFrom]
  split
  · rename_i err response
    rw [triggerCallbackFor]
    split
    · rename_i call found
      exact .removed response found
    · exact .ignored
  · exact .ignored

theorem Sound.step (sound : Sound forwarder) (effect : Effect forwarder action next) :
    Sound next := by
  cases effect with
  | cached found =>
      exact sound.enqueue found _
  | dialFailed missing =>
      exact sound.failDial _ _
  | dialled missing unused =>
      exact (sound.connect missing unused).enqueue (AList.lookup_insert _) _
  | sent isMade present =>
      exact sound.of_quiet_update present rfl rfl rfl rfl rfl rfl rfl rfl
  | responded present =>
      exact sound.of_quiet_update present rfl rfl rfl rfl rfl rfl rfl rfl
  | closed present =>
      exact sound.of_quiet_update present rfl rfl rfl rfl rfl rfl rfl rfl
  | @read id connection msg rest present ranging buffered =>
      have iteration := readFrom_iteration forwarder id { connection with inbox := rest } msg
      generalize forwarder.readFrom id { connection with inbox := rest } msg = next at iteration
      cases iteration with
      | ignored =>
          exact sound.of_quiet_update present rfl rfl rfl rfl rfl rfl rfl
            (finishedCalls_concat_received ..)
      | removed response found =>
          refine sound.of_update present rfl rfl rfl rfl rfl ?_ ?_
          · intro sequence call isPending
            exact lookup_of_lookup_erase isPending
          · rw [lookup_erase_eq, finishedCalls_concat_received]
            exact sound.custody.take found id
  | @calledBack id connection call err present calling =>
      have reads : forwarder.reading id = some call := by
        rw [reading, present, Option.bind_some, Connection.calling, calling]
      refine sound.of_update present rfl rfl rfl rfl rfl ?_ ?_
      · exact fun _ _ isPending => isPending
      · rw [finishedCalls_concat_finished]
        exact sound.custody.handIn reads
  | @exited id connection present ranging =>
      have idle : connection.calling = none := by
        rw [Connection.calling, ranging]
      exact sound.of_quiet_update present rfl rfl idle.symm rfl rfl rfl rfl rfl

theorem Sound.of_reaches {permitted : Forwarder → Action → Prop}
    (reaches : Reaches permitted forwarder) : Sound forwarder := by
  apply Transition.Run.preserves reaches Sound.initial
  intro current action next _ sound _ taken
  exact sound.step (effect_of_step taken)

/-- In every run the callback of a call is called at most once. -/
theorem finishedCalls_nodup {permitted : Forwarder → Action → Prop}
    (reaches : Reaches permitted forwarder) : (finishedCalls forwarder.log).Nodup :=
  (Sound.of_reaches reaches).custody.once

/-! ## Callbacks are called for responses of the call's own host -/

/-- A response with the sequence number of the call has been received on the
call's own connection. -/
def Answered (calls : CallID → Option Call) (log : List Event) (call : CallID)
    (err : Option Failure) : Prop :=
  ∃ made msg, calls call = some made ∧ .received made.connection msg ∈ log ∧
    msg.sequence = made.fullMsg.sequence ∧ responseOf msg = some err

/-- A response whose sequence number has a callback comes from the host to which
the message of that callback was forwarded. -/
def SameHost (forwarder : Forwarder) : Action → Prop
  | .read id => ∀ connection, connection ∈ forwarder.connections id →
      ∀ msg, msg ∈ connection.inbox.head? → responseOf msg ≠ none →
      ∀ call, call ∈ forwarder.callbacks.lookup msg.sequence →
      ∀ made, made ∈ forwarder.calls call → made.tassisHost = connection.host
  | _ => True

instance (forwarder : Forwarder) (action : Action) : Decidable (SameHost forwarder action) :=
  match action with
  | .read id => inferInstanceAs (Decidable
      (∀ connection, connection ∈ forwarder.connections id → _))
  | .forward .. | .send _ | .respond .. | .close _ | .callBack _ | .exit _ => isTrue trivial

theorem Answered.weaken {calls calls' : CallID → Option Call} {log log' : List Event}
    {call : CallID} {err : Option Failure} (answered : Answered calls log call err)
    (grows : ∀ made, calls call = some made → calls' call = some made) (longer : log ⊆ log') :
    Answered calls' log' call err := by
  rcases answered with ⟨made, msg, isMade, received, sameSequence, response⟩
  exact ⟨made, msg, grows made isMade, longer received, sameSequence, response⟩

/-- A reader is about to call the callback of the call. -/
def Calling (forwarder : Forwarder) (call : CallID) (err : Option Failure) : Prop :=
  ∃ id connection, forwarder.connections id = some connection ∧
    connection.reader = .calling call err

theorem calling_of_update {id : ConnectionID} {connection : Connection} {call : CallID}
    {err : Option Failure}
    (updated : next.connections = Function.update forwarder.connections id (some connection))
    (calling : next.Calling call err) :
    connection.reader = .calling call err ∨ forwarder.Calling call err := by
  rcases calling with ⟨other, found, present, isCalling⟩
  rw [updated] at present
  rcases of_update_some present with ⟨_, rfl⟩ | ⟨_, before⟩
  · exact Or.inl isCalling
  · exact Or.inr ⟨other, found, before, isCalling⟩

/-- The error is that of a failed dial, or the call has been answered. -/
def Explained (calls : CallID → Option Call) (log : List Event) (call : CallID)
    (err : Option Failure) : Prop :=
  (∃ tassisHost dialErr, err = some (unableToConnect tassisHost dialErr)) ∨
    Answered calls log call err

structure Answers (forwarder : Forwarder) : Prop where
  calling : ∀ call err, forwarder.Calling call err →
    Answered forwarder.calls forwarder.log call err
  finished : ∀ earlier call err, earlier ++ [.finished call err] <+: forwarder.log →
    Explained forwarder.calls earlier call err

theorem Answers.initial : Answers initial where
  calling call err calling := by
    rcases calling with ⟨id, connection, present, _⟩
    cases present
  finished earlier call err isPrefix := by
    have impossible := List.append_eq_nil_iff.mp (List.prefix_nil.mp isPrefix)
    cases impossible.2

/-- A step that adds no event. -/
theorem Answers.of_same_log (answers : Answers forwarder)
    (calls : ∀ call made, forwarder.calls call = some made → next.calls call = some made)
    (log : next.log = forwarder.log)
    (calling : ∀ call err, next.Calling call err → forwarder.Calling call err) :
    Answers next where
  calling call err isCalling := by
    rw [log]
    exact (answers.calling call err (calling call err isCalling)).weaken (calls call)
      (List.Subset.refl _)
  finished earlier call err isPrefix := by
    rw [log] at isPrefix
    exact (answers.finished earlier call err isPrefix).imp_right fun answered =>
      answered.weaken (calls call) (List.Subset.refl _)

/-- A step that adds an event. -/
theorem Answers.of_event (answers : Answers forwarder) {event : Event}
    (calls : next.calls = forwarder.calls) (log : next.log = forwarder.log ++ [event])
    (calling : ∀ call err, next.Calling call err →
      forwarder.Calling call err ∨ Answered forwarder.calls next.log call err)
    (explained : ∀ call err, event = .finished call err →
      Explained forwarder.calls forwarder.log call err) : Answers next where
  calling call err isCalling := by
    rw [calls]
    rcases calling call err isCalling with before | answered
    · apply (answers.calling call err before).weaken (fun _ isMade => isMade)
      rw [log]
      exact List.subset_append_left ..
    · exact answered
  finished earlier call err isPrefix := by
    rw [calls]
    rw [log] at isPrefix
    rcases List.prefix_concat_iff.mp isPrefix with equal | within
    · have parts := List.append_inj' equal rfl
      rw [parts.1]
      exact explained call err (List.singleton_inj.mp parts.2).symm
    · exact answers.finished earlier call err within

theorem Answers.enqueue (answers : Answers forwarder) (sound : Sound forwarder)
    (msg : OutboundMessage) (tassisHost : Host) (connection : ConnectionID) :
    Answers (forwarder.enqueue msg tassisHost connection) := by
  refine answers.of_same_log ?_ rfl (fun _ _ isCalling => isCalling)
  intro call made isMade
  have earlier := (sound.made call made isMade).1
  exact (Function.update_of_ne (Nat.ne_of_lt earlier) ..).trans isMade

theorem Answers.connect (answers : Answers forwarder) (tassisHost : Host)
    (connection : ConnectionID) : Answers (forwarder.connect tassisHost connection) := by
  refine answers.of_same_log (fun _ _ isMade => isMade) rfl ?_
  intro call err isCalling
  rcases calling_of_update rfl isCalling with here | elsewhere
  · cases here
  · exact elsewhere

/-- A step that changes one connection, whose reader calls no other callback. -/
theorem Answers.of_update (answers : Answers forwarder) {id : ConnectionID}
    {before after : Connection} (present : forwarder.connections id = some before)
    (connections : next.connections = Function.update forwarder.connections id (some after))
    (calls : next.calls = forwarder.calls) (log : next.log = forwarder.log)
    (reader : after.reader = before.reader ∨ after.reader = .done) : Answers next := by
  apply answers.of_same_log (fun _ _ isMade => calls ▸ isMade) log
  intro call err isCalling
  rcases calling_of_update connections isCalling with here | elsewhere
  · rcases reader with same | done
    · exact ⟨id, before, present, same.symm.trans here⟩
    · cases done.symm.trans here
  · exact elsewhere

theorem Answers.readFrom (answers : Answers forwarder) (sound : Sound forwarder)
    {id : ConnectionID} {connection : Connection} {msg : Message} {rest : List Message}
    (present : forwarder.connections id = some connection)
    (buffered : connection.inbox = msg :: rest) (sameHost : SameHost forwarder (.read id))
    (iteration : Iteration forwarder id { connection with inbox := rest } msg next) :
    Answers next := by
  cases iteration with
  | ignored =>
      refine answers.of_event rfl rfl ?_ (fun _ _ impossible => by cases impossible)
      intro call err isCalling
      rcases calling_of_update rfl isCalling with here | elsewhere
      · exact Or.inl ⟨id, connection, present, here⟩
      · exact Or.inl elsewhere
  | @removed removed response isResponse found =>
      refine answers.of_event rfl rfl ?_ (fun _ _ impossible => by cases impossible)
      intro call err isCalling
      rcases calling_of_update rfl isCalling with here | elsewhere
      · cases here
        rcases sound.pending _ _ found with ⟨made, isMade, sameSequence⟩
        have isFirst : msg ∈ connection.inbox.head? := by rw [buffered]; rfl
        have isResponse' : responseOf msg ≠ none := by rw [isResponse]; simp
        have ownHost := sameHost connection present msg isFirst isResponse' _ found made isMade
        have ownConnection := (sound.made _ made isMade).2
        have thisConnection := (sound.cached _ id).mpr ⟨connection, present, ownHost.symm⟩
        cases ownConnection.symm.trans thisConnection
        refine Or.inr ⟨made, msg, isMade, ?_, sameSequence.symm, isResponse⟩
        exact List.mem_concat_self ..
      · exact Or.inl elsewhere

theorem Answers.step (answers : Answers forwarder) (sound : Sound forwarder)
    (sameHost : SameHost forwarder action) (effect : Effect forwarder action next) :
    Answers next := by
  cases effect with
  | cached found =>
      exact answers.enqueue sound ..
  | dialFailed missing =>
      refine answers.of_event rfl rfl (fun _ _ isCalling => Or.inl isCalling) ?_
      intro call err added
      cases added
      exact Or.inl ⟨_, _, rfl⟩
  | dialled missing unused =>
      exact (answers.connect ..).enqueue (sound.connect missing unused) ..
  | sent isMade present =>
      exact answers.of_update present rfl rfl rfl (Or.inl rfl)
  | responded present =>
      exact answers.of_update present rfl rfl rfl (Or.inl rfl)
  | closed present =>
      exact answers.of_update present rfl rfl rfl (Or.inl rfl)
  | read present ranging buffered =>
      exact answers.readFrom sound present buffered sameHost (readFrom_iteration ..)
  | @calledBack id connection call err present calling =>
      refine answers.of_event rfl rfl ?_ ?_
      · intro other otherErr isCalling
        rcases calling_of_update rfl isCalling with here | elsewhere
        · cases here
        · exact Or.inl elsewhere
      · intro other otherErr added
        cases added
        exact Or.inr (answers.calling call err ⟨id, connection, present, calling⟩)
  | exited present ranging =>
      exact answers.of_update present rfl rfl rfl (Or.inr rfl)

theorem Answers.of_reaches (reaches : Reaches SameHost forwarder) : Answers forwarder := by
  apply Transition.Run.preserves reaches Answers.initial
  intro current action next reached answers sameHost taken
  exact answers.step (Sound.of_reaches reached) sameHost (effect_of_step taken)

/-- In every run in which responses that have a callback come from the host to
which its message was forwarded, no callback is called twice, and a callback is
called without an error, or with an error that a host has sent, only after that
response to the message of the call was received on the connection to its own
host. -/
theorem forward_is_completed_by_its_own_host (reaches : Reaches SameHost forwarder) :
    (finishedCalls forwarder.log).Nodup ∧
    (∀ earlier call, earlier ++ [.finished call none] <+: forwarder.log →
      ∃ made, forwarder.calls call = some made ∧
        forwarder.conns.lookup made.tassisHost = some made.connection ∧
        .received made.connection ⟨made.fullMsg.sequence, some .ack⟩ ∈ earlier) ∧
    ∀ earlier call error, earlier ++ [.finished call (some (.typed error))] <+: forwarder.log →
      ∃ made, forwarder.calls call = some made ∧
        forwarder.conns.lookup made.tassisHost = some made.connection ∧
        .received made.connection ⟨made.fullMsg.sequence, some (.error error)⟩ ∈ earlier := by
  have sound := Sound.of_reaches reaches
  have answers := Answers.of_reaches reaches
  refine ⟨finishedCalls_nodup reaches, ?_, ?_⟩
  · intro earlier call isPrefix
    rcases answers.finished earlier call none isPrefix with ⟨_, _, impossible⟩ | answered
    · cases impossible
    · rcases answered with ⟨made, msg, isMade, received, sameSequence, response⟩
      refine ⟨made, isMade, (sound.made call made isMade).2, ?_⟩
      rw [← sameSequence, ← payload_of_response_ack response]
      exact received
  · intro earlier call error isPrefix
    rcases answers.finished earlier call _ isPrefix with ⟨_, _, impossible⟩ | answered
    · cases impossible
    · rcases answered with ⟨made, msg, isMade, received, sameSequence, response⟩
      refine ⟨made, isMade, (sound.made call made isMade).2, ?_⟩
      rw [← sameSequence, ← payload_of_response_error response]
      exact received

/-- The first message goes to host `a`, the second one to host `b`. -/
def forwardToTwoHosts : List Action :=
  [.forward ⟨none, []⟩ ['a'] (.ok 0), .send 0, .forward ⟨none, []⟩ ['b'] (.ok 1), .send 1]

def acknowledge (id : ConnectionID) (sequence : Nat) : List Action :=
  [.respond id ⟨sequence, some .ack⟩, .read id, .callBack id]

/-- Host `b` acknowledges the message that was forwarded to host `a`. -/
theorem forward_is_completed_by_another_host :
    ∃ forwarder, Reaches Transition.anyStep forwarder ∧
      (forwarder.calls 0).map Call.tassisHost = some ['a'] ∧
      forwarder.conns.lookup ['a'] = some 0 ∧ forwarder.conns.lookup ['b'] = some 1 ∧
      forwarder.log = [.received 1 ⟨1, some .ack⟩, .finished 0 none] :=
  Transition.Run.exists_of_execute (forwardToTwoHosts ++ acknowledge 1 1) (by decide +kernel)

theorem forwards_are_acknowledged_by_two_hosts :
    ∃ forwarder, Reaches SameHost forwarder ∧
      forwarder.log = [.received 1 ⟨2, some .ack⟩, .finished 1 none,
        .received 0 ⟨1, some .ack⟩, .finished 0 none] ∧
      (finishedCalls forwarder.log).Nodup := by
  have run : ∃ forwarder, Reaches SameHost forwarder ∧
      forwarder.log = [.received 1 ⟨2, some .ack⟩, .finished 1 none,
        .received 0 ⟨1, some .ack⟩, .finished 0 none] :=
    Transition.Run.exists_of_execute (forwardToTwoHosts ++ acknowledge 1 2 ++ acknowledge 0 1)
      (by decide +kernel)
  rcases run with ⟨forwarder, reaches, log⟩
  exact ⟨forwarder, reaches, log, (forward_is_completed_by_its_own_host reaches).1⟩

end Tassis.Forwarder
