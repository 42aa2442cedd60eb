import Tassis.Foundation.Record
import Tassis.Service.Loops

/-! # What an ack to a client means

Whatever else happens, a client gets one ack at most for each of its messages, in the
order of the messages, and only for what was done: each ack has an operation of its
own, which had succeeded before and which the message asks for.
-/

namespace Tassis.Service

open Model
open Program (Obeys)

/-! ## What the client sees -/

/-- What the loop over the client's messages does in a step. -/
def Action.exchange (number : Nat) : Action → Option Exchange
  | .perform goroutine operation reply _ =>
      if goroutine = .outbound number then some ⟨operation, reply⟩ else none
  | _ => none

/-- Everything that the loop over the client's messages has done, in order. -/
def exchangesOf (number : Nat) (log : List Action) : List Exchange :=
  (log.filterMap (Action.exchange number)).reverse

theorem exchangesOf_cons (number : Nat) (action : Action) (log : List Action) :
    exchangesOf number (action :: log) =
      exchangesOf number log ++ (action.exchange number).toList := by
  cases exchanged : action.exchange number <;> simp [exchangesOf, exchanged]

/-- What an operation has left behind: a message is in its topic, and what concerns a
device was done for the client who has logged in. -/
def Leaves (state : State) (connection : Connection) :
    (operation : Operation) → Reply operation → Prop
  | .publish publisher data, none =>
      ∃ index acked, state.topics.posting ⟨publisher.topic, index⟩ = some ⟨data, acked⟩
  | .register identityKey deviceId _, _ | .unregister identityKey deviceId, _ =>
      connection.ActsFor ⟨identityKey, deviceId⟩
  | _, _ => True

theorem Leaves.mono {state next : State} {connection later : Connection} {operation : Operation}
    {reply : Reply operation} (leaves : Leaves state connection operation reply)
    (grows : state.Extends next) (extended : connection.Extends later) :
    Leaves next later operation reply := by
  cases operation <;> try trivial
  case publish publisher data =>
      cases reply with
      | some err => trivial
      | none =>
          rcases leaves with ⟨index, acked, posted⟩
          rcases grows.topics _ _ posted with ⟨acked, posted⟩
          exact ⟨index, acked, posted⟩
  case register identityKey deviceId registration => exact extended.actsFor leaves
  case unregister identityKey deviceId => exact extended.actsFor leaves

/-! ## The tally of a connection -/

/-- The acks that were sent so far, each with its message and with the operation that
earned it, of which something `good` is known. It is known too of the message in hand
once that may be acked. While the message in hand is unanswered, all acks belong to what
came `earlier`. -/
structure Tally (library : Library) (good : Message → Exchange → Prop)
    (processed : List Message) (acks : List Nat) (earlier : List Exchange)
    (transcript : Transcript) (settled : List (Message × Exchange)) : Prop where
  message : transcript.message = processed.getLast?
  hand : ∀ msg exchange, transcript.message = some msg → exchange ∈ transcript.performed →
    Fulfils library msg exchange.1 exchange.2 → good msg exchange
  sequences : settled.map (·.1.sequence) = acks
  fulfils : ∀ entry, entry ∈ settled →
    Fulfils library entry.1 entry.2.1 entry.2.2 ∧ good entry.1 entry.2
  messages : (settled.map Prod.fst).Sublist processed
  operations : (settled.map Prod.snd).Sublist (earlier ++ transcript.performed.reverse)
  pending : transcript.Unanswered →
    (settled.map Prod.fst).Sublist processed.dropLast ∧
      (settled.map Prod.snd).Sublist earlier

section Tally

variable {library : Library} {good good' : Message → Exchange → Prop}
  {processed : List Message} {acks : List Nat} {earlier : List Exchange}
  {transcript : Transcript} {settled : List (Message × Exchange)}

theorem Tally.initial (library : Library) (good : Message → Exchange → Prop) :
    Tally library good [] [] [] ⟨none, []⟩ [] where
  message := rfl
  hand _ _ message := by cases message
  sequences := rfl
  fulfils _ member := by cases member
  messages := .slnil
  operations := .slnil
  pending _ := ⟨.slnil, .slnil⟩

section Steps

variable (tally : Tally library good processed acks earlier transcript settled)

include tally

theorem Tally.inHand {msg : Message} (message : transcript.message = some msg) :
    msg ∈ processed := by
  rw [tally.message] at message
  exact List.mem_of_getLast? message

theorem Tally.mono
    (kept : ∀ msg exchange, msg ∈ processed → good msg exchange → good' msg exchange) :
    Tally library good' processed acks earlier transcript settled :=
  { tally with
    hand msg exchange message performed fulfils :=
      kept msg exchange (tally.inHand message) (tally.hand msg exchange message performed fulfils)
    fulfils entry member := by
      have received := tally.messages.subset (List.mem_map_of_mem member)
      rcases tally.fulfils entry member with ⟨fulfils, known⟩
      exact ⟨fulfils, kept _ _ received known⟩ }

/-- Another message is received. -/
theorem Tally.receive (msg : Message) (exchange : Exchange) :
    Tally library good (processed ++ [msg]) acks
      (earlier ++ transcript.performed.reverse ++ [exchange]) ⟨some msg, []⟩ settled where
  message := by simp
  hand _ _ _ performed := by cases performed
  sequences := tally.sequences
  fulfils := tally.fulfils
  messages := tally.messages.trans (List.sublist_append_left _ _)
  operations := by
    rw [List.reverse_nil, List.append_nil]
    exact tally.operations.trans (List.sublist_append_left _ _)
  pending _ := by
    rw [List.dropLast_concat]
    exact ⟨tally.messages, tally.operations.trans (List.sublist_append_left _ _)⟩

/-- An operation that sends no ack. -/
theorem Tally.perform {exchange : Exchange}
    (earned : ∀ msg, msg ∈ processed → Fulfils library msg exchange.1 exchange.2 →
      good msg exchange) :
    Tally library good processed acks earlier
      { transcript with performed := exchange :: transcript.performed } settled where
  message := tally.message
  hand msg exchange' message performed fulfils := by
    rcases List.mem_cons.mp performed with rfl | performed
    · exact earned msg (tally.inHand message) fulfils
    · exact tally.hand msg exchange' message performed fulfils
  sequences := tally.sequences
  fulfils := tally.fulfils
  messages := tally.messages
  operations := by
    rw [List.reverse_cons, ← List.append_assoc]
    exact tally.operations.trans (List.sublist_append_left _ _)
  pending unanswered := tally.pending fun msg member =>
    unanswered msg (List.mem_cons_of_mem _ member)

/-- The message in hand is acked, for which an operation was performed since it was
received. -/
theorem Tally.ack {answer : Message} (isAck : IsAck answer)
    (mayAck : transcript.MayAck library answer) :
    ∃ entry, Tally library good processed (acks ++ [answer.sequence]) earlier
      { transcript with performed := ⟨.send answer, ()⟩ :: transcript.performed }
      (settled ++ [entry]) := by
  rcases mayAck with ⟨unanswered, msg, inHand, sequence, exchange, performed, fulfils⟩
  have before := tally.pending unanswered
  have split : processed = processed.dropLast ++ [msg] := by
    have last := inHand
    rw [tally.message] at last
    exact (List.dropLast_append_getLast? msg last).symm
  have noted : Tally library good processed acks earlier
      { transcript with performed := ⟨.send answer, ()⟩ :: transcript.performed } settled :=
    tally.perform fun _ _ fulfils => fulfils.elim
  refine ⟨(msg, exchange), noted.message, noted.hand, ?_, ?_, ?_, ?_, ?_⟩
  · rw [List.map_append, tally.sequences, sequence]
    rfl
  · intro entry member
    rcases List.mem_append.mp member with member | member
    · exact tally.fulfils entry member
    · rw [List.mem_singleton.mp member]
      exact ⟨fulfils, tally.hand msg exchange inHand performed fulfils⟩
  · rw [List.map_append, split]
    exact before.1.append (List.Sublist.refl _)
  · rw [List.map_append]
    refine before.2.append ?_
    rw [List.map_singleton, List.singleton_sublist, List.mem_reverse]
    exact List.mem_cons_of_mem _ performed
  · intro unanswered
    exact absurd isAck (unanswered answer List.mem_cons_self)

end Steps

variable {connection : Connection} {operation : Operation} {reply : Reply operation}

/-- The tally after an operation of the loop. -/
theorem Tally.after
    (tally : Tally library good connection.processed connection.acks earlier transcript settled)
    (within : connection.received ≤ connection.out.length)
    (allows : Transcript.Allows library transcript operation)
    (possible : connection.mayReply operation reply = true)
    (earned : ∀ msg, msg ∈ connection.processed → Fulfils library msg operation reply →
      good msg ⟨operation, reply⟩) :
    ∃ earlier' settled',
      earlier ++ transcript.performed.reverse ++ [⟨operation, reply⟩] =
        earlier' ++ (transcript.next operation reply).performed.reverse ∧
      Tally library good (connection.after operation reply).processed
        (connection.after operation reply).acks earlier' (transcript.next operation reply)
        settled' := by
  by_cases quiet : operation.Quiet
  · have agrees := Connection.agrees_after within quiet reply
    have receives : operation ≠ .nextMessage := by
      rintro rfl
      exact quiet
    refine ⟨earlier, settled, ?_, ?_⟩
    · simp [Transcript.next_of_ne receives]
    · rw [agrees.acks, agrees.processed, Transcript.next_of_ne receives]
      exact tally.perform earned
  cases operation <;> try exact absurd trivial quiet
  case send answer =>
      have isAck : IsAck answer := not_not.mp quiet
      rcases tally.ack isAck (allows isAck) with ⟨entry, tally⟩
      refine ⟨earlier, settled ++ [entry], by simp [Transcript.next], ?_⟩
      rw [Connection.acks_after_ack isAck]
      exact tally
  case nextMessage =>
      cases reply with
      | none => exact ⟨earlier, settled, by simp [Transcript.next], tally.perform earned⟩
      | some msg =>
          refine ⟨_, settled, (List.append_nil _).symm, ?_⟩
          rw [Connection.processed_after_message possible]
          exact tally.receive msg _

end Tally

/-! ## Runs -/

/-- The tally of a connection is right: its loop obeys the rules for what it has done
since it received the message in hand. -/
inductive Tallied (library : Library) (number : Nat) (good : Message → Exchange → Prop)
    (log : List Action) (state : State) : Prop where
  | unconnected (unused : state.connections number = none)
      (silent : exchangesOf number log = [])
  | looping {connection : Connection} {thread : Thread} {transcript : Transcript}
      {earlier : List Exchange} {settled : List (Message × Exchange)}
      (stored : state.connections number = some connection)
      (present : state.threads (.outbound number) = some thread)
      (obeys : Obeys (Transcript.rules library) (fun _ _ => True) thread.program transcript)
      (exchanges : exchangesOf number log = earlier ++ transcript.performed.reverse)
      (tally : Tally library good connection.processed connection.acks earlier transcript settled)

section Tallied

variable {library : Library} {opts : Opts} {number : Nat} {good good' : Message → Exchange → Prop}
  {state next : State} {log : List Action} {connection : Connection} {action : Action}

theorem Tallied.settled (tallied : Tallied library number good log state)
    (stored : state.connections number = some connection) :
    ∃ settled : List (Message × Exchange),
      settled.map (·.1.sequence) = connection.acks ∧
      (settled.map Prod.fst).Sublist connection.processed ∧
      (settled.map Prod.snd).Sublist (exchangesOf number log) ∧
      ∀ msg exchange, (msg, exchange) ∈ settled →
        Fulfils library msg exchange.1 exchange.2 ∧ good msg exchange := by
  cases tallied with
  | unconnected unused => cases unused.symm.trans stored
  | looping stored' _ _ exchanges tally =>
      cases stored.symm.trans stored'
      exact ⟨_, tally.sequences, tally.messages, exchanges ▸ tally.operations,
        fun msg exchange => tally.fulfils (msg, exchange)⟩

theorem Tallied.of_ack (tallied : Tallied library number good log state)
    (stored : state.connections number = some connection) {sequence : Nat}
    (acked : sequence ∈ connection.acks) :
    ∃ msg exchange, msg ∈ connection.processed ∧ msg.sequence = sequence ∧
      Fulfils library msg exchange.1 exchange.2 ∧ good msg exchange := by
  rcases tallied.settled stored with ⟨settled, sequences, messages, _, earned⟩
  rw [← sequences] at acked
  rcases List.mem_map.mp acked with ⟨⟨msg, exchange⟩, member, same⟩
  exact ⟨msg, exchange, messages.subset (List.mem_map_of_mem member), same,
    earned msg exchange member⟩

theorem Tallied.mono (tallied : Tallied library number good log state)
    (kept : ∀ connection msg exchange, state.connections number = some connection →
      msg ∈ connection.processed → good msg exchange → good' msg exchange) :
    Tallied library number good' log state := by
  cases tallied with
  | unconnected unused silent => exact .unconnected unused silent
  | @looping connection _ _ _ _ stored present obeys exchanges tally =>
      exact .looping stored present obeys exchanges
        (tally.mono fun msg exchange => kept connection msg exchange stored)

theorem exchange_of_apart (apart : ¬action.Concerns number) : action.exchange number = none := by
  cases action <;> try rfl
  case perform goroutine operation reply rounds => exact if_neg apart

/-- What is known of a message along a step is known of every message that is acked. -/
theorem Tallied.step (tallied : Tallied library number good log state)
    (reaches : Reaches library opts state) (taken : step library opts state action = some next)
    (kept : ∀ connection msg exchange, state.connections number = some connection →
      msg ∈ connection.processed → good msg exchange → good' msg exchange)
    (earned : ∀ connection operation (reply : Reply operation) rounds msg,
      state.connections number = some connection →
      action = .perform (.outbound number) operation reply rounds →
      msg ∈ connection.processed → Fulfils library msg operation reply →
      good' msg ⟨operation, reply⟩) :
    Tallied library number good' (action :: log) next := by
  have logged := exchangesOf_cons number action log
  cases tallied.mono kept with
  | unconnected unused silent =>
      cases loopEffect_of_step reaches taken number with
      | idle apart _ unused' =>
          refine .unconnected unused' ?_
          rw [exchange_of_apart apart] at logged
          exact logged.trans ((List.append_nil _).trans silent)
      | opened nonce rounds same _ stored present =>
          subst same
          exact .looping stored present (handleOutbound_earns rounds ⟨none, []⟩)
            (logged.trans ((List.append_nil _).trans silent)) (Tally.initial library good')
      | moved stored => cases unused.symm.trans stored
  | @looping connection thread transcript earlier settled stored present obeys exchanges tally =>
      cases loopEffect_of_step reaches taken number with
      | idle _ unused => cases unused.symm.trans stored
      | opened _ _ _ unused => cases unused.symm.trans stored
      | @moved connection' later _ thread' found running kept present' moves =>
          cases stored.symm.trans found
          cases present.symm.trans running
          cases moves with
          | apart _ apart agrees =>
              rw [exchange_of_apart apart] at logged
              rw [← agrees.acks, ← agrees.processed] at tally
              exact .looping kept present' obeys
                (logged.trans ((List.append_nil _).trans exchanges)) tally
          | @performed operation rest view reply rounds same expected possible =>
              rcases tally.after (Looped.of_reaches reaches number connection stored).1 obeys.1
                possible (fun msg => earned connection operation reply rounds msg stored same)
                with ⟨earlier', settled', split, tally⟩
              subst same
              rw [Action.exchange, if_pos rfl, exchanges] at logged
              exact .looping kept present' (obeys.2 reply expected) (logged.trans split) tally

/-- What the operation has left behind for this connection. -/
def LeftBy (state : State) (number : Nat) (exchange : Exchange) : Prop :=
  ∃ connection, state.connections number = some connection ∧
    Leaves state connection exchange.1 exchange.2

/-- What the loop has done is left behind. -/
theorem leftBy_after (sound : Sound library opts state)
    (stored : state.connections number = some connection) {operation : Operation}
    {reply : Reply operation} {rounds : Nat}
    (taken : Service.step library opts state
      (.perform (.outbound number) operation reply rounds) = some next) :
    LeftBy next number ⟨operation, reply⟩ := by
  rcases performNext_cases taken with ⟨rest, view, present, -, rfl⟩
  have sane := sound.threads _ _ present
  have mirrors := sane.mirrors_connection rfl rfl stored
  have allowed := sane.allowed
  refine ⟨connection.after operation reply, ?_, ?_⟩
  · rw [State.connections_after, stored]
    exact congrArg some (if_pos rfl)
  cases operation <;> try trivial
  case publish publisher data =>
      cases reply with
      | some err => trivial
      | none =>
          refine ⟨(state.topics publisher.topic).length, false, ?_⟩
          simp [State.after, Topics.after, Topics.posting, Topics.publish]
  case register identityKey deviceId registration =>
      exact ⟨mirrors.identityKey.symm.trans allowed.1, mirrors.deviceId.symm.trans allowed.2⟩
  case unregister identityKey deviceId =>
      exact ⟨mirrors.identityKey.symm.trans allowed.1, mirrors.deviceId.symm.trans allowed.2⟩

variable {record : Transition.Record State Action}

/-- The tallies are right in every run. -/
theorem Tallied.of_run
    (run : Transition.Run (Transition.record (Service.step library opts)) Transition.anyStep
      ⟨.initial opts, []⟩ record) (number : Nat) :
    Tallied library number (fun _ => LeftBy record.state number) record.log record.state := by
  let holds (record : Transition.Record State Action) : Prop :=
    Tallied library number (fun _ => LeftBy record.state number) record.log record.state
  have starts : holds ⟨.initial opts, []⟩ := .unconnected rfl rfl
  change holds record
  apply Transition.Run.preserves run starts
  rintro ⟨state, log⟩ action ⟨next, log'⟩ reached tallied _ taken
  rcases Transition.of_record taken with ⟨taken, logged⟩
  cases logged
  have sound := Sound.of_reaches reached.unrecorded
  have grows := sound.extends taken
  refine Tallied.step tallied reached.unrecorded taken ?_ ?_
  · rintro _ _ exchange _ _ ⟨connection, stored, leaves⟩
    rcases grows.connections _ _ stored with ⟨later, kept, extended⟩
    exact ⟨later, kept, leaves.mono grows extended⟩
  · intro connection operation reply rounds _ stored performs _ _
    subst performs
    exact leftBy_after sound stored taken

end Tallied

/-! ## Results -/

/-- The acks that a client has got are, in their order, for some of the messages that
were received from it, one for each at most. Each of them has an operation of its own
in the log, which the message asks for and which has succeeded: the device was
registered or unregistered for the client who has logged in, or the message is in the
topic of its recipient or in the one for other hosts. -/
theorem acks_are_earned {library : Library} {opts : Opts} {number : Nat}
    {record : Transition.Record State Action} {connection : Connection}
    (run : Transition.Run (Transition.record (step library opts)) Transition.anyStep
      ⟨.initial opts, []⟩ record)
    (stored : record.state.connections number = some connection) :
    ∃ settled : List (Message × Exchange),
      settled.map (·.1.sequence) = connection.acks ∧
      (settled.map Prod.fst).Sublist connection.processed ∧
      (settled.map Prod.snd).Sublist (exchangesOf number record.log) ∧
      ∀ msg exchange, (msg, exchange) ∈ settled →
        Fulfils library msg exchange.1 exchange.2 ∧
          Leaves record.state connection exchange.1 exchange.2 := by
  rcases (Tallied.of_run run number).settled stored with
    ⟨settled, sequences, messages, operations, earned⟩
  refine ⟨settled, sequences, messages, operations, ?_⟩
  intro msg exchange member
  rcases earned msg exchange member with ⟨fulfils, connection', stored', leaves⟩
  cases stored.symm.trans stored'
  exact ⟨fulfils, leaves⟩

/-- Of two messages of a client the first cannot be published, and the second is
acked. -/
theorem acks_are_earned_secondMessage :
    ∃ record : Transition.Record State Action, ∃ connection : Connection,
      Transition.Run (Transition.record (step plainLibrary plainOpts)) Transition.anyStep
        ⟨.initial plainOpts, []⟩ record ∧
      record.state.connections 0 = some connection ∧
      connection.processed.map Message.sequence = [1, 2] ∧ connection.acks = [2] ∧
      ∃ settled : List (Message × Exchange),
        settled.map (·.1.sequence) = connection.acks ∧
        (settled.map Prod.fst).Sublist connection.processed ∧
        (settled.map Prod.snd).Sublist (exchangesOf 0 record.log) ∧
        ∀ msg exchange, (msg, exchange) ∈ settled →
          Fulfils plainLibrary msg exchange.1 exchange.2 ∧
            Leaves record.state connection exchange.1 exchange.2 := by
  let outage : Failure := .other "connection refused".toList
  let device : Address := ⟨"key".toList, "device".toList⟩
  let topic := topicForAddr plainLibrary device
  let sent (sequence : Nat) : Message := ⟨sequence, some (.outboundMessage ⟨some device, ['m']⟩)⟩
  let handle (sequence : Nat) : List Action :=
    [.send 0 (sent sequence), .perform (.outbound 0) .nextMessage (some (sent sequence)) 0,
      .perform (.outbound 0) .loadIdentityKey none 0,
      .perform (.outbound 0) (.find (some device)) (.ok plainOpts.publicAddr) 0]
  have run : ∃ record : Transition.Record State Action,
      Transition.Run (Transition.record (step plainLibrary plainOpts)) Transition.anyStep
        ⟨.initial plainOpts, []⟩ record ∧
      (record.state.connections 0).any (fun connection =>
        connection.processed.map Message.sequence = [1, 2] ∧ connection.acks = [2]) = true :=
    Transition.Run.exists_of_execute
      ([.connect 0 "nonce".toList 2] ++ handle 1 ++
        [.perform (.outbound 0) (.cachedPublisher topic) none 0,
          .perform (.outbound 0) (.newPublisher topic) (.error outage) 0,
          .perform (.outbound 0) (.send (newError (sent 1) (typedError outage))) () 0] ++
        handle 2 ++
        [.perform (.outbound 0) (.cachedPublisher topic) none 0,
          .perform (.outbound 0) (.newPublisher topic) (.ok ⟨topic⟩) 0,
          .perform (.outbound 0) (.cachePublisher topic ⟨topic⟩) () 0,
          .perform (.outbound 0) (.publish ⟨topic⟩ ['m']) none 0,
          .perform (.outbound 0) (.send ⟨2, some .ack⟩) () 0]) (by decide +kernel)
  rcases run with ⟨record, run, seen⟩
  rcases (Option.any_eq_true _ _).mp seen with ⟨connection, stored, seen⟩
  rcases of_decide_eq_true seen with ⟨received, acked⟩
  exact ⟨record, connection, run, stored, received, acked, acks_are_earned run stored⟩

end Tassis.Service
