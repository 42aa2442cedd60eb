import Tassis.Service.Network
import Tassis.Service.Soundness

/-! # What a step does to messages

Where a step of a service publishes a message, when a message is acked and why, and
who acks it.
-/

namespace Tassis.Service

open Model
open Network (placesOf receiptsOf)

variable {library : Library}

/-! ## What a step does to messages -/

section Steps

variable {opts : Opts} {state next : State} {action : Action}
  (taken : step library opts state action = some next)

include taken

/-- A place is taken if it was before, or if a message is published there. -/
theorem posting_iff_of_step (place : Place) :
    next.topics.posting place ≠ none ↔
      state.topics.posting place ≠ none ∨ place ∈ placesOf state.topics action := by
  cases stepCase_of_step taken with
  | @performed goroutine operation rest view reply rounds present possible =>
      constructor
      · intro posted
        rcases Option.ne_none_iff_exists'.mp posted with ⟨posting, posted⟩
        cases state.topics.postingStep_of_after posted with
        | kept before => exact Or.inl (before ▸ Option.some_ne_none _)
        | published last => exact Or.inr (List.mem_singleton.mpr last)
        | acked _ before => exact Or.inl (before ▸ Option.some_ne_none _)
      · rintro (posted | published)
        · rcases Option.ne_none_iff_exists'.mp posted with ⟨posting, posted⟩
          rcases state.topics.extends_after operation reply place posting posted with
            ⟨acked, posted⟩
          exact posted ▸ Option.some_ne_none _
        · cases operation <;> try cases published
          case publish publisher data =>
              cases reply with
              | some err => cases published
              | none =>
                  rw [List.mem_singleton.mp published]
                  change (state.topics.publish publisher.topic data).posting _ ≠ none
                  rw [Topics.posting_publish, if_pos rfl]
                  exact Option.some_ne_none _
  | _ => exact ⟨Or.inl, fun posted => posted.resolve_right List.not_mem_nil⟩

/-- A copy is published in the step that records it, of a message that is there. -/
theorem copied_of_step (sound : Sound library opts state) {source place : Place}
    {failedAt : Option Int} (member : (source, .copied place failedAt) ∈ next.history) :
    (source, .copied place failedAt) ∈ state.history ∨
      state.topics.posting source ≠ none ∧ placesOf state.topics action = [place] := by
  cases stepCase_of_step taken with
  | finished forwardingErr =>
      dsimp only at member
      split at member
      · exact Or.inl (List.mem_of_ne_of_mem (by simp) member)
      · exact Or.inl member
  | @performed goroutine operation rest view reply rounds present possible =>
      rcases History.after_cases member with before | ⟨brokerMsg, _, handling, rfl, added⟩
      · exact Or.inl before
      · rcases (sound.threads _ _ present).posting handling with ⟨acked, posted⟩
        refine Or.inr ⟨posted ▸ Option.some_ne_none _, ?_⟩
        unfold fateOf at added
        split at added
        · cases added
          rfl
        · split at added <;> cases added
        · cases added
  | _ => exact Or.inl member

/-- A message is acked remotely by the response to its own callback. -/
theorem remote_of_step {source : Place} (member : (source, .ackedRemotely) ∈ next.history) :
    (source, .ackedRemotely) ∈ state.history ∨
      ∃ sequence callback, action = .finishForward sequence none ∧
        state.forwarder.callbacks sequence = some callback ∧
        source = callback.brokerMsg.place := by
  cases stepCase_of_step taken with
  | @finished sequence callback forwardingErr waits =>
      cases forwardingErr with
      | some err => exact Or.inl member
      | none =>
          rcases List.mem_cons.mp member with equal | member
          · cases equal
            exact Or.inr ⟨sequence, callback, rfl, waits, rfl⟩
          · exact Or.inl member
  | @performed goroutine operation rest view reply rounds present possible =>
      rcases History.after_cases member with before | ⟨_, _, _, _, added⟩
      · exact Or.inl before
      · unfold fateOf at added
        split at added
        · cases added
        · split at added <;> cases added
        · cases added
  | _ => exact Or.inl member

/-- A message of a device is acked by a client, or after a transfer. -/
theorem acked_of_step (reaches : Reaches library opts state) {place : Place} {data : Text}
    (ofDevice : ¬IsForwarding place.topic)
    (posted : next.topics.posting place = some ⟨data, true⟩) :
    state.topics.posting place = some ⟨data, true⟩ ∨
      (∃ number, (number, place) ∈ receiptsOf action) ∨
      ∃ index failedAt, (place, .copied ⟨forwardingTopic, index⟩ failedAt) ∈ state.history := by
  have sound := Sound.of_reaches reaches
  cases stepCase_of_step taken with
  | @performed goroutine operation rest view reply rounds present possible =>
      cases state.topics.postingStep_of_after posted with
      | kept before => exact Or.inl before
      | @acked brokerMsg _ acked same before =>
          subst same
          have sane := sound.threads _ _ present
          have allowed := sane.allowed
          cases kind : goroutine.kind <;> rw [kind] at allowed <;> try exact allowed.elim
          case outbound =>
              rcases goroutine.eq_outbound kind with ⟨number, rfl⟩
              exact Or.inr (Or.inl ⟨number, List.mem_singleton_self _⟩)
          case forwarding =>
              have received := (sane.delivered brokerMsg allowed.1).2
              rw [kind] at received
              exact absurd received ofDevice
          case transferring =>
              have tracked := (Conserves.of_reaches reaches).tracked _ _ present (by rw [kind]; rfl)
              rcases tracked.handedOn brokerMsg allowed.2 allowed.1 with ⟨fate, member, isCopy⟩
              rcases isCopy kind with ⟨index, failedAt, rfl⟩
              exact Or.inr (Or.inr ⟨index, failedAt, member⟩)
  | _ => exact Or.inl posted

/-- The wire only grows. -/
theorem wire_of_step :
    ∃ added, next.forwarder.wire = state.forwarder.wire ++ added := by
  cases stepCase_of_step taken with
  | @performed goroutine operation rest view reply rounds present possible =>
      cases operation <;> try exact ⟨[], (List.append_nil _).symm⟩
      case sendTo tassisHost msg => exact ⟨[(tassisHost, msg)], rfl⟩
  | _ => exact ⟨[], (List.append_nil _).symm⟩

/-- What a client has sent changes only when the client sends something. -/
theorem out_of_step {number : Nat} {connection later : Connection}
    (stored : state.connections number = some connection)
    (kept : next.connections number = some later) (silent : ∀ msg, action ≠ .send number msg) :
    later.out = connection.out := by
  have changed := connectionStep_of_step taken kept
  rw [stored] at changed
  cases changed with
  | kept => rfl
  | sent _ msg sends => exact absurd sends (silent msg)
  | closed => rfl
  | @acted _ goroutine operation rest view reply connected present =>
      unfold Connection.after
      split <;> rfl

end Steps

/-! ## Clients and their own messages -/

/-- The message is for the client who has logged in. -/
def Connection.Owns (library : Library) (connection : Connection) (brokerMsg : BrokerMessage) :
    Prop :=
  ∃ address, connection.ActsFor address ∧ brokerMsg.topic = topicForAddr library address

/-- What a client can ack is for the client. -/
structure Owned (library : Library) (state : State) : Prop where
  unacked : ∀ number connection sequence brokerMsg,
    state.connections number = some connection →
    connection.unackedMessages sequence = some brokerMsg → connection.Owns library brokerMsg
  inHand : ∀ number connection thread brokerMsg, state.connections number = some connection →
    state.threads (.outbound number) = some thread → thread.view.delivery = some brokerMsg →
    connection.Owns library brokerMsg

section Owned

variable {opts : Opts} {state next : State} {action : Action}

theorem Connection.Owns.mono {connection later : Connection} {brokerMsg : BrokerMessage}
    (owns : connection.Owns library brokerMsg) (grows : connection.Extends later) :
    later.Owns library brokerMsg := by
  rcases owns with ⟨address, actsFor, onTopic⟩
  exact ⟨address, grows.actsFor actsFor, onTopic⟩

/-- The goroutine that stores an acker passes on messages for its own client. -/
theorem owns_of_storeAcker (sound : Sound library opts state) {goroutine : Goroutine}
    {sequence : Nat} {brokerMsg : BrokerMessage} {rest : Unit → Task Unit} {view : View}
    (present : state.threads goroutine = some ⟨.call (.storeAcker sequence brokerMsg) rest, view⟩)
    {number : Nat} {connection : Connection} (connected : goroutine.connection = some number)
    (stored : state.connections number = some connection) :
    connection.Owns library brokerMsg := by
  have sane := sound.threads _ _ present
  have allowed := sane.allowed
  cases goroutine with
  | routine id owner code =>
      cases code <;> try exact allowed.elim
      case handleInbound subscriber =>
          rcases sane.subscribed id owner subscriber rfl with
            ⟨owning, connection', address, owned, stored', actsFor, onTopic⟩
          cases owned.symm.trans connected
          cases stored.symm.trans stored'
          exact ⟨address, actsFor, (sane.delivered brokerMsg allowed).2.trans onTopic⟩
  | _ => exact allowed.elim

theorem Owned.unacked_of_step (owned : Owned library state) (sound : Sound library opts state)
    (taken : step library opts state action = some next) {number sequence : Nat}
    {later : Connection} {brokerMsg : BrokerMessage}
    (kept : next.connections number = some later)
    (found : later.unackedMessages sequence = some brokerMsg) :
    later.Owns library brokerMsg := by
  have grows := (sound.extends taken).connections number
  have changed := connectionStep_of_step taken kept
  generalize stored : state.connections number = before at changed
  cases changed with
  | connected nonce => cases found
  | kept => exact owned.unacked number later sequence brokerMsg stored found
  | sent connection msg => exact owned.unacked number connection sequence brokerMsg stored found
  | closed connection => exact owned.unacked number connection sequence brokerMsg stored found
  | @acted connection goroutine operation rest view reply connected present =>
      rcases grows connection stored with ⟨later', kept', extended⟩
      cases kept.symm.trans kept'
      have old (found : connection.unackedMessages sequence = some brokerMsg) :
          (connection.after operation reply).Owns library brokerMsg :=
        (owned.unacked number connection sequence brokerMsg stored found).mono extended
      cases operation <;> try exact old found
      case nextMessage => cases reply <;> exact old found
      case storeAcker sequence' brokerMsg' =>
          rcases of_update_some found with ⟨_, rfl⟩ | ⟨_, found⟩
          · exact (owns_of_storeAcker sound present connected stored).mono extended
          · exact old found
      case deleteAcker sequence' => exact old (of_update_none found).2

theorem Owned.step (owned : Owned library state) (reaches : Reaches library opts state)
    (taken : step library opts state action = some next) : Owned library next := by
  have sound := Sound.of_reaches reaches
  refine ⟨fun _ _ _ _ => owned.unacked_of_step sound taken, ?_⟩
  intro number later thread' brokerMsg kept present' handling
  cases loopEffect_of_step reaches taken number with
  | idle _ _ unused => cases unused.symm.trans kept
  | opened nonce rounds _ _ _ loop =>
      cases present'.symm.trans loop
      cases handling
  | @moved connection _ thread _ stored present kept' running moves =>
      cases kept.symm.trans kept'
      cases present'.symm.trans running
      rcases (sound.extends taken).connections _ _ stored with ⟨later', kept'', extended⟩
      cases kept.symm.trans kept''
      have old (before : thread.view.delivery = some brokerMsg) : later.Owns library brokerMsg :=
        (owned.inHand number connection thread brokerMsg stored present before).mono extended
      cases moves with
      | apart => exact old handling
      | @performed operation rest view reply rounds same expected possible =>
          have allowed := (sound.threads _ _ present).allowed
          cases operation <;> try exact old handling
          case nextMessage | publish => cases reply <;> exact old handling
          case findAcker sequence =>
              cases reply with
              | none => exact old handling
              | some found =>
                  cases handling
                  have found : connection.unackedMessages sequence = some brokerMsg := by
                    simpa [Connection.mayReply, eq_comm] using possible
                  exact (owned.unacked number connection sequence brokerMsg stored found).mono
                    extended
          case nextDelivery subscriber => exact allowed.elim

theorem Owned.of_reaches (reaches : Reaches library opts state) : Owned library state := by
  have starts : Owned library (.initial opts) := by
    constructor <;> (intro number connection _ _ stored; cases stored)
  apply Transition.Run.preserves reaches starts
  intro current action next reached owned _ taken
  exact owned.step reached taken

/-- Who acks a message is logged in as the one whom it is for. -/
theorem owns_of_receipt (reaches : Reaches library opts state)
    (taken : step library opts state action = some next) {number : Nat} {place : Place}
    (member : (number, place) ∈ receiptsOf action) :
    ∃ connection address, next.connections number = some connection ∧
      connection.ActsFor address ∧ place.topic = topicForAddr library address := by
  have sound := Sound.of_reaches reaches
  cases stepCase_of_step taken with
  | @performed goroutine operation rest view reply rounds present possible =>
      cases goroutine <;> cases operation <;> try cases member
      case outbound.ack number brokerMsg =>
          cases reply with
          | some err => cases member
          | none =>
              cases List.mem_singleton.mp member
              have sane := sound.threads _ _ present
              rcases sane.mirrors number rfl with ⟨connection, stored, _⟩
              rcases (Owned.of_reaches reaches).inHand number connection _ brokerMsg stored present
                sane.allowed with ⟨address, actsFor, onTopic⟩
              rcases (sound.extends taken).connections _ _ stored with ⟨later, kept, extended⟩
              exact ⟨later, address, kept, extended.actsFor actsFor, onTopic⟩
  | _ => cases member

end Owned

end Tassis.Service
