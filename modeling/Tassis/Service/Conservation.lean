import Tassis.Service.Soundness

/-! # Conservation of forwarded messages

A message on the forwarding topic is not lost. It stays there unacked until a
copy of it is published, either for a retry or to its recipient, the remote host
has acked it, or it has been failing for too long. The copies for a retry remember
when the message failed first.
-/

namespace Tassis.Service

open Model

variable {library : Library} {opts : Opts} {state next : State} {view : View}

/-! ## What becomes of a message -/

/-- How the data at one place was made from the data at another. -/
inductive Copies (library : Library) (source : Place) (data : Text) :
    Place → Text → Option Int → Prop where
  /-- The user came back, and gets the message. -/
  | delivered {msg : ForwardedMessage} {outboundMessage : OutboundMessage} {address : Address}
      (index : Nat) (failedAt : Option Int) (decoded : library.unmarshal data = .ok msg)
      (carries : msg.message = some outboundMessage)
      (recipient : outboundMessage.toAddress = some address) :
      Copies library source data ⟨topicForAddr library address, index⟩
        outboundMessage.unidentifiedSenderMessage failedAt
  /-- The message failed, and will be tried again. -/
  | retried {msg : ForwardedMessage} {now : Int} {index : Nat} {copy : Text}
      (decoded : library.unmarshal data = .ok msg) (positive : 0 < now)
      (marked : library.unmarshal copy = .ok (msg.markFailed now))
      (later : source.topic = forwardingRetryTopic → source.index < index) :
      Copies library source data ⟨forwardingRetryTopic, index⟩ copy (some now)
  /-- The recipient moved, and the message follows. -/
  | transferred {address : Address} {index : Nat} {copy : Text} (failedAt : Option Int)
      (recipient : source.topic = topicForAddr library address)
      (wrapped : library.unmarshal copy = .ok ⟨some ⟨some address, data⟩, 0, 0⟩) :
      Copies library source data ⟨forwardingTopic, index⟩ copy failedAt

/-- The history tells the truth about a message. -/
def Truthful (library : Library) (opts : Opts) (state : State) (source : Place) : Fate → Prop
  | .copied place failedAt =>
      ∃ data acked copy acked', state.topics.posting source = some ⟨data, acked⟩ ∧
        state.topics.posting place = some ⟨copy, acked'⟩ ∧
        Copies library source data place copy failedAt
  | .ackedRemotely => True
  | .discarded failedAt clock =>
      ∃ data acked msg, state.topics.posting source = some ⟨data, acked⟩ ∧
        library.unmarshal data = .ok msg ∧
        opts.forwardingTimeout < clock - (msg.markFailed failedAt).firstFailed * nanosPerMilli

/-- What a goroutine that passes messages on knows about the message it is
handling. -/
structure Tracked (library : Library) (opts : Opts) (state : State) (kind : Kind)
    (view : View) : Prop where
  failed : ∀ now, view.failedAt = some now → 0 < now
  handedOn : ∀ brokerMsg, view.settlement = .handedOn → view.delivery = some brokerMsg →
    ∃ fate, (brokerMsg.place, fate) ∈ state.history ∧ (kind = .transferring →
      ∃ index failedAt, fate = .copied ⟨forwardingTopic, index⟩ failedAt)
  expired : ∀ brokerMsg firstFailed, view.settlement = .expired firstFailed →
    view.delivery = some brokerMsg → ∃ now msg, view.failedAt = some now ∧
      library.unmarshal brokerMsg.data = .ok msg ∧
      firstFailed = (msg.markFailed now).firstFailed ∧
      opts.forwardingTimeout < state.clock - firstFailed * nanosPerMilli

/-- What holds of the forwarding topics in every state that a service can reach. -/
structure Conserves (library : Library) (opts : Opts) (state : State) : Prop where
  /-- Messages on the forwarding topic have not failed yet. -/
  fresh : ∀ index posting, state.topics.posting ⟨forwardingTopic, index⟩ = some posting →
    ∃ outboundMessage, library.unmarshal posting.data = .ok ⟨some outboundMessage, 0, 0⟩
  retried : ∀ index posting, state.topics.posting ⟨forwardingRetryTopic, index⟩ = some posting →
    ∃ msg, library.unmarshal posting.data = .ok msg
  truthful : ∀ source fate, (source, fate) ∈ state.history → Truthful library opts state source fate
  /-- What is acked has a reason. -/
  acked : ∀ place data, IsForwarding place.topic →
    state.topics.posting place = some ⟨data, true⟩ → ∃ fate, (place, fate) ∈ state.history
  tracked : ∀ goroutine thread, state.threads goroutine = some thread →
    goroutine.kind.relays = true → Tracked library opts state goroutine.kind thread.view

/-! ## Growth -/

theorem Truthful.mono {source : Place} {fate : Fate}
    (truthful : Truthful library opts state source fate) (grows : state.Extends next) :
    Truthful library opts next source fate := by
  cases fate with
  | copied place failedAt =>
      rcases truthful with ⟨data, acked, copy, acked', present, present', copies⟩
      rcases grows.topics _ _ present with ⟨later, present⟩
      rcases grows.topics _ _ present' with ⟨later', present'⟩
      exact ⟨data, later, copy, later', present, present', copies⟩
  | ackedRemotely => trivial
  | discarded failedAt clock =>
      rcases truthful with ⟨data, acked, msg, present, decoded, expired⟩
      rcases grows.topics _ _ present with ⟨later, present⟩
      exact ⟨data, later, msg, present, decoded, expired⟩

theorem Tracked.mono {kind : Kind} (tracked : Tracked library opts state kind view)
    (grows : state.Extends next) : Tracked library opts next kind view where
  failed := tracked.failed
  handedOn brokerMsg settled handling := by
    rcases tracked.handedOn brokerMsg settled handling with ⟨fate, member, transferred⟩
    exact ⟨fate, grows.history _ member, transferred⟩
  expired brokerMsg firstFailed settled handling := by
    rcases tracked.expired brokerMsg firstFailed settled handling with
      ⟨now, msg, failed, decoded, first, expired⟩
    have later : (state.clock : Int) ≤ next.clock := Int.ofNat_le.mpr grows.clock
    exact ⟨now, msg, failed, decoded, first, by omega⟩

theorem Tracked.of_pending {kind : Kind} (pending : view.settlement = .pending)
    (failed : ∀ now, view.failedAt = some now → 0 < now) :
    Tracked library opts state kind view where
  failed := failed
  handedOn brokerMsg settled := by cases pending.symm.trans settled
  expired brokerMsg firstFailed settled := by cases pending.symm.trans settled

theorem Tracked.initial (kind : Kind) (nonce : Text) :
    Tracked library opts state kind (.initial nonce) := by
  apply Tracked.of_pending rfl
  intro now failed
  cases failed

/-! ## What is published on the forwarding topics -/

section Publishing

variable {kind : Kind} {publisher : Publisher} {data : Text}

theorem View.fresh_of_allows
    (allowed : view.Allows library opts kind (.publish publisher data))
    (onTopic : publisher.topic = forwardingTopic) :
    ∃ outboundMessage, library.unmarshal data = .ok ⟨some outboundMessage, 0, 0⟩ := by
  cases kind with
  | outbound =>
      rcases allowed with ⟨_, _, outboundMessage, address, _, _, ⟨device, _⟩ | ⟨_, marshalled⟩⟩
      · exact absurd (Or.inl (device.symm.trans onTopic))
          (not_isForwarding_topicForAddr library address)
      · exact ⟨outboundMessage, library.unmarshal_of_marshal marshalled⟩
  | forwarding =>
      rcases allowed with ⟨_, _, _, _, ⟨_, address, _, _, device, _⟩ | ⟨retry, _⟩⟩
      · exact absurd (Or.inl (device.symm.trans onTopic))
          (not_isForwarding_topicForAddr library address)
      · exact absurd (onTopic.symm.trans retry) forwardingTopic_ne_forwardingRetryTopic
  | transferring =>
      rcases allowed with ⟨_, _, address, _, _, marshalled⟩
      exact ⟨_, library.unmarshal_of_marshal marshalled⟩
  | _ => exact allowed.elim

theorem View.retried_of_allows
    (allowed : view.Allows library opts kind (.publish publisher data))
    (onTopic : publisher.topic = forwardingRetryTopic) :
    ∃ msg, library.unmarshal data = .ok msg := by
  cases kind with
  | outbound =>
      rcases allowed with ⟨_, _, _, address, _, _, ⟨device, _⟩ | ⟨fresh, _⟩⟩
      · exact absurd (Or.inr (device.symm.trans onTopic))
          (not_isForwarding_topicForAddr library address)
      · exact absurd (fresh.symm.trans onTopic) forwardingTopic_ne_forwardingRetryTopic
  | forwarding =>
      rcases allowed with ⟨_, _, _, _, ⟨_, address, _, _, device, _⟩ | ⟨_, _, _, marshalled⟩⟩
      · exact absurd (Or.inr (device.symm.trans onTopic))
          (not_isForwarding_topicForAddr library address)
      · exact ⟨_, library.unmarshal_of_marshal marshalled⟩
  | transferring =>
      exact absurd (allowed.1.symm.trans onTopic) forwardingTopic_ne_forwardingRetryTopic
  | _ => exact allowed.elim

end Publishing

/-! ## The step of a goroutine -/

section Performing

variable {goroutine : Goroutine} {operation : Operation} {reply : Reply operation}
  {rest : Reply operation → Task Unit} {rounds : Nat}
  (sound : Sound library opts state) (conserves : Conserves library opts state)
  (present : state.threads goroutine = some ⟨.call operation rest, view⟩)
  (possible : state.MayReply goroutine operation reply)

/-- The entry that a step adds to the history. -/
theorem History.after_cases {history : History} {kind : Kind} {topics : Topics} {clock : Nat}
    {source : Place} {fate : Fate}
    (member : (source, fate) ∈ history.after kind view topics clock operation reply) :
    (source, fate) ∈ history ∨ ∃ brokerMsg, kind.relays = true ∧
      view.delivery = some brokerMsg ∧ source = brokerMsg.place ∧
      fateOf view topics clock operation reply = some fate := by
  unfold History.after at member
  split at member
  · rename_i brokerMsg fate' relays handling added
    rcases List.mem_cons.mp member with equal | member
    · cases equal
      exact Or.inr ⟨brokerMsg, relays, handling, rfl, added⟩
    · exact Or.inl member
  · exact Or.inl member

theorem History.mem_after_of_fateOf {history : History} {kind : Kind} {topics : Topics}
    {clock : Nat} {brokerMsg : BrokerMessage} {fate : Fate} (relays : kind.relays = true)
    (handling : view.delivery = some brokerMsg)
    (added : fateOf view topics clock operation reply = some fate) :
    (brokerMsg.place, fate) ∈ history.after kind view topics clock operation reply := by
  simp [History.after, relays, handling, added]

include sound conserves present possible in
/-- A goroutine that passes messages on keeps track of the message it is handling. -/
theorem tracked_self (relays : goroutine.kind.relays = true) :
    Tracked library opts
      (state.after library opts goroutine view (rest reply) rounds operation reply)
      goroutine.kind (view.next opts operation reply) := by
  have sane := sound.threads _ _ present
  have allowed := sane.allowed
  have expects := sound.expects sane possible
  have grows : state.Extends
      (state.after library opts goroutine view (rest reply) rounds operation reply) :=
    extends_after sound present
  have tracked := (conserves.tracked _ _ present relays).mono grows
  cases operation <;> try exact ⟨tracked.failed, tracked.handedOn, tracked.expired⟩
  case nextMessage =>
      cases reply <;> exact ⟨tracked.failed, tracked.handedOn, tracked.expired⟩
  case findAcker sequence =>
      cases kind : goroutine.kind <;> rw [kind] at relays allowed <;>
        first | exact allowed.elim | cases relays
  case nextDelivery subscriber =>
      cases reply with
      | none => exact ⟨tracked.failed, tracked.handedOn, tracked.expired⟩
      | some brokerMsg =>
          apply Tracked.of_pending rfl
          intro now failed
          cases failed
  case publish publisher data =>
      cases reply with
      | some err => exact ⟨tracked.failed, tracked.handedOn, tracked.expired⟩
      | none =>
          refine ⟨tracked.failed, ?_, ?_⟩
          · intro brokerMsg _ handling
            refine ⟨_, History.mem_after_of_fateOf relays handling rfl, ?_⟩
            intro transferring
            rw [transferring] at allowed
            exact ⟨_, _, by rw [allowed.1]⟩
          · intro brokerMsg firstFailed settled
            cases settled
  case nowUnixMillis =>
      apply Tracked.of_pending rfl
      intro now failed
      cases failed
      exact expects
  case durationSince millis =>
      have elapsed : reply = (state.clock : Int) - millis * nanosPerMilli := by
        simpa [State.mayReply] using possible.1
      cases kind : goroutine.kind <;> rw [kind] at relays allowed tracked <;>
        first | exact allowed.elim | cases relays
      by_cases late : view.failedAt.isSome ∧ opts.forwardingTimeout < reply
      · refine ⟨tracked.failed, ?_, ?_⟩
        · intro brokerMsg settled
          simp only [View.next, if_pos late] at settled
          cases settled
        · intro brokerMsg firstFailed settled handling
          simp only [View.next, if_pos late] at settled
          cases settled
          rcases Option.isSome_iff_exists.mp late.1 with ⟨now, failed⟩
          rcases allowed now failed with ⟨brokerMsg', msg, handling', decoded, first⟩
          cases handling.symm.trans handling'
          refine ⟨now, msg, failed, decoded, first, ?_⟩
          rw [elapsed] at late
          exact late.2
      · have unchanged : (view.next opts (.durationSince millis) reply).settlement =
            view.settlement := by
          simp only [View.next, if_neg late]
        refine ⟨tracked.failed, ?_, ?_⟩
        · intro brokerMsg settled
          exact tracked.handedOn brokerMsg (unchanged.symm.trans settled)
        · intro brokerMsg firstFailed settled
          exact tracked.expired brokerMsg firstFailed (unchanged.symm.trans settled)

include sound conserves present in
/-- What a goroutine publishes is made from the message it is handling. -/
theorem copies_of_allows {publisher : Publisher} {data : Text} {brokerMsg : BrokerMessage}
    (relays : goroutine.kind.relays = true) (handling : view.delivery = some brokerMsg)
    (allowed : view.Allows library opts goroutine.kind (.publish publisher data)) :
    Copies library brokerMsg.place brokerMsg.data
      ⟨publisher.topic, (state.topics publisher.topic).length⟩ data view.failedAt := by
  have tracked := conserves.tracked _ _ present relays
  cases kind : goroutine.kind <;> rw [kind] at relays allowed <;> cases relays
  · rcases allowed with ⟨brokerMsg', msg, handling', decoded,
      ⟨outboundMessage, address, carries, recipient, device, rfl⟩ |
      ⟨retry, now, failed, marshalled⟩⟩
    · cases handling.symm.trans handling'
      rw [device]
      exact .delivered _ _ decoded carries recipient
    · cases handling.symm.trans handling'
      rw [retry, failed]
      refine .retried decoded (tracked.failed now failed)
        (library.unmarshal_of_marshal marshalled) ?_
      intro onRetry
      rcases (sound.threads _ _ present).posting handling with ⟨acked, posted⟩
      have inside := (List.getElem?_eq_some_iff.mp posted).1
      rw [onRetry] at inside
      exact inside
  · rcases allowed with ⟨fresh, brokerMsg', address, handling', onTopic, marshalled⟩
    cases handling.symm.trans handling'
    rw [fresh]
    exact .transferred _ onTopic (library.unmarshal_of_marshal marshalled)

include sound conserves present in
theorem truthful_after {source : Place} {fate : Fate}
    (member : (source, fate) ∈ (state.after library opts goroutine view (rest reply) rounds
      operation reply).history) :
    Truthful library opts
      (state.after library opts goroutine view (rest reply) rounds operation reply)
      source fate := by
  have grows : state.Extends
      (state.after library opts goroutine view (rest reply) rounds operation reply) :=
    extends_after sound present
  rcases History.after_cases member with before | ⟨brokerMsg, relays, handling, rfl, added⟩
  · exact (conserves.truthful source fate before).mono grows
  · have allowed := (sound.threads _ _ present).allowed
    rcases (sound.threads _ _ present).posting handling with ⟨acked, posted⟩
    rcases grows.topics _ _ posted with ⟨acked', posted'⟩
    unfold fateOf at added
    split at added
    · cases added
      refine ⟨_, acked', _, false, posted', ?_,
        copies_of_allows sound conserves present relays handling allowed⟩
      exact (state.topics.posting_publish _ _ _).trans (if_pos rfl)
    · split at added
      · rename_i firstFailed failedAt settled failed
        cases added
        have tracked := conserves.tracked _ _ present relays
        rcases tracked.expired brokerMsg firstFailed settled handling with
          ⟨now, msg, failed', decoded, rfl, expired⟩
        cases failed.symm.trans failed'
        exact ⟨_, acked', msg, posted', decoded, expired⟩
      · cases added
    · cases added

include conserves in
/-- What is on the forwarding topics can be decoded. -/
theorem Conserves.decoded {place : Place} {posting : Posting}
    (onTopic : IsForwarding place.topic) (posted : state.topics.posting place = some posting) :
    ∃ msg, library.unmarshal posting.data = .ok msg := by
  rcases place with ⟨topic, index⟩
  rcases onTopic with rfl | rfl
  · rcases conserves.fresh index posting posted with ⟨_, decoded⟩
    exact ⟨_, decoded⟩
  · exact conserves.retried index posting posted

include sound conserves present in
/-- A message on the forwarding topics is acked only by a goroutine that forwards
it, and only for a reason. -/
theorem fate_of_ack {brokerMsg : BrokerMessage} (acks : operation = .ack brokerMsg)
    (succeeds : HEq reply (none : Option Failure))
    (onTopic : IsForwarding brokerMsg.topic) :
    ∃ fate, (brokerMsg.place, fate) ∈
      state.history.after goroutine.kind view state.topics state.clock operation reply := by
  have sane := sound.threads _ _ present
  have allowed := sane.allowed
  have tracked := conserves.tracked _ _ present
  subst acks
  cases succeeds
  have notDevice : ¬∃ address, brokerMsg.topic = topicForAddr library address := by
    rintro ⟨address, device⟩
    exact not_isForwarding_topicForAddr library address (device ▸ onTopic)
  cases kind : goroutine.kind <;> rw [kind] at allowed tracked <;> try exact allowed.elim
  case outbound =>
      have received := (sane.delivered brokerMsg allowed).2
      rw [kind] at received
      exact absurd received notDevice
  case transferring =>
      have received := (sane.delivered brokerMsg allowed.1).2
      rw [kind] at received
      exact absurd received notDevice
  case forwarding =>
      rcases allowed with ⟨handling, undecoded⟩
      cases settled : view.settlement with
      | pending =>
          rcases undecoded settled with ⟨err, failed⟩
          rcases (sound.threads _ _ present).posting handling with ⟨acked, posted⟩
          rcases conserves.decoded onTopic posted with ⟨msg, decoded⟩
          cases failed.symm.trans decoded
      | handedOn =>
          rcases (tracked rfl).handedOn brokerMsg settled handling with ⟨fate, member, _⟩
          exact ⟨fate, History.mem_after member⟩
      | expired firstFailed =>
          rcases (tracked rfl).expired brokerMsg firstFailed settled handling with
            ⟨now, _, failed, _⟩
          refine ⟨.discarded now state.clock, History.mem_after_of_fateOf rfl handling ?_⟩
          dsimp only at failed
          simp [fateOf, settled, failed]

include sound conserves present possible in
theorem Conserves.after :
    Conserves library opts
      (state.after library opts goroutine view (rest reply) rounds operation reply) := by
  have grows : state.Extends
      (state.after library opts goroutine view (rest reply) rounds operation reply) :=
    extends_after sound present
  have allowed := (sound.threads _ _ present).allowed
  refine ⟨?_, ?_, fun _ _ => truthful_after sound conserves present, ?_, ?_⟩
  · intro index posting posted
    cases state.topics.postingStep_of_after posted with
    | kept posted => exact conserves.fresh index posting posted
    | published last =>
        exact View.fresh_of_allows allowed (congrArg Place.topic last).symm
    | acked same before =>
        have decoded := conserves.fresh index _ before
        exact decoded
  · intro index posting posted
    cases state.topics.postingStep_of_after posted with
    | kept posted => exact conserves.retried index posting posted
    | published last =>
        exact View.retried_of_allows allowed (congrArg Place.topic last).symm
    | acked same before =>
        have decoded := conserves.retried index _ before
        exact decoded
  · intro place data onTopic posted
    cases state.topics.postingStep_of_after posted with
    | kept posted =>
        rcases conserves.acked place data onTopic posted with ⟨fate, member⟩
        exact ⟨fate, grows.history _ member⟩
    | acked same posted =>
        subst same
        exact fate_of_ack sound conserves present rfl HEq.rfl onTopic
  · intro goroutine' thread present' relays
    rcases State.threadsAfter_cases present' with
      ⟨rfl, rfl⟩ | ⟨different, present'⟩ | ⟨routine, starts, rfl, rfl⟩
    · exact tracked_self sound conserves present possible relays
    · exact (conserves.tracked _ _ present' relays).mono grows
    · exact .initial _ _

end Performing

/-! ## Runs -/

/-- Nothing changes for the messages in the topics. -/
theorem Conserves.mono (conserves : Conserves library opts state) (grows : state.Extends next)
    (sameTopics : next.topics = state.topics) (sameHistory : next.history = state.history)
    (sameThreads : ∀ goroutine thread, next.threads goroutine = some thread →
      goroutine.kind.relays = true → state.threads goroutine = some thread) :
    Conserves library opts next where
  fresh := sameTopics ▸ conserves.fresh
  retried := sameTopics ▸ conserves.retried
  truthful source fate member :=
    (conserves.truthful source fate (sameHistory ▸ member)).mono grows
  acked := sameTopics ▸ sameHistory ▸ conserves.acked
  tracked goroutine thread present relays :=
    (conserves.tracked goroutine thread (sameThreads goroutine thread present relays) relays).mono
      grows

theorem Conserves.triggerCallbackFor (conserves : Conserves library opts state)
    {sequence : Nat} {forwardingErr : Option Failure}
    (taken : triggerCallbackFor library opts state sequence forwardingErr = some next) :
    Conserves library opts next := by
  have grows := extends_triggerCallbackFor taken
  rcases Option.map_eq_some_iff.mp taken with ⟨callback, waits, rfl⟩
  refine ⟨conserves.fresh, conserves.retried, ?_, ?_, ?_⟩
  · intro source fate member
    have cases : (source, fate) ∈ state.history ∨ fate = .ackedRemotely := by
      dsimp only at member
      split at member
      · rcases List.mem_cons.mp member with equal | member
        · cases equal
          exact Or.inr rfl
        · exact Or.inl member
      · exact Or.inl member
    rcases cases with member | rfl
    · exact (conserves.truthful source fate member).mono grows
    · trivial
  · intro place data onTopic posted
    rcases conserves.acked place data onTopic posted with ⟨fate, member⟩
    exact ⟨fate, grows.history _ member⟩
  · intro goroutine thread present relays
    simp only [Function.update_apply] at present
    split at present
    · cases present
      refine ⟨?_, ?_, ?_⟩
      · intro now failed
        cases failed
      · rintro brokerMsg settled ⟨⟩
        cases forwardingErr with
        | some err => cases settled
        | none =>
            refine ⟨.ackedRemotely, List.mem_cons_self, ?_⟩
            rename_i same
            subst same
            intro transferring
            cases transferring
      · intro brokerMsg firstFailed settled
        cases forwardingErr <;> cases settled
    · exact (conserves.tracked goroutine thread present relays).mono grows

theorem Conserves.step (sound : Sound library opts state)
    (conserves : Conserves library opts state) {action : Action}
    (taken : step library opts state action = some next) : Conserves library opts next := by
  have grows := sound.extends taken
  cases stepCase_of_step taken with
  | connected =>
      apply conserves.mono grows rfl rfl
      intro goroutine thread present relays
      rcases of_update_some present with ⟨rfl, _⟩ | ⟨_, present⟩
      · cases relays
      · rcases of_update_some present with ⟨rfl, _⟩ | ⟨_, present⟩
        · cases relays
        · exact present
  | sent | closed | ticked =>
      exact conserves.mono grows rfl rfl fun _ _ present _ => present
  | performed reply rounds present possible => exact conserves.after sound present possible
  | finished => exact conserves.triggerCallbackFor taken

theorem Conserves.initial : Conserves library opts (.initial opts) where
  fresh _ _ posted := by cases posted
  retried _ _ posted := by cases posted
  truthful _ _ member := by cases member
  acked _ _ _ posted := by cases posted
  tracked goroutine thread present relays := by
    cases (State.threads_initial present).1
    cases relays

theorem Conserves.of_reaches (reaches : Reaches library opts state) :
    Conserves library opts state := by
  apply Transition.Run.preserves reaches Conserves.initial
  intro current action next reached conserves _ taken
  exact conserves.step (Sound.of_reaches reached) taken

/-! ## Chains of copies -/

/-- The copies of a message that were published for a retry, each with the times
at which the message failed until then. -/
inductive Descends (history : History) (root : Place) : Place → List Int → Prop where
  | root : Descends history root root []
  | retried {place : Place} {failures : List Int} {index : Nat} {now : Int}
      (descends : Descends history root place failures)
      (copied : (place, .copied ⟨forwardingRetryTopic, index⟩ (some now)) ∈ history) :
      Descends history root ⟨forwardingRetryTopic, index⟩ (failures ++ [now])

/-- A message at this place is accounted for, after these failures. The first of
the failures is what the message remembers. -/
inductive Accounted (library : Library) (opts : Opts) (state : State)
    (outboundMessage : OutboundMessage) (place : Place) (failures : List Int) : Prop where
  | unacked {data : Text} {lastFailed : Int}
      (posted : state.topics.posting place = some ⟨data, false⟩)
      (decoded : library.unmarshal data =
        .ok ⟨some outboundMessage, failures.head?.getD 0, lastFailed⟩)
  | publishedLocally {address : Address} {index : Nat} {failedAt : Option Int} {acked : Bool}
      (recipient : outboundMessage.toAddress = some address)
      (copied : (place, .copied ⟨topicForAddr library address, index⟩ failedAt) ∈ state.history)
      (posted : state.topics.posting ⟨topicForAddr library address, index⟩ =
        some ⟨outboundMessage.unidentifiedSenderMessage, acked⟩)
  | ackedRemotely (acked : (place, .ackedRemotely) ∈ state.history)
  | discarded {failedAt : Int} {clock : Nat}
      (discarded : (place, .discarded failedAt clock) ∈ state.history)
      (expired : opts.forwardingTimeout <
        clock - (failures ++ [failedAt]).head?.getD 0 * nanosPerMilli)

/-- The message at this place of the forwarding topic, or a copy of it, is
accounted for. -/
def Conserved (library : Library) (opts : Opts) (state : State) (index : Nat) : Prop :=
  ∃ data acked outboundMessage place failures,
    state.topics.posting ⟨forwardingTopic, index⟩ = some ⟨data, acked⟩ ∧
    library.unmarshal data = .ok ⟨some outboundMessage, 0, 0⟩ ∧
    Descends state.history ⟨forwardingTopic, index⟩ place failures ∧
    Accounted library opts state outboundMessage place failures

/-- A copy carries the original message and the time of its first failure. -/
structure Carries (library : Library) (state : State) (outboundMessage : OutboundMessage)
    (place : Place) (failures : List Int) : Prop where
  onTopic : IsForwarding place.topic
  positive : ∀ failure, failure ∈ failures → 0 < failure
  decoded : ∃ data acked lastFailed, state.topics.posting place = some ⟨data, acked⟩ ∧
    library.unmarshal data = .ok ⟨some outboundMessage, failures.head?.getD 0, lastFailed⟩

/-- The first failure is not forgotten when there is another. -/
theorem markFailed_head (outboundMessage : OutboundMessage) {failures : List Int}
    (positive : ∀ failure, failure ∈ failures → 0 < failure) (lastFailed now : Int) :
    ForwardedMessage.markFailed ⟨some outboundMessage, failures.head?.getD 0, lastFailed⟩ now =
      ⟨some outboundMessage, (failures ++ [now]).head?.getD 0, now⟩ := by
  cases failures with
  | nil => simp [ForwardedMessage.markFailed]
  | cons first rest =>
      have started : first ≠ 0 := (positive first (by simp)).ne'
      simp [ForwardedMessage.markFailed, started]

theorem Copies.retried_of_topic {source place : Place} {data copy : Text}
    {failedAt : Option Int} (copies : Copies library source data place copy failedAt)
    (onTopic : place.topic = forwardingRetryTopic) :
    ∃ msg now, failedAt = some now ∧ 0 < now ∧ library.unmarshal data = .ok msg ∧
      library.unmarshal copy = .ok (msg.markFailed now) ∧
      (source.topic = forwardingRetryTopic → source.index < place.index) := by
  cases copies with
  | delivered index failedAt decoded carries recipient =>
      exact absurd (Or.inr onTopic) (not_isForwarding_topicForAddr library _)
  | retried decoded positive marked later => exact ⟨_, _, rfl, positive, decoded, marked, later⟩
  | transferred failedAt recipient wrapped =>
      exact absurd onTopic forwardingTopic_ne_forwardingRetryTopic

theorem Copies.wrapped_of_topic {source place : Place} {data copy : Text}
    {failedAt : Option Int} (copies : Copies library source data place copy failedAt)
    (onTopic : place.topic = forwardingTopic) :
    ∃ address, source.topic = topicForAddr library address ∧
      library.unmarshal copy = .ok ⟨some ⟨some address, data⟩, 0, 0⟩ := by
  cases copies with
  | delivered index failedAt decoded carries recipient =>
      exact absurd (Or.inl onTopic) (not_isForwarding_topicForAddr library _)
  | retried decoded positive marked later =>
      exact absurd onTopic.symm forwardingTopic_ne_forwardingRetryTopic
  | transferred failedAt recipient wrapped => exact ⟨_, recipient, wrapped⟩

theorem Descends.carries (conserves : Conserves library opts state) {root place : Place}
    {outboundMessage : OutboundMessage} {failures : List Int}
    (original : Carries library state outboundMessage root [])
    (descends : Descends state.history root place failures) :
    Carries library state outboundMessage place failures := by
  induction descends with
  | root => exact original
  | @retried place failures index now _ copied carries =>
      rcases conserves.truthful _ _ copied with
        ⟨data, acked, copy, acked', posted, posted', copies⟩
      rcases copies.retried_of_topic rfl with ⟨msg, now', equal, positive, decoded, marked, _⟩
      cases equal
      rcases carries.decoded with ⟨data', acked'', lastFailed, posted'', decoded'⟩
      cases posted.symm.trans posted''
      cases decoded.symm.trans decoded'
      rw [markFailed_head outboundMessage carries.positive] at marked
      refine ⟨Or.inr rfl, ?_, copy, acked', now, posted', marked⟩
      intro failure member
      rcases List.mem_append.mp member with member | member
      · exact carries.positive failure member
      · cases List.mem_singleton.mp member
        exact positive

/-- How many copies there can still be after the one at this place. -/
def State.remaining (state : State) (place : Place) : Nat :=
  if place.topic = forwardingRetryTopic then
    (state.topics forwardingRetryTopic).length - place.index
  else (state.topics forwardingRetryTopic).length + 1

theorem State.remaining_copy {place : Place} {index : Nat} {posting : Posting}
    (later : place.topic = forwardingRetryTopic → place.index < index)
    (posted : state.topics.posting ⟨forwardingRetryTopic, index⟩ = some posting) :
    state.remaining ⟨forwardingRetryTopic, index⟩ < state.remaining place := by
  have inside : index < (state.topics forwardingRetryTopic).length :=
    (List.getElem?_eq_some_iff.mp posted).1
  simp only [remaining, if_true]
  split
  · rename_i onRetry
    have := later onRetry
    omega
  · omega

/-- Following the copies, one comes to a place where the message is accounted
for. The retry topic bounds the number of copies. -/
theorem accounted_of_descends (conserves : Conserves library opts state) {root : Place}
    {outboundMessage : OutboundMessage}
    (original : Carries library state outboundMessage root []) (bound : Nat) (place : Place)
    (failures : List Int) (descends : Descends state.history root place failures)
    (bounded : state.remaining place < bound) :
    ∃ place failures, Descends state.history root place failures ∧
      Accounted library opts state outboundMessage place failures := by
  induction bound generalizing place failures with
  | zero => omega
  | succ bound induction =>
      have carries := descends.carries conserves original
      rcases carries.decoded with ⟨data, acked, lastFailed, posted, decoded⟩
      cases acked with
      | false => exact ⟨place, failures, descends, .unacked posted decoded⟩
      | true =>
          rcases conserves.acked place data carries.onTopic posted with ⟨fate, member⟩
          have truthful := conserves.truthful place fate member
          cases fate with
          | ackedRemotely => exact ⟨place, failures, descends, .ackedRemotely member⟩
          | discarded failedAt clock =>
              rcases truthful with ⟨data', acked', msg, posted', decoded', expired⟩
              cases posted.symm.trans posted'
              cases decoded.symm.trans decoded'
              rw [markFailed_head outboundMessage carries.positive] at expired
              exact ⟨place, failures, descends, .discarded member expired⟩
          | copied target failedAt =>
              rcases truthful with ⟨data', acked', copy, acked'', posted', posted'', copies⟩
              cases posted.symm.trans posted'
              cases copies with
              | delivered index failedAt decoded' carried recipient =>
                  cases decoded.symm.trans decoded'
                  cases carried
                  exact ⟨place, failures, descends, .publishedLocally recipient member posted''⟩
              | retried decoded' positive marked later =>
                  exact induction _ _ (descends.retried member)
                    (by have := state.remaining_copy later posted''; omega)
              | transferred failedAt recipient wrapped =>
                  exact absurd (recipient ▸ carries.onTopic)
                    (not_isForwarding_topicForAddr library _)

theorem Conserves.conserved (conserves : Conserves library opts state) {index : Nat}
    (placed : index < (state.topics forwardingTopic).length) :
    Conserved library opts state index := by
  have posted : state.topics.posting ⟨forwardingTopic, index⟩ =
      some (state.topics forwardingTopic)[index] := List.getElem?_eq_getElem placed
  rcases conserves.fresh index _ posted with ⟨outboundMessage, decoded⟩
  have original : Carries library state outboundMessage ⟨forwardingTopic, index⟩ [] :=
    ⟨Or.inl rfl, by simp, _, _, 0, posted, decoded⟩
  rcases accounted_of_descends conserves original _ _ _ .root (Nat.lt_succ_self _) with
    ⟨place, failures, descends, accounted⟩
  exact ⟨_, _, outboundMessage, place, failures, posted, decoded, descends, accounted⟩

/-- What a transfer acks is on the forwarding topic. -/
theorem Conserves.transferred (conserves : Conserves library opts state)
    (sound : Sound library opts state) {goroutine : Goroutine} {brokerMsg : BrokerMessage}
    (transferring : goroutine.kind = .transferring)
    (performs : state.Performs goroutine (.ack brokerMsg)) :
    ∃ address index data acked failedAt, brokerMsg.topic = topicForAddr library address ∧
      (brokerMsg.place, .copied ⟨forwardingTopic, index⟩ failedAt) ∈ state.history ∧
      state.topics.posting ⟨forwardingTopic, index⟩ = some ⟨data, acked⟩ ∧
      library.unmarshal data = .ok ⟨some ⟨some address, brokerMsg.data⟩, 0, 0⟩ := by
  rcases performs.thread with ⟨rest, view, present⟩
  have sane := sound.threads _ _ present
  have allowed := sane.allowed
  rw [transferring] at allowed
  rcases allowed with ⟨handling, settled⟩
  have tracked := conserves.tracked _ _ present (by rw [transferring]; rfl)
  rcases tracked.handedOn brokerMsg settled handling with ⟨fate, member, isCopy⟩
  rcases isCopy transferring with ⟨index, failedAt, rfl⟩
  rcases conserves.truthful _ _ member with ⟨data, acked, copy, acked', posted, posted', copies⟩
  rcases (sound.threads _ _ present).posting handling with ⟨acked'', posted''⟩
  cases posted.symm.trans posted''
  rcases copies.wrapped_of_topic rfl with ⟨address, recipient, wrapped⟩
  exact ⟨address, index, copy, acked', failedAt, recipient, member, posted', wrapped⟩

/-- In every run, every message that was placed on the forwarding topic, or a
copy of it, is unacked there or on the retry topic, published to its recipient,
acked by the remote host, or discarded after the timeout. A transfer acks a
message once it is on the forwarding topic, and a failed publication changes
nothing. -/
theorem forwarded_messages_are_conserved (reaches : Reaches library opts state) :
    (∀ index, index < (state.topics forwardingTopic).length →
      Conserved library opts state index) ∧
      (∀ goroutine brokerMsg, goroutine.kind = .transferring →
        state.Performs goroutine (.ack brokerMsg) →
          ∃ address index data acked failedAt, brokerMsg.topic = topicForAddr library address ∧
            (brokerMsg.place, .copied ⟨forwardingTopic, index⟩ failedAt) ∈ state.history ∧
            state.topics.posting ⟨forwardingTopic, index⟩ = some ⟨data, acked⟩ ∧
            library.unmarshal data = .ok ⟨some ⟨some address, brokerMsg.data⟩, 0, 0⟩) ∧
      (∀ goroutine publisher data err rounds next,
        step library opts state (.perform goroutine (.publish publisher data) (some err) rounds) =
          some next → next.topics = state.topics ∧ next.history = state.history) := by
  have sound := Sound.of_reaches reaches
  have conserves := Conserves.of_reaches reaches
  refine ⟨fun _ placed => conserves.conserved placed,
    fun _ _ transferring performs => conserves.transferred sound transferring performs, ?_⟩
  intro goroutine publisher data err rounds next taken
  rcases performNext_cases taken with ⟨rest, view, _, _, rfl⟩
  refine ⟨rfl, ?_⟩
  unfold State.after History.after
  dsimp only
  split
  · rename_i added
    cases added
  · rfl

/-- A client sends a message to another host, and a goroutine fails to find the
host and publishes the message for a retry. -/
def failedForward (outboundMessage : OutboundMessage) : List Action :=
  let data := forwardedCodec.encode ⟨some outboundMessage, 0, 0⟩
  let failed := forwardedCodec.encode ⟨some outboundMessage, 1, 1⟩
  let brokerMsg : BrokerMessage := ⟨forwardingTopic, 0, data⟩
  forwardingTrace ++ [.connect 1 [] 1, .send 1 ⟨1, some (.outboundMessage outboundMessage)⟩] ++
    publishTrace 1 outboundMessage "other".toList forwardingTopic data ++
    [.perform firstForwardLoop (.nextDelivery ⟨forwardingTopic⟩) (some brokerMsg) 0,
      .perform firstForwardLoop (.find outboundMessage.toAddress) (.error (.other [])) 0,
      .perform firstForwardLoop .nowUnixMillis 1 0,
      .perform firstForwardLoop (.durationSince 1) 0 0,
      .perform firstForwardLoop (.publish ⟨forwardingRetryTopic⟩ failed) none 0,
      .perform firstForwardLoop (.ack brokerMsg) none 0]

theorem failed_message_is_conserved :
    let outboundMessage : OutboundMessage :=
      ⟨some ⟨"key".toList, "device".toList⟩, "payload".toList⟩
    let data := forwardedCodec.encode ⟨some outboundMessage, 0, 0⟩
    ∃ state, Reaches plainLibrary plainOpts state ∧
      state.topics.posting ⟨forwardingTopic, 0⟩ = some ⟨data, true⟩ ∧
      Conserved plainLibrary plainOpts state 0 := by
  intro outboundMessage data
  have run : ∃ state, Reaches plainLibrary plainOpts state ∧
      state.topics.posting ⟨forwardingTopic, 0⟩ = some ⟨data, true⟩ :=
    Transition.Run.exists_of_execute (failedForward outboundMessage) (by decide +kernel)
  rcases run with ⟨state, reaches, posted⟩
  exact ⟨state, reaches, posted, (forwarded_messages_are_conserved reaches).1 0
    (List.getElem?_eq_some_iff.mp posted).1⟩

end Tassis.Service
