import Tassis.Foundation.Precedence
import Tassis.Service.Movements
import Tassis.Service.Receipts

/-! # Messages that are handed over

A service keeps a message that it forwards until the next host has acked it, and the
next host acks it only after it has published the message in one of its topics. So a
message that was acked to the client who has sent it is not lost on its way through the
network.
-/

namespace Tassis.Service

open Model
open Tassis.Forwarder (responseOf)

namespace Network

variable {library : Library} {opts : Text → Opts} {network next : Network}

/-! ## Where messages are -/

/-- The data at this place is the message, in the topic of its recipient or wrapped for
another host. -/
def Bears (library : Library) (outboundMessage : OutboundMessage) (place : Place)
    (data : Text) : Prop :=
  (∃ address, outboundMessage.toAddress = some address ∧
      place.topic = topicForAddr library address ∧
      data = outboundMessage.unidentifiedSenderMessage) ∨
    IsForwarding place.topic ∧ ∃ firstFailed lastFailed,
      library.unmarshal data = .ok ⟨some outboundMessage, firstFailed, lastFailed⟩

theorem Bears.of_goesTo {msg : Message} {outboundMessage : OutboundMessage} {place : Place}
    {data : Text} (payload : msg.payload = some (.outboundMessage outboundMessage))
    (goesTo : GoesTo library msg place.topic data) : Bears library outboundMessage place data := by
  rcases goesTo with ⟨outboundMessage', address, sends, going⟩
  cases payload.symm.trans sends.1
  rcases going with ⟨toDevice, same⟩ | ⟨toHost, marshalled⟩
  · exact Or.inl ⟨address, sends.2, toDevice, same⟩
  · exact Or.inr ⟨Or.inl toHost, 0, 0, library.unmarshal_of_marshal marshalled⟩

/-- The message is at a place of a host. -/
def Posted (library : Library) (network : Network) (outboundMessage : OutboundMessage)
    (host : Text) (place : Place) : Prop :=
  ∃ data acked, (network.services host).topics.posting place = some ⟨data, acked⟩ ∧
    Bears library outboundMessage place data

/-- The target has the message that the source has sent with this number, and got it
later. -/
def Handed (library : Library) (network : Network) (source target : Text) (msg : Message) :
    Prop :=
  ∃ outboundMessage place, msg.payload = some (.outboundMessage outboundMessage) ∧
    Posted library network outboundMessage target place ∧
    ∀ callback, network.issued source msg.sequence = some callback →
      Precedes network.born (source, callback.brokerMsg.place) (target, place)

/-- Another host has the message from this place, and got it later. -/
def Remote (library : Library) (network : Network) (host : Text) (source : Place) : Prop :=
  ∃ outboundMessage target place, IsForwarding source.topic ∧
    Posted library network outboundMessage host source ∧
    Posted library network outboundMessage target place ∧
    Precedes network.born (host, source) (target, place)

/-- What is kept along every run of a network. -/
structure Grows (network next : Network) : Prop where
  services : ∀ host, (network.services host).Extends (next.services host)
  born : ∃ added, next.born = network.born ++ added
  issued : ∀ host sequence callback, network.issued host sequence = some callback →
    next.issued host sequence = some callback

theorem Grows.posted (grows : network.Grows next) {outboundMessage : OutboundMessage}
    {host : Text} {place : Place} (posted : Posted library network outboundMessage host place) :
    Posted library next outboundMessage host place := by
  rcases posted with ⟨data, acked, posted, bears⟩
  rcases (grows.services host).topics place _ posted with ⟨acked, posted⟩
  exact ⟨data, acked, posted, bears⟩

theorem Grows.precedes (grows : network.Grows next) {earlier later : Text × Place}
    (precedes : Precedes network.born earlier later) : Precedes next.born earlier later := by
  rcases grows.born with ⟨added, equal⟩
  rw [equal]
  exact precedes.append added

theorem Grows.handed (grows : network.Grows next) {source target : Text} {msg : Message}
    {callback : Callback} (issued : network.issued source msg.sequence = some callback)
    (handed : Handed library network source target msg) :
    Handed library next source target msg := by
  rcases handed with ⟨outboundMessage, place, payload, posted, later⟩
  refine ⟨outboundMessage, place, payload, grows.posted posted, ?_⟩
  intro callback' found
  cases (grows.issued _ _ _ issued).symm.trans found
  exact grows.precedes (later callback issued)

theorem Grows.remote (grows : network.Grows next) {host : Text} {source : Place}
    (remote : Remote library network host source) : Remote library next host source := by
  rcases remote with ⟨outboundMessage, target, place, onTopic, here, there, later⟩
  exact ⟨outboundMessage, target, place, onTopic, grows.posted here, grows.posted there,
    grows.precedes later⟩

/-! ## What holds of the services -/

structure Grounded (library : Library) (opts : Text → Opts) (network : Network) : Prop where
  reaches : ∀ host, Service.Reaches library (opts host) (network.services host)
  numbered : ∀ host, ∃ drafts, Numbered (network.issued host) drafts (network.services host)
  waiting : ∀ host sequence callback, network.issued host sequence = some callback →
    Waiting library (network.services host) callback
  born : ∀ host place, (host, place) ∈ network.born ↔
    (network.services host).topics.posting place ≠ none
  nodup : network.born.Nodup
  copied : ∀ host source place failedAt,
    (source, .copied place failedAt) ∈ (network.services host).history →
    Precedes network.born (host, source) (host, place)
  remote : ∀ host source, (source, .ackedRemotely) ∈ (network.services host).history →
    Remote library network host source
  acked : ∀ host place data, ¬IsForwarding place.topic →
    (network.services host).topics.posting place = some ⟨data, true⟩ →
    (∃ number, (host, number, place) ∈ network.received) ∨
      ∃ index failedAt, (place, .copied ⟨forwardingTopic, index⟩ failedAt) ∈
        (network.services host).history
  received : ∀ host number place, (host, number, place) ∈ network.received →
    ∃ connection address, (network.services host).connections number = some connection ∧
      connection.ActsFor address ∧ place.topic = topicForAddr library address

theorem Grounded.initial : Grounded library opts (initial opts) where
  reaches _ := .refl _
  numbered host := ⟨fun _ => .blank, Numbered.initial (opts host)⟩
  waiting _ _ _ found := by cases found
  born _ _ := ⟨nofun, fun posted => absurd rfl posted⟩
  nodup := List.nodup_nil
  copied _ _ _ _ member := by cases member
  remote _ _ member := by cases member
  acked _ _ _ _ posted := by cases posted
  received _ _ _ member := by cases member

section Moving

variable {host : Text} {action : Service.Action} {state : State}

theorem moved_services_self : (network.moved host action state).services host = state :=
  Function.update_self ..

theorem moved_services_of_ne {other : Text} (different : other ≠ host) :
    (network.moved host action state).services other = network.services other :=
  Function.update_of_ne different _ _

theorem moved_issued_self :
    (network.moved host action state).issued host = issuedAfter (network.issued host) action :=
  Function.update_self ..

theorem moved_issued_of_ne {other : Text} (different : other ≠ host) :
    (network.moved host action state).issued other = network.issued other :=
  Function.update_of_ne different _ _

variable (grounded : Grounded library opts network)
  (noWrap : Service.NoWrap (network.services host) action)
  (taken : Service.step library (opts host) (network.services host) action = some state)

include grounded taken

theorem Grounded.reaches_moved (other : Text) :
    Service.Reaches library (opts other) ((network.moved host action state).services other) := by
  by_cases same : other = host
  · subst same
    rw [moved_services_self]
    exact (grounded.reaches other).tail trivial taken
  · rw [moved_services_of_ne same]
    exact grounded.reaches other

/-- A callback that was stored under a number stays the only one. -/
theorem Grounded.issued_moved {other : Text} {sequence : Nat} {callback : Callback}
    (found : network.issued other sequence = some callback) :
    (network.moved host action state).issued other sequence = some callback := by
  by_cases same : other = host
  · subst same
    rw [moved_issued_self]
    rcases grounded.numbered other with ⟨drafts, numbered⟩
    exact numbered.issued_of_step (Sound.of_reaches (grounded.reaches other)) taken found
  · rw [moved_issued_of_ne same]
    exact found

theorem Grounded.grows : network.Grows (network.moved host action state) where
  services other := by
    by_cases same : other = host
    · subst same
      rw [moved_services_self]
      exact (Sound.of_reaches (grounded.reaches other)).extends taken
    · rw [moved_services_of_ne same]
      exact State.Extends.refl _
  born := ⟨_, rfl⟩
  issued _ _ _ := grounded.issued_moved taken

include noWrap in
theorem Grounded.numbered_moved (other : Text) :
    ∃ drafts, Numbered ((network.moved host action state).issued other) drafts
      ((network.moved host action state).services other) := by
  by_cases same : other = host
  · subst same
    rw [moved_services_self, moved_issued_self]
    rcases grounded.numbered other with ⟨drafts, numbered⟩
    exact ⟨_, numbered.step (Sound.of_reaches (grounded.reaches other)) noWrap taken⟩
  · rw [moved_services_of_ne same, moved_issued_of_ne same]
    exact grounded.numbered other

theorem Grounded.waiting_moved (other : Text) (sequence : Nat) (callback : Callback)
    (found : (network.moved host action state).issued other sequence = some callback) :
    Waiting library ((network.moved host action state).services other) callback := by
  have grown := (grounded.grows taken).services other
  by_cases same : other = host
  · subst same
    have sound := Sound.of_reaches (grounded.reaches_moved taken other)
    have old (before : network.issued other sequence = some callback) :=
      (grounded.waiting other sequence callback before).mono grown
    rw [moved_issued_self] at found
    cases action <;> try exact old found
    case perform goroutine operation reply rounds =>
        cases operation <;> try exact old found
        case storeCallback sequence' callback' =>
            rcases of_update_some found with ⟨rfl, rfl⟩ | ⟨_, found⟩
            · apply sound.callbacks sequence
              rw [moved_services_self]
              rcases performNext_cases taken with ⟨rest, view, _, _, rfl⟩
              exact Function.update_self ..
            · exact old found
  · rw [moved_issued_of_ne same] at found
    exact (grounded.waiting other sequence callback found).mono grown

theorem Grounded.born_moved (other : Text) (place : Place) :
    (other, place) ∈ (network.moved host action state).born ↔
      ((network.moved host action state).services other).topics.posting place ≠ none := by
  have added : (other, place) ∈ (network.moved host action state).born ↔
      (other, place) ∈ network.born ∨
        place ∈ placesOf (network.services host).topics action ∧ other = host := by
    simp [moved, eq_comm]
  rw [added, grounded.born]
  by_cases same : other = host
  · subst same
    rw [moved_services_self, posting_iff_of_step taken]
    simp
  · rw [moved_services_of_ne same]
    simp [same]

theorem Grounded.nodup_moved : (network.moved host action state).born.Nodup := by
  have fresh : placesOf (network.services host).topics action = [] ∨
      ∃ place, placesOf (network.services host).topics action = [place] ∧
        (network.services host).topics.posting place = none := by
    unfold placesOf
    split
    · exact Or.inr ⟨_, rfl, Topics.not_posting_length _ _⟩
    · exact Or.inl rfl
  rcases fresh with none | ⟨place, one, unused⟩
  · simpa [moved, none] using grounded.nodup
  · have new : (host, place) ∉ network.born := fun member =>
      (grounded.born host place).mp member unused
    simpa [moved, one, List.nodup_append] using ⟨grounded.nodup, fun host' place' member => by
      rintro rfl rfl
      exact new member⟩

theorem Grounded.copied_moved (other : Text) (source place : Place) (failedAt : Option Int)
    (member : (source, .copied place failedAt) ∈
      ((network.moved host action state).services other).history) :
    Precedes (network.moved host action state).born (other, source) (other, place) := by
  have grows := grounded.grows taken
  by_cases same : other = host
  · subst same
    rw [moved_services_self] at member
    rcases copied_of_step taken (Sound.of_reaches (grounded.reaches other)) member with
      before | ⟨posted, published⟩
    · exact grows.precedes (grounded.copied other source place failedAt before)
    · have last := precedes_last ((grounded.born other source).mpr posted) (other, place)
      simpa [moved, published] using last
  · rw [moved_services_of_ne same] at member
    exact grows.precedes (grounded.copied other source place failedAt member)

theorem Grounded.acked_moved (other : Text) (place : Place) (data : Text)
    (ofDevice : ¬IsForwarding place.topic)
    (posted : ((network.moved host action state).services other).topics.posting place =
      some ⟨data, true⟩) :
    (∃ number, (other, number, place) ∈ (network.moved host action state).received) ∨
      ∃ index failedAt, (place, .copied ⟨forwardingTopic, index⟩ failedAt) ∈
        ((network.moved host action state).services other).history := by
  have grows := (grounded.grows taken).services other
  have old (before : (network.services other).topics.posting place = some ⟨data, true⟩) :
      (∃ number, (other, number, place) ∈ (network.moved host action state).received) ∨
        ∃ index failedAt, (place, .copied ⟨forwardingTopic, index⟩ failedAt) ∈
          ((network.moved host action state).services other).history := by
    rcases grounded.acked other place data ofDevice before with
      ⟨number, member⟩ | ⟨index, failedAt, member⟩
    · exact Or.inl ⟨number, List.mem_append_right _ member⟩
    · exact Or.inr ⟨index, failedAt, grows.history _ member⟩
  by_cases same : other = host
  · subst same
    rw [moved_services_self] at posted
    rcases acked_of_step taken (grounded.reaches other) ofDevice posted with
      before | ⟨number, member⟩ | ⟨index, failedAt, member⟩
    · exact old before
    · refine Or.inl ⟨number, List.mem_append_left _ ?_⟩
      exact List.mem_map_of_mem member
    · exact Or.inr ⟨index, failedAt, grows.history _ member⟩
  · rw [moved_services_of_ne same] at posted
    exact old posted

theorem Grounded.received_moved (other : Text) (number : Nat) (place : Place)
    (member : (other, number, place) ∈ (network.moved host action state).received) :
    ∃ connection address,
      ((network.moved host action state).services other).connections number = some connection ∧
        connection.ActsFor address ∧ place.topic = topicForAddr library address := by
  rcases List.mem_append.mp member with member | member
  · rcases List.mem_map.mp member with ⟨_, receipt, equal⟩
    cases equal
    rw [moved_services_self]
    exact owns_of_receipt (grounded.reaches host) taken receipt
  · rcases grounded.received other number place member with
      ⟨connection, address, stored, actsFor, onTopic⟩
    rcases ((grounded.grows taken).services other).connections _ _ stored with
      ⟨later, kept, extended⟩
    exact ⟨later, address, kept, extended.actsFor actsFor, onTopic⟩

include noWrap in
/-- A step of a service, after which what was acked remotely is elsewhere. -/
theorem Grounded.moved
    (remote : ∀ source, (source, .ackedRemotely) ∈ state.history →
      (source, .ackedRemotely) ∈ (network.services host).history ∨
        Remote library network host source) :
    Grounded library opts (network.moved host action state) where
  reaches := grounded.reaches_moved taken
  numbered := grounded.numbered_moved noWrap taken
  waiting := grounded.waiting_moved taken
  born := grounded.born_moved taken
  nodup := grounded.nodup_moved taken
  copied := grounded.copied_moved taken
  remote other source member := by
    have grows := grounded.grows taken
    by_cases same : other = host
    · subst same
      rw [moved_services_self] at member
      rcases remote source member with before | there
      · exact grows.remote (grounded.remote other source before)
      · exact grows.remote there
    · rw [moved_services_of_ne same] at member
      exact grows.remote (grounded.remote other source member)
  acked := grounded.acked_moved taken
  received := grounded.received_moved taken

end Moving

theorem Grounded.setConn (grounded : Grounded library opts network) (source target : Text)
    (number : Nat) : Grounded library opts (network.setConn source target number) :=
  { grounded with }

theorem Grounded.setLink (grounded : Grounded library opts network) (target : Text)
    (number : Nat) (link : Link) : Grounded library opts (network.setLink target number link) :=
  { grounded with }

/-! ## What holds of the links -/

/-- What has arrived over a link was sent by its source, and what was acked on it is
handed over. -/
structure Linked (library : Library) (network : Network) (target : Text) (number : Nat)
    (link : Link) : Prop where
  within : link.relayed ≤ ((network.services link.source).wireTo target).length
  arrived : ∃ connection, (network.services target).connections number = some connection ∧
    connection.out = ((network.services link.source).wireTo target).take link.relayed
  vouched : ∃ log, Tallied library number
    (fun msg _ => Handed library network link.source target msg) log (network.services target)

section Linking

variable {target : Text} {number : Nat} {link : Link} {connection : Connection} {msg : Message}

theorem Linked.wire (linked : Linked library network target number link)
    (stored : (network.services target).connections number = some connection)
    (received : msg ∈ connection.processed) :
    (target, msg) ∈ (network.services link.source).forwarder.wire := by
  rcases linked.arrived with ⟨connection', stored', out⟩
  cases stored.symm.trans stored'
  have sent := List.mem_of_mem_take received
  rw [out] at sent
  rcases List.mem_map.mp (List.mem_of_mem_take sent) with ⟨⟨tassisHost, msg'⟩, member, rfl⟩
  rcases List.mem_filter.mp member with ⟨member, same⟩
  have same : tassisHost = target := by simpa using same
  exact same ▸ member

/-- What is received over a link is the message of a callback of its source. -/
theorem Linked.issued (linked : Linked library network target number link)
    (grounded : Grounded library opts network)
    (stored : (network.services target).connections number = some connection)
    (received : msg ∈ connection.processed) :
    ∃ callback outboundMessage,
      network.issued link.source msg.sequence = some callback ∧
      callback.msg.message = some outboundMessage ∧
      msg.payload = some (.outboundMessage outboundMessage) := by
  rcases grounded.numbered link.source with ⟨drafts, numbered⟩
  exact numbered.wire target msg (linked.wire stored received)

variable {host : Text} {action : Service.Action} {state : State}

/-- What the target publishes for a message that it has received is handed over. -/
theorem Linked.handed_of_publish (linked : Linked library network host number link)
    (grounded : Grounded library opts network)
    (taken : Service.step library (opts host) (network.services host) action = some state)
    (stored : (network.services host).connections number = some connection)
    (received : msg ∈ connection.processed) {publisher : Publisher} {data : Text} {rounds : Nat}
    (publishes : action = .perform (.outbound number) (.publish publisher data) none rounds)
    (goesTo : GoesTo library msg publisher.topic data) :
    Handed library (network.moved host action state) link.source host msg := by
  rcases linked.issued grounded stored received with
    ⟨callback, outboundMessage, issued, _, payload⟩
  let place : Place := ⟨publisher.topic, ((network.services host).topics publisher.topic).length⟩
  have posted : state.topics.posting place = some ⟨data, false⟩ := by
    subst publishes
    rcases performNext_cases taken with ⟨rest, view, _, _, rfl⟩
    exact (Topics.posting_publish _ _ _ _).trans (if_pos rfl)
  refine ⟨outboundMessage, place, payload, ⟨data, false, ?_, .of_goesTo payload goesTo⟩, ?_⟩
  · rw [moved_services_self]
    exact posted
  · intro callback' found
    cases (grounded.issued_moved taken issued).symm.trans found
    have waiting := grounded.waiting _ _ _ issued
    have there : (link.source, callback.brokerMsg.place) ∈ network.born := by
      rw [grounded.born]
      rcases Option.map_eq_some_iff.mp waiting.holds with ⟨posting, posted, _⟩
      exact posted ▸ Option.some_ne_none _
    subst publishes
    exact precedes_last there (host, place)

theorem Linked.vouched_moved (linked : Linked library network target number link)
    (grounded : Grounded library opts network)
    (taken : Service.step library (opts host) (network.services host) action = some state) :
    ∃ log, Tallied library number
      (fun msg _ => Handed library (network.moved host action state) link.source target msg)
      log ((network.moved host action state).services target) := by
  rcases linked.vouched with ⟨log, vouched⟩
  have kept (connection : Connection) (msg : Message) (_ : Exchange)
      (stored : (network.services target).connections number = some connection)
      (received : msg ∈ connection.processed)
      (handed : Handed library network link.source target msg) :
      Handed library (network.moved host action state) link.source target msg := by
    rcases linked.issued grounded stored received with ⟨callback, _, issued, _⟩
    exact (grounded.grows taken).handed issued handed
  by_cases same : target = host
  · subst same
    rw [moved_services_self]
    refine ⟨_, vouched.step (grounded.reaches target) taken kept ?_⟩
    intro connection operation reply rounds msg stored performs received fulfils
    rcases linked.issued grounded stored received with ⟨_, _, _, _, payload⟩
    rcases fulfils.publishes payload with ⟨publisher, data, published, goesTo⟩
    cases published
    exact linked.handed_of_publish grounded taken stored received performs goesTo
  · rw [moved_services_of_ne same]
    exact ⟨log, vouched.mono kept⟩

theorem wireTo_moved
    (taken : Service.step library (opts host) (network.services host) action = some state)
    (source target : Text) :
    ∃ added, ((network.moved host action state).services source).wireTo target =
      (network.services source).wireTo target ++ added := by
  by_cases same : source = host
  · subst same
    rcases wire_of_step taken with ⟨added, grown⟩
    rw [moved_services_self, State.wireTo, Forwarder.wireTo, grown, List.filter_append,
      List.map_append]
    exact ⟨_, rfl⟩
  · rw [moved_services_of_ne same]
    exact ⟨[], (List.append_nil _).symm⟩

theorem Linked.moved (linked : Linked library network target number link)
    (grounded : Grounded library opts network)
    (taken : Service.step library (opts host) (network.services host) action = some state)
    (silent : target = host → ∀ msg, action ≠ .send number msg) :
    Linked library (network.moved host action state) target number link := by
  rcases wireTo_moved taken link.source target with ⟨added, grown⟩
  rcases linked.arrived with ⟨connection, stored, out⟩
  refine ⟨?_, ?_, linked.vouched_moved grounded taken⟩
  · rw [grown, List.length_append]
    exact linked.within.trans (Nat.le_add_right _ _)
  · rw [grown, List.take_append_of_le_length linked.within]
    by_cases same : target = host
    · subst same
      rw [moved_services_self]
      have sound := Sound.of_reaches (grounded.reaches target)
      rcases (sound.extends taken).connections _ _ stored with ⟨later, kept, _⟩
      exact ⟨later, kept, (out_of_step taken stored kept (silent rfl)).trans out⟩
    · rw [moved_services_of_ne same]
      exact ⟨connection, stored, out⟩

end Linking

/-! ## Runs -/

structure Coherent (library : Library) (opts : Text → Opts) (network : Network) : Prop where
  grounded : Grounded library opts network
  linked : ∀ target number link, network.links target number = some link →
    Linked library network target number link

section Running

variable {source target : Text} {number : Nat} {link : Link}

theorem setLink_cases {target' : Text} {number' : Nat} {link' : Link}
    (found : (network.setLink target number link).links target' number' = some link') :
    target' = target ∧ number' = number ∧ link' = link ∨
      (target' = target → number' ≠ number) ∧ network.links target' number' = some link' := by
  simp only [setLink, Function.update_apply] at found
  split at found
  · rename_i same
    subst same
    rcases of_update_some found with ⟨sameNumber, sameLink⟩ | ⟨different, found⟩
    · exact Or.inl ⟨rfl, sameNumber, sameLink⟩
    · exact Or.inr ⟨fun _ => different, found⟩
  · rename_i different
    exact Or.inr ⟨fun same => absurd same different, found⟩

/-- What a forwarder is told to be acked is at the host that it was sent to. -/
theorem Coherent.remote_of_ack (coherent : Coherent library opts network)
    (linked : network.links target number = some link) {connection : Connection}
    {msg : Message} (stored : (network.services target).connections number = some connection)
    (found : msg ∈ connection.inbox) (response : responseOf msg = some none)
    {callback : Callback}
    (waits : (network.services link.source).forwarder.callbacks msg.sequence = some callback) :
    Remote library network link.source callback.brokerMsg.place := by
  have grounded := coherent.grounded
  have onLink := coherent.linked target number link linked
  have isAck : IsAck msg := Tassis.Forwarder.payload_of_response_ack response
  have acked : msg.sequence ∈ connection.acks :=
    List.mem_map_of_mem (List.mem_filter.mpr ⟨found, decide_eq_true isAck⟩)
  rcases onLink.vouched with ⟨log, vouched⟩
  rcases vouched.of_ack stored acked with ⟨sent, _, received, same, _, handed⟩
  rcases grounded.numbered link.source with ⟨drafts, numbered⟩
  have issued := numbered.callbacks _ _ waits
  rcases onLink.issued grounded stored received with
    ⟨callback', outboundMessage, issued', carries, payload⟩
  rw [same] at issued'
  cases issued.symm.trans issued'
  rcases handed with ⟨outboundMessage', place, payload', posted, later⟩
  cases payload.symm.trans payload'
  have waiting := grounded.waiting _ _ _ issued
  rcases Option.map_eq_some_iff.mp waiting.holds with ⟨⟨data, acked⟩, here, sameData⟩
  have decoded := waiting.decoded
  refine ⟨outboundMessage, target, place, waiting.onTopic, ⟨data, acked, here, ?_⟩, posted,
    later callback (same ▸ issued)⟩
  refine Or.inr ⟨waiting.onTopic, callback.msg.firstFailed, callback.msg.lastFailed, ?_⟩
  dsimp only at sameData
  rw [sameData, decoded, ← carries]

variable {host : Text} {action : Service.Action} {state : State}

variable (coherent : Coherent library opts network)

include coherent

/-- A step of a service that is no response. -/
theorem Coherent.grounded_moved (noWrap : Service.NoWrap (network.services host) action)
    (taken : Service.step library (opts host) (network.services host) action = some state)
    (other : ∀ sequence forwardingErr, action ≠ .finishForward sequence forwardingErr) :
    Grounded library opts (network.moved host action state) := by
  apply coherent.grounded.moved noWrap taken
  intro source member
  rcases remote_of_step taken member with before | ⟨sequence, _, finishes, _⟩
  · exact Or.inl before
  · exact absurd finishes (other sequence none)

theorem Coherent.acted (may : network.mayAct host action = true)
    (noWrap : Service.NoWrap (network.services host) action)
    (taken : Service.step library (opts host) (network.services host) action = some state) :
    Coherent library opts (network.moved host action state) := by
  constructor
  · apply coherent.grounded_moved noWrap taken
    rintro sequence forwardingErr rfl
    cases may
  · intro target number link found
    apply (coherent.linked target number link found).moved coherent.grounded taken
    rintro rfl msg rfl
    have unlinked : network.links target number = none := by simpa [mayAct] using may
    cases unlinked.symm.trans found

theorem Coherent.dialled {nonce : Text} {rounds : Nat}
    (taken : Service.step library (opts target) (network.services target)
      (.connect number nonce rounds) = some state) (source : Text) :
    Coherent library opts
      (((network.moved target (.connect number nonce rounds) state).setConn source target
        number).setLink target number ⟨source, 0, 0⟩) := by
  have noWrap : Service.NoWrap (network.services target) (.connect number nonce rounds) := trivial
  constructor
  · exact ((coherent.grounded_moved noWrap taken fun _ _ => nofun).setConn _ _ _).setLink _ _ _
  · intro target' number' link' found
    rcases setLink_cases found with ⟨rfl, rfl, rfl⟩ | ⟨_, found⟩
    · rcases loop_of_connect taken with ⟨unused, opened, _⟩
      have nobody : Tallied library number' (fun _ _ => False) [] (network.services target') :=
        .unconnected unused rfl
      have new : Linked library (network.moved target' (.connect number' nonce rounds) state)
          target' number' ⟨source, 0, 0⟩ := by
        refine ⟨Nat.zero_le _, ⟨.initial nonce, ?_, rfl⟩, ?_⟩ <;> rw [moved_services_self]
        · exact opened
        · refine ⟨_, nobody.step (coherent.grounded.reaches target') taken
            (fun _ _ _ _ _ => False.elim) ?_⟩
          intro connection operation reply rounds msg _ performs
          cases performs
      exact { new with }
    · exact { (coherent.linked target' number' link' found).moved coherent.grounded taken
        (fun _ _ => nofun) with }

theorem Coherent.relayed (linked : network.links target number = some link) {msg : Message}
    (sent : ((network.services link.source).wireTo target)[link.relayed]? = some msg)
    (taken : Service.step library (opts target) (network.services target) (.send number msg) =
      some state) :
    Coherent library opts ((network.moved target (.send number msg) state).setLink target number
      { link with relayed := link.relayed + 1 }) := by
  have noWrap : Service.NoWrap (network.services target) (.send number msg) := trivial
  have before := coherent.linked target number link linked
  constructor
  · exact (coherent.grounded_moved noWrap taken fun _ _ => nofun).setLink _ _ _
  · intro target' number' link' found
    rcases setLink_cases found with ⟨rfl, rfl, rfl⟩ | ⟨different, found⟩
    · rcases wireTo_moved taken link.source target' with ⟨added, grown⟩
      rcases before.arrived with ⟨connection, stored, out⟩
      have arrived := Nat.succ_le_of_lt (List.getElem?_eq_some_iff.mp sent).1
      have further : Linked library (network.moved target' (.send number' msg) state) target'
          number' { link with relayed := link.relayed + 1 } := by
        refine ⟨?_, ⟨{ connection with out := connection.out ++ [msg] }, ?_, ?_⟩,
          before.vouched_moved coherent.grounded taken⟩
        · rw [grown, List.length_append]
          exact Nat.le_add_right_of_le arrived
        · rw [moved_services_self]
          rcases Option.map_eq_some_iff.mp taken with ⟨connection', stored', rfl⟩
          cases stored.symm.trans stored'
          exact Function.update_self ..
        · rw [grown, List.take_append_of_le_length arrived, List.take_add_one, sent, ← out]
          rfl
      exact { further with }
    · refine { (coherent.linked target' number' link' found).moved coherent.grounded taken ?_
        with }
      rintro same msg' ⟨⟩
      exact different same rfl

theorem Coherent.finished
    (linked : network.links target number = some link) {connection : Connection}
    {msg : Message} {forwardingErr : Option Failure}
    (stored : (network.services target).connections number = some connection)
    (found : msg ∈ connection.inbox) (response : responseOf msg = some forwardingErr)
    (taken : Service.step library (opts link.source) (network.services link.source)
      (.finishForward msg.sequence forwardingErr) = some state) :
    Coherent library opts
      ((network.moved link.source (.finishForward msg.sequence forwardingErr) state).setLink
        target number { link with read := link.read + 1 }) := by
  have grounded : Grounded library opts
      (network.moved link.source (.finishForward msg.sequence forwardingErr) state) := by
    have noWrap : Service.NoWrap (network.services link.source)
        (.finishForward msg.sequence forwardingErr) := trivial
    apply coherent.grounded.moved noWrap taken
    intro source member
    rcases remote_of_step taken member with before | ⟨sequence, callback, finishes, waits, rfl⟩
    · exact Or.inl before
    · cases finishes
      exact Or.inr (coherent.remote_of_ack linked stored found response waits)
  refine ⟨grounded.setLink _ _ _, ?_⟩
  intro target' number' link' found
  rcases setLink_cases found with ⟨rfl, rfl, rfl⟩ | ⟨_, found⟩
  · exact { (coherent.linked _ _ _ linked).moved coherent.grounded taken (fun _ _ => nofun) with }
  · exact { (coherent.linked _ _ _ found).moved coherent.grounded taken (fun _ _ => nofun) with }

theorem Coherent.skipped (linked : network.links target number = some link) (read : Nat) :
    Coherent library opts (network.setLink target number { link with read }) := by
  refine ⟨coherent.grounded.setLink _ _ _, ?_⟩
  intro target' number' link' found
  rcases setLink_cases found with ⟨rfl, rfl, rfl⟩ | ⟨_, found⟩
  · exact { coherent.linked _ _ _ linked with }
  · exact { coherent.linked _ _ _ found with }

theorem Coherent.step (effect : network.Effect library opts next) :
    Coherent library opts next := by
  cases effect with
  | acted may noWrap taken => exact coherent.acted may noWrap taken
  | dialled taken => exact coherent.dialled taken _
  | relayed linked sent taken => exact coherent.relayed linked sent taken
  | finished linked stored found response taken =>
      exact coherent.finished linked stored found response taken
  | skipped linked => exact coherent.skipped linked _

omit coherent in
theorem Coherent.of_reaches (reaches : Reaches library opts network) :
    Coherent library opts network := by
  have starts : Coherent library opts (initial opts) :=
    ⟨Grounded.initial, fun _ _ _ found => by cases found⟩
  apply Transition.Run.preserves reaches starts
  intro current action next _ coherent noWrap taken
  exact coherent.step (effect_of_step noWrap taken)

end Running

/-! ## Results -/

/-- What has become of a message that was sent to an address. -/
inductive Kept (library : Library) (opts : Text → Opts) (network : Network)
    (outboundMessage : OutboundMessage) : Prop where
  /-- It is in the topic of its recipient, who has not acked it. -/
  | waiting {host : Text} {address : Address} {index : Nat}
      (recipient : outboundMessage.toAddress = some address)
      (posted : (network.services host).topics.posting ⟨topicForAddr library address, index⟩ =
        some ⟨outboundMessage.unidentifiedSenderMessage, false⟩)
  /-- A client acked it who was logged in as its recipient. -/
  | received {host : Text} {number : Nat} {connection : Connection} {address : Address}
      {index : Nat} (recipient : outboundMessage.toAddress = some address)
      (posted : (network.services host).topics.posting ⟨topicForAddr library address, index⟩ =
        some ⟨outboundMessage.unidentifiedSenderMessage, true⟩)
      (acked : (host, number, ⟨topicForAddr library address, index⟩) ∈ network.received)
      (stored : (network.services host).connections number = some connection)
      (actsFor : connection.ActsFor address)
  /-- A host is still to forward it. -/
  | underWay {host : Text} {place : Place} {data : Text} {firstFailed lastFailed : Int}
      (onTopic : IsForwarding place.topic)
      (posted : (network.services host).topics.posting place = some ⟨data, false⟩)
      (decoded : library.unmarshal data =
        .ok ⟨some outboundMessage, firstFailed, lastFailed⟩)
  /-- A host has discarded it, after it had been failing for longer than the timeout. -/
  | discarded {host : Text} {place : Place} {data : Text}
      {firstFailed lastFailed failedAt : Int} {clock : Nat} (onTopic : IsForwarding place.topic)
      (posted : (network.services host).topics.posting place = some ⟨data, true⟩)
      (decoded : library.unmarshal data =
        .ok ⟨some outboundMessage, firstFailed, lastFailed⟩)
      (discarded : (place, .discarded failedAt clock) ∈ (network.services host).history)
      (expired : (opts host).forwardingTimeout < clock -
        (ForwardedMessage.markFailed ⟨some outboundMessage, firstFailed, lastFailed⟩
          failedAt).firstFailed * nanosPerMilli)

section Results

variable {host : Text} {place : Place} {outboundMessage : OutboundMessage}

/-- A message in the topic of its recipient, where later copies are kept. -/
theorem Grounded.kept_at_device (grounded : Grounded library opts network) {address : Address}
    {acked : Bool} (recipient : outboundMessage.toAddress = some address)
    (onTopic : place.topic = topicForAddr library address)
    (posted : (network.services host).topics.posting place =
      some ⟨outboundMessage.unidentifiedSenderMessage, acked⟩)
    (followed : ∀ place', Precedes network.born (host, place) (host, place') →
      Posted library network outboundMessage host place' →
      Kept library opts network outboundMessage) :
    Kept library opts network outboundMessage := by
  have ofDevice : ¬IsForwarding place.topic :=
    onTopic ▸ not_isForwarding_topicForAddr library address
  have named : place = ⟨topicForAddr library address, place.index⟩ := by rw [← onTopic]
  cases acked with
  | false => exact .waiting recipient (named ▸ posted)
  | true =>
      rcases grounded.acked host place _ ofDevice posted with
        ⟨number, member⟩ | ⟨index, failedAt, member⟩
      · rcases grounded.received host number place member with
          ⟨connection, address', stored, actsFor, onTopic'⟩
        cases topicForAddr_injective library (onTopic.symm.trans onTopic')
        exact .received recipient (named ▸ posted) (named ▸ member) stored actsFor
      · -- The message was transferred, and is on the forwarding topic of this host.
        have conserves := Conserves.of_reaches (grounded.reaches host)
        rcases conserves.truthful _ _ member with
          ⟨data, _, copy, acked, posted', copied, copies⟩
        cases posted.symm.trans posted'
        rcases copies.wrapped_of_topic rfl with ⟨address', onTopic', wrapped⟩
        cases topicForAddr_injective library (onTopic.symm.trans onTopic')
        refine followed _ (grounded.copied host place _ failedAt member)
          ⟨copy, acked, copied, Or.inr ⟨Or.inl rfl, 0, 0, ?_⟩⟩
        rw [wrapped, ← recipient]

/-- A message on a forwarding topic, where later copies are kept. -/
theorem Grounded.kept_at_host (grounded : Grounded library opts network) {data : Text}
    {acked : Bool} {firstFailed lastFailed : Int} (onTopic : IsForwarding place.topic)
    (posted : (network.services host).topics.posting place = some ⟨data, acked⟩)
    (decoded : library.unmarshal data = .ok ⟨some outboundMessage, firstFailed, lastFailed⟩)
    (followed : ∀ host' place', Precedes network.born (host, place) (host', place') →
      Posted library network outboundMessage host' place' →
      Kept library opts network outboundMessage) :
    Kept library opts network outboundMessage := by
  cases acked with
  | false => exact .underWay onTopic posted decoded
  | true =>
      have conserves := Conserves.of_reaches (grounded.reaches host)
      rcases conserves.acked place data onTopic posted with ⟨fate, member⟩
      have truthful := conserves.truthful place fate member
      cases fate with
      | ackedRemotely =>
          rcases grounded.remote host place member with
            ⟨outboundMessage', target, place', _, ⟨data', _, posted', bears⟩, there, later⟩
          cases posted.symm.trans posted'
          rcases bears with ⟨address, _, device, _⟩ | ⟨_, _, _, decoded'⟩
          · exact absurd (device ▸ onTopic) (not_isForwarding_topicForAddr library address)
          · cases decoded.symm.trans decoded'
            exact followed target place' later there
      | discarded failedAt clock =>
          rcases truthful with ⟨data', _, msg, posted', decoded', expired⟩
          cases posted.symm.trans posted'
          cases decoded.symm.trans decoded'
          exact .discarded onTopic posted decoded member expired
      | copied place' failedAt =>
          have later := grounded.copied host place place' failedAt member
          rcases truthful with ⟨data', _, copy, acked, posted', copied, copies⟩
          cases posted.symm.trans posted'
          refine followed host place' later ⟨copy, acked, copied, ?_⟩
          cases copies with
          | delivered index failedAt decoded' carries recipient =>
              cases decoded.symm.trans decoded'
              cases carries
              exact Or.inl ⟨_, recipient, rfl, rfl⟩
          | retried decoded' positive marked _ =>
              cases decoded.symm.trans decoded'
              exact Or.inr ⟨Or.inr rfl, _, _, marked⟩
          | transferred failedAt recipient wrapped =>
              exact absurd (recipient ▸ onTopic) (not_isForwarding_topicForAddr library _)

/-- Following the copies of a message, one comes to a place where it is kept. -/
theorem Grounded.kept (grounded : Grounded library opts network)
    (posted : Posted library network outboundMessage host place) :
    Kept library opts network outboundMessage := by
  have there {host : Text} {place : Place}
      (posted : Posted library network outboundMessage host place) :
      (host, place) ∈ network.born := by
    rcases posted with ⟨data, acked, posted, _⟩
    exact (grounded.born host place).mpr (posted ▸ Option.some_ne_none _)
  refine Precedes.induction (motive := fun event =>
    Posted library network outboundMessage event.1 event.2 →
      Kept library opts network outboundMessage) grounded.nodup ?_ (there posted) posted
  rintro ⟨host, place⟩ _ followed ⟨data, acked, posted, bears⟩
  rcases bears with ⟨address, recipient, onTopic, rfl⟩ | ⟨onTopic, _, _, decoded⟩
  · exact grounded.kept_at_device recipient onTopic posted fun place' => followed (host, place')
  · exact grounded.kept_at_host onTopic posted decoded
      fun host' place' => followed (host', place')

end Results

end Network

end Tassis.Service
