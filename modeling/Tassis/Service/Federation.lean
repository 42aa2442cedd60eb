import Tassis.Service.Soundness

/-! # Federated services

Any number of services, each with its own broker, database and connections. Their
clients are users and the forwarders of the other services. Whatever way a message
takes through the topics of the services, it is delivered to the address that it
was sent to.
-/

namespace Tassis.Service

open Model

variable {library : Library} {opts : Opts} {state next : State} {view : View}
  {outboundMessage : OutboundMessage}

/-! ## Where messages come from -/

/-- A client of the service has sent this. -/
def State.Accepted (state : State) (outboundMessage : OutboundMessage) : Prop :=
  ∃ number connection msg, state.connections number = some connection ∧
    msg ∈ connection.out ∧ msg.payload = some (.outboundMessage outboundMessage)

theorem State.Accepted.mono (accepted : state.Accepted outboundMessage)
    (grows : state.Extends next) : next.Accepted outboundMessage := by
  rcases accepted with ⟨number, connection, msg, stored, member, payload⟩
  rcases grows.connections number connection stored with ⟨connection', stored', grown⟩
  exact ⟨number, connection', msg, stored', grown.out msg member, payload⟩

/-- A service accepts messages only from its clients. -/
theorem State.Accepted.of_step {action : Action}
    (taken : step library opts state action = some next)
    (accepted : next.Accepted outboundMessage) :
    state.Accepted outboundMessage ∨ ∃ number msg, action = .send number msg ∧
      msg.payload = some (.outboundMessage outboundMessage) := by
  rcases accepted with ⟨number, connection, msg, stored, member, payload⟩
  have changed := connectionStep_of_step taken stored
  generalize found : state.connections number = current at changed
  cases changed with
  | connected nonce => cases member
  | kept => exact Or.inl ⟨number, connection, msg, found, member, payload⟩
  | sent connection added sends =>
      rcases List.mem_append.mp member with member | member
      · exact Or.inl ⟨number, connection, msg, found, member, payload⟩
      · cases List.mem_singleton.mp member
        exact Or.inr ⟨number, msg, sends, payload⟩
  | closed connection => exact Or.inl ⟨number, connection, msg, found, member, payload⟩
  | @acted connection goroutine operation rest view reply connected present =>
      have unchanged : (connection.after operation reply).out = connection.out := by
        unfold Connection.after
        split <;> rfl
      exact Or.inl ⟨number, connection, msg, found, unchanged ▸ member, payload⟩

/-- Everything in the service was sent by one of its clients, and is on its way to
the address that the client gave. -/
structure Traced (library : Library) (state : State) : Prop where
  devices : ∀ address index posting,
    state.topics.posting ⟨topicForAddr library address, index⟩ = some posting →
    state.Accepted ⟨some address, posting.data⟩
  forwarded : ∀ place posting msg, IsForwarding place.topic →
    state.topics.posting place = some posting → library.unmarshal posting.data = .ok msg →
    ∃ outboundMessage, msg.message = some outboundMessage ∧ state.Accepted outboundMessage
  wire : ∀ tassisHost msg, (tassisHost, msg) ∈ state.forwarder.wire →
    ∃ outboundMessage, msg.payload = some (.outboundMessage outboundMessage) ∧
      state.Accepted outboundMessage

theorem Connection.mem_out_of_processed {connection : Connection} {msg : Message}
    (member : msg ∈ connection.processed) : msg ∈ connection.out :=
  List.mem_of_mem_take member

/-! ## The step of a goroutine -/

section Performing

variable {goroutine : Goroutine} {operation : Operation} {reply : Reply operation}
  {rest : Reply operation → Task Unit} {rounds : Nat}
  (sound : Sound library opts state) (traced : Traced library state)
  (present : state.threads goroutine = some ⟨.call operation rest, view⟩)

include sound present in
/-- The message that the loop over the messages of a client is handling was sent
by the client. -/
theorem accepted_of_handling {msg : Message} (outbound : goroutine.kind = .outbound)
    (handling : view.message = some msg)
    (payload : msg.payload = some (.outboundMessage outboundMessage)) :
    state.Accepted outboundMessage := by
  have sane := sound.threads _ _ present
  rcases goroutine.eq_outbound outbound with ⟨number, rfl⟩
  rcases sane.mirrors number rfl with ⟨connection, stored, mirrors⟩
  exact ⟨number, connection, msg, stored,
    connection.mem_out_of_processed (mirrors.message msg handling), payload⟩

include sound traced present in
/-- The message that a forwarding goroutine is handling was sent by a client. -/
theorem accepted_of_forwarding {brokerMsg : BrokerMessage} {msg : ForwardedMessage}
    (forwarding : goroutine.kind = .forwarding) (handling : view.delivery = some brokerMsg)
    (decoded : library.unmarshal brokerMsg.data = .ok msg)
    (carries : msg.message = some outboundMessage) : state.Accepted outboundMessage := by
  have sane := sound.threads _ _ present
  have received := (sane.delivered brokerMsg handling).2
  rw [forwarding] at received
  rcases sane.posting handling with ⟨acked, posted⟩
  rcases traced.forwarded brokerMsg.place _ msg received posted decoded with
    ⟨outboundMessage', carries', accepted⟩
  cases carries.symm.trans carries'
  exact accepted

include sound traced present in
/-- What is published on a device topic was sent to that device. -/
theorem accepted_of_publish {publisher : Publisher} {data : Text} {address : Address}
    (publishes : operation = .publish publisher data)
    (onTopic : publisher.topic = topicForAddr library address) :
    state.Accepted ⟨some address, data⟩ := by
  have allowed := (sound.threads _ _ present).allowed
  subst publishes
  have notForwarding := not_isForwarding_topicForAddr library address
  rw [← onTopic] at notForwarding
  cases kind : goroutine.kind <;> rw [kind] at allowed <;> try exact allowed.elim
  case outbound =>
      rcases allowed with ⟨_, msg, ⟨toAddress, payload⟩, address', handling,
        ⟨sends, recipient⟩, ⟨device, same⟩ | ⟨forwarding, _⟩⟩
      · cases topicForAddr_injective library (onTopic.symm.trans device)
        cases recipient
        cases same
        exact accepted_of_handling sound present kind handling sends
      · exact absurd (Or.inl forwarding) notForwarding
  case forwarding =>
      rcases allowed with ⟨brokerMsg, msg, handling, decoded,
        ⟨⟨toAddress, payload⟩, address', carries, recipient, device, same⟩ | ⟨retry, _⟩⟩
      · cases topicForAddr_injective library (onTopic.symm.trans device)
        cases recipient
        cases same
        exact accepted_of_forwarding sound traced present kind handling decoded carries
      · exact absurd (Or.inr retry) notForwarding
  case transferring => exact absurd (Or.inl allowed.1) notForwarding

include sound traced present in
/-- What is published on the forwarding topics was sent by a client. -/
theorem forwarded_of_publish {publisher : Publisher} {data : Text} {msg : ForwardedMessage}
    (publishes : operation = .publish publisher data) (onTopic : IsForwarding publisher.topic)
    (decoded : library.unmarshal data = .ok msg) :
    ∃ outboundMessage, msg.message = some outboundMessage ∧
      state.Accepted outboundMessage := by
  have sane := sound.threads _ _ present
  have allowed := sane.allowed
  subst publishes
  have notDevice : ∀ address, publisher.topic ≠ topicForAddr library address := by
    intro address device
    exact not_isForwarding_topicForAddr library address (device ▸ onTopic)
  cases kind : goroutine.kind <;> rw [kind] at allowed <;> try exact allowed.elim
  case outbound =>
      rcases allowed with ⟨_, _, sent, address, handling, sends, ⟨device, _⟩ | ⟨_, marshalled⟩⟩
      · exact absurd device (notDevice address)
      · cases decoded.symm.trans (library.unmarshal_of_marshal marshalled)
        exact ⟨sent, rfl, accepted_of_handling sound present kind handling sends.1⟩
  case forwarding =>
      rcases allowed with ⟨brokerMsg, original, handling, decoded',
        ⟨_, address, _, _, device, _⟩ | ⟨_, now, _, marshalled⟩⟩
      · exact absurd device (notDevice address)
      · cases decoded.symm.trans (library.unmarshal_of_marshal marshalled)
        have received := (sane.delivered brokerMsg handling).2
        rw [kind] at received
        rcases sane.posting handling with ⟨acked, posted⟩
        exact traced.forwarded brokerMsg.place _ original received posted decoded'
  case transferring =>
      rcases allowed with ⟨_, brokerMsg, address, handling, device, marshalled⟩
      cases decoded.symm.trans (library.unmarshal_of_marshal marshalled)
      rcases sane.posting handling with ⟨acked, posted⟩
      rw [BrokerMessage.place, device] at posted
      exact ⟨_, rfl, traced.devices address _ _ posted⟩

include sound traced present in
theorem wire_after {tassisHost : Text} {msg : Message}
    (member : (tassisHost, msg) ∈ (state.forwarder.after operation reply).wire) :
    ∃ outboundMessage, msg.payload = some (.outboundMessage outboundMessage) ∧
      state.Accepted outboundMessage := by
  have allowed := (sound.threads _ _ present).allowed
  cases operation <;> try exact traced.wire tassisHost msg member
  case sendTo tassisHost' added =>
      rcases List.mem_append.mp member with member | member
      · exact traced.wire tassisHost msg member
      · cases List.mem_singleton.mp member
        cases kind : goroutine.kind <;> rw [kind] at allowed <;> try exact allowed.elim
        rcases allowed with ⟨brokerMsg, forwarded, outboundMessage, handling, decoded, carries,
          payload⟩
        exact ⟨outboundMessage, payload,
          accepted_of_forwarding sound traced present kind handling decoded carries⟩

end Performing

/-! ## Runs of one service -/

/-- Nothing changes for the messages in the topics and on the wire. -/
theorem Traced.of_same {action : Action} (sound : Sound library opts state)
    (traced : Traced library state) (taken : step library opts state action = some next)
    (sameTopics : next.topics = state.topics)
    (sameWire : next.forwarder.wire = state.forwarder.wire) : Traced library next := by
  have grows := sound.extends taken
  refine ⟨?_, ?_, ?_⟩
  · intro address index posting posted
    rw [sameTopics] at posted
    exact (traced.devices address index posting posted).mono grows
  · intro place posting msg onTopic posted decoded
    rw [sameTopics] at posted
    rcases traced.forwarded place posting msg onTopic posted decoded with
      ⟨outboundMessage, carries, accepted⟩
    exact ⟨outboundMessage, carries, accepted.mono grows⟩
  · intro tassisHost msg member
    rw [sameWire] at member
    rcases traced.wire tassisHost msg member with ⟨outboundMessage, payload, accepted⟩
    exact ⟨outboundMessage, payload, accepted.mono grows⟩

theorem Traced.after (sound : Sound library opts state) (traced : Traced library state)
    {goroutine : Goroutine} {operation : Operation} {reply : Reply operation} {rounds : Nat}
    (taken : step library opts state (.perform goroutine operation reply rounds) = some next) :
    Traced library next := by
  have grows := sound.extends taken
  rcases performNext_cases taken with ⟨rest, view, present, _, rfl⟩
  refine ⟨?_, ?_, ?_⟩
  · intro address index posting posted
    have accepted : state.Accepted ⟨some address, posting.data⟩ := by
      cases state.topics.postingStep_of_after posted with
      | kept before => exact traced.devices address index _ before
      | published last =>
          exact accepted_of_publish sound traced present rfl (congrArg Place.topic last).symm
      | acked same before =>
          have accepted := traced.devices address index _ before
          exact accepted
    exact accepted.mono grows
  · intro place posting msg onTopic posted decoded
    have forwarded : ∃ outboundMessage, msg.message = some outboundMessage ∧
        state.Accepted outboundMessage := by
      cases state.topics.postingStep_of_after posted with
      | kept before => exact traced.forwarded place _ msg onTopic before decoded
      | published last =>
          subst last
          exact forwarded_of_publish sound traced present rfl onTopic decoded
      | acked same before =>
          have forwarded := traced.forwarded place _ msg onTopic before decoded
          exact forwarded
    rcases forwarded with ⟨outboundMessage, carries, accepted⟩
    exact ⟨outboundMessage, carries, accepted.mono grows⟩
  · intro tassisHost msg member
    rcases wire_after sound traced present member with ⟨outboundMessage, payload, accepted⟩
    exact ⟨outboundMessage, payload, accepted.mono grows⟩

theorem Traced.step (sound : Sound library opts state) (traced : Traced library state)
    {action : Action} (taken : step library opts state action = some next) :
    Traced library next := by
  cases stepCase_of_step taken with
  | performed => exact traced.after sound taken
  | _ => exact traced.of_same sound taken rfl rfl

theorem Traced.initial : Traced library (.initial opts) where
  devices _ _ _ posted := by cases posted
  forwarded _ _ _ _ posted := by cases posted
  wire _ _ member := by cases member

theorem Traced.of_reaches (reaches : Reaches library opts state) : Traced library state := by
  apply Transition.Run.preserves reaches Traced.initial
  intro current action next reached traced _ taken
  exact traced.step (Sound.of_reaches reached) taken

/-! ## The federation -/

/-- All services by their hosts, and what users have sent through any of them. -/
structure Federation where
  services : Text → State
  sent : List OutboundMessage

namespace Federation

inductive Action where
  /-- A service takes a step in which it receives nothing from a client. -/
  | act (host : Text) (action : Service.Action)
  /-- A user sends a message. -/
  | send (host : Text) (connection : Nat) (msg : Message)
  /-- A message that the forwarder of a service has sent comes to a service. -/
  | relay (source host : Text) (connection index : Nat)

/-- What the message asks to be sent. -/
def outboundMessages (msg : Message) : List OutboundMessage :=
  match msg.payload with
  | some (.outboundMessage outboundMessage) => [outboundMessage]
  | _ => []

variable (library : Library) (opts : Text → Opts)

def initial : Federation := ⟨fun host => .initial (opts host), []⟩

/-- A step of one of the services. -/
def act (federation : Federation) (host : Text) (action : Service.Action) : Option Federation :=
  (Service.step library (opts host) (federation.services host) action).map fun next =>
    { federation with services := Function.update federation.services host next }

def step (federation : Federation) : Action → Option Federation
  | .act _ (.send _ _) => none
  | .act host action => federation.act library opts host action
  | .send host connection msg =>
      (federation.act library opts host (.send connection msg)).map fun next =>
        { next with sent := outboundMessages msg ++ federation.sent }
  | .relay source host connection index =>
      ((federation.services source).forwarder.wire[index]?).bind fun (_, msg) =>
        federation.act library opts host (.send connection msg)

/-- The states of a federation in any of its runs. -/
def Reaches (federation : Federation) : Prop :=
  Transition.Run (step library opts) Transition.anyStep (initial opts) federation

variable {library : Library} {opts : Text → Opts} {federation next : Federation}

/-- In a step, one service moves. What it receives from a client was sent by a
user in this step or is on the wire of a service. -/
theorem step_cases {action : Action} (taken : step library opts federation action = some next) :
    ∃ host inner state, Service.step library (opts host) (federation.services host) inner =
        some state ∧
      next.services = Function.update federation.services host state ∧
      (∀ outboundMessage, outboundMessage ∈ federation.sent → outboundMessage ∈ next.sent) ∧
      ∀ number msg outboundMessage, inner = .send number msg →
        msg.payload = some (.outboundMessage outboundMessage) →
          outboundMessage ∈ next.sent ∨ ∃ source tassisHost,
            (tassisHost, msg) ∈ (federation.services source).forwarder.wire := by
  cases action with
  | act host inner =>
      have notSend : ∀ number msg, inner ≠ .send number msg := by
        rintro number msg rfl
        cases taken
      have acted : federation.act library opts host inner = some next := by
        cases inner <;> first | exact taken | cases taken
      rcases Option.map_eq_some_iff.mp acted with ⟨state, moved, rfl⟩
      exact ⟨host, inner, state, moved, rfl, fun _ => id,
        fun number msg _ equal => absurd equal (notSend number msg)⟩
  | send host connection msg =>
      rcases Option.map_eq_some_iff.mp taken with ⟨_, acted, rfl⟩
      rcases Option.map_eq_some_iff.mp acted with ⟨state, moved, rfl⟩
      refine ⟨host, _, state, moved, rfl, fun _ => List.mem_append_right _, ?_⟩
      rintro number msg' outboundMessage ⟨⟩ payload
      exact Or.inl (List.mem_append_left _ (by simp [outboundMessages, payload]))
  | relay source host connection index =>
      rcases Option.bind_eq_some_iff.mp taken with ⟨⟨tassisHost, msg⟩, onWire, acted⟩
      rcases Option.map_eq_some_iff.mp acted with ⟨state, moved, rfl⟩
      refine ⟨host, _, state, moved, rfl, fun _ => id, ?_⟩
      rintro number msg' outboundMessage ⟨⟩ _
      exact Or.inr ⟨source, tassisHost, List.mem_of_getElem? onWire⟩

/-- Each service is in one of its runs, and accepts only what users have sent. -/
structure Genuine (library : Library) (opts : Text → Opts) (federation : Federation) : Prop where
  reaches : ∀ host, Service.Reaches library (opts host) (federation.services host)
  accepted : ∀ host outboundMessage, (federation.services host).Accepted outboundMessage →
    outboundMessage ∈ federation.sent

theorem Genuine.step (genuine : Genuine library opts federation) {action : Action}
    (taken : step library opts federation action = some next) : Genuine library opts next := by
  rcases step_cases taken with ⟨host, inner, state, moved, services, kept, received⟩
  refine ⟨?_, ?_⟩
  · intro host'
    rw [services]
    by_cases same : host' = host
    · subst same
      rw [Function.update_self]
      exact (genuine.reaches host').tail trivial moved
    · rw [Function.update_of_ne same]
      exact genuine.reaches host'
  · intro host' outboundMessage accepted
    rw [services] at accepted
    by_cases same : host' = host
    · subst same
      rw [Function.update_self] at accepted
      rcases accepted.of_step moved with before | ⟨number, msg, sends, payload⟩
      · exact kept outboundMessage (genuine.accepted host' outboundMessage before)
      · rcases received number msg outboundMessage sends payload with sent | ⟨source, _, onWire⟩
        · exact sent
        · rcases (Traced.of_reaches (genuine.reaches source)).wire _ msg onWire with
            ⟨outboundMessage', payload', before⟩
          cases payload.symm.trans payload'
          exact kept outboundMessage (genuine.accepted source outboundMessage before)
    · rw [Function.update_of_ne same] at accepted
      exact kept outboundMessage (genuine.accepted host' outboundMessage accepted)

theorem Genuine.of_reaches (reaches : Reaches library opts federation) :
    Genuine library opts federation := by
  apply Transition.Run.preserves reaches
  · refine ⟨fun host => Transition.Run.refl _, ?_⟩
    rintro host outboundMessage ⟨_, _, _, stored, _⟩
    cases stored
  · intro current action next _ genuine _ taken
    exact genuine.step taken

/-- In every run of a federation, a message that is put on a connection as coming
from another client was sent by a user to the address that the connection acts
for. The topics of devices are distinct from each other and from the forwarding
topics. -/
theorem no_misdelivery (reaches : Reaches library opts federation) :
    (∀ host number connection msg data,
      (federation.services host).connections number = some connection →
      msg ∈ connection.inbox → msg.payload = some (.inboundMessage data) →
        ∃ address, connection.ActsFor address ∧ ⟨some address, data⟩ ∈ federation.sent) ∧
      Function.Injective (topicForAddr library) ∧
      ∀ address, ¬IsForwarding (topicForAddr library address) := by
  refine ⟨?_, topicForAddr_injective library, not_isForwarding_topicForAddr library⟩
  intro host number connection msg data stored member payload
  have genuine := Genuine.of_reaches reaches
  -- A client is sent what is in its topic, and that was sent by some client.
  rcases State.Posted.of_reaches (genuine.reaches host) number connection msg data stored member
    payload with ⟨address, index, posting, actsFor, posted, rfl⟩
  have traced := Traced.of_reaches (genuine.reaches host)
  exact ⟨address, actsFor, genuine.accepted host _ (traced.devices address index posting posted)⟩

/-- The actions of one host, where users send what its clients send. -/
def onHost (host : Text) : Service.Action → Action
  | .send connection msg => .send host connection msg
  | action => .act host action

/-- A device logs in on one host, and a message for it is sent on another. It is
forwarded from there and delivered to the device. -/
def forwardedDelivery (address : Address) (payload : Text) : List Action :=
  let home := "home".toList
  let away := "away".toList
  let outboundMessage : OutboundMessage := ⟨some address, payload⟩
  let data := forwardedCodec.encode ⟨some outboundMessage, 0, 0⟩
  let brokerMsg : BrokerMessage := ⟨forwardingTopic, 0, data⟩
  let topic := topicForAddr plainLibrary address
  let sent : Message := ⟨1, some (.outboundMessage outboundMessage)⟩
  let forwards : List Service.Action :=
    forwardingTrace ++ [.connect 0 [] 1, .send 0 sent] ++
      publishTrace 0 outboundMessage home forwardingTopic data ++
      [.perform firstForwardLoop (.nextDelivery ⟨forwardingTopic⟩) (some brokerMsg) 0,
        .perform firstForwardLoop (.find (some address)) (.ok home) 0,
        .perform firstForwardLoop (.connectTo home) (.ok ()) 0,
        .perform firstForwardLoop .nextForwarderSequence 1 0,
        .perform firstForwardLoop (.storeCallback 1
          ⟨⟨some outboundMessage, 0, 0⟩, brokerMsg, ⟨forwardingRetryTopic⟩⟩) () 0,
        .perform firstForwardLoop (.sendTo home sent) () 0]
  (loginTrace 0 "nonce".toList address ++ subscribeTrace 0 address).map (onHost home) ++
    forwards.map (onHost away) ++
    [.act home (.connect 1 [] 1), .relay away home 1 0] ++
    (publishTrace 1 outboundMessage home topic payload ++
      deliverTrace (.routine 10 (some 0) (.handleInbound ⟨topic⟩)) ⟨topic, 0, payload⟩
        1).map (onHost home)

theorem forwarded_message_is_not_misdelivered :
    let opts : Text → Opts := fun host => { plainOpts with publicAddr := host }
    let delivered : Message := ⟨1, some (.inboundMessage "payload".toList)⟩
    ∃ federation connection, Reaches plainLibrary opts federation ∧
      (federation.services "home".toList).connections 0 = some connection ∧
      delivered ∈ connection.inbox ∧ ∃ address, connection.ActsFor address ∧
        ⟨some address, "payload".toList⟩ ∈ federation.sent := by
  intro opts delivered
  have run : ∃ federation, Reaches plainLibrary opts federation ∧
      ((federation.services "home".toList).connections 0).any
        (fun connection => decide (delivered ∈ connection.inbox)) = true :=
    Transition.Run.exists_of_execute
      (forwardedDelivery ⟨"key".toList, "device".toList⟩ "payload".toList) (by decide +kernel)
  rcases run with ⟨federation, reaches, found⟩
  rcases (Option.any_eq_true _ _).mp found with ⟨connection, stored, member⟩
  have member : delivered ∈ connection.inbox := by simpa using member
  exact ⟨federation, connection, reaches, stored, member,
    (no_misdelivery reaches).1 _ _ _ _ _ stored member rfl⟩

end Federation

end Tassis.Service
