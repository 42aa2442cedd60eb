import Tassis.Database.Registered
import Tassis.Service.Handling

/-! # Rejected registrations

A request to register updates the presence repository first and the database
then, and each of the two calls can fail. What a request that was answered with
an error has done to the routing of messages.
-/

namespace Tassis.Service

open Model Database
open Program (Settles settles_bind settles_perform)

/-! ## The stores -/

/-- What becomes of a call to a store outside the process. -/
inductive CallOutcome where
  | executed
  /-- It fails before it has done anything. -/
  | refused
  /-- It is executed, but its reply is lost. -/
  | lost
  deriving DecidableEq, Repr

def CallOutcome.fails : CallOutcome → Bool
  | .executed => false
  | .refused | .lost => true

/-- A presence repository. `mempresence` records what is announced, as others do
that are shared, and `staticpresence` does not. -/
inductive Repository where
  | recording (hosts : Address → Option Text)
  | static (tassisHost : Text)

namespace Repository

def record : Repository → Address → Text → Repository
  | .recording hosts, address, tassisHost =>
      .recording (Function.update hosts address (some tassisHost))
  | .static ownHost, _, _ => .static ownHost

def announce (repository : Repository) (outcome : CallOutcome) (address : Address)
    (tassisHost : Text) : Repository :=
  if outcome = .refused then repository else repository.record address tassisHost

def find : Repository → Address → Except Failure Text
  | .recording hosts, address =>
      match hosts address with
      | some tassisHost => .ok tassisHost
      | none => .error (.typed errUnknownDevice)
  | .static tassisHost, _ => .ok tassisHost

/-- An announcement of this address would change nothing. -/
def Names : Repository → Address → Text → Prop
  | .recording hosts, address, tassisHost => hosts address = some tassisHost
  | .static _, _, _ => True

end Repository

/-- The devices of either database. -/
inductive DeviceStore where
  | redis (keyspace : Keyspace)
  | memory (identities : Memdb.Identities Text)

/-- What happens to the calls of a request. -/
structure Circumstances where
  announce : CallOutcome
  register : CallOutcome
  /-- The commands of the transaction that fail, if the call reaches Redis. -/
  faults : Redisdb.Faults
  deriving DecidableEq, Repr

namespace DeviceStore

variable (encoding : KeyEncoding Text Text)

/-- Whether the call fails, and the devices after it. -/
def register (circumstances : Circumstances) (address : Address) (registration : Register) :
    DeviceStore → Bool × DeviceStore
  | .redis keyspace =>
      if circumstances.register = .refused then (true, .redis keyspace)
      else
        let result := Redisdb.registerTransaction encoding keyspace
          ⟨address.identityKey, address.deviceId, registration.signedPreKey,
            registration.oneTimePreKeys⟩ circumstances.faults
        (circumstances.register.fails || result.1, .redis result.2)
  | .memory identities =>
      (false, .memory (Memdb.register identities (encoding.keyString address.identityKey)
        address.deviceId registration))

def Registered (address : Address) : DeviceStore → Prop
  | .redis keyspace =>
      Redisdb.HasRecord encoding keyspace (address.identityKey, address.deviceId)
  | .memory identities =>
      Memdb.Registered encoding identities (address.identityKey, address.deviceId)

/-- The call writes a record for the device. -/
def Writes (circumstances : Circumstances) (address : Address) : DeviceStore → Prop
  | .redis keyspace => circumstances.register ≠ .refused ∧
      Redisdb.ScriptRuns (Redisdb.deviceKey encoding address.identityKey address.deviceId)
        (Redisdb.identityDevicesKey encoding address.identityKey) keyspace circumstances.faults
  | .memory _ => True

end DeviceStore

/-! ## Handling a registration -/

structure Registering where
  handling : Handling
  repository : Repository
  devices : DeviceStore

namespace Registering

variable (encoding : KeyEncoding Text Text) (circumstances : Circumstances)

def MayReply (registering : Registering) :
    (operation : Operation) → Reply operation → Prop
  | .announce .., failed => failed.isSome = circumstances.announce.fails
  | .register identityKey deviceId registration, failed =>
      failed.isSome = (registering.devices.register encoding circumstances
        ⟨identityKey, deviceId⟩ registration).1
  | operation, reply => registering.handling.MayReply operation reply

def next (registering : Registering) : (operation : Operation) → Reply operation → Registering
  | .announce address tassisHost, _ =>
      { registering with
        repository := registering.repository.announce circumstances.announce address
          tassisHost }
  | .register identityKey deviceId registration, _ =>
      { registering with
        devices := (registering.devices.register encoding circumstances
          ⟨identityKey, deviceId⟩ registration).2 }
  | operation, reply =>
      { registering with handling := registering.handling.next operation reply }

end Registering

def registrationRules (encoding : KeyEncoding Text Text) (circumstances : Circumstances) :
    Program.Rules Operation Reply Registering where
  replies := Registering.MayReply encoding circumstances
  next := Registering.next encoding circumstances
  allows _ _ := True
  mayCrash _ := False

/-- The address that the connection acts for. -/
def Connection.address (connection : Connection) : Address :=
  ⟨connection.identityKey.getD [], connection.deviceId.getD []⟩

variable {encoding : KeyEncoding Text Text} {circumstances : Circumstances} {opts : Opts}
  {msg : Message} {register : Register}

/-- How `handleRegister` ends. -/
inductive RegisterEnds (encoding : KeyEncoding Text Text) (circumstances : Circumstances)
    (opts : Opts) (msg : Message) (register : Register) (before : Registering) :
    Registering → Prop where
  | unannounced (err : Error) (failed : circumstances.announce.fails = true) :
      RegisterEnds encoding circumstances opts msg register before
        ⟨before.handling.answer msg (.error err),
          before.repository.announce circumstances.announce before.handling.connection.address
            opts.publicAddr, before.devices⟩
  | unregistered (err : Error) (announced : circumstances.announce.fails = false)
      (failed : (before.devices.register encoding circumstances
        before.handling.connection.address register).1 = true) :
      RegisterEnds encoding circumstances opts msg register before
        ⟨before.handling.answer msg (.error err),
          before.repository.announce circumstances.announce before.handling.connection.address
            opts.publicAddr,
          (before.devices.register encoding circumstances before.handling.connection.address
            register).2⟩
  | registered (announced : circumstances.announce.fails = false)
      (succeeded : (before.devices.register encoding circumstances
        before.handling.connection.address register).1 = false) :
      RegisterEnds encoding circumstances opts msg register before
        ⟨before.handling.answer msg .ack,
          before.repository.announce circumstances.announce before.handling.connection.address
            opts.publicAddr,
          (before.devices.register encoding circumstances before.handling.connection.address
            register).2⟩

theorem handleRegister_settles (before : Registering) :
    Settles (registrationRules encoding circumstances)
      (fun final _ => RegisterEnds encoding circumstances opts msg register before final)
      (handleRegister opts msg register) before := by
  refine ⟨trivial, fun identityKey loaded => ?_⟩
  cases of_decide_eq_true loaded
  refine ⟨trivial, fun deviceId loaded => ?_⟩
  cases of_decide_eq_true loaded
  refine ⟨trivial, fun failed announced => ?_⟩
  cases failed with
  | some err => exact ⟨trivial, fun _ _ => .unannounced _ announced.symm⟩
  | none =>
      refine ⟨trivial, fun failed result => ?_⟩
      cases failed with
      | some err => exact ⟨trivial, fun _ _ => .unregistered _ announced.symm result.symm⟩
      | none => exact ⟨trivial, fun _ _ => .registered announced.symm result.symm⟩

/-! ## Routing -/

/-- Every address is found where it was, and the same devices are registered. -/
def SameRouting (encoding : KeyEncoding Text Text) (before final : Registering) : Prop :=
  (∀ address, final.repository.find address = before.repository.find address) ∧
    ∀ address, final.devices.Registered encoding address ↔
      before.devices.Registered encoding address

/-- The request was answered with an error. -/
def Rejected (msg : Message) (before final : Registering) : Prop :=
  ∃ err, final.handling.connection.inbox =
    before.handling.connection.inbox ++ [⟨msg.sequence, some (.error err)⟩]

/-- The announcement changes nothing unless it is refused, and a registration that
follows it writes no record unless there is one. -/
def Harmless (encoding : KeyEncoding Text Text) (circumstances : Circumstances)
    (tassisHost : Text) (before : Registering) : Prop :=
  (circumstances.announce ≠ .refused →
      before.repository.Names before.handling.connection.address tassisHost) ∧
    (circumstances.announce = .executed →
      before.devices.Writes encoding circumstances before.handling.connection.address →
        before.devices.Registered encoding before.handling.connection.address)

theorem Repository.find_record_iff (repository : Repository) (address : Address)
    (tassisHost : Text) :
    (∀ other, (repository.record address tassisHost).find other = repository.find other) ↔
      repository.Names address tassisHost := by
  cases repository with
  | static ownHost => exact iff_of_true (fun _ => rfl) trivial
  | recording hosts =>
      constructor
      · intro same
        have own := same address
        simp only [record, find, Function.update_self] at own
        split at own
        · rename_i found
          cases own
          exact found
        · cases own
      · intro named other
        have unchanged : Function.update hosts address (some tassisHost) = hosts := by
          rw [← show hosts address = some tassisHost from named, Function.update_eq_self]
        rw [record, unchanged]

theorem Repository.find_announce_iff (repository : Repository) (outcome : CallOutcome)
    (address : Address) (tassisHost : Text) :
    (∀ other, (repository.announce outcome address tassisHost).find other =
        repository.find other) ↔
      (outcome ≠ .refused → repository.Names address tassisHost) := by
  by_cases refused : outcome = .refused
  · simp [announce, refused]
  · simp [announce, refused, repository.find_record_iff]

theorem DeviceStore.registered_redis_iff (keyspace : Keyspace) (address other : Address)
    (reached : circumstances.register ≠ .refused) :
    ((DeviceStore.redis keyspace).register encoding circumstances address
        register).2.Registered encoding other ↔
      (DeviceStore.redis keyspace).Registered encoding other ∨
        other = address ∧ (DeviceStore.redis keyspace).Writes encoding circumstances address := by
  simp only [DeviceStore.register, if_neg reached, DeviceStore.Registered, DeviceStore.Writes,
    Redisdb.registered_registerTransaction]
  have same : (other.identityKey, other.deviceId) = (address.identityKey, address.deviceId) ↔
      other = address := by
    cases other
    cases address
    simp
  rw [same, and_iff_right reached]

/-- A registration that fails leaves the same devices registered exactly if its own
one was registered or it has written no record. -/
theorem DeviceStore.registered_register_iff (devices : DeviceStore) (address : Address)
    (failed : (devices.register encoding circumstances address register).1 = true) :
    (∀ other, (devices.register encoding circumstances address register).2.Registered encoding
        other ↔ devices.Registered encoding other) ↔
      (devices.Writes encoding circumstances address → devices.Registered encoding address) := by
  cases devices with
  | memory identities => cases failed
  | redis keyspace =>
      by_cases refused : circumstances.register = .refused
      · simp [DeviceStore.register, refused, DeviceStore.Writes]
      · simp only [DeviceStore.registered_redis_iff keyspace address _ refused]
        constructor
        · intro same writes
          exact (same address).mp (Or.inr ⟨rfl, writes⟩)
        · intro present other
          constructor
          · rintro (before | ⟨rfl, writes⟩)
            · exact before
            · exact present writes
          · exact Or.inl

theorem not_rejected_of_ack {before final : Registering}
    (acked : final.handling = before.handling.answer msg .ack) : ¬Rejected msg before final := by
  rintro ⟨err, inbox⟩
  rw [acked] at inbox
  cases List.append_cancel_left inbox

/-! ## Sending messages -/

/-- The topic to which a message for an address is published. -/
def routeFor (library : Library) (opts : Opts) (repository : Repository) (address : Address) :
    Except Failure Text :=
  (repository.find address).map fun tassisHost =>
    if opts.publicAddr ≠ library.toLower tassisHost then forwardingTopic
    else topicForAddr library address

/-- Addresses are found where the repository has them, and messages are published
to the topic for this address only. -/
def routingRules (library : Library) (opts : Opts) (repository : Repository)
    (address : Address) : Program.Rules Operation Reply Unit where
  replies _
    | .find (some address), result => result = repository.find address
    | .newPublisher topic, result => ∀ publisher, result = .ok publisher → publisher.topic = topic
    | .cachedPublisher topic, result =>
        ∀ publisher, result = some publisher → publisher.topic = topic
    | _, _ => True
  next _ _ _ := ()
  allows _
    | .publish publisher _ => routeFor library opts repository address = .ok publisher.topic
    | _ => True
  mayCrash _ := False

variable {library : Library} {repository : Repository} {address : Address}

theorem publisherFor_follows_route {topic : Text} :
    Settles (routingRules library opts repository address)
      (fun _ result => ∀ publisher, result = .ok publisher → publisher.topic = topic)
      (publisherFor topic) () := by
  refine ⟨trivial, fun cached onTopic => ?_⟩
  cases cached with
  | some publisher =>
      rintro _ ⟨⟩
      exact onTopic publisher rfl
  | none =>
      refine ⟨trivial, fun result onTopic => ?_⟩
      cases result with
      | error err => exact fun _ => nofun
      | ok publisher => exact ⟨trivial, fun _ _ => onTopic⟩

theorem publishAndAck_follows_route {topic data : Text}
    (route : routeFor library opts repository address = .ok topic) :
    Settles (routingRules library opts repository address) (fun _ _ => True)
      (publishAndAck msg topic data) () := by
  rw [publishAndAck, settles_bind]
  apply publisherFor_follows_route.mono
  intro _ result onTopic
  cases result with
  | error err => exact ⟨trivial, fun _ _ => trivial⟩
  | ok publisher =>
      refine ⟨route.trans (congrArg Except.ok (onTopic publisher rfl).symm), fun failed _ => ?_⟩
      cases failed with
      | some err => exact ⟨trivial, fun _ _ => trivial⟩
      | none => exact ⟨trivial, fun _ _ => trivial⟩

/-- A message is published to the topic for its recipient, if it is published. -/
theorem sendOutboundMessage_follows_route {outboundMessage : OutboundMessage}
    (recipient : outboundMessage.toAddress = some address) :
    Settles (routingRules library opts repository address) (fun _ _ => True)
      (sendOutboundMessage library opts msg outboundMessage) () := by
  rw [sendOutboundMessage, recipient, settles_bind, settles_perform]
  refine ⟨trivial, fun result found => ?_⟩
  cases result with
  | error err => exact ⟨trivial, fun _ _ => trivial⟩
  | ok tassisHost =>
      have found : repository.find address = .ok tassisHost := found.symm
      dsimp only
      split
      · rename_i elsewhere
        split
        · exact ⟨trivial, fun _ _ => trivial⟩
        · apply publishAndAck_follows_route
          rw [routeFor, found, Except.map, if_pos elsewhere]
      · rename_i here
        apply publishAndAck_follows_route
        rw [routeFor, found, Except.map, if_neg here]

theorem SameRouting.routeFor_eq {before final : Registering}
    (same : SameRouting encoding before final) (address : Address) :
    routeFor library opts final.repository address =
      routeFor library opts before.repository address := by
  rw [routeFor, same.1, routeFor]

/-! ## Rejected requests -/

/-- A request to register that is answered with an error has left the routing as it
was exactly if the presence repository named this host already or has refused
the announcement, and the device was registered already or the database has
written no record. -/
theorem rejected_register_keeps_routing_iff (before : Registering) :
    Settles (registrationRules encoding circumstances)
      (fun final _ => Rejected msg before final →
        (SameRouting encoding before final ↔
          Harmless encoding circumstances opts.publicAddr before))
      (handleRegister opts msg register) before := by
  apply (handleRegister_settles before).mono
  intro final _ ends
  cases ends with
  | registered announced succeeded =>
      intro rejected
      exact absurd rejected (not_rejected_of_ack rfl)
  | unannounced err failed =>
      intro _
      have notExecuted : circumstances.announce ≠ .executed := by
        intro executed
        rw [executed] at failed
        cases failed
      rw [SameRouting, Harmless, before.repository.find_announce_iff]
      simp [notExecuted]
  | unregistered err announced failed =>
      intro _
      have executed : circumstances.announce = .executed := by
        cases outcome : circumstances.announce with
        | executed => rfl
        | refused => simp [outcome, CallOutcome.fails] at announced
        | lost => simp [outcome, CallOutcome.fails] at announced
      rw [SameRouting, Harmless, before.repository.find_announce_iff,
        before.devices.registered_register_iff _ failed]
      simp [executed]

/-- Keys and device IDs as they are. -/
def plainEncoding : KeyEncoding Text Text where
  keyString := Text.escaped '}'
  deviceString := id
  decodeDevice := some
  keyString_injective := Text.escaped_injective
  keyString_brace := Text.notMem_escaped (by decide) (by decide)
  decode_deviceString _ := rfl

/-- A device that is registered with another tassis logs in here. -/
def moving : Registering where
  handling := .start { Connection.initial "nonce".toList with
    identityKey := some "key".toList, deviceId := some "device".toList }
  repository := .recording fun address =>
    if address = ⟨"key".toList, "device".toList⟩ then some "elsewhere".toList else none
  devices := .redis .empty

/-- Redis cannot be reached. -/
def unreachable : Circumstances := ⟨.executed, .refused, ⟨false, false⟩⟩

/-- The device is not registered here, but messages for it are no longer forwarded
to the host where it is. -/
theorem rejected_register_moves_device :
    let address : Address := ⟨"key".toList, "device".toList⟩
    ∃ final, Program.Ends (registrationRules plainEncoding unreachable).toInterface
        (handleRegister plainOpts ⟨1, some (.register ⟨"signed".toList, []⟩)⟩
          ⟨"signed".toList, []⟩) moving final ∧
      Rejected ⟨1, some (.register ⟨"signed".toList, []⟩)⟩ moving final ∧
      ¬final.devices.Registered plainEncoding address ∧
      routeFor plainLibrary plainOpts moving.repository address = .ok forwardingTopic ∧
      routeFor plainLibrary plainOpts final.repository address =
        .ok (topicForAddr plainLibrary address) ∧
      ¬SameRouting plainEncoding moving final := by
  intro address
  refine ⟨_, .call (some "key".toList) rfl (.call (some "device".toList) rfl
    (.call none rfl (.call (some (.other "refused".toList)) rfl (.call () rfl .done)))),
    ⟨_, rfl⟩, ?_, rfl, ?_, ?_⟩
  · exact Bool.false_ne_true
  · rfl
  · intro same
    cases same.1 address

/-- A device that registers again where it is stays there. -/
theorem rejected_renewal_keeps_routing :
    let address : Address := ⟨"key".toList, "device".toList⟩
    let before := { moving with
      repository := .recording (Function.update (fun _ => none) address "tassis".toList) }
    Harmless plainEncoding unreachable plainOpts.publicAddr before ∧
      Settles (registrationRules plainEncoding unreachable)
        (fun final _ => Rejected ⟨1, some (.register ⟨"signed".toList, []⟩)⟩ before final →
          SameRouting plainEncoding before final)
        (handleRegister plainOpts ⟨1, some (.register ⟨"signed".toList, []⟩)⟩
          ⟨"signed".toList, []⟩) before := by
  intro address before
  have harmless : Harmless plainEncoding unreachable plainOpts.publicAddr before :=
    ⟨fun _ => rfl, fun _ writes => absurd rfl writes.1⟩
  refine ⟨harmless, ?_⟩
  apply (rejected_register_keeps_routing_iff before).mono
  exact fun final _ keeps rejected => (keeps rejected).mpr harmless

end Tassis.Service
