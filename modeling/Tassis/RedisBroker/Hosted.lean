import Tassis.Database.SharedKeyspace
import Tassis.RedisBroker.Steps

/-! # The broker on the shared Redis

The model of the broker has streams and offsets of its own. Here they are in one
keyspace with the devices and the chat numbers, and every step of the broker runs its
commands there. Whatever the others do in between, no command fails, and the keyspace
holds the streams and the offsets that the broker has in its own model.
-/

namespace Tassis.RedisBroker

open Database (KeyCodec KeyName SharedRedis)

variable {IdentityKey DeviceID : Type}

/-- The actions that write to Redis. -/
def Action.isWrite : Action → Bool
  | .publish .. | .trim .. | .processAcks .. => true
  | _ => false

structure Hosted (IdentityKey DeviceID : Type) where
  broker : Broker
  shared : SharedRedis IdentityKey DeviceID

namespace Hosted

inductive Action (IdentityKey DeviceID : Type) where
  | publish (topicName : Text) (id : MessageID) (data : Text)
  | trim (topicName : Text) (count : Nat)
  | processAcks (additional : Nat) (topicNames : List Text)
  /-- A step of the broker that writes nothing. -/
  | other (action : RedisBroker.Action)
  | devices (action : Database.RedisDevices.Action IdentityKey DeviceID)
  | chatNumbers (action : Database.RedisChat.Action)

/-- The call of the script for a topic that the batch has acks for. -/
def ackCommand (batch : List Ack) (topicName : Text) :
    Option (SharedRedis.Action IdentityKey DeviceID) :=
  (highestOffset (acksByStream batch (streamName topicName))).map (.ack topicName)

/-- The commands of a step, in their order. -/
def commands (broker : Broker) :
    Action IdentityKey DeviceID → List (SharedRedis.Action IdentityKey DeviceID)
  | .publish topicName id data => [.publish topicName id data]
  | .trim topicName count => [.trim topicName count]
  | .processAcks additional topicNames =>
      topicNames.dedup.filterMap (ackCommand (broker.acks.take (additional + 1)))
  | .other _ => []
  | .devices action => [.devices action]
  | .chatNumbers action => [.chatNumbers action]

/-- What the step does in the model of the broker. -/
def brokerStep (broker : Broker) : Action IdentityKey DeviceID → Option Broker
  | .publish topicName id data => broker.step (.publish (streamName topicName) id data)
  | .trim topicName count => broker.step (.trim (streamName topicName) count)
  | .processAcks additional topicNames =>
      broker.step (.processAcks additional (topicNames.map streamName))
  | .other action => if action.isWrite then none else broker.step action
  | .devices _ | .chatNumbers _ => some broker

/-- The commands run one after the other. -/
def run (codec : KeyCodec IdentityKey DeviceID) (shared : SharedRedis IdentityKey DeviceID)
    (commands : List (SharedRedis.Action IdentityKey DeviceID)) :
    Option (SharedRedis IdentityKey DeviceID) :=
  Transition.execute (SharedRedis.step codec) Transition.anyStep shared commands

def initial : Hosted IdentityKey DeviceID := ⟨.initial, .initial⟩

def step (codec : KeyCodec IdentityKey DeviceID) (hosted : Hosted IdentityKey DeviceID)
    (action : Action IdentityKey DeviceID) : Option (Hosted IdentityKey DeviceID) := do
  let broker ← brokerStep hosted.broker action
  let shared ← run codec hosted.shared (commands hosted.broker action)
  return ⟨broker, shared⟩

def Reaches (codec : KeyCodec IdentityKey DeviceID) (hosted : Hosted IdentityKey DeviceID) :
    Prop :=
  Transition.Run (step codec) Transition.anyStep initial hosted

/-! ## Agreement -/

/-- An entry as it is in the keyspace. -/
def entryOf (msg : Message) : Text × Fields :=
  (msg.id.text, (∅ : Fields).insert SharedRedis.dataField msg.data)

/-- The keyspace has these streams and these offsets. -/
structure Agrees (keyspace : Keyspace) (streams : Stream → List Message)
    (offsets : Stream → Option MessageID) : Prop where
  streams : ∀ topicName, ∃ entries, keyspace.stream? (streamName topicName) = some entries ∧
    entries.getD [] = (streams (streamName topicName)).map entryOf
  offsets : ∀ topicName, keyspace.lookup (offsetName (streamName topicName)) =
    (offsets (streamName topicName)).map fun id => .string id.text

variable {codec : KeyCodec IdentityKey DeviceID} {keyspace after : Keyspace}
  {streams : Stream → List Message} {offsets : Stream → Option MessageID}
  {shared later : SharedRedis IdentityKey DeviceID}

theorem streamName_injective : Function.Injective streamName := by
  intro topicName topicName' equal
  have inner : (topicName ++ ['\x7d']).dropLast = (topicName' ++ ['\x7d']).dropLast :=
    congrArg (fun name => (name.drop 7).dropLast) equal
  rwa [List.dropLast_concat, List.dropLast_concat] at inner

theorem streamName_ne_offsetName (topicName : Text) (stream : Stream) :
    streamName topicName ≠ offsetName stream := by
  intro equal
  have first : ['t'] = ['o'] := congrArg (List.take 1) equal
  cases first

section Running

variable {command : SharedRedis.Action IdentityKey DeviceID}

theorem of_run_cons {rest : List (SharedRedis.Action IdentityKey DeviceID)}
    (executes : run codec shared (command :: rest) = some later) :
    ∃ next, shared.step codec command = some next ∧ run codec next rest = some later := by
  rw [run, Transition.execute] at executes
  exact Option.bind_eq_some_iff.mp (Option.ite_none_right_eq_some.mp executes).2

theorem of_run_single (executes : run codec shared [command] = some later) :
    shared.step codec command = some later := by
  rcases of_run_cons executes with ⟨next, taken, executes⟩
  cases executes
  exact taken

end Running

namespace Agrees

/-- The stream of one topic has changed. -/
theorem of_stream (agrees : Agrees keyspace streams offsets) {topicName : Text}
    {msgs : List Message}
    (others : ∀ key, key ≠ streamName topicName → after.lookup key = keyspace.lookup key)
    (own : ∃ entries, after.stream? (streamName topicName) = some entries ∧
      entries.getD [] = msgs.map entryOf) :
    Agrees after (Function.update streams (streamName topicName) msgs) offsets where
  streams topicName' := by
    by_cases same : topicName' = topicName
    · subst same
      rw [Function.update_self]
      exact own
    · have apart := streamName_injective.ne same
      rw [Function.update_of_ne apart, Keyspace.stream?, others _ apart]
      exact agrees.streams topicName'
  offsets topicName' := by
    rw [others _ (streamName_ne_offsetName topicName _).symm]
    exact agrees.offsets topicName'

/-- The offset of one topic has changed. -/
theorem of_offset (agrees : Agrees keyspace streams offsets) {topicName : Text} {id : MessageID}
    (others : ∀ key, key ≠ offsetName (streamName topicName) →
      after.lookup key = keyspace.lookup key)
    (own : after.lookup (offsetName (streamName topicName)) = some (.string id.text)) :
    Agrees after streams (Function.update offsets (streamName topicName) (some id)) where
  streams topicName' := by
    rw [Keyspace.stream?, others _ (streamName_ne_offsetName topicName' _)]
    exact agrees.streams topicName'
  offsets topicName' := by
    by_cases same : topicName' = topicName
    · subst same
      rw [Function.update_self]
      exact own
    · have apart := streamName_injective.ne same
      have apart' : offsetName (streamName topicName') ≠ offsetName (streamName topicName) :=
        fun equal => apart (List.append_cancel_left equal)
      rw [Function.update_of_ne apart, others _ apart']
      exact agrees.offsets topicName'

/-- The others leave the keys of the broker alone. -/
theorem of_other (agrees : Agrees shared.keyspace streams offsets)
    {action : SharedRedis.Action IdentityKey DeviceID} (other : action.component ≠ .broker)
    (taken : shared.step codec action = some later) : Agrees later.keyspace streams offsets := by
  have same (name : KeyName IdentityKey DeviceID) (ofBroker : name.component = .broker) :
      later.keyspace.lookup (name.text codec) = shared.keyspace.lookup (name.text codec) :=
    (SharedRedis.step_writes taken).lookup_of_not_allowed
      (Database.Component.not_allows (ofBroker ▸ other.symm))
  refine ⟨fun topicName => ?_, fun topicName => ?_⟩
  · rw [Keyspace.stream?, show later.keyspace.lookup (streamName topicName) = _ from
      same (.stream topicName) rfl]
    exact agrees.streams topicName
  · exact (same (.offset (streamName topicName)) rfl).trans (agrees.offsets topicName)

theorem published (agrees : Agrees shared.keyspace streams offsets) {topicName : Text}
    {id : MessageID} {data : Text}
    (taken : shared.step codec (.publish topicName id data) = some later) :
    Agrees later.keyspace (Function.update streams (streamName topicName)
      (streams (streamName topicName) ++ [⟨id, data⟩])) offsets := by
  rcases Option.bind_eq_some_iff.mp taken with ⟨after, added, taken⟩
  cases taken
  rcases agrees.streams topicName with ⟨entries, found, same⟩
  simp only [Keyspace.xadd, found, Option.map_some, Option.some.injEq] at added
  subst added
  refine agrees.of_stream (fun key => Keyspace.lookup_store_of_ne) ?_
  refine ⟨some (entries.getD [] ++ [entryOf ⟨id, data⟩]), ?_, ?_⟩
  · simp [Keyspace.stream?, Keyspace.lookup_store_self, Value.isEmpty, entryOf]
  · simp [same]

theorem trimmed (agrees : Agrees shared.keyspace streams offsets) {topicName : Text}
    {count : Nat} (taken : shared.step codec (.trim topicName count) = some later) :
    Agrees later.keyspace (Function.update streams (streamName topicName)
      ((streams (streamName topicName)).drop count)) offsets := by
  rcases Option.bind_eq_some_iff.mp taken with ⟨after, trims, taken⟩
  cases taken
  rcases agrees.streams topicName with ⟨entries, found, same⟩
  simp only [Keyspace.xtrim, found, Option.map_some, Option.some.injEq] at trims
  subst trims
  cases entries with
  | none =>
      refine agrees.of_stream (fun _ _ => rfl) ⟨none, found, ?_⟩
      simp [List.map_drop, ← same]
  | some entries =>
      refine agrees.of_stream (fun key => Keyspace.lookup_store_of_ne) ?_
      refine ⟨some (entries.drop count), ?_, ?_⟩
      · simp [Keyspace.stream?, Keyspace.lookup_store_self, Value.isEmpty]
      · rw [List.map_drop, ← same]
        rfl

theorem acked (agrees : Agrees shared.keyspace streams offsets) {topicName : Text}
    {id : MessageID} (taken : shared.step codec (.ack topicName id) = some later) :
    Agrees later.keyspace streams (Function.update offsets (streamName topicName)
      (some (ackScript (offsets (streamName topicName)) id))) := by
  rcases Option.bind_eq_some_iff.mp taken with ⟨⟨reply, after⟩, executes, taken⟩
  cases taken
  rcases SharedRedis.ackScript_stores (agrees.offsets topicName) id with
    ⟨reply', after', executes', stored⟩
  cases executes.symm.trans executes'
  have writes : Keyspace.Writes (fun key _ => key = offsetName (streamName topicName))
      shared.keyspace after := SharedRedis.ackScript_writesOnly rfl executes
  exact agrees.of_offset (fun key apart => writes.lookup_of_not_allowed fun _ => apart) stored

/-- The scripts of a batch leave the offsets that the broker computes for it. -/
theorem acks (batch : List Ack) {topicNames : List Text} (once : topicNames.Nodup)
    (agrees : Agrees shared.keyspace streams offsets)
    (executes : run codec shared (topicNames.filterMap (ackCommand batch)) = some later) :
    Agrees later.keyspace streams fun stream =>
      if stream ∈ topicNames.map streamName then
        storedAfter (offsets stream) (acksByStream batch stream)
      else offsets stream := by
  induction once generalizing shared offsets with
  | nil =>
      cases executes
      simpa using agrees
  | @cons topicName rest fresh _ induction =>
      have notLater : streamName topicName ∉ rest.map streamName := by
        rw [List.mem_map_of_injective streamName_injective]
        exact fun member => fresh topicName member rfl
      cases highest : highestOffset (acksByStream batch (streamName topicName)) with
      | none =>
          rw [List.filterMap_cons_none (by simp [ackCommand, highest])] at executes
          convert induction agrees executes using 2 with stream
          by_cases same : stream = streamName topicName
          · subst same
            simp [notLater, storedAfter, highest]
          · simp [same]
      | some id =>
          rw [List.filterMap_cons_some (b := .ack topicName id) (by simp [ackCommand, highest])]
            at executes
          rcases of_run_cons executes with ⟨shared', taken, executes⟩
          convert induction (agrees.acked taken) executes using 2 with stream
          by_cases same : stream = streamName topicName
          · subst same
            simp [notLater, storedAfter, highest]
          · simp [same]

end Agrees

/-! ## Runs -/

section Runs

variable {hosted next : Hosted IdentityKey DeviceID}

structure Tracks (codec : KeyCodec IdentityKey DeviceID) (hosted : Hosted IdentityKey DeviceID) :
    Prop where
  broker : hosted.broker.Reaches Transition.anyStep
  shared : SharedRedis.Reaches codec hosted.shared
  agrees : Agrees hosted.shared.keyspace hosted.broker.streams hosted.broker.offsets

namespace Tracks

theorem initial : Tracks codec (initial : Hosted IdentityKey DeviceID) where
  broker := .refl _
  shared := .refl _
  agrees := ⟨fun _ => ⟨none, rfl, rfl⟩, fun _ => rfl⟩

theorem agrees_step (tracks : Tracks codec hosted) {action : Action IdentityKey DeviceID}
    {broker : Broker} (moves : brokerStep hosted.broker action = some broker)
    (executes : run codec hosted.shared (commands hosted.broker action) = some later) :
    Agrees later.keyspace broker.streams broker.offsets := by
  have agrees := tracks.agrees
  cases action with
  | publish topicName id data =>
      have moves : hosted.broker.step (.publish (streamName topicName) id data) = _ := moves
      cases Broker.effect_of_step moves
      exact agrees.published (of_run_single executes)
  | trim topicName count =>
      cases moves
      exact agrees.trimmed (of_run_single executes)
  | processAcks additional topicNames =>
      have moves : hosted.broker.step (.processAcks additional (topicNames.map streamName)) = _ :=
        moves
      cases Broker.effect_of_step moves
      have offsets : (hosted.broker.processAcks (additional + 1)
          (topicNames.map streamName)).offsets = fun stream =>
            if stream ∈ topicNames.dedup.map streamName then storedAfter
              (hosted.broker.offsets stream)
              (acksByStream (hosted.broker.acks.take (additional + 1)) stream)
            else hosted.broker.offsets stream := by
        funext stream
        simp [Broker.processAcks, Broker.executeAcks]
      rw [offsets]
      exact Agrees.acks _ topicNames.nodup_dedup agrees executes
  | other action =>
      cases executes
      rcases Option.ite_none_left_eq_some.mp moves with ⟨noWrite, moves⟩
      cases Broker.effect_of_step moves <;> first | exact agrees | exact absurd rfl noWrite
  | devices | chatNumbers =>
      cases moves
      exact agrees.of_other (by simp [SharedRedis.Action.component]) (of_run_single executes)

theorem step (tracks : Tracks codec hosted) {action : Action IdentityKey DeviceID}
    (taken : hosted.step codec action = some next) : Tracks codec next := by
  rcases Option.bind_eq_some_iff.mp taken with ⟨broker, moves, taken⟩
  rcases Option.bind_eq_some_iff.mp taken with ⟨shared, executes, taken⟩
  cases taken
  refine ⟨?_, tracks.shared.trans (.of_execute executes), tracks.agrees_step moves executes⟩
  cases action with
  | publish | trim | processAcks =>
      simp only [brokerStep] at moves
      exact tracks.broker.tail trivial moves
  | other action =>
      exact tracks.broker.tail trivial (Option.ite_none_left_eq_some.mp moves).2
  | devices | chatNumbers =>
      cases moves
      exact tracks.broker

theorem of_reaches (reaches : Reaches codec hosted) : Tracks codec hosted :=
  Transition.Run.preserves reaches initial fun _ _ _ _ tracks _ taken => tracks.step taken

end Tracks

variable [DecidableEq IdentityKey] [DecidableEq DeviceID]

/-- Commands that need nothing of the calls in progress can be run one after the other. -/
theorem commands_run {commands : List (SharedRedis.Action IdentityKey DeviceID)}
    (free : ∀ command, command ∈ commands →
      ∀ shared, SharedRedis.Sound.Callable codec shared command)
    (sound : SharedRedis.Sound codec shared) : ∃ later, run codec shared commands = some later := by
  induction commands generalizing shared with
  | nil => exact ⟨shared, rfl⟩
  | cons command rest induction =>
      rcases sound.every_operation_runs (free command List.mem_cons_self shared) with
        ⟨shared', taken⟩
      rcases induction (fun command member => free command (List.mem_cons_of_mem _ member))
        (sound.step taken) with ⟨later, executes⟩
      exact ⟨later, (Transition.execute_cons trivial taken rest).trans executes⟩

/-- In every run in which the broker, the devices and the chat numbers share one
keyspace, it holds the streams and the offsets that the broker has in its own model. Each
of them moves as it does alone, and no command of a step fails on what the others have
left: what the broker can do in its own model it can do here. -/
theorem broker_agrees_with_keyspace (reaches : Reaches codec hosted) :
    hosted.broker.Reaches Transition.anyStep ∧ SharedRedis.Reaches codec hosted.shared ∧
      Agrees hosted.shared.keyspace hosted.broker.streams hosted.broker.offsets ∧
      ∀ action broker, brokerStep hosted.broker action = some broker →
        (∀ command, command ∈ commands hosted.broker action →
          SharedRedis.Sound.Callable codec hosted.shared command) →
        ∃ shared, hosted.step codec action = some ⟨broker, shared⟩ := by
  have tracks := Tracks.of_reaches reaches
  have sound := SharedRedis.Sound.of_reaches tracks.shared
  refine ⟨tracks.broker, tracks.shared, tracks.agrees, ?_⟩
  intro action broker moves callable
  have executes : ∃ shared, run codec hosted.shared (commands hosted.broker action) =
      some shared := by
    cases action with
    | processAcks additional topicNames =>
        refine commands_run ?_ sound
        intro command member shared
        rcases List.mem_filterMap.mp member with ⟨topicName, _, isAck⟩
        rcases Option.map_eq_some_iff.mp isAck with ⟨id, _, rfl⟩
        trivial
    | other action => exact ⟨hosted.shared, rfl⟩
    | publish | trim | devices | chatNumbers =>
        rcases sound.every_operation_runs (callable _ (List.mem_singleton_self _)) with
          ⟨shared, ran⟩
        exact ⟨shared, Transition.execute_cons trivial ran []⟩
  rcases executes with ⟨shared, executes⟩
  exact ⟨shared, by simp [step, moves, executes]⟩

end Runs

/-- Two messages are published, received and acked, the second of them only, while a
device is registered and unregistered. -/
def ackedTrace : List (Action Bool Bool) :=
  let stream := streamName ['t']
  [.publish ['t'] ⟨1, 0⟩ ['a'], .devices (.register true true ['k'] []),
    .publish ['t'] ⟨2, 0⟩ ['b']] ++
  ([.readOffset 1 stream, .register 1, .gather [(stream, [1])], .xread, .dispatch [[1]], .send,
    .handOver, .examine 1, .examine 1, .receive 1, .receive 1,
    .callAck 1 ⟨2, 0⟩] : List RedisBroker.Action).map .other ++
  [.devices (.unregister true true), .processAcks 0 [['t']], .trim ['t'] 1]

theorem broker_agrees_with_keyspace_acked :
    ∃ hosted : Hosted Bool Bool, Reaches SharedRedis.letterCodec hosted ∧
      hosted.shared.log.length = 2 ∧
      hosted.broker.offsets (streamName ['t']) = some ⟨2, 0⟩ ∧
      hosted.shared.keyspace.lookup (offsetName (streamName ['t'])) =
        some (.string (MessageID.text ⟨2, 0⟩)) ∧
      ∃ entries, hosted.shared.keyspace.stream? (streamName ['t']) = some entries ∧
        entries.getD [] = [entryOf ⟨⟨2, 0⟩, ['b']⟩] := by
  have found : ∃ hosted : Hosted Bool Bool, Reaches SharedRedis.letterCodec hosted ∧
      hosted.shared.log.length = 2 ∧
      hosted.broker.offsets (streamName ['t']) = some ⟨2, 0⟩ ∧
      hosted.broker.streams (streamName ['t']) = [⟨⟨2, 0⟩, ['b']⟩] :=
    Transition.Run.exists_of_execute ackedTrace (by decide +kernel)
  rcases found with ⟨hosted, reaches, logged, stored, left⟩
  rcases broker_agrees_with_keyspace reaches with ⟨_, _, agrees, _⟩
  have offset := agrees.offsets ['t']
  have stream := agrees.streams ['t']
  rw [stored] at offset
  rw [left] at stream
  exact ⟨hosted, reaches, logged, stored, offset, stream⟩

end Hosted

end Tassis.RedisBroker
