import Mathlib.Data.List.Perm.Basic
import Tassis.Database.KeyNames
import Tassis.RedisBroker.Wellformed

/-! # The answers to ackers

An acker puts itself on the channel of the acknowledgement loop and waits on a
channel of its own. The loop takes what is pending, runs the scripts of all streams
in one pipeline, and then answers every call that it has taken with the error of the
pipeline, one stream after the other. `Node` is the broker together with the calls
of ackers.
-/

namespace Tassis.RedisBroker

abbrev CallID := Nat

/-- A call of an acker that waits on its `errCh`. -/
structure Call where
  id : CallID
  ack : Ack
  deriving DecidableEq, Repr

/-- What a call has received from its `errCh`. -/
structure Answer where
  call : Call
  failed : Bool
  deriving DecidableEq, Repr

/-- The calls of a batch in the order in which they are answered, when the map from
streams to acks is visited in this order. -/
def arrange (order : List Stream) (batch : List Call) : List Call :=
  order.flatMap fun stream => batch.filter fun call => call.ack.stream = stream

structure Node where
  broker : Broker
  /-- The calls on the channel `acks`, oldest first. -/
  pending : List Call
  /-- The calls of the last batch that are still to be answered. -/
  answering : List Call
  /-- Whether the pipeline of the last batch has failed. -/
  failed : Bool
  /-- History: the number of calls made. -/
  calls : Nat
  /-- History: the answers given, oldest first. -/
  answers : List Answer
  /-- History: every entry that a stream has had, oldest first. -/
  published : Stream → List Message

namespace Node

def initial : Node where
  broker := .initial
  pending := []
  answering := []
  failed := false
  calls := 0
  answers := []
  published := fun _ => []

/-- The capacity of `acks`. -/
def acksCapacity : Nat := 10000

inductive Action where
  /-- `XADD` replies. -/
  | publish (topicName : Text) (id : MessageID) (data : Text)
  /-- A consumer calls the acker of a message it has received. -/
  | callAck (id : SubscriberID) (offset : MessageID)
  /-- `processAcks` takes one pending ack and `additional` more. The pipeline
  executes the scripts of some streams and returns. -/
  | processAcks (additional : Nat) (executed : List Stream) (failed : Bool)
      (order : List Stream)
  /-- `processAcks` sends on the next `errCh`. -/
  | answer
  /-- Any other step of the broker. -/
  | other (action : RedisBroker.Action)
  deriving DecidableEq, Repr

/-- The steps that concern neither the calls of ackers nor publishers. -/
def IsOther : RedisBroker.Action → Bool
  | .publish _ _ _ | .callAck _ _ | .processAcks _ _ | .restart => false
  | _ => true

/-- What a batch, its pipeline and the order of the answers can be. The error is nil
only if no script has failed. -/
def MayProcess (node : Node) (batch : List Call) (executed : List Stream) (failed : Bool)
    (order : List Stream) : Prop :=
  node.answering = [] ∧ order.Nodup ∧ (∀ call, call ∈ batch → call.ack.stream ∈ order) ∧
    (failed = false → ∀ call, call ∈ batch → call.ack.stream ∈ executed)

instance (node : Node) (batch : List Call) (executed : List Stream) (failed : Bool)
    (order : List Stream) : Decidable (node.MayProcess batch executed failed order) :=
  inferInstanceAs (Decidable (_ ∧ _ ∧ _ ∧ _))

def publish (node : Node) (broker : Broker) (stream : Stream) (msg : Message) : Node :=
  { node with
    broker := broker
    published := Function.update node.published stream (node.published stream ++ [msg]) }

def callAck (node : Node) (broker : Broker) (ack : Ack) : Node :=
  { node with
    broker := broker
    pending := node.pending ++ [⟨node.calls, ack⟩]
    calls := node.calls + 1 }

def processAcks (node : Node) (broker : Broker) (count : Nat) (failed : Bool)
    (order : List Stream) : Node :=
  { node with
    broker := broker
    pending := node.pending.drop count
    answering := arrange order (node.pending.take count)
    failed := failed }

def answer (node : Node) (call : Call) (rest : List Call) : Node :=
  { node with
    answering := rest
    answers := node.answers ++ [⟨call, node.failed⟩] }

def withBroker (node : Node) (broker : Broker) : Node := { node with broker := broker }

def step (node : Node) : Action → Option Node
  | .publish topicName id data =>
      (node.broker.step (.publish (streamName topicName) id data)).map fun broker =>
        node.publish broker (streamName topicName) ⟨id, data⟩
  | .callAck id offset =>
      if node.pending.length < acksCapacity then
        (node.broker.subscribers id).bind fun sub =>
          (node.broker.step (.callAck id offset)).map fun broker =>
            node.callAck broker ⟨sub.stream, offset⟩
      else none
  | .processAcks additional executed failed order =>
      if node.MayProcess (node.pending.take (additional + 1)) executed failed order then
        (node.broker.step (.processAcks additional executed)).map fun broker =>
          node.processAcks broker (additional + 1) failed order
      else none
  | .answer =>
      match node.answering with
      | [] => none
      | call :: rest => some (node.answer call rest)
  | .other action =>
      if IsOther action then (node.broker.step action).map node.withBroker else none

def Reaches (node : Node) : Prop :=
  Transition.Run step Transition.anyStep initial node

/-! ## What a step can do -/

inductive Effect (node : Node) : Action → Node → Prop where
  | published {topicName id data}
      (increasing : node.broker.lastID (streamName topicName) < id) :
      Effect node (.publish topicName id data)
        (node.publish (node.broker.publish (streamName topicName) id data)
          (streamName topicName) ⟨id, data⟩)
  | called {id sub offset} (present : node.broker.subscribers id = some sub)
      (received : offset ∈ sub.received) :
      Effect node (.callAck id offset)
        (node.callAck (node.broker.callAck sub.stream offset) ⟨sub.stream, offset⟩)
  | processed {additional executed failed order}
      (allowed : node.MayProcess (node.pending.take (additional + 1)) executed failed order)
      (waiting : additional < node.broker.acks.length) :
      Effect node (.processAcks additional executed failed order)
        (node.processAcks (node.broker.processAcks (additional + 1) executed)
          (additional + 1) failed order)
  | answered {call rest} (next : node.answering = call :: rest) :
      Effect node .answer (node.answer call rest)
  | moved {action broker} (isOther : IsOther action = true)
      (taken : node.broker.step action = some broker) :
      Effect node (.other action) (node.withBroker broker)

theorem effect_of_step {node next : Node} {action : Action}
    (taken : node.step action = some next) : Effect node action next := by
  cases action with
  | publish topicName id data =>
      rcases Option.map_eq_some_iff.mp taken with ⟨broker, moves, rfl⟩
      cases Broker.effect_of_step moves with
      | publish increasing => exact .published increasing
  | callAck id offset =>
      rcases Option.ite_none_right_eq_some.mp taken with ⟨_, taken⟩
      rcases Option.bind_eq_some_iff.mp taken with ⟨sub, present, taken⟩
      rcases Option.map_eq_some_iff.mp taken with ⟨broker, moves, rfl⟩
      cases Broker.effect_of_step moves with
      | callAck present' received =>
          cases present.symm.trans present'
          exact .called present received
  | processAcks additional executed failed order =>
      rcases Option.ite_none_right_eq_some.mp taken with ⟨allowed, taken⟩
      rcases Option.map_eq_some_iff.mp taken with ⟨broker, moves, rfl⟩
      cases Broker.effect_of_step moves with
      | processAcks waiting => exact .processed allowed waiting
  | answer =>
      cases next' : node.answering with
      | nil => simp [step, next'] at taken
      | cons call rest =>
          simp only [step, next', Option.some.injEq] at taken
          subst taken
          exact .answered next'
  | other action =>
      rcases Option.ite_none_right_eq_some.mp taken with ⟨isOther, taken⟩
      rcases Option.map_eq_some_iff.mp taken with ⟨broker, moves, rfl⟩
      exact .moved isOther moves

/-- An answer does not concern the broker; every other step is one of the broker. -/
theorem Effect.broker {node next : Node} {action : Action} (effect : Effect node action next) :
    next.broker = node.broker ∨ ∃ action, Broker.Effect node.broker action next.broker := by
  cases effect with
  | published increasing => exact Or.inr ⟨_, .publish increasing⟩
  | called present received => exact Or.inr ⟨_, .callAck present received⟩
  | processed allowed waiting => exact Or.inr ⟨_, .processAcks waiting⟩
  | answered next => exact Or.inl rfl
  | moved isOther taken => exact Or.inr ⟨_, Broker.effect_of_step taken⟩

theorem Effect.acked {node next : Node} {action : Action} (effect : Effect node action next)
    {stream : Stream} {id : MessageID} (acked : id ∈ node.broker.acked stream) :
    id ∈ next.broker.acked stream := by
  rcases effect.broker with same | ⟨_, effect⟩
  · rwa [same]
  · exact effect.acked acked

/-- Steps that concern no acker leave the channel of the acknowledgement loop alone. -/
theorem acks_of_isOther {broker next : Broker} {action : RedisBroker.Action}
    (isOther : IsOther action = true) (taken : broker.step action = some next) :
    next.acks = broker.acks := by
  cases Broker.effect_of_step taken with
  | callAck | processAcks | restart => cases isOther
  | _ => rfl

end Node

/-! ## Batches -/

/-- Every call of a batch is answered once, whatever the order of the map is. -/
theorem perm_arrange {order : List Stream} {batch : List Call} (once : order.Nodup)
    (covered : ∀ call, call ∈ batch → call.ack.stream ∈ order) :
    (arrange order batch).Perm batch := by
  induction order generalizing batch with
  | nil =>
      have none : batch = [] := List.eq_nil_iff_forall_not_mem.mpr fun call member =>
        List.not_mem_nil (covered call member)
      subst none
      exact .refl _
  | cons stream order induction =>
      rcases List.nodup_cons.mp once with ⟨fresh, once⟩
      let others := batch.filter fun call => !decide (call.ack.stream = stream)
      -- The later streams find the same calls in what the first one leaves.
      have sameRest : arrange order batch = arrange order others := by
        refine List.flatMap_congr fun other member => ?_
        rw [List.filter_filter]
        refine List.filter_congr fun call _ => ?_
        by_cases same : call.ack.stream = other
        · have apart : other ≠ stream := fun equal => fresh (equal ▸ member)
          simp [same, apart]
        · simp [same]
      have rest : (arrange order others).Perm others := by
        apply induction once
        intro call member
        rcases List.mem_filter.mp member with ⟨member, apart⟩
        rcases List.mem_cons.mp (covered call member) with same | member
        · simp [same] at apart
        · exact member
      change (batch.filter (fun call => decide (call.ack.stream = stream)) ++
        arrange order batch).Perm batch
      rw [sameRest]
      exact (rest.append_left _).trans (List.filter_append_perm _ batch)

namespace Node

/-! ## Every call is answered once -/

/-- The script of a stream was executed for a batch with this ack. -/
def Executed (node : Node) (ack : Ack) : Prop := ack.offset ∈ node.broker.acked ack.stream

theorem Executed.step {node next : Node} {action : Action} {ack : Ack}
    (executed : node.Executed ack) (effect : Effect node action next) : next.Executed ack :=
  effect.acked executed

/-- The numbers of all calls, by where they stand. -/
def callIDs (node : Node) : List CallID :=
  node.pending.map Call.id ++
    (node.answering.map Call.id ++ node.answers.map fun answer => answer.call.id)

structure Tended (node : Node) : Prop where
  mirrors : node.broker.acks = node.pending.map Call.ack
  once : node.callIDs.Perm (List.range node.calls)
  executed : node.failed = false → ∀ call, call ∈ node.answering → node.Executed call.ack
  honoured : ∀ answer, answer ∈ node.answers → answer.failed = false →
    node.Executed answer.call.ack

namespace Tended

variable {node next : Node} {action : Action}

theorem initial : Tended Node.initial where
  mirrors := rfl
  once := .refl _
  executed _ call member := by cases member
  honoured answer member := by cases member

theorem honoured_step (tended : node.Tended) (effect : Effect node action next)
    (answer : Answer) (member : answer ∈ node.answers) (succeeded : answer.failed = false) :
    next.Executed answer.call.ack :=
  (tended.honoured answer member succeeded).step effect

theorem executed_step (tended : node.Tended) (effect : Effect node action next)
    (succeeded : node.failed = false) (call : Call) (member : call ∈ node.answering) :
    next.Executed call.ack :=
  (tended.executed succeeded call member).step effect

theorem called (tended : node.Tended) (ack : Ack) (effect : Effect node action
      (node.callAck (node.broker.callAck ack.stream ack.offset) ack)) :
    (node.callAck (node.broker.callAck ack.stream ack.offset) ack).Tended where
  mirrors := by simp [Node.callAck, Broker.callAck, tended.mirrors]
  once := by
    change ((node.pending ++ [_]).map Call.id ++ _).Perm (List.range (node.calls + 1))
    rw [List.range_succ, List.map_append, List.append_assoc]
    exact List.perm_middle.trans
      ((tended.once.cons node.calls).trans (List.perm_append_singleton _ _).symm)
  executed := tended.executed_step effect
  honoured := tended.honoured_step effect

theorem processed (tended : node.Tended) {additional : Nat} {executed order : List Stream}
    {failed : Bool}
    (allowed : node.MayProcess (node.pending.take (additional + 1)) executed failed order)
    (effect : Effect node action (node.processAcks
      (node.broker.processAcks (additional + 1) executed) (additional + 1) failed order)) :
    (node.processAcks (node.broker.processAcks (additional + 1) executed) (additional + 1)
      failed order).Tended := by
  rcases allowed with ⟨idle, orderOnce, covered, complete⟩
  have arranged := perm_arrange orderOnce covered
  refine ⟨?_, ?_, ?_, tended.honoured_step effect⟩
  · simp [Node.processAcks, Broker.processAcks, tended.mirrors]
  · have once := tended.once
    rw [callIDs, idle, List.map_nil, List.nil_append] at once
    refine List.Perm.trans ?_ once
    change ((node.pending.drop (additional + 1)).map Call.id ++
      ((arrange order (node.pending.take (additional + 1))).map Call.id ++ _)).Perm _
    rw [← List.append_assoc]
    apply List.Perm.append_right
    refine ((arranged.map Call.id).append_left _).trans (List.perm_append_comm.trans ?_)
    rw [← List.map_append, List.take_append_drop]
  · intro succeeded call member
    have inBatch := arranged.mem_iff.mp member
    have runs := complete succeeded call inBatch
    have taken : call.ack ∈ node.broker.acks.take (additional + 1) := by
      rw [tended.mirrors, ← List.map_take]
      exact List.mem_map_of_mem inBatch
    change call.ack.offset ∈
      if call.ack.stream ∈ executed then _ ++ acksByStream _ call.ack.stream else _
    rw [if_pos runs]
    exact List.mem_append_right _ (Broker.mem_acksByStream.mpr taken)

theorem answered (tended : node.Tended) {call : Call} {rest : List Call}
    (first : node.answering = call :: rest) : (node.answer call rest).Tended where
  mirrors := tended.mirrors
  once := by
    have once := tended.once
    rw [callIDs, first] at once
    refine List.Perm.trans ?_ once
    change (_ ++ (rest.map Call.id ++ (node.answers ++ [_]).map _)).Perm _
    rw [List.map_append, ← List.append_assoc (rest.map Call.id)]
    exact (List.perm_append_singleton _ _).append_left _
  executed succeeded other member :=
    tended.executed succeeded other (first ▸ List.mem_cons_of_mem _ member)
  honoured answer member succeeded := by
    rcases List.mem_append.mp member with member | member
    · exact tended.honoured answer member succeeded
    · cases List.mem_singleton.mp member
      exact tended.executed succeeded call (first ▸ List.mem_cons_self)

theorem step (tended : node.Tended) (taken : node.step action = some next) : next.Tended := by
  have effect := effect_of_step taken
  cases effect_of_step taken with
  | published increasing =>
      exact ⟨tended.mirrors, tended.once, tended.executed_step effect, tended.honoured_step effect⟩
  | called present received => exact tended.called ⟨_, _⟩ effect
  | processed allowed waiting => exact tended.processed allowed effect
  | answered first => exact tended.answered first
  | moved isOther moves =>
      exact ⟨(acks_of_isOther isOther moves).trans tended.mirrors, tended.once,
        tended.executed_step effect, tended.honoured_step effect⟩

theorem of_reaches (reaches : node.Reaches) : node.Tended :=
  Transition.Run.preserves reaches initial fun _ _ _ _ tended _ taken => tended.step taken

end Tended

/-! ## The acknowledgement loop alone -/

/-- The steps of the acknowledgement loop. -/
def Action.OfAckLoop : Action → Prop
  | .processAcks _ _ _ _ | .answer => True
  | _ => False

/-- A run of the acknowledgement loop. -/
def AckLoopRuns (node next : Node) : Prop :=
  Transition.Run step (fun _ action => action.OfAckLoop) node next

/-- Nothing keeps the loop from answering the calls that it has taken. -/
theorem answers_batch (node : Node) :
    ∃ next, node.AckLoopRuns next ∧ next.pending = node.pending ∧ next.answering = [] ∧
      next.broker = node.broker ∧ next.calls = node.calls ∧
      next.answers = node.answers ++ node.answering.map fun call => ⟨call, node.failed⟩ := by
  induction left : node.answering generalizing node with
  | nil => exact ⟨node, .refl _, rfl, left, rfl, rfl, by simp⟩
  | cons call rest induction =>
      rcases induction (node.answer call rest) rfl with
        ⟨next, run, pending, answering, broker, calls, answers⟩
      have taken : node.step .answer = some (node.answer call rest) := by
        simp [step, left]
      refine ⟨next, .head (by trivial) taken run, pending, answering, broker, calls, ?_⟩
      rw [answers]
      simp [answer]

/-- When the loop has nothing in hand it takes all calls that are pending. With all
scripts executed, their answers will be nil. -/
theorem submits_pending {node : Node} (tended : node.Tended) (idle : node.answering = [])
    (waiting : node.pending ≠ []) :
    ∃ next, node.AckLoopRuns next ∧ next.pending = [] ∧ next.failed = false ∧
      next.answering.Perm node.pending ∧ next.calls = node.calls ∧
      next.answers = node.answers := by
  have positive : 0 < node.pending.length := List.length_pos_of_ne_nil waiting
  have all : node.pending.length - 1 + 1 = node.pending.length := Nat.sub_add_cancel positive
  let streams := node.pending.map fun call => call.ack.stream
  have named (call : Call) (member : call ∈ node.pending) : call.ack.stream ∈ streams :=
    List.mem_map_of_mem member
  have allowed : node.MayProcess (node.pending.take (node.pending.length - 1 + 1)) streams
      false streams.dedup := by
    rw [all, List.take_length]
    exact ⟨idle, List.nodup_dedup _, fun call member => List.mem_dedup.mpr (named call member),
      fun _ => named⟩
  have bound : node.pending.length - 1 < node.broker.acks.length := by
    rw [tended.mirrors, List.length_map]
    exact Nat.sub_lt positive Nat.one_pos
  have taken : node.step (.processAcks (node.pending.length - 1) streams false streams.dedup) =
      some (node.processAcks (node.broker.processAcks (node.pending.length - 1 + 1) streams)
        (node.pending.length - 1 + 1) false streams.dedup) := by
    simp [step, if_pos allowed, Broker.step, if_pos bound]
  refine ⟨_, .single (by trivial) taken, ?_, rfl, ?_, rfl, rfl⟩
  · simp [processAcks, all]
  · have arranged := perm_arrange allowed.2.1 allowed.2.2.1
    rw [all, List.take_length] at arranged
    simpa [processAcks, all] using arranged

/-- Every call of an acker waits on the channel, waits for the answer to the batch in
hand or has had its one answer, and an answer without an error comes after the script
of its stream was executed for it. The acknowledgement loop alone can always answer
all calls made so far, and those on the channel without an error. -/
theorem acker_calls_are_answered {node : Node} (reaches : node.Reaches) :
    node.callIDs.Perm (List.range node.calls) ∧
      (∀ answer, answer ∈ node.answers → answer.failed = false →
        node.Executed answer.call.ack) ∧
      ∃ next, node.AckLoopRuns next ∧ next.pending = [] ∧ next.answering = [] ∧
        (next.answers.map fun answer => answer.call.id).Perm (List.range node.calls) ∧
        ∀ call, call ∈ node.pending → ⟨call, false⟩ ∈ next.answers := by
  have tended := Tended.of_reaches reaches
  refine ⟨tended.once, tended.honoured, ?_⟩
  rcases answers_batch node with ⟨idle, run, pending, answering, _, calls, answers⟩
  have idleReaches : idle.Reaches := reaches.trans (run.weaken fun _ _ _ => trivial)
  by_cases none : idle.pending = []
  · have once := (Tended.of_reaches idleReaches).once
    rw [callIDs, none, answering, calls] at once
    refine ⟨idle, run, none, answering, once, ?_⟩
    rw [← pending, none]
    intro call member
    cases member
  · rcases submits_pending (Tended.of_reaches idleReaches) answering none with
      ⟨submitted, submits, noneLeft, succeeded, batch, calls', _⟩
    rcases answers_batch submitted with ⟨final, finishes, pending', answering', _, calls'', answers'⟩
    have finalRun := (run.trans submits).trans finishes
    have finalReaches : final.Reaches := reaches.trans (finalRun.weaken fun _ _ _ => trivial)
    have noneLeft' : final.pending = [] := pending'.trans noneLeft
    have once := (Tended.of_reaches finalReaches).once
    rw [callIDs, noneLeft', answering', calls'', calls', calls] at once
    refine ⟨final, finalRun, noneLeft', answering', once, ?_⟩
    intro call member
    rw [answers', succeeded]
    apply List.mem_append_right
    exact List.mem_map_of_mem (batch.mem_iff.mpr (pending ▸ member))

/-- A subscriber receives two messages and acks both. The pipeline for the first
ack fails. -/
def failedAckTrace : List Action :=
  let stream := streamName ['t']
  [.publish ['t'] ⟨1, 0⟩ ['a'], .publish ['t'] ⟨2, 0⟩ ['b']] ++
  ([.readOffset 1 stream, .register 1, .gather [(stream, [1])], .xread, .dispatch [[1]], .send,
    .handOver, .examine 1, .examine 1, .processed 1, .recheck 1, .send, .receive 1,
    .receive 1] : List RedisBroker.Action).map .other ++
  [.callAck 1 ⟨1, 0⟩, .processAcks 0 [] true [stream], .callAck 1 ⟨2, 0⟩, .answer]

theorem acker_calls_are_answered_after_failure :
    ∃ node, Reaches node ∧ node.calls = 2 ∧
      node.answers = [⟨⟨0, ⟨streamName ['t'], ⟨1, 0⟩⟩⟩, true⟩] ∧
      ∃ next, node.AckLoopRuns next ∧
        (next.answers.map fun answer => answer.call.id).Perm [0, 1] ∧
        ⟨⟨1, ⟨streamName ['t'], ⟨2, 0⟩⟩⟩, false⟩ ∈ next.answers := by
  have found : ∃ node, Reaches node ∧ node.calls = 2 ∧
      node.answers = [⟨⟨0, ⟨streamName ['t'], ⟨1, 0⟩⟩⟩, true⟩] ∧
      node.pending = [⟨1, ⟨streamName ['t'], ⟨2, 0⟩⟩⟩] :=
    Transition.Run.exists_of_execute failedAckTrace (by decide +kernel)
  rcases found with ⟨node, reaches, calls, answers, pending⟩
  rcases (acker_calls_are_answered reaches).2.2 with ⟨next, run, _, _, once, succeed⟩
  refine ⟨node, reaches, calls, answers, next, run, ?_, ?_⟩
  · rw [calls] at once
    exact once
  · exact succeed _ (pending ▸ List.mem_singleton_self _)

end Node

end Tassis.RedisBroker
