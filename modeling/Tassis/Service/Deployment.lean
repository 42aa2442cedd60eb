import Tassis.Foundation.Component
import Tassis.Service.Soundness

/-! # A service with a broker

The topics of a service are all that it relies on in its broker. Here the broker
is a component of its own: when a goroutine publishes, receives or acks a message,
the broker takes a step that shows this as an event, and nobody checks the event
against the topics. If the broker implements the contract that the topics stand
for, the service goes through states that it has with the topics alone.
-/

namespace Tassis.Service

open Model

/-! ## The contract -/

/-- What the users of a broker see of it. -/
inductive BrokerEvent where
  | published (topic data : Text)
  | delivered (brokerMsg : BrokerMessage)
  | acked (place : Place)
  deriving DecidableEq, Repr

/-- Messages may be delivered in any order and any number of times, but only as they
were published. -/
def Topics.contract : Contract BrokerEvent where
  State := Topics
  initial _ := []
  admits topics
    | .delivered brokerMsg =>
        (topics.posting brokerMsg.place).map Posting.data = some brokerMsg.data
    | _ => True
  after topics
    | .published topic data => topics.publish topic data
    | .delivered _ => topics
    | .acked place => topics.ack place

/-- The event that an operation with this reply is to its broker. -/
def eventOf : (operation : Operation) → Reply operation → Option BrokerEvent
  | .publish publisher data, none => some (.published publisher.topic data)
  | .nextDelivery _, some brokerMsg => some (.delivered brokerMsg)
  | .ack brokerMsg, none => some (.acked brokerMsg.place)
  | _, _ => none

/-- A subscriber receives messages of its own topic. -/
def OwnTopic : (operation : Operation) → Reply operation → Prop
  | .nextDelivery subscriber, some brokerMsg => brokerMsg.topic = subscriber.topic
  | _, _ => True

instance (operation : Operation) (reply : Reply operation) :
    Decidable (OwnTopic operation reply) := by
  unfold OwnTopic
  split <;> infer_instance

/-! ## Deployments -/

structure Deployment (broker : Component BrokerEvent) where
  service : State
  broker : broker.State

namespace Deployment

variable (broker : Component BrokerEvent)

inductive Action where
  /-- A step of the service that is no event for the broker. -/
  | service (action : Service.Action)
  /-- A step of the broker that is no event. -/
  | broker (action : broker.Action)
  /-- A goroutine performs an operation by a step of the broker. -/
  | joint (goroutine : Goroutine) (operation : Operation) (reply : Reply operation)
      (rounds : Nat) (action : broker.Action)

/-- The event that an action of the service is to the broker. -/
def eventOfAction : Service.Action → Option BrokerEvent
  | .perform _ operation reply _ => eventOf operation reply
  | _ => none

variable (library : Library) (opts : Opts)

def initial : Deployment broker := ⟨.initial opts, broker.initial⟩

variable {broker}

/-- The goroutine goes on with a reply that the service does not check. -/
def proceed (state : State) (goroutine : Goroutine) (operation : Operation)
    (reply : Reply operation) (rounds : Nat) : Option State :=
  (state.threads goroutine).bind fun thread =>
    (thread.program.resume operation reply).map fun rest =>
      state.after library opts goroutine thread.view rest rounds operation reply

def step (deployment : Deployment broker) : Action broker → Option (Deployment broker)
  | .service action =>
      if eventOfAction action = none then
        (Service.step library opts deployment.service action).map fun service =>
          { deployment with service := service }
      else none
  | .broker action =>
      if (broker.event deployment.broker action).isNone then
        (broker.step deployment.broker action).map fun next =>
          { deployment with broker := next }
      else none
  | .joint goroutine operation reply rounds action =>
      if eventOf operation reply ≠ none ∧
          broker.event deployment.broker action = eventOf operation reply ∧
          OwnTopic operation reply then
        (broker.step deployment.broker action).bind fun next =>
          (proceed library opts deployment.service goroutine operation reply rounds).map
            fun service => ⟨service, next⟩
      else none

def Reaches (deployment : Deployment broker) : Prop :=
  Transition.Run (step library opts) Transition.anyStep (initial broker opts) deployment

variable {library opts}

/-! ## The service in a deployment -/

/-- What an operation changes is what its event changes. -/
theorem topics_after (topics : Topics) (operation : Operation) (reply : Reply operation) :
    topics.after operation reply =
      (eventOf operation reply).elim topics (Topics.contract.after topics) := by
  cases operation <;> try rfl
  case publish | nextDelivery | ack => cases reply <;> rfl

theorem topics_of_no_event {state next : State} {action : Service.Action}
    (noEvent : eventOfAction action = none)
    (taken : Service.step library opts state action = some next) : next.topics = state.topics := by
  cases stepCase_of_step taken with
  | @performed _ operation _ _ reply =>
      have noEvent : eventOf operation reply = none := noEvent
      refine (topics_after state.topics operation reply).trans ?_
      rw [noEvent]
      rfl
  | _ => rfl

/-- A reply that the contract admits is one that the service expects. -/
theorem mayReply_of_admitted {state : State} {goroutine : Goroutine} {operation : Operation}
    {reply : Reply operation} {event : BrokerEvent} (isEvent : eventOf operation reply = some event)
    (ownTopic : OwnTopic operation reply) (admitted : Topics.contract.admits state.topics event) :
    state.MayReply goroutine operation reply := by
  have ofConnection : (state.connectionOf goroutine).all (·.mayReply operation reply) = true := by
    cases state.connectionOf goroutine with
    | none => rfl
    | some connection => cases operation <;> first | rfl | cases isEvent
  refine ⟨?_, ofConnection⟩
  cases operation <;> try first | rfl | cases isEvent
  case nextDelivery subscriber =>
      cases reply with
      | none => cases isEvent
      | some brokerMsg =>
          cases isEvent
          exact decide_eq_true ⟨ownTopic, admitted⟩

/-- A joint step is a step of the service with the topics. -/
theorem step_of_proceed {state next : State} {goroutine : Goroutine} {operation : Operation}
    {reply : Reply operation} {rounds : Nat}
    (proceeds : proceed library opts state goroutine operation reply rounds = some next)
    (possible : state.MayReply goroutine operation reply) :
    Service.step library opts state (.perform goroutine operation reply rounds) = some next ∧
      next.topics = state.topics.after operation reply := by
  rcases Option.bind_eq_some_iff.mp proceeds with ⟨thread, present, proceeds⟩
  rcases Option.map_eq_some_iff.mp proceeds with ⟨rest, resumed, rfl⟩
  refine ⟨?_, rfl⟩
  simp only [Service.step, performNext, present, Option.bind_some, resumed, if_pos possible]

variable {relates : broker.State → Topics → Prop}

/-- A service with a broker that implements the contract goes through states that it
has with the topics alone, and the broker keeps what the topics promise. -/
theorem reaches_service (implements : broker.Implements Topics.contract relates)
    {deployment : Deployment broker} (reaches : deployment.Reaches library opts) :
    Service.Reaches library opts deployment.service ∧
      relates deployment.broker deployment.service.topics := by
  have starts : Service.Reaches library opts (initial broker opts).service ∧
      relates (initial broker opts).broker (initial broker opts).service.topics :=
    ⟨.refl _, implements.initial⟩
  apply Transition.Run.preserves reaches starts
  intro current action next _ holds _ taken
  rcases holds with ⟨reached, related⟩
  cases action with
  | service action =>
      rcases Option.ite_none_right_eq_some.mp taken with ⟨noEvent, taken⟩
      rcases Option.map_eq_some_iff.mp taken with ⟨service, moves, rfl⟩
      refine ⟨reached.tail trivial moves, ?_⟩
      rw [topics_of_no_event noEvent moves]
      exact related
  | broker action =>
      rcases Option.ite_none_right_eq_some.mp taken with ⟨noEvent, taken⟩
      rcases Option.map_eq_some_iff.mp taken with ⟨moved, moves, rfl⟩
      exact ⟨reached, implements.hidden related moves (Option.isNone_iff_eq_none.mp noEvent)⟩
  | joint goroutine operation reply rounds action =>
      rcases Option.ite_none_right_eq_some.mp taken with ⟨⟨isEvent, shown, ownTopic⟩, taken⟩
      rcases Option.bind_eq_some_iff.mp taken with ⟨moved, moves, taken⟩
      rcases Option.map_eq_some_iff.mp taken with ⟨service, proceeds, rfl⟩
      rcases Option.ne_none_iff_exists'.mp isEvent with ⟨event, isEvent⟩
      rw [isEvent] at shown
      have seen := implements.visible related moves shown
      have possible : current.service.MayReply goroutine operation reply :=
        mayReply_of_admitted isEvent ownTopic seen.1
      have performed := step_of_proceed proceeds possible
      refine ⟨reached.tail trivial performed.1, ?_⟩
      rw [performed.2, topics_after, isEvent]
      exact seen.2

end Deployment

end Tassis.Service
