import Tassis.Forwarder.Forwarder
import Tassis.Service.Conservation
import Tassis.Service.Drafts
import Tassis.Service.Loops

/-! # A network of services

Services that forward messages to each other. The forwarder of a service opens one
connection to each host that it sends to. What it sends arrives there in order, and
what the host answers is read in order and ends the forwarding of the message with the
same sequence number. A connection may stop to pass anything on at any time.
-/

namespace Tassis.Service

open Model
open Tassis.Forwarder (responseOf)

/-! ## The state of a network -/

/-- A connection that a forwarder has opened to a host. -/
structure Link where
  source : Text
  /-- How many of the messages for the host have arrived there. -/
  relayed : Nat
  /-- How many of the messages from the host have been read. -/
  read : Nat
  deriving DecidableEq, Repr

/-- What the forwarder has sent to a host. -/
def Forwarder.wireTo (forwarder : Forwarder) (tassisHost : Text) : List Message :=
  (forwarder.wire.filter (·.1 = tassisHost)).map Prod.snd

def State.wireTo (state : State) (tassisHost : Text) : List Message :=
  state.forwarder.wireTo tassisHost

/-- The services by their hosts, and the connections of their forwarders. The rest is
recorded for the sake of the proofs: the callbacks that were ever stored, the places of
all messages in the order in which they were published, and those that were acked by
clients, with the connection. -/
structure Network where
  services : Text → State
  /-- The connections of a forwarder by their hosts. -/
  conns : Text → Text → Option Nat
  /-- The connections of a host that were opened by forwarders. -/
  links : Text → Nat → Option Link
  issued : Text → Nat → Option Callback
  born : List (Text × Place)
  received : List (Text × Nat × Place)

namespace Network

inductive Action where
  /-- A service takes a step that has nothing to do with the other hosts. -/
  | act (host : Text) (action : Service.Action)
  /-- A forwarder connects to a host. -/
  | dial (source target : Text) (number : Nat) (nonce : Text) (rounds : Nat)
  /-- The next message from a forwarder arrives at a host. -/
  | relay (target : Text) (number : Nat)
  /-- A forwarder reads the next message from a host. -/
  | respond (target : Text) (number : Nat)

/-- Where a step publishes a message. -/
def placesOf (topics : Topics) : Service.Action → List Place
  | .perform _ (.publish publisher _) none _ =>
      [⟨publisher.topic, (topics publisher.topic).length⟩]
  | _ => []

/-- The message that a client acks in a step, with its connection. -/
def receiptsOf : Service.Action → List (Nat × Place)
  | .perform (.outbound number) (.ack brokerMsg) none _ => [(number, brokerMsg.place)]
  | _ => []

variable (network : Network)

/-- The network after a step of one service. -/
def moved (host : Text) (action : Service.Action) (state : State) : Network :=
  { network with
    services := Function.update network.services host state
    issued := Function.update network.issued host (issuedAfter (network.issued host) action)
    born := network.born ++ (placesOf (network.services host).topics action).map (host, ·)
    received := (receiptsOf action).map (host, ·) ++ network.received }

def setLink (target : Text) (number : Nat) (link : Link) : Network :=
  { network with
    links := Function.update network.links target
      (Function.update (network.links target) number (some link)) }

def setConn (source target : Text) (number : Nat) : Network :=
  { network with
    conns := Function.update network.conns source
      (Function.update (network.conns source) target (some number)) }

/-- The steps of a service that concern no other host. A forwarder that has a
connection uses it. -/
def mayAct (host : Text) : Service.Action → Bool
  | .finishForward .. => false
  | .send number _ => (network.links host number).isNone
  | .perform _ (.connectTo target) (.ok _) _ => (network.conns host target).isSome
  | .perform _ (.connectTo target) (.error _) _ => (network.conns host target).isNone
  | _ => true

variable (library : Library) (opts : Text → Opts)

def initial : Network where
  services host := .initial (opts host)
  conns _ _ := none
  links _ _ := none
  issued _ _ := none
  born := []
  received := []

def move (host : Text) (action : Service.Action) : Option Network :=
  (Service.step library (opts host) (network.services host) action).map
    (network.moved host action)

/-- A forwarder triggers the callback that waits for a response, if there is one. -/
def readFrom (source : Text) (msg : Message) : Network :=
  match responseOf msg with
  | some forwardingErr =>
      (network.move library opts source (.finishForward msg.sequence forwardingErr)).getD network
  | none => network

def step : Action → Option Network
  | .act host action =>
      if network.mayAct host action then network.move library opts host action else none
  | .dial source target number nonce rounds =>
      if network.conns source target = none then
        (network.move library opts target (.connect number nonce rounds)).map fun next =>
          (next.setConn source target number).setLink target number ⟨source, 0, 0⟩
      else none
  | .relay target number =>
      (network.links target number).bind fun link =>
        (((network.services link.source).wireTo target)[link.relayed]?).bind fun msg =>
          (network.move library opts target (.send number msg)).map fun next =>
            next.setLink target number { link with relayed := link.relayed + 1 }
  | .respond target number =>
      (network.links target number).bind fun link =>
        ((network.services target).connections number).bind fun connection =>
          (connection.inbox[link.read]?).map fun msg =>
            (network.readFrom library opts link.source msg).setLink target number
              { link with read := link.read + 1 }

/-- No forwarder has used all its numbers. -/
def NoWrap (network : Network) : Action → Prop
  | .act host action => Service.NoWrap (network.services host) action
  | _ => True

instance (network : Network) (action : Action) : Decidable (NoWrap network action) :=
  match action with
  | .act .. => inferInstanceAs (Decidable (Service.NoWrap _ _))
  | .dial .. | .relay .. | .respond .. => isTrue trivial

/-- The states of a network while no forwarder has used all its numbers. -/
def Reaches (network : Network) : Prop :=
  Transition.Run (step · library opts) NoWrap (initial opts) network

/-! ## What a step can do -/

variable {library : Library} {opts : Text → Opts} {network next : Network}

inductive Effect (library : Library) (opts : Text → Opts) (network : Network) :
    Network → Prop where
  | acted {host : Text} {action : Service.Action} {state : State}
      (may : network.mayAct host action = true)
      (noWrap : Service.NoWrap (network.services host) action)
      (taken : Service.step library (opts host) (network.services host) action = some state) :
      Effect library opts network (network.moved host action state)
  | dialled {source target : Text} {number : Nat} {nonce : Text} {rounds : Nat} {state : State}
      (taken : Service.step library (opts target) (network.services target)
        (.connect number nonce rounds) = some state) :
      Effect library opts network
        (((network.moved target (.connect number nonce rounds) state).setConn source target
          number).setLink target number ⟨source, 0, 0⟩)
  | relayed {target : Text} {number : Nat} {link : Link} {msg : Message} {state : State}
      (linked : network.links target number = some link)
      (sent : ((network.services link.source).wireTo target)[link.relayed]? = some msg)
      (taken : Service.step library (opts target) (network.services target)
        (.send number msg) = some state) :
      Effect library opts network ((network.moved target (.send number msg) state).setLink target
        number { link with relayed := link.relayed + 1 })
  | finished {target : Text} {number : Nat} {link : Link} {connection : Connection}
      {msg : Message} {forwardingErr : Option Failure} {state : State}
      (linked : network.links target number = some link)
      (stored : (network.services target).connections number = some connection)
      (found : msg ∈ connection.inbox) (response : responseOf msg = some forwardingErr)
      (taken : Service.step library (opts link.source) (network.services link.source)
        (.finishForward msg.sequence forwardingErr) = some state) :
      Effect library opts network
        ((network.moved link.source (.finishForward msg.sequence forwardingErr) state).setLink
          target number { link with read := link.read + 1 })
  | skipped {target : Text} {number : Nat} {link : Link}
      (linked : network.links target number = some link) :
      Effect library opts network
        (network.setLink target number { link with read := link.read + 1 })

theorem effect_of_step {action : Action} (noWrap : NoWrap network action)
    (taken : network.step library opts action = some next) :
    network.Effect library opts next := by
  cases action with
  | act host action =>
      rcases Option.ite_none_right_eq_some.mp taken with ⟨may, moves⟩
      rcases Option.map_eq_some_iff.mp moves with ⟨state, stepped, rfl⟩
      exact .acted may noWrap stepped
  | dial source target number nonce rounds =>
      rcases Option.ite_none_right_eq_some.mp taken with ⟨_, dials⟩
      rcases Option.map_eq_some_iff.mp dials with ⟨later, moves, equal⟩
      rcases Option.map_eq_some_iff.mp moves with ⟨state, stepped, rfl⟩
      rw [← equal]
      exact .dialled stepped
  | relay target number =>
      rcases Option.bind_eq_some_iff.mp taken with ⟨link, linked, sends⟩
      rcases Option.bind_eq_some_iff.mp sends with ⟨msg, sent, relays⟩
      rcases Option.map_eq_some_iff.mp relays with ⟨later, moves, equal⟩
      rcases Option.map_eq_some_iff.mp moves with ⟨state, stepped, rfl⟩
      rw [← equal]
      exact .relayed linked sent stepped
  | respond target number =>
      rcases Option.bind_eq_some_iff.mp taken with ⟨link, linked, reads⟩
      rcases Option.bind_eq_some_iff.mp reads with ⟨connection, stored, responds⟩
      rcases Option.map_eq_some_iff.mp responds with ⟨msg, found, equal⟩
      rw [← equal, readFrom]
      split
      · rename_i forwardingErr response
        cases moves : network.move library opts link.source
            (.finishForward msg.sequence forwardingErr) with
        | none => exact .skipped linked
        | some later =>
            rcases Option.map_eq_some_iff.mp moves with ⟨state, stepped, rfl⟩
            exact .finished linked stored (List.mem_of_getElem? found) response stepped
      · exact .skipped linked

end Network

end Tassis.Service
