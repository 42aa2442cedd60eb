import Mathlib.Data.List.AList
import Tassis.Service.Locality

/-! # The service and what surrounds it

A service with the devices in its database and with a presence repository that
other tasses write to as well. The replies of both are now those of their
contents. Beside the service, the world records what the goroutines are doing
and what has become of the requests and messages of clients.
-/

namespace Tassis.Service

open Model

/-! ## What operations do -/

/-- The address that an operation has announced, with the host. -/
def announcementOf : (operation : Operation) → Reply operation → Option (Address × Text)
  | .announce address tassisHost, none => some (address, tassisHost)
  | _, _ => none

/-- The request that an operation has executed in the database. -/
def executedOf : (operation : Operation) → Reply operation → Option (Address × Request)
  | .register identityKey deviceId _, none => some (⟨identityKey, deviceId⟩, .register)
  | .unregister identityKey deviceId, none => some (⟨identityKey, deviceId⟩, .unregister)
  | _, _ => none

/-- The request that an operation acknowledges to the client. -/
def acknowledgementOf (view : View) : Operation → Option (Address × Request)
  | .send msg =>
      if msg.payload = some .ack then
        (view.message.bind requestOf).map fun request => (view.address, request)
      else none
  | _ => none

/-- The topic that an operation has published to. -/
def publicationOf : (operation : Operation) → Reply operation → Option Text
  | .publish publisher _, none => some publisher.topic
  | _, _ => none

/-- The topic of which an operation has awaited a message in vain. -/
def awaitedOf : (operation : Operation) → Reply operation → Option Text
  | .nextDelivery subscriber, none => some subscriber.topic
  | _, _ => none

/-- The message that an operation has acked. -/
def ackedOf : (operation : Operation) → Reply operation → Option Place
  | .ack brokerMsg, none => some brokerMsg.place
  | _, _ => none

/-! ## Worlds -/

structure World where
  service : State
  presence : Address → Option Text
  registered : List Address
  errands : AList fun _ : Goroutine => Errand
  /-- The last request of an address that was acknowledged to a client. -/
  acknowledged : Address → Option Request
  /-- The addresses that were unregistered by a transfer. -/
  transferred : List Address
  /-- The messages that were acked by clients. -/
  clientAcked : List Place

/-- What happens in a world. -/
inductive WorldAction where
  | service (action : Action)
  /-- Another tassis announces an address. -/
  | announce (address : Address) (tassisHost : Text)

namespace World

def initial (opts : Opts) : World := ⟨.initial opts, fun _ => none, [], ∅, fun _ => none, [], []⟩

variable (world : World)

def errandOf (goroutine : Goroutine) : Errand :=
  (world.errands.lookup goroutine).getD .initial

/-- The replies that depend on the database and the presence repository. -/
def mayReply : (operation : Operation) → Reply operation → Bool
  | .find (some address), .ok tassisHost => world.presence address = some tassisHost
  | .allRegisteredDevices, .ok addrs => addrs ⊆ world.registered ∧ world.registered ⊆ addrs
  | _, _ => true

def MayTake : Action → Prop
  | .perform _ operation reply _ => world.mayReply operation reply = true
  | _ => True

instance (action : Action) : Decidable (world.MayTake action) :=
  match action with
  | .perform .. => inferInstanceAs (Decidable (_ = true))
  | .connect .. | .send .. | .close _ | .finishForward .. | .tick _ => isTrue trivial

def announced : Option (Address × Text) → Address → Option Text
  | some (address, tassisHost) => Function.update world.presence address (some tassisHost)
  | none => world.presence

def registeredAfter : Option (Address × Request) → List Address
  | some (address, .register) => address :: world.registered
  | some (address, .unregister) => world.registered.filter (· ≠ address)
  | none => world.registered

def acknowledgedAfter : Option (Address × Request) → Address → Option Request
  | some (address, request) => Function.update world.acknowledged address (some request)
  | none => world.acknowledged

def transferredAfter (kind : Kind) : Option (Address × Request) → List Address
  | some (address, .unregister) =>
      if kind = .transferring then address :: world.transferred else world.transferred
  | _ => world.transferred

def clientAckedAfter (kind : Kind) : Option Place → List Place
  | some place => if kind = .outbound then place :: world.clientAcked else world.clientAcked
  | none => world.clientAcked

def errandsAfter (goroutine : Goroutine) (operation : Operation) (reply : Reply operation) :
    AList fun _ : Goroutine => Errand :=
  let after := world.errands.insert goroutine
    ((world.errandOf goroutine).next operation reply)
  match world.service.started goroutine operation with
  | some started => after.insert started .initial
  | none => after

/-- The world after an operation of a goroutine with this view. -/
def performed (service : State) (goroutine : Goroutine) (view : View) (operation : Operation)
    (reply : Reply operation) : World where
  service
  presence := world.announced (announcementOf operation reply)
  registered := world.registeredAfter (executedOf operation reply)
  errands := world.errandsAfter goroutine operation reply
  acknowledged := world.acknowledgedAfter
    (if goroutine.kind = .outbound then acknowledgementOf view operation else none)
  transferred := world.transferredAfter goroutine.kind (executedOf operation reply)
  clientAcked := world.clientAckedAfter goroutine.kind (ackedOf operation reply)

def after (service : State) : Action → World
  | .perform goroutine operation reply _ =>
      match world.service.threads goroutine with
      | some thread => world.performed service goroutine thread.view operation reply
      | none => { world with service }
  | _ => { world with service }

variable (library : Library) (opts : Opts)

def step : WorldAction → Option World
  | .service action =>
      if world.MayTake action then
        (Service.step library opts world.service action).map fun next => world.after next action
      else none
  | .announce address tassisHost =>
      some { world with presence := world.announced (some (address, tassisHost)) }

def Reaches (permitted : World → WorldAction → Prop) (world : World) : Prop :=
  Transition.Run (step · library opts) permitted (initial opts) world

end World

/-! ## What a step can do -/

variable {library : Library} {opts : Opts} {world next : World}

/-- A step of the service that is no operation of a goroutine. -/
def Action.FromOutside : Action → Prop
  | .perform .. => False
  | _ => True

inductive World.Effect (library : Library) (opts : Opts) (world : World) :
    WorldAction → World → Prop where
  | performed {goroutine : Goroutine} {operation : Operation}
      {rest : Reply operation → Task Unit} {view : View} (reply : Reply operation)
      (rounds : Nat)
      (present : world.service.threads goroutine = some ⟨.call operation rest, view⟩)
      (possible : world.service.MayReply goroutine operation reply)
      (consistent : world.mayReply operation reply = true) :
      Effect library opts world (.service (.perform goroutine operation reply rounds))
        (world.performed
          (world.service.after library opts goroutine view (rest reply) rounds operation reply)
          goroutine view operation reply)
  | happened {action : Action} {service : State} (fromOutside : action.FromOutside)
      (taken : Service.step library opts world.service action = some service) :
      Effect library opts world (.service action) { world with service }
  | announced (address : Address) (tassisHost : Text) :
      Effect library opts world (.announce address tassisHost)
        { world with presence := world.announced (some (address, tassisHost)) }

theorem World.effect_of_step {action : WorldAction}
    (taken : world.step library opts action = some next) :
    world.Effect library opts action next := by
  cases action with
  | announce address tassisHost =>
      cases taken
      exact .announced address tassisHost
  | service action =>
      rcases Option.ite_none_right_eq_some.mp taken with ⟨mayTake, mapped⟩
      rcases Option.map_eq_some_iff.mp mapped with ⟨service, stepped, equal⟩
      clear taken mapped
      subst equal
      cases action <;> try exact .happened trivial stepped
      case perform goroutine operation reply rounds =>
          rcases performNext_cases stepped with ⟨rest, view, present, possible, rfl⟩
          rw [World.after, present]
          exact .performed reply rounds present possible mayTake

theorem World.after_service (world : World) (service : State) (action : Action) :
    (world.after service action).service = service := by
  cases action <;> try rfl
  case perform goroutine operation reply rounds =>
      simp only [World.after]
      split <;> rfl

theorem World.service_of_step {action : WorldAction}
    (taken : world.step library opts action = some next) :
    next.service = world.service ∨
      ∃ action, Service.step library opts world.service action = some next.service := by
  cases action with
  | announce address tassisHost =>
      cases taken
      exact Or.inl rfl
  | service action =>
      rcases Option.ite_none_right_eq_some.mp taken with ⟨_, mapped⟩
      rcases Option.map_eq_some_iff.mp mapped with ⟨service, stepped, equal⟩
      rw [← equal, World.after_service]
      exact Or.inr ⟨action, stepped⟩

/-- Whatever the world does, its service runs as it may by itself. -/
theorem World.Reaches.service {permitted : World → WorldAction → Prop}
    (reaches : World.Reaches library opts permitted world) :
    Service.Reaches library opts world.service := by
  have starts : Service.Reaches library opts (World.initial opts).service :=
    Transition.Run.refl _
  apply Transition.Run.preserves reaches starts
  intro current action next _ reached _ taken
  rcases World.service_of_step taken with same | ⟨action, stepped⟩
  · rw [same]
    exact reached
  · exact Transition.Run.tail reached trivial stepped

theorem getD_lookup_insert (errands : AList fun _ : Goroutine => Errand) (goroutine : Goroutine)
    (errand : Errand) :
    (fun other => ((errands.insert goroutine errand).lookup other).getD .initial) =
      Function.update (fun other => (errands.lookup other).getD .initial) goroutine errand := by
  funext other
  by_cases same : other = goroutine
  · subst other
    rw [Function.update_self, AList.lookup_insert, Option.getD_some]
  · rw [Function.update_of_ne same, AList.lookup_insert_ne same]

theorem World.errandOf_performed (world : World) (service : State) (goroutine : Goroutine)
    (view : View) (operation : Operation) (reply : Reply operation) (rounds : Nat) :
    (world.performed service goroutine view operation reply).errandOf =
      Service.errandsAfter world.service world.errandOf
        (.perform goroutine operation reply rounds) := by
  change (fun other => ((world.errandsAfter goroutine operation reply).lookup other).getD
    .initial) = _
  cases starts : world.service.started goroutine operation with
  | some started =>
      simp only [World.errandsAfter, Service.errandsAfter, starts]
      rw [getD_lookup_insert, getD_lookup_insert]
      rfl
  | none =>
      simp only [World.errandsAfter, Service.errandsAfter, starts]
      exact getD_lookup_insert ..

/-- What some goroutine is doing is found among the recorded errands. -/
theorem World.exists_entry_iff (property : Goroutine → Errand → Prop)
    (initially : ∀ goroutine, ¬property goroutine .initial) :
    (∃ entry, entry ∈ world.errands.entries ∧ property entry.1 entry.2) ↔
      ∃ goroutine, property goroutine (world.errandOf goroutine) := by
  constructor
  · intro recorded
    rcases recorded with ⟨⟨goroutine, errand⟩, member, holds⟩
    refine ⟨goroutine, ?_⟩
    have found : world.errands.lookup goroutine = some errand := AList.mem_lookup_iff.mpr member
    rw [errandOf, found]
    exact holds
  · intro doing
    rcases doing with ⟨goroutine, holds⟩
    cases found : world.errands.lookup goroutine with
    | none =>
        rw [errandOf, found] at holds
        exact absurd holds (initially goroutine)
    | some errand =>
        rw [errandOf, found] at holds
        exact ⟨⟨goroutine, errand⟩, AList.mem_lookup_iff.mp found, holds⟩

/-! ## What holds in every world -/

/-- The service is sound, and its goroutines obey the rules for the errands that
are recorded. -/
structure World.Faithful (library : Library) (opts : Opts) (world : World) : Prop where
  sound : Sound library opts world.service
  attends : Attends library opts world.errandOf world.service

theorem World.Faithful.initial : Faithful library opts (initial opts) :=
  ⟨Sound.initial, Attends.initial _⟩

theorem World.Faithful.step {action : WorldAction} (faithful : Faithful library opts world)
    (effect : world.Effect library opts action next) : Faithful library opts next := by
  cases effect with
  | @performed goroutine operation rest view reply rounds present possible consistent =>
      constructor
      · exact faithful.sound.after present possible
      · rw [errandOf_performed world _ goroutine view operation reply rounds]
        exact faithful.attends.after faithful.sound present possible
  | @happened action service fromOutside taken =>
      constructor
      · exact faithful.sound.step taken
      · have attends := faithful.attends.step faithful.sound taken
        cases action <;> first | exact attends | exact fromOutside.elim
  | announced address tassisHost => exact ⟨faithful.sound, faithful.attends⟩

theorem World.Faithful.of_reaches {permitted : World → WorldAction → Prop}
    (reaches : Reaches library opts permitted world) : Faithful library opts world := by
  apply Transition.Run.preserves reaches World.Faithful.initial
  intro current action next _ faithful _ taken
  exact faithful.step (effect_of_step taken)

end Tassis.Service
