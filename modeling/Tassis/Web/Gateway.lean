import Tassis.Service.Soundness
import Tassis.Web.Session

/-! # The web front end of a service

The handlers of all requests beside the service they connect to. The channel on which
a connection receives messages from its client is not buffered, so a message goes from
the goroutine that reads from the client directly to the loop that handles it; the
other channel has a small buffer.
-/

namespace Tassis.Web

open Model
open Service (Goroutine Library Operation Opts Reply)

/-- Where the handler of a request stands. -/
inductive Handler where
  /-- Returned with this status, before it was connected to the service. -/
  | refused (status : Nat)
  /-- In `websocket.Accept`. -/
  | accepting
  /-- Returned because the request was not upgraded. -/
  | rejected
  /-- In `wg.Wait`, with the goroutines of the session. -/
  | serving (session : Session)
  | returned (session : Session)
  deriving DecidableEq, Repr

namespace Handler

def isServing : Handler → Bool
  | .serving _ => true
  | _ => false

def session? : Handler → Option Session
  | .serving session | .returned session => some session
  | _ => none

end Handler

def statusNotFound : Nat := 404

def statusInternalServerError : Nat := 500

/-- The only path that is served. -/
def apiURI : Text := "/api".toList

/-- The capacity of the channel `in` of a connection to the service. -/
def inCapacity : Nat := 10

/-- The service and the handlers of all requests, which are numbered in the order of
their arrival. A handler has the connection with its own number. -/
structure Gateway where
  service : Service.State
  handlers : List Handler
  activeConnections : Int

namespace Gateway

inductive Action where
  /-- A request arrives. Without a nonce the connection to the service fails. -/
  | serveHTTP (requestURI : Text) (nonce : Option Text) (rounds : Nat)
  /-- The request is upgraded, for a `websocketClient` with this buffer depth or for a
  client of another kind. -/
  | accept (number : Nat) (bufferDepth : Option Nat)
  | acceptFailed (number : Nat)
  /-- A step of a session that does not involve the service. -/
  | session (number : Nat) (action : Session.Action)
  /-- The writer takes a message from the service. -/
  | take (number : Nat)
  /-- The reader hands a message to the service. -/
  | hand (number : Nat) (rounds : Nat)
  /-- `wg.Wait` is over, and the deferred functions are called. -/
  | returnHandler (number : Nat)
  /-- A step of the service. -/
  | service (action : Service.Action)

/-- The loop over the messages of a client receives one. -/
def Receives : (operation : Operation) → Reply operation → Bool
  | .nextMessage, some _ => true
  | _, _ => false

def session? (gateway : Gateway) (number : Nat) : Option Session :=
  (gateway.handlers[number]?).bind Handler.session?

/-- There is room on the channel `in` of a connection. -/
def HasRoom (gateway : Gateway) (number : Nat) : Bool :=
  (gateway.service.connections number).all fun connection =>
    decide (connection.inbox.length <
      ((gateway.session? number).map Session.taken).getD 0 + inCapacity)

def mayPerform (gateway : Gateway) (goroutine : Goroutine) : Operation → Bool
  | .send _ => goroutine.connection.all gateway.HasRoom
  | _ => true

/-- The steps that the service takes without the handlers. -/
def maySettle (gateway : Gateway) : Service.Action → Bool
  | .perform goroutine operation reply _ =>
      !Receives operation reply && gateway.mayPerform goroutine operation
  | .finishForward _ _ | .tick _ => true
  | .connect _ _ _ | .send _ _ | .close _ => false

def setHandler (gateway : Gateway) (number : Nat) (handler : Handler) : Gateway :=
  { gateway with handlers := gateway.handlers.set number handler }

def withService (gateway : Gateway) (service : Service.State) : Gateway :=
  { gateway with service := service }

/-- The writer of a session has taken a message. What cannot be marshalled is
skipped. -/
def taking (wire : Wire) (session : Session) (msg : Message) : Session :=
  match wire.marshal msg with
  | some bytes => { session with taken := session.taken + 1, writer := .writing bytes }
  | none => { session with taken := session.taken + 1 }

variable (wire : Wire) (library : Library) (opts : Opts)

def initial : Gateway := ⟨.initial opts, [], 0⟩

def serveHTTP (gateway : Gateway) (requestURI : Text) (nonce : Option Text) (rounds : Nat) :
    Option Gateway :=
  if requestURI = apiURI then
    match nonce with
    | none =>
        some { gateway with
          handlers := gateway.handlers ++ [.refused statusInternalServerError] }
    | some nonce =>
        (Service.step library opts gateway.service
          (.connect gateway.handlers.length nonce rounds)).map fun service =>
            { gateway with service := service, handlers := gateway.handlers ++ [.accepting] }
  else some { gateway with handlers := gateway.handlers ++ [.refused statusNotFound] }

def step (gateway : Gateway) : Action → Option Gateway
  | .serveHTTP requestURI nonce rounds =>
      gateway.serveHTTP library opts requestURI nonce rounds
  | .accept number bufferDepth =>
      match gateway.handlers[number]? with
      | some .accepting =>
          some { gateway.setHandler number
              (.serving (.initial (bufferDepth.map Client.initial))) with
            activeConnections := gateway.activeConnections + 1 }
      | _ => none
  | .acceptFailed number =>
      match gateway.handlers[number]? with
      | some .accepting =>
          (Service.step library opts gateway.service (.close number)).map fun service =>
            (gateway.setHandler number .rejected).withService service
      | _ => none
  | .session number action =>
      match gateway.handlers[number]? with
      | some (.serving session) =>
          (session.step wire action).map fun next => gateway.setHandler number (.serving next)
      | some (.returned session) =>
          -- The goroutines of the client go on after the handler has returned.
          (session.step wire action).map fun next => gateway.setHandler number (.returned next)
      | _ => none
  | .take number =>
      match gateway.handlers[number]?, gateway.service.connections number with
      | some (.serving session), some connection =>
          if session.writer = .selecting then
            (connection.inbox[session.taken]?).map fun msg =>
              gateway.setHandler number (.serving (taking wire session msg))
          else none
      | _, _ => none
  | .hand number rounds =>
      match gateway.handlers[number]? with
      | some (.serving session) =>
          match session.reader with
          | .handing msg =>
              (Service.step library opts gateway.service (.send number msg)).bind fun sent =>
                (Service.step library opts sent
                  (.perform (.outbound number) .nextMessage (some msg) rounds)).map fun service =>
                    (gateway.setHandler number
                      (.serving { session with reader := .reading })).withService service
          | _ => none
      | _ => none
  | .returnHandler number =>
      match gateway.handlers[number]? with
      | some (.serving session) =>
          if session.writer = .done ∧ session.reader = .done then
            (Service.step library opts gateway.service (.close number)).map fun service =>
              { (gateway.setHandler number (.returned session.close)).withService service with
                activeConnections := gateway.activeConnections - 1 }
          else none
      | _ => none
  | .service action =>
      if gateway.maySettle action then
        (Service.step library opts gateway.service action).map gateway.withService
      else none

def Reaches (gateway : Gateway) : Prop :=
  Transition.Run (step wire library opts) Transition.anyStep (initial opts) gateway

/-! ## What a step can do -/

inductive Effect (gateway : Gateway) : Gateway → Prop where
  /-- A request was refused. -/
  | refused (status : Nat) :
      Effect gateway { gateway with handlers := gateway.handlers ++ [.refused status] }
  | connected {nonce rounds service}
      (taken : Service.step library opts gateway.service
        (.connect gateway.handlers.length nonce rounds) = some service) :
      Effect gateway
        { gateway with service := service, handlers := gateway.handlers ++ [.accepting] }
  | accepted {number} (bufferDepth : Option Nat)
      (accepting : gateway.handlers[number]? = some .accepting) :
      Effect gateway { gateway.setHandler number
          (.serving (.initial (bufferDepth.map Client.initial))) with
        activeConnections := gateway.activeConnections + 1 }
  | rejected {number service} (accepting : gateway.handlers[number]? = some .accepting)
      (taken : Service.step library opts gateway.service (.close number) = some service) :
      Effect gateway ((gateway.setHandler number .rejected).withService service)
  | moved {number session next action handler}
      (isHandler : handler = Handler.serving ∨ handler = Handler.returned)
      (present : gateway.handlers[number]? = some (handler session))
      (moves : session.step wire action = some next) :
      Effect gateway (gateway.setHandler number (handler next))
  | took {number session connection msg}
      (serving : gateway.handlers[number]? = some (.serving session))
      (connected : gateway.service.connections number = some connection)
      (selecting : session.writer = .selecting)
      (waiting : connection.inbox[session.taken]? = some msg) :
      Effect gateway (gateway.setHandler number (.serving (taking wire session msg)))
  | handed {number session msg sent service rounds}
      (serving : gateway.handlers[number]? = some (.serving session))
      (handing : session.reader = .handing msg)
      (sends : Service.step library opts gateway.service (.send number msg) = some sent)
      (receives : Service.step library opts sent
        (.perform (.outbound number) .nextMessage (some msg) rounds) = some service) :
      Effect gateway ((gateway.setHandler number
        (.serving { session with reader := .reading })).withService service)
  | returned {number session service}
      (serving : gateway.handlers[number]? = some (.serving session))
      (writerDone : session.writer = .done) (readerDone : session.reader = .done)
      (taken : Service.step library opts gateway.service (.close number) = some service) :
      Effect gateway
        { (gateway.setHandler number (.returned session.close)).withService service with
          activeConnections := gateway.activeConnections - 1 }
  | settled {action service} (allowed : gateway.maySettle action = true)
      (taken : Service.step library opts gateway.service action = some service) :
      Effect gateway (gateway.withService service)

variable {wire library opts}

theorem effect_of_step {gateway next : Gateway} {action : Action}
    (taken : gateway.step wire library opts action = some next) :
    Effect wire library opts gateway next := by
  cases action with
  | serveHTTP requestURI nonce rounds =>
      simp only [step, serveHTTP] at taken
      split at taken
      · cases nonce with
        | none =>
            cases taken
            exact .refused _
        | some nonce =>
            rcases Option.map_eq_some_iff.mp taken with ⟨service, connects, rfl⟩
            exact .connected connects
      · cases taken
        exact .refused _
  | accept number bufferDepth =>
      simp only [step] at taken
      split at taken
      · rename_i accepting
        cases taken
        exact .accepted _ accepting
      · cases taken
  | acceptFailed number =>
      simp only [step] at taken
      split at taken
      · rename_i accepting
        rcases Option.map_eq_some_iff.mp taken with ⟨service, closes, rfl⟩
        exact .rejected accepting closes
      · cases taken
  | session number action =>
      simp only [step] at taken
      split at taken
      · rename_i session serving
        rcases Option.map_eq_some_iff.mp taken with ⟨moved, moves, rfl⟩
        exact .moved (Or.inl rfl) serving moves
      · rename_i session returned
        rcases Option.map_eq_some_iff.mp taken with ⟨moved, moves, rfl⟩
        exact .moved (Or.inr rfl) returned moves
      · cases taken
  | take number =>
      simp only [step] at taken
      split at taken
      · rename_i session connection serving connected
        rcases Option.ite_none_right_eq_some.mp taken with ⟨selecting, taken⟩
        rcases Option.map_eq_some_iff.mp taken with ⟨msg, waiting, rfl⟩
        exact .took serving connected selecting waiting
      · cases taken
  | hand number rounds =>
      simp only [step] at taken
      split at taken
      · rename_i session serving
        split at taken
        · rename_i msg handing
          rcases Option.bind_eq_some_iff.mp taken with ⟨sent, sends, taken⟩
          rcases Option.map_eq_some_iff.mp taken with ⟨service, receives, rfl⟩
          exact .handed serving handing sends receives
        · cases taken
      · cases taken
  | returnHandler number =>
      simp only [step] at taken
      split at taken
      · rename_i session serving
        rcases Option.ite_none_right_eq_some.mp taken with ⟨⟨writerDone, readerDone⟩, taken⟩
        rcases Option.map_eq_some_iff.mp taken with ⟨service, closes, rfl⟩
        exact .returned serving writerDone readerDone closes
      · cases taken
  | service action =>
      rcases Option.ite_none_right_eq_some.mp taken with ⟨allowed, taken⟩
      rcases Option.map_eq_some_iff.mp taken with ⟨service, settles, rfl⟩
      exact .settled allowed settles

end Gateway

end Tassis.Web
