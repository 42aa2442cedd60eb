import Tassis.Web.Order
import Tassis.Service.Rejections

/-! # When handlers return

A handler returns after both goroutines of its session have. The goroutine that reads
from the client may hold a message that it hands to the service, and it does not
notice when the loop that would receive the message has ended.
-/

namespace Tassis.Web

open Model
open Service (Connection Library Opts)

namespace Session

variable {wire : Wire} {session next : Session} {action : Action}

/-- The client does not move the goroutines of the server. -/
theorem reader_of_stepClient {client : Client}
    (taken : session.stepClient wire client action = some next) :
    next.reader = session.reader := by
  cases action <;> simp only [stepClient] at taken
  case clientTake =>
      split at taken
      · cases taken
        unfold clientTake
        split <;> rfl
      · cases taken
  case clientRead =>
      split at taken
      · cases taken
        unfold clientRead
        simp only
        split <;> rfl
      · cases taken
  all_goals
    grind [withClient, withSocket, close]

theorem reader_of_stepOther (taken : session.stepOther action = some next) :
    next.reader = session.reader := by
  cases action <;> simp only [stepOther] at taken
  all_goals
    grind [withSocket]

/-- While the reader holds a message, no step of the session changes that. -/
theorem reader_of_step {msg : Message} (handing : session.reader = .handing msg)
    (taken : session.step wire action = some next) : next.reader = .handing msg := by
  cases action <;> simp only [step, handing] at taken
  case breakOff | write | writeFailed | stopWriter | read | readFailed =>
      grind [withSocket, close]
  all_goals
    split at taken
    · exact (reader_of_stepClient taken).trans handing
    · exact (reader_of_stepOther taken).trans handing

end Session

namespace Gateway

variable {wire : Wire} {library : Library} {opts : Opts} {gateway next : Gateway} {number : Nat}

/-- One state of the gateway after another. -/
def Runs (wire : Wire) (library : Library) (opts : Opts) (gateway later : Gateway) : Prop :=
  Transition.Run (step wire library opts) Transition.anyStep gateway later

/-! ## The loop of a connection -/

/-- The loop over the messages of a client has returned. -/
def Ended (state : Service.State) (number : Nat) : Prop :=
  ∃ view, state.threads (.outbound number) = some ⟨.done (), view⟩

/-- A loop that has returned stays so, and its connection is not replaced. -/
theorem Ended.step {state later : Service.State} (ended : Ended state number)
    (connected : state.connections number ≠ none) {action : Service.Action}
    (taken : Service.step library opts state action = some later) : Ended later number := by
  rcases ended with ⟨view, present⟩
  by_cases concerns : action.Concerns number
  · cases Service.stepCase_of_step taken with
    | connected _ _ unused =>
        cases concerns
        exact absurd unused connected
    | performed _ _ running =>
        cases concerns
        cases present.symm.trans running
    | _ => exact concerns.elim
  · exact ⟨view, (Service.outbound_of_step taken concerns).1.trans present⟩

/-- A loop that has returned receives nothing. -/
theorem Ended.not_receives {state later : Service.State} (ended : Ended state number)
    {msg : Message} {rounds : Nat} : Service.step library opts state
      (.perform (.outbound number) .nextMessage (some msg) rounds) ≠ some later := by
  intro taken
  rcases ended with ⟨view, present⟩
  rcases Service.performNext_cases taken with ⟨rest, view', present', _, rfl⟩
  cases present.symm.trans present'

/-! ## Connections of handlers -/

/-- Handlers that got that far are connected to the service. -/
structure Owned (library : Library) (opts : Opts) (gateway : Gateway) : Prop where
  reaches : Service.Reaches library opts gateway.service
  connected : ∀ number handler, gateway.handlers[number]? = some handler →
    (∀ status, handler ≠ .refused status) → gateway.service.connections number ≠ none

theorem connected_of_step {state later : Service.State}
    (reaches : Service.Reaches library opts state) {action : Service.Action}
    (taken : Service.step library opts state action = some later)
    (connected : state.connections number ≠ none) : later.connections number ≠ none := by
  rcases Option.ne_none_iff_exists'.mp connected with ⟨connection, stored⟩
  rcases ((Service.Sound.of_reaches reaches).extends taken).connections number connection stored with
    ⟨connection', stored', _⟩
  rw [stored']
  exact Option.some_ne_none _

namespace Owned

theorem serviceStep (owned : gateway.Owned library opts) {later : Service.State}
    {action : Service.Action}
    (taken : Service.step library opts gateway.service action = some later) :
    (gateway.withService later).Owned library opts where
  reaches := owned.reaches.tail trivial taken
  connected number handler present notRefused :=
    connected_of_step owned.reaches taken (owned.connected number handler present notRefused)

theorem setHandler (owned : gateway.Owned library opts) {handler : Handler}
    (present : gateway.handlers[number]? = some handler)
    (notRefused : ∀ status, handler ≠ .refused status) (later : Handler) :
    (gateway.setHandler number later).Owned library opts where
  reaches := owned.reaches
  connected other handler' present' notRefused' := by
    by_cases same : number = other
    · subst same
      exact owned.connected number handler present notRefused
    · refine owned.connected other handler' ?_ notRefused'
      rwa [← List.getElem?_set_ne same]

theorem step (owned : gateway.Owned library opts) {action : Action}
    (taken : gateway.step wire library opts action = some next) : next.Owned library opts := by
  have arrived (later : Handler) (number : Nat) (handler : Handler)
      (present : (gateway.handlers ++ [later])[number]? = some handler)
      (notRefused : ∀ status, handler ≠ .refused status) :
      gateway.service.connections number ≠ none ∨
        number = gateway.handlers.length ∧ handler = later := by
    have earlier := owned.connected number handler
    grind
  cases effect_of_step taken with
  | refused status =>
      refine ⟨owned.reaches, fun number handler present notRefused => ?_⟩
      rcases arrived _ number handler present notRefused with connected | ⟨_, isRefused⟩
      · exact connected
      · exact absurd isRefused (notRefused status)
  | @connected nonce rounds service connects =>
      refine ⟨owned.reaches.tail trivial connects, fun number handler present notRefused => ?_⟩
      rcases arrived _ number handler present notRefused with connected | ⟨rfl, _⟩
      · exact connected_of_step owned.reaches connects connected
      · cases Service.stepCase_of_step connects
        exact (Function.update_self _ _ _).trans_ne (Option.some_ne_none _)
  | accepted bufferDepth accepting => exact { owned.setHandler accepting (by simp) _ with }
  | rejected accepting closes => exact (owned.setHandler accepting (by simp) _).serviceStep closes
  | @moved number session later action handler isHandler present moves =>
      exact owned.setHandler present (by rcases isHandler with rfl | rfl <;> simp) _
  | took serving connected selecting waiting => exact owned.setHandler serving (by simp) _
  | handed serving handing sends receives =>
      exact ((owned.setHandler serving (by simp) _).serviceStep sends).serviceStep receives
  | returned serving writerDone readerDone closes =>
      exact { (owned.setHandler serving (by simp) _).serviceStep closes with }
  | settled allowed settles => exact owned.serviceStep settles

theorem of_reaches (reaches : gateway.Reaches wire library opts) :
    gateway.Owned library opts := by
  have starts : (Gateway.initial opts).Owned library opts := by
    refine ⟨.refl _, ?_⟩
    intro number handler present
    simp [Gateway.initial] at present
  exact Transition.Run.preserves reaches starts fun _ _ _ _ owned _ taken => owned.step taken

end Owned

/-! ## Handlers that hang -/

/-- The reader of the session holds a message for a loop that has returned. -/
structure Hangs (gateway : Gateway) (number : Nat) (msg : Message) : Prop where
  handing : ∃ session, gateway.handlers[number]? = some (.serving session) ∧
    session.reader = .handing msg
  ended : Ended gateway.service number

namespace Hangs

variable {msg : Message}

/-- The handler itself has not moved. -/
theorem of_same (hangs : gateway.Hangs number msg)
    (same : next.handlers[number]? = gateway.handlers[number]?)
    (ended : Ended next.service number) : next.Hangs number msg := by
  rcases hangs.handing with ⟨session, serving, handing⟩
  exact ⟨⟨session, same.trans serving, handing⟩, ended⟩

/-- The session of the handler has moved, with the message in hand. -/
theorem of_set {session later : Session}
    (serving : gateway.handlers[number]? = some (.serving session))
    (set : next.handlers = gateway.handlers.set number (.serving later))
    (handing : later.reader = .handing msg) (ended : Ended next.service number) :
    next.Hangs number msg := by
  rcases List.getElem?_eq_some_iff.mp serving with ⟨bound, _⟩
  exact ⟨⟨later, by rw [set, List.getElem?_set_self bound], handing⟩, ended⟩

theorem step (hangs : gateway.Hangs number msg) (owned : gateway.Owned library opts)
    {action : Action} (taken : gateway.step wire library opts action = some next) :
    next.Hangs number msg := by
  rcases hangs.handing with ⟨session, serving, handing⟩
  have connected := owned.connected number _ serving (by simp)
  rcases List.getElem?_eq_some_iff.mp serving with ⟨bound, _⟩
  have ended {later : Service.State} {action : Service.Action}
      (moves : Service.step library opts gateway.service action = some later) :
      Ended later number := hangs.ended.step connected moves
  cases effect_of_step taken with
  | refused status => exact hangs.of_same (List.getElem?_append_left bound) hangs.ended
  | connected connects => exact hangs.of_same (List.getElem?_append_left bound) (ended connects)
  | @accepted other bufferDepth accepting =>
      refine hangs.of_same (List.getElem?_set_ne ?_) hangs.ended
      rintro rfl
      cases serving.symm.trans accepting
  | @rejected other service accepting closes =>
      refine hangs.of_same (List.getElem?_set_ne ?_) (ended closes)
      rintro rfl
      cases serving.symm.trans accepting
  | @moved other session' later action handler isHandler present moves =>
      by_cases own : other = number
      · subst own
        rcases isHandler with rfl | rfl
        · cases serving.symm.trans present
          exact of_set serving rfl (Session.reader_of_step handing moves) hangs.ended
        · cases serving.symm.trans present
      · exact hangs.of_same (List.getElem?_set_ne own) hangs.ended
  | @took other session' connection msg' serving' connected' selecting waiting =>
      by_cases own : other = number
      · subst own
        cases serving.symm.trans serving'
        refine of_set serving rfl ?_ hangs.ended
        unfold taking
        split <;> exact handing
      · exact hangs.of_same (List.getElem?_set_ne own) hangs.ended
  | @handed other session' msg' sent service rounds serving' handing' sends receives =>
      have connected' := connected_of_step owned.reaches sends connected
      have ended' := (ended sends).step connected' receives
      refine hangs.of_same (List.getElem?_set_ne ?_) ended'
      rintro rfl
      exact (ended sends).not_receives receives
  | @returned other session' service serving' writerDone readerDone closes =>
      refine hangs.of_same (List.getElem?_set_ne ?_) (ended closes)
      rintro rfl
      cases serving.symm.trans serving'
      cases readerDone.symm.trans handing
  | settled allowed settles => exact hangs.of_same rfl (ended settles)

/-- The handler hangs for good. -/
theorem of_run (hangs : gateway.Hangs number msg) (reaches : gateway.Reaches wire library opts)
    (run : Runs wire library opts gateway next) : next.Hangs number msg := by
  apply Transition.Run.preserves run hangs
  intro current action later reached hangs _ taken
  exact hangs.step (Owned.of_reaches (reaches.trans reached)) taken

end Hangs

/-! ## Handlers that return -/

/-- A step of a session is one of the gateway. -/
theorem drive {session later : Session}
    (serving : gateway.handlers[number]? = some (.serving session)) {action : Session.Action}
    (moves : session.step wire action = some later) :
    ∃ next, Runs wire library opts gateway next ∧ next.handlers[number]? = some (.serving later) := by
  rcases List.getElem?_eq_some_iff.mp serving with ⟨bound, _⟩
  have taken : gateway.step wire library opts (.session number action) =
      some (gateway.setHandler number (.serving later)) := by
    simp [step, serving, moves]
  exact ⟨_, .single trivial taken, List.getElem?_set_self bound⟩

/-- A reader that holds no message can fail to read. -/
theorem stops_reader {session : Session}
    (serving : gateway.handlers[number]? = some (.serving session))
    (free : ∀ msg, session.reader ≠ .handing msg) :
    ∃ later session', Runs wire library opts gateway later ∧
      later.handlers[number]? = some (.serving session') ∧ session'.reader = .done := by
  cases position : session.reader with
  | handing msg => exact absurd position (free msg)
  | done => exact ⟨gateway, session, .refl _, serving, position⟩
  | reading =>
      have moves : session.step wire .readFailed =
          some { session.close with reader := .done } := by
        simp [Session.step, position]
      rcases drive serving moves with ⟨later, run, serving'⟩
      exact ⟨later, _, run, serving', rfl⟩

/-- Then the writer stops, or fails to write. -/
theorem stops_writer {session : Session}
    (serving : gateway.handlers[number]? = some (.serving session))
    (readerDone : session.reader = .done) :
    ∃ later session', Runs wire library opts gateway later ∧
      later.handlers[number]? = some (.serving session') ∧ session'.writer = .done ∧
      session'.reader = .done := by
  cases position : session.writer with
  | done => exact ⟨gateway, session, .refl _, serving, position, readerDone⟩
  | selecting =>
      have moves : session.step wire .stopWriter = some { session with writer := .done } := by
        simp [Session.step, position, readerDone]
      rcases drive serving moves with ⟨later, run, serving'⟩
      exact ⟨later, _, run, serving', rfl, readerDone⟩
  | writing bytes =>
      have moves : session.step wire (.writeFailed false) = some { session with
          socket := Session.afterFailure session.socket false (·.writeDown bytes)
          writer := .done } := by
        simp [Session.step, position]
      rcases drive serving moves with ⟨later, run, serving'⟩
      exact ⟨later, _, run, serving', rfl, readerDone⟩

/-- The handler has returned. -/
def Returned (gateway : Gateway) (number : Nat) : Prop :=
  ∃ session, gateway.handlers[number]? = some (.returned session)

theorem returns {session : Session} {connection : Connection}
    (serving : gateway.handlers[number]? = some (.serving session))
    (writerDone : session.writer = .done) (readerDone : session.reader = .done)
    (stored : gateway.service.connections number = some connection) :
    ∃ later, Runs wire library opts gateway later ∧ later.Returned number := by
  rcases List.getElem?_eq_some_iff.mp serving with ⟨bound, _⟩
  have closes : Service.step library opts gateway.service (.close number) =
      some (gateway.service.setConnection number { connection with closed := true }) := by
    simp [Service.step, stored]
  have taken : gateway.step wire library opts (.returnHandler number) =
      some { (gateway.setHandler number (.returned session.close)).withService
          (gateway.service.setConnection number { connection with closed := true }) with
        activeConnections := gateway.activeConnections - 1 } := by
    simp [step, serving, writerDone, readerDone, closes]
  exact ⟨_, .single trivial taken, session.close, List.getElem?_set_self bound⟩

/-- After the loop of its connection has returned, a handler can return exactly if its
reader holds no message. Otherwise its session is counted as active for ever. -/
theorem handler_returns_iff (reaches : gateway.Reaches wire library opts) {session : Session}
    (serving : gateway.handlers[number]? = some (.serving session))
    (ended : Ended gateway.service number) :
    ((∃ later, Runs wire library opts gateway later ∧ later.Returned number) ↔
        ∀ msg, session.reader ≠ .handing msg) ∧
      ∀ msg, session.reader = .handing msg → ∀ later, Runs wire library opts gateway later →
        0 < later.activeConnections := by
  refine ⟨⟨?_, ?_⟩, ?_⟩
  · rintro ⟨later, run, session', returned⟩ msg handing
    have hangs : gateway.Hangs number msg := ⟨⟨session, serving, handing⟩, ended⟩
    rcases (hangs.of_run reaches run).handing with ⟨_, serving', _⟩
    cases returned.symm.trans serving'
  · intro free
    rcases @stops_reader wire library opts gateway number session serving free with
      ⟨reading, _, run, serving', readerDone⟩
    rcases stops_writer serving' readerDone with
      ⟨writing, _, run', serving'', writerDone, readerDone'⟩
    have finished := run.trans run'
    have connected := (Owned.of_reaches (reaches.trans finished)).connected number _ serving'' (by simp)
    rcases Option.ne_none_iff_exists'.mp connected with ⟨connection, stored⟩
    rcases returns serving'' writerDone readerDone' stored with ⟨later, returns, returned⟩
    exact ⟨later, finished.trans returns, returned⟩
  · intro msg handing later run
    have hangs : gateway.Hangs number msg := ⟨⟨session, serving, handing⟩, ended⟩
    rcases (hangs.of_run reaches run).handing with ⟨session', serving', _⟩
    have active := (Orderly.of_reaches (reaches.trans run)).active
    have positive : 0 < later.handlers.countP Handler.isServing :=
      List.countP_pos_iff.mpr ⟨_, List.mem_of_getElem? serving', rfl⟩
    omega

/-- The login of a client is rejected, and then the client sends another one. -/
def hangTrace : List Action :=
  let rejects : List Service.Action := [.perform (.outbound 0) .loadIdentityKey none 0,
    .perform (.outbound 0) .authNonce "nonce".toList 0,
    .perform (.outbound 0) (.send (newError Service.Audit.wrongLogin
      (typedError (.typed errUnauthorized)))) () 0,
    .perform (.outbound 0) .close () 0, .perform (.outbound 0) .nextMessage none 0,
    .perform (.outbound 0) .close () 0]
  [.serveHTTP apiURI (some "nonce".toList) 2, .accept 0 none, .session 0 (.writeBytes []),
    .session 0 .read, .hand 0 0] ++ rejects.map .service ++
    [.session 0 (.writeBytes ['1']), .session 0 .read]

def hasReturned : Service.Task Unit → Bool
  | .done _ => true
  | .call .. | .crash | .stopped => false

def hangWire : Wire := tableWire [Service.Audit.wrongLogin, Service.Audit.rightLogin]

theorem handler_hangs_after_rejection :
    ∃ gateway, Reaches hangWire Service.plainLibrary Service.plainOpts gateway ∧
      ∀ later, Runs hangWire Service.plainLibrary Service.plainOpts gateway later →
        ¬later.Returned 0 ∧ 0 < later.activeConnections := by
  have found : ∃ gateway, Reaches hangWire Service.plainLibrary Service.plainOpts gateway ∧
      (∃ handler, handler ∈ gateway.handlers[0]? ∧ handler.isServing = true ∧
        ∃ session, session ∈ handler.session? ∧
          session.reader = .handing Service.Audit.rightLogin) ∧
      ((gateway.service.threads (.outbound 0)).any fun thread =>
        hasReturned thread.program) = true :=
    Transition.Run.exists_of_execute hangTrace (by decide +kernel)
  rcases found with ⟨gateway, reaches, ⟨handler, present, isServing, session, isSession, handing⟩,
    hasEnded⟩
  have serving : gateway.handlers[0]? = some (.serving session) := by
    cases handler <;> cases isServing
    cases isSession
    exact present
  have ended : Ended gateway.service 0 := by
    rcases (Option.any_eq_true _ _).mp hasEnded with ⟨⟨program, view⟩, found, isDone⟩
    cases program with
    | done value => exact ⟨view, found⟩
    | call | crash | stopped => cases isDone
  have fate := handler_returns_iff reaches serving ended
  refine ⟨gateway, reaches, fun later run => ⟨?_, fate.2 _ handing later run⟩⟩
  intro returned
  exact fate.1.mp ⟨later, run, returned⟩ _ handing

end Gateway

end Tassis.Web
