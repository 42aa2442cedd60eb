import Tassis.Database.Candidates
import Tassis.Service.Crashes
import Tassis.Service.Handling

/-! # Logging in

Every way in which the handler of a login can end, and which of them leave the
client logged in or refused.
-/

namespace Tassis.Service

open Model
open Program (Crashes Ends Halts Settles Terminates settles_bind)

variable {library : Library} {opts : Opts} {mayCrash : Handling → Prop} {handling : Handling}
  {msg : Message}

/-! ## How a login ends -/

/-- The search for a number ends, and its result is the last reply of the
database. -/
theorem tryNumbers_settles {identityKey preferredNumber : Text}
    (long : 12 ≤ preferredNumber.length) (rounds iter : Nat)
    (enough : preferredNumber.length < rounds + iter) (inRounds : iter < preferredNumber.length) :
    Settles (handlingRules mayCrash)
      (fun final result => final = { handling with number := some result })
      (tryNumbers identityKey preferredNumber rounds iter) handling := by
  induction rounds generalizing handling iter with
  | zero => omega
  | succ rounds induction =>
      rw [tryNumbers, if_neg (by omega)]
      refine ⟨trivial, fun result _ => ?_⟩
      cases result with
      | ok numbers => exact rfl
      | error err =>
          show Settles _ _ (if err = .typed errNumberTaken ∧
            (Database.candidate preferredNumber iter).2.2 = false then _ else _) _
          split
          · rename_i again
            have early : iter < preferredNumber.length - 12 := by
              by_contra late
              have last := (Database.candidate_lastChance long).mpr (Nat.le_of_not_lt late)
              rw [last] at again
              exact absurd again.2 (by decide)
            exact @induction { handling with number := some (.error err) } (iter + 1) (by omega)
              (by omega)
          · exact rfl

/-- How `startSession` ends. -/
inductive SessionEnds (library : Library) (opts : Opts) (msg : Message)
    (number shortNumber : Text) (before : Handling) : Handling → Prop where
  | opened (subscriber : Subscriber)
      (onTopic : subscriber.topic = topicFor library
        (before.connection.identityKey.getD []) (before.connection.deviceId.getD [])) :
      SessionEnds library opts msg number shortNumber before
        ((before.subscribe opts subscriber).answer msg
          (.chatNumber ⟨number, shortNumber, opts.chatNumberDomain⟩))
  | failed (err : Failure) :
      SessionEnds library opts msg number shortNumber before
        ({ before with subscription := some (.error err) }.answer msg
          (.error (errUnableToOpenSubscriber.withError err)))

theorem startSession_settles (number shortNumber : Text) :
    Settles (handlingRules mayCrash)
      (fun final _ => SessionEnds library opts msg number shortNumber handling final)
      (startSession library opts msg number shortNumber) handling := by
  rw [startSession, startHandlingInbound, settles_bind, settles_bind]
  apply getIdentityKey_settles
  rw [settles_bind]
  apply getDeviceId_settles
  refine ⟨trivial, fun result onTopic => ?_⟩
  cases result with
  | error err => exact error_settles (.failed err)
  | ok subscriber =>
      refine ⟨trivial, fun _ _ => ?_⟩
      have opened : SessionEnds library opts msg number shortNumber handling _ :=
        .opened subscriber onTopic
      show Settles _ _ (do
        if 0 < opts.checkPreKeysInterval then perform (.go .warnPreKeysLowIfNecessary)
        send ⟨msg.sequence, some (.chatNumber ⟨number, shortNumber, opts.chatNumberDomain⟩)⟩)
        _
      by_cases watched : 0 < opts.checkPreKeysInterval
      · rw [if_pos watched]
        rw [Handling.subscribe, if_pos watched] at opened
        refine ⟨trivial, fun _ _ => ?_⟩
        apply send_settles
        convert opened using 1
        simp [Handling.next, handlingRules, handlingInterface]
      · rw [if_neg watched]
        rw [Handling.subscribe, if_neg watched] at opened
        exact send_settles opened

/-- How `handleAuthResponse` ends. -/
inductive LoginEnds (library : Library) (opts : Opts) (msg : Message) (before : Handling) :
    Handling → Prop where
  | refused (err : Error)
      (unproved : ∀ address, ¬Proves library msg before.connection.nonce address)
      (harmless : ¬LoginPanics library msg before.connection.nonce) :
      LoginEnds library opts msg before (before.answer msg (.error err)).close
  | numbered {address : Address} {number shortNumber : Text} {final : Handling}
      (proves : Proves library msg before.connection.nonce address)
      (session : SessionEnds library opts msg number shortNumber
        { before.logIn address with number := some (.ok (number, shortNumber)) } final) :
      LoginEnds library opts msg before final
  /-- The handler goes on although there is no number. -/
  | unnumbered {address : Address} {err : Failure} {final : Handling}
      (proves : Proves library msg before.connection.nonce address)
      (session : SessionEnds library opts msg [] []
        ({ before.logIn address with number := some (.error err) }.answer msg
          (.error (typedError err))).close final) :
      LoginEnds library opts msg before final

theorem completeLogin_settles {address : Address}
    (proves : Proves library msg handling.connection.nonce address) :
    Settles (handlingRules mayCrash)
      (fun final _ => LoginEnds library opts msg handling final)
      (completeLogin library opts msg) (handling.logIn address) := by
  rcases proves with ⟨authResponse, login, payload, decoded, hasAddress, ownNonce, verified⟩
  have long := library.number_length _ _ _ verified
  have proves : Proves library msg handling.connection.nonce address :=
    ⟨authResponse, login, payload, decoded, hasAddress, ownNonce, verified⟩
  rw [completeLogin, getNumber, settles_bind, settles_bind]
  apply getIdentityKey_settles
  show Settles _ _ (tryNumbers address.identityKey (library.number address.identityKey)
    ((library.number address.identityKey).length + 1) 0) _
  apply (tryNumbers_settles long _ 0 (by omega) (by omega)).mono
  rintro _ result rfl
  cases result with
  | ok numbers =>
      apply (startSession_settles numbers.1 numbers.2).mono
      exact fun final _ session => .numbered proves session
  | error err =>
      dsimp only
      rw [settles_bind]
      apply error_settles
      refine ⟨trivial, fun _ _ => ?_⟩
      apply (startSession_settles [] []).mono
      exact fun final _ session => .unnumbered proves session

theorem handleAuthResponse_settles {authResponse : AuthResponse}
    (payload : msg.payload = some (.authResponse authResponse))
    (crash : LoginPanics library msg handling.connection.nonce → mayCrash handling) :
    Settles (handlingRules mayCrash)
      (fun final _ => LoginEnds library opts msg handling final)
      (handleAuthResponse library opts msg authResponse) handling := by
  rw [handleAuthResponse]
  cases decoded : library.unmarshalLogin authResponse.login with
  | error err =>
      apply refuse_settles
      have undecodable : ∀ authResponse' login,
          msg.payload = some (.authResponse authResponse') →
          library.unmarshalLogin authResponse'.login ≠ .ok login := by
        intro authResponse' login payload' decoded'
        cases payload.symm.trans payload'
        cases decoded.symm.trans decoded'
      refine .refused _ ?_ ?_
      · rintro address ⟨_, _, payload', decoded', _⟩
        exact undecodable _ _ payload' decoded'
      · rintro ⟨_, _, payload', decoded', _⟩
        exact undecodable _ _ payload' decoded'
  | ok login =>
      refine ⟨trivial, fun nonce same => ?_⟩
      cases of_decide_eq_true same
      show Settles _ _ (if handling.connection.nonce ≠ login.nonce then _ else _) _
      split
      · rename_i otherNonce
        apply refuse_settles
        refine .refused _ ?_ ?_
        · exact fun address proves => otherNonce ((proves_iff payload decoded).mp proves).2.1.symm
        · exact fun panics => otherNonce ((loginPanics_iff payload decoded).mp panics).1.symm
      · rename_i ownNonce
        have ownNonce := (not_not.mp ownNonce).symm
        cases hasAddress : login.address with
        | none =>
            exact crash ((loginPanics_iff payload decoded).mpr ⟨ownNonce, Or.inl hasAddress⟩)
        | some address =>
            dsimp only
            cases verified : library.verify address.identityKey authResponse.login
                authResponse.signature with
            | none =>
                exact crash ((loginPanics_iff payload decoded).mpr
                  ⟨ownNonce, Or.inr ⟨address, hasAddress, verified⟩⟩)
            | some valid =>
                cases valid with
                | true =>
                    refine ⟨trivial, fun _ _ => ⟨trivial, fun _ _ => ?_⟩⟩
                    exact completeLogin_settles ((proves_iff payload decoded).mpr
                      ⟨hasAddress, ownNonce, verified⟩)
                | false =>
                    apply refuse_settles
                    refine .refused _ ?_ ?_
                    · intro address' proves
                      rw [proves_iff payload decoded, hasAddress] at proves
                      rcases proves with ⟨same, _, valid⟩
                      cases same
                      rw [verified] at valid
                      cases valid
                    · rw [loginPanics_iff payload decoded, hasAddress]
                      rintro ⟨_, noAddress | ⟨_, same, unverifiable⟩⟩
                      · cases noAddress
                      · cases same
                        rw [verified] at unverifiable
                        cases unverifiable

theorem LoginEnds.not_panics {final : Handling}
    (ends : LoginEnds library opts msg handling final) :
    ¬LoginPanics library msg handling.connection.nonce := by
  cases ends with
  | refused err unproved harmless => exact harmless
  | numbered proves session => exact proves.not_panics
  | unnumbered proves session => exact proves.not_panics

/-! ## All or nothing -/

/-- The client is logged in: the connection acts for the address of the login, its
messages are subscribed to, and it was sent the number that was registered. -/
def LoggedIn (library : Library) (opts : Opts) (msg : Message) (before : Connection)
    (final : Handling) : Prop :=
  ∃ address subscriber number shortNumber, Proves library msg before.nonce address ∧
    final.connection.ActsFor address ∧ final.connection.closed = before.closed ∧
    subscriber.topic = topicForAddr library address ∧
    .handleInbound subscriber ∈ final.started ∧
    final.number = some (.ok (number, shortNumber)) ∧
    final.connection.inbox = before.inbox ++
      [⟨msg.sequence, some (.chatNumber ⟨number, shortNumber, opts.chatNumberDomain⟩)⟩]

/-- The client was sent one error, nothing was started, and the connection is
anonymous or closed. -/
def Refused (msg : Message) (before : Connection) (final : Handling) : Prop :=
  (∃ err, final.connection.inbox = before.inbox ++ [⟨msg.sequence, some (.error err)⟩]) ∧
    final.started = [] ∧ (∀ subscriber, final.subscription ≠ some (.ok subscriber)) ∧
    (final.connection.Anonymous ∨ final.connection.closed = true)

def AllOrNothing (library : Library) (opts : Opts) (msg : Message) (before : Connection)
    (final : Handling) : Prop :=
  LoggedIn library opts msg before final ∨ Refused msg before final

/-- The database has given a number, and the broker has opened the subscription
unless the connection had been closed. -/
def Provided (before : Connection) (final : Handling) : Prop :=
  (∀ err, final.number ≠ some (.error err)) ∧
    (before.closed = true ∨ ∀ err, final.subscription ≠ some (.error err))

variable {connection : Connection} {final : Handling}

theorem AllOrNothing.inbox (allOrNothing : AllOrNothing library opts msg connection final) :
    ∃ answer, final.connection.inbox = connection.inbox ++ [answer] := by
  rcases allOrNothing with ⟨_, _, _, _, _, _, _, _, _, _, sent⟩ | ⟨⟨err, sent⟩, _⟩
  · exact ⟨_, sent⟩
  · exact ⟨_, sent⟩

theorem SessionEnds.inbox {number shortNumber : Text}
    (ends : SessionEnds library opts msg number shortNumber handling final) :
    ∃ answer, final.connection.inbox = handling.connection.inbox ++ [answer] := by
  cases ends with
  | opened subscriber onTopic => exact ⟨_, rfl⟩
  | failed err => exact ⟨_, rfl⟩

theorem SessionEnds.number {number shortNumber : Text}
    (ends : SessionEnds library opts msg number shortNumber handling final) :
    final.number = handling.number := by
  cases ends with
  | opened subscriber onTopic => rfl
  | failed err => rfl

/-- A login without a number is answered twice. -/
theorem SessionEnds.inbox_ne {number shortNumber : Text} {first : Message}
    (ends : SessionEnds library opts msg number shortNumber handling final)
    (answered : handling.connection.inbox = connection.inbox ++ [first]) (answer : Message) :
    final.connection.inbox ≠ connection.inbox ++ [answer] := by
  rcases ends.inbox with ⟨second, inbox⟩
  rw [inbox, answered]
  intro equal
  simpa using congrArg List.length equal

theorem LoginEnds.allOrNothing_iff (anonymous : connection.Anonymous)
    (ends : LoginEnds library opts msg (.start connection) final) :
    AllOrNothing library opts msg connection final ↔ Provided connection final := by
  cases ends with
  | refused err unproved harmless =>
      refine iff_of_true (Or.inr ?_) ⟨fun _ => nofun, Or.inr fun _ => nofun⟩
      exact ⟨⟨err, rfl⟩, rfl, fun _ => nofun, Or.inl anonymous⟩
  | @numbered address number shortNumber _ proves session =>
      cases session with
      | opened subscriber onTopic =>
          refine iff_of_true (Or.inl ?_) ⟨fun _ => nofun, Or.inr fun _ => nofun⟩
          exact ⟨address, subscriber, number, shortNumber, proves, ⟨rfl, rfl⟩, rfl, onTopic,
            List.mem_cons_self, rfl, rfl⟩
      | failed err =>
          constructor
          · rintro (⟨_, _, _, _, _, _, _, _, _, _, sent⟩ | ⟨_, _, _, still | closed⟩)
            · have answers := List.append_cancel_left sent
              cases answers
            · exact absurd still proves.identityKey_ne
            · exact ⟨fun _ => nofun, Or.inl closed⟩
          · rintro ⟨_, closed | opened⟩
            · exact Or.inr ⟨⟨_, rfl⟩, rfl, fun _ => nofun, Or.inr closed⟩
            · exact absurd rfl (opened err)
  | @unnumbered address err _ proves session =>
      refine iff_of_false ?_ fun provided => provided.1 err session.number
      intro allOrNothing
      rcases allOrNothing.inbox with ⟨answer, inbox⟩
      exact session.inbox_ne rfl answer inbox

theorem login_settles (anonymous : connection.Anonymous) {authResponse : AuthResponse}
    (payload : msg.payload = some (.authResponse authResponse))
    (crash : LoginPanics library msg connection.nonce → mayCrash (.start connection)) :
    Settles (handlingRules mayCrash)
      (fun final _ => LoginEnds library opts msg (.start connection) final)
      (doHandleOutboundMessage library opts msg) (.start connection) := by
  rw [doHandleOutboundMessage, payload]
  apply ifAnonymous_settles
  · exact fun authenticated => absurd anonymous authenticated
  · exact fun _ => handleAuthResponse_settles payload crash

/-- On an anonymous connection, a login comes to an end without a panic and is all or
nothing exactly if it does not panic, the database gives a number and the broker
opens the subscription, or the connection had been closed before the broker failed. -/
theorem login_is_all_or_nothing_iff (anonymous : connection.Anonymous)
    {authResponse : AuthResponse} (payload : msg.payload = some (.authResponse authResponse)) :
    (Crashes handlingInterface (doHandleOutboundMessage library opts msg) (.start connection) ↔
        LoginPanics library msg connection.nonce) ∧
      Terminates handlingInterface (doHandleOutboundMessage library opts msg)
        (.start connection) ∧
      ∀ outcome final, Halts handlingInterface (doHandleOutboundMessage library opts msg)
          (.start connection) outcome final →
        (outcome = .ended ∧ AllOrNothing library opts msg connection final ↔
          ¬LoginPanics library msg connection.nonce ∧ Provided connection final) := by
  have settles : Settles (handlingRules fun _ => LoginPanics library msg connection.nonce)
      (fun final _ => ¬LoginPanics library msg connection.nonce ∧
        (AllOrNothing library opts msg connection final ↔ Provided connection final))
      (doHandleOutboundMessage library opts msg) (.start connection) :=
    (login_settles anonymous payload id).mono
      fun _ _ ends => ⟨ends.not_panics, ends.allOrNothing_iff anonymous⟩
  refine ⟨⟨?_, ?_⟩, settles.terminates, fun _ _ halts => settles.obeys.ended_iff halts⟩
  · rintro ⟨_, crashes⟩
    exact settles.obeys.of_crashes crashes
  · exact crashes_login anonymous (decide_eq_true rfl) (decide_eq_true rfl)

/-- A login comes to the point where the identity is stored. -/
theorem login_ends (anonymous : connection.Anonymous) {address : Address}
    (proves : Proves library msg connection.nonce address)
    (ends : Ends handlingInterface (completeLogin library opts msg)
      ((Handling.start connection).logIn address) final) :
    Ends handlingInterface (doHandleOutboundMessage library opts msg) (.start connection)
      final := by
  rcases proves with ⟨authResponse, login, payload, decoded, hasAddress, ownNonce, verified⟩
  rw [doHandleOutboundMessage, payload]
  refine .call connection.identityKey (decide_eq_true rfl) ?_
  show Ends _ (if decide ((connection.identityKey.getD []).length ≠ 0) = true then _ else
    handleAuthResponse library opts msg authResponse) _ _
  rw [show connection.identityKey.getD [] = [] from anonymous, if_neg (by simp),
    handleAuthResponse, decoded]
  refine .call connection.nonce (decide_eq_true rfl) ?_
  show Ends _ (if connection.nonce ≠ login.nonce then _ else _) _ _
  rw [if_neg (not_not_intro ownNonce.symm), hasAddress]
  dsimp only
  rw [verified]
  exact .call () rfl (.call () rfl ends)

theorem not_allOrNothing (anonymous : connection.Anonymous) {address : Address}
    (proves : Proves library msg connection.nonce address)
    (ends : Ends handlingInterface (doHandleOutboundMessage library opts msg)
      (.start connection) final)
    (unprovided : ¬Provided connection final) :
    ¬AllOrNothing library opts msg connection final := by
  rcases proves with ⟨_, _, payload, _⟩
  have settles : Settles (handlingRules fun _ => True)
      (fun final _ => LoginEnds library opts msg (.start connection) final)
      (doHandleOutboundMessage library opts msg) (.start connection) :=
    login_settles anonymous payload fun _ => trivial
  rw [(settles.obeys.of_ends ends).allOrNothing_iff anonymous]
  exact unprovided

def outage : Failure := .other "connection refused".toList

/-- If the database fails, the client is sent an error and an empty number, and its
messages are subscribed to. -/
theorem newcomer_without_number :
    ∃ final, Ends handlingInterface (doHandleOutboundMessage plainLibrary plainOpts newcomer)
        (.start (.initial "nonce".toList)) final ∧
      final.number = some (.error outage) ∧ final.connection.inbox.map Message.payload =
        [some (.error (typedError outage)), some (.chatNumber ⟨[], [], "domain".toList⟩)] ∧
      final.started ≠ [] :=
  ⟨_, login_ends rfl newcomer_proves (.call (some "key".toList) rfl
    (.call (.error outage) rfl (.call () rfl (.call () rfl
      (.call (some "key".toList) rfl (.call (some "device".toList) rfl
        (.call (.ok ⟨topicFor plainLibrary "key".toList "device".toList⟩) rfl
          (.call () rfl (.call () rfl .done))))))))), rfl, rfl, nofun⟩

/-- If the broker fails, the client stays logged in without a subscription. -/
theorem newcomer_without_subscription :
    ∃ final, Ends handlingInterface (doHandleOutboundMessage plainLibrary plainOpts newcomer)
        (.start (.initial "nonce".toList)) final ∧
      final.subscription = some (.error outage) ∧ final.connection.inbox.map Message.payload =
        [some (.error (errUnableToOpenSubscriber.withError outage))] ∧
      ¬final.connection.Anonymous ∧ final.connection.closed = false :=
  ⟨_, login_ends rfl newcomer_proves (.call (some "key".toList) rfl
    (.call (.ok ("12".toList, "1".toList)) rfl
      (.call (some "key".toList) rfl (.call (some "device".toList) rfl
        (.call (.error outage) rfl (.call () rfl .done)))))), rfl, rfl, by decide, rfl⟩

theorem failed_logins_go_on :
    let connection := Connection.initial "nonce".toList
    Crashes handlingInterface (doHandleOutboundMessage plainLibrary plainOpts
        (loginMessage (some ⟨"key".toList, "device".toList⟩) "nonce".toList "short".toList))
      (.start connection) ∧
    (∃ final, Ends handlingInterface (doHandleOutboundMessage plainLibrary plainOpts newcomer)
        (.start connection) final ∧
      final.connection.inbox.map Message.payload =
        [some (.error (typedError outage)), some (.chatNumber ⟨[], [], "domain".toList⟩)] ∧
      final.started ≠ [] ∧ ¬AllOrNothing plainLibrary plainOpts newcomer connection final) ∧
    ∃ final, Ends handlingInterface (doHandleOutboundMessage plainLibrary plainOpts newcomer)
        (.start connection) final ∧
      final.connection.inbox.map Message.payload =
        [some (.error (errUnableToOpenSubscriber.withError outage))] ∧
      ¬final.connection.Anonymous ∧ final.connection.closed = false ∧
      ¬AllOrNothing plainLibrary plainOpts newcomer connection final := by
  intro connection
  refine ⟨?_, ?_, ?_⟩
  · exact crashes_login rfl (decide_eq_true rfl) (decide_eq_true rfl)
      ⟨_, _, rfl, unmarshalLogin_encode _, rfl, Or.inr ⟨_, rfl, rfl⟩⟩
  · rcases newcomer_without_number with ⟨final, ends, number, sent, started⟩
    refine ⟨final, ends, sent, started, not_allOrNothing rfl newcomer_proves ends ?_⟩
    exact fun provided => provided.1 outage number
  · rcases newcomer_without_subscription with
      ⟨final, ends, subscription, sent, authenticated, opened⟩
    refine ⟨final, ends, sent, authenticated, opened,
      not_allOrNothing rfl newcomer_proves ends ?_⟩
    rintro ⟨_, closed | subscribed⟩
    · cases closed
    · exact subscribed outage subscription

theorem newcomer_is_all_or_nothing :
    let connection := Connection.initial "nonce".toList
    ¬Crashes handlingInterface (doHandleOutboundMessage plainLibrary plainOpts newcomer)
        (.start connection) ∧
      ∃ final, Ends handlingInterface (doHandleOutboundMessage plainLibrary plainOpts newcomer)
          (.start connection) final ∧
        Provided connection final ∧
        AllOrNothing plainLibrary plainOpts newcomer connection final := by
  intro connection
  have answer := @login_is_all_or_nothing_iff plainLibrary plainOpts newcomer connection rfl
    _ rfl
  have harmless := newcomer_proves.not_panics
  have ends : Ends handlingInterface (doHandleOutboundMessage plainLibrary plainOpts newcomer)
      (.start connection) _ :=
    login_ends rfl newcomer_proves (.call (some "key".toList) rfl
      (.call (.ok ("12".toList, "1".toList)) rfl
        (.call (some "key".toList) rfl (.call (some "device".toList) rfl
          (.call (.ok ⟨topicFor plainLibrary "key".toList "device".toList⟩) rfl
            (.call () rfl (.call () rfl .done)))))))
  have outcome := answer.2.2 _ _ ends
  refine ⟨fun crashes => harmless (answer.1.mp crashes), _, ends, ?provided,
    (outcome.mpr ⟨harmless, ?provided⟩).2⟩
  exact ⟨fun _ => nofun, Or.inr fun _ => nofun⟩

end Tassis.Service
