import Tassis.Service.Logins

/-! # Answers to requests

Which requests are answered with exactly one message, whatever happens while
they are handled.
-/

namespace Tassis.Service

open Model
open Program (Crashes Ends Halts Settles Terminates settles_bind settles_perform)

variable {library : Library} {opts : Opts} {mayCrash : Handling → Prop} {handling : Handling}
  {msg : Message}

/-! ## Single answers -/

/-- The answers that a request may get. -/
inductive Responds : Payload → Payload → Prop where
  | failed (request : Payload) (err : Error) : Responds request (.error err)
  | loggedIn (authResponse : AuthResponse) (chatNumber : ChatNumber) :
      Responds (.authResponse authResponse) (.chatNumber chatNumber)
  | registered (register : Register) : Responds (.register register) .ack
  | unregistered : Responds .unregister .ack
  | preKeys (request : RequestPreKeys) (preKeys : List (PreKey Text)) :
      Responds (.requestPreKeys request) (.preKeys preKeys)
  | authorized (numRequested : Int) (authorizations : List UploadAuthorization) :
      Responds (.requestUploadAuthorizations numRequested) (.uploadAuthorizations authorizations)
  | foundByShortNumber (shortNumber : Text) (chatNumber : ChatNumber) :
      Responds (.findChatNumberByShortNumber shortNumber) (.chatNumber chatNumber)
  | foundByIdentityKey (identityKey : Text) (chatNumber : ChatNumber) :
      Responds (.findChatNumberByIdentityKey identityKey) (.chatNumber chatNumber)
  | sent (outboundMessage : OutboundMessage) : Responds (.outboundMessage outboundMessage) .ack

/-- The handler has sent one answer and done nothing else to the connection. -/
def OneAnswer (msg : Message) (request : Payload) (before final : Handling) : Prop :=
  ∃ payload, Responds request payload ∧ final = before.answer msg payload

/-- The handler sends one answer, whatever it has to deal with. -/
def Answers (mayCrash : Handling → Prop) (msg : Message) (request : Payload) (handler : Task Unit)
    (handling : Handling) : Prop :=
  Settles (handlingRules mayCrash) (fun final _ => OneAnswer msg request handling final) handler
    handling

theorem answers_error {request : Payload} (err : Failure) :
    Answers mayCrash msg request (error msg err) handling :=
  error_settles ⟨_, .failed request _, rfl⟩

theorem answers_ack {request : Payload} (responds : Responds request .ack) :
    Answers mayCrash msg request (ack msg) handling :=
  ack_settles ⟨_, responds, rfl⟩

theorem answers_send {request payload : Payload} (responds : Responds request payload) :
    Answers mayCrash msg request (send ⟨msg.sequence, some payload⟩) handling :=
  send_settles ⟨_, responds, rfl⟩

theorem handleRegister_answers (register : Register) :
    Answers mayCrash msg (.register register) (handleRegister opts msg register) handling := by
  rw [Answers, handleRegister, settles_bind]
  apply getIdentityKey_settles
  rw [settles_bind]
  apply getDeviceId_settles
  rw [settles_bind]
  refine ⟨trivial, fun failed _ => ?_⟩
  cases failed with
  | some err => exact answers_error err
  | none =>
      refine ⟨trivial, fun failed _ => ?_⟩
      cases failed with
      | some err => exact answers_error err
      | none => exact answers_ack (.registered register)

theorem handleUnregister_answers :
    Answers mayCrash msg .unregister (handleUnregister msg) handling := by
  rw [Answers, handleUnregister, settles_bind]
  apply getIdentityKey_settles
  rw [settles_bind]
  apply getDeviceId_settles
  rw [settles_bind]
  refine ⟨trivial, fun failed _ => ?_⟩
  cases failed with
  | some err => exact answers_error err
  | none => exact answers_ack .unregistered

theorem handleRequestPreKeys_answers (request : RequestPreKeys) :
    Answers mayCrash msg (.requestPreKeys request) (handleRequestPreKeys msg request)
      handling := by
  refine ⟨trivial, fun result _ => ?_⟩
  cases result with
  | error err => exact answers_error err
  | ok preKeys => exact answers_send (.preKeys request preKeys)

theorem handleFindChatNumberByShortNumber_answers (shortNumber : Text) :
    Answers mayCrash msg (.findChatNumberByShortNumber shortNumber)
      (handleFindChatNumberByShortNumber opts msg shortNumber) handling := by
  refine ⟨trivial, fun result _ => ?_⟩
  cases result with
  | error err => exact answers_error err
  | ok number => exact answers_send (.foundByShortNumber shortNumber _)

theorem handleFindChatNumberByIdentityKey_answers (identityKey : Text) :
    Answers mayCrash msg (.findChatNumberByIdentityKey identityKey)
      (handleFindChatNumberByIdentityKey opts msg identityKey) handling := by
  refine ⟨trivial, fun result _ => ?_⟩
  cases result with
  | error err => exact answers_error err
  | ok numbers => exact answers_send (.foundByIdentityKey identityKey _)

/-! ## Sending messages -/

theorem publisherFor_settles {topic : Text} {post : Handling → Except Failure Publisher → Prop}
    (holds : ∀ result, post handling result) :
    Settles (handlingRules mayCrash) post (publisherFor topic) handling := by
  refine ⟨trivial, fun cached _ => ?_⟩
  cases cached with
  | some publisher => exact holds (.ok publisher)
  | none =>
      refine ⟨trivial, fun result _ => ?_⟩
      cases result with
      | error err => exact holds (.error err)
      | ok publisher => exact ⟨trivial, fun _ _ => holds (.ok publisher)⟩

theorem publishAndAck_answers (outboundMessage : OutboundMessage) (topic data : Text) :
    Answers mayCrash msg (.outboundMessage outboundMessage) (publishAndAck msg topic data)
      handling := by
  rw [Answers, publishAndAck, settles_bind]
  apply publisherFor_settles
  intro result
  cases result with
  | error err => exact answers_error err
  | ok publisher =>
      refine ⟨trivial, fun failed _ => ?_⟩
      cases failed with
      | some err => exact answers_error err
      | none => exact answers_ack (.sent outboundMessage)

/-- The handler has looked for the recipient's host and sent one answer. If there is no
recipient, no host was found. -/
def SendEnds (msg : Message) (outboundMessage : OutboundMessage) (before final : Handling) :
    Prop :=
  ∃ result, OneAnswer msg (.outboundMessage outboundMessage) { before with found := some result }
      final ∧
    (outboundMessage.toAddress = none → ∀ host, result ≠ .ok host)

theorem sendOutboundMessage_settles (outboundMessage : OutboundMessage)
    (crash : outboundMessage.toAddress = none →
      ∀ host, mayCrash { handling with found := some (.ok host) }) :
    Settles (handlingRules mayCrash)
      (fun final _ => SendEnds msg outboundMessage handling final)
      (sendOutboundMessage library opts msg outboundMessage) handling := by
  rw [sendOutboundMessage, settles_bind, settles_perform]
  refine ⟨trivial, fun result _ => ?_⟩
  cases result with
  | error err =>
      apply Settles.mono (answers_error err)
      exact fun final _ answer => ⟨.error err, answer, fun _ _ equal => by cases equal⟩
  | ok tassisHost =>
      cases recipient : outboundMessage.toAddress with
      | none => exact crash recipient tassisHost
      | some address =>
          have sent : ∀ final, OneAnswer msg (.outboundMessage outboundMessage)
              { handling with found := some (.ok tassisHost) } final →
              SendEnds msg outboundMessage handling final := by
            intro final answer
            refine ⟨.ok tassisHost, answer, fun absent => ?_⟩
            rw [recipient] at absent
            cases absent
          dsimp only
          split
          · split
            · exact Settles.mono (answers_error _) fun final _ => sent final
            · exact Settles.mono (publishAndAck_answers outboundMessage _ _)
                fun final _ => sent final
          · exact Settles.mono (publishAndAck_answers outboundMessage _ _)
              fun final _ => sent final

/-! ## Authorizing uploads -/

/-- An authorization or an error was collected. -/
def Collected (result : List UploadAuthorization × Option Failure) : Prop :=
  result.1 ≠ [] ∨ result.2 ≠ none

theorem authorizeUploads_settles (remaining : Nat) (authorizations : List UploadAuthorization)
    (finalErr : Option Failure) :
    Settles (handlingRules mayCrash)
      (fun final result => final = handling ∧
        (Collected result ↔ 0 < remaining ∨ Collected (authorizations, finalErr)))
      (authorizeUploads remaining authorizations finalErr) handling := by
  induction remaining generalizing authorizations finalErr with
  | zero => exact ⟨rfl, by simp⟩
  | succ remaining induction =>
      refine ⟨trivial, fun result _ => ?_⟩
      cases result with
      | ok auth =>
          apply (induction (authorizations ++ [auth]) finalErr).mono
          rintro final result ⟨unchanged, collected⟩
          refine ⟨unchanged, collected.trans ?_⟩
          simp [Collected]
      | error err =>
          apply (induction authorizations (some err)).mono
          rintro final result ⟨unchanged, collected⟩
          refine ⟨unchanged, collected.trans ?_⟩
          simp [Collected]

/-- A request for no authorizations gets no answer. -/
theorem handleRequestUploadAuthorizations_settles (numRequested : Int) :
    Settles (handlingRules mayCrash)
      (fun final _ => 0 < numRequested ∧
          OneAnswer msg (.requestUploadAuthorizations numRequested) handling final ∨
        numRequested ≤ 0 ∧ final = handling)
      (handleRequestUploadAuthorizations msg numRequested) handling := by
  rw [handleRequestUploadAuthorizations, settles_bind]
  apply (authorizeUploads_settles numRequested.toNat [] none).mono
  rintro _ ⟨authorizations, finalErr⟩ ⟨rfl, collected⟩
  have positive : Collected (authorizations, finalErr) ↔ 0 < numRequested := by
    rw [collected]
    simp [Collected]
  dsimp only
  split
  · rename_i empty
    cases finalErr with
    | some err =>
        have requested := positive.mp (Or.inr (by simp))
        exact error_settles (Or.inl ⟨requested, _, .failed _ _, rfl⟩)
    | none =>
        refine Or.inr ⟨?_, rfl⟩
        rw [← not_lt, ← positive]
        simp [Collected, List.length_eq_zero_iff.mp empty]
  · rename_i nonempty
    have requested := positive.mp (Or.inl fun empty => nonempty (by simpa using empty))
    exact send_settles (Or.inl ⟨requested, _, .authorized _ _, rfl⟩)

/-! ## Every request -/

/-- The messages that ask for an answer. -/
def IsRequest : Payload → Prop
  | .authResponse _ | .register _ | .unregister | .requestPreKeys _
  | .requestUploadAuthorizations _ | .findChatNumberByShortNumber _
  | .findChatNumberByIdentityKey _ | .outboundMessage _ => True
  | _ => False

/-- The request is for no authorizations. -/
def AsksForNothing : Payload → Prop
  | .requestUploadAuthorizations numRequested => numRequested ≤ 0
  | _ => False

/-- One message was sent, and it answers the request. -/
def AnsweredOnce (msg : Message) (request : Payload) (before final : Connection) : Prop :=
  ∃ payload, Responds request payload ∧
    final.inbox = before.inbox ++ [⟨msg.sequence, some payload⟩]

variable {connection : Connection} {final : Handling} {request : Payload}

/-- A login is answered once unless the database gives no number. -/
theorem LoginEnds.answeredOnce_iff {authResponse : AuthResponse}
    (ends : LoginEnds library opts msg (.start connection) final) :
    AnsweredOnce msg (.authResponse authResponse) connection final.connection ↔
      ∀ err, final.number ≠ some (.error err) := by
  cases ends with
  | refused err unproved harmless =>
      exact iff_of_true ⟨_, .failed _ err, rfl⟩ fun _ => nofun
  | numbered proves session =>
      refine iff_of_true ?_ ?_
      · cases session with
        | opened subscriber onTopic => exact ⟨_, .loggedIn authResponse _, rfl⟩
        | failed err => exact ⟨_, .failed _ _, rfl⟩
      · rw [session.number]
        exact fun _ => nofun
  | @unnumbered address err _ proves session =>
      refine iff_of_false ?_ fun provided => provided err session.number
      rintro ⟨payload, _, inbox⟩
      exact session.inbox_ne rfl _ inbox

/-- The handler of the message panics: the client is anonymous, and its login does, or
a host was found for the absent recipient of its message. -/
def Panics (library : Library) (msg : Message) (before : Connection) (final : Handling) :
    Prop :=
  before.Anonymous ∧ (LoginPanics library msg before.nonce ∨
    SendsWithoutAddress msg ∧ ∃ host, final.found = some (.ok host))

/-- The request is for something, and the database gives a number to a client that
logs in. -/
def Answerable (request : Payload) (before : Connection) (final : Handling) : Prop :=
  ¬(before.Anonymous ∧ AsksForNothing request) ∧ ∀ err, final.number ≠ some (.error err)

/-- The handler has not panicked, and has sent one answer if the request is answerable. -/
def Answered (library : Library) (msg : Message) (request : Payload) (before : Connection)
    (final : Handling) : Prop :=
  ¬Panics library msg before final ∧
    (AnsweredOnce msg request before final.connection ↔ Answerable request before final)

theorem OneAnswer.answered {before : Handling} (answer : OneAnswer msg request before final)
    (unnumbered : before.number = none)
    (harmless : ¬Panics library msg before.connection before)
    (asks : ¬(before.connection.Anonymous ∧ AsksForNothing request)) :
    Answered library msg request before.connection final := by
  rcases answer with ⟨payload, responds, rfl⟩
  refine ⟨harmless, iff_of_true ⟨payload, responds, rfl⟩ ⟨asks, ?_⟩⟩
  intro err failed
  cases unnumbered.symm.trans failed

/-- A request that is refused to anonymous clients, or to authenticated ones. -/
theorem answered_error {err : Error}
    (harmless : ¬Panics library msg connection (.start connection))
    (asks : ¬(connection.Anonymous ∧ AsksForNothing request)) :
    Answered library msg request connection
      ((Handling.start connection).answer msg (.error err)) := by
  have answer : OneAnswer msg request (.start connection) _ := ⟨_, .failed request err, rfl⟩
  exact answer.answered rfl harmless asks

theorem Answers.answered {handler : Task Unit}
    (answers : Answers mayCrash msg request handler (.start connection))
    (harmless : ¬Panics library msg connection (.start connection))
    (asks : ¬(connection.Anonymous ∧ AsksForNothing request)) :
    Settles (handlingRules mayCrash)
      (fun final _ => Answered library msg request connection final) handler
      (.start connection) :=
  answers.mono fun _ _ answer => answer.answered rfl harmless asks

theorem SendEnds.answered {outboundMessage : OutboundMessage}
    (payload : msg.payload = some (.outboundMessage outboundMessage))
    (ends : SendEnds msg outboundMessage (.start connection) final) :
    Answered library msg (.outboundMessage outboundMessage) connection final := by
  rcases ends with ⟨result, answer, unfound⟩
  refine answer.answered rfl ?_ (by simp [AsksForNothing])
  rintro ⟨_, ⟨_, _, payload', _⟩ | ⟨⟨_, payload', absent⟩, host, found⟩⟩
  · cases payload.symm.trans payload'
  · cases payload.symm.trans payload'
    exact unfound absent host (Option.some.inj found)

theorem not_panics_of_authenticated (authenticated : ¬connection.Anonymous) :
    ¬Panics library msg connection final :=
  fun panics => authenticated panics.1

/-- Only logins and messages to send can panic. -/
theorem not_panics_of_payload (payload : msg.payload = some request)
    (notLogin : ∀ authResponse, request ≠ .authResponse authResponse)
    (notSend : ∀ outboundMessage, request ≠ .outboundMessage outboundMessage) :
    ¬Panics library msg connection final := by
  rintro ⟨_, ⟨authResponse, _, payload', _⟩ | ⟨⟨outboundMessage, payload', _⟩, _⟩⟩
  · exact notLogin authResponse (Option.some.inj (payload.symm.trans payload'))
  · exact notSend outboundMessage (Option.some.inj (payload.symm.trans payload'))

theorem request_settles (payload : msg.payload = some request) (isRequest : IsRequest request) :
    Settles (handlingRules (Panics library msg connection))
      (fun final _ => Answered library msg request connection final)
      (doHandleOutboundMessage library opts msg) (.start connection) := by
  rw [doHandleOutboundMessage, payload]
  cases request with
  | authResponse authResponse =>
      apply ifAnonymous_settles
      · exact fun authenticated _ =>
          answered_error (not_panics_of_authenticated authenticated) (by simp [AsksForNothing])
      intro anonymous
      apply (handleAuthResponse_settles payload fun panics => ⟨anonymous, Or.inl panics⟩).mono
      intro final _ ends
      refine ⟨?_, ends.answeredOnce_iff.trans (by simp [Answerable, AsksForNothing])⟩
      rintro ⟨_, panics | ⟨⟨_, payload', _⟩, _⟩⟩
      · exact ends.not_panics panics
      · cases payload.symm.trans payload'
  | register register =>
      have harmless : ¬Panics library msg connection (.start connection) :=
        not_panics_of_payload payload (by simp) (by simp)
      apply ifAuthenticated_settles
      · exact fun _ => answered_error harmless (by simp [AsksForNothing])
      · exact (handleRegister_answers register).answered harmless (by simp [AsksForNothing])
  | unregister =>
      have harmless : ¬Panics library msg connection (.start connection) :=
        not_panics_of_payload payload (by simp) (by simp)
      apply ifAuthenticated_settles
      · exact fun _ => answered_error harmless (by simp [AsksForNothing])
      · exact handleUnregister_answers.answered harmless (by simp [AsksForNothing])
  | requestPreKeys request =>
      have harmless : ¬Panics library msg connection (.start connection) :=
        not_panics_of_payload payload (by simp) (by simp)
      apply ifAnonymous_settles
      · exact fun _ _ => answered_error harmless (by simp [AsksForNothing])
      · exact fun _ =>
          (handleRequestPreKeys_answers request).answered harmless (by simp [AsksForNothing])
  | requestUploadAuthorizations numRequested =>
      have harmless : ¬Panics library msg connection (.start connection) :=
        not_panics_of_payload payload (by simp) (by simp)
      apply ifAnonymous_settles
      · exact fun authenticated _ => answered_error harmless fun asks => authenticated asks.1
      intro anonymous
      apply (handleRequestUploadAuthorizations_settles numRequested).mono
      rintro final _ (⟨positive, answer⟩ | ⟨nothing, rfl⟩)
      · exact answer.answered rfl harmless fun asks => absurd asks.2 (not_le.mpr positive)
      · refine ⟨harmless, iff_of_false ?_ fun answerable => answerable.1 ⟨anonymous, nothing⟩⟩
        rintro ⟨payload, _, inbox⟩
        have unchanged : connection.inbox = connection.inbox ++ _ := inbox
        simpa using congrArg List.length unchanged
  | findChatNumberByShortNumber shortNumber =>
      have harmless : ¬Panics library msg connection (.start connection) :=
        not_panics_of_payload payload (by simp) (by simp)
      apply ifAnonymous_settles
      · exact fun _ _ => answered_error harmless (by simp [AsksForNothing])
      · exact fun _ => (handleFindChatNumberByShortNumber_answers shortNumber).answered harmless
          (by simp [AsksForNothing])
  | findChatNumberByIdentityKey identityKey =>
      have harmless : ¬Panics library msg connection (.start connection) :=
        not_panics_of_payload payload (by simp) (by simp)
      apply ifAnonymous_settles
      · exact fun _ _ => answered_error harmless (by simp [AsksForNothing])
      · exact fun _ => (handleFindChatNumberByIdentityKey_answers identityKey).answered harmless
          (by simp [AsksForNothing])
  | outboundMessage outboundMessage =>
      apply ifAnonymous_settles
      · exact fun authenticated _ =>
          answered_error (not_panics_of_authenticated authenticated) (by simp [AsksForNothing])
      intro anonymous
      apply (sendOutboundMessage_settles outboundMessage ?_).mono
      · exact fun final _ ends => ends.answered payload
      · exact fun absent host =>
          ⟨anonymous, Or.inr ⟨⟨outboundMessage, payload, absent⟩, host, rfl⟩⟩
  | _ => exact absurd isRequest not_false

/-- A request is handled to its end and answered with exactly one message, an ack, a
typed response or an error, exactly if its handler does not panic, it does not ask
for no authorizations and is not a login for which the database gives no number. -/
theorem requests_are_answered_once_iff (payload : msg.payload = some request)
    (isRequest : IsRequest request) :
    (Crashes handlingInterface (doHandleOutboundMessage library opts msg) (.start connection) ↔
        connection.Anonymous ∧
          (LoginPanics library msg connection.nonce ∨ SendsWithoutAddress msg)) ∧
      Terminates handlingInterface (doHandleOutboundMessage library opts msg)
        (.start connection) ∧
      ∀ outcome final, Halts handlingInterface (doHandleOutboundMessage library opts msg)
          (.start connection) outcome final →
        (outcome = .ended ∧ AnsweredOnce msg request connection final.connection ↔
          ¬Panics library msg connection final ∧ Answerable request connection final) := by
  have settles : Settles (handlingRules (Panics library msg connection))
      (fun final _ => Answered library msg request connection final)
      (doHandleOutboundMessage library opts msg) (.start connection) :=
    request_settles payload isRequest
  refine ⟨⟨?_, ?_⟩, settles.terminates, fun _ _ halts => settles.obeys.ended_iff halts⟩
  · rintro ⟨_, crashes⟩
    rcases settles.obeys.of_crashes crashes with ⟨anonymous, panics | ⟨absent, _⟩⟩
    · exact ⟨anonymous, Or.inl panics⟩
    · exact ⟨anonymous, Or.inr absent⟩
  · rintro ⟨anonymous, panics | absent⟩
    · exact crashes_login anonymous (decide_eq_true rfl) (decide_eq_true rfl) panics
    · exact crashes_send [] anonymous (decide_eq_true rfl) rfl absent

/-- A request for no authorizations is not answered, a login is answered twice if the
database fails, and a message to nobody makes the handler panic. -/
theorem requests_without_single_answer :
    let connection := Connection.initial "nonce".toList
    let request := Payload.requestUploadAuthorizations 0
    (∃ final, Ends handlingInterface
        (doHandleOutboundMessage plainLibrary plainOpts ⟨7, some request⟩)
        (.start connection) final ∧
      final.connection.inbox = [] ∧
      ¬AnsweredOnce ⟨7, some request⟩ request connection final.connection) ∧
    (∃ final, Ends handlingInterface (doHandleOutboundMessage plainLibrary plainOpts newcomer)
        (.start connection) final ∧
      final.connection.inbox.map Message.payload =
        [some (.error (typedError outage)), some (.chatNumber ⟨[], [], "domain".toList⟩)] ∧
      ∀ request, ¬AnsweredOnce newcomer request connection final.connection) ∧
    Crashes handlingInterface (doHandleOutboundMessage plainLibrary plainOpts
        ⟨7, some (.outboundMessage ⟨none, "hello".toList⟩)⟩) (.start connection) := by
  intro connection request
  refine ⟨?_, ?_, ?_⟩
  · refine ⟨_, .call none rfl .done, rfl, ?_⟩
    rintro ⟨_, _, inbox⟩
    cases inbox
  · rcases newcomer_without_number with ⟨final, ends, _, sent, _⟩
    refine ⟨final, ends, sent, ?_⟩
    rintro request ⟨payload, _, inbox⟩
    rw [inbox] at sent
    cases sent
  · have anonymous : connection.Anonymous := rfl
    exact crashes_send "tassis".toList anonymous rfl rfl ⟨_, rfl, rfl⟩

theorem registration_is_answered_once :
    let connection := { Connection.initial "nonce".toList with
      identityKey := some "key".toList, deviceId := some "device".toList }
    let request := Payload.register ⟨"signed".toList, []⟩
    IsRequest request ∧
      ∃ final, Ends handlingInterface
          (doHandleOutboundMessage plainLibrary plainOpts ⟨3, some request⟩)
          (.start connection) final ∧
        AnsweredOnce ⟨3, some request⟩ request connection final.connection := by
  intro connection request
  have isRequest : IsRequest request := trivial
  have ends : Ends handlingInterface
      (doHandleOutboundMessage plainLibrary plainOpts ⟨3, some request⟩) (.start connection) _ :=
    .call (some "key".toList) rfl (.call (some "key".toList) rfl (.call (some "device".toList) rfl
      (.call none rfl (.call none rfl (.call () rfl .done)))))
  refine ⟨isRequest, _, ends,
    (((requests_are_answered_once_iff rfl isRequest).2.2 _ _ ends).mpr ⟨?_, ?_⟩).2⟩
  · exact not_panics_of_payload rfl (by simp [request]) (by simp [request])
  · exact ⟨fun asks => asks.2, fun _ => nofun⟩

end Tassis.Service
