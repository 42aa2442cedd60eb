import Tassis.Service.Dispatch
import Tassis.Service.Rules

/-! # Logins on trial

How often the loop over a client's messages evaluates a login, whether it rejects
one, and what it does afterwards, as long as it takes no message after the
rejection by which an anonymous client may log in or have an effect.
-/

namespace Tassis.Service

open Model
open Program (Always Obeys obeys_bind obeys_done obeys_perform obeys_pure)

/-! ## Messages and operations -/

def isLogin (msg : Message) : Bool :=
  match msg.payload with
  | some (.authResponse _) => true
  | _ => false

theorem isLogin_iff {msg : Message} :
    isLogin msg = true ↔ ∃ authResponse, msg.payload = some (.authResponse authResponse) := by
  constructor
  · intro login
    unfold isLogin at login
    split at login
    · exact ⟨_, ‹_›⟩
    · cases login
  · rintro ⟨authResponse, payload⟩
    rw [isLogin, payload]

/-- The message of an anonymous client may log in or have an effect. -/
def consequential (msg : Message) : Bool :=
  match msg.payload with
  | some (.authResponse _) | some (.requestPreKeys _) | some (.outboundMessage _) => true
  | _ => false

/-- The operation changes the database, the presence repository, the broker or
the identity of a connection. -/
def Operation.takesEffect : Operation → Bool
  | .register .. | .unregister .. | .requestPreKeys _ | .registerChatNumber .. => true
  | .announce .. => true
  | .newSubscriber _ | .closeSubscriber _ | .newPublisher _ | .publish .. | .ack _ => true
  | .storeIdentityKey _ | .storeDeviceId _ => true
  | _ => false

namespace View

def handlesLogin (view : View) : Bool := view.message.any isLogin

/-- While a login is handled, nobody is found to be logged in, so that
`handleAuthResponse` is called. -/
def evaluates (view : View) : (operation : Operation) → Reply operation → Bool
  | .loadIdentityKey, identityKey => view.handlesLogin && (identityKey.getD []).isEmpty
  | _, _ => false

/-- While a login is handled, the connection is closed before an identity is
stored. -/
def rejects (view : View) : Operation → Bool
  | .close => view.handlesLogin && view.identityKey.isNone
  | _ => false

end View

/-! ## The loop over the client's messages -/

/-- What is known of the logins while the loop runs. -/
structure Trial where
  view : View
  evaluated : Nat
  rejected : Bool

namespace Trial

def next (opts : Opts) (trial : Trial) (operation : Operation) (reply : Reply operation) :
    Trial where
  view := trial.view.next opts operation reply
  evaluated := trial.evaluated + if trial.view.evaluates operation reply then 1 else 0
  rejected := trial.rejected || trial.view.rejects operation

/-- The replies that the loop can count on. A client that has not logged in was
sent no message to ack. -/
def Expects (trial : Trial) : (operation : Operation) → Reply operation → Prop
  | .nextMessage, received => trial.rejected = true → received.any consequential = false
  | .loadIdentityKey, identityKey => identityKey = trial.view.identityKey
  | .findAcker _, found => trial.view.identityKey = none → found = none
  | _, _ => True

/-- At most one login was evaluated, and nobody is logged in after a rejection. -/
structure Fair (trial : Trial) : Prop where
  once : trial.evaluated ≤ 1
  anonymous : trial.rejected = true → trial.view.identityKey = none

def rules (opts : Opts) : Program.Rules Operation Reply Trial where
  replies := Expects
  next := next opts
  allows trial operation :=
    (trial.rejected = true → operation.takesEffect = false) ∧
      ∀ reply, trial.Expects operation reply → (trial.next opts operation reply).Fair
  mayCrash _ := True

/-- Where a connection stands between two messages. -/
inductive Rests (trial : Trial) : Prop where
  | fresh (unevaluated : trial.evaluated = 0) (unrejected : trial.rejected = false)
      (anonymous : trial.view.identityKey = none)
  | loggedIn {identityKey : Text} (once : trial.evaluated ≤ 1)
      (unrejected : trial.rejected = false) (stored : trial.view.identityKey = some identityKey)
      (nonempty : identityKey ≠ [])
  | rejected (once : trial.evaluated ≤ 1) (rejected : trial.rejected = true)
      (anonymous : trial.view.identityKey = none)

/-- The same message is handled, and nothing has become of the logins. -/
structure Keeps (trial later : Trial) : Prop where
  message : later.view.message = trial.view.message
  identityKey : later.view.identityKey = trial.view.identityKey
  evaluated : later.evaluated = trial.evaluated
  rejected : later.rejected = trial.rejected

variable {opts : Opts} {trial later : Trial} {operation : Operation}

theorem Keeps.refl (trial : Trial) : trial.Keeps trial := ⟨rfl, rfl, rfl, rfl⟩

theorem Keeps.fair (keeps : trial.Keeps later) (fair : trial.Fair) : later.Fair where
  once := keeps.evaluated ▸ fair.once
  anonymous rejected := by
    rw [keeps.identityKey]
    exact fair.anonymous (keeps.rejected ▸ rejected)

/-- Neither is a login evaluated nor one rejected by what is being done. -/
def Settled (trial : Trial) : Prop :=
  trial.view.handlesLogin = false ∨ trial.view.identityKey.getD [] ≠ []

theorem Settled.of_stored {identityKey : Text} (stored : trial.view.identityKey = some identityKey)
    (nonempty : identityKey ≠ []) : trial.Settled := by
  right
  rw [stored]
  exact nonempty

theorem Settled.evaluates (settled : trial.Settled) {reply : Reply operation}
    (expects : trial.Expects operation reply) :
    trial.view.evaluates operation reply = false := by
  cases operation <;> try rfl
  case loadIdentityKey =>
      have stored : reply = trial.view.identityKey := expects
      rw [View.evaluates, stored]
      rcases settled with noLogin | nonempty
      · rw [noLogin, Bool.false_and]
      · rw [List.isEmpty_eq_false_iff.mpr nonempty, Bool.and_false]

theorem Settled.rejects (settled : trial.Settled) : trial.view.rejects operation = false := by
  cases operation <;> try rfl
  case close =>
      rw [View.rejects]
      rcases settled with noLogin | nonempty
      · rw [noLogin, Bool.false_and]
      · cases stored : trial.view.identityKey with
        | none =>
            rw [stored] at nonempty
            exact absurd rfl nonempty
        | some identityKey => exact Bool.and_false _

theorem Keeps.settled (keeps : trial.Keeps later) (settled : trial.Settled) : later.Settled := by
  rw [Settled, View.handlesLogin, keeps.message, keeps.identityKey]
  exact settled

/-- The operation changes neither the message that is handled nor the identity. -/
def Passive (operation : Operation) : Prop :=
  operation ≠ .nextMessage ∧ ∀ identityKey, operation ≠ .storeIdentityKey identityKey

theorem Keeps.next (keeps : trial.Keeps later) (passive : Passive operation)
    {reply : Reply operation} (unevaluated : later.view.evaluates operation reply = false)
    (unrejected : later.view.rejects operation = false) :
    trial.Keeps (later.next opts operation reply) where
  message := (View.next_message passive.1 reply).trans keeps.message
  identityKey := (View.next_identityKey passive.2 reply).trans keeps.identityKey
  evaluated := by
    rw [Trial.next, unevaluated]
    exact keeps.evaluated
  rejected := by
    rw [Trial.next, unrejected, Bool.or_false]
    exact keeps.rejected

theorem Fair.of_unrejected (once : trial.evaluated ≤ 1) (unrejected : trial.rejected = false) :
    trial.Fair where
  once := once
  anonymous rejected := by
    rw [unrejected] at rejected
    cases rejected

/-- Before a login is rejected, every operation is allowed that evaluates none and
rejects none. -/
theorem allows_of_unrejected (once : trial.evaluated ≤ 1) (unrejected : trial.rejected = false)
    (unevaluated : ∀ reply, trial.view.evaluates operation reply = false)
    (unrejecting : trial.view.rejects operation = false) :
    (rules opts).allows trial operation := by
  refine ⟨?_, fun reply _ => .of_unrejected ?_ ?_⟩
  · intro rejected
    rw [unrejected] at rejected
    cases rejected
  · rw [next, unevaluated reply]
    exact once
  · rw [next, unrejected, unrejecting]
    rfl

theorem Rests.fair (rests : trial.Rests) : trial.Fair := by
  cases rests with
  | fresh unevaluated unrejected anonymous =>
      exact ⟨unevaluated ▸ Nat.zero_le 1, fun _ => anonymous⟩
  | loggedIn once unrejected => exact .of_unrejected once unrejected
  | rejected once rejected anonymous => exact ⟨once, fun _ => anonymous⟩

theorem Rests.of_same (rests : trial.Rests)
    (identityKey : later.view.identityKey = trial.view.identityKey)
    (evaluated : later.evaluated = trial.evaluated)
    (rejected : later.rejected = trial.rejected) : later.Rests := by
  cases rests with
  | fresh unevaluated unrejected anonymous =>
      exact .fresh (evaluated.trans unevaluated) (rejected.trans unrejected)
        (identityKey.trans anonymous)
  | loggedIn once unrejected stored nonempty =>
      exact .loggedIn (evaluated ▸ once) (rejected.trans unrejected) (identityKey.trans stored)
        nonempty
  | rejected once isRejected anonymous =>
      exact .rejected (evaluated ▸ once) (rejected.trans isRejected) (identityKey.trans anonymous)

theorem Rests.keeps (rests : trial.Rests) (keeps : trial.Keeps later) : later.Rests :=
  rests.of_same keeps.identityKey keeps.evaluated keeps.rejected

theorem Rests.receive (rests : trial.Rests) (received : Option Message) :
    (trial.next opts .nextMessage received).Rests := by
  have sameKey : (trial.view.next opts .nextMessage received).identityKey =
      trial.view.identityKey := by
    cases received <;> rfl
  exact rests.of_same sameKey rfl (Bool.or_false _)

/-- The connection is closed when the loop comes to its end. -/
theorem Fair.close (fair : trial.Fair) : (trial.next opts .close ()).Fair where
  once := fair.once
  anonymous closed := by
    rcases Bool.or_eq_true_iff.mp closed with rejected | rejects
    · exact fair.anonymous rejected
    · exact Option.isNone_iff_eq_none.mp (Bool.and_eq_true_iff.mp rejects).2

end Trial

/-! ## Handling a message -/

section Handling

variable {library : Library} {opts : Opts} {trial : Trial} {msg : Message}

theorem Trial.Settled.carries {allowed : Operation → Prop} {program : Task Unit}
    (settled : trial.Settled) (always : Always (Program.only allowed) program)
    (passive : ∀ operation, allowed operation → Passive operation)
    (inert : trial.rejected = true →
      ∀ operation, allowed operation → operation.takesEffect = false) (fair : trial.Fair) :
    Obeys (Trial.rules opts) (fun later _ => trial.Keeps later) program trial := by
  apply always.carries _ (fun _ => trivial) (Trial.Keeps.refl trial)
  intro later operation keeps permitted
  have kept : ∀ reply, later.Expects operation reply →
      trial.Keeps (later.next opts operation reply) := fun reply expects =>
    keeps.next (passive operation permitted) ((keeps.settled settled).evaluates expects)
      (keeps.settled settled).rejects
  refine ⟨⟨?_, fun reply expects => (kept reply expects).fair fair⟩, kept⟩
  intro rejected
  exact inert (keeps.rejected ▸ rejected) operation permitted

/-- A response to the client leaves everything as it is. -/
theorem respond_tried (fair : trial.Fair) (response : Message) :
    Obeys (Trial.rules opts) (fun later _ => trial.Keeps later) (send response) trial := by
  have kept : trial.Keeps (trial.next opts (.send response) ()) :=
    (Trial.Keeps.refl trial).next ⟨by simp, by simp⟩ rfl rfl
  exact ⟨⟨fun _ => rfl, fun _ _ => kept.fair fair⟩, fun _ _ => kept⟩

theorem isAuthenticated_tried {post : Trial → Bool → Prop}
    (fair : (trial.next opts .loadIdentityKey trial.view.identityKey).Fair)
    (holds : post (trial.next opts .loadIdentityKey trial.view.identityKey)
      (decide ((trial.view.identityKey.getD []).length ≠ 0))) :
    Obeys (Trial.rules opts) post isAuthenticated trial := by
  simp only [isAuthenticated, getIdentityKey, obeys_bind, obeys_perform, obeys_pure]
  refine ⟨⟨fun _ => rfl, ?_⟩, ?_⟩
  · rintro _ rfl
    exact fair
  · rintro _ rfl
    exact holds

theorem Trial.Settled.isAuthenticated_tried (settled : trial.Settled) (fair : trial.Fair) :
    Obeys (Trial.rules opts)
      (fun later authenticated => trial.Keeps later ∧
        authenticated = decide ((trial.view.identityKey.getD []).length ≠ 0))
      isAuthenticated trial := by
  have kept : trial.Keeps (trial.next opts .loadIdentityKey trial.view.identityKey) :=
    (Trial.Keeps.refl trial).next ⟨by simp, by simp⟩ (settled.evaluates rfl) settled.rejects
  exact Service.isAuthenticated_tried (kept.fair fair) ⟨kept, rfl⟩

theorem error_tried {later : Trial} (rests : trial.Rests) (keeps : trial.Keeps later)
    (err : Failure) :
    Obeys (Trial.rules opts) (fun later _ => later.Rests) (error msg err) later :=
  (respond_tried (rests.keeps keeps).fair _).mono fun _ _ => (rests.keeps keeps).keeps

/-- A login that is refused closes the connection. -/
theorem refuse_tried (err : Failure) (once : trial.evaluated ≤ 1)
    (login : trial.view.handlesLogin = true) (anonymous : trial.view.identityKey = none) :
    Obeys (Trial.rules opts) (fun later _ => later.Rests)
      (do
        error msg err
        perform .close) trial := by
  rw [obeys_bind]
  apply (respond_tried ⟨once, fun _ => anonymous⟩ _).mono
  intro later _ keeps
  have unset : later.view.identityKey = none := keeps.identityKey.trans anonymous
  have rests : (later.next opts .close ()).Rests := by
    refine .rejected ?_ ?_ unset
    · exact keeps.evaluated ▸ once
    · rw [Trial.next, View.rejects, View.handlesLogin, keeps.message, unset]
      rw [View.handlesLogin] at login
      simp [login]
  exact ⟨⟨fun _ => rfl, fun _ _ => rests.fair⟩, fun _ _ => rests⟩

theorem passive_of_completesLogin {operation : Operation}
    (completes : operation.CompletesLogin) : Trial.Passive operation := by
  constructor
  · rintro rfl
    exact completes
  · rintro identityKey rfl
    exact completes

theorem completeLogin_tried {identityKey : Text} (once : trial.evaluated ≤ 1)
    (unrejected : trial.rejected = false) (stored : trial.view.identityKey = some identityKey)
    (nonempty : identityKey ≠ []) :
    Obeys (Trial.rules opts) (fun later _ => later.Rests) (completeLogin library opts msg)
      trial := by
  have rests : trial.Rests := .loggedIn once unrejected stored nonempty
  have settled := Trial.Settled.of_stored stored nonempty
  have inert : trial.rejected = true → ∀ operation : Operation, operation.CompletesLogin →
      operation.takesEffect = false := by
    intro rejected
    rw [unrejected] at rejected
    cases rejected
  exact (settled.carries (completeLogin_completesLogin library opts msg)
    (fun _ => passive_of_completesLogin) inert rests.fair).mono fun _ _ => rests.keeps

theorem accept_tried (address : Address) (nonempty : address.identityKey ≠ [])
    (once : trial.evaluated ≤ 1) (unrejected : trial.rejected = false) :
    Obeys (Trial.rules opts) (fun later _ => later.Rests)
      (do
        perform (.storeIdentityKey address.identityKey)
        perform (.storeDeviceId address.deviceId)
        completeLogin library opts msg) trial := by
  have still : (trial.rejected || false) = false := (Bool.or_false _).trans unrejected
  rw [obeys_bind]
  refine ⟨Trial.allows_of_unrejected once unrejected (fun _ => rfl) rfl, ?_⟩
  intro _ _
  rw [obeys_done, obeys_bind]
  refine ⟨Trial.allows_of_unrejected once still (fun _ => rfl) rfl, ?_⟩
  intro _ _
  exact completeLogin_tried once ((Bool.or_false _).trans still) rfl nonempty

theorem handleAuthResponse_tried (authResponse : AuthResponse) (once : trial.evaluated ≤ 1)
    (unrejected : trial.rejected = false) (login : trial.view.handlesLogin = true)
    (anonymous : trial.view.identityKey = none) :
    Obeys (Trial.rules opts) (fun later _ => later.Rests)
      (handleAuthResponse library opts msg authResponse) trial := by
  unfold handleAuthResponse
  cases decoded : library.unmarshalLogin authResponse.login with
  | error err => exact refuse_tried err once login anonymous
  | ok decodedLogin =>
      dsimp only
      rw [obeys_bind, obeys_perform]
      refine ⟨Trial.allows_of_unrejected once unrejected (fun _ => rfl) rfl, ?_⟩
      intro nonce _
      split
      · exact refuse_tried _ once login anonymous
      · split
        · trivial
        · split
          · trivial
          · exact refuse_tried _ once login anonymous
          · rename_i address found _ verified
            have nonempty : address.identityKey ≠ [] := by
              intro empty
              rw [empty] at verified
              exact library.verify_nil _ _ verified
            exact accept_tried address nonempty once ((Bool.or_false _).trans unrejected)

/-- What an anonymous client asks for without effect is done without effect. -/
theorem inert_of_handles {operation : Operation} (harmless : consequential msg = false)
    (notAck : msg.payload ≠ some .ack)
    (notRegister : ∀ register, msg.payload ≠ some (.register register))
    (notUnregister : msg.payload ≠ some .unregister)
    (handles : operation.Handles msg.payload) : operation.takesEffect = false := by
  cases operation <;> try rfl
  case ack => exact absurd handles notAck
  case register => exact absurd handles.choose_spec (notRegister _)
  case announce => exact absurd handles.choose_spec (notRegister _)
  case unregister => exact absurd handles notUnregister
  case closeSubscriber => exact handles.elim
  all_goals
    rcases handles with ⟨_, payload⟩
    rw [consequential, payload] at harmless
    cases harmless

theorem passive_of_handles {operation : Operation} (notLogin : isLogin msg = false)
    (handles : operation.Handles msg.payload) : Trial.Passive operation := by
  constructor
  · rintro rfl
    exact handles
  · rintro identityKey rfl
    rcases handles with ⟨authResponse, payload⟩
    rw [isLogin, payload] at notLogin
    cases notLogin

/-- Who is not logged in has nothing to ack. -/
theorem handleACK_tried (rests : trial.Rests) (anonymous : trial.view.identityKey = none) :
    Obeys (Trial.rules opts) (fun later _ => later.Rests) (handleACK msg) trial := by
  have kept : trial.Keeps (trial.next opts (.findAcker msg.sequence) none) :=
    (Trial.Keeps.refl trial).next ⟨by simp, by simp⟩ rfl rfl
  rw [handleACK, obeys_bind]
  refine ⟨⟨fun _ => rfl, ?_⟩, ?_⟩
  · intro found expected
    cases expected anonymous
    exact kept.fair rests.fair
  · intro found expected
    cases expected anonymous
    exact rests.keeps kept

/-- Who is not logged in is refused. -/
theorem ifAuthenticated_tried {handler : Task Unit} (rests : trial.Rests)
    (settled : trial.Settled) (anonymous : trial.view.identityKey = none) :
    Obeys (Trial.rules opts) (fun later _ => later.Rests) (ifAuthenticated msg handler)
      trial := by
  rw [ifAuthenticated, obeys_bind]
  apply (settled.isAuthenticated_tried rests.fair).mono
  intro later _ checked
  rw [checked.2, anonymous]
  exact error_tried rests checked.1 _

/-- A login is evaluated once, and then the client is logged in or rejected. -/
theorem login_tried {authResponse : AuthResponse} (login : trial.view.handlesLogin = true)
    (rests : trial.Rests) (unrejected : trial.rejected = false) :
    Obeys (Trial.rules opts) (fun later _ => later.Rests)
      (ifAnonymous msg (handleAuthResponse library opts msg authResponse)) trial := by
  have still : (trial.rejected || false) = false := (Bool.or_false _).trans unrejected
  rw [ifAnonymous, obeys_bind]
  cases rests with
  | fresh unevaluated _ anonymous =>
      have once : (trial.next opts .loadIdentityKey trial.view.identityKey).evaluated ≤ 1 := by
        rw [Trial.next, unevaluated, View.evaluates, login, anonymous]
        rfl
      apply isAuthenticated_tried (.of_unrejected once still)
      rw [anonymous] at once ⊢
      exact handleAuthResponse_tried authResponse once still login anonymous
  | @loggedIn identityKey once _ stored nonempty =>
      have rests : trial.Rests := .loggedIn once unrejected stored nonempty
      have settled := Trial.Settled.of_stored stored nonempty
      apply (settled.isAuthenticated_tried rests.fair).mono
      intro later _ checked
      have authenticated : decide ((trial.view.identityKey.getD []).length ≠ 0) = true := by
        rw [stored]
        simpa using nonempty
      rw [checked.2, authenticated]
      exact error_tried rests checked.1 _
  | rejected _ rejected =>
      rw [unrejected] at rejected
      cases rejected

/-- A message that is no login is handled, as far as it is allowed to have an effect. -/
theorem ordinary_tried (settled : trial.Settled) (notLogin : isLogin msg = false)
    (rests : trial.Rests)
    (inert : trial.rejected = true → ∀ operation : Operation,
      operation.Handles msg.payload → operation.takesEffect = false) :
    Obeys (Trial.rules opts) (fun later _ => later.Rests)
      (doHandleOutboundMessage library opts msg) trial :=
  (settled.carries (doHandleOutboundMessage_handles library opts msg)
    (fun _ => passive_of_handles notLogin) inert rests.fair).mono fun _ _ => rests.keeps

/-- After the rejection, what is reserved to clients that are logged in is refused,
and the rest is harmless. -/
theorem rejected_tried (rests : trial.Rests) (settled : trial.Settled)
    (notLogin : isLogin msg = false) (rejected : trial.rejected = true)
    (harmless : consequential msg = false) :
    Obeys (Trial.rules opts) (fun later _ => later.Rests)
      (doHandleOutboundMessage library opts msg) trial := by
  have anonymous := rests.fair.anonymous rejected
  by_cases isAck : msg.payload = some .ack
  · rw [doHandleOutboundMessage, isAck]
    exact handleACK_tried rests anonymous
  by_cases isRegister : ∃ register, msg.payload = some (.register register)
  · rcases isRegister with ⟨register, payload⟩
    rw [doHandleOutboundMessage, payload]
    exact ifAuthenticated_tried rests settled anonymous
  by_cases isUnregister : msg.payload = some .unregister
  · rw [doHandleOutboundMessage, isUnregister]
    exact ifAuthenticated_tried rests settled anonymous
  · apply ordinary_tried settled notLogin rests
    intro _ operation
    exact inert_of_handles harmless isAck (not_exists.mp isRegister) isUnregister

theorem doHandleOutboundMessage_tried (handling : trial.view.message = some msg)
    (rests : trial.Rests) (heeds : trial.rejected = true → consequential msg = false) :
    Obeys (Trial.rules opts) (fun later _ => later.Rests)
      (doHandleOutboundMessage library opts msg) trial := by
  have login : trial.view.handlesLogin = isLogin msg := by
    rw [View.handlesLogin, handling]
    rfl
  cases isLogin' : isLogin msg with
  | true =>
      rcases isLogin_iff.mp isLogin' with ⟨authResponse, payload⟩
      have unrejected : trial.rejected = false := by
        rw [consequential, payload] at heeds
        exact Bool.eq_false_iff.mpr fun rejected => by cases heeds rejected
      rw [doHandleOutboundMessage, payload]
      exact login_tried (login.trans isLogin') rests unrejected
  | false =>
      have settled : trial.Settled := Or.inl (login.trans isLogin')
      cases rejected : trial.rejected with
      | true => exact rejected_tried rests settled isLogin' rejected (heeds rejected)
      | false =>
          apply ordinary_tried settled isLogin' rests
          rw [rejected]
          intro impossible
          cases impossible

theorem handleOutbound_tried (rests : trial.Rests) (rounds : Nat) :
    Obeys (Trial.rules opts) (fun _ _ => True) (handleOutbound library opts rounds) trial := by
  induction rounds generalizing trial with
  | zero => trivial
  | succ rounds induction =>
      rw [handleOutbound, obeys_bind]
      refine ⟨⟨fun _ => rfl, fun received _ => (rests.receive received).fair⟩, ?_⟩
      intro received heeds
      cases received with
      | none =>
          exact ⟨⟨fun _ => rfl, fun _ _ => (rests.receive none).fair.close⟩, fun _ _ => trivial⟩
      | some msg =>
          have heeds' : (trial.rejected || false) = true → consequential msg = false := by
            rw [Bool.or_false]
            exact heeds
          rw [obeys_done, obeys_bind]
          apply (doHandleOutboundMessage_tried rfl (rests.receive (some msg)) heeds').mono
          exact fun later _ rests => induction rests

end Handling

end Tassis.Service
