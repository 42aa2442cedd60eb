import Tassis.Service.Rules

/-! # Messages that crash the server

Whether the handler of a client's message can dereference an absent message or
index out of range, from every state that a connection can reach.
-/

namespace Tassis.Service

open Model
open Program (Crashes Ends)

variable (library : Library) (opts : Opts) (finds : Option Address → Text → Prop)

/-- The database, the broker and so on may reply anything, and the presence
repository finds what it can find. -/
def clientInterface : Program.Interface Operation Reply View :=
  (rules library opts ⟨finds, True⟩ .outbound).toInterface

/-- The states of a connection between messages: it begins anonymous, and each
message is handled with some replies. -/
inductive ReachesConnection (nonce : Text) : View → Prop where
  | initial : ReachesConnection nonce (.initial nonce)
  | handled {view next : View} (msg : Message) (reaches : ReachesConnection nonce view)
      (ends : Ends (clientInterface library opts finds)
        (doHandleOutboundMessage library opts msg) { view with message := some msg } next) :
      ReachesConnection nonce next

/-- Handling this message can crash the server. -/
def CrashesOn (view : View) (msg : Message) : Prop :=
  Crashes (clientInterface library opts finds) (doHandleOutboundMessage library opts msg)
    { view with message := some msg }

variable {library : Library} {opts : Opts} {finds : Option Address → Text → Prop}
  {nonce : Text} {view : View} {msg : Message}

theorem ReachesConnection.consistent (reaches : ReachesConnection library opts finds nonce view) :
    view.Consistent := by
  induction reaches with
  | initial => exact Or.inl ⟨rfl, rfl⟩
  | @handled current final msg _ ends consistent =>
      have obeys : Program.Obeys (rules library opts ⟨finds, True⟩ .outbound) EndsConsistent
          (doHandleOutboundMessage library opts msg) { current with message := some msg } :=
        doHandleOutboundMessage_obeys rfl consistent fun _ _ => trivial
      exact obeys.of_ends ends

/-! ## The messages that crash -/

section Decoded

variable {authResponse : AuthResponse} {login : Login} {address : Address}

theorem proves_iff (payload : msg.payload = some (.authResponse authResponse))
    (decoded : library.unmarshalLogin authResponse.login = .ok login) :
    Proves library msg nonce address ↔ login.address = some address ∧ login.nonce = nonce ∧
      library.verify address.identityKey authResponse.login authResponse.signature =
        some true := by
  constructor
  · rintro ⟨authResponse', login', payload', decoded', proved⟩
    cases payload.symm.trans payload'
    cases decoded.symm.trans decoded'
    exact proved
  · exact fun proved => ⟨authResponse, login, payload, decoded, proved⟩

theorem loginPanics_iff (payload : msg.payload = some (.authResponse authResponse))
    (decoded : library.unmarshalLogin authResponse.login = .ok login) :
    LoginPanics library msg nonce ↔ login.nonce = nonce ∧
      (login.address = none ∨ ∃ address, login.address = some address ∧
        library.verify address.identityKey authResponse.login authResponse.signature =
          none) := by
  constructor
  · rintro ⟨authResponse', login', payload', decoded', malformed⟩
    cases payload.symm.trans payload'
    cases decoded.symm.trans decoded'
    exact malformed
  · exact fun malformed => ⟨authResponse, login, payload, decoded, malformed⟩

theorem Proves.not_panics (proves : Proves library msg nonce address) :
    ¬LoginPanics library msg nonce := by
  rcases proves with ⟨_, _, payload, decoded, hasAddress, _, verified⟩
  rw [loginPanics_iff payload decoded, hasAddress]
  rintro ⟨_, noAddress | ⟨_, same, unverifiable⟩⟩
  · cases noAddress
  · cases same
    rw [verified] at unverifiable
    cases unverifiable

end Decoded

section Interface

variable {Knowledge : Type} {interface : Program.Interface Operation Reply Knowledge}
  {knowledge : Knowledge} {identityKey : Option Text}

/-- A login that panics crashes an anonymous connection. -/
theorem crashes_login (anonymous : identityKey.getD [] = [])
    (loads : interface.replies knowledge .loadIdentityKey identityKey)
    (challenges : interface.replies (interface.next knowledge .loadIdentityKey identityKey)
      .authNonce nonce)
    (panics : LoginPanics library msg nonce) :
    Crashes interface (doHandleOutboundMessage library opts msg) knowledge := by
  rcases panics with ⟨authResponse, login, payload, decoded, ownNonce, malformed⟩
  rw [doHandleOutboundMessage, payload]
  refine Crashes.call identityKey loads ?_
  show Crashes _ (if decide ((identityKey.getD []).length ≠ 0) = true then _ else
    handleAuthResponse library opts msg authResponse) _
  rw [anonymous, if_neg (by simp), handleAuthResponse, decoded]
  refine Crashes.call nonce challenges ?_
  show Crashes _ (if nonce ≠ login.nonce then _ else _) _
  rw [if_neg (not_not_intro ownNonce.symm)]
  rcases malformed with noAddress | ⟨address, hasAddress, unverifiable⟩
  · rw [noAddress]
    exact Crashes.crash
  · rw [hasAddress]
    dsimp only
    rw [unverifiable]
    exact Crashes.crash

/-- So does a message without a recipient, if the presence repository does not
refuse it. -/
theorem crashes_send (host : Text) (anonymous : identityKey.getD [] = [])
    (loads : interface.replies knowledge .loadIdentityKey identityKey)
    (found : interface.replies (interface.next knowledge .loadIdentityKey identityKey)
      (.find none) (.ok host))
    (absent : SendsWithoutAddress msg) :
    Crashes interface (doHandleOutboundMessage library opts msg) knowledge := by
  rcases absent with ⟨outboundMessage, payload, noAddress⟩
  rw [doHandleOutboundMessage, payload]
  refine Crashes.call identityKey loads ?_
  show Crashes _ (if decide ((identityKey.getD []).length ≠ 0) = true then _ else
    sendOutboundMessage library opts msg outboundMessage) _
  rw [anonymous, if_neg (by simp), sendOutboundMessage, noAddress]
  exact Crashes.call (.ok host) found Crashes.crash

end Interface

theorem crashesOn_login (anonymous : view.identityKey = none)
    (panics : LoginPanics library msg view.nonce) : CrashesOn library opts finds view msg :=
  crashes_login rfl (fun _ => anonymous.symm) (fun _ => rfl) panics

theorem crashesOn_send (anonymous : view.identityKey = none)
    (absent : SendsWithoutAddress msg) (found : ∃ host, finds none host) :
    CrashesOn library opts finds view msg := by
  rcases found with ⟨host, found⟩
  refine crashes_send host rfl (fun _ => anonymous.symm) ?_ absent
  intro tassisHost equal
  cases equal
  exact found

/-- The connection is anonymous and the message is a login with its nonce that lacks
an address or a signature that can be verified, or is to be sent to no address. -/
def Malformed (library : Library) (finds : Option Address → Text → Prop) (view : View)
    (msg : Message) : Prop :=
  view.identityKey = none ∧ (LoginPanics library msg view.nonce ∨
    SendsWithoutAddress msg ∧ ∃ host, finds none host)

/-- From every state that a connection can reach, the messages that crash the server
are the malformed ones. -/
theorem crashes_exactly_on_malformed (reaches : ReachesConnection library opts finds nonce view)
    (msg : Message) :
    ¬CrashesOn library opts finds view msg ↔ ¬Malformed library finds view msg := by
  constructor
  · rintro harmless ⟨anonymous, panics | ⟨absent, found⟩⟩
    · exact harmless (crashesOn_login anonymous panics)
    · exact harmless (crashesOn_send anonymous absent found)
  · intro wellFormed
    have obeys : Program.Obeys (rules library opts ⟨finds, False⟩ .outbound) EndsConsistent
        (doHandleOutboundMessage library opts msg) { view with message := some msg } :=
      doHandleOutboundMessage_obeys rfl reaches.consistent
        fun anonymous malformed => wellFormed ⟨anonymous, malformed⟩
    exact obeys.not_crashes fun _ => id

/-! ## A server with static presence -/

/-- The static presence repository finds every address, also an absent one. -/
def staticPresence (tassisHost : Text) (_ : Option Address) (found : Text) : Prop :=
  found = tassisHost

/-- The first message of a client can crash the server. -/
theorem malformed_messages_crash :
    let nonce := "nonce".toList
    let finds := staticPresence "tassis".toList
    ReachesConnection plainLibrary plainOpts finds nonce (.initial nonce) ∧
      CrashesOn plainLibrary plainOpts finds (.initial nonce) (loginMessage none nonce []) ∧
      CrashesOn plainLibrary plainOpts finds (.initial nonce)
        (loginMessage (some ⟨"key".toList, "device".toList⟩) nonce "short".toList) ∧
      CrashesOn plainLibrary plainOpts finds (.initial nonce)
        ⟨1, some (.outboundMessage ⟨none, "hello".toList⟩)⟩ :=
  ⟨.initial,
    crashesOn_login rfl ⟨_, _, rfl, unmarshalLogin_encode _, rfl, Or.inl rfl⟩,
    crashesOn_login rfl ⟨_, _, rfl, unmarshalLogin_encode _, rfl, Or.inr ⟨_, rfl, rfl⟩⟩,
    crashesOn_send rfl ⟨_, rfl, rfl⟩ ⟨_, rfl⟩⟩

/-- A client that logs in for the first time. -/
def newcomer : Message :=
  loginMessage (some ⟨"key".toList, "device".toList⟩) "nonce".toList (sign "key".toList)

theorem newcomer_proves :
    Proves plainLibrary newcomer "nonce".toList ⟨"key".toList, "device".toList⟩ :=
  ⟨_, _, rfl, unmarshalLogin_encode _, rfl, rfl, @verify_sign "key".toList (by decide) _⟩

theorem newcomer_does_not_crash :
    ¬CrashesOn plainLibrary plainOpts (staticPresence "tassis".toList)
      (.initial "nonce".toList) newcomer := by
  refine (crashes_exactly_on_malformed .initial _).mpr ?_
  rintro ⟨_, panics | ⟨⟨_, payload, _⟩, _⟩⟩
  · exact newcomer_proves.not_panics panics
  · cases payload

end Tassis.Service
