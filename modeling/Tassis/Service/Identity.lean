import Tassis.Service.Soundness

/-! # Who acts for an address

A connection acts for an address only if its client has proved to own the
address, by a login that carries the nonce of this connection and is signed with
the key of the address. What anonymous clients may do is not done for the client
of a connection that has logged in.
-/

namespace Tassis.Service

open Model

variable {library : Library} {opts : Opts} {state next : State} {connection : Connection}

/-! ## Operations -/

/-- The operations that are reserved to the owner of an address. -/
def Operation.ActsFor (library : Library) (address : Address) : Operation → Prop
  | .announce announced _ => announced = address
  | .register identityKey deviceId _ | .unregister identityKey deviceId =>
      ⟨identityKey, deviceId⟩ = address
  | .newSubscriber topic => topic = topicForAddr library address
  | _ => False

/-- The operations that are reserved to anonymous clients: requesting pre-keys,
looking up numbers, authorizing uploads and sending messages. -/
def Operation.Anonymous : Operation → Prop
  | .requestPreKeys _ | .findChatNumberByShortNumber _ | .findChatNumberByIdentityKey _
  | .authorizeUpload | .publish .. => True
  | _ => False

variable {operation : Operation} {view : View} {kind : Kind} {address : Address}

/-- Transfers apart, only the loop over the messages of a client acts for an
address, and only for the one that is stored. -/
theorem View.actsFor_of_allows (allowed : view.Allows library opts kind operation)
    (acts : operation.ActsFor library address) (notTransfer : kind ≠ .transferring) :
    kind = .outbound ∧ view.ActsFor address := by
  cases operation <;> try exact acts.elim
  case announce announced tassisHost =>
      subst acts
      cases kind with
      | outbound => exact ⟨rfl, allowed.1⟩
      | _ => exact allowed.elim
  case register identityKey deviceId registration =>
      subst acts
      cases kind with
      | outbound => exact ⟨rfl, allowed⟩
      | _ => exact allowed.elim
  case unregister identityKey deviceId =>
      subst acts
      cases kind with
      | outbound => exact ⟨rfl, allowed⟩
      | transferring => exact absurd rfl notTransfer
      | _ => exact allowed.elim
  case newSubscriber topic =>
      subst acts
      cases kind with
      | outbound =>
          rcases allowed with ⟨address', actsFor, same⟩
          cases topicForAddr_injective library same
          exact ⟨rfl, actsFor⟩
      | starting => exact absurd allowed (not_isForwarding_topicForAddr library address)
      | transferring => exact absurd rfl notTransfer
      | _ => exact allowed.elim

/-- The background goroutines apart, only the loop over the messages of a client
does what is reserved to anonymous clients. -/
theorem View.anonymous_of_allows (allowed : view.Allows library opts kind operation)
    (anonymous : operation.Anonymous) (connected : ¬kind.OfService) :
    kind = .outbound ∧ view.identityKey = none := by
  cases operation <;> try exact anonymous.elim
  case publish publisher data =>
      cases kind with
      | outbound => exact ⟨rfl, allowed.1⟩
      | forwarding => exact absurd trivial connected
      | transferring => exact absurd trivial connected
      | _ => exact allowed.elim
  all_goals
    cases kind with
    | outbound => exact ⟨rfl, allowed⟩
    | _ => exact allowed.elim

/-! ## Proofs of ownership -/

/-- Once both parts of an identity are stored, the client has proved to own it. -/
def Connection.Proven (library : Library) (connection : Connection) : Prop :=
  ∀ address, connection.ActsFor address →
    ∃ msg ∈ connection.processed, Proves library msg connection.nonce address

theorem Connection.Proven.mono {later : Connection} (proven : connection.Proven library)
    (grown : connection.Extends later) (sameKey : later.identityKey = connection.identityKey)
    (sameDevice : later.deviceId = connection.deviceId) : later.Proven library := by
  rintro address ⟨key, device⟩
  rcases proven address ⟨sameKey ▸ key, sameDevice ▸ device⟩ with ⟨msg, member, proves⟩
  exact ⟨msg, grown.processed msg member, grown.nonce ▸ proves⟩

/-- The device ID is stored while the login that proves the address is handled. -/
theorem Connection.Proven.after (proven : connection.Proven library)
    (allowed : view.Allows library opts .outbound operation) (mirrors : view.Mirrors connection)
    (reply : Reply operation) : (connection.after operation reply).Proven library := by
  have grown := connection.extends_after allowed (fun _ => mirrors) reply
  cases operation <;> try exact proven.mono grown rfl rfl
  case nextMessage => cases reply <;> exact proven.mono grown rfl rfl
  case storeIdentityKey identityKey =>
      rintro address ⟨_, device⟩
      have unset : connection.deviceId = none := mirrors.deviceId.symm.trans allowed.2.1
      rw [Connection.after, unset] at device
      cases device
  case storeDeviceId deviceId =>
      rintro ⟨identityKey', deviceId'⟩ ⟨key, device⟩
      rcases allowed with ⟨_, msg, identityKey, stored, handling, proves⟩
      cases device
      have sameKey : identityKey = identityKey' :=
        Option.some.inj ((stored.symm.trans mirrors.identityKey).trans key)
      rw [sameKey, mirrors.nonce] at proves
      exact ⟨msg, mirrors.message msg handling, proves⟩

/-- Everywhere, the identities that are stored are proved. -/
def State.Proven (library : Library) (state : State) : Prop :=
  ∀ number connection, state.connections number = some connection →
    connection.Proven library

theorem State.Proven.step (sound : Sound library opts state) (proven : state.Proven library)
    {action : Action} (taken : step library opts state action = some next) :
    next.Proven library := by
  intro number connection stored
  have before := proven number
  have changed := connectionStep_of_step taken stored
  generalize found : state.connections number = current at changed
  cases changed with
  | connected nonce =>
      rintro address ⟨key, _⟩
      cases key
  | kept => exact before connection found
  | sent connection msg sends =>
      exact (before connection found).mono (connection.extends_send msg) rfl rfl
  | closed connection => exact (before connection found).mono connection.extends_close rfl rfl
  | @acted connection goroutine operation rest view reply connected present =>
      have sane := sound.threads _ _ present
      by_cases outbound : goroutine.kind = .outbound
      · have allowed := sane.allowed
        rw [outbound] at allowed
        exact (before connection found).after allowed
          (sane.mirrors_connection outbound connected found) reply
      · have same : (connection.after operation reply).identityKey = connection.identityKey ∧
            (connection.after operation reply).deviceId = connection.deviceId :=
          Connection.identity_after sane.allowed outbound reply
        exact (before connection found).mono
          (connection.extends_after sane.allowed (fun equal => absurd equal outbound) reply)
          same.1 same.2

theorem State.Proven.of_reaches (reaches : Reaches library opts state) :
    state.Proven library := by
  apply Transition.Run.preserves reaches
  · intro number connection stored
    cases stored
  · intro current action next reached proven _ taken
    exact proven.step (Sound.of_reaches reached) taken

/-! ## Runs -/

/-- In every run, only a connection that has received a login that proves an
address acts for the address. An identity that is stored never changes, and
after it is stored, nothing is done that is reserved to anonymous clients. -/
theorem only_the_proven_owner_acts (reaches : Reaches library opts state) :
    (∀ goroutine operation address, state.Performs goroutine operation →
      operation.ActsFor library address → goroutine.kind ≠ .transferring →
        ∃ number connection msg, goroutine = .outbound number ∧
          state.connections number = some connection ∧ msg ∈ connection.processed ∧
          Proves library msg connection.nonce address) ∧
      (∀ later number connection,
        Transition.Run (step library opts) Transition.anyStep state later →
        state.connections number = some connection →
          ∃ connection', later.connections number = some connection' ∧
            (∀ identityKey, connection.identityKey = some identityKey →
              connection'.identityKey = some identityKey) ∧
            ∀ deviceId, connection.deviceId = some deviceId →
              connection'.deviceId = some deviceId) ∧
      (∀ goroutine operation number, state.Performs goroutine operation →
        operation.Anonymous → goroutine.connection = some number →
          ∃ connection, state.connections number = some connection ∧
            connection.identityKey = none) := by
  have sound := Sound.of_reaches reaches
  refine ⟨?_, ?_, ?_⟩
  · intro goroutine operation address performs acts notTransfer
    rcases performs.thread with ⟨rest, view, present⟩
    have sane := sound.threads _ _ present
    rcases View.actsFor_of_allows sane.allowed acts notTransfer with ⟨outbound, key, device⟩
    rcases goroutine.eq_outbound outbound with ⟨number, rfl⟩
    rcases sane.mirrors number rfl with ⟨connection, stored, mirrors⟩
    have actsFor : connection.ActsFor address :=
      ⟨mirrors.identityKey.symm.trans key, mirrors.deviceId.symm.trans device⟩
    rcases State.Proven.of_reaches reaches number connection stored address actsFor with
      ⟨msg, member, proves⟩
    exact ⟨number, connection, msg, rfl, stored, member, proves⟩
  · intro later number connection run stored
    have grows := (sound.extends_of_run run).2
    rcases grows.connections number connection stored with ⟨connection', stored', grown⟩
    exact ⟨connection', stored', grown.identityKey, grown.deviceId⟩
  · intro goroutine operation number performs anonymous connected
    rcases performs.thread with ⟨rest, view, present⟩
    have sane := sound.threads _ _ present
    have ofConnection : ¬goroutine.kind.OfService := by
      intro ofService
      rw [sane.unowned ofService] at connected
      cases connected
    rcases View.anonymous_of_allows sane.allowed anonymous ofConnection with ⟨outbound, unset⟩
    rcases goroutine.eq_outbound outbound with ⟨number', rfl⟩
    cases connected
    rcases sane.mirrors number rfl with ⟨connection, stored, mirrors⟩
    exact ⟨connection, stored, mirrors.identityKey.symm.trans unset⟩

theorem subscription_follows_a_login :
    let address : Address := ⟨"key".toList, "device".toList⟩
    let topic := topicForAddr plainLibrary address
    ∃ state, Reaches plainLibrary plainOpts state ∧
      state.Performs (.outbound 0) (.newSubscriber topic) ∧
      ∃ number connection msg, Goroutine.outbound 0 = .outbound number ∧
        state.connections number = some connection ∧ msg ∈ connection.processed ∧
        Proves plainLibrary msg connection.nonce address := by
  intro address topic
  have run : ∃ state, Reaches plainLibrary plainOpts state ∧
      state.Performs (.outbound 0) (.newSubscriber topic) :=
    Transition.Run.exists_of_execute (loginTrace 0 "nonce".toList address) (by decide +kernel)
  rcases run with ⟨state, reaches, performs⟩
  exact ⟨state, reaches, performs,
    (only_the_proven_owner_acts reaches).1 _ _ address performs rfl (by decide)⟩

end Tassis.Service
