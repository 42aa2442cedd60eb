import Tassis.Service.World

/-! # Users who come back

A transfer acts on a presence that was looked up some time ago. In the meantime
the user may have come back and registered again.
-/

namespace Tassis.Service

open Model

variable {library : Library} {opts : Opts} {world next : World}

/-! ## Operations and errands -/

theorem Errand.executed_next {errand : Errand} {operation : Operation}
    {reply : Reply operation} {change : Address × Request}
    (executed : (errand.next operation reply).executed = some change) :
    errand.executed = some change ∨ executedOf operation reply = some change := by
  cases operation <;> try exact Or.inl executed
  case find => cases reply <;> exact Or.inl executed
  case nextDelivery => cases reply <;> exact Or.inl executed
  case register =>
      cases reply with
      | none => exact Or.inr executed
      | some err => exact Or.inl executed
  case unregister =>
      cases reply with
      | none => exact Or.inr executed
      | some err => exact Or.inl executed
  case send msg =>
      simp only [next] at executed
      split at executed
      · cases executed
      · exact Or.inl executed

theorem Errand.not_moved_initial {address : Address} : ¬Errand.initial.Moved opts address := by
  intro moved
  rcases moved with ⟨lookup, found, _⟩
  cases found

theorem lookupOf_of_announcementOf {operation : Operation} {reply : Reply operation}
    {announcement : Address × Text}
    (announced : announcementOf operation reply = some announcement) :
    lookupOf operation reply = none := by
  cases operation <;> first | rfl | cases announced

theorem executedOf_of_announcementOf {operation : Operation} {reply : Reply operation}
    {announcement : Address × Text}
    (announced : announcementOf operation reply = some announcement) :
    executedOf operation reply = none := by
  cases operation <;> first | rfl | cases announced

/-- Devices are unregistered by their clients and by transfers. -/
theorem kind_of_unregistered {state : State} (sound : Sound library opts state)
    {goroutine : Goroutine} {operation : Operation} {rest : Reply operation → Task Unit}
    {view : View} (present : state.threads goroutine = some ⟨.call operation rest, view⟩)
    {reply : Reply operation} {address : Address}
    (executed : executedOf operation reply = some (address, .unregister)) :
    operation = .unregister address.identityKey address.deviceId ∧
      (goroutine.kind = .outbound ∨ goroutine.kind = .transferring) := by
  have allowed := (sound.threads _ _ present).allowed
  cases operation <;> try cases executed
  case register => cases reply <;> cases executed
  case unregister =>
      cases reply with
      | some err => cases executed
      | none =>
          cases executed
          refine ⟨rfl, ?_⟩
          cases kind : goroutine.kind <;> rw [kind] at allowed <;>
            first | exact Or.inl rfl | exact Or.inr rfl | exact allowed.elim

namespace World

/-! ## Registrations and transfers under way -/

/-- The last request of the address that was acknowledged is a registration, or
one has been executed and is going to be acknowledged. -/
def Claims (world : World) (address : Address) : Prop :=
  world.acknowledged address = some .register ∨
    ∃ entry, entry ∈ world.errands.entries ∧ entry.2.executed = some (address, .register)

/-- A transfer that has found the address elsewhere is still at work on it. -/
def Passing (opts : Opts) (world : World) (address : Address) : Prop :=
  ∃ entry, entry ∈ world.errands.entries ∧
    entry.1.kind = .transferring ∧ entry.2.Moved opts address

instance (address : Address) : Decidable (world.Claims address) :=
  inferInstanceAs (Decidable (_ ∨ _))

instance (address : Address) : Decidable (world.Passing opts address) :=
  inferInstanceAs (Decidable (∃ entry, entry ∈ world.errands.entries ∧ _))

theorem claims_iff {address : Address} :
    world.Claims address ↔ world.acknowledged address = some .register ∨
      ∃ goroutine, (world.errandOf goroutine).executed = some (address, .register) := by
  apply or_congr_right
  apply exists_entry_iff fun _ errand => errand.executed = some (address, .register)
  intro _ executed
  cases executed

theorem passing_iff {address : Address} :
    world.Passing opts address ↔ ∃ goroutine, goroutine.kind = .transferring ∧
      (world.errandOf goroutine).Moved opts address := by
  apply exists_entry_iff fun goroutine errand =>
    goroutine.kind = .transferring ∧ errand.Moved opts address
  intro _ moved
  exact Errand.not_moved_initial moved.2

/-! ## The condition -/

end World

def WorldAction.announcement : WorldAction → Option (Address × Text)
  | .announce address tassisHost => some (address, tassisHost)
  | .service (.perform _ operation reply _) => announcementOf operation reply
  | .service _ => none

/-- The request that a client connection has executed. -/
def WorldAction.clientExecuted : WorldAction → Option (Address × Request)
  | .service (.perform goroutine operation reply _) =>
      if goroutine.kind = .outbound then executedOf operation reply else none
  | _ => none

namespace World

/-- A user comes back to the service only when no transfer is at work on the
address, and with an earlier registration only while that one lasts. Clients do
not unregister what they have registered here. -/
def Undisturbed (opts : Opts) (world : World) (action : WorldAction) : Prop :=
  (∀ announcement, announcement ∈ action.announcement → announcement.2 = opts.publicAddr →
    world.presence announcement.1 ≠ some opts.publicAddr →
    ¬world.Passing opts announcement.1 ∧
      (world.Claims announcement.1 → announcement.1 ∈ world.registered)) ∧
  ∀ executed, executed ∈ action.clientExecuted → executed.2 = .unregister →
    world.Claims executed.1 → world.presence executed.1 ≠ some opts.publicAddr

instance (action : WorldAction) : Decidable (world.Undisturbed opts action) :=
  inferInstanceAs (Decidable (_ ∧ _))

/-! ## Registrations last -/

structure Homed (opts : Opts) (world : World) : Prop where
  passing : ∀ address, world.Passing opts address →
    world.presence address ≠ some opts.publicAddr
  registered : ∀ address, world.Claims address →
    world.presence address = some opts.publicAddr → address ∈ world.registered

theorem of_announced {announcement : Option (Address × Text)} {address : Address}
    (here : world.announced announcement address = some opts.publicAddr) :
    world.presence address = some opts.publicAddr ∨
      world.presence address ≠ some opts.publicAddr ∧
        announcement = some (address, opts.publicAddr) := by
  by_cases before : world.presence address = some opts.publicAddr
  · exact Or.inl before
  · refine Or.inr ⟨before, ?_⟩
    cases announcement with
    | none => exact absurd here before
    | some announcement =>
        rcases of_update_some here with ⟨rfl, same⟩ | ⟨_, unchanged⟩
        · rw [same]
        · exact absurd unchanged before

theorem of_acknowledgedAfter {acknowledgement : Option (Address × Request)}
    {address : Address} {request : Request}
    (acknowledged : world.acknowledgedAfter acknowledgement address = some request) :
    world.acknowledged address = some request ∨ acknowledgement = some (address, request) := by
  cases acknowledgement with
  | none => exact Or.inl acknowledged
  | some acknowledgement =>
      rcases of_update_some acknowledged with ⟨rfl, same⟩ | ⟨_, unchanged⟩
      · rw [same]
        exact Or.inr rfl
      · exact Or.inl unchanged

theorem mem_registeredAfter {executed : Option (Address × Request)} {address : Address}
    (registered : address ∈ world.registered)
    (kept : executed ≠ some (address, .unregister)) :
    address ∈ world.registeredAfter executed := by
  unfold registeredAfter
  split
  · exact List.mem_cons_of_mem _ registered
  · rename_i other
    have different : address ≠ other := by
      intro same
      rw [same] at kept
      exact kept rfl
    simpa [registered] using different
  · exact registered

/-- What is acknowledged has been executed before. -/
theorem Faithful.claims_of_acknowledgement (faithful : Faithful library opts world)
    {goroutine : Goroutine} {operation : Operation} {rest : Reply operation → Task Unit}
    {view : View}
    (present : world.service.threads goroutine = some ⟨.call operation rest, view⟩)
    {address : Address}
    (acknowledges : (if goroutine.kind = .outbound then acknowledgementOf view operation
      else none) = some (address, .register)) : world.Claims address := by
  rcases Option.ite_none_right_eq_some.mp acknowledges with ⟨outbound, acknowledges⟩
  have allowed := faithful.attends.allowed present
  rw [outbound] at allowed
  cases operation <;> try cases acknowledges
  case send msg =>
      rcases Option.ite_none_right_eq_some.mp acknowledges with ⟨isAck, acknowledges⟩
      rcases Option.map_eq_some_iff.mp acknowledges with ⟨request, requested, same⟩
      cases same
      exact claims_iff.mpr (Or.inr ⟨goroutine, allowed isAck _ requested⟩)

section Performed

variable {goroutine : Goroutine} {operation : Operation} {rest : Reply operation → Task Unit}
  {view : View} {reply : Reply operation} {service : State}
  (faithful : Faithful library opts world)
  (present : world.service.threads goroutine = some ⟨.call operation rest, view⟩)

include faithful present in
theorem claims_of_performed {address : Address}
    (claims : (world.performed service goroutine view operation reply).Claims address) :
    world.Claims address ∨ executedOf operation reply = some (address, .register) := by
  rcases claims_iff.mp claims with acknowledged | ⟨goroutine', executed⟩
  · rcases of_acknowledgedAfter acknowledged with before | acknowledges
    · exact Or.inl (Or.inl before)
    · exact Or.inl (faithful.claims_of_acknowledgement present acknowledges)
  · rw [errandOf_performed world service goroutine view operation reply 0] at executed
    rcases errandsAfter_cases (fun errand => errand.executed = some (address, .register))
      (by simp [Errand.initial]) executed with ⟨_, executed⟩ | ⟨_, executed⟩
    · rcases Errand.executed_next executed with before | new
      · exact Or.inl (claims_iff.mpr (Or.inr ⟨goroutine', before⟩))
      · exact Or.inr new
    · exact Or.inl (claims_iff.mpr (Or.inr ⟨goroutine', executed⟩))

theorem passing_of_performed {address : Address}
    (passing : (world.performed service goroutine view operation reply).Passing opts address) :
    world.Passing opts address ∨ ∃ tassisHost, tassisHost ≠ opts.publicAddr ∧
      lookupOf operation reply = some (some address, tassisHost) := by
  rcases passing_iff.mp passing with ⟨goroutine', kind, moved⟩
  rw [errandOf_performed world service goroutine view operation reply 0] at moved
  rcases errandsAfter_cases (Errand.Moved opts · address) Errand.not_moved_initial moved with
    ⟨_, moved⟩ | ⟨_, moved⟩
  · rcases moved with ⟨⟨found, tassisHost⟩, looked, sameAddress, elsewhere⟩
    dsimp only at sameAddress
    subst found
    rcases Errand.found_next looked with before | new
    · exact Or.inl (passing_iff.mpr ⟨goroutine', kind, Errand.moved_of_found before elsewhere⟩)
    · exact Or.inr ⟨tassisHost, elsewhere, new⟩
  · exact Or.inl (passing_iff.mpr ⟨goroutine', kind, moved⟩)

theorem presence_of_lookupOf {address : Address} {tassisHost : Text}
    (looked : lookupOf operation reply = some (some address, tassisHost))
    (consistent : world.mayReply operation reply = true) :
    world.presence address = some tassisHost := by
  cases operation <;> try cases looked
  case find found =>
      cases reply with
      | error err => cases looked
      | ok host =>
          cases looked
          simpa [mayReply] using consistent

end Performed

theorem Homed.initial : Homed opts (initial opts) where
  passing address passing := by
    rcases passing with ⟨entry, member, _⟩
    cases member
  registered address claims here := by cases here

/-- A transfer unregisters an address that is not here. -/
theorem Homed.not_unregistered (homed : Homed opts world)
    (faithful : Faithful library opts world) {goroutine : Goroutine} {operation : Operation}
    {rest : Reply operation → Task Unit} {view : View}
    (present : world.service.threads goroutine = some ⟨.call operation rest, view⟩)
    {reply : Reply operation} {rounds : Nat}
    (undisturbed : world.Undisturbed opts
      (.service (.perform goroutine operation reply rounds)))
    {address : Address} (claims : world.Claims address)
    (here : world.presence address = some opts.publicAddr) :
    executedOf operation reply ≠ some (address, .unregister) := by
  intro executed
  rcases kind_of_unregistered faithful.sound present executed with ⟨rfl, kind | kind⟩
  · have clientExecuted : (address, .unregister) ∈ WorldAction.clientExecuted
        (.service (.perform goroutine _ reply rounds)) := (if_pos kind).trans executed
    exact undisturbed.2 _ clientExecuted rfl claims here
  · have allowed := faithful.attends.allowed present
    rw [kind] at allowed
    exact homed.passing address (passing_iff.mpr ⟨goroutine, kind, allowed.1⟩) here

theorem Homed.performed (homed : Homed opts world) (faithful : Faithful library opts world)
    {goroutine : Goroutine} {operation : Operation} {rest : Reply operation → Task Unit}
    {view : View} {reply : Reply operation} {rounds : Nat}
    (present : world.service.threads goroutine = some ⟨.call operation rest, view⟩)
    (consistent : world.mayReply operation reply = true)
    (undisturbed : world.Undisturbed opts
      (.service (.perform goroutine operation reply rounds))) (service : State) :
    Homed opts (world.performed service goroutine view operation reply) where
  passing address passing here := by
    rcases of_announced here with before | ⟨absent, announced⟩
    · rcases passing_of_performed passing with passing | ⟨tassisHost, elsewhere, looked⟩
      · exact homed.passing address passing before
      · have found := presence_of_lookupOf looked consistent
        rw [before, Option.some.injEq] at found
        exact elsewhere found.symm
    · have allowed := undisturbed.1 _ announced rfl absent
      rcases passing_of_performed passing with passing | ⟨tassisHost, _, looked⟩
      · exact allowed.1 passing
      · rw [lookupOf_of_announcementOf announced] at looked
        cases looked
  registered address claims here := by
    rcases claims_of_performed faithful present claims with claims | executed
    · rcases of_announced here with before | ⟨absent, announced⟩
      · apply mem_registeredAfter (homed.registered address claims before)
        exact homed.not_unregistered faithful present undisturbed claims before
      · have allowed := undisturbed.1 _ announced rfl absent
        apply mem_registeredAfter (allowed.2 claims)
        rw [executedOf_of_announcementOf announced]
        exact (Option.some_ne_none _).symm
    · rw [World.performed, executed]
      exact List.mem_cons_self ..

theorem Homed.step (homed : Homed opts world) (faithful : Faithful library opts world)
    {action : WorldAction} (undisturbed : world.Undisturbed opts action)
    (effect : world.Effect library opts action next) : Homed opts next := by
  cases effect with
  | performed reply rounds present possible consistent =>
      exact homed.performed faithful present consistent undisturbed _
  | happened fromOutside taken => exact ⟨homed.passing, homed.registered⟩
  | announced address tassisHost =>
      constructor
      · intro address' passing here
        dsimp only at here
        rcases of_announced here with before | ⟨absent, announced⟩
        · exact homed.passing address' passing before
        · exact (undisturbed.1 _ announced rfl absent).1 passing
      · intro address' claims here
        dsimp only at here
        rcases of_announced here with before | ⟨absent, announced⟩
        · exact homed.registered address' claims before
        · exact (undisturbed.1 _ announced rfl absent).2 claims

theorem Homed.of_reaches (reaches : Reaches library opts (Undisturbed opts) world) :
    Homed opts world := by
  apply Transition.Run.preserves reaches Homed.initial
  intro current action next reached homed undisturbed taken
  exact homed.step (Faithful.of_reaches reached) undisturbed (effect_of_step taken)

/-- In every run in which users do not come back while a transfer is at work on
them, an address whose last acknowledged request is a registration and that is
present here is registered. -/
theorem acknowledged_registration_lasts
    (reaches : Reaches library opts (Undisturbed opts) world) (address : Address)
    (acknowledged : world.acknowledged address = some .register)
    (here : world.presence address = some opts.publicAddr) : address ∈ world.registered :=
  (Homed.of_reaches reaches).registered address (Or.inl acknowledged) here

/-! ## A user who comes back during a transfer -/

/-- A client has logged in and registers its device. -/
def registerTrace (number : Nat) (address : Address) : List Action :=
  let candidate := Database.candidate (plainLibrary.number address.identityKey) 0
  let register : Message := ⟨2, some (.register ⟨[], []⟩)⟩
  [.perform (.outbound number)
      (.send ⟨1, some (.chatNumber ⟨candidate.1, candidate.2.1, "domain".toList⟩)⟩) () 0,
    .send number register,
    .perform (.outbound number) .nextMessage (some register) 0,
    .perform (.outbound number) .loadIdentityKey (some address.identityKey) 0,
    .perform (.outbound number) .loadIdentityKey (some address.identityKey) 0,
    .perform (.outbound number) .loadDeviceId (some address.deviceId) 0,
    .perform (.outbound number) (.announce address "tassis".toList) none 0,
    .perform (.outbound number) (.register address.identityKey address.deviceId ⟨[], []⟩)
      none 0,
    .perform (.outbound number) (.send ⟨2, some .ack⟩) () 0]

/-- A client connects, logs in and registers its device. -/
def arriveTrace (number : Nat) (address : Address) : List Action :=
  loginTrace number ['n'] address ++ subscribeTrace number address ++
    registerTrace number address

/-- A device is registered and moves to another host. A transfer finds it there
and waits for messages, the device comes back and is registered once more, and
the transfer unregisters it. -/
theorem transfer_undoes_a_registration :
    ∃ world, Reaches plainLibrary plainOpts Transition.anyStep world ∧
      world.acknowledged ⟨['k'], ['d']⟩ = some .register ∧
      world.presence ⟨['k'], ['d']⟩ = some plainOpts.publicAddr ∧
      ⟨['k'], ['d']⟩ ∉ world.registered :=
  Transition.Run.exists_of_execute
    ((transferringTrace 2 ++ arriveTrace 1 ⟨['k'], ['d']⟩).map .service ++
      [.announce ⟨['k'], ['d']⟩ "other".toList] ++
      (passTrace (10 ^ 9) ⟨['k'], ['d']⟩ "other".toList ++
        idleTrace (topicForAddr plainLibrary ⟨['k'], ['d']⟩) ++
        arriveTrace 2 ⟨['k'], ['d']⟩ ++
        [Action.perform transferLoop (.unregister ['k'] ['d']) none 0]).map .service)
    (by decide +kernel)

/-- A device is registered and moves to another host. A transfer finds it there and
gives up because it cannot subscribe, and the device comes back and is registered once
more. -/
theorem registration_lasts_after_a_transfer :
    ∃ world, Reaches plainLibrary plainOpts (Undisturbed plainOpts) world ∧
      world.acknowledged ⟨['k'], ['d']⟩ = some .register ∧
      world.presence ⟨['k'], ['d']⟩ = some plainOpts.publicAddr ∧
      ⟨['k'], ['d']⟩ ∈ world.registered := by
  have run : ∃ world, Reaches plainLibrary plainOpts (Undisturbed plainOpts) world ∧
      world.acknowledged ⟨['k'], ['d']⟩ = some .register ∧
      world.presence ⟨['k'], ['d']⟩ = some plainOpts.publicAddr :=
    Transition.Run.exists_of_execute
      ((transferringTrace 2 ++ arriveTrace 1 ⟨['k'], ['d']⟩).map .service ++
        [.announce ⟨['k'], ['d']⟩ "other".toList] ++
        (passTrace (10 ^ 9) ⟨['k'], ['d']⟩ "other".toList ++
          [Action.perform transferLoop (.newSubscriber (topicForAddr plainLibrary ⟨['k'], ['d']⟩))
              (.error (.other "refused".toList)) 0,
            .perform transferLoop (.sleep (10 ^ 9)) () 0] ++
          arriveTrace 2 ⟨['k'], ['d']⟩).map .service)
      (by decide +kernel)
  rcases run with ⟨world, reaches, acknowledged, here⟩
  exact ⟨world, reaches, acknowledged, here,
    acknowledged_registration_lasts reaches _ acknowledged here⟩

end World

end Tassis.Service
