import Tassis.Service.Conservation
import Tassis.Service.Returns

/-! # Messages of users who have moved

A transfer puts the messages of a device on the forwarding topic, until it has
waited in vain for another one. A message that comes later stays on the topic of
the device, where nobody looks for it when the device is not registered.
-/

namespace Tassis.Service

open Model

variable {library : Library} {opts : Opts} {world next : World}

/-! ## Copies on the forwarding topic -/

def Fate.isForwarded : Fate → Bool
  | .copied place _ => place.topic = forwardingTopic
  | _ => false

/-- The message was put on the forwarding topic. -/
def Forwarded (history : History) (place : Place) : Prop :=
  ∃ entry, entry ∈ history ∧ entry.1 = place ∧ entry.2.isForwarded = true

instance (history : History) (place : Place) : Decidable (Forwarded history place) :=
  inferInstanceAs (Decidable (∃ entry, entry ∈ history ∧ _))

theorem Forwarded.mono {history later : History} {place : Place}
    (forwarded : Forwarded history place)
    (grows : ∀ entry, entry ∈ history → entry ∈ later) : Forwarded later place := by
  rcases forwarded with ⟨entry, member, isEntry⟩
  exact ⟨entry, grows entry member, isEntry⟩

/-- What a transfer has passed on is on the forwarding topic. -/
theorem Conserves.forwarded {state : State} (conserves : Conserves library opts state)
    {goroutine : Goroutine} {thread : Thread}
    (present : state.threads goroutine = some thread) (kind : goroutine.kind = .transferring)
    {brokerMsg : BrokerMessage} (settled : thread.view.settlement = .handedOn)
    (handling : thread.view.delivery = some brokerMsg) :
    Forwarded state.history brokerMsg.place := by
  have tracked := conserves.tracked goroutine thread present (by rw [kind]; rfl)
  rcases tracked.handedOn brokerMsg settled handling with ⟨fate, member, transferred⟩
  rcases transferred kind with ⟨index, failedAt, rfl⟩
  exact ⟨_, member, rfl, by simp [Fate.isForwarded]⟩

theorem Topics.length_after {topics : Topics} {operation : Operation}
    {reply : Reply operation} {topic : Text}
    (unpublished : publicationOf operation reply ≠ some topic) :
    (topics.after operation reply topic).length = (topics topic).length := by
  unfold Topics.after
  split
  · rename_i publisher _
    have different : topic ≠ publisher.topic := by
      intro same
      rw [same] at unpublished
      exact unpublished rfl
    rw [Topics.publish, Function.update_of_ne different]
  · rename_i brokerMsg
    by_cases same : topic = brokerMsg.place.topic
    · rw [Topics.ack, same, Function.update_self, List.length_modify]
    · rw [Topics.ack, Function.update_of_ne same]
  · rfl

/-! ## Drained topics -/

/-- The address whose messages have been awaited in vain. -/
def Errand.drained (errand : Errand) : Option Address :=
  if errand.idle = true then errand.found.bind Prod.fst else none

theorem Errand.drained_of_moved {errand : Errand} {address : Address}
    (moved : errand.Moved opts address) (idle : errand.idle = true) :
    errand.drained = some address := by
  rcases moved with ⟨lookup, found, same, _⟩
  rw [drained, if_pos idle, found]
  exact same

theorem Errand.drained_next {errand : Errand} {operation : Operation} {reply : Reply operation}
    {address : Address} (drained : (errand.next operation reply).drained = some address) :
    errand.drained = some address ∨
      awaitedOf operation reply ≠ none ∧ errand.found.bind Prod.fst = some address := by
  cases operation <;> try exact Or.inl drained
  case find => cases reply <;> cases drained
  case sleep => cases drained
  case nextDelivery subscriber =>
      cases reply with
      | none => exact Or.inr ⟨(Option.some_ne_none _), drained⟩
      | some brokerMsg => exact Or.inl drained
  case register => cases reply <;> exact Or.inl drained
  case unregister => cases reply <;> cases drained
  case send msg =>
      simp only [next] at drained
      split at drained <;> exact Or.inl drained

namespace World

/-- Every message on the topic of the address was acked by a client or put on
the forwarding topic. -/
def Settled (library : Library) (world : World) (address : Address) : Prop :=
  ∀ index, index < (world.service.topics (topicForAddr library address)).length →
    ⟨topicForAddr library address, index⟩ ∈ world.clientAcked ∨
      Forwarded world.service.history ⟨topicForAddr library address, index⟩

instance (address : Address) : Decidable (world.Settled library address) :=
  inferInstanceAs (Decidable (∀ index, index < _ → _))

/-- The transfer has received every message on the topic that is not acked. -/
def Received (world : World) (goroutine : Goroutine) (topic : Text) : Prop :=
  ∀ index, index < (world.service.topics topic).length →
    (world.service.topics.posting ⟨topic, index⟩).any Posting.acked = true ∨
      ⟨topic, index⟩ ∈ (world.errandOf goroutine).taken

instance (goroutine : Goroutine) (topic : Text) : Decidable (world.Received goroutine topic) :=
  inferInstanceAs (Decidable (∀ index, index < _ → _))

end World

/-- The topic for which the timer of a transfer has expired. -/
def WorldAction.awaited : WorldAction → Option (Goroutine × Text)
  | .service (.perform goroutine operation reply _) =>
      if goroutine.kind = .transferring then
        (awaitedOf operation reply).map fun topic => (goroutine, topic)
      else none
  | _ => none

def WorldAction.publication : WorldAction → Option Text
  | .service (.perform _ operation reply _) => publicationOf operation reply
  | _ => none

namespace World

/-- The timer of a transfer expires only when the transfer has received every
message. Nothing is published for a device from then on until it is registered
again. A device that was transferred before is unregistered by its client only
when nothing is left on its topic. -/
def Orderly (library : Library) (world : World) (action : WorldAction) : Prop :=
  (∀ awaited, awaited ∈ action.awaited → world.Received awaited.1 awaited.2) ∧
  (∀ topic, topic ∈ action.publication →
    (∀ address, address ∈ world.transferred → topic = topicForAddr library address →
      address ∈ world.registered) ∧
    ∀ entry, entry ∈ world.errands.entries → entry.1.kind = .transferring →
      ∀ address, address ∈ entry.2.drained → topic ≠ topicForAddr library address) ∧
  ∀ executed, executed ∈ action.clientExecuted → executed.2 = .unregister →
    executed.1 ∈ world.transferred → world.Settled library executed.1

instance (action : WorldAction) : Decidable (world.Orderly library action) :=
  inferInstanceAs (Decidable (_ ∧ _ ∧ _))

/-! ## No message is stranded -/

structure Balanced (library : Library) (world : World) : Prop where
  /-- What a transfer has received is on the forwarding topic, but for the
  message in hand. -/
  passedOn : ∀ goroutine thread place, goroutine.kind = .transferring →
    world.service.threads goroutine = some thread →
    place ∈ (world.errandOf goroutine).taken →
    Forwarded world.service.history place ∨ thread.view.settlement = .pending ∧
      ∃ brokerMsg, thread.view.delivery = some brokerMsg ∧ brokerMsg.place = place
  acked : ∀ address place posting, place.topic = topicForAddr library address →
    world.service.topics.posting place = some posting → posting.acked = true →
    place ∈ world.clientAcked ∨ Forwarded world.service.history place
  drained : ∀ goroutine address, goroutine.kind = .transferring →
    (world.errandOf goroutine).drained = some address → world.Settled library address
  transferred : ∀ address, address ∈ world.transferred →
    world.Settled library address ∨ address ∈ world.registered

theorem Balanced.initial : Balanced library (initial opts) where
  passedOn goroutine thread place kind present member := by cases member
  acked address place posting onTopic present := by cases present
  drained goroutine address kind drained := by cases drained
  transferred address member := by cases member

/-- A device topic stays settled unless something is published to it. -/
theorem Settled.mono {address : Address} (settled : world.Settled library address)
    (length : (next.service.topics (topicForAddr library address)).length =
      (world.service.topics (topicForAddr library address)).length)
    (clientAcked : ∀ place, place ∈ world.clientAcked → place ∈ next.clientAcked)
    (history : ∀ entry, entry ∈ world.service.history → entry ∈ next.service.history) :
    next.Settled library address := by
  intro index inside
  rw [length] at inside
  exact (settled index inside).imp (clientAcked _) fun forwarded => forwarded.mono history

theorem of_transferredAfter {kind : Kind} {executed : Option (Address × Request)}
    {address : Address} (member : address ∈ world.transferredAfter kind executed) :
    address ∈ world.transferred ∨
      kind = .transferring ∧ executed = some (address, .unregister) := by
  unfold transferredAfter at member
  split at member
  · split at member
    · rename_i transferring
      rcases List.mem_cons.mp member with rfl | before
      · exact Or.inr ⟨transferring, rfl⟩
      · exact Or.inl before
    · exact Or.inl member
  · exact Or.inl member

theorem mem_clientAckedAfter {kind : Kind} {acked : Option Place} {place : Place}
    (member : place ∈ world.clientAcked) : place ∈ world.clientAckedAfter kind acked := by
  unfold clientAckedAfter
  split
  · split
    · exact List.mem_cons_of_mem _ member
    · exact member
  · exact member

section Performed

variable {goroutine : Goroutine} {operation : Operation} {rest : Reply operation → Task Unit}
  {view : View} {reply : Reply operation} {rounds : Nat}

theorem settled_performed {address : Address} (settled : world.Settled library address)
    (unpublished : publicationOf operation reply ≠ some (topicForAddr library address)) :
    (world.performed
      (world.service.after library opts goroutine view (rest reply) rounds operation reply)
      goroutine view operation reply).Settled library address :=
  settled.mono (Topics.length_after unpublished) (fun _ => mem_clientAckedAfter)
    (fun _ => History.mem_after)

/-- A transfer that waits for the next message has passed on all earlier ones. -/
theorem forwarded_of_waiting (faithful : Faithful library opts world)
    (balanced : Balanced library world) {subscriber : Subscriber}
    {rest : Reply (.nextDelivery subscriber) → Task Unit}
    (present : world.service.threads goroutine =
      some ⟨.call (.nextDelivery subscriber) rest, view⟩)
    (kind : goroutine.kind = .transferring) {place : Place}
    (member : place ∈ (world.errandOf goroutine).taken) :
    Forwarded world.service.history place := by
  have attended := faithful.attends.allowed present
  rw [kind] at attended
  rcases balanced.passedOn goroutine _ place kind present member with
    forwarded | ⟨pending, _⟩
  · exact forwarded
  · rcases attended.2 with none | handedOn
    · rw [none] at member
      cases member
    · cases pending.symm.trans handedOn

/-- Nothing is published for a device whose messages were awaited in vain. -/
theorem unpublished_of_drained {other : Goroutine} (kind : other.kind = .transferring)
    {address : Address} (drained : (world.errandOf other).drained = some address)
    (orderly : world.Orderly library (.service (.perform goroutine operation reply rounds))) :
    publicationOf operation reply ≠ some (topicForAddr library address) := by
  intro published
  have recorded : ∃ entry, entry ∈ world.errands.entries ∧
      (entry.1.kind = .transferring ∧ entry.2.drained = some address) := by
    apply (exists_entry_iff fun goroutine errand =>
      goroutine.kind = .transferring ∧ errand.drained = some address) _ |>.mpr
    · exact ⟨other, kind, drained⟩
    · intro _ initially
      cases initially.2
  rcases recorded with ⟨entry, member, ofTransfer, isDrained⟩
  exact (orderly.2.1 _ published).2 entry member ofTransfer address isDrained rfl

theorem publicationOf_of_awaitedOf (awaited : awaitedOf operation reply ≠ none) :
    publicationOf operation reply = none := by
  cases operation <;> first | rfl | exact absurd rfl awaited

theorem publicationOf_of_executedOf {change : Address × Request}
    (executed : executedOf operation reply = some change) :
    publicationOf operation reply = none := by
  cases operation <;> first | rfl | cases executed

variable (faithful : Faithful library opts world)
  (conserves : Conserves library opts world.service) (balanced : Balanced library world)
  (present : world.service.threads goroutine = some ⟨.call operation rest, view⟩)

include faithful balanced present

include conserves in
/-- Messages of devices are acked by their clients, or by a transfer that has
passed them on. -/
theorem acked_performed {address : Address} {place : Place} {posting : Posting}
    (onTopic : place.topic = topicForAddr library address)
    (posted : (world.service.topics.after operation reply).posting place = some posting)
    (isAcked : posting.acked = true) :
    place ∈ world.clientAckedAfter goroutine.kind (ackedOf operation reply) ∨
      Forwarded (world.service.history.after goroutine.kind view world.service.topics
        world.service.clock operation reply) place := by
  cases Topics.postingStep_of_after _ posted with
  | kept before =>
      exact (balanced.acked address place posting onTopic before isAcked).imp
        mem_clientAckedAfter fun forwarded => forwarded.mono fun _ => History.mem_after
  | published last => cases isAcked
  | acked same before =>
      have sane := faithful.sound.threads _ _ present
      have allowed := sane.allowed
      subst same
      cases kind : goroutine.kind <;> rw [kind] at allowed <;> try exact allowed.elim
      case outbound => exact Or.inl (List.mem_cons_self ..)
      case forwarding =>
          have receives := (sane.delivered _ allowed.1).2
          rw [kind] at receives
          exact absurd (onTopic ▸ receives) (not_isForwarding_topicForAddr library address)
      case transferring =>
          have forwarded := conserves.forwarded present kind allowed.2 allowed.1
          exact Or.inr (forwarded.mono fun _ => History.mem_after)

include conserves in
/-- A transfer takes the next message when it has passed on the one before. -/
theorem passedOn_performed (possible : world.service.MayReply goroutine operation reply)
    (kind : goroutine.kind = .transferring) {place : Place}
    (member : place ∈ ((world.errandOf goroutine).next operation reply).taken) :
    Forwarded (world.service.after library opts goroutine view (rest reply) rounds operation
        reply).history place ∨
      (view.next opts operation reply).settlement = .pending ∧
        ∃ brokerMsg, (view.next opts operation reply).delivery = some brokerMsg ∧
          brokerMsg.place = place := by
  have allowed := (faithful.sound.threads _ _ present).allowed
  have before : place ∈ (world.errandOf goroutine).taken →
      Forwarded (world.service.after library opts goroutine view (rest reply) rounds operation
        reply).history place ∨
      view.settlement = .pending ∧
        ∃ brokerMsg, view.delivery = some brokerMsg ∧ brokerMsg.place = place := by
    intro member
    exact (balanced.passedOn goroutine _ place kind present member).imp_left
      fun forwarded => forwarded.mono fun _ => History.mem_after
  rw [kind] at allowed
  cases operation <;> first | exact before member | exact allowed.elim | skip
  case find => cases reply <;> cases member
  case sleep => cases member
  case unregister => cases reply <;> cases member
  case nextDelivery subscriber =>
      cases reply with
      | none => exact before member
      | some brokerMsg =>
          rcases List.mem_cons.mp member with same | earlier
          · exact Or.inr ⟨rfl, brokerMsg, rfl, same.symm⟩
          · have forwarded := forwarded_of_waiting faithful balanced present kind earlier
            exact Or.inl (forwarded.mono fun _ => History.mem_after)
  case publish publisher data =>
      cases reply with
      | some err => exact before member
      | none =>
          rcases before member with forwarded | ⟨_, brokerMsg, handling, same⟩
          · exact Or.inl forwarded
          · have conserved : Conserves library opts (world.service.after library opts goroutine
                view (rest none) rounds (.publish publisher data) none) :=
              conserves.after faithful.sound present possible
            have passedOn := conserved.forwarded (Function.update_self ..) kind rfl handling
            exact Or.inl (same ▸ passedOn)

/-- When the timer of a transfer expires, all messages of the device are settled. -/
theorem settled_of_awaited (kind : goroutine.kind = .transferring)
    (orderly : world.Orderly library (.service (.perform goroutine operation reply rounds)))
    (awaited : awaitedOf operation reply ≠ none) {address : Address}
    (found : (world.errandOf goroutine).found.bind Prod.fst = some address) :
    world.Settled library address := by
  have attended := faithful.attends.allowed present
  rw [kind] at attended
  cases operation <;> try exact absurd rfl awaited
  case nextDelivery subscriber =>
      cases reply with
      | some brokerMsg => exact absurd rfl awaited
      | none =>
          rcases attended.1 with ⟨address', ⟨lookup, looked, same, _⟩, onTopic⟩
          rw [looked, Option.bind_some] at found
          cases found.symm.trans same
          have received : world.Received goroutine subscriber.topic :=
            orderly.1 (goroutine, subscriber.topic) (if_pos kind)
          rw [onTopic] at received
          intro index inside
          rcases received index inside with isAcked | taken
          · rcases (Option.any_eq_true _ _).mp isAcked with ⟨posting, posted, isAcked⟩
            exact balanced.acked address _ posting rfl posted isAcked
          · exact Or.inr (forwarded_of_waiting faithful balanced present kind taken)

theorem drained_performed
    (orderly : world.Orderly library (.service (.perform goroutine operation reply rounds)))
    {other : Goroutine} (kind : other.kind = .transferring) {address : Address}
    (drained : (Service.errandsAfter world.service world.errandOf
      (.perform goroutine operation reply rounds) other).drained = some address) :
    world.Settled library address ∧
      publicationOf operation reply ≠ some (topicForAddr library address) := by
  have before (drained : (world.errandOf other).drained = some address) :
      world.Settled library address ∧
        publicationOf operation reply ≠ some (topicForAddr library address) :=
    ⟨balanced.drained other address kind drained, unpublished_of_drained kind drained orderly⟩
  rcases errandsAfter_cases (fun errand => errand.drained = some address)
    (by simp [Errand.drained, Errand.initial]) drained with ⟨same, own⟩ | ⟨_, unchanged⟩
  · subst same
    rcases Errand.drained_next own with earlier | ⟨awaited, found⟩
    · exact before earlier
    · refine ⟨settled_of_awaited faithful balanced present kind orderly awaited found,
        ?_⟩
      rw [publicationOf_of_awaitedOf awaited]
      exact (Option.some_ne_none _).symm
  · exact before unchanged

/-- A device is unregistered when all its messages are settled. -/
theorem settled_of_unregistered
    (orderly : world.Orderly library (.service (.perform goroutine operation reply rounds)))
    {address : Address} (executed : executedOf operation reply = some (address, .unregister))
    (concerned : goroutine.kind = .transferring ∨ address ∈ world.transferred) :
    world.Settled library address := by
  rcases kind_of_unregistered faithful.sound present executed with ⟨rfl, kind | kind⟩
  · have clientExecuted : (address, .unregister) ∈ WorldAction.clientExecuted
        (.service (.perform goroutine _ reply rounds)) := (if_pos kind).trans executed
    apply orderly.2.2 _ clientExecuted rfl
    rcases concerned with transferring | transferred
    · cases kind.symm.trans transferring
    · exact transferred
  · have attended := faithful.attends.allowed present
    rw [kind] at attended
    exact balanced.drained goroutine address kind
      (Errand.drained_of_moved attended.1 attended.2)

theorem transferred_performed
    (orderly : world.Orderly library (.service (.perform goroutine operation reply rounds)))
    {address : Address}
    (transferred : address ∈
      world.transferredAfter goroutine.kind (executedOf operation reply)) :
    world.Settled library address ∧
        publicationOf operation reply ≠ some (topicForAddr library address) ∨
      address ∈ world.registeredAfter (executedOf operation reply) := by
  by_cases unregistered : executedOf operation reply = some (address, .unregister)
  · have concerned := (of_transferredAfter transferred).symm.imp_left And.left
    refine Or.inl ⟨settled_of_unregistered faithful balanced present orderly
      unregistered concerned, ?_⟩
    rw [publicationOf_of_executedOf unregistered]
    exact (Option.some_ne_none _).symm
  · have before : address ∈ world.transferred :=
      (of_transferredAfter transferred).resolve_right fun new => unregistered new.2
    by_cases registered : address ∈ world.registered
    · exact Or.inr (mem_registeredAfter registered unregistered)
    · refine Or.inl ⟨(balanced.transferred address before).resolve_right registered, ?_⟩
      intro published
      exact registered ((orderly.2.1 _ published).1 address before rfl)

include conserves in
theorem Balanced.performed (possible : world.service.MayReply goroutine operation reply)
    (orderly : world.Orderly library (.service (.perform goroutine operation reply rounds))) :
    Balanced library (world.performed
      (world.service.after library opts goroutine view (rest reply) rounds operation reply)
      goroutine view operation reply) where
  passedOn other thread place kind present' member := by
    rw [errandOf_performed world _ goroutine view operation reply rounds] at member
    rcases threads_after_cases world.errandOf present' with
      ⟨rfl, rfl, equal⟩ | ⟨_, before, equal⟩ | ⟨_, _, _, equal⟩
    · rw [equal] at member
      exact passedOn_performed faithful conserves balanced present possible kind member
    · rw [equal] at member
      exact (balanced.passedOn other thread place kind before member).imp_left
        fun forwarded => forwarded.mono fun _ => History.mem_after
    · rw [equal] at member
      cases member
  acked address place posting onTopic posted isAcked :=
    acked_performed faithful conserves balanced present onTopic posted isAcked
  drained other address kind drained := by
    rw [errandOf_performed world _ goroutine view operation reply rounds] at drained
    have settled := drained_performed faithful balanced present orderly kind drained
    exact settled_performed settled.1 settled.2
  transferred address transferred := by
    have settled :=
      transferred_performed faithful balanced present orderly transferred
    exact settled.imp_left fun settled => settled_performed settled.1 settled.2

end Performed

/-! ## Runs -/

/-- Events from outside change neither the topics nor the transfers. -/
theorem of_fromOutside {state service : State} {action : Action}
    (fromOutside : action.FromOutside)
    (taken : Service.step library opts state action = some service) :
    service.topics = state.topics ∧ ∀ goroutine, goroutine.kind = .transferring →
      service.threads goroutine = state.threads goroutine := by
  have apart : ∀ {goroutine other : Goroutine}, goroutine.kind = .transferring →
      other.kind ≠ .transferring → goroutine ≠ other :=
    fun kind different same => different (same ▸ kind)
  cases stepCase_of_step taken with
  | @connected number =>
      refine ⟨rfl, fun goroutine kind => ?_⟩
      have notInit : goroutine ≠ .init number := apart kind Kind.noConfusion
      have notOutbound : goroutine ≠ .outbound number := apart kind Kind.noConfusion
      simp [State.setThread, State.setConnection, notInit, notOutbound]
  | sent | closed | ticked => exact ⟨rfl, fun _ _ => rfl⟩
  | performed => exact fromOutside.elim
  | finished =>
      exact ⟨rfl, fun goroutine kind => Function.update_of_ne (apart kind Kind.noConfusion) ..⟩

theorem Balanced.happened (balanced : Balanced library world)
    (faithful : Faithful library opts world) {action : Action} {service : State}
    (fromOutside : action.FromOutside)
    (taken : Service.step library opts world.service action = some service) :
    Balanced library { world with service } := by
  have history := (faithful.sound.extends taken).history
  rcases of_fromOutside fromOutside taken with ⟨topics, threads⟩
  have settled : ∀ address, world.Settled library address →
      World.Settled library { world with service } address := by
    intro address settled
    exact settled.mono (by rw [topics]) (fun _ member => member) history
  constructor
  · intro goroutine thread place kind present member
    rw [threads goroutine kind] at present
    exact (balanced.passedOn goroutine thread place kind present member).imp_left
      fun forwarded => forwarded.mono history
  · intro address place posting onTopic posted isAcked
    rw [topics] at posted
    exact (balanced.acked address place posting onTopic posted isAcked).imp_right
      fun forwarded => forwarded.mono history
  · intro goroutine address kind drained
    exact settled address (balanced.drained goroutine address kind drained)
  · intro address transferred
    exact (balanced.transferred address transferred).imp_left (settled address)

theorem Balanced.of_reaches (reaches : Reaches library opts (Orderly library) world) :
    Balanced library world := by
  apply Transition.Run.preserves reaches Balanced.initial
  intro current action next reached balanced orderly taken
  have faithful := Faithful.of_reaches reached
  cases effect_of_step taken with
  | performed reply rounds present possible _ =>
      have conserves := Conserves.of_reaches (Reaches.service reached)
      exact balanced.performed faithful conserves present possible orderly
  | happened fromOutside stepped => exact balanced.happened faithful fromOutside stepped
  | announced address tassisHost =>
      exact ⟨balanced.passedOn, balanced.acked, balanced.drained, balanced.transferred⟩

/-- In every run in which timers expire only when all messages were received and
nothing is published for a device afterwards until it is registered again, each
message of a device that a transfer has unregistered was acked by a client, was
put on the forwarding topic, or belongs to a device that is registered again. -/
theorem no_message_is_stranded (reaches : Reaches library opts (Orderly library) world)
    {address : Address} (transferred : address ∈ world.transferred) {index : Nat}
    {posting : Posting}
    (posted : world.service.topics.posting ⟨topicForAddr library address, index⟩ = some posting)
    (unacked : ⟨topicForAddr library address, index⟩ ∉ world.clientAcked) :
    Forwarded world.service.history ⟨topicForAddr library address, index⟩ ∨
      address ∈ world.registered := by
  have inside := (List.getElem?_eq_some_iff.mp posted).1
  have balanced := Balanced.of_reaches reaches
  rcases balanced.transferred address transferred with settled | registered
  · exact Or.inl ((settled index inside).resolve_left unacked)
  · exact Or.inr registered

/-! ## A sender who looked up the recipient before -/

/-- The device of the examples. -/
def device : Address := ⟨['k'], ['d']⟩

/-- An anonymous client sends a message to the device, which is still here. -/
def sendTrace : List Action :=
  [.connect 3 ['n'] 1, .send 3 ⟨1, some (.outboundMessage ⟨some device, ['m']⟩)⟩] ++
    publishTrace 3 ⟨some device, ['m']⟩ "tassis".toList (topicForAddr plainLibrary device) ['m']

def ackSender : List Action := [.perform (.outbound 3) (.send ⟨1, some .ack⟩) () 0]

/-- The sender looks up the device before it moves, and publishes the message
after a transfer has unregistered the device. -/
theorem message_is_stranded :
    ∃ world, Reaches plainLibrary plainOpts Transition.anyStep world ∧
      device ∈ world.transferred ∧ device ∉ world.registered ∧
      world.service.topics.posting ⟨topicForAddr plainLibrary device, 0⟩ =
        some ⟨['m'], false⟩ ∧
      ⟨topicForAddr plainLibrary device, 0⟩ ∉ world.clientAcked ∧
      ¬Forwarded world.service.history ⟨topicForAddr plainLibrary device, 0⟩ ∧
      (world.service.connections 3).map Connection.inbox = some [⟨1, some .ack⟩] :=
  Transition.Run.exists_of_execute
    ((transferringTrace 2 ++ arriveTrace 1 device ++ sendTrace.take 5).map .service ++
      [.announce device "other".toList] ++
      (passTrace (10 ^ 9) device "other".toList ++
        idleTrace (topicForAddr plainLibrary device) ++
        [Action.perform transferLoop (.unregister ['k'] ['d']) none 0] ++
        sendTrace.drop 5 ++ ackSender).map .service)
    (by decide +kernel)

/-- A transfer receives the message and puts it on the forwarding topic. -/
def moveTrace : List Action :=
  let topic := topicForAddr plainLibrary device
  let brokerMsg : BrokerMessage := ⟨topic, 0, ['m']⟩
  let data := forwardedCodec.encode ⟨some ⟨some device, ['m']⟩, 0, 0⟩
  [.perform transferLoop (.newSubscriber topic) (.ok ⟨topic⟩) 0,
    .perform transferLoop (.nextDelivery ⟨topic⟩) (some brokerMsg) 0,
    .perform transferLoop (.publish ⟨forwardingTopic⟩ data) none 0,
    .perform transferLoop (.ack brokerMsg) none 0,
    .perform transferLoop (.nextDelivery ⟨topic⟩) none 0,
    .perform transferLoop (.closeSubscriber ⟨topic⟩) () 0,
    .perform transferLoop (.unregister ['k'] ['d']) none 0]

/-- A message that is published before the device moves follows it. -/
theorem message_follows_its_device :
    ∃ world, Reaches plainLibrary plainOpts (Orderly plainLibrary) world ∧
      device ∈ world.transferred ∧
      world.service.topics.posting ⟨topicForAddr plainLibrary device, 0⟩ =
        some ⟨['m'], true⟩ ∧
      ⟨topicForAddr plainLibrary device, 0⟩ ∉ world.clientAcked ∧
      (Forwarded world.service.history ⟨topicForAddr plainLibrary device, 0⟩ ∨
        device ∈ world.registered) := by
  have run : ∃ world, Reaches plainLibrary plainOpts (Orderly plainLibrary) world ∧
      device ∈ world.transferred ∧
      world.service.topics.posting ⟨topicForAddr plainLibrary device, 0⟩ =
        some ⟨['m'], true⟩ ∧
      ⟨topicForAddr plainLibrary device, 0⟩ ∉ world.clientAcked :=
    Transition.Run.exists_of_execute
      ((transferringTrace 3 ++ arriveTrace 1 device ++ sendTrace ++ ackSender).map .service ++
        [.announce device "other".toList] ++
        (passTrace (10 ^ 9) device "other".toList ++ moveTrace).map .service)
      (by decide +kernel)
  rcases run with ⟨world, reaches, transferred, posted, unacked⟩
  exact ⟨world, reaches, transferred, posted, unacked,
    no_message_is_stranded reaches transferred posted unacked⟩

end World

end Tassis.Service
