import Tassis.Service.Dispatch
import Tassis.Service.Soundness

/-! # Sequence numbers of forwarded messages

A goroutine that forwards a message draws a sequence number from the forwarder, stores
its callback under the number and sends the message with it. As long as the numbers
have not come round, what is sent with a number is the message of the one callback
that was ever stored under it.
-/

namespace Tassis.Service

open Model
open Program (Always Obeys only)

/-! ## What a goroutine has drawn -/

/-- How far a goroutine has come with forwarding a message. -/
inductive Draft where
  | blank
  | numbered (sequence : Nat)
  | stored (sequence : Nat) (callback : Callback)

namespace Draft

def next : Draft → (operation : Operation) → Reply operation → Draft
  | _, .nextForwarderSequence, sequence => .numbered sequence
  | _, .storeCallback sequence callback, _ => .stored sequence callback
  | _, .sendTo _ _, _ => .blank
  | draft, _, _ => draft

def Allows (draft : Draft) : Operation → Prop
  | .storeCallback sequence _ => draft = .numbered sequence
  | .sendTo _ msg => ∃ sequence callback outboundMessage,
      draft = .stored sequence callback ∧ callback.msg.message = some outboundMessage ∧
        msg = ⟨sequence, some (.outboundMessage outboundMessage)⟩
  | _ => True

def rules : Program.Rules Operation Reply Draft where
  replies _ _ _ := True
  next := next
  allows := Allows
  mayCrash _ := True

end Draft

section Forwarding

variable {library : Library} {opts : Opts}

theorem drafts_of_passesOn {α : Type} {program : Task α}
    (passesOn : Always (only Operation.PassesOn) program) : Always Draft.rules program := by
  refine passesOn.of_only ?_ fun _ => trivial
  intro draft operation passesOn
  cases operation <;> trivial

/-- What is sent with a number is the message of the callback that is stored under it. -/
theorem forward_drafts {outboundMessage : OutboundMessage} {callback : Callback}
    (carries : callback.msg.message = some outboundMessage) (tassisHost : Text) :
    Always Draft.rules (forward library opts outboundMessage tassisHost callback) := by
  apply Always.bind (Always.perform fun _ => trivial)
  intro result
  cases result with
  | error err => exact drafts_of_passesOn (finished_passesOn library opts callback _)
  | ok _ =>
      intro draft
      refine ⟨trivial, fun sequence _ => ⟨rfl, fun _ _ => ⟨?_, fun _ _ => trivial⟩⟩⟩
      exact ⟨sequence, callback, outboundMessage, rfl, carries, rfl⟩

theorem forwardMessage_drafts (retryPublisher : Publisher) (brokerMsg : BrokerMessage) :
    Always Draft.rules (forwardMessage library opts retryPublisher brokerMsg) := by
  unfold forwardMessage
  cases library.unmarshal brokerMsg.data with
  | error err =>
      exact (drafts_of_passesOn (acknowledge_passesOn brokerMsg)).bind fun _ => Always.pure _
  | ok msg =>
      apply (drafts_of_passesOn (delayRetry_passesOn opts msg)).bind
      intro _
      cases carries : msg.message with
      | none => exact fun _ => trivial
      | some outboundMessage =>
          apply Always.bind (Always.perform fun _ => trivial)
          intro result
          cases result with
          | error err =>
              exact (drafts_of_passesOn (failMessage_passesOn library opts _ _ _)).bind
                fun _ => Always.pure _
          | ok tassisHost =>
              dsimp only
              split
              · exact drafts_of_passesOn (publishLocally_passesOn library opts _ _ _ _)
              · exact (forward_drafts carries tassisHost).bind fun _ => Always.pure _

theorem forwardLoop_drafts (subscriber : Subscriber) (retryPublisher : Publisher)
    (rounds : Nat) :
    Always Draft.rules (forwardLoop library opts subscriber retryPublisher rounds) := by
  induction rounds with
  | zero => exact fun _ => trivial
  | succ rounds induction =>
      apply Always.bind (Always.perform fun _ => trivial)
      intro delivered
      cases delivered with
      | none => exact Always.pure _
      | some brokerMsg => exact (forwardMessage_drafts _ _).bind fun _ => induction

end Forwarding

/-! ## Numbers -/

/-- The forwarder has not used all its numbers. -/
def NoWrap (state : State) : Action → Prop
  | .perform _ .nextForwarderSequence _ _ => state.forwarder.sequence + 1 < 2 ^ 32
  | _ => True

instance (state : State) (action : Action) : Decidable (NoWrap state action) := by
  unfold NoWrap
  split <;> infer_instance

/-- The callbacks that were ever stored, by their numbers. -/
def issuedAfter (issued : Nat → Option Callback) : Action → Nat → Option Callback
  | .perform _ (.storeCallback sequence callback) _ _ =>
      Function.update issued sequence (some callback)
  | _ => issued

def draftsAfter (drafts : Goroutine → Draft) : Action → Goroutine → Draft
  | .perform goroutine operation reply _ =>
      Function.update drafts goroutine ((drafts goroutine).next operation reply)
  | _ => drafts

/-- What the drafts say of the numbers up to a bound: a number that was drawn belongs to
one goroutine until a callback is stored under it, and then to this callback. -/
structure Drafted (issued : Nat → Option Callback) (bound : Nat) (drafts : Goroutine → Draft) :
    Prop where
  unissued : ∀ goroutine sequence, drafts goroutine = .numbered sequence →
    sequence ≤ bound ∧ issued sequence = none
  stored : ∀ goroutine sequence callback, drafts goroutine = .stored sequence callback →
    issued sequence = some callback
  distinct : ∀ goroutine other sequence, drafts goroutine = .numbered sequence →
    drafts other = .numbered sequence → goroutine = other

/-- The goroutines that forward messages use the numbers of the forwarder. -/
structure Numbered (issued : Nat → Option Callback) (drafts : Goroutine → Draft)
    (state : State) : Prop extends Drafted issued state.forwarder.sequence drafts where
  drawn : ∀ sequence callback, issued sequence = some callback →
    sequence ≤ state.forwarder.sequence
  callbacks : ∀ sequence callback, state.forwarder.callbacks sequence = some callback →
    issued sequence = some callback
  wire : ∀ tassisHost msg, (tassisHost, msg) ∈ state.forwarder.wire →
    ∃ callback outboundMessage, issued msg.sequence = some callback ∧
      callback.msg.message = some outboundMessage ∧
      msg.payload = some (.outboundMessage outboundMessage)
  obeys : ∀ goroutine thread, state.threads goroutine = some thread →
    goroutine.kind = .forwarding →
    Obeys Draft.rules (fun _ _ => True) thread.program (drafts goroutine)

section Numbers

variable {library : Library} {opts : Opts} {state next : State}
  {issued : Nat → Option Callback} {drafts : Goroutine → Draft}

theorem Numbered.initial (opts : Opts) :
    Numbered (fun _ => none) (fun _ => .blank) (.initial opts) where
  drawn _ _ found := by cases found
  callbacks _ _ found := by cases found
  wire _ _ member := by cases member
  obeys goroutine thread present forwarding := by
    simp only [State.initial] at present
    rcases of_update_some present with ⟨rfl, _⟩ | ⟨_, absent⟩
    · cases forwarding
    · cases absent
  unissued _ _ drawn := by cases drawn
  stored _ _ _ drawn := by cases drawn
  distinct _ _ _ drawn := by cases drawn

/-- A number that was not drawn yet is free. -/
theorem Numbered.fresh (numbered : Numbered issued drafts state) {sequence : Nat}
    (later : state.forwarder.sequence < sequence) : issued sequence = none := by
  cases found : issued sequence with
  | none => rfl
  | some callback => exact absurd (numbered.drawn sequence callback found) (not_le.mpr later)

/-- A draft that a goroutine may have beside those of the others. -/
def Draft.Fits (issued : Nat → Option Callback) (bound : Nat) (drafts : Goroutine → Draft) :
    Draft → Prop
  | .blank => True
  | .numbered sequence =>
      sequence ≤ bound ∧ issued sequence = none ∧ ∀ other, drafts other ≠ .numbered sequence
  | .stored sequence callback => issued sequence = some callback

theorem Drafted.update {bound bound' : Nat} (drafted : Drafted issued bound drafts)
    {issued' : Nat → Option Callback} {goroutine : Goroutine} {draft : Draft}
    (fits : draft.Fits issued' bound' drafts)
    (unissued : ∀ other sequence, other ≠ goroutine → drafts other = .numbered sequence →
      sequence ≤ bound' ∧ issued' sequence = none)
    (kept : ∀ sequence callback, issued sequence = some callback →
      issued' sequence = some callback) :
    Drafted issued' bound' (Function.update drafts goroutine draft) := by
  have cases_of {other : Goroutine} {found : Draft}
      (equal : Function.update drafts goroutine draft other = found) :
      other = goroutine ∧ draft = found ∨ other ≠ goroutine ∧ drafts other = found := by
    rw [Function.update_apply] at equal
    split at equal
    · exact Or.inl ⟨by assumption, equal⟩
    · exact Or.inr ⟨by assumption, equal⟩
  constructor
  · intro other sequence equal
    rcases cases_of equal with ⟨_, rfl⟩ | ⟨different, before⟩
    · exact ⟨fits.1, fits.2.1⟩
    · exact unissued other sequence different before
  · intro other sequence callback equal
    rcases cases_of equal with ⟨_, rfl⟩ | ⟨_, before⟩
    · exact fits
    · exact kept sequence callback (drafted.stored other sequence callback before)
  · intro other other' sequence equal equal'
    rcases cases_of equal with ⟨same, rfl⟩ | ⟨_, before⟩ <;>
      rcases cases_of equal' with ⟨same', drawn⟩ | ⟨_, before'⟩
    · exact same.trans same'.symm
    · exact absurd before' (fits.2.2 other')
    · subst drawn
      exact absurd before (fits.2.2 other)
    · exact drafted.distinct other other' sequence before before'

theorem Numbered.obeys_of_step (numbered : Numbered issued drafts state) {action : Action}
    (taken : step library opts state action = some next) {goroutine : Goroutine}
    {thread : Thread} (present : next.threads goroutine = some thread)
    (forwarding : goroutine.kind = .forwarding) :
    Obeys Draft.rules (fun _ _ => True) thread.program (draftsAfter drafts action goroutine) := by
  cases threadStep_of_step taken present with
  | kept before apart =>
      have same : draftsAfter drafts action goroutine = drafts goroutine := by
        cases action <;> try rfl
        case perform performer operation reply rounds =>
            refine Function.update_of_ne ?_ _ _
            rintro rfl
            exact apart operation reply rounds rfl
      rw [same]
      exact numbered.obeys _ _ before forwarding
  | @resumed _ _ reply _ _ _ same before =>
      subst same
      rw [draftsAfter, Function.update_self]
      exact (numbered.obeys _ _ before forwarding).2 reply trivial
  | outbound | init => cases forwarding
  | started owner code rounds =>
      cases code <;> try cases forwarding
      exact forwardLoop_drafts _ _ rounds _
  | called callback forwardingErr => 
      exact drafts_of_passesOn (finished_passesOn library opts callback forwardingErr) _

section Performing

variable {goroutine : Goroutine} {operation : Operation} {reply : Reply operation}
  {rest : Reply operation → Task Unit} {view : View} {rounds : Nat}

/-- Only the goroutines that forward messages use the forwarder. -/
def Operation.Forwards : Operation → Prop
  | .nextForwarderSequence | .storeCallback .. | .sendTo .. => True
  | _ => False

theorem Sane.forwarding (sane : Sane library opts state goroutine ⟨.call operation rest, view⟩)
    (forwards : operation.Forwards) : goroutine.kind = .forwarding := by
  have allowed := sane.allowed
  cases operation <;> try exact forwards.elim
  all_goals
    cases kind : goroutine.kind <;> rw [kind] at allowed <;>
      first | rfl | exact allowed.elim

theorem Numbered.after (numbered : Numbered issued drafts state)
    (sound : Sound library opts state)
    (present : state.threads goroutine = some ⟨.call operation rest, view⟩)
    (possible : state.MayReply goroutine operation reply)
    (noWrap : NoWrap state (.perform goroutine operation reply rounds))
    (obeys : ∀ other thread,
      (state.after library opts goroutine view (rest reply) rounds operation reply).threads other =
        some thread → other.kind = .forwarding →
      Obeys Draft.rules (fun _ _ => True) thread.program
        (draftsAfter drafts (.perform goroutine operation reply rounds) other)) :
    Numbered (issuedAfter issued (.perform goroutine operation reply rounds))
      (draftsAfter drafts (.perform goroutine operation reply rounds))
      (state.after library opts goroutine view (rest reply) rounds operation reply) := by
  have sane := sound.threads _ _ present
  have unchanged (kept : (drafts goroutine).next operation reply = drafts goroutine) :
      Drafted issued state.forwarder.sequence
        (draftsAfter drafts (.perform goroutine operation reply rounds)) := by
    rw [draftsAfter, kept, Function.update_eq_self]
    exact numbered.toDrafted
  cases operation <;> try exact ⟨unchanged rfl, numbered.drawn, numbered.callbacks,
    numbered.wire, obeys⟩
  case nextForwarderSequence =>
      have drawn : reply = state.forwarder.sequence + 1 := by
        have replies : reply = Model.nextSequence state.forwarder.sequence := by
          simpa [State.mayReply] using possible.1
        rw [replies, Model.nextSequence]
        exact Nat.mod_eq_of_lt noWrap
      subst drawn
      refine ⟨numbered.toDrafted.update ⟨le_rfl, numbered.fresh (Nat.lt_succ_self _), ?_⟩ ?_
        fun _ _ => id, ?_, numbered.callbacks, numbered.wire, obeys⟩
      · exact fun other before => Nat.not_succ_le_self _ (numbered.unissued _ _ before).1
      · exact fun other sequence _ before =>
          (numbered.unissued other sequence before).imp_left Nat.le_succ_of_le
      · exact fun sequence callback found => Nat.le_succ_of_le (numbered.drawn _ _ found)
  case storeCallback sequence callback =>
      have draft := (numbered.obeys _ _ present (sane.forwarding trivial)).1
      rcases numbered.unissued _ _ draft with ⟨bounded, unissued⟩
      have other {sequence' : Nat} {callback' : Callback}
          (found : issued sequence' = some callback') :
          Function.update issued sequence (some callback) sequence' = some callback' := by
        rw [Function.update_of_ne, found]
        rintro rfl
        cases unissued.symm.trans found
      refine ⟨numbered.toDrafted.update (Function.update_self ..) ?_ fun _ _ => other, ?_, ?_, ?_,
        obeys⟩
      · intro goroutine' sequence' different before
        refine (numbered.unissued _ _ before).imp_right (Function.update_of_ne ?_ _ _).trans
        rintro rfl
        exact different (numbered.distinct _ _ _ before draft)
      · intro sequence' callback' found
        rcases of_update_some found with ⟨rfl, _⟩ | ⟨_, found⟩
        · exact bounded
        · exact numbered.drawn _ _ found
      · intro sequence' callback' found
        rcases of_update_some found with ⟨rfl, rfl⟩ | ⟨_, found⟩
        · exact Function.update_self ..
        · exact other (numbered.callbacks _ _ found)
      · intro tassisHost msg member
        rcases numbered.wire tassisHost msg member with
          ⟨callback', outboundMessage, found, carries⟩
        exact ⟨callback', outboundMessage, other found, carries⟩
  case sendTo tassisHost msg =>
      rcases (numbered.obeys _ _ present (sane.forwarding trivial)).1 with
        ⟨sequence, callback, outboundMessage, draft, carries, rfl⟩
      refine ⟨numbered.toDrafted.update trivial (fun other sequence _ => numbered.unissued _ _)
        fun _ _ => id, numbered.drawn, numbered.callbacks, ?_, obeys⟩
      intro tassisHost' msg member
      rcases List.mem_append.mp member with member | member
      · exact numbered.wire tassisHost' msg member
      · cases List.mem_singleton.mp member
        exact ⟨callback, outboundMessage, numbered.stored _ _ _ draft, carries, rfl⟩

end Performing

/-- A callback that was stored under a number stays the only one. -/
theorem Numbered.issued_of_step (numbered : Numbered issued drafts state)
    (sound : Sound library opts state) {action : Action}
    (taken : step library opts state action = some next) {sequence : Nat} {callback : Callback}
    (found : issued sequence = some callback) :
    issuedAfter issued action sequence = some callback := by
  cases action <;> try exact found
  case perform goroutine operation reply rounds =>
      cases operation <;> try exact found
      case storeCallback sequence' callback' =>
          rcases performNext_cases taken with ⟨rest, view, present, _, _⟩
          have sane := sound.threads _ _ present
          have draft := (numbered.obeys _ _ present (sane.forwarding trivial)).1
          refine (Function.update_of_ne ?_ _ _).trans found
          rintro rfl
          cases (numbered.unissued _ _ draft).2.symm.trans found

theorem Numbered.step (numbered : Numbered issued drafts state)
    (sound : Sound library opts state) {action : Action} (noWrap : NoWrap state action)
    (taken : step library opts state action = some next) :
    Numbered (issuedAfter issued action) (draftsAfter drafts action) next := by
  have obeys (goroutine : Goroutine) (thread : Thread)
      (present : next.threads goroutine = some thread) :=
    numbered.obeys_of_step taken present
  cases stepCase_of_step taken with
  | performed reply rounds present possible =>
      exact numbered.after sound present possible noWrap obeys
  | finished forwardingErr waits =>
      refine { numbered with callbacks := ?_, obeys }
      intro sequence callback found
      exact numbered.callbacks sequence callback (of_update_none found).2
  | _ => exact { numbered with obeys }

end Numbers

end Tassis.Service
