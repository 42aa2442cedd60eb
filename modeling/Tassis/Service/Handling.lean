import Tassis.Service.System

/-! # Handling a message

How the handler of a client's message ends, whatever the database, the broker,
the presence repository and the attachments reply: what it has sent, which
goroutines it has started and what has become of the connection.
-/

namespace Tassis.Service

open Model
open Program (Settles settles_bind settles_perform settles_pure)

/-! ## What a handler does -/

/-- The connection whose message is being handled, the goroutines that the handler
has started, and the last replies about the client's number, its subscription and
the host of a recipient. -/
structure Handling where
  connection : Connection
  started : List Routine
  number : Option (Except Failure (Text × Text))
  subscription : Option (Except Failure Subscriber)
  found : Option (Except Failure Text)

namespace Handling

def start (connection : Connection) : Handling := ⟨connection, [], none, none, none⟩

/-- Whatever is not part of the connection may reply anything. -/
def MayReply (handling : Handling) : (operation : Operation) → Reply operation → Prop
  | .newSubscriber topic, .ok subscriber => subscriber.topic = topic
  | operation, reply => handling.connection.mayReply operation reply = true

def next (handling : Handling) : (operation : Operation) → Reply operation → Handling
  | .go routine, _ => { handling with started := handling.started ++ [routine] }
  | .registerChatNumber .., result => { handling with number := some result }
  | .newSubscriber _, result => { handling with subscription := some result }
  | .find _, result => { handling with found := some result }
  | operation, reply =>
      { handling with connection := handling.connection.after operation reply }

/-- After the handler has answered the message. -/
def answer (handling : Handling) (msg : Message) (payload : Payload) : Handling :=
  handling.next (.send ⟨msg.sequence, some payload⟩) ()

def close (handling : Handling) : Handling := handling.next .close ()

def logIn (handling : Handling) (address : Address) : Handling :=
  (handling.next (.storeIdentityKey address.identityKey) ()).next
    (.storeDeviceId address.deviceId) ()

/-- After the goroutines of a session were started. -/
def subscribe (opts : Opts) (handling : Handling) (subscriber : Subscriber) : Handling :=
  { handling with
    started := handling.started ++ .handleInbound subscriber ::
      (if 0 < opts.checkPreKeysInterval then [.warnPreKeysLowIfNecessary] else [])
    subscription := some (.ok subscriber) }

end Handling

def handlingInterface : Program.Interface Operation Reply Handling where
  replies := Handling.MayReply
  next := Handling.next

/-- Everything is allowed, and a crash on some condition. -/
def handlingRules (mayCrash : Handling → Prop) : Program.Rules Operation Reply Handling where
  toInterface := handlingInterface
  allows _ _ := True
  mayCrash := mayCrash

variable {library : Library} {opts : Opts} {mayCrash : Handling → Prop} {handling : Handling}
  {msg : Message}

/-! ## Sending and loading -/

theorem send_settles {payload : Payload} {post : Handling → Unit → Prop}
    (holds : post (handling.answer msg payload) ()) :
    Settles (handlingRules mayCrash) post (send ⟨msg.sequence, some payload⟩) handling :=
  ⟨trivial, fun _ _ => holds⟩

theorem error_settles {err : Failure} {post : Handling → Unit → Prop}
    (holds : post (handling.answer msg (.error (typedError err))) ()) :
    Settles (handlingRules mayCrash) post (error msg err) handling :=
  ⟨trivial, fun _ _ => holds⟩

theorem ack_settles {post : Handling → Unit → Prop}
    (holds : post (handling.answer msg .ack) ()) :
    Settles (handlingRules mayCrash) post (ack msg) handling :=
  ⟨trivial, fun _ _ => holds⟩

theorem getIdentityKey_settles {post : Handling → Text → Prop}
    (holds : post handling (handling.connection.identityKey.getD [])) :
    Settles (handlingRules mayCrash) post getIdentityKey handling := by
  rw [getIdentityKey, settles_bind, settles_perform]
  refine ⟨trivial, ?_⟩
  intro identityKey loaded
  cases of_decide_eq_true loaded
  exact holds

theorem getDeviceId_settles {post : Handling → Text → Prop}
    (holds : post handling (handling.connection.deviceId.getD [])) :
    Settles (handlingRules mayCrash) post getDeviceId handling := by
  rw [getDeviceId, settles_bind, settles_perform]
  refine ⟨trivial, ?_⟩
  intro deviceId loaded
  cases of_decide_eq_true loaded
  exact holds

/-- An error and the end of the connection. -/
theorem refuse_settles {err : Failure} {post : Handling → Unit → Prop}
    (holds : post (handling.answer msg (.error (typedError err))).close ()) :
    Settles (handlingRules mayCrash) post
      (do
        error msg err
        perform .close) handling := by
  rw [settles_bind]
  apply error_settles
  exact ⟨trivial, fun _ _ => holds⟩

/-! ## Who may send a message -/

/-- Nobody is logged in. -/
def Connection.Anonymous (connection : Connection) : Prop :=
  connection.identityKey.getD [] = []

instance (connection : Connection) : Decidable connection.Anonymous :=
  inferInstanceAs (Decidable (_ = _))

theorem isAuthenticated_settles {post : Handling → Bool → Prop}
    (holds : post handling (!decide handling.connection.Anonymous)) :
    Settles (handlingRules mayCrash) post isAuthenticated handling := by
  have stored : decide ((handling.connection.identityKey.getD []).length ≠ 0) =
      !decide handling.connection.Anonymous := by
    by_cases anonymous : handling.connection.Anonymous
    · rw [anonymous]
      simp [anonymous]
    · have nonempty : handling.connection.identityKey.getD [] ≠ [] := anonymous
      simp [anonymous, nonempty]
  rw [isAuthenticated, settles_bind]
  apply getIdentityKey_settles
  rw [settles_pure, stored]
  exact holds

theorem ifAuthenticated_settles {handler : Task Unit} {post : Handling → Unit → Prop}
    (refused : ∀ err, post (handling.answer msg (.error err)) ())
    (handled : Settles (handlingRules mayCrash) post handler handling) :
    Settles (handlingRules mayCrash) post (ifAuthenticated msg handler) handling := by
  rw [ifAuthenticated, settles_bind]
  apply isAuthenticated_settles
  by_cases anonymous : handling.connection.Anonymous
  · simpa [anonymous] using error_settles (refused _)
  · simpa [anonymous] using handled

theorem ifAnonymous_settles {handler : Task Unit} {post : Handling → Unit → Prop}
    (refused : ¬handling.connection.Anonymous → ∀ err, post (handling.answer msg (.error err)) ())
    (handled : handling.connection.Anonymous →
      Settles (handlingRules mayCrash) post handler handling) :
    Settles (handlingRules mayCrash) post (ifAnonymous msg handler) handling := by
  rw [ifAnonymous, settles_bind]
  apply isAuthenticated_settles
  by_cases anonymous : handling.connection.Anonymous
  · simpa [anonymous] using handled anonymous
  · simpa [anonymous] using error_settles (refused anonymous _)

end Tassis.Service
