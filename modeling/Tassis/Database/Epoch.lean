import Mathlib.Data.List.Nodup
import Mathlib.Data.List.Range
import Mathlib.Logic.Function.Basic
import Tassis.Foundation.Text

/-! # One-time pre-keys as stacks

What the one-time pre-keys of a device are for, without a database: one stack
per device and signed pre-key. A log of registrations, removals and answers is
lawful if every answer takes the top of the stack that the log has built up.
-/

namespace Tassis.Database

/-- The time for which a device keeps one signed pre-key. A key is named by its
position among the keys uploaded. -/
structure Epoch where
  signedPreKey : Text
  /-- The one-time keys uploaded, oldest first. -/
  uploaded : List Text
  /-- The keys handed out, in that order. -/
  handedOut : List Nat
  once : handedOut.Nodup
  bounded : ∀ position, position ∈ handedOut → position < uploaded.length

namespace Epoch

def new (signedPreKey : Text) : Epoch where
  signedPreKey := signedPreKey
  uploaded := []
  handedOut := []
  once := List.nodup_nil
  bounded := by simp

/-- A registration with the current signed pre-key continues the epoch, and one
with another begins a new epoch. -/
def continuing (current : Option Epoch) (signedPreKey : Text) : Epoch :=
  match current with
  | none => .new signedPreKey
  | some epoch => if epoch.signedPreKey = signedPreKey then epoch else .new signedPreKey

/-- The keys not handed out yet, most recently uploaded first. -/
def remaining (epoch : Epoch) : List Nat :=
  (List.range epoch.uploaded.length).reverse.filter fun position =>
    position ∉ epoch.handedOut

theorem mem_remaining {epoch : Epoch} {position : Nat} :
    position ∈ epoch.remaining ↔
      position < epoch.uploaded.length ∧ position ∉ epoch.handedOut := by
  simp [remaining]

def upload (epoch : Epoch) (keys : List Text) : Epoch where
  signedPreKey := epoch.signedPreKey
  uploaded := epoch.uploaded ++ keys
  handedOut := epoch.handedOut
  once := epoch.once
  bounded := by
    intro position member
    have bound := epoch.bounded position member
    rw [List.length_append]
    omega

/-- Hand out one of the remaining keys. -/
def handOut (epoch : Epoch) (position : Nat) (free : position ∈ epoch.remaining) : Epoch where
  signedPreKey := epoch.signedPreKey
  uploaded := epoch.uploaded
  handedOut := epoch.handedOut ++ [position]
  once := by
    rw [List.nodup_append_comm, List.singleton_append, List.nodup_cons]
    exact ⟨(mem_remaining.mp free).2, epoch.once⟩
  bounded := by
    intro other member
    rcases List.mem_append.mp member with earlier | equal
    · exact epoch.bounded other earlier
    · rw [List.mem_singleton.mp equal]
      exact (mem_remaining.mp free).1

/-- Take the top of the stack: the key, if one remains, and the rest of the
epoch. -/
def pop (epoch : Epoch) : Option Text × Epoch :=
  match remains : epoch.remaining with
  | [] => (none, epoch)
  | position :: _ =>
      (epoch.uploaded[position]?, epoch.handOut position (by simp [remains]))

/-- The keys not handed out yet, as a stack with its top first. -/
def keys (epoch : Epoch) : List Text :=
  epoch.remaining.map fun position => epoch.uploaded.getD position []

/-! ## Uploading -/

@[simp] theorem keys_new (signedPreKey : Text) : (new signedPreKey).keys = [] := rfl

@[simp] theorem signedPreKey_new (signedPreKey : Text) :
    (new signedPreKey).signedPreKey = signedPreKey := rfl

@[simp] theorem signedPreKey_upload (epoch : Epoch) (keys : List Text) :
    (epoch.upload keys).signedPreKey = epoch.signedPreKey := rfl

theorem remaining_upload (epoch : Epoch) (keys : List Text) :
    (epoch.upload keys).remaining =
      ((List.range keys.length).map (epoch.uploaded.length + ·)).reverse ++
        epoch.remaining := by
  have unused : ∀ position, position ∈
      ((List.range keys.length).map (epoch.uploaded.length + ·)).reverse →
        decide (position ∉ epoch.handedOut) = true := by
    intro position member
    simp only [List.mem_reverse, List.mem_map] at member
    rcases member with ⟨index, _, rfl⟩
    rw [decide_eq_true_eq]
    intro handedOut
    have bound := epoch.bounded _ handedOut
    omega
  change (List.range (epoch.uploaded ++ keys).length).reverse.filter
    (fun position => position ∉ epoch.handedOut) = _
  rw [List.length_append, List.range_add, List.reverse_append, List.filter_append,
    List.filter_eq_self.mpr unused]
  rfl

theorem upload_nil (epoch : Epoch) : epoch.upload [] = epoch := by
  simp [upload]

/-- Uploaded keys go on top of the stack, the last one topmost. -/
theorem keys_upload (epoch : Epoch) (keys : List Text) :
    (epoch.upload keys).keys = keys.reverse ++ epoch.keys := by
  have new : (List.range keys.length).map
      (fun index => (epoch.uploaded ++ keys).getD (epoch.uploaded.length + index) []) =
        keys := by
    apply List.ext_getElem
    · simp
    · intro index _ inRange
      simp [List.getD_eq_getElem?_getD, inRange]
  have old : ∀ position, position ∈ epoch.remaining →
      (epoch.uploaded ++ keys).getD position [] = epoch.uploaded.getD position [] := by
    intro position member
    have bound := (mem_remaining.mp member).1
    rw [List.getD_eq_getElem?_getD, List.getD_eq_getElem?_getD,
      List.getElem?_append_left bound]
  rw [Epoch.keys, remaining_upload, List.map_append, List.map_reverse, List.map_map]
  congr 1
  · exact congrArg List.reverse new
  · exact List.map_congr_left old

/-! ## Handing out -/

theorem remaining_handOut {epoch : Epoch} {position : Nat} {rest : List Nat}
    (remains : epoch.remaining = position :: rest) (free : position ∈ epoch.remaining) :
    (epoch.handOut position free).remaining = rest := by
  have once : (position :: rest).Nodup := by
    rw [← remains]
    exact (List.nodup_reverse.mpr List.nodup_range).filter _
  have filtered : (epoch.handOut position free).remaining =
      epoch.remaining.filter fun other => other ≠ position := by
    simp only [remaining, handOut, List.filter_filter]
    apply List.filter_congr
    intro other _
    simp [and_comm]
  rw [filtered, remains, List.filter_cons_of_neg (by simp), List.filter_eq_self]
  intro other member
  have different : other ≠ position := by
    rintro rfl
    exact (List.nodup_cons.mp once).1 member
  simpa using different

theorem pop_of_nil {epoch : Epoch} (remains : epoch.remaining = []) :
    epoch.pop = (none, epoch) := by
  unfold pop
  split
  · rfl
  · rename_i position rest remains'
    rw [remains] at remains'
    cases remains'

theorem pop_of_cons {epoch : Epoch} {position : Nat} {rest : List Nat}
    (remains : epoch.remaining = position :: rest) :
    epoch.pop =
      (epoch.uploaded[position]?, epoch.handOut position (by simp [remains])) := by
  unfold pop
  split
  · rename_i remains'
    rw [remains] at remains'
    cases remains'
  · rename_i position' rest' remains'
    rw [remains] at remains'
    cases remains'
    rfl

theorem bound_of_cons {epoch : Epoch} {position : Nat} {rest : List Nat}
    (remains : epoch.remaining = position :: rest) :
    position < epoch.uploaded.length ∧ position ∉ epoch.handedOut :=
  mem_remaining.mp (by simp [remains])

theorem pop_fst (epoch : Epoch) : epoch.pop.1 = epoch.keys.head? := by
  cases remains : epoch.remaining with
  | nil => simp [pop_of_nil remains, keys, remains]
  | cons position rest =>
      have bound := (bound_of_cons remains).1
      simp [pop_of_cons remains, keys, remains, List.getD_eq_getElem?_getD, bound]

@[simp] theorem signedPreKey_pop (epoch : Epoch) :
    epoch.pop.2.signedPreKey = epoch.signedPreKey := by
  cases remains : epoch.remaining with
  | nil => rw [pop_of_nil remains]
  | cons position rest =>
      rw [pop_of_cons remains]
      rfl

theorem keys_pop (epoch : Epoch) : epoch.pop.2.keys = epoch.keys.tail := by
  cases remains : epoch.remaining with
  | nil => simp [pop_of_nil remains, keys, remains]
  | cons position rest =>
      have stack : epoch.keys.tail =
          rest.map fun other => epoch.uploaded.getD other [] := by
        rw [keys, remains, List.map_cons, List.tail_cons]
      rw [pop_of_cons remains, stack, keys, remaining_handOut remains]
      rfl

/-- The keys uploaded are those handed out and those remaining. -/
theorem length_remaining (epoch : Epoch) :
    epoch.remaining.length + epoch.handedOut.length = epoch.uploaded.length := by
  have once : (epoch.remaining ++ epoch.handedOut).Nodup := by
    refine List.nodup_append.mpr ⟨?_, epoch.once, ?_⟩
    · exact (List.nodup_reverse.mpr List.nodup_range).filter _
    · rintro position member _ handedOut rfl
      exact (mem_remaining.mp member).2 handedOut
  have permutes : (epoch.remaining ++ epoch.handedOut).Perm
      (List.range epoch.uploaded.length) := by
    rw [List.perm_ext_iff_of_nodup once List.nodup_range]
    intro position
    rw [List.mem_append, mem_remaining, List.mem_range]
    constructor
    · rintro (free | handedOut)
      · exact free.1
      · exact epoch.bounded position handedOut
    · intro bound
      by_cases handedOut : position ∈ epoch.handedOut
      · exact Or.inr handedOut
      · exact Or.inl ⟨bound, handedOut⟩
  simpa using permutes.length_eq

theorem length_keys (epoch : Epoch) :
    epoch.keys.length + epoch.handedOut.length = epoch.uploaded.length := by
  rw [keys, List.length_map, length_remaining]

/-- The law for an answer to a request for a one-time key: it is a key of this
epoch that was not handed out before, the most recently uploaded such key, and
it counts as handed out from then on. There is no key only if none is left. -/
def Answers (epoch : Epoch) : Option Text → Prop
  | none => ∀ position, position < epoch.uploaded.length → position ∈ epoch.handedOut
  | some key => ∃ position, position ∉ epoch.handedOut ∧
      epoch.uploaded[position]? = some key ∧
      (∀ other, other < epoch.uploaded.length → other ∉ epoch.handedOut → other ≤ position) ∧
      epoch.pop.2.handedOut = epoch.handedOut ++ [position]

/-- Taking the top of the stack follows the law. -/
theorem answers_pop (epoch : Epoch) : epoch.Answers epoch.pop.1 := by
  have sorted : epoch.remaining.Pairwise (· > ·) :=
    (List.pairwise_reverse.mpr List.pairwise_lt_range).filter _
  cases remains : epoch.remaining with
  | nil =>
      rw [pop_of_nil remains]
      intro position bound
      by_contra free
      have member := mem_remaining.mpr ⟨bound, free⟩
      rw [remains] at member
      cases member
  | cons position rest =>
      have free := bound_of_cons remains
      have found := List.getElem?_eq_getElem free.1
      rw [pop_of_cons remains, found]
      refine ⟨position, free.2, found, ?_, by rw [pop_of_cons remains]; rfl⟩
      intro other bound notHandedOut
      have member := mem_remaining.mpr ⟨bound, notHandedOut⟩
      rw [remains] at member sorted
      rcases List.mem_cons.mp member with equal | inRest
      · exact le_of_eq equal
      · exact le_of_lt ((List.pairwise_cons.mp sorted).1 other inRest)

end Epoch

/-! ## Devices -/

universe u

variable {Address : Type u} [DecidableEq Address]

/-- The current epoch of each registered device. -/
abbrev Directory (Address : Type u) : Type u := Address → Option Epoch

/-- What happens to the devices. -/
inductive Event (Address : Type u) where
  | registered (address : Address) (signedPreKey : Text) (oneTimePreKeys : List Text)
  | unregistered (address : Address)
  /-- A request for pre-keys, known by its number, got this answer for a device. -/
  | answered (request : Nat) (address : Address) (signedPreKey oneTimePreKey : Option Text)
  deriving DecidableEq

/-- The device that an event is about. -/
def Event.address : Event Address → Address
  | .registered address _ _ => address
  | .unregistered address => address
  | .answered _ address _ _ => address

namespace Directory

def empty : Directory Address := fun _ => none

def record (directory : Directory Address) : Event Address → Directory Address
  | .registered address signedPreKey oneTimePreKeys =>
      Function.update directory address
        (some ((Epoch.continuing (directory address) signedPreKey).upload oneTimePreKeys))
  | .unregistered address => Function.update directory address none
  | .answered _ address _ _ =>
      Function.update directory address ((directory address).map fun epoch => epoch.pop.2)

theorem record_of_ne {directory : Directory Address} {event : Event Address}
    {address : Address} (different : address ≠ event.address) :
    directory.record event address = directory address := by
  cases event <;> exact Function.update_of_ne different _ _

/-- The devices after a log of events. -/
def history (log : List (Event Address)) : Directory Address := log.foldl record empty

/-- The law for an event: an answer for a registered device has its current
signed pre-key and follows the law of its epoch, and one for another device is
empty. -/
def Lawful (directory : Directory Address) : Event Address → Prop
  | .answered _ address signedPreKey oneTimePreKey =>
      match directory address with
      | none => signedPreKey = none ∧ oneTimePreKey = none
      | some epoch => signedPreKey = some epoch.signedPreKey ∧ epoch.Answers oneTimePreKey
  | _ => True

omit [DecidableEq Address] in
/-- Answering with the top of the stack is lawful. -/
theorem lawful_pop (directory : Directory Address) (request : Nat) (address : Address) :
    directory.Lawful (.answered request address
      ((directory address).map Epoch.signedPreKey)
      ((directory address).bind fun epoch => epoch.pop.1)) := by
  cases registered : directory address with
  | none => simp [Lawful, registered]
  | some epoch => simpa [Lawful, registered] using epoch.answers_pop

end Directory

/-- Every event of the log follows the law, given the events before it. -/
def LawfulLog (log : List (Event Address)) : Prop :=
  ∀ earlier event, earlier ++ [event] <+: log → (Directory.history earlier).Lawful event

theorem LawfulLog.append {log : List (Event Address)} (lawful : LawfulLog log)
    {event : Event Address} (follows : (Directory.history log).Lawful event) :
    LawfulLog (log ++ [event]) := by
  intro earlier last isPrefix
  rcases List.prefix_concat_iff.mp isPrefix with whole | isPrefix
  · rcases List.append_inj' whole rfl with ⟨rfl, equal⟩
    cases equal
    exact follows
  · exact lawful earlier last isPrefix

theorem Directory.history_append (log : List (Event Address)) (event : Event Address) :
    history (log ++ [event]) = (history log).record event := by
  simp [history]

/-- The answers that a request got, in order. -/
def answersTo (log : List (Event Address)) (request : Nat) :
    List (Address × Option Text × Option Text) :=
  log.filterMap fun
    | .answered request' address signedPreKey oneTimePreKey =>
        if request' = request then some (address, signedPreKey, oneTimePreKey) else none
    | _ => none

omit [DecidableEq Address] in
theorem answersTo_append (log later : List (Event Address)) (request : Nat) :
    answersTo (log ++ later) request = answersTo log request ++ answersTo later request := by
  simp [answersTo]

omit [DecidableEq Address] in
theorem answersTo_answered (request : Nat) (address : Address)
    (signedPreKey oneTimePreKey : Option Text) :
    answersTo [.answered request address signedPreKey oneTimePreKey] request =
      [(address, signedPreKey, oneTimePreKey)] := by
  simp [answersTo]

omit [DecidableEq Address] in
theorem answersTo_answered_of_ne {request other : Nat} (different : request ≠ other)
    {address : Address} {signedPreKey oneTimePreKey : Option Text} :
    answersTo [.answered request address signedPreKey oneTimePreKey] other = [] := by
  simp [answersTo, different]

/-! ## Databases -/

/-- A database stores, in its own way, the devices that a lawful log has led to. -/
structure Represents (stores : Address → Option Epoch → Prop) (log : List (Event Address)) :
    Prop where
  lawful : LawfulLog log
  stored : ∀ address, stores address (Directory.history log address)

theorem Represents.empty {stores : Address → Option Epoch → Prop}
    (stored : ∀ address, stores address none) : Represents stores [] where
  lawful := by
    intro earlier event isPrefix
    simp at isPrefix
  stored := stored

/-- A call is correct if it is lawful, does to its own device what the event
says, and leaves the other devices alone. -/
theorem Represents.append {stores stores' : Address → Option Epoch → Prop}
    {log : List (Event Address)} (represents : Represents stores log) (event : Event Address)
    (follows : (Directory.history log).Lawful event)
    (atDevice : stores' event.address
      ((Directory.history log).record event event.address))
    (elsewhere : ∀ address epoch, address ≠ event.address → stores address epoch →
      stores' address epoch) : Represents stores' (log ++ [event]) where
  lawful := represents.lawful.append follows
  stored := by
    intro address
    rw [Directory.history_append]
    by_cases same : address = event.address
    · rw [same]
      exact atDevice
    · rw [Directory.record_of_ne same]
      exact elsewhere address _ same (represents.stored address)

end Tassis.Database
