import Tassis.RedisBroker.Trimmer

/-! # The sole reader of a stream

Seen from a stream with one subscriber, the broker reads batches of messages and
passes them on. The messages that arrive do not depend on how they are split
into batches.
-/

namespace Tassis.RedisBroker

open Tassis.Text

/-! ## Offsets in range -/

/-- The milliseconds are positive and have this many digits, and the sequence
number can be incremented. -/
structure MessageID.Ranged (width : Nat) (id : MessageID) : Prop where
  positive : 0 < id.ms
  width : (decimal id.ms).length = width
  sequence : id.seq < 2 ^ 63 - 1

instance (width : Nat) (id : MessageID) : Decidable (id.Ranged width) :=
  decidable_of_iff
    (0 < id.ms ∧ (decimal id.ms).length = width ∧ id.seq < 2 ^ 63 - 1)
    ⟨fun ranged => ⟨ranged.1, ranged.2.1, ranged.2.2⟩,
      fun ranged => ⟨ranged.positive, ranged.width, ranged.sequence⟩⟩

namespace Offset

/-- The offset is `minOffset` or an ID in range. -/
inductive Ranged (width : Nat) : Offset → Prop where
  | minOffset : Ranged width .minOffset
  | message {id} (ranged : id.Ranged width) : Ranged width (.message id)

/-- On offsets in range, the filter lets later messages pass. -/
theorem Ranged.lessThan {width : Nat} {offset : Offset} {id : MessageID}
    (ranged : offset.Ranged width) (idRanged : id.Ranged width)
    (after : offset.position < id) : offset.lessThan (.message id) = true := by
  cases ranged with
  | minOffset =>
      have smaller := minOffset_lt_decimal idRanged.positive
      have single : ['0'].splitOn '-' = [['0']] := by decide
      change offsetLessThan ['0'] id.text = true
      simp [offsetLessThan, MessageID.splitOn_text, single, smaller]
  | @message current currentRanged =>
      have agrees : Agrees (.message current) (.message id) := by
        have currentSequence := currentRanged.sequence
        have idSequence := idRanged.sequence
        rw [agrees_message_iff (currentRanged.width.trans idRanged.width.symm) (by omega)
          (by omega)]
        have ordered := MessageID.lt_iff.mp after
        rw [position_message] at ordered
        omega
      exact agrees.mpr after

end Offset

/-! ## Reading in batches -/

/-- A stream and its sole subscriber. -/
structure SoleReader where
  entries : List Message
  lastID : MessageID
  offset : Offset
  delivered : List Message

namespace SoleReader

inductive Action where
  | publish (id : MessageID) (data : Text)
  /-- A batch of at most this many messages is read and processed. -/
  | read (count : Nat)

/-- The entries after the offset. -/
def unread (reader : SoleReader) : List Message :=
  reader.entries.filter fun entry => reader.offset.position < entry.id

def deliver (reader : SoleReader) (msg : Message) : SoleReader :=
  { reader with offset := .message msg.id, delivered := reader.delivered ++ [msg] }

/-- The loop over a batch. -/
def process : SoleReader → List Message → SoleReader
  | reader, [] => reader
  | reader, msg :: rest =>
      if reader.offset.lessThan (.message msg.id) then process (reader.deliver msg) rest
      else process reader rest

def read (reader : SoleReader) (count : Nat) : SoleReader :=
  reader.process (reader.unread.take count)

def publish (reader : SoleReader) (id : MessageID) (data : Text) : SoleReader :=
  { reader with entries := reader.entries ++ [⟨id, data⟩], lastID := id }

def step (reader : SoleReader) : Action → Option SoleReader
  | .publish id data => if reader.lastID < id then some (reader.publish id data) else none
  | .read count => some (reader.read count)

/-- IDs of later messages are in range. -/
def InRange (width : Nat) (_ : SoleReader) : Action → Prop
  | .publish id _ => id.Ranged width
  | .read _ => True

/-- What has been delivered and what is to be read make up the stream. -/
structure Sound (width : Nat) (reader : SoleReader) : Prop where
  sorted : reader.entries.Pairwise fun a b => a.id < b.id
  bounded : ∀ entry, entry ∈ reader.entries → entry.id ≤ reader.lastID
  ranged : ∀ entry, entry ∈ reader.entries → entry.id.Ranged width
  offsetBounded : reader.offset.position ≤ reader.lastID
  offsetRanged : reader.offset.Ranged width
  complete : reader.delivered ++ reader.unread = reader.entries

variable {width : Nat} {reader next : SoleReader} {msg : Message} {rest : List Message}

variable (sound : Sound width reader)

include sound

theorem Sound.lessThan_of_mem_unread (member : msg ∈ reader.unread) :
    reader.offset.lessThan (.message msg.id) = true := by
  rcases List.mem_filter.mp member with ⟨listed, after⟩
  exact sound.offsetRanged.lessThan (sound.ranged msg listed) (of_decide_eq_true after)

/-- After the first unread message has been delivered, the others are unread. -/
theorem Sound.unread_deliver (unread : reader.unread = msg :: rest) :
    (reader.deliver msg).unread = rest := by
  have after : reader.offset.position < msg.id := by
    have member : msg ∈ reader.unread := by simp [unread]
    exact of_decide_eq_true (List.mem_filter.mp member).2
  have sorted : (msg :: rest).Pairwise fun a b => a.id < b.id := by
    rw [← unread]
    exact sound.sorted.filter _
  have twice : (reader.deliver msg).unread =
      reader.unread.filter fun entry => msg.id < entry.id := by
    simp only [SoleReader.unread, deliver, Offset.position_message, List.filter_filter]
    apply List.filter_congr
    intro entry _
    by_cases later : msg.id < entry.id
    · simp [later, after.trans later]
    · simp [later]
  rw [twice, unread, List.filter_cons_of_neg (by simp), List.filter_eq_self]
  intro entry member
  exact decide_eq_true ((List.pairwise_cons.mp sorted).1 entry member)

theorem Sound.deliver (unread : reader.unread = msg :: rest) :
    Sound width (reader.deliver msg) where
  sorted := sound.sorted
  bounded := sound.bounded
  ranged := sound.ranged
  offsetBounded := by
    have member : msg ∈ reader.unread := by simp [unread]
    exact sound.bounded msg (List.mem_filter.mp member).1
  offsetRanged := by
    have member : msg ∈ reader.unread := by simp [unread]
    exact .message (sound.ranged msg (List.mem_filter.mp member).1)
  complete := by
    have complete := sound.complete
    rw [unread] at complete
    rw [sound.unread_deliver unread, SoleReader.deliver, List.append_assoc]
    exact complete

/-- The loop delivers the whole of a batch that was read. -/
theorem Sound.process {batch : List Message} (unread : reader.unread = batch ++ rest) :
    Sound width (reader.process batch) ∧
      (reader.process batch).delivered = reader.delivered ++ batch ∧
      (reader.process batch).entries = reader.entries := by
  induction batch generalizing reader with
  | nil => exact ⟨sound, by simp [SoleReader.process], rfl⟩
  | cons msg batch induction =>
      have passes : reader.offset.lessThan (.message msg.id) = true :=
        sound.lessThan_of_mem_unread (by simp [unread])
      rw [SoleReader.process, if_pos passes]
      rcases induction (sound.deliver unread) (sound.unread_deliver unread) with
        ⟨sound', delivered, entries⟩
      refine ⟨sound', ?_, entries⟩
      rw [delivered, SoleReader.deliver, List.append_assoc, List.singleton_append]

theorem Sound.read (count : Nat) :
    Sound width (reader.read count) ∧
      (reader.read count).delivered = reader.delivered ++ reader.unread.take count ∧
      (reader.read count).entries = reader.entries :=
  sound.process (List.take_append_drop count reader.unread).symm

theorem Sound.unread_publish {id : MessageID} (increasing : reader.lastID < id) (data : Text) :
    (reader.publish id data).unread = reader.unread ++ [⟨id, data⟩] := by
  have after : reader.offset.position < id := sound.offsetBounded.trans_lt increasing
  have kept : ([⟨id, data⟩] : List Message).filter
      (fun entry => reader.offset.position < entry.id) = [⟨id, data⟩] := by
    rw [List.filter_eq_self]
    intro entry isNew
    rw [List.mem_singleton.mp isNew]
    exact decide_eq_true after
  rw [SoleReader.unread, SoleReader.publish, List.filter_append, kept]
  rfl

theorem Sound.publish {id : MessageID} (increasing : reader.lastID < id)
    (ranged : id.Ranged width) (data : Text) :
    Sound width (reader.publish id data) where
  sorted := by
    apply List.pairwise_append.mpr
    refine ⟨sound.sorted, List.pairwise_singleton _ _, ?_⟩
    intro entry member new isNew
    rw [List.mem_singleton.mp isNew]
    exact (sound.bounded entry member).trans_lt increasing
  bounded := by
    intro entry member
    rcases List.mem_append.mp member with earlier | isNew
    · exact (sound.bounded entry earlier).trans (le_of_lt increasing)
    · rw [List.mem_singleton.mp isNew]
      exact le_refl id
  ranged := by
    intro entry member
    rcases List.mem_append.mp member with earlier | isNew
    · exact sound.ranged entry earlier
    · rw [List.mem_singleton.mp isNew]
      exact ranged
  offsetBounded := sound.offsetBounded.trans (le_of_lt increasing)
  offsetRanged := sound.offsetRanged
  complete := by
    rw [sound.unread_publish increasing, ← List.append_assoc]
    exact congrArg (· ++ [⟨id, data⟩]) sound.complete

theorem Sound.step {action : Action} (inRange : reader.InRange width action)
    (taken : reader.step action = some next) :
    Sound width next ∧ reader.entries <+: next.entries := by
  cases action with
  | publish id data =>
      simp only [SoleReader.step, Option.ite_none_right_eq_some, Option.some.injEq] at taken
      rcases taken with ⟨increasing, rfl⟩
      exact ⟨sound.publish increasing inRange data, List.prefix_append _ _⟩
  | read count =>
      rw [SoleReader.step, Option.some.injEq] at taken
      subst taken
      rcases sound.read count with ⟨sound', _, entries⟩
      exact ⟨sound', entries ▸ List.prefix_refl _⟩

theorem Sound.of_run (run : Transition.Run SoleReader.step (InRange width) reader next) :
    Sound width next ∧ reader.entries <+: next.entries := by
  have starts : Sound width reader ∧ reader.entries <+: reader.entries :=
    ⟨sound, List.prefix_refl _⟩
  apply Transition.Run.preserves run starts
  intro current action later _ holds inRange taken
  rcases holds.1.step inRange taken with ⟨sound', extended⟩
  exact ⟨sound', holds.2.trans extended⟩

theorem Sound.read_one (unread : reader.unread = msg :: rest) :
    reader.read 1 = reader.deliver msg := by
  have passes : reader.offset.lessThan (.message msg.id) = true :=
    sound.lessThan_of_mem_unread (by simp [unread])
  rw [SoleReader.read, unread, List.take_succ_cons, List.take_zero, SoleReader.process,
    if_pos passes, SoleReader.process]

/-- However the reads are split, they deliver as many of the messages as they
ask for in total. -/
theorem Sound.reads (counts : List Nat) :
    (counts.foldl SoleReader.read reader).delivered =
      reader.entries.take (reader.delivered.length + counts.sum) := by
  induction counts generalizing reader with
  | nil =>
      rw [← sound.complete]
      simp
  | cons count counts induction =>
      rcases sound.read count with ⟨sound', delivered, entries⟩
      rw [List.foldl_cons, induction sound', entries, delivered, ← sound.complete,
        List.length_append, List.length_take, List.sum_cons]
      rcases le_total count reader.unread.length with within | beyond
      · rw [min_eq_left within, Nat.add_assoc]
      · rw [min_eq_right beyond, List.take_of_length_le, List.take_of_length_le] <;>
          rw [List.length_append] <;> omega

end SoleReader

end Tassis.RedisBroker
