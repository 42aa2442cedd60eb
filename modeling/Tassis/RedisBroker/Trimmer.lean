import Mathlib.Data.List.DropRight
import Tassis.RedisBroker.Wellformed

/-! # Trimming streams

`TrimStreams` removes acknowledged messages from every stream and then caps the
stream. The command for the first takes an inclusive bound, which the trimmer
makes from the stored offset by incrementing its text.
-/

namespace Tassis.RedisBroker

open Tassis.Text

/-! ## Incrementing an offset -/

/-- A signed integer as `%d` prints it. -/
def formatInt (number : Int) : Text :=
  if number < 0 then '-' :: decimal number.natAbs else decimal number.toNat

/-- The increment of the sequence number is one of 64-bit integers. -/
def idPlusOne (id : Text) : Text :=
  match id.splitOn '-' with
  | [ms, seq] => ms ++ '-' :: formatInt (Int.bmod (atoi seq + 1) (2 ^ 64))
  | _ => id

namespace MessageID

/-- The least ID after another one. -/
def next (id : MessageID) : MessageID := ⟨id.ms, id.seq + 1⟩

theorem next_le_iff (id other : MessageID) : id.next ≤ other ↔ id < other := by
  rw [← not_lt, lt_iff, lt_iff, next]
  dsimp only
  omega

theorem idPlusOne_text {id : MessageID} (inRange : id.seq < 2 ^ 63 - 1) :
    idPlusOne id.text = id.next.text := by
  have sequence : atoi (decimal id.seq) = id.seq := by
    rw [atoi_decimal]
    omega
  have incremented : Int.bmod ((id.seq : Int) + 1) (2 ^ 64) = (id.seq : Int) + 1 := by
    rw [Int.bmod_eq_of_le] <;> omega
  have printed : formatInt ((id.seq : Int) + 1) = decimal (id.seq + 1) := by
    have nonnegative : ¬((id.seq : Int) + 1 < 0) := by omega
    have converted : ((id.seq : Int) + 1).toNat = id.seq + 1 := by omega
    rw [formatInt, if_neg nonnegative, converted]
  simp only [idPlusOne, splitOn_text, sequence, incremented, printed]
  rfl

/-- After the greatest sequence number that the increment can read, the result
is no ID. -/
example : idPlusOne (text ⟨1, 2 ^ 63 - 1⟩) = "1--9223372036854775808".toList := by
  decide +kernel

end MessageID

/-! ## Commands -/

/-- The ID that a command reads from its argument, with sequence number 0 if it
has milliseconds only. -/
def MessageID.parse (text : Text) : Option MessageID :=
  match text.splitOn '-' with
  | [ms] => if ms ≠ [] ∧ ms.all Char.isDigit then some ⟨value ms, 0⟩ else none
  | [ms, seq] =>
      if ms ≠ [] ∧ ms.all Char.isDigit ∧ seq ≠ [] ∧ seq.all Char.isDigit then
        some ⟨value ms, value seq⟩
      else none
  | _ => none

theorem MessageID.parse_text (id : MessageID) : parse id.text = some id := by
  have msDigits : (decimal id.ms).all Char.isDigit = true :=
    List.all_eq_true.mpr (decimal_digits id.ms)
  have seqDigits : (decimal id.seq).all Char.isDigit = true :=
    List.all_eq_true.mpr (decimal_digits id.seq)
  simp only [parse, splitOn_text, ne_eq, decimal_ne_nil, not_false_eq_true, msDigits,
    seqDigits, and_self, if_true, value_decimal]

/-- `XTRIM MINID` removes the entries below its bound. A bound that is no ID is
refused. -/
def xtrimMinID (entries : List Message) (minID : Text) : List Message :=
  match MessageID.parse minID with
  | none => entries
  | some minID => entries.filter fun entry => minID ≤ entry.id

/-- `XTRIM MAXLEN` keeps this many of the newest entries. -/
def xtrimMaxLen (entries : List Message) (maxLen : Nat) : List Message :=
  entries.drop (entries.length - maxLen)

/-- The first command for a stream, if an offset is stored. -/
def trimToOffset (offset : Option Text) (entries : List Message) : List Message :=
  match offset with
  | none => entries
  | some offset => xtrimMinID entries (idPlusOne offset)

/-- Trimming below the incremented offset removes what is acknowledged. -/
theorem xtrimMinID_idPlusOne (entries : List Message) {offset : MessageID}
    (inRange : offset.seq < 2 ^ 63 - 1) :
    xtrimMinID entries (idPlusOne offset.text) =
      entries.filter fun entry => offset < entry.id := by
  simp only [xtrimMinID, MessageID.idPlusOne_text inRange, MessageID.parse_text,
    MessageID.next_le_iff]

namespace Broker

/-- A pipeline with one trimming command for each stream. -/
def pipeline (broker : Broker) (command : Stream → List Message → List Message)
    (streams : List Stream) : Broker :=
  streams.foldl (fun broker stream => { broker with
    streams := Function.update broker.streams stream
      (command stream (broker.streams stream)) }) broker

/-- `TrimStreams` for the streams that `KEYS` lists. -/
def trimStreams (broker : Broker) (maxLen : Nat) (streams : List Stream) : Broker :=
  let offsets := fun stream => (broker.offsets stream).map MessageID.text
  let trimmed := broker.pipeline (fun stream => trimToOffset (offsets stream)) streams
  trimmed.pipeline (fun _ entries => xtrimMaxLen entries maxLen) streams

/-- The offset keys are deleted. -/
def deleteOffsets (broker : Broker) : Broker := { broker with offsets := fun _ => none }

/-! ## What is left -/

variable {broker : Broker} {streams : List Stream}

/-- The messages of a stream that are after its stored offset. -/
def unacked (broker : Broker) (stream : Stream) : List Message :=
  (broker.streams stream).filter fun entry =>
    (broker.startingOffset stream).position < entry.id

/-- Each command of a pipeline concerns its own stream. -/
theorem pipeline_eq (command : Stream → List Message → List Message)
    (once : streams.Nodup) :
    broker.pipeline command streams = { broker with
      streams := fun stream =>
        if stream ∈ streams then command stream (broker.streams stream)
        else broker.streams stream } := by
  induction streams generalizing broker with
  | nil => simp [pipeline]
  | cons first rest induction =>
      rcases List.nodup_cons.mp once with ⟨notAgain, onceRest⟩
      rw [pipeline, List.foldl_cons]
      refine (induction onceRest).trans ?_
      congr 1
      funext stream
      by_cases same : stream = first
      · subst same
        simp [notAgain]
      · simp [same]

theorem unacked_of_none {stream : Stream} (nothing : broker.offsets stream = none)
    (positive : ∀ entry, entry ∈ broker.streams stream → MessageID.zero < entry.id) :
    broker.unacked stream = broker.streams stream := by
  rw [unacked, startingOffset, nothing, List.filter_eq_self]
  intro entry member
  exact decide_eq_true (positive entry member)

theorem unacked_of_some {stream : Stream} {offset : MessageID}
    (stored : broker.offsets stream = some offset) :
    broker.unacked stream =
      (broker.streams stream).filter fun entry => offset < entry.id := by
  rw [unacked, startingOffset, stored]
  rfl

/-- After trimming, a stream holds the newest of the messages that were after
its stored offset. -/
theorem trimStreams_streams (maxLen : Nat) (once : streams.Nodup)
    (lists : ∀ stream, broker.streams stream ≠ [] → stream ∈ streams) {stream : Stream}
    (positive : ∀ entry, entry ∈ broker.streams stream → MessageID.zero < entry.id)
    (inRange : ∀ stored, broker.offsets stream = some stored → stored.seq < 2 ^ 63 - 1) :
    (broker.trimStreams maxLen streams).streams stream =
      (broker.unacked stream).rtake maxLen := by
  rw [trimStreams, pipeline_eq _ once, pipeline_eq _ once]
  by_cases listed : stream ∈ streams
  · simp only [listed, if_true]
    cases stored : broker.offsets stream with
    | none =>
        rw [unacked_of_none stored positive]
        rfl
    | some offset =>
        rw [unacked_of_some stored]
        simp only [Option.map_some, trimToOffset,
          xtrimMinID_idPlusOne _ (inRange offset stored)]
        rfl
  · have empty : broker.streams stream = [] := by
      by_contra nonempty
      exact listed (lists stream nonempty)
    simp [listed, empty, unacked]

theorem trimStreams_eq (maxLen : Nat) (once : streams.Nodup) :
    broker.trimStreams maxLen streams =
      { broker with streams := (broker.trimStreams maxLen streams).streams } := by
  rw [trimStreams, pipeline_eq _ once, pipeline_eq _ once]

/-! ## Trimming as steps of the broker -/

/-- The step removes the oldest entries of a stream. -/
def Trims (_ : Broker) : Action → Prop
  | .trim _ _ => True
  | _ => False

/-- A command that removes the oldest entries of each stream is a step, and a
pipeline of such commands is a run. -/
theorem pipeline_run {command : Stream → List Message → List Message}
    (sorted : ∀ stream, (broker.streams stream).Pairwise fun a b => a.id < b.id)
    (drops : ∀ stream entries, (entries.Pairwise fun a b => a.id < b.id) →
      ∃ count, command stream entries = entries.drop count) :
    Transition.Run step Trims broker (broker.pipeline command streams) ∧
      ∀ stream, ((broker.pipeline command streams).streams stream).Pairwise
        fun a b => a.id < b.id := by
  induction streams generalizing broker with
  | nil => exact ⟨.refl _, sorted⟩
  | cons first rest induction =>
      rcases drops first _ (sorted first) with ⟨count, dropped⟩
      have sorted' : ∀ stream, ((broker.trim first count).streams stream).Pairwise
          fun a b => a.id < b.id := by
        intro stream
        by_cases same : stream = first
        · subst same
          simpa [trim] using (sorted stream).sublist (List.drop_sublist count _)
        · simpa [trim, same] using sorted stream
      rcases induction sorted' with ⟨run, stillSorted⟩
      rw [pipeline, List.foldl_cons, dropped]
      have trims : broker.step (.trim first count) = some (broker.trim first count) := rfl
      exact ⟨((Transition.Run.refl broker).tail trivial trims).trans run, stillSorted⟩

theorem filter_eq_drop {entries : List Message} (bound : MessageID)
    (sorted : entries.Pairwise fun a b => a.id < b.id) :
    ∃ count, (entries.filter fun entry => bound ≤ entry.id) = entries.drop count := by
  induction entries with
  | nil => exact ⟨0, rfl⟩
  | cons first rest induction =>
      rcases List.pairwise_cons.mp sorted with ⟨above, sortedRest⟩
      by_cases reached : bound ≤ first.id
      · refine ⟨0, ?_⟩
        rw [List.drop_zero, List.filter_eq_self]
        intro entry member
        rcases List.mem_cons.mp member with rfl | later
        · exact decide_eq_true reached
        · exact decide_eq_true (reached.trans (le_of_lt (above entry later)))
      · rcases induction sortedRest with ⟨count, dropped⟩
        exact ⟨count + 1, by rw [List.filter_cons_of_neg (by simpa using reached), dropped,
          List.drop_succ_cons]⟩

/-- The trimmer takes no step that the broker does not have. -/
theorem trimStreams_run (maxLen : Nat) (wellformed : Wellformed broker) :
    Transition.Run step Trims broker (broker.trimStreams maxLen streams) := by
  have toOffset : ∀ stream entries, (entries.Pairwise fun a b => a.id < b.id) →
      ∃ count, trimToOffset ((broker.offsets stream).map MessageID.text) entries =
        entries.drop count := by
    intro stream entries sorted
    unfold trimToOffset
    split
    · exact ⟨0, rfl⟩
    · unfold xtrimMinID
      split
      · exact ⟨0, rfl⟩
      · exact filter_eq_drop _ sorted
  have toMaxLen : ∀ (stream : Stream) entries, (entries.Pairwise fun a b => a.id < b.id) →
      ∃ count, xtrimMaxLen entries maxLen = entries.drop count :=
    fun _ entries _ => ⟨entries.length - maxLen, rfl⟩
  rcases pipeline_run wellformed.sorted toOffset with ⟨run, sorted⟩
  exact run.trans (pipeline_run sorted toMaxLen).1

end Broker

end Tassis.RedisBroker
