import Tassis.RedisBroker.Trimmer

/-! # Trimming while Redis fails

`TrimStreams` makes three round trips after listing the streams, and means to go
on when one of them fails. Each is modelled here with its failures: `MGET`
answers or not, and of a pipeline Redis executes whichever commands it gets to.
-/

namespace Tassis.RedisBroker

open Tassis.Text

/-! ## Commands and answers -/

/-- The two forms of `XTRIM` in use. -/
inductive TrimCommand where
  | minID (bound : Text)
  | maxLen (count : Nat)
  deriving DecidableEq, Repr

def TrimCommand.run : TrimCommand → List Message → List Message
  | .minID bound, entries => xtrimMinID entries bound
  | .maxLen count, entries => xtrimMaxLen entries count

/-- What Redis does with the round trips of one call. A command of a pipeline is
named by its position. -/
structure RoundTrips where
  keys : Except Text (List Stream)
  mgetAnswered : Bool
  offsetTrimExecuted : Nat → Bool
  capExecuted : Nat → Bool

inductive TrimOutcome where
  /-- The loop indexes the offsets out of range. -/
  | panicked
  /-- The call returns this error, if any, having submitted these caps. -/
  | returned (error : Option Text) (broker : Broker) (caps : List (Stream × TrimCommand))

/-- The commands of a pipeline that are executed, in order. -/
def executedOf (executed : Nat → Bool) (commands : List α) : List α :=
  (commands.zipIdx.filter fun command => executed command.2).map Prod.fst

theorem mem_of_mem_executedOf {executed : Nat → Bool} {commands : List α} {command : α}
    (member : command ∈ executedOf executed commands) : command ∈ commands := by
  rcases List.mem_map.mp member with ⟨⟨found, index⟩, kept, rfl⟩
  exact List.fst_mem_of_mem_zipIdx (List.mem_filter.mp kept).1

theorem executedOf_all (commands : List α) : executedOf (fun _ => true) commands = commands := by
  simp [executedOf]

namespace Broker

def execute (broker : Broker) (commands : List (Stream × TrimCommand)) : Broker :=
  commands.foldl (fun broker command => { broker with
    streams := Function.update broker.streams command.1
      (command.2.run (broker.streams command.1)) }) broker

/-- The values at the offset keys, or an empty list when `MGET` has failed. -/
def mget (broker : Broker) (answered : Bool) (streams : List Stream) : List (Option Text) :=
  if answered then streams.map fun stream => (broker.offsets stream).map MessageID.text
  else []

/-- The loop that fills the first pipeline, from an index on. It fails when
there is no offset at an index. -/
def offsetTrims (offsets : List (Option Text)) :
    Nat → List Stream → Option (List (Stream × TrimCommand))
  | _, [] => some []
  | index, stream :: rest =>
      match offsets[index]? with
      | none => none
      | some none => offsetTrims offsets (index + 1) rest
      | some (some offset) =>
          (offsetTrims offsets (index + 1) rest).map
            ((stream, .minID (idPlusOne offset)) :: ·)

def caps (maxLen : Nat) (streams : List Stream) : List (Stream × TrimCommand) :=
  streams.map fun stream => (stream, .maxLen maxLen)

/-- `TrimStreams`. The errors of `MGET` and of the pipelines are logged only. -/
def trimStreamsThrough (broker : Broker) (maxLen : Nat) (trips : RoundTrips) : TrimOutcome :=
  match trips.keys with
  | .error err => .returned (some ("error while scanning topics: ".toList ++ err)) broker []
  | .ok [] => .returned none broker []
  | .ok streams =>
      match offsetTrims (broker.mget trips.mgetAnswered streams) 0 streams with
      | none => .panicked
      | some commands =>
          let hasOffsetToTrim := !commands.isEmpty
          let trimmed :=
            if hasOffsetToTrim then
              broker.execute (executedOf trips.offsetTrimExecuted commands)
            else broker
          .returned none
            (trimmed.execute (executedOf trips.capExecuted (caps maxLen streams)))
            (caps maxLen streams)

/-! ## The loop over the offsets -/

variable {broker : Broker} {streams : List Stream} {maxLen : Nat}

/-- The commands that the loop submits when every offset is there. -/
def offsetTrimsOf (broker : Broker) (streams : List Stream) : List (Stream × TrimCommand) :=
  streams.filterMap fun stream =>
    (broker.offsets stream).map fun offset => (stream, .minID (idPlusOne offset.text))

theorem offsetTrims_of_answered (earlier streams : List Stream) :
    offsetTrims (broker.mget true (earlier ++ streams)) earlier.length streams =
      some (broker.offsetTrimsOf streams) := by
  induction streams generalizing earlier with
  | nil => rfl
  | cons stream rest induction =>
      have later := induction (earlier ++ [stream])
      rw [List.append_assoc, List.singleton_append, List.length_append,
        List.length_singleton] at later
      have indexed : (broker.mget true (earlier ++ stream :: rest))[earlier.length]? =
          some ((broker.offsets stream).map MessageID.text) := by
        simp [mget]
      rw [offsetTrims, indexed]
      cases stored : broker.offsets stream with
      | none => simpa [offsetTrimsOf, stored] using later
      | some offset => simp [offsetTrimsOf, stored, later]

/-- Without an answer the first index is out of range. -/
theorem offsetTrims_eq_none_of_unanswered (stream : Stream) (rest : List Stream) :
    offsetTrims (broker.mget false (stream :: rest)) 0 (stream :: rest) = none := rfl

/-- A call that lists streams and gets their offsets returns no error. -/
theorem trimStreamsThrough_of_answered {trips : RoundTrips} {stream : Stream}
    {rest : List Stream} (listed : trips.keys = .ok (stream :: rest))
    (answered : trips.mgetAnswered = true) :
    broker.trimStreamsThrough maxLen trips =
      .returned none
        ((broker.execute (executedOf trips.offsetTrimExecuted
            (broker.offsetTrimsOf (stream :: rest)))).execute
          (executedOf trips.capExecuted (caps maxLen (stream :: rest))))
        (caps maxLen (stream :: rest)) := by
  have loop := @offsetTrims_of_answered broker [] (stream :: rest)
  rw [List.nil_append, List.length_nil] at loop
  simp only [trimStreamsThrough, listed, answered, loop]
  cases submitted : broker.offsetTrimsOf (stream :: rest) with
  | nil => rfl
  | cons command commands => rfl

/-- The pipelines do to the streams what trimming them without failures does. -/
theorem execute_offsetTrimsOf (current : Broker) :
    current.execute (broker.offsetTrimsOf streams) =
      current.pipeline
        (fun stream => trimToOffset ((broker.offsets stream).map MessageID.text)) streams := by
  induction streams generalizing current with
  | nil => rfl
  | cons stream rest induction =>
      rw [pipeline, List.foldl_cons]
      cases stored : broker.offsets stream with
      | none =>
          have nothing : broker.offsetTrimsOf (stream :: rest) = broker.offsetTrimsOf rest := by
            simp [offsetTrimsOf, stored]
          simp only [Option.map_none, trimToOffset, Function.update_eq_self]
          rw [nothing]
          exact induction current
      | some offset =>
          have trim : broker.offsetTrimsOf (stream :: rest) =
              (stream, .minID (idPlusOne offset.text)) :: broker.offsetTrimsOf rest := by
            simp [offsetTrimsOf, stored]
          rw [trim, execute, List.foldl_cons]
          exact induction _

theorem execute_caps (current : Broker) :
    current.execute (caps maxLen streams) =
      current.pipeline (fun _ entries => xtrimMaxLen entries maxLen) streams := by
  rw [execute, caps, List.foldl_map]
  rfl

theorem trimStreamsThrough_of_executed {trips : RoundTrips} {stream : Stream}
    {rest : List Stream} (listed : trips.keys = .ok (stream :: rest))
    (answered : trips.mgetAnswered = true) (trims : trips.offsetTrimExecuted = fun _ => true)
    (capped : trips.capExecuted = fun _ => true) :
    broker.trimStreamsThrough maxLen trips =
      .returned none (broker.trimStreams maxLen (stream :: rest))
        (caps maxLen (stream :: rest)) := by
  rw [trimStreamsThrough_of_answered listed answered, trims, capped, executedOf_all,
    executedOf_all, execute_offsetTrimsOf, execute_caps, trimStreams]

/-! ## What a command may remove -/

/-- The entries that a call has to leave: after the stored offset, and among the
newest `maxLen`. -/
def Protected (broker : Broker) (maxLen : Nat) (stream : Stream) (entry : Message) : Prop :=
  (∀ offset, broker.offsets stream = some offset → offset < entry.id) ∧
    entry ∈ (broker.streams stream).rtake maxLen

/-- The protected entries are among the newest that the stream still holds. -/
def Holds (broker : Broker) (maxLen : Nat) (stream : Stream) (entries : List Message) : Prop :=
  ∃ older newer, entries = older ++ newer ∧ newer.length ≤ maxLen ∧
    ∀ entry, broker.Protected maxLen stream entry → entry ∈ newer

theorem Holds.start (broker : Broker) (maxLen : Nat) (stream : Stream) :
    broker.Holds maxLen stream (broker.streams stream) := by
  refine ⟨(broker.streams stream).rdrop maxLen, (broker.streams stream).rtake maxLen,
    ?_, ?_, fun _ isProtected => isProtected.2⟩
  · exact (List.take_append_drop _ _).symm
  · rw [List.rtake, List.length_drop]
    omega

theorem Holds.cap {stream : Stream} {entries : List Message}
    (holds : broker.Holds maxLen stream entries) :
    broker.Holds maxLen stream (xtrimMaxLen entries maxLen) := by
  rcases holds with ⟨older, newer, rfl, few, kept⟩
  have dropped : (older ++ newer).length - maxLen ≤ older.length := by
    rw [List.length_append]
    omega
  refine ⟨older.drop ((older ++ newer).length - maxLen), newer, ?_, few, kept⟩
  exact List.drop_append_of_le_length dropped

theorem Holds.filter {stream : Stream} {entries : List Message} {keeps : Message → Bool}
    (holds : broker.Holds maxLen stream entries)
    (keepsProtected : ∀ entry, broker.Protected maxLen stream entry → keeps entry = true) :
    broker.Holds maxLen stream (entries.filter keeps) := by
  rcases holds with ⟨older, newer, rfl, few, kept⟩
  refine ⟨older.filter keeps, newer.filter keeps, List.filter_append _ _,
    (List.length_filter_le _ _).trans few, ?_⟩
  intro entry isProtected
  exact List.mem_filter.mpr ⟨kept entry isProtected, keepsProtected entry isProtected⟩

end Broker

/-- The trimmer's bound is the next ID, or no ID where the increment overflows. -/
theorem MessageID.parse_idPlusOne (id : MessageID) :
    parse (idPlusOne id.text) = some id.next ∨ parse (idPlusOne id.text) = none := by
  by_cases inRange : id.seq < 2 ^ 63 - 1
  · exact Or.inl (by rw [idPlusOne_text inRange, parse_text])
  · refine Or.inr ?_
    have clamped : atoi (decimal id.seq) = 2 ^ 63 - 1 := by
      rw [atoi_decimal]
      omega
    have overflown : Int.bmod ((2 ^ 63 - 1 : Int) + 1) (2 ^ 64) = -(2 ^ 63) := by decide
    have printed : formatInt (-(2 ^ 63)) = '-' :: decimal (2 ^ 63) := by
      have negative : (-(2 ^ 63) : Int) < 0 := by omega
      rw [formatInt, if_pos negative]
      rfl
    have bound : idPlusOne id.text = decimal id.ms ++ '-' :: '-' :: decimal (2 ^ 63) := by
      simp only [idPlusOne, splitOn_text, clamped, overflown, printed]
    have parts : (idPlusOne id.text).splitOn '-' = [decimal id.ms, [], decimal (2 ^ 63)] := by
      rw [bound]
      exact @splitOn_triple '-' (decimal id.ms) [] (decimal (2 ^ 63))
        ((decimal_digits _).notMem (by decide)) (by simp)
        ((decimal_digits _).notMem (by decide))
    rw [parse, parts]

namespace Broker

variable {broker : Broker} {streams : List Stream} {maxLen : Nat}

theorem Holds.trimToOffset {stream : Stream} {entries : List Message} {offset : MessageID}
    (holds : broker.Holds maxLen stream entries)
    (stored : broker.offsets stream = some offset) :
    broker.Holds maxLen stream (xtrimMinID entries (idPlusOne offset.text)) := by
  rcases MessageID.parse_idPlusOne offset with parsed | refused
  · simp only [xtrimMinID, parsed]
    refine holds.filter fun entry isProtected => ?_
    rw [decide_eq_true_iff, MessageID.next_le_iff]
    exact isProtected.1 offset stored
  · simpa only [xtrimMinID, refused] using holds

/-! ## What a pipeline may remove -/

/-- Each command of the call, by its stream. -/
def Submits (broker : Broker) (maxLen : Nat) (command : Stream × TrimCommand) : Prop :=
  command.2 = .maxLen maxLen ∨
    ∃ offset, broker.offsets command.1 = some offset ∧
      command.2 = .minID (idPlusOne offset.text)

theorem Holds.run {command : Stream × TrimCommand} {entries : List Message}
    (holds : broker.Holds maxLen command.1 entries) (submits : broker.Submits maxLen command) :
    broker.Holds maxLen command.1 (command.2.run entries) := by
  rcases submits with isCap | ⟨offset, stored, isTrim⟩
  · rw [isCap]
    exact holds.cap
  · rw [isTrim]
    exact holds.trimToOffset stored

/-- Whichever of the commands are executed, the protected entries stay. -/
theorem Holds.execute {commands : List (Stream × TrimCommand)} {current : Broker}
    (holds : ∀ stream, broker.Holds maxLen stream (current.streams stream))
    (submits : ∀ command, command ∈ commands → broker.Submits maxLen command) :
    ∀ stream, broker.Holds maxLen stream ((current.execute commands).streams stream) := by
  induction commands generalizing current with
  | nil => exact holds
  | cons command rest induction =>
      rw [Broker.execute, List.foldl_cons]
      refine induction ?_ fun later member => submits later (List.mem_cons_of_mem _ member)
      intro stream
      by_cases same : stream = command.1
      · subst same
        simpa using (holds command.1).run (submits command List.mem_cons_self)
      · simpa [same] using holds stream

theorem submits_of_mem_offsetTrimsOf {command : Stream × TrimCommand}
    (member : command ∈ broker.offsetTrimsOf streams) : broker.Submits maxLen command := by
  rcases List.mem_filterMap.mp member with ⟨stream, _, submitted⟩
  rcases Option.map_eq_some_iff.mp submitted with ⟨offset, stored, rfl⟩
  exact Or.inr ⟨offset, stored, rfl⟩

theorem submits_of_mem_caps {command : Stream × TrimCommand}
    (member : command ∈ caps maxLen streams) : broker.Submits maxLen command := by
  rcases List.mem_map.mp member with ⟨stream, _, rfl⟩
  exact Or.inl rfl

/-! ## Surviving failures -/

/-- The call returns no error, has submitted a cap for every stream it was given,
and a message that it has removed was acknowledged or beyond the newest
`maxLen`. -/
def Survives (broker : Broker) (maxLen : Nat) (streams : List Stream)
    (outcome : TrimOutcome) : Prop :=
  ∃ after submitted, outcome = .returned none after submitted ∧
    (∀ stream, stream ∈ streams → (stream, TrimCommand.maxLen maxLen) ∈ submitted) ∧
    ∀ stream entry, entry ∈ broker.streams stream → entry ∉ after.streams stream →
      (∃ offset, broker.offsets stream = some offset ∧ entry.id ≤ offset) ∨
        entry ∉ (broker.streams stream).rtake maxLen

/-- What is not protected may go. -/
theorem acked_or_beyond_of_not_protected {stream : Stream} {entry : Message}
    (notProtected : ¬broker.Protected maxLen stream entry) :
    (∃ offset, broker.offsets stream = some offset ∧ entry.id ≤ offset) ∨
      entry ∉ (broker.streams stream).rtake maxLen := by
  rw [Protected, not_and_or] at notProtected
  rcases notProtected with acked | beyond
  · push Not at acked
    exact Or.inl acked
  · exact Or.inr beyond

theorem survives_of_holds {after : Broker}
    (holds : ∀ stream, broker.Holds maxLen stream (after.streams stream)) :
    broker.Survives maxLen streams (.returned none after (caps maxLen streams)) := by
  refine ⟨after, _, rfl, fun stream listed => List.mem_map_of_mem listed, ?_⟩
  intro stream entry _ removed
  refine acked_or_beyond_of_not_protected fun isProtected => removed ?_
  rcases holds stream with ⟨older, newer, held, _, kept⟩
  rw [held]
  exact List.mem_append_right older (kept entry isProtected)

/-- Trimming survives whatever happens to its pipelines exactly when the offsets
could be read or there is nothing to trim. -/
theorem trimStreamsThrough_survives_iff (broker : Broker) (maxLen : Nat)
    (streams : List Stream) (trips : RoundTrips) (listed : trips.keys = .ok streams) :
    broker.Survives maxLen streams (broker.trimStreamsThrough maxLen trips) ↔
      trips.mgetAnswered = true ∨ streams = [] := by
  cases streams with
  | nil =>
      refine iff_of_true ?_ (Or.inr rfl)
      simp only [trimStreamsThrough, listed]
      exact survives_of_holds fun stream => .start broker maxLen stream
  | cons stream rest =>
      cases answered : trips.mgetAnswered with
      | false =>
          refine iff_of_false ?_ (by simp)
          rintro ⟨after, submitted, returned, _⟩
          simp only [trimStreamsThrough, listed, answered,
            offsetTrims_eq_none_of_unanswered] at returned
          cases returned
      | true =>
          refine iff_of_true ?_ (Or.inl rfl)
          rw [trimStreamsThrough_of_answered listed answered]
          have trims : ∀ command, command ∈ executedOf trips.offsetTrimExecuted
              (broker.offsetTrimsOf (stream :: rest)) → broker.Submits maxLen command :=
            fun command member => submits_of_mem_offsetTrimsOf (mem_of_mem_executedOf member)
          have trimmed := Holds.execute (fun stream => .start broker maxLen stream) trims
          exact survives_of_holds (Holds.execute trimmed fun command member =>
            submits_of_mem_caps (mem_of_mem_executedOf member))

/-- One stream with an acknowledged message and a new one. -/
def oneAcked : Broker :=
  { ((Broker.initial.publish "topic:\x7ba\x7d".toList ⟨1, 0⟩ []).publish
      "topic:\x7ba\x7d".toList ⟨2, 0⟩ []) with
    offsets := fun _ => some ⟨1, 0⟩ }

/-- A call of which both pipelines are lost. -/
theorem trimStreamsThrough_survives_lost_pipelines :
    oneAcked.Survives 10 ["topic:\x7ba\x7d".toList]
      (oneAcked.trimStreamsThrough 10
        ⟨.ok ["topic:\x7ba\x7d".toList], true, fun _ => false, fun _ => false⟩) :=
  (trimStreamsThrough_survives_iff _ _ _ _ rfl).mpr (Or.inl rfl)

/-- The error that is to be ignored ends the call in a panic. -/
theorem trimStreamsThrough_panics :
    oneAcked.trimStreamsThrough 10
      ⟨.ok ["topic:\x7ba\x7d".toList], false, fun _ => true, fun _ => true⟩ = .panicked :=
  rfl

end Broker

end Tassis.RedisBroker
