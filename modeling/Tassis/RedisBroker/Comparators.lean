import Tassis.RedisBroker.Offset

/-! # The comparators and the order of Redis

The broker compares offsets in one way and the script that stores acknowledged
offsets in another. Both are compared here with the order in which Redis keeps
the messages of a stream: on which pairs of offsets they decide alike and as
Redis does, and that on such offsets the broker's comparator is a strict total
order.
-/

namespace Tassis.RedisBroker

open Tassis.Text

/-! ## Pairs of offsets -/

/-- Two IDs that both comparators order as Redis does: the parts that decide
the order of the IDs sort as text as they do as numbers, and the ID of the
later millisecond has no smaller sequence number when it is on the left. -/
structure MessageID.Discernible (a b : MessageID) : Prop where
  sequences : a.ms = b.ms → SortsAsText a.seq b.seq
  milliseconds : a.ms ≠ b.ms → SortsAsText a.ms b.ms
  together : ¬(b.ms < a.ms ∧ a.seq < b.seq)

instance (a b : MessageID) : Decidable (a.Discernible b) :=
  decidable_of_iff
    ((a.ms = b.ms → SortsAsText a.seq b.seq) ∧ (a.ms ≠ b.ms → SortsAsText a.ms b.ms) ∧
      ¬(b.ms < a.ms ∧ a.seq < b.seq))
    ⟨fun parts => ⟨parts.1, parts.2.1, parts.2.2⟩,
      fun discernible => ⟨discernible.sequences, discernible.milliseconds,
        discernible.together⟩⟩

namespace Offset

/-- Against the starting offset the comparators need nothing. -/
def Discernible : Offset → Offset → Prop
  | .message a, .message b => a.Discernible b
  | _, _ => True

/-- The broker's comparator decides the pair as Redis orders it, and the script
replaces the first offset by the second exactly when the comparator finds it
smaller. -/
def Realised (a b : Offset) : Prop :=
  Agrees a b ∧ luaReplaces b.text a.text = some (a.lessThan b)

variable {a b : MessageID}

/-- Sequence numbers that fit are compared as numbers. -/
theorem lessThan_message (aInRange : a.seq < 2 ^ 63) (bInRange : b.seq < 2 ^ 63) :
    (message a).lessThan (message b) = true ↔
      decimal a.ms < decimal b.ms ∨ a.seq < b.seq := by
  have clampedA : min (2 ^ 63 - 1) a.seq = a.seq := by omega
  have clampedB : min (2 ^ 63 - 1) b.seq = b.seq := by omega
  change offsetLessThan a.text b.text = true ↔ _
  rw [MessageID.offsetLessThan_text, clampedA, clampedB]

/-- What the three orders say about two IDs, without the texts between. -/
theorem realised_message_iff_orders (aInRange : a.seq < 2 ^ 63) (bInRange : b.seq < 2 ^ 63) :
    Realised (message a) (message b) ↔
      (decimal a.ms < decimal b.ms ∨ a.seq < b.seq ↔
        a.ms < b.ms ∨ a.ms = b.ms ∧ a.seq < b.seq) ∧
      (decimal a.ms < decimal b.ms ∨ b.ms = a.ms ∧ decimal a.seq < decimal b.seq ↔
        decimal a.ms < decimal b.ms ∨ a.seq < b.seq) := by
  rw [Realised, Agrees, position_message, position_message, MessageID.lt_iff]
  change _ ∧ luaReplaces b.text a.text = _ ↔ _
  have sameVerdict : ∀ verdict : Bool, ∀ replaces : Prop, [Decidable replaces] →
      (some (decide replaces) = some verdict ↔ (replaces ↔ verdict = true)) := by
    intro verdict replaces _
    cases verdict <;> simp
  rw [MessageID.luaReplaces_text, sameVerdict, lessThan_message aInRange bInRange]

theorem realised_message_iff (aInRange : a.seq < 2 ^ 63) (bInRange : b.seq < 2 ^ 63) :
    Realised (message a) (message b) ↔ a.Discernible b := by
  have textIrreflexive : ¬decimal b.ms < decimal b.ms := List.lt_irrefl _
  have sequences := decimal_lt_iff_lt a.seq b.seq
  have milliseconds := decimal_lt_iff_lt a.ms b.ms
  rw [realised_message_iff_orders aInRange bInRange]
  constructor
  · intro orders
    constructor
    · intro sameMs
      rw [← sequences]
      have script := orders.2
      simpa only [sameMs, or_iff_right textIrreflexive, true_and] using script
    · intro differentMs
      rw [← milliseconds]
      rcases Nat.lt_or_gt_of_ne differentMs with earlier | later
      · have script := orders.2.mpr (orders.1.mpr (Or.inl earlier))
        simpa [earlier, Ne.symm differentMs] using script
      · have denied : ¬(decimal a.ms < decimal b.ms ∨ a.seq < b.seq) := by
          rw [orders.1]
          omega
        have notBefore : ¬decimal a.ms < decimal b.ms := fun before => denied (Or.inl before)
        simp [notBefore, Nat.lt_asymm later]
    · rintro ⟨later, smaller⟩
      have ordered := orders.1.mp (Or.inr smaller)
      omega
  · intro discernible
    have together := discernible.together
    by_cases sameMs : a.ms = b.ms
    · have sorts := sequences.mpr (discernible.sequences sameMs)
      simp only [sameMs, or_iff_right textIrreflexive, sorts, Nat.lt_irrefl, false_or, true_and,
        and_self]
    · have sorts := milliseconds.mpr (discernible.milliseconds sameMs)
      rw [sorts]
      omega

theorem luaParts_minOffset : luaParts ['0'] = [['0']] := by decide

theorem realised_minOffset_message (positive : 1 ≤ b.ms) :
    Realised minOffset (message b) := by
  have before : ['0'] < decimal b.ms := minOffset_lt_decimal positive
  have lessThan : minOffset.lessThan (message b) = true := by
    change offsetLessThan ['0'] b.text = true
    simp [offsetLessThan, splitOn_minOffset, MessageID.splitOn_text, before]
  have earlier : minOffset.position < (message b).position := by
    change MessageID.zero < b
    rw [MessageID.lt_iff]
    exact Or.inl positive
  refine ⟨iff_of_true lessThan earlier, ?_⟩
  rw [lessThan]
  change luaReplaces b.text ['0'] = some true
  simp [luaReplaces, luaParts_minOffset, MessageID.luaParts_text, before]

theorem realised_message_minOffset (positive : 1 ≤ a.ms) :
    Realised (message a) minOffset := by
  have before : ['0'] < decimal a.ms := minOffset_lt_decimal positive
  have notAfter : ¬decimal a.ms < ['0'] := List.lt_asymm before
  have different : ['0'] ≠ decimal a.ms := fun equal =>
    List.lt_irrefl _ (equal ▸ before)
  have lessThan : (message a).lessThan minOffset = false := by
    change offsetLessThan a.text ['0'] = false
    simp [offsetLessThan, splitOn_minOffset, MessageID.splitOn_text, notAfter]
  have notEarlier : ¬(message a).position < minOffset.position :=
    not_lt.mpr (MessageID.zero_le a)
  refine ⟨iff_of_false (by simp [lessThan]) notEarlier, ?_⟩
  rw [lessThan]
  change luaReplaces ['0'] a.text = some false
  simp [luaReplaces, luaParts_minOffset, MessageID.luaParts_text, notAfter, different]

/-! ## Sets of offsets -/

/-- Offsets that the comparators are for: sequence numbers are 64-bit integers,
and no ID is of the millisecond that the starting offset stands for. -/
structure Scope (offsets : Set Offset) : Prop where
  sequences : ∀ id, .message id ∈ offsets → id.seq < 2 ^ 63
  milliseconds : .minOffset ∈ offsets → ∀ id, .message id ∈ offsets → 1 ≤ id.ms

/-- The broker's comparator is a strict total order on the offsets. -/
structure StrictlyOrders (offsets : Set Offset) : Prop where
  irreflexive : ∀ a ∈ offsets, a.lessThan a = false
  asymmetric : ∀ a ∈ offsets, ∀ b ∈ offsets, a.lessThan b = true → b.lessThan a = false
  transitive : ∀ a ∈ offsets, ∀ b ∈ offsets, ∀ c ∈ offsets,
    a.lessThan b = true → b.lessThan c = true → a.lessThan c = true
  total : ∀ a ∈ offsets, ∀ b ∈ offsets, a ≠ b → a.lessThan b = true ∨ b.lessThan a = true

variable {offsets : Set Offset}

theorem Scope.realised_iff (scope : Scope offsets) {a b : Offset} (aMember : a ∈ offsets)
    (bMember : b ∈ offsets) (notBothStarting : a ≠ .minOffset ∨ b ≠ .minOffset) :
    Realised a b ↔ Discernible a b := by
  cases a with
  | minOffset =>
      cases b with
      | minOffset => simp at notBothStarting
      | message b =>
          exact iff_of_true (realised_minOffset_message (scope.milliseconds aMember b bMember))
            trivial
  | message a =>
      cases b with
      | minOffset =>
          exact iff_of_true (realised_message_minOffset (scope.milliseconds bMember a aMember))
            trivial
      | message b =>
          exact realised_message_iff (scope.sequences a aMember) (scope.sequences b bMember)

theorem Scope.agrees (scope : Scope offsets)
    (discernible : ∀ a ∈ offsets, ∀ b ∈ offsets, Discernible a b) {a b : Offset}
    (aMember : a ∈ offsets) (bMember : b ∈ offsets) : Agrees a b := by
  by_cases bothStarting : a = .minOffset ∧ b = .minOffset
  · rw [bothStarting.1, bothStarting.2]
    decide
  · have realised := (scope.realised_iff aMember bMember (not_and_or.mp bothStarting)).mpr
      (discernible a aMember b bMember)
    exact realised.1

theorem Scope.position_injective (scope : Scope offsets) {a b : Offset} (aMember : a ∈ offsets)
    (bMember : b ∈ offsets) (equal : a.position = b.position) : a = b := by
  cases a with
  | minOffset =>
      cases b with
      | minOffset => rfl
      | message b =>
          have positive := scope.milliseconds aMember b bMember
          have zero : b = MessageID.zero := equal.symm
          rw [zero] at positive
          cases positive
  | message a =>
      cases b with
      | minOffset =>
          have positive := scope.milliseconds bMember a aMember
          have zero : a = MessageID.zero := equal
          rw [zero] at positive
          cases positive
      | message b => exact congrArg message equal

/-- The laws come from the order of Redis wherever the comparator agrees with
it. -/
theorem Scope.strictlyOrders (scope : Scope offsets)
    (discernible : ∀ a ∈ offsets, ∀ b ∈ offsets, Discernible a b) : StrictlyOrders offsets := by
  have agrees : ∀ {a b : Offset}, a ∈ offsets → b ∈ offsets →
      (a.lessThan b = true ↔ a.position < b.position) :=
    fun aMember bMember => scope.agrees discernible aMember bMember
  constructor
  · intro a aMember
    rw [← Bool.not_eq_true, agrees aMember aMember]
    exact lt_irrefl _
  · intro a aMember b bMember smaller
    rw [← Bool.not_eq_true, agrees bMember aMember]
    exact lt_asymm ((agrees aMember bMember).mp smaller)
  · intro a aMember b bMember c cMember first second
    rw [agrees aMember cMember]
    exact ((agrees aMember bMember).mp first).trans ((agrees bMember cMember).mp second)
  · intro a aMember b bMember different
    rw [agrees aMember bMember, agrees bMember aMember]
    have apart : a.position ≠ b.position := fun equal =>
      different (scope.position_injective aMember bMember equal)
    exact lt_or_gt_of_ne apart

/-- On offsets within the comparators' scope, both comparators realise the
order of Redis on exactly the discernible pairs, and where all pairs are
discernible the broker's comparator is a strict total order. -/
theorem comparators_realise_order_iff (offsets : Set Offset) (scope : Scope offsets) :
    (∀ a ∈ offsets, ∀ b ∈ offsets, (a ≠ .minOffset ∨ b ≠ .minOffset) →
      (Realised a b ↔ Discernible a b)) ∧
    ((∀ a ∈ offsets, ∀ b ∈ offsets, Discernible a b) → StrictlyOrders offsets) :=
  ⟨fun _ aMember _ bMember notBothStarting =>
      scope.realised_iff aMember bMember notBothStarting,
    fun discernible => scope.strictlyOrders discernible⟩

/-- The starting offset and three IDs, two of them of one millisecond and two
of different widths. -/
theorem comparators_realise_order_sample :
    StrictlyOrders {.minOffset, .message ⟨15, 3⟩, .message ⟨15, 4⟩, .message ⟨160, 4⟩} := by
  have scope : Scope {.minOffset, .message ⟨15, 3⟩, .message ⟨15, 4⟩, .message ⟨160, 4⟩} :=
    ⟨by simp, by simp⟩
  apply (comparators_realise_order_iff _ scope).2
  simp only [Set.mem_insert_iff, Set.mem_singleton_iff, forall_eq_or_imp, forall_eq]
  simp only [Discernible]
  decide

/-- The broker's comparator orders two IDs both ways, and two IDs whose
milliseconds differ in width the wrong way. The script disagrees with it on two
sequence numbers that differ in width. -/
theorem comparators_contradict_order :
    (offsetLessThan "2-0".toList "1-5".toList = true ∧
      offsetLessThan "1-5".toList "2-0".toList = true ∧
      ¬(⟨2, 0⟩ : MessageID) < ⟨1, 5⟩) ∧
    (offsetLessThan "9-0".toList "10-0".toList = false ∧ (⟨9, 0⟩ : MessageID) < ⟨10, 0⟩) ∧
    (luaReplaces "1-10".toList "1-9".toList = some false ∧
      offsetLessThan "1-9".toList "1-10".toList = true) := by
  decide

end Offset

end Tassis.RedisBroker
