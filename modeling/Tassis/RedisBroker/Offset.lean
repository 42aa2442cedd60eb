import Mathlib.Data.Prod.Lex
import Mathlib.Order.Lattice
import Tassis.Foundation.Text

/-! # Stream offsets

Message IDs as Redis assigns and orders them, the offset strings that the
broker passes around, and the two comparators on those strings: one in the
broker, one in the script that stores acknowledged offsets.
-/

namespace Tassis.RedisBroker

open Tassis.Text

/-! ## Message IDs -/

/-- The ID of a stream entry: milliseconds and a sequence number within the
millisecond. -/
structure MessageID where
  ms : Nat
  seq : Nat
  deriving DecidableEq, Repr

namespace MessageID

def key (id : MessageID) : Nat ×ₗ Nat := toLex (id.ms, id.seq)

theorem key_injective : Function.Injective key := by
  intro left right equal
  cases left
  cases right
  simpa [key] using equal

/-- Redis compares IDs by milliseconds first and by sequence number second. -/
instance : LinearOrder MessageID := LinearOrder.lift' key key_injective

theorem lt_iff {left right : MessageID} :
    left < right ↔ left.ms < right.ms ∨ left.ms = right.ms ∧ left.seq < right.seq :=
  Prod.Lex.lt_iff

/-- The ID below every ID that a stream assigns. -/
def zero : MessageID := ⟨0, 0⟩

theorem zero_le (id : MessageID) : zero ≤ id := by
  rw [← not_lt, lt_iff]
  simp [zero]

def text (id : MessageID) : Text := decimal id.ms ++ '-' :: decimal id.seq

end MessageID

/-- The offset strings in use: `minOffset` until something has been
acknowledged, and message IDs from then on. -/
inductive Offset where
  | minOffset
  | message (id : MessageID)
  deriving DecidableEq, Repr

namespace Offset

def text : Offset → Text
  | .minOffset => "0".toList
  | .message id => id.text

/-- The ID after which Redis starts reading for this offset. -/
def position : Offset → MessageID
  | .minOffset => MessageID.zero
  | .message id => id

@[simp] theorem position_message (id : MessageID) : (message id).position = id := rfl

end Offset

/-! ## The broker's comparator -/

def offsetLessThan (a b : Text) : Bool :=
  let aParts := a.splitOn '-'
  let bParts := b.splitOn '-'
  if aParts.headD [] < bParts.headD [] then true
  else if aParts.length = 1 ∨ bParts.length = 1 then false
  else
    let aSeq := atoi (aParts.getD 1 [])
    let bSeq := atoi (bParts.getD 1 [])
    aSeq < bSeq

namespace MessageID

theorem splitOn_text (id : MessageID) :
    id.text.splitOn '-' = [decimal id.ms, decimal id.seq] :=
  splitOn_pair ((decimal_digits id.ms).notMem (by decide))
    ((decimal_digits id.seq).notMem (by decide))

theorem text_injective : Function.Injective text := by
  intro left right equal
  have parts : [decimal left.ms, decimal left.seq] =
      [decimal right.ms, decimal right.seq] := by
    rw [← splitOn_text, equal, splitOn_text]
  simp only [List.cons.injEq, and_true] at parts
  have sameMs := decimal_injective parts.1
  have sameSeq := decimal_injective parts.2
  cases left
  cases right
  simp_all

/-- On two message IDs the comparator compares the milliseconds as text, and
the sequence numbers whenever the first comparison fails. -/
theorem offsetLessThan_text (a b : MessageID) :
    offsetLessThan a.text b.text = true ↔
      decimal a.ms < decimal b.ms ∨
        min (2 ^ 63 - 1) a.seq < min (2 ^ 63 - 1) b.seq := by
  have sequences : atoi (decimal a.seq) < atoi (decimal b.seq) ↔
      min (2 ^ 63 - 1) a.seq < min (2 ^ 63 - 1) b.seq := by
    rw [atoi_decimal, atoi_decimal]
    omega
  by_cases smaller : decimal a.ms < decimal b.ms
  · simp [offsetLessThan, splitOn_text, smaller]
  · simp [offsetLessThan, splitOn_text, smaller, sequences]

/-- An ID of an earlier millisecond than the first one is not taken for a later one. -/
def Discerns (a b : MessageID) : Prop :=
  b.ms < a.ms → SortsAsText a.ms b.ms ∧ min (2 ^ 63 - 1) b.seq ≤ min (2 ^ 63 - 1) a.seq

instance (a b : MessageID) : Decidable (a.Discerns b) := inferInstanceAs (Decidable (_ → _))

theorem discerns_iff {a b : MessageID} :
    a.Discerns b ↔ (offsetLessThan a.text b.text = true → a < b) := by
  have milliseconds := decimal_lt_iff_lt a.ms b.ms
  rw [offsetLessThan_text, lt_iff]
  constructor
  · intro discerns smaller
    by_cases later : b.ms < a.ms
    · rcases discerns later with ⟨sorts, sequences⟩
      rw [milliseconds.mpr sorts] at smaller
      omega
    · by_cases same : a.ms = b.ms
      · rw [same] at smaller ⊢
        rcases smaller with smaller | smaller
        · exact absurd smaller (List.lt_irrefl _)
        · omega
      · omega
  · intro finds later
    constructor
    · rw [← milliseconds]
      refine iff_of_false (fun smaller => ?_) (by omega)
      have := finds (Or.inl smaller)
      omega
    · by_contra smaller
      have := finds (Or.inr (not_le.mp smaller))
      omega

/-- The IDs are such that the comparator decides them as Redis orders them. -/
def Compares (a b : MessageID) : Prop :=
  a.Discerns b ∧
    (a.ms < b.ms → SortsAsText a.ms b.ms ∨ min (2 ^ 63 - 1) a.seq < min (2 ^ 63 - 1) b.seq) ∧
    (a.ms = b.ms → a.seq < b.seq → a.seq < 2 ^ 63 - 1)

instance (a b : MessageID) : Decidable (a.Compares b) := inferInstanceAs (Decidable (_ ∧ _))

theorem compares_iff {a b : MessageID} :
    a.Compares b ↔ (offsetLessThan a.text b.text = true ↔ a < b) := by
  rw [Compares, discerns_iff, offsetLessThan_text, lt_iff]
  refine Iff.trans (and_congr_right' ?_) iff_iff_implies_and_implies.symm
  have milliseconds := decimal_lt_iff_lt a.ms b.ms
  constructor
  · rintro ⟨earlier, same⟩ (smaller | ⟨equal, smaller⟩)
    · rcases earlier smaller with sorts | sequences
      · exact Or.inl ((milliseconds.mpr sorts).mpr smaller)
      · exact Or.inr sequences
    · have bounded := same equal smaller
      omega
  · intro finds
    constructor
    · intro earlier
      rcases finds (Or.inl earlier) with smaller | sequences
      · exact Or.inl (milliseconds.mp (iff_of_true smaller earlier))
      · exact Or.inr sequences
    · intro equal smaller
      rcases finds (Or.inr ⟨equal, smaller⟩) with text | sequences
      · rw [equal] at text
        exact absurd text (List.lt_irrefl _)
      · omega

end MessageID

namespace Offset

/-- The comparator applied to two offsets. -/
def lessThan (a b : Offset) : Bool := offsetLessThan a.text b.text

/-- The comparator decides this pair as Redis orders it. -/
def Agrees (a b : Offset) : Prop := a.lessThan b = true ↔ a.position < b.position

instance (a b : Offset) : Decidable (Agrees a b) :=
  inferInstanceAs (Decidable (_ ↔ _))

/-- On IDs whose milliseconds have one width and whose sequence numbers are
64-bit integers, the comparator errs exactly when the two parts are ordered
oppositely and the smaller sequence number is on the left. -/
theorem agrees_message_iff {a b : MessageID}
    (sameWidth : (decimal a.ms).length = (decimal b.ms).length)
    (aInRange : a.seq < 2 ^ 63) (bInRange : b.seq < 2 ^ 63) :
    Agrees (message a) (message b) ↔ ¬(b.ms < a.ms ∧ a.seq < b.seq) := by
  have decides : (message a).lessThan (message b) = true ↔
      a.ms < b.ms ∨ a.seq < b.seq := by
    have clampedA : min (2 ^ 63 - 1) a.seq = a.seq := by omega
    have clampedB : min (2 ^ 63 - 1) b.seq = b.seq := by omega
    change offsetLessThan a.text b.text = true ↔ _
    rw [MessageID.offsetLessThan_text, decimal_lt_decimal sameWidth, clampedA, clampedB]
  rw [Agrees, decides, position_message, position_message, MessageID.lt_iff]
  omega

/-- The text of `minOffset` precedes every positive numeral. -/
theorem minOffset_lt_decimal {number : Nat} (positive : 0 < number) :
    ['0'] < decimal number := by
  have sorts : SortsAsText 0 number := ⟨by simp, by omega⟩
  exact ((decimal_lt_iff_lt 0 number).mpr sorts).mpr positive

theorem splitOn_minOffset : ['0'].splitOn '-' = [['0']] := by decide

/-- Against the starting offset no ID is mistaken. -/
def Discerns : Offset → MessageID → Prop
  | .minOffset, _ => True
  | .message a, b => a.Discerns b

instance (offset : Offset) (id : MessageID) : Decidable (offset.Discerns id) := by
  unfold Discerns
  split <;> infer_instance

theorem Discerns.position_lt {offset : Offset} {id : MessageID} (discerns : offset.Discerns id)
    (smaller : offset.lessThan (.message id) = true) : offset.position < id := by
  cases offset with
  | message a => exact MessageID.discerns_iff.mp discerns smaller
  | minOffset =>
      have before : ['0'] < decimal id.ms := by
        change offsetLessThan ['0'] id.text = true at smaller
        simpa [offsetLessThan, splitOn_minOffset, MessageID.splitOn_text] using smaller
      have positive : id.ms ≠ 0 := by
        intro zero
        rw [zero] at before
        exact absurd before (by decide)
      exact MessageID.lt_iff.mpr (Or.inl (Nat.pos_of_ne_zero positive))

/-- The comparator takes the ID of a later millisecond to be the smaller one. -/
example : (message ⟨2, 0⟩).lessThan (message ⟨1, 5⟩) = true := by decide

end Offset

/-! ## The script's comparator -/

/-- The nonempty pieces between dashes, as the pattern `[^-]+` matches them. -/
def luaParts (offset : Text) : List Text := (offset.splitOn '-').filter (· ≠ [])

/-- The script's condition for replacing the stored offset. A missing part
makes the script fail. -/
def luaReplaces (newOffset oldOffset : Text) : Option Bool :=
  match luaParts newOffset, luaParts oldOffset with
  | newMs :: newRest, oldMs :: oldRest =>
      if oldMs < newMs then some true
      else if newMs = oldMs then
        match newRest, oldRest with
        | newSeq :: _, oldSeq :: _ => some (oldSeq < newSeq)
        | _, _ => none
      else some false
  | _, _ => none

namespace MessageID

theorem luaParts_text (id : MessageID) :
    luaParts id.text = [decimal id.ms, decimal id.seq] := by
  simp [luaParts, splitOn_text, decimal_ne_nil]

/-- On two message IDs the script compares both parts as text. -/
theorem luaReplaces_text (new old : MessageID) :
    luaReplaces new.text old.text =
      some (decide (decimal old.ms < decimal new.ms ∨
        new.ms = old.ms ∧ decimal old.seq < decimal new.seq)) := by
  have sameMs : decimal new.ms = decimal old.ms ↔ new.ms = old.ms :=
    decimal_injective.eq_iff
  simp only [luaReplaces, luaParts_text]
  by_cases greater : decimal old.ms < decimal new.ms
  · simp only [greater, if_true, true_or, decide_true]
  · rw [if_neg greater]
    by_cases equal : new.ms = old.ms
    · rw [if_pos (sameMs.mpr equal)]
      simp only [or_iff_right greater, and_iff_right equal]
    · rw [if_neg (sameMs.not.mpr equal)]
      simp only [or_iff_right greater, equal, false_and, decide_false]

/-- The IDs are such that the script decides them as Redis orders them. -/
def LuaAgrees (new old : MessageID) : Prop :=
  (new.ms = old.ms → SortsAsText old.seq new.seq) ∧
    (new.ms ≠ old.ms → SortsAsText old.ms new.ms)

instance (new old : MessageID) : Decidable (LuaAgrees new old) :=
  inferInstanceAs (Decidable (_ ∧ _))

theorem luaAgrees_iff {new old : MessageID} :
    LuaAgrees new old ↔ luaReplaces new.text old.text = some (decide (old < new)) := by
  rw [luaReplaces_text, Option.some.injEq, decide_eq_decide, lt_iff, LuaAgrees,
    ← decimal_lt_iff_lt, ← decimal_lt_iff_lt]
  by_cases same : new.ms = old.ms
  · have irreflexive : ¬decimal old.ms < decimal old.ms := List.lt_irrefl _
    simp only [same, ne_eq, not_true_eq_false, false_implies, and_true, true_implies, true_and,
      or_iff_right irreflexive, Nat.lt_irrefl, false_or]
  · simp only [same, Ne.symm same, ne_eq, not_false_eq_true, false_implies, true_implies,
      true_and, false_and, or_false]

/-- Within one millisecond the script takes sequence number 10 to precede 9. -/
example : luaReplaces (text ⟨1, 10⟩) (text ⟨1, 9⟩) = some false := by decide

end MessageID

end Tassis.RedisBroker
