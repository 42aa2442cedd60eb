import Tassis.Database.ChatNumbers

/-! # Candidates for chat numbers

The forms of a number that `getNumber` tries one after the other: runs of fives
before both of its parts, and the plain number as the last chance.
-/

namespace Tassis.Database

variable {preferredNumber preferredNumber' : Text} {iter iter' : Nat}

/-- A number as it is parsed, which ignores fives. -/
def withoutFives (number : Text) : Text := number.filter (· ≠ '5')

theorem withoutFives_of_notMem {number : Text} (plain : '5' ∉ number) :
    withoutFives number = number := by
  apply List.filter_eq_self.mpr
  intro digit member
  have different : digit ≠ '5' := fun equal => plain (equal ▸ member)
  simpa using different

theorem withoutFives_append (first second : Text) :
    withoutFives (first ++ second) = withoutFives first ++ withoutFives second :=
  List.filter_append ..

theorem withoutFives_replicate (count : Nat) :
    withoutFives (List.replicate count '5') = [] := by
  simp [withoutFives]

/-! ## Before and at the last chance -/

theorem length_shortForm (long : 12 ≤ preferredNumber.length) (iter : Nat) :
    (List.replicate iter '5' ++ preferredNumber.take 12).length = iter + 12 := by
  rw [List.length_append, List.length_replicate, List.length_take, Nat.min_eq_left long]

theorem candidate_of_lt (early : iter < preferredNumber.length - 12) :
    candidate preferredNumber iter =
      (List.replicate iter '5' ++ preferredNumber.take 12 ++
          (List.replicate iter '5' ++ preferredNumber.drop 12),
        List.replicate iter '5' ++ preferredNumber.take 12, false) := by
  have short := length_shortForm (by omega : 12 ≤ preferredNumber.length) iter
  rw [candidate, if_neg]
  omega

theorem candidate_of_le (long : 12 ≤ preferredNumber.length)
    (late : preferredNumber.length - 12 ≤ iter) :
    candidate preferredNumber iter = (preferredNumber, preferredNumber, true) := by
  have short := length_shortForm long iter
  rw [candidate, if_pos]
  omega

theorem candidate_lastChance (long : 12 ≤ preferredNumber.length) :
    (candidate preferredNumber iter).2.2 = true ↔ preferredNumber.length - 12 ≤ iter := by
  by_cases early : iter < preferredNumber.length - 12
  · rw [candidate_of_lt early]
    simp only [Bool.false_eq_true, false_iff]
    omega
  · rw [candidate_of_le long (by omega)]
    simp only [true_iff]
    omega

/-! ## Laws -/

/-- The short number is a beginning of the number, and without its fives the
number is the preferred one. -/
structure IsForm (preferredNumber number shortNumber : Text) : Prop where
  short : shortNumber <+: number
  parses : withoutFives number = preferredNumber

theorem candidate_isForm (long : 12 ≤ preferredNumber.length) (plain : '5' ∉ preferredNumber)
    (iter : Nat) :
    IsForm preferredNumber (candidate preferredNumber iter).1
      (candidate preferredNumber iter).2.1 := by
  by_cases early : iter < preferredNumber.length - 12
  · rw [candidate_of_lt early]
    refine ⟨List.prefix_append _ _, ?_⟩
    simp only [withoutFives_append, withoutFives_replicate, List.nil_append]
    rw [← withoutFives_append, List.take_append_drop, withoutFives_of_notMem plain]
  · rw [candidate_of_le long (by omega)]
    exact ⟨List.prefix_rfl, withoutFives_of_notMem plain⟩

/-- Candidates of different numbers differ. -/
theorem candidate_ne_of_ne (long : 12 ≤ preferredNumber.length)
    (long' : 12 ≤ preferredNumber'.length) (plain : '5' ∉ preferredNumber)
    (plain' : '5' ∉ preferredNumber') (different : preferredNumber ≠ preferredNumber')
    (iter iter' : Nat) :
    (candidate preferredNumber iter).1 ≠ (candidate preferredNumber' iter').1 := by
  intro equal
  apply different
  rw [← (candidate_isForm long plain iter).parses, equal,
    (candidate_isForm long' plain' iter').parses]

theorem length_candidate (early : iter < preferredNumber.length - 12) :
    (candidate preferredNumber iter).1.length = preferredNumber.length + 2 * iter := by
  rw [candidate_of_lt early]
  simp only [List.length_append, List.length_replicate, List.length_take, List.length_drop]
  omega

/-- Candidates of different iterations before the last chance differ. -/
theorem candidate_ne_of_iter_ne (early : iter < preferredNumber.length - 12)
    (early' : iter' < preferredNumber.length - 12) (different : iter ≠ iter') :
    (candidate preferredNumber iter).1 ≠ (candidate preferredNumber iter').1 := by
  intro equal
  have lengths := congrArg List.length equal
  rw [length_candidate early, length_candidate early'] at lengths
  omega

end Tassis.Database
