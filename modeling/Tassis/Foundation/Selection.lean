import Mathlib.Order.Lattice

/-! # Selection by a comparator

A loop that keeps one item of a list and replaces it whenever a comparator says
so. When the comparator decides a linear order on the items, the item kept is
the least one, whatever the order in which the items are visited.
-/

namespace Tassis

/-- One round of the loop: the first item is kept unconditionally. -/
def keepOrReplace (replaces : α → α → Bool) : Option α → α → Option α
  | none, item => some item
  | some kept, item => if replaces kept item then some item else some kept

/-- The item kept after visiting a whole list. -/
def selectBy (replaces : α → α → Bool) (items : List α) : Option α :=
  items.foldl (keepOrReplace replaces) none

namespace selectBy

variable {replaces : α → α → Bool}

theorem keepOrReplace_mem {kept : Option α} {item result : α}
    (selected : keepOrReplace replaces kept item = some result) :
    result = item ∨ kept = some result := by
  cases kept with
  | none => exact Or.inl (by simpa [keepOrReplace] using selected.symm)
  | some kept =>
      by_cases replaced : replaces kept item = true
      · exact Or.inl (by simpa [keepOrReplace, replaced] using selected.symm)
      · exact Or.inr (by simpa [keepOrReplace, replaced] using selected)

private theorem foldl_mem {items : List α} {kept : Option α} {result : α}
    (selected : items.foldl (keepOrReplace replaces) kept = some result) :
    result ∈ items ∨ kept = some result := by
  induction items generalizing kept with
  | nil => exact Or.inr selected
  | cons item rest induction =>
      rcases induction selected with member | same
      · exact Or.inl (List.mem_cons_of_mem item member)
      · rcases keepOrReplace_mem same with equal | same
        · exact Or.inl (by simp [equal])
        · exact Or.inr same

/-- The item kept is one of the items visited. -/
theorem mem {items : List α} {result : α}
    (selected : selectBy replaces items = some result) : result ∈ items := by
  rcases foldl_mem selected with member | impossible
  · exact member
  · cases impossible

private theorem foldl_isSome (items : List α) (kept : α) :
    (items.foldl (keepOrReplace replaces) (some kept)).isSome = true := by
  induction items generalizing kept with
  | nil => rfl
  | cons item rest induction =>
      by_cases replaced : replaces kept item = true
      · simpa [keepOrReplace, replaced] using induction item
      · simpa [keepOrReplace, replaced] using induction kept

/-- Some item is kept unless the list is empty. -/
theorem exists_of_ne_nil {items : List α} (nonempty : items ≠ []) :
    ∃ result, selectBy replaces items = some result := by
  cases items with
  | nil => exact absurd rfl nonempty
  | cons item rest => exact Option.isSome_iff_exists.mp (foldl_isSome rest item)

section Ordered

variable [LinearOrder β] {rank : α → β}

private theorem foldl_le {items : List α} {kept result : α}
    (agrees : (kept :: items).Pairwise fun earlier later =>
      (replaces earlier later = true ↔ rank later < rank earlier))
    (selected : items.foldl (keepOrReplace replaces) (some kept) = some result) :
    rank result ≤ rank kept ∧ ∀ item, item ∈ items → rank result ≤ rank item := by
  induction items generalizing kept with
  | nil =>
      simp only [List.foldl_nil, Option.some.injEq] at selected
      subst result
      exact ⟨le_refl _, by simp⟩
  | cons item rest induction =>
      rcases List.pairwise_cons.mp agrees with ⟨ofKept, ofItem⟩
      have ofRest := (List.pairwise_cons.mp ofItem).2
      have decides := ofKept item List.mem_cons_self
      by_cases replaced : replaces kept item = true
      · have bounds := induction ofItem (by simpa [keepOrReplace, replaced] using selected)
        exact ⟨bounds.1.trans (le_of_lt (decides.mp replaced)),
          List.forall_mem_cons.mpr bounds⟩
      · have notSmaller : rank kept ≤ rank item :=
          not_lt.mp fun smaller => replaced (decides.mpr smaller)
        have keeps := List.pairwise_cons.mpr
          ⟨fun other member => ofKept other (List.mem_cons_of_mem item member), ofRest⟩
        have bounds := induction keeps (by simpa [keepOrReplace, replaced] using selected)
        exact ⟨bounds.1, List.forall_mem_cons.mpr ⟨bounds.1.trans notSmaller, bounds.2⟩⟩

/-- A comparator that decides a linear order between each item and the later ones
selects a least item. -/
theorem le_of_mem {items : List α} {result : α}
    (agrees : items.Pairwise fun earlier later =>
      (replaces earlier later = true ↔ rank later < rank earlier))
    (selected : selectBy replaces items = some result) :
    ∀ item, item ∈ items → rank result ≤ rank item := by
  cases items with
  | nil => intro item member; cases member
  | cons item rest => exact List.forall_mem_cons.mpr (foldl_le agrees selected)

end Ordered

end selectBy

end Tassis
