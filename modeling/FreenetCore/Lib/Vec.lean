import Mathlib

/-!
`Vec` operations that reorder a vector, over lists.

`Vec::swap_remove(i)` removes the element at `i` by moving the last element
into its place, so it does not keep the order of the rest: the result is a
permutation of the list without its `i`-th element, and whatever holds of a
list up to order (having no duplicate, its length, how often an element
occurs) carries over from `eraseIdx`.
-/

namespace Vec

variable {α : Type*}

/-- `Vec::swap_remove(i)` for an index in range: the last element takes the
place of the `i`-th, and the vector is one shorter. -/
def swapRemove (l : List α) (i : Nat) : List α :=
  match l.getLast? with
  | none => []
  | some last => (l.set i last).dropLast

/-- Removing the last element by `swap_remove` is popping it. -/
theorem swapRemove_concat_length (l : List α) (last : α) :
    swapRemove (l ++ [last]) l.length = l := by
  simp [swapRemove, List.set_append_right]

theorem swapRemove_concat_of_lt {l : List α} {last : α} {i : Nat} (h : i < l.length) :
    swapRemove (l ++ [last]) i = l.set i last := by
  simp [swapRemove, List.set_append_left _ _ h]

/-- `swap_remove` reorders the rest: it is `eraseIdx` up to permutation. -/
theorem swapRemove_perm {l : List α} {i : Nat} (h : i < l.length) :
    (swapRemove l i).Perm (l.eraseIdx i) := by
  obtain ⟨init, last, rfl⟩ : ∃ init last, l = init ++ [last] :=
    ⟨l.dropLast, l.getLast (List.ne_nil_of_length_pos (by omega)),
      (List.dropLast_append_getLast _).symm⟩
  rw [List.length_append, List.length_singleton] at h
  rcases Nat.lt_or_eq_of_le (Nat.le_of_lt_succ h) with hi | rfl
  · -- an inner index: the last element moves to `i`
    rw [swapRemove_concat_of_lt hi, List.eraseIdx_append_of_lt_length hi,
      List.set_eq_take_append_cons_drop, if_pos hi, List.eraseIdx_eq_take_drop_succ,
      List.append_assoc]
    exact List.Perm.append_left _ (List.perm_append_singleton _ _).symm
  · rw [swapRemove_concat_length, List.eraseIdx_append_of_length_le (le_refl _)]
    simp

/-- What `swap_remove` takes out and what it leaves are the vector up to order. -/
theorem getElem_cons_swapRemove_perm {l : List α} {i : Nat} (h : i < l.length) :
    (l[i] :: swapRemove l i).Perm l :=
  ((swapRemove_perm h).cons _).trans (List.getElem_cons_eraseIdx_perm h)

/-- The same, under any `flat_map` of the vector. -/
theorem flatMap_swapRemove_perm {β : Type*} {l : List α} {i : Nat} {a : α} (h : l[i]? = some a)
    (f : α → List β) : (f a ++ (swapRemove l i).flatMap f).Perm (l.flatMap f) := by
  obtain ⟨hi, rfl⟩ := List.getElem?_eq_some_iff.mp h
  simpa using (getElem_cons_swapRemove_perm hi).flatMap_right f

/-- `swap_remove` keeps a vector free of duplicates. -/
theorem Nodup.swapRemove {l : List α} {i : Nat} (hl : l.Nodup) (h : i < l.length) :
    (swapRemove l i).Nodup :=
  (swapRemove_perm h).nodup_iff.mpr (hl.sublist (List.eraseIdx_sublist l i))

end Vec
