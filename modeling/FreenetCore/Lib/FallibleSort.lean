import Mathlib

/-!
Sorting under a comparison that may not answer.

`is_less` is a function `α → α → Option Bool`, `none` where a comparison
never returns; the sort is insertion sort in `Option`, the algorithm the
standard library's `sort_unstable` runs on short slices, and it returns
`none` as soon as one comparison does. A list of at most one element is
sorted without a comparison (`insertionSort_of_length_le_one`); a list of
two or more is not sorted at all when no comparison answers
(`insertionSort_eq_none`).
-/

namespace FallibleSort

variable {α : Type*}

/-- Insertion of `x` in front of the first element that `x` is not above. -/
def orderedInsert (isLess : α → α → Option Bool) (x : α) : List α → Option (List α)
  | [] => some [x]
  | y :: ys => (isLess y x).bind fun less =>
      if less then (orderedInsert isLess x ys).map (y :: ·) else some (x :: y :: ys)

/-- Insertion sort: each element inserted into the sorted rest. -/
def insertionSort (isLess : α → α → Option Bool) : List α → Option (List α)
  | [] => some []
  | x :: xs => (insertionSort isLess xs).bind (orderedInsert isLess x)

variable {isLess : α → α → Option Bool}

theorem orderedInsert_nil (x : α) : orderedInsert isLess x [] = some [x] := rfl

/-- Insertion into a non-empty list makes a comparison. -/
theorem orderedInsert_eq_none (hnone : ∀ a b, isLess a b = none) (x : α) {l : List α}
    (hl : l ≠ []) : orderedInsert isLess x l = none := by
  obtain ⟨y, ys, rfl⟩ := List.exists_cons_of_ne_nil hl
  simp [orderedInsert, hnone]

/-- Insertion never gives the empty list. -/
theorem ne_nil_of_insertionSort {x : α} {xs l : List α}
    (h : insertionSort isLess (x :: xs) = some l) : l ≠ [] := by
  obtain ⟨s, -, hins⟩ := Option.bind_eq_some_iff.mp h
  cases s with
  | nil =>
      rw [orderedInsert_nil] at hins
      cases hins
      exact List.cons_ne_nil _ _
  | cons y ys =>
      rintro rfl
      simp only [orderedInsert] at hins
      cases hb : isLess y x with
      | none => simp [hb] at hins
      | some b => cases b <;> simp [hb] at hins

theorem insertionSort_of_length_le_one {l : List α} (h : l.length ≤ 1) :
    insertionSort isLess l = some l := by
  match l, h with
  | [], _ => rfl
  | [x], _ => rfl

/-- With no comparison answering, two elements or more are never sorted. -/
theorem insertionSort_eq_none (hnone : ∀ a b, isLess a b = none) {l : List α}
    (h : 2 ≤ l.length) : insertionSort isLess l = none := by
  obtain ⟨x, y, rest, rfl⟩ : ∃ x y rest, l = x :: y :: rest := by
    match l, h with
    | x :: y :: rest, _ => exact ⟨x, y, rest, rfl⟩
  -- the rest is sorted into a non-empty list, or not at all; either way `x` has to be compared
  show (insertionSort isLess (y :: rest)).bind (orderedInsert isLess x) = none
  cases hs : insertionSort isLess (y :: rest) with
  | none => rfl
  | some s => exact orderedInsert_eq_none hnone x (ne_nil_of_insertionSort hs)

end FallibleSort
