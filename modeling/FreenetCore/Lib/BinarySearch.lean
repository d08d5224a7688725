import Mathlib

/-!
Binary search over a slice, as `slice::binary_search_by` of the Rust
standard library computes it from version 1.52 up to 1.81: the search
narrows `[left, right)` and returns `Ok(mid)` at the first probe that
compares equal, `Err(left)` when the range is empty. On a slice that is not
sorted by the comparison the result is still this computation, which is why
it is modelled step by step rather than by its specification; on a sorted
slice the search finds every key the slice holds.
-/

namespace BinarySearch

variable {α : Type*} [Inhabited α]

/-- The loop of `binary_search_by` over `[left, right)`; the result is `ok`
for a hit and `error` with the insertion point otherwise. -/
def searchFrom (f : α → Ordering) (xs : List α) (left right : Nat) : Except Nat Nat :=
  if left < right then
    let mid := left + (right - left) / 2
    match f xs[mid]! with
    | .lt => searchFrom f xs (mid + 1) right
    | .gt => searchFrom f xs left mid
    | .eq => .ok mid
  else .error left
termination_by right - left

/-- `binary_search_by`. -/
def binarySearchBy (f : α → Ordering) (xs : List α) : Except Nat Nat :=
  searchFrom f xs 0 xs.length

/-- `binary_search_by_key`. -/
def binarySearchByKey {β : Type*} [Ord β] (b : β) (key : α → β) (xs : List α) : Except Nat Nat :=
  binarySearchBy (fun a => compare (key a) b) xs

/-- A hit is a probe that compared equal, inside the range searched. -/
theorem searchFrom_eq_of_ok {f : α → Ordering} {xs : List α} {left right j : Nat}
    (h : searchFrom f xs left right = .ok j) : f xs[j]! = .eq ∧ left ≤ j ∧ j < right := by
  induction left, right using searchFrom.induct f xs with
  | case1 left right hlr mid hcmp ih =>
      rw [searchFrom, if_pos hlr] at h
      simp only at hcmp h
      rw [hcmp] at h
      obtain ⟨heq, hl, hr⟩ := ih h
      exact ⟨heq, by omega, hr⟩
  | case2 left right hlr mid hcmp ih =>
      rw [searchFrom, if_pos hlr] at h
      simp only at hcmp h
      rw [hcmp] at h
      obtain ⟨heq, hl, hr⟩ := ih h
      exact ⟨heq, hl, by omega⟩
  | case3 left right hlr mid hcmp =>
      rw [searchFrom, if_pos hlr] at h
      simp only at hcmp h
      rw [hcmp] at h
      cases h
      exact ⟨hcmp, by omega, by omega⟩
  | case4 left right hlr =>
      rw [searchFrom, if_neg hlr] at h
      cases h

section Sorted

variable {β : Type*} [LinearOrder β] (key : α → β)

/-- In a list sorted by `key`, an element at a smaller index has a key no
larger. -/
theorem key_le_of_le {xs : List α} (hs : xs.Pairwise (fun a b => key a ≤ key b)) {i j : Nat}
    (hij : i ≤ j) (hj : j < xs.length) :
    key xs[i]! ≤ key xs[j]! := by
  rw [getElem!_pos xs i (by omega), getElem!_pos xs j hj]
  rcases Nat.lt_or_eq_of_le hij with hlt | rfl
  · exact List.pairwise_iff_getElem.mp hs i j (by omega) hj hlt
  · exact le_rfl

/-- On a list sorted by `key`, the search of `[left, right)` for a key that
one of its elements has is a hit. The element stays in the range the search
narrows: a probe below the key moves `left` past the probe, which lies
before the element, and a probe above it moves `right` to the probe. -/
theorem searchFrom_ok_of_mem {xs : List α} (hs : xs.Pairwise (fun a b => key a ≤ key b))
    (k : β) {left right i : Nat} (hr : right ≤ xs.length) (hl : left ≤ i) (hir : i < right)
    (hk : key xs[i]! = k) :
    ∃ j, searchFrom (fun a => compare (key a) k) xs left right = .ok j := by
  induction left, right using searchFrom.induct (fun a => compare (key a) k) xs with
  | case1 left right hlr mid hcmp ih =>
      rw [searchFrom, if_pos hlr]
      simp only at hcmp ⊢
      rw [hcmp]
      have hlt : key xs[left + (right - left) / 2]! < k := compare_lt_iff_lt.mp hcmp
      -- the element lies past the probe
      have hmid : left + (right - left) / 2 < i := by
        by_contra hle
        have := key_le_of_le key hs (Nat.le_of_not_lt hle) (by omega)
        rw [hk] at this
        exact absurd hlt (not_lt.mpr this)
      exact ih hr (by omega) hir
  | case2 left right hlr mid hcmp ih =>
      rw [searchFrom, if_pos hlr]
      simp only at hcmp ⊢
      rw [hcmp]
      have hgt : k < key xs[left + (right - left) / 2]! := compare_gt_iff_gt.mp hcmp
      -- the element lies before the probe
      have hmid : i < left + (right - left) / 2 := by
        by_contra hle
        have := key_le_of_le key hs (Nat.le_of_not_lt hle) (by omega)
        rw [hk] at this
        exact absurd hgt (not_lt.mpr this)
      exact ih (by omega) hl hmid
  | case3 left right hlr mid hcmp =>
      rw [searchFrom, if_pos hlr]
      simp only at hcmp ⊢
      rw [hcmp]
      exact ⟨_, rfl⟩
  | case4 left right hlr => exact absurd (by omega) hlr

/-- `binary_search_by` on a list sorted by `key` finds a key that one of its
elements has. -/
theorem binarySearchBy_ok_of_mem {xs : List α} (hs : xs.Pairwise (fun a b => key a ≤ key b))
    {a : α} (ha : a ∈ xs) : ∃ j, binarySearchBy (fun x => compare (key x) (key a)) xs = .ok j := by
  obtain ⟨i, hi, rfl⟩ := List.getElem_of_mem ha
  exact searchFrom_ok_of_mem key hs _ le_rfl (Nat.zero_le i) hi (by rw [getElem!_pos xs i hi])

/-- On a sorted list the search hits exactly the keys the list holds. -/
theorem binarySearchBy_isOk_iff {xs : List α} (hs : xs.Pairwise (fun a b => key a ≤ key b)) (k : β) :
    (binarySearchBy (fun x => compare (key x) k) xs).isOk = true ↔ ∃ a ∈ xs, key a = k := by
  constructor
  · intro hok
    cases h : binarySearchBy (fun x => compare (key x) k) xs with
    | error i =>
        rw [h] at hok
        cases hok
    | ok j =>
        obtain ⟨heq, -, hj⟩ := searchFrom_eq_of_ok h
        refine ⟨xs[j]!, ?_, compare_eq_iff_eq.mp heq⟩
        rw [getElem!_pos xs j hj]
        exact List.getElem_mem hj
  · rintro ⟨a, ha, rfl⟩
    obtain ⟨j, hj⟩ := binarySearchBy_ok_of_mem key hs ha
    rw [hj]
    rfl

end Sorted

end BinarySearch
