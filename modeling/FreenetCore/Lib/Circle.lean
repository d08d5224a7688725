import Mathlib

/-!
Points of a circle of circumference one, as the numbers of `[0, 1]`, with
`0` and `1` the same point, and their distance the short way round.

Of a finite set of points of the circle, the nearest to a point `x` is one
of its two cyclic neighbours: the greatest point below `x`, or the greatest
of all when there is none below; and the least point from `x` on, or the
least of all when there is none above (`min_arcDist_neighbours_le`). Only
the points of the set need to lie in `[0, 1]`.
-/

namespace Circle

variable {α : Type*} [Field α] [LinearOrder α] [IsStrictOrderedRing α]

/-- The distance between two points of the circle, the short way round. -/
def arcDist (a b : α) : α := min |a - b| (1 - |a - b|)

omit [IsStrictOrderedRing α] in
theorem arcDist_le_abs (a b : α) : arcDist a b ≤ |a - b| := min_le_left _ _

omit [IsStrictOrderedRing α] in
theorem arcDist_le_one_sub (a b : α) : arcDist a b ≤ 1 - |a - b| := min_le_right _ _

/-- `p` is the cyclic predecessor of `x` in `K`: the greatest point of `K`
below `x`, or the greatest of `K` when none is below. -/
def IsCyclicPred (K : Set α) (x p : α) : Prop :=
  p ∈ K ∧ ((p < x ∧ ∀ k ∈ K, k < x → k ≤ p) ∨ ((∀ k ∈ K, x ≤ k) ∧ ∀ k ∈ K, k ≤ p))

/-- `s` is the cyclic successor of `x` in `K`: the least point of `K` from
`x` on, or the least of `K` when none is. -/
def IsCyclicSucc (K : Set α) (x s : α) : Prop :=
  s ∈ K ∧ ((x ≤ s ∧ ∀ k ∈ K, x ≤ k → s ≤ k) ∨ ((∀ k ∈ K, k < x) ∧ ∀ k ∈ K, s ≤ k))

section Neighbours

variable {K : Set α} {x p s n : α}

/-- A point below `x` is no nearer the short way than the predecessor, and
the way round through `0` it is no nearer than the successor. -/
theorem min_arcDist_le_of_lt (hK : ∀ k ∈ K, 0 ≤ k ∧ k ≤ 1)
    (hp : IsCyclicPred K x p) (hs : IsCyclicSucc K x s) (hn : n ∈ K) (hnx : n < x) :
    min (arcDist x p) (arcDist x s) ≤ arcDist x n := by
  have habs : |x - n| = x - n := abs_of_pos (sub_pos.mpr hnx)
  -- with `n` below `x`, the predecessor lies between them
  obtain ⟨hpK, ⟨hpx, hpmax⟩ | ⟨hall, -⟩⟩ := hp
  swap
  · exact absurd (hall n hn) (not_le.mpr hnx)
  have hnp : n ≤ p := hpmax n hn hnx
  refine le_min ?_ ?_
  · calc min (arcDist x p) (arcDist x s) ≤ arcDist x p := min_le_left _ _
      _ ≤ |x - p| := arcDist_le_abs x p
      _ = x - p := abs_of_pos (sub_pos.mpr hpx)
      _ ≤ x - n := by linarith
      _ = |x - n| := habs.symm
  · rw [habs]
    obtain ⟨hsK, ⟨hxs, -⟩ | ⟨-, hsmin⟩⟩ := hs
    · -- the successor is above `x`: the way from `x` up to it is short
      calc min (arcDist x p) (arcDist x s) ≤ arcDist x s := min_le_right _ _
        _ ≤ |x - s| := arcDist_le_abs x s
        _ = s - x := by rw [abs_sub_comm]; exact abs_of_nonneg (sub_nonneg.mpr hxs)
        _ ≤ 1 - (x - n) := by linarith [(hK s hsK).2, (hK n hn).1]
    · -- no point from `x` on: the successor is the least point, at or below `n`
      have hsn : s ≤ n := hsmin n hn
      calc min (arcDist x p) (arcDist x s) ≤ arcDist x s := min_le_right _ _
        _ ≤ 1 - |x - s| := arcDist_le_one_sub x s
        _ = 1 - (x - s) := by rw [abs_of_nonneg (by linarith)]
        _ ≤ 1 - (x - n) := by linarith

/-- A point from `x` on is no nearer the short way than the successor, and
the way round through `1` it is no nearer than the predecessor. -/
theorem min_arcDist_le_of_le (hK : ∀ k ∈ K, 0 ≤ k ∧ k ≤ 1)
    (hp : IsCyclicPred K x p) (hs : IsCyclicSucc K x s) (hn : n ∈ K) (hxn : x ≤ n) :
    min (arcDist x p) (arcDist x s) ≤ arcDist x n := by
  have habs : |x - n| = n - x := by rw [abs_sub_comm]; exact abs_of_nonneg (sub_nonneg.mpr hxn)
  -- with `n` from `x` on, the successor lies between them
  obtain ⟨hsK, ⟨hxs, hsmin⟩ | ⟨hall, -⟩⟩ := hs
  swap
  · exact absurd (hall n hn) (not_lt.mpr hxn)
  have hsn : s ≤ n := hsmin n hn hxn
  refine le_min ?_ ?_
  · calc min (arcDist x p) (arcDist x s) ≤ arcDist x s := min_le_right _ _
      _ ≤ |x - s| := arcDist_le_abs x s
      _ = s - x := by rw [abs_sub_comm]; exact abs_of_nonneg (sub_nonneg.mpr hxs)
      _ ≤ n - x := by linarith
      _ = |x - n| := habs.symm
  · rw [habs]
    obtain ⟨hpK, ⟨hpx, -⟩ | ⟨-, hpmax⟩⟩ := hp
    · -- the predecessor is below `x`: the way from it up to `x` is short
      calc min (arcDist x p) (arcDist x s) ≤ arcDist x p := min_le_left _ _
        _ ≤ |x - p| := arcDist_le_abs x p
        _ = x - p := abs_of_pos (sub_pos.mpr hpx)
        _ ≤ 1 - (n - x) := by linarith [(hK p hpK).1, (hK n hn).2]
    · -- no point below `x`: the predecessor is the greatest point, at or above `n`
      have hnp : n ≤ p := hpmax n hn
      calc min (arcDist x p) (arcDist x s) ≤ arcDist x p := min_le_left _ _
        _ ≤ 1 - |x - p| := arcDist_le_one_sub x p
        _ = 1 - (p - x) := by rw [abs_sub_comm, abs_of_nonneg (by linarith)]
        _ ≤ 1 - (n - x) := by linarith

/-- The nearer of the two cyclic neighbours of `x` is the nearest point of
`K` to `x`, wherever `x` lies. -/
theorem min_arcDist_neighbours_le (hK : ∀ k ∈ K, 0 ≤ k ∧ k ≤ 1)
    (hp : IsCyclicPred K x p) (hs : IsCyclicSucc K x s) (hn : n ∈ K) :
    min (arcDist x p) (arcDist x s) ≤ arcDist x n := by
  rcases lt_or_ge n x with hnx | hxn
  · exact min_arcDist_le_of_lt hK hp hs hn hnx
  · exact min_arcDist_le_of_le hK hp hs hn hxn

end Neighbours

end Circle
