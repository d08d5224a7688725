import Mathlib

/-!
Max-heaps (`std::collections::BinaryHeap`) at their interface: the elements
a heap holds, as a list. `pop` takes out a greatest element and
`into_sorted_vec` returns the elements in increasing order; nothing else of
the array's layout is observable.

A heap of capacity `k`, pushed each element of a sequence in turn and popped
once whenever it holds more than `k` (`pushBounded`), keeps `k` least
elements of the sequence (`topK_foldl`). Which ones is told by a count: for
every threshold `t`, the heap holds `min k c` elements below `t`, where the
sequence has `c`. From it, no element left out is below one kept
(`mem_of_lt_of_mem`).
-/

/-- A `BinaryHeap`, as the elements it holds. -/
structure BinaryHeap (α : Type*) where
  data : List α

namespace BinaryHeap

variable {α : Type*} [LinearOrder α]

/-- `BinaryHeap::new`, and `with_capacity` of any capacity. -/
def empty : BinaryHeap α := ⟨[]⟩

/-- `BinaryHeap::push`. -/
def push (h : BinaryHeap α) (x : α) : BinaryHeap α := ⟨h.data ++ [x]⟩

/-- `BinaryHeap::len`. -/
def len (h : BinaryHeap α) : Nat := h.data.length

/-- `BinaryHeap::pop`: a greatest element, taken out. -/
def pop (h : BinaryHeap α) : Option α × BinaryHeap α :=
  match h.data.max? with
  | none => (none, h)
  | some m => (some m, ⟨h.data.erase m⟩)

/-- `BinaryHeap::into_sorted_vec`: the elements in increasing order. -/
def intoSortedVec (h : BinaryHeap α) : List α := h.data.insertionSort (· ≤ ·)

/-- Push, then pop once if the heap holds more than `k`. -/
def pushBounded (k : Nat) (h : BinaryHeap α) (x : α) : BinaryHeap α :=
  let h := h.push x
  if k < h.len then h.pop.2 else h

theorem pairwise_intoSortedVec (h : BinaryHeap α) : h.intoSortedVec.Pairwise (· ≤ ·) :=
  List.pairwise_insertionSort _ _

theorem mem_intoSortedVec {h : BinaryHeap α} {a : α} : a ∈ h.intoSortedVec ↔ a ∈ h.data :=
  List.mem_insertionSort _

theorem length_intoSortedVec (h : BinaryHeap α) : h.intoSortedVec.length = h.data.length :=
  List.length_insertionSort _ _

/-- `pop` on a non-empty heap takes out one greatest element. -/
theorem pop_data {h : BinaryHeap α} (hne : h.data ≠ []) :
    ∃ m ∈ h.data, (∀ b ∈ h.data, b ≤ m) ∧ h.pop.2.data = h.data.erase m := by
  cases hmax : h.data.max? with
  | none => exact absurd (List.max?_eq_none_iff.mp hmax) hne
  | some m =>
      obtain ⟨hm, hle⟩ := List.max?_eq_some_iff.mp hmax
      exact ⟨m, hm, hle, by simp [pop, hmax]⟩

/-! ### Bounded selection -/

/-- The heap keeps `k` least elements of `xs`: some of them, as many as
`k` allows, and for every threshold as many below it as `k` allows. -/
structure TopK (k : Nat) (xs : List α) (h : BinaryHeap α) : Prop where
  subperm : h.data.Subperm xs
  length : h.data.length = min k xs.length
  countP_lt : ∀ t, h.data.countP (· < t) = min k (xs.countP (· < t))

theorem topK_nil (k : Nat) : TopK k [] (empty : BinaryHeap α) :=
  ⟨List.Subperm.refl _, by simp [empty], fun _ => by simp [empty]⟩

/-- Below the capacity the heap holds the whole sequence. -/
theorem TopK.perm_of_length_lt {k : Nat} {xs : List α} {h : BinaryHeap α} (hk : TopK k xs h)
    (hlt : h.data.length < k) : h.data.Perm xs :=
  hk.subperm.perm_of_length_le (by have := hk.length; omega)

/-- One more element, pushed and popped at the capacity. -/
theorem TopK.pushBounded {k : Nat} {xs : List α} {h : BinaryHeap α} (hk : TopK k xs h) (x : α) :
    TopK k (xs ++ [x]) (h.pushBounded k x) := by
  have hlen := hk.length
  unfold BinaryHeap.pushBounded
  by_cases hover : k < (h.push x).len
  · -- at the capacity: a greatest of the `k + 1` elements leaves
    rw [if_pos hover]
    have hne : (h.push x).data ≠ [] := by simp [push]
    obtain ⟨m, hm, hmax, hpop⟩ := pop_data hne
    have hk' : h.data.length = k := by simp [len, push] at hover; omega
    have hxs : k ≤ xs.length := by omega
    refine ⟨?_, ?_, fun t => ?_⟩
    · rw [hpop]
      exact List.erase_sublist.subperm.trans ((List.subperm_append_right [x]).mpr hk.subperm)
    · rw [hpop, List.length_erase_of_mem hm]
      simp [push, List.length_append]
      omega
    · have hc := hk.countP_lt t
      have hlen1 : (h.push x).data.length = k + 1 := by simp [push]; omega
      have hle1 : (h.push x).data.countP (· < t) ≤ k + 1 := hlen1 ▸ List.countP_le_length
      -- below `t`, the greatest leaves only if all `k + 1` are below `t`
      have hall : m < t → (h.push x).data.countP (· < t) = k + 1 := fun hmt => by
        rw [← hlen1, List.countP_eq_length]
        intro b hb
        simpa using lt_of_le_of_lt (hmax b hb) hmt
      have hsome : ¬ m < t → (h.push x).data.countP (· < t) < k + 1 := fun hmt => by
        rw [← hlen1]
        refine lt_of_le_of_ne List.countP_le_length fun heq => hmt ?_
        simpa using List.countP_eq_length.mp heq m hm
      rw [hpop, List.countP_erase]
      by_cases hxt : x < t
      · have hxs1 : (xs ++ [x]).countP (· < t) = xs.countP (· < t) + 1 := by
          simp [List.countP_append, hxt]
        have h1 : (h.push x).data.countP (· < t) = min k (xs.countP (· < t)) + 1 := by
          simp [push, List.countP_append, hc, hxt]
        rw [hxs1]
        by_cases hmt : m < t
        · rw [if_pos ⟨hm, decide_eq_true hmt⟩]
          have := hall hmt
          omega
        · rw [if_neg fun h => hmt (of_decide_eq_true h.2)]
          have := hsome hmt
          omega
      · have hxs1 : (xs ++ [x]).countP (· < t) = xs.countP (· < t) := by
          simp [List.countP_append, hxt]
        have h1 : (h.push x).data.countP (· < t) = min k (xs.countP (· < t)) := by
          simp [push, List.countP_append, hc, hxt]
        -- `x` is one of them and not below `t`, so neither is the greatest
        have hmt : ¬ m < t := fun hmt =>
          hxt (lt_of_le_of_lt (hmax x (by simp [push])) hmt)
        rw [hxs1, if_neg fun h => hmt (of_decide_eq_true h.2), h1]
        rfl
  · rw [if_neg hover]
    have hlt : h.data.length < k := by simp [len, push] at hover; omega
    have hperm := hk.perm_of_length_lt hlt
    refine ⟨(List.subperm_append_right [x]).mpr hk.subperm, by simp [push]; omega, fun t => ?_⟩
    have hc : h.data.countP (· < t) = xs.countP (· < t) := hperm.countP_eq _
    have hcle : xs.countP (· < t) ≤ xs.length := List.countP_le_length
    have : (xs.length : Nat) = h.data.length := hperm.length_eq.symm
    by_cases hxt : x < t <;> simp [push, List.countP_append, hc, hxt] <;> omega

/-- Each element of a sequence pushed in turn into an empty heap of
capacity `k`. -/
theorem topK_foldl (k : Nat) (xs : List α) : TopK k xs (xs.foldl (pushBounded k) empty) := by
  induction xs using List.reverseRecOn with
  | nil => exact topK_nil k
  | append_singleton xs x ih =>
      rw [List.foldl_append, List.foldl_cons, List.foldl_nil]
      exact ih.pushBounded x

/-- An element of the sequence below one the heap keeps is kept. -/
theorem TopK.mem_of_lt_of_mem {k : Nat} {xs : List α} {h : BinaryHeap α} (hk : TopK k xs h)
    {a b : α} (ha : a ∈ h.data) (hb : b ∈ xs) (hba : b < a) : b ∈ h.data := by
  -- `a` is kept and not below itself, so fewer than `k` kept ones are below it
  have hlt : h.data.countP (· < a) < k := by
    have h1 : h.data.countP (· < a) < h.data.length :=
      lt_of_le_of_ne List.countP_le_length fun heq => by
        simpa using List.countP_eq_length.mp heq a ha
    have := hk.length
    omega
  -- and so all of the sequence's below `a` are kept
  have heq : h.data.countP (· < a) = xs.countP (· < a) := by
    have := hk.countP_lt a
    omega
  have hperm : (h.data.filter (· < a)).Perm (xs.filter (· < a)) :=
    (hk.subperm.filter _).perm_of_length_le (by
      rw [← List.countP_eq_length_filter, ← List.countP_eq_length_filter, heq])
  have hbf : b ∈ xs.filter (· < a) := List.mem_filter.mpr ⟨hb, by simpa using hba⟩
  exact (List.mem_filter.mp (hperm.mem_iff.mpr hbf)).1

end BinaryHeap
