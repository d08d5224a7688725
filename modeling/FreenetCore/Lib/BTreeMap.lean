import Mathlib

/-!
Ordered maps (`std::collections::BTreeMap`), as the list of their entries
in increasing order of their keys.

The tree is not modelled: what a program observes of the map (a lookup, an
insertion that replaces the value of a key it holds, a removal, the
iteration in key order, and the ranges below a key and from a key) is a
function of the entries. The keys are strictly increasing, which the
structure carries, so that a key has at most one entry.

Insertion is a single pass that replaces on collision, so that the lookup
lemmas hold of any entry list, sorted or not; only the sums of the values
and the order facts of the ranges need the keys sorted.
-/

/-- A `BTreeMap`: its entries in increasing order of their keys. -/
structure BTreeMap (κ : Type*) [LinearOrder κ] (ν : Type*) where
  entries : List (κ × ν)
  sorted : entries.Pairwise (fun a b => a.1 < b.1)

namespace BTreeMap

variable {κ ν : Type*} [LinearOrder κ]

/-! ### Entry lists -/

/-- Insertion into an entry list in key order, replacing the entry of the
key if it has one. -/
def insertEntry (k : κ) (v : ν) : List (κ × ν) → List (κ × ν)
  | [] => [(k, v)]
  | e :: rest =>
      if k < e.1 then (k, v) :: e :: rest
      else if k = e.1 then (k, v) :: rest
      else e :: insertEntry k v rest

theorem mem_insertEntry {k : κ} {v : ν} {l : List (κ × ν)} {a : κ × ν}
    (h : a ∈ insertEntry k v l) : a = (k, v) ∨ a ∈ l := by
  induction l with
  | nil => simpa [insertEntry] using h
  | cons e rest ih =>
      rw [insertEntry] at h
      split_ifs at h <;> grind

theorem pairwise_insertEntry (k : κ) (v : ν) {l : List (κ × ν)}
    (h : l.Pairwise (fun a b => a.1 < b.1)) :
    (insertEntry k v l).Pairwise (fun a b => a.1 < b.1) := by
  induction l with
  | nil => simp [insertEntry]
  | cons e rest ih =>
      rw [List.pairwise_cons] at h
      rw [insertEntry]
      split_ifs with hlt heq
      · -- the new key comes first, below `e` and so below the rest
        refine List.Pairwise.cons (fun a ha => ?_) (List.Pairwise.cons h.1 h.2)
        rcases List.mem_cons.mp ha with rfl | ha
        · exact hlt
        · exact hlt.trans (h.1 a ha)
      · subst heq
        exact List.Pairwise.cons h.1 h.2
      · refine List.Pairwise.cons (fun a ha => ?_) (ih h.2)
        rcases mem_insertEntry ha with rfl | ha
        · exact lt_of_le_of_ne (not_lt.mp hlt) (Ne.symm heq)
        · exact h.1 a ha

theorem lookup_cons_ite (k k' : κ) (v : ν) (l : List (κ × ν)) :
    ((k, v) :: l).lookup k' = if k' = k then some v else l.lookup k' := by
  by_cases h : k' = k
  · subst h
    simp
  · simp [List.lookup, beq_false_of_ne h, h]

theorem lookup_insertEntry (k k' : κ) (v : ν) (l : List (κ × ν)) :
    (insertEntry k v l).lookup k' = if k' = k then some v else l.lookup k' := by
  induction l with
  | nil => simp [insertEntry, lookup_cons_ite]
  | cons e rest ih =>
      rw [insertEntry]
      by_cases hlt : k < e.1
      · rw [if_pos hlt, lookup_cons_ite]
      · rw [if_neg hlt]
        by_cases heq : k = e.1
        · subst heq
          rw [if_pos rfl, lookup_cons_ite, lookup_cons_ite]
          split_ifs <;> rfl
        · rw [if_neg heq, lookup_cons_ite, lookup_cons_ite, ih]
          by_cases h : k' = e.1
          · subst h
            have hk : e.1 ≠ k := fun h' => heq h'.symm
            simp [hk]
          · simp [h]

/-- In a list sorted by key, a key below the first has no entry. -/
theorem lookup_eq_none_of_lt {k : κ} {l : List (κ × ν)}
    (h : ∀ a ∈ l, k < a.1) : l.lookup k = none := by
  induction l with
  | nil => rfl
  | cons e rest ih =>
      have hne : k ≠ e.1 := ne_of_lt (h e List.mem_cons_self)
      rw [lookup_cons_ite, if_neg hne]
      exact ih fun a ha => h a (List.mem_cons_of_mem e ha)

/-! ### Operations -/

/-- `BTreeMap::new`. -/
def empty : BTreeMap κ ν := ⟨[], List.Pairwise.nil⟩

/-- `BTreeMap::get`. -/
def get? (m : BTreeMap κ ν) (k : κ) : Option ν := m.entries.lookup k

/-- `BTreeMap::insert`. -/
def insert (m : BTreeMap κ ν) (k : κ) (v : ν) : BTreeMap κ ν :=
  ⟨insertEntry k v m.entries, pairwise_insertEntry k v m.sorted⟩

/-- `BTreeMap::remove`. -/
def remove (m : BTreeMap κ ν) (k : κ) : BTreeMap κ ν :=
  ⟨m.entries.filter (·.1 ≠ k), m.sorted.filter _⟩

/-- `BTreeMap::len`. -/
def len (m : BTreeMap κ ν) : Nat := m.entries.length

/-- `BTreeMap::keys`, in increasing order. -/
def keys (m : BTreeMap κ ν) : List κ := m.entries.map (·.1)

/-- `BTreeMap::values`, in the order of their keys. -/
def values (m : BTreeMap κ ν) : List ν := m.entries.map (·.2)

/-- `iter().next()`: the entry of the least key. -/
def first? (m : BTreeMap κ ν) : Option (κ × ν) := m.entries.head?

/-- `iter().next_back()`: the entry of the greatest key. -/
def last? (m : BTreeMap κ ν) : Option (κ × ν) := m.entries.getLast?

/-- `range(..k).next_back()`: the entry of the greatest key below `k`. -/
def lastBelow? (m : BTreeMap κ ν) (k : κ) : Option (κ × ν) :=
  (m.entries.filter (·.1 < k)).getLast?

/-- `range(k..).next()`: the entry of the least key from `k` on. -/
def firstFrom? (m : BTreeMap κ ν) (k : κ) : Option (κ × ν) :=
  m.entries.find? (k ≤ ·.1)

/-- `split_off(&k)`: the map keeps the entries below `k` (the first
component) and returns those from `k` on. -/
def splitOff (m : BTreeMap κ ν) (k : κ) : BTreeMap κ ν × BTreeMap κ ν :=
  (⟨m.entries.filter (·.1 < k), m.sorted.filter _⟩, ⟨m.entries.filter (k ≤ ·.1), m.sorted.filter _⟩)

/-- `iter().map(|(k, v)| (*k, f(v)))`, collected into a map. -/
def mapValues {μ : Type*} (m : BTreeMap κ ν) (f : ν → μ) : BTreeMap κ μ :=
  ⟨m.entries.map fun e => (e.1, f e.2), List.pairwise_map.mpr m.sorted⟩

/-- `iter().filter(p)`, collected into a map. -/
def filter (m : BTreeMap κ ν) (p : κ × ν → Bool) : BTreeMap κ ν :=
  ⟨m.entries.filter p, m.sorted.filter _⟩

/-- `*m.entry(k).or_insert(0) += c`. -/
def addTo [Add ν] [Zero ν] (m : BTreeMap κ ν) (k : κ) (c : ν) : BTreeMap κ ν :=
  m.insert k ((m.get? k).getD 0 + c)

/-! ### Lookups -/

@[simp] theorem get?_empty (k : κ) : (empty : BTreeMap κ ν).get? k = none := rfl

@[simp] theorem get?_insert (m : BTreeMap κ ν) (k k' : κ) (v : ν) :
    (m.insert k v).get? k' = if k' = k then some v else m.get? k' :=
  lookup_insertEntry k k' v m.entries

@[simp] theorem get?_remove (m : BTreeMap κ ν) (k k' : κ) :
    (m.remove k).get? k' = if k' = k then none else m.get? k' := by
  simp only [remove, get?]
  induction m.entries with
  | nil => simp
  | cons e rest ih =>
      obtain ⟨k₀, v₀⟩ := e
      by_cases he : k₀ = k
      · subst he
        rw [List.filter_cons_of_neg (by simp), ih, lookup_cons_ite]
        by_cases h : k' = k₀ <;> simp [h]
      · rw [List.filter_cons_of_pos (by simpa using he), lookup_cons_ite, lookup_cons_ite, ih]
        by_cases h : k' = k₀
        · subst h
          simp [he]
        · simp [h]

@[simp] theorem get?_addTo [Add ν] [Zero ν] (m : BTreeMap κ ν) (k k' : κ) (c : ν) :
    (m.addTo k c).get? k' = if k' = k then some ((m.get? k).getD 0 + c) else m.get? k' :=
  get?_insert m k k' _

theorem mem_keys_iff (m : BTreeMap κ ν) (k : κ) : k ∈ m.keys ↔ (m.get? k).isSome := by
  simp only [keys, get?]
  induction m.entries with
  | nil => simp
  | cons e rest ih =>
      obtain ⟨k₀, v₀⟩ := e
      by_cases h : k = k₀ <;> simp [lookup_cons_ite, h, ih]

theorem mem_keys_of_mem {m : BTreeMap κ ν} {e : κ × ν} (h : e ∈ m.entries) : e.1 ∈ m.keys :=
  List.mem_map_of_mem h

/-- An entry of the map is what a lookup of its key gives. -/
theorem get?_of_mem {m : BTreeMap κ ν} {e : κ × ν} (h : e ∈ m.entries) : m.get? e.1 = some e.2 := by
  obtain ⟨pre, post, hsplit⟩ := List.append_of_mem h
  have hs := m.sorted
  rw [hsplit, List.pairwise_append] at hs
  -- the keys before `e` are all below it
  have hpre : ∀ a ∈ pre, a.1 ≠ e.1 := fun a ha => ne_of_lt (hs.2.2 a ha e List.mem_cons_self)
  simp only [get?, hsplit]
  clear hsplit hs
  induction pre with
  | nil => rw [List.nil_append, lookup_cons_ite, if_pos rfl]
  | cons a pre ih =>
      have ha : e.1 ≠ a.1 := Ne.symm (hpre a List.mem_cons_self)
      rw [List.cons_append, lookup_cons_ite, if_neg ha]
      exact ih fun b hb => hpre b (List.mem_cons_of_mem a hb)

/-! ### Sums of the values -/

section Sum

variable [AddCancelCommMonoid ν]

/-- What an insertion does to the sum of the values: the new value in, the
old one out. -/
theorem sum_insert (m : BTreeMap κ ν) (k : κ) (v : ν) :
    (m.insert k v).values.sum + (m.get? k).getD 0 = m.values.sum + v := by
  obtain ⟨l, hl⟩ := m
  simp only [values, insert, get?]
  induction hl with
  | nil => simp [insertEntry]
  | @cons e rest hlt _ ih =>
      rw [insertEntry]
      split_ifs with hk heq
      · -- below every key: there was no entry
        have hnone : (e :: rest).lookup k = none :=
          lookup_eq_none_of_lt fun a ha => by
            rcases List.mem_cons.mp ha with rfl | ha
            · exact hk
            · exact hk.trans (hlt a ha)
        simp only [hnone, Option.getD_none, List.map_cons, List.sum_cons, add_zero]
        abel
      · subst heq
        rw [lookup_cons_ite, if_pos rfl, Option.getD_some]
        simp only [List.map_cons, List.sum_cons]
        abel
      · simp only [List.map_cons, List.sum_cons]
        rw [lookup_cons_ite, if_neg heq, add_assoc, ih, add_assoc]

theorem sum_addTo (m : BTreeMap κ ν) (k : κ) (c : ν) :
    (m.addTo k c).values.sum = m.values.sum + c := by
  have h := sum_insert m k ((m.get? k).getD 0 + c)
  rw [show m.values.sum + ((m.get? k).getD 0 + c) = (m.values.sum + c) + (m.get? k).getD 0 by
    abel] at h
  exact add_right_cancel h

/-- Adding a weight for each element of a list at the key the element is
sent to: each key gets the weights of the elements sent to it, and the
values grow by all of them. -/
theorem get?_foldl_addTo {α : Type*} (f : α → κ) (g : α → ν) (l : List α) (m : BTreeMap κ ν)
    (k : κ) :
    ((l.foldl (fun m a => m.addTo (f a) (g a)) m).get? k).getD 0 =
      (m.get? k).getD 0 + ((l.filter (f · = k)).map g).sum := by
  induction l generalizing m with
  | nil => simp
  | cons a l ih =>
      rw [List.foldl_cons, ih, get?_addTo]
      by_cases h : k = f a
      · subst h
        simp [add_assoc]
      · have h' : ¬ f a = k := Ne.symm h
        simp [h, h']

theorem sum_foldl_addTo {α : Type*} (f : α → κ) (g : α → ν) (l : List α) (m : BTreeMap κ ν) :
    (l.foldl (fun m a => m.addTo (f a) (g a)) m).values.sum = m.values.sum + (l.map g).sum := by
  induction l generalizing m with
  | nil => simp
  | cons a l ih => rw [List.foldl_cons, ih, sum_addTo, List.map_cons, List.sum_cons, add_assoc]

theorem mem_keys_foldl_addTo {α : Type*} (f : α → κ) (g : α → ν) {l : List α}
    {m : BTreeMap κ ν} {k : κ} (h : k ∈ (l.foldl (fun m a => m.addTo (f a) (g a)) m).keys) :
    k ∈ m.keys ∨ ∃ a ∈ l, f a = k := by
  induction l generalizing m with
  | nil => exact Or.inl h
  | cons a l ih =>
      rcases ih h with hk | ⟨b, hb, rfl⟩
      · rw [mem_keys_iff, get?_addTo] at hk
        split_ifs at hk with hka
        · exact Or.inr ⟨a, List.mem_cons_self, hka.symm⟩
        · exact Or.inl ((mem_keys_iff m k).mpr hk)
      · exact Or.inr ⟨b, List.mem_cons_of_mem a hb, rfl⟩

end Sum

/-! ### Order -/

/-- In a list sorted by key, the last entry has the greatest key. -/
theorem le_of_getLast? {l : List (κ × ν)} (hs : l.Pairwise (fun a b => a.1 < b.1)) {e : κ × ν}
    (h : l.getLast? = some e) : ∀ a ∈ l, a.1 ≤ e.1 := by
  obtain ⟨pre, rfl⟩ := List.getLast?_eq_some_iff.mp h
  intro a ha
  rcases List.mem_append.mp ha with ha | ha
  · exact le_of_lt ((List.pairwise_append.mp hs).2.2 a ha e (List.mem_singleton_self e))
  · rw [List.mem_singleton.mp ha]

theorem first?_eq_some {m : BTreeMap κ ν} {e : κ × ν} (h : m.first? = some e) :
    e ∈ m.entries ∧ ∀ a ∈ m.entries, e.1 ≤ a.1 := by
  unfold first? at h
  obtain ⟨rest, hrest⟩ := List.head?_eq_some_iff.mp h
  have hs := m.sorted
  rw [hrest, List.pairwise_cons] at hs
  refine ⟨hrest ▸ List.mem_cons_self, fun a ha => ?_⟩
  rw [hrest] at ha
  rcases List.mem_cons.mp ha with rfl | ha
  · exact le_rfl
  · exact le_of_lt (hs.1 a ha)

theorem last?_eq_some {m : BTreeMap κ ν} {e : κ × ν} (h : m.last? = some e) :
    e ∈ m.entries ∧ ∀ a ∈ m.entries, a.1 ≤ e.1 :=
  ⟨List.mem_of_getLast? h, le_of_getLast? m.sorted h⟩

theorem first?_isSome {m : BTreeMap κ ν} (h : m.entries ≠ []) : m.first?.isSome := by
  simpa [first?, List.isSome_head?] using h

theorem last?_isSome {m : BTreeMap κ ν} (h : m.entries ≠ []) : m.last?.isSome := by
  simpa [last?, List.getLast?_isSome] using h

theorem lastBelow?_eq_some {m : BTreeMap κ ν} {k : κ} {e : κ × ν} (h : m.lastBelow? k = some e) :
    e ∈ m.entries ∧ e.1 < k ∧ ∀ a ∈ m.entries, a.1 < k → a.1 ≤ e.1 := by
  have hmem := List.mem_of_getLast? h
  rw [List.mem_filter, decide_eq_true_eq] at hmem
  refine ⟨hmem.1, hmem.2, fun a ha hak => ?_⟩
  exact le_of_getLast? (m.sorted.filter _) h a (List.mem_filter.mpr ⟨ha, by simpa using hak⟩)

theorem lastBelow?_eq_none {m : BTreeMap κ ν} {k : κ} (h : m.lastBelow? k = none) :
    ∀ a ∈ m.entries, k ≤ a.1 := by
  intro a ha
  rw [lastBelow?, List.getLast?_eq_none_iff, List.filter_eq_nil_iff] at h
  simpa using h a ha

theorem firstFrom?_eq_some {m : BTreeMap κ ν} {k : κ} {e : κ × ν} (h : m.firstFrom? k = some e) :
    e ∈ m.entries ∧ k ≤ e.1 ∧ ∀ a ∈ m.entries, k ≤ a.1 → e.1 ≤ a.1 := by
  obtain ⟨he, pre, post, hsplit, hpre⟩ := List.find?_eq_some_iff_append.mp h
  have hs := m.sorted
  rw [hsplit, List.pairwise_append, List.pairwise_cons] at hs
  refine ⟨hsplit ▸ List.mem_append_right pre List.mem_cons_self, by simpa using he,
    fun a ha hka => ?_⟩
  rw [hsplit] at ha
  rcases List.mem_append.mp ha with ha | ha
  · -- the entries before `e` are all below `k`
    have := hpre a ha
    simp only [Bool.not_eq_eq_eq_not, Bool.not_true, decide_eq_false_iff_not, not_le] at this
    exact absurd hka (not_le.mpr this)
  · rcases List.mem_cons.mp ha with rfl | ha
    · exact le_rfl
    · exact le_of_lt (hs.2.1.1 a ha)

theorem firstFrom?_eq_none {m : BTreeMap κ ν} {k : κ} (h : m.firstFrom? k = none) :
    ∀ a ∈ m.entries, a.1 < k := by
  intro a ha
  simpa using List.find?_eq_none.mp h a ha

end BTreeMap
