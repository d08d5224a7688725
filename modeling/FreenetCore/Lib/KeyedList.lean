import Mathlib

/-!
A map kept as the list of its entries.

A `HashMap` whose operations a model has to follow entry by entry (its
iteration, a search by value) is the list of its entries; `get` is the
first entry with the key, and the list keeps its keys distinct. The lemmas
say when a search finds an entry, and what a map built by traversing its
keys with a fallible computation (`mapM` in `Option`) holds.
-/

namespace KeyedList

variable {α κ : Type*} [BEq κ] [LawfulBEq κ]

/-- In a list with distinct keys, the search for a key finds exactly the
entry with that key. -/
theorem find?_key_eq_some (key : α → κ) {l : List α} (hn : (l.map key).Nodup) (k : κ) (r : α) :
    l.find? (fun x => key x == k) = some r ↔ r ∈ l ∧ key r = k := by
  constructor
  · intro h
    exact ⟨List.mem_of_find?_eq_some h, by simpa using List.find?_some h⟩
  · rintro ⟨hr, rfl⟩
    have hsome : (l.find? (fun x => key x == key r)).isSome :=
      List.find?_isSome.mpr ⟨r, hr, by simp⟩
    obtain ⟨r', hr'⟩ := Option.isSome_iff_exists.mp hsome
    have hk : key r' = key r := by simpa using List.find?_some hr'
    rw [hr', List.inj_on_of_nodup_map hn (List.mem_of_find?_eq_some hr') hr hk]

/-- A search for a value finds it exactly when it is there. -/
theorem find?_beq_eq_some {l : List κ} {a b : κ} : l.find? (· == a) = some b ↔ b = a ∧ a ∈ l := by
  constructor
  · intro h
    have hb : b = a := by simpa using List.find?_some h
    exact ⟨hb, hb ▸ List.mem_of_find?_eq_some h⟩
  · rintro ⟨rfl, hb⟩
    have hsome : (l.find? (· == b)).isSome := List.find?_isSome.mpr ⟨b, hb, by simp⟩
    obtain ⟨r, hr⟩ := Option.isSome_iff_exists.mp hsome
    have hrb : r = b := by simpa using List.find?_some hr
    rw [hr, hrb]

/-- A map's entry set: in place where the key has an entry, else at the end. -/
def insert {ν : Type*} (l : List (κ × ν)) (k : κ) (v : ν) : List (κ × ν) :=
  if l.any (·.1 == k) then l.map fun e => if e.1 == k then (k, v) else e else l ++ [(k, v)]

/-- Taking a key's entries out leaves every other key's value. -/
theorem lookup_filter_ne {ν : Type*} (l : List (κ × ν)) {k k' : κ} (hk : k' ≠ k) :
    (l.filter (·.1 != k)).lookup k' = l.lookup k' := by
  induction l with
  | nil => rfl
  | cons e l ih =>
      obtain ⟨a, v⟩ := e
      by_cases ha : a = k
      · subst ha
        have hne : (k' == a) = false := beq_eq_false_iff_ne.mpr hk
        simp [List.lookup, hne, ih]
      · have hkeep : (a != k) = true := bne_iff_ne.mpr ha
        simp only [List.filter_cons, hkeep, if_true, List.lookup, ih]

/-! ### Maps built by `mapM` -/

section MapM

variable {β : Type*}

/-- A traversal that succeeds gives one result per element. -/
theorem length_mapM {f : α → Option β} {l : List α} {l' : List β} (h : l.mapM f = some l') :
    l'.length = l.length := by
  induction l generalizing l' with
  | nil => cases h; rfl
  | cons a l ih =>
      simp only [List.mapM_cons, Option.bind_eq_bind, Option.pure_def, Option.bind_eq_some_iff,
        Option.some.injEq] at h
      obtain ⟨b, -, bs, hbs, rfl⟩ := h
      simp [ih hbs]

/-- A traversal that succeeds succeeded on every element. -/
theorem isSome_of_mapM {f : α → Option β} {l : List α} {l' : List β} (h : l.mapM f = some l')
    {a : α} (ha : a ∈ l) : (f a).isSome := by
  induction l generalizing l' with
  | nil => cases ha
  | cons x l ih =>
      simp only [List.mapM_cons, Option.bind_eq_bind, Option.pure_def, Option.bind_eq_some_iff,
        Option.some.injEq] at h
      obtain ⟨b, hb, bs, hbs, rfl⟩ := h
      rcases List.mem_cons.mp ha with rfl | ha
      · simp [hb]
      · exact ih hbs ha

/-- A traversal succeeds when it succeeds on every element. -/
theorem mapM_isSome {f : α → Option β} {l : List α} (h : ∀ a ∈ l, (f a).isSome) :
    (l.mapM f).isSome := by
  induction l with
  | nil => rfl
  | cons a l ih =>
      obtain ⟨b, hb⟩ := Option.isSome_iff_exists.mp (h a List.mem_cons_self)
      obtain ⟨bs, hbs⟩ := Option.isSome_iff_exists.mp (ih fun x hx => h x (List.mem_cons_of_mem a hx))
      simp [List.mapM_cons, hb, hbs]

/-- A traversal of copies of one element gives copies of its result. -/
theorem mapM_replicate {f : α → Option β} {a : α} {b : β} (h : f a = some b) (n : Nat) :
    (List.replicate n a).mapM f = some (List.replicate n b) := by
  induction n with
  | zero => rfl
  | succ n ih => simp [List.replicate_succ, List.mapM_cons, h, ih]

/-- The map built from its keys by `mapM` holds, for each key, the value
computed for it, and nothing for any other key. -/
theorem lookup_mapM {g : κ → Option β} {ks : List κ} {l : List (κ × β)}
    (h : ks.mapM (fun k => (g k).map (k, ·)) = some l) (k : κ) :
    l.lookup k = if k ∈ ks then g k else none := by
  induction ks generalizing l with
  | nil => cases h; simp
  | cons k' ks ih =>
      simp only [List.mapM_cons, Option.bind_eq_bind, Option.pure_def, Option.bind_eq_some_iff,
        Option.map_eq_some_iff, Option.some.injEq] at h
      obtain ⟨_, ⟨v, hv, rfl⟩, l', hl', rfl⟩ := h
      by_cases hk : k = k'
      · subst hk
        simp [List.lookup, hv]
      · have hbeq : (k == k') = false := by simpa using hk
        simp [List.lookup, hbeq, hk, ih hl']

end MapM

/-! ### Removal by keys -/

section Removal

/-- Entries removed by their keys in two steps, with entries `Y` added
between them, or all at once after adding `Y`: the two agree exactly when
every entry of `Y` whose key the first step names is also named by the
second. -/
theorem filter_removed_append_iff (key : α → κ) (r₁ r₂ : List κ) (X Y : List α) :
    (X ++ Y).filter (fun a => !(r₁ ++ r₂).contains (key a)) =
        ((X.filter fun a => !r₁.contains (key a)) ++ Y).filter (fun a => !r₂.contains (key a)) ↔
      ∀ y ∈ Y, key y ∈ r₁ → key y ∈ r₂ := by
  -- the entries of `X` go the same way in both
  have hX : (X.filter fun a => !r₁.contains (key a)).filter (fun a => !r₂.contains (key a)) =
      X.filter fun a => !(r₁ ++ r₂).contains (key a) := by
    rw [List.filter_filter]
    congr 1
    funext a
    simp [Bool.and_comm]
  rw [List.filter_append, List.filter_append, hX, List.append_cancel_left_eq]
  constructor
  · intro h y hy h₁
    by_contra h₂
    have hmem : y ∈ Y.filter fun a => !r₂.contains (key a) := List.mem_filter.mpr ⟨hy, by simpa using h₂⟩
    rw [← h, List.mem_filter] at hmem
    simp [h₁] at hmem
  · intro h
    apply List.filter_congr
    intro y hy
    by_cases h₁ : key y ∈ r₁
    · simp [h₁, h y hy h₁]
    · simp [h₁]

end Removal

end KeyedList
