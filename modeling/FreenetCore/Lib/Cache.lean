import Mathlib.Logic.Function.Basic

/-!
A cache in front of a store of values by key, known only by what it may
answer.

A cache keeps some of the values it is offered, for as long as it likes: an
insertion may be refused, or admitted only later, an entry may be dropped at
any time, and a lookup may still find an older value for a key after a newer
one was offered. What the cache has been offered is kept beside it as a
history, the values offered for each key in order (`offer`). The one thing
assumed of the cache is that a lookup answers nothing, or a value it was
offered for that key (`Answers`).

Writes go to the store first and are then offered to the cache
(write-through). The cache is backed by the store when every key it was
offered a value for is one the store holds. Write-throughs keep that, and
then a hit, whatever value it answers, says the store holds the key
(`Backed.hit`).
-/

namespace Cache

variable {κ ν : Type*}

/-- The cache may answer `a` for `k` after being offered `offered`: nothing,
or a value offered for `k`. -/
def Answers (offered : κ → List ν) (k : κ) (a : Option ν) : Prop :=
  ∀ v, a = some v → v ∈ offered k

theorem answers_none (offered : κ → List ν) (k : κ) : Answers offered k none :=
  fun _ h => absurd h (Option.some_ne_none _).symm

instance [DecidableEq ν] (offered : κ → List ν) (k : κ) : (a : Option ν) → Decidable (Answers offered k a)
  | none => isTrue (answers_none offered k)
  | some v => decidable_of_iff (v ∈ offered k) ⟨fun h _ hv => Option.some.inj hv ▸ h, fun h => h v rfl⟩

/-- Every key the cache was offered a value for is one the store holds. -/
def Backed (offered : κ → List ν) (store : κ → Option ν) : Prop :=
  ∀ k, offered k ≠ [] → (store k).isSome

theorem backed_empty (store : κ → Option ν) : Backed (fun _ => []) store :=
  fun _ h => absurd rfl h

/-- A hit of a cache backed by the store: the store holds the key. -/
theorem Backed.hit {offered : κ → List ν} {store : κ → Option ν} (h : Backed offered store) {k : κ}
    {a : Option ν} (ha : Answers offered k a) {v : ν} (hv : a = some v) : (store k).isSome :=
  h k (List.ne_nil_of_mem (ha v hv))

section Writes

variable [DecidableEq κ]

/-- The cache is offered `v` for `k`. -/
def offer (offered : κ → List ν) (k : κ) (v : ν) : κ → List ν :=
  Function.update offered k (offered k ++ [v])

/-- A write-through: the store takes the value, then the cache is offered it. -/
theorem Backed.offer {offered : κ → List ν} {store : κ → Option ν} (h : Backed offered store) (k : κ)
    (v : ν) : Backed (Cache.offer offered k v) (Function.update store k (some v)) := by
  intro k' hk'
  by_cases e : k' = k
  · subst e
    simp
  · rw [Cache.offer, Function.update_of_ne e] at hk'
    rw [Function.update_of_ne e]
    exact h k' hk'

end Writes

end Cache
