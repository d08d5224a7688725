import Mathlib.Logic.Function.Basic

/-!
Tables that give keys ids drawn from a counter, and map the ids back.

A key gets an id the first time it is seen: the counter's value, after which
the counter moves on; a key seen again keeps the id it got. The counter may
also move on for draws that give no key of the table an id. The table is
good when its two maps are inverse to each other and every id it gave is
below the counter (`Good`): an id then leads back to its key, and no two keys
share one (`Good.injective`).
-/

namespace IdTable

variable {κ : Type*} {fwd : κ → Option Nat} {rev : Nat → Option κ} {next : Nat}

/-- The forward and reverse maps are inverse, and the ids are below the
counter. -/
structure Good (fwd : κ → Option Nat) (rev : Nat → Option κ) (next : Nat) : Prop where
  inverse : ∀ k n, fwd k = some n ↔ rev n = some k
  below : ∀ n k, rev n = some k → n < next

theorem good_empty (next : Nat) : Good (fun _ : κ => none) (fun _ => none) next where
  inverse k n := by simp
  below n k h := by cases h

/-- Draws that give no key an id keep the table good. -/
theorem Good.mono (h : Good fwd rev next) {next' : Nat} (hle : next ≤ next') : Good fwd rev next' where
  inverse := h.inverse
  below n k hn := Nat.lt_of_lt_of_le (h.below n k hn) hle

theorem Good.rev_of_fwd (h : Good fwd rev next) {k : κ} {n : Nat} (hk : fwd k = some n) :
    rev n = some k :=
  (h.inverse k n).mp hk

/-- No two keys share an id. -/
theorem Good.injective (h : Good fwd rev next) {k k' : κ} {n : Nat} (hk : fwd k = some n)
    (hk' : fwd k' = some n) : k = k' := by
  have e := (h.rev_of_fwd hk).symm.trans (h.rev_of_fwd hk')
  exact Option.some.inj e

/-- The counter's value is no key's id yet. -/
theorem Good.rev_next (h : Good fwd rev next) : rev next = none := by
  cases hn : rev next with
  | none => rfl
  | some k => exact absurd (h.below next k hn) (Nat.lt_irrefl next)

/-- Giving a key with no id the counter's value, and moving the counter on,
keeps the table good. -/
theorem Good.assign [DecidableEq κ] (h : Good fwd rev next) {k : κ} (hk : fwd k = none) :
    Good (Function.update fwd k (some next)) (Function.update rev next (some k)) (next + 1) where
  inverse k' n := by
    by_cases ek : k' = k
    · subst ek
      rw [Function.update_self]
      by_cases en : n = next
      · subst en
        simp
      · rw [Function.update_of_ne en]
        constructor
        · intro e
          exact absurd (Option.some.inj e).symm en
        · intro hn
          rw [← h.inverse] at hn
          rw [hk] at hn
          cases hn
    · rw [Function.update_of_ne ek]
      by_cases en : n = next
      · rw [en, Function.update_self]
        constructor
        · -- the counter's value was nobody's id
          intro hn
          have hrev := (h.inverse k' next).mp hn
          rw [h.rev_next] at hrev
          cases hrev
        · intro e
          exact absurd (Option.some.inj e).symm ek
      · rw [Function.update_of_ne en]
        exact h.inverse k' n
  below n k' hn := by
    by_cases en : n = next
    · omega
    · rw [Function.update_of_ne en] at hn
      exact Nat.lt_succ_of_lt (h.below n k' hn)

end IdTable
