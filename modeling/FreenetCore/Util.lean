import FreenetCore.Lib.MachineInt
import Mathlib

/-!
Two helpers of `util.rs`: the exponential backoff of the join retries, and
the shuffle of an iterator of known size.

`ExponentialBackoff::delay` is `base.saturating_mul(1 << attempt)`, where
`1` is a `u32` shifted by the `usize` count of attempts. For the first 32
attempts the delays double up to the ceiling
(`ExponentialBackoff.sleeps_pairwise_le`). From the 33rd attempt on, the
shift is by 32 or more: a debug build panics (`sleeps_debug_eq_none`), and a
release build shifts by the count's low five bits, so that the delays start
over every 32 attempts (`sleeps_release`). Durations are nanoseconds.

`Shuffle::next` draws indices until one is not done, reads the inner
iterator up to it, memorizing what it passes, and hands out the item at the
index. The invariant `Shuffle.Inv` ties the done indices, the memorized ones
and the unread rest of the iterator together; from it, whatever `collect`
returns is a permutation of the items, and it returns once every index is
drawn again after any point of the generator's stream.
-/

namespace FreenetCore.Util

open MachineInt

/-! ### Exponential backoff -/

/-- `Duration::MAX` in nanoseconds: `u64::MAX` seconds and 999 999 999
nanoseconds. -/
def durationMax : Nat := 2 ^ 64 * 1000000000 - 1

/-- `Duration::saturating_mul`: the product, or `Duration::MAX` past it. -/
def saturatingMul (d rhs : Nat) : Nat := min (d * rhs) durationMax

/-- `ExponentialBackoff`, with its `usize` counters. -/
structure ExponentialBackoff where
  attempt : UInt64
  maxAttempts : UInt64
  base : Nat
  ceiling : Nat

/-- `ExponentialBackoff::new`. -/
def ExponentialBackoff.new (base ceiling : Nat) (maxAttempts : UInt64) : ExponentialBackoff :=
  ⟨0, maxAttempts, base, ceiling⟩

/-- `ExponentialBackoff::delay`; `none` is the overflow panic of the shift. -/
def ExponentialBackoff.delay (p : Profile) (b : ExponentialBackoff) : Option Nat :=
  (shlU32 p 1 b.attempt.toNat).map fun factor =>
    let delay := saturatingMul b.base factor.toNat
    if b.ceiling < delay then b.ceiling else delay

/-- `ExponentialBackoff::next_attempt`. -/
def ExponentialBackoff.nextAttempt (p : Profile) (b : ExponentialBackoff) :
    Option (Nat × ExponentialBackoff) := do
  let delay ← b.delay p
  let attempt ← addU64 p b.attempt 1
  pure (delay, { b with attempt })

/-- `ExponentialBackoff::sleep`: the time slept, or nothing once the attempts
are spent. -/
def ExponentialBackoff.sleep (p : Profile) (b : ExponentialBackoff) :
    Option (Option Nat × ExponentialBackoff) :=
  if b.attempt = b.maxAttempts then some (none, b)
  else (b.nextAttempt p).map fun r => (some r.1, r.2)

/-- `sleep`, called `n` times in turn: what each call slept. -/
def ExponentialBackoff.sleeps (p : Profile) :
    Nat → ExponentialBackoff → Option (List (Option Nat) × ExponentialBackoff)
  | 0, b => some ([], b)
  | n + 1, b => (b.sleep p).bind fun r =>
      (ExponentialBackoff.sleeps p n r.2).map fun rs => (r.1 :: rs.1, rs.2)

/-- The delay of a backoff shifted by `shift`: `base` times `2 ^ shift`,
saturated, and no more than the ceiling. -/
def backoffDelay (base ceiling shift : Nat) : Nat :=
  let delay := saturatingMul base (2 ^ shift)
  if ceiling < delay then ceiling else delay

/-- A shift that comes out as `2 ^ shift` gives the delay of `shift`. -/
theorem ExponentialBackoff.delay_of_shift {p : Profile} {b : ExponentialBackoff} {shift : Nat}
    (hshift : (shlU32 p 1 b.attempt.toNat).map UInt32.toNat = some (2 ^ shift)) :
    b.delay p = some (backoffDelay b.base b.ceiling shift) := by
  cases hs : shlU32 p 1 b.attempt.toNat with
  | none => rw [hs] at hshift; cases hshift
  | some factor =>
      rw [hs, Option.map_some, Option.some_inj] at hshift
      simp only [ExponentialBackoff.delay, hs, Option.map_some, hshift, backoffDelay]

theorem ExponentialBackoff.delay_of_lt {p : Profile} {b : ExponentialBackoff}
    (h : b.attempt.toNat < 32) : b.delay p = some (backoffDelay b.base b.ceiling b.attempt.toNat) :=
  ExponentialBackoff.delay_of_shift (shlU32_one_of_lt h)

theorem ExponentialBackoff.delay_debug_of_le {b : ExponentialBackoff} (h : 32 ≤ b.attempt.toNat) :
    b.delay .debug = none := by
  simp only [ExponentialBackoff.delay, shlU32_debug_of_le h, Option.map_none]

/-- Before the attempts are spent, a call sleeps for the delay and counts
one attempt more. -/
theorem ExponentialBackoff.sleep_of_lt {p : Profile} {b : ExponentialBackoff} {d : Nat}
    (h : b.attempt.toNat < b.maxAttempts.toNat) (hd : b.delay p = some d) :
    b.sleep p = some (some d, { b with attempt := b.attempt + 1 }) := by
  have hne : b.attempt ≠ b.maxAttempts := fun heq => by rw [heq] at h; omega
  have hmax := b.maxAttempts.toNat_lt
  have hadd : addU64 p b.attempt 1 = some (b.attempt + 1) := addU64_of_lt (by simp; omega)
  simp only [ExponentialBackoff.sleep, hne, if_false, ExponentialBackoff.nextAttempt, hd, hadd,
    Option.bind_eq_bind, Option.bind_some, Option.pure_def, Option.map_some]

theorem ExponentialBackoff.toNat_attempt_add_one {b : ExponentialBackoff}
    (h : b.attempt.toNat < b.maxAttempts.toNat) : (b.attempt + 1).toNat = b.attempt.toNat + 1 := by
  have hmax := b.maxAttempts.toNat_lt
  rw [UInt64.toNat_add, UInt64.toNat_one, Nat.mod_eq_of_lt (by omega)]

/-- Where the shift of every attempt of a run comes out as `2 ^ shift i`,
each call sleeps the delay of `shift i`. -/
theorem ExponentialBackoff.sleeps_of_shift {p : Profile} {shift : Nat → Nat} (n : Nat) :
    ∀ b : ExponentialBackoff, b.attempt.toNat + n ≤ b.maxAttempts.toNat →
      (∀ i, b.attempt.toNat ≤ i → i < b.attempt.toNat + n →
        (shlU32 p 1 i).map UInt32.toNat = some (2 ^ shift i)) →
      ∃ b', b.sleeps p n =
          some ((List.range' b.attempt.toNat n).map fun i => some (backoffDelay b.base b.ceiling (shift i)),
            b') ∧
        b'.attempt.toNat = b.attempt.toNat + n := by
  induction n with
  | zero =>
      intro b _ _
      exact ⟨b, rfl, rfl⟩
  | succ n ih =>
      intro b hn hshift
      have hlt : b.attempt.toNat < b.maxAttempts.toNat := by omega
      have hstep := ExponentialBackoff.sleep_of_lt hlt
        (ExponentialBackoff.delay_of_shift (hshift b.attempt.toNat le_rfl (by omega)))
      have hnext := ExponentialBackoff.toNat_attempt_add_one hlt
      -- the rest of the run starts one attempt later
      obtain ⟨b', hrun, hb'⟩ := ih { b with attempt := b.attempt + 1 } (by simp only; omega)
        (fun i hlo hhi => hshift i (by simp only at hlo; omega) (by simp only at hhi; omega))
      refine ⟨b', ?_, by simp only at hb'; omega⟩
      simp only at hrun
      rw [hnext] at hrun
      simp only [ExponentialBackoff.sleeps, hstep, Option.bind_some, hrun, Option.map_some,
        List.range'_succ, List.map_cons]

/-- A release build sleeps, at each attempt, the delay of the attempt's low
five bits. -/
theorem ExponentialBackoff.sleeps_release (n : Nat) (b : ExponentialBackoff)
    (hn : b.attempt.toNat + n ≤ b.maxAttempts.toNat) :
    ∃ b', b.sleeps .release n =
        some ((List.range' b.attempt.toNat n).map fun i => some (backoffDelay b.base b.ceiling (i % 32)),
          b') ∧
      b'.attempt.toNat = b.attempt.toNat + n :=
  ExponentialBackoff.sleeps_of_shift n b hn fun i _ _ => shlU32_release_one i

/-- Up to the 32nd attempt, either build sleeps `base * 2 ^ attempt`,
saturated and capped. -/
theorem ExponentialBackoff.sleeps_of_le {p : Profile} (n : Nat) (b : ExponentialBackoff)
    (hn : b.attempt.toNat + n ≤ b.maxAttempts.toNat) (h32 : b.attempt.toNat + n ≤ 32) :
    ∃ b', b.sleeps p n =
        some ((List.range' b.attempt.toNat n).map fun i => some (backoffDelay b.base b.ceiling i), b') ∧
      b'.attempt.toNat = b.attempt.toNat + n :=
  ExponentialBackoff.sleeps_of_shift n b hn fun _ _ hi => shlU32_one_of_lt (by omega)

/-- The delays grow with the shift. -/
theorem backoffDelay_mono (base ceiling : Nat) {i j : Nat} (hij : i ≤ j) :
    backoffDelay base ceiling i ≤ backoffDelay base ceiling j := by
  have hpow : 2 ^ i ≤ 2 ^ j := Nat.pow_le_pow_right (by decide) hij
  have hsat : saturatingMul base (2 ^ i) ≤ saturatingMul base (2 ^ j) :=
    min_le_min_right _ (Nat.mul_le_mul_left _ hpow)
  simp only [backoffDelay]
  split_ifs <;> omega

/-- So the first 32 calls, in either build, sleep no less each time. -/
theorem ExponentialBackoff.sleeps_pairwise_le {p : Profile} (n : Nat) (b : ExponentialBackoff)
    (hn : b.attempt.toNat + n ≤ b.maxAttempts.toNat) (h32 : b.attempt.toNat + n ≤ 32) :
    ∃ (delays : List Nat) (b' : ExponentialBackoff), b.sleeps p n = some (delays.map some, b') ∧
      delays.Pairwise (· ≤ ·) := by
  obtain ⟨b', hrun, -⟩ := ExponentialBackoff.sleeps_of_le (p := p) n b hn h32
  refine ⟨(List.range' b.attempt.toNat n).map (backoffDelay b.base b.ceiling), b', ?_, ?_⟩
  · rw [hrun, List.map_map]
    rfl
  · exact List.pairwise_map.mpr (List.pairwise_le_range'.imp fun h => backoffDelay_mono _ _ h)

/-- A debug build panics at the 33rd attempt. -/
theorem ExponentialBackoff.sleeps_debug_eq_none (n : Nat) :
    ∀ b : ExponentialBackoff, b.attempt.toNat ≤ 32 → 32 < b.attempt.toNat + n →
      b.attempt.toNat + n ≤ b.maxAttempts.toNat → b.sleeps .debug n = none := by
  induction n with
  | zero => intro b _ h _; omega
  | succ n ih =>
      intro b h32 hover hn
      have hlt : b.attempt.toNat < b.maxAttempts.toNat := by omega
      rcases Nat.lt_or_ge b.attempt.toNat 32 with hsmall | hat
      · -- a shift below 32: the call sleeps, and the next attempt is one closer
        have hstep := ExponentialBackoff.sleep_of_lt hlt
          (ExponentialBackoff.delay_of_lt (p := .debug) hsmall)
        have hnext := ExponentialBackoff.toNat_attempt_add_one hlt
        have hrest := ih { b with attempt := b.attempt + 1 } (by simp only; omega)
          (by simp only; omega) (by simp only; omega)
        simp only [ExponentialBackoff.sleeps, hstep, Option.bind_some, hrest, Option.map_none]
      · -- the 33rd attempt: the shift by 32 panics
        have hne : b.attempt ≠ b.maxAttempts := fun heq => by rw [heq] at hlt; omega
        simp only [ExponentialBackoff.sleeps, ExponentialBackoff.sleep, hne, if_false,
          ExponentialBackoff.nextAttempt, ExponentialBackoff.delay_debug_of_le hat,
          Option.bind_eq_bind, Option.bind_none, Option.map_none]

theorem backoff_delays_repeat (base ceiling : Nat) (maxAttempts : UInt64) {k : Nat}
    (hk32 : 32 ≤ k) (hk : k < maxAttempts.toNat) :
    (ExponentialBackoff.new base ceiling maxAttempts).sleeps .debug (k + 1) = none ∧
      ∃ delays b, (ExponentialBackoff.new base ceiling maxAttempts).sleeps .release (k + 1) =
          some (delays, b) ∧
        delays[k]? = delays[k - 32]? := by
  have hzero : (ExponentialBackoff.new base ceiling maxAttempts).attempt.toNat = 0 := rfl
  have hmax : (ExponentialBackoff.new base ceiling maxAttempts).maxAttempts = maxAttempts := rfl
  refine ⟨ExponentialBackoff.sleeps_debug_eq_none (k + 1) _ (by omega) (by omega)
    (by rw [hzero, hmax]; omega), ?_⟩
  obtain ⟨b, hrun, -⟩ := ExponentialBackoff.sleeps_release (k + 1)
    (ExponentialBackoff.new base ceiling maxAttempts) (by rw [hzero, hmax]; omega)
  refine ⟨_, b, hrun, ?_⟩
  -- both are the delay of the same five low bits
  rw [hzero, List.getElem?_map, List.getElem?_map, List.getElem?_range' (by omega),
    List.getElem?_range' (by omega)]
  simp only [Option.map_some, zero_add, one_mul]
  rw [show k % 32 = (k - 32) % 32 by omega]

/-- The join retries of `initial_request`: one second, doubling up to two
minutes, with `usize::MAX` attempts; the 33rd retry. -/
theorem backoff_delays_repeat_join :
    32 ≤ 32 ∧ 32 < (18446744073709551615 : UInt64).toNat ∧
      ((ExponentialBackoff.new 1000000000 120000000000 18446744073709551615).sleeps .debug 33 = none ∧
        ∃ delays b,
          (ExponentialBackoff.new 1000000000 120000000000 18446744073709551615).sleeps .release 33 =
            some (delays, b) ∧ delays[32]? = delays[32 - 32]?) :=
  ⟨le_refl 32, by decide, backoff_delays_repeat 1000000000 120000000000 18446744073709551615
    (le_refl 32) (by decide)⟩

/-! ### Shuffle -/

section Shuffle

variable {α : Type*}

/-- `Shuffle`: the unread rest of the inner iterator, the position reached
in the stream of its `StdRng`'s outputs, and its bookkeeping. The `BTreeMap`
`memorized` is only searched, inserted into and removed from, so it is a
function; the `HashSet` `done` is the list of the picks in the order drawn. -/
structure Shuffle (α : Type*) where
  inner : List α
  position : Nat
  memorized : Nat → Option α
  done : List Nat
  doneCounter : Nat
  counter : Nat
  size : Nat

/-- `IterExt::shuffle`, on an iterator whose size hint is exact. -/
def Shuffle.new (inner : List α) : Shuffle α :=
  ⟨inner, 0, fun _ => none, [], 0, 0, inner.length⟩

/-- The `loop` of `next`: `gen_range(0..size)` from `position` on, each a
generator output reduced below `size`, until a pick that is not done; the
pick and the position after it, or `none` when `fuel` draws find none. -/
def drawPick (rng : Nat → Nat) (size : Nat) (done : List Nat) : Nat → Nat → Option (Nat × Nat)
  | 0, _ => none
  | fuel + 1, position =>
      if rng position % size ∈ done then drawPick rng size done fuel (position + 1)
      else some (rng position % size, position + 1)

/-- One turn of the `for` loop of `next`: the inner iterator's next item, if
there is one, memorized at `i`. -/
def readInto (acc : List α × (Nat → Option α)) (i : Nat) : List α × (Nat → Option α) :=
  match acc.1 with
  | [] => acc
  | e :: rest => (rest, Function.update acc.2 i (some e))

/-- The `for` loop of `next`, over `done_counter..=pick`. -/
def readUpTo (doneCounter pick : Nat) (inner : List α) (memorized : Nat → Option α) :
    List α × (Nat → Option α) :=
  (List.range' doneCounter (pick + 1 - doneCounter)).foldl readInto (inner, memorized)

/-- `Shuffle::next`; `none` when the retry loop runs out of `fuel`. -/
def Shuffle.next (fuel : Nat) (rng : Nat → Nat) (s : Shuffle α) : Option (Option α × Shuffle α) :=
  if s.counter = s.size then some (none, s)
  else (drawPick rng s.size s.done fuel s.position).map fun r =>
    let pick := r.1
    let done := s.done ++ [pick]
    match s.memorized pick with
    | some element =>
        (some element,
          { s with
            position := r.2, done, memorized := Function.update s.memorized pick none,
            counter := s.counter + 1 })
    | none =>
        let read := readUpTo s.doneCounter pick s.inner s.memorized
        (read.2 pick,
          { s with
            inner := read.1, position := r.2, done, memorized := Function.update read.2 pick none,
            doneCounter := pick + 1, counter := s.counter + 1 })

/-- `Iterator::collect`: `next` until it yields nothing; `none` when `fuel`
calls, each retrying `fuel` draws at most, do not get there. -/
def Shuffle.collect (rng : Nat → Nat) : Nat → Shuffle α → Option (List α)
  | 0, _ => none
  | fuel + 1, s => (s.next (fuel + 1) rng).bind fun r =>
      match r.1 with
      | none => some []
      | some x => (Shuffle.collect rng fuel r.2).map (x :: ·)

/-! The retry loop. -/

section DrawPick

variable {rng : Nat → Nat} {size : Nat} {done : List Nat}

theorem drawPick_spec {fuel position pick position' : Nat}
    (h : drawPick rng size done fuel position = some (pick, position')) :
    pick ∉ done ∧ ∃ t, pick = rng t % size := by
  induction fuel generalizing position with
  | zero => cases h
  | succ fuel ih =>
      unfold drawPick at h
      split_ifs at h with hdone
      · exact ih h
      · cases h
        exact ⟨hdone, position, rfl⟩

/-- The loop ends once it reaches a draw that is not done. -/
theorem drawPick_isSome {t : Nat} (ht : rng t % size ∉ done) (fuel : Nat) :
    ∀ position, position ≤ t → t - position < fuel →
      ∃ r, drawPick rng size done fuel position = some r := by
  induction fuel with
  | zero => intro position _ h; omega
  | succ fuel ih =>
      intro position hle hlt
      unfold drawPick
      split_ifs with hdone
      · -- a rejected draw, so not yet the one at `t`
        have hne : position ≠ t := fun heq => ht (heq ▸ hdone)
        exact ih (position + 1) (by omega) (by omega)
      · exact ⟨_, rfl⟩

theorem drawPick_mono {r : Nat × Nat} {fuel : Nat} :
    ∀ {position fuel'}, drawPick rng size done fuel position = some r → fuel ≤ fuel' →
      drawPick rng size done fuel' position = some r := by
  induction fuel with
  | zero => intro _ _ h; cases h
  | succ fuel ih =>
      intro position fuel' h hle
      obtain ⟨fuel', rfl⟩ : ∃ f, fuel' = f + 1 := ⟨fuel' - 1, by omega⟩
      unfold drawPick at h ⊢
      split_ifs at h ⊢
      · exact ih h (by omega)
      · exact h

end DrawPick

/-! The `for` loop, on an inner iterator read up to `doneCounter`. -/

theorem foldl_readInto {xs : List α} (m : Nat) :
    ∀ doneCounter (memorized : Nat → Option α), doneCounter + m ≤ xs.length →
      (List.range' doneCounter m).foldl readInto (xs.drop doneCounter, memorized) =
        (xs.drop (doneCounter + m),
          fun i => if doneCounter ≤ i ∧ i < doneCounter + m then xs[i]? else memorized i) := by
  induction m with
  | zero =>
      intro doneCounter memorized _
      refine Prod.ext rfl (funext fun i => ?_)
      exact (if_neg (by omega)).symm
  | succ m ih =>
      intro doneCounter memorized hle
      have hlt : doneCounter < xs.length := by omega
      -- the first turn reads the item at `doneCounter`
      have hfirst : readInto (xs.drop doneCounter, memorized) doneCounter =
          (xs.drop (doneCounter + 1), Function.update memorized doneCounter (some xs[doneCounter])) := by
        rw [List.drop_eq_getElem_cons hlt]
        rfl
      rw [List.range'_succ, List.foldl_cons, hfirst, ih (doneCounter + 1) _ (by omega)]
      refine Prod.ext (congrArg xs.drop (by omega)) (funext fun i => ?_)
      by_cases hi : i = doneCounter
      · subst hi
        simp [List.getElem?_eq_getElem hlt]
      · simp only [Function.update_apply, hi, if_false]
        congr 1
        apply propext
        omega

theorem readUpTo_drop {xs : List α} {doneCounter pick : Nat} (memorized : Nat → Option α)
    (hle : doneCounter ≤ pick) (hpick : pick < xs.length) :
    readUpTo doneCounter pick (xs.drop doneCounter) memorized =
      (xs.drop (pick + 1), fun i => if doneCounter ≤ i ∧ i ≤ pick then xs[i]? else memorized i) := by
  unfold readUpTo
  rw [foldl_readInto _ _ _ (by omega), show doneCounter + (pick + 1 - doneCounter) = pick + 1 by omega]
  refine Prod.ext rfl (funext fun i => ?_)
  simp only [Nat.lt_succ_iff]

/-! The invariant of `next`. -/

/-- What `next` keeps, for a shuffle of `xs` that has yielded `out`: the
inner iterator is read up to `done_counter`, an index is memorized exactly
when it is read and not done, every done index is read and done once, and
`out` holds the items of the done indices in the order they were drawn. -/
structure Shuffle.Inv (xs out : List α) (s : Shuffle α) : Prop where
  size_eq : s.size = xs.length
  counter_eq : s.counter = s.done.length
  done_nodup : s.done.Nodup
  done_lt : ∀ i ∈ s.done, i < s.doneCounter
  doneCounter_le : s.doneCounter ≤ xs.length
  inner_eq : s.inner = xs.drop s.doneCounter
  memorized_eq : ∀ i, s.memorized i = if i < s.doneCounter ∧ i ∉ s.done then xs[i]? else none
  out_eq : out.map some = s.done.map fun i => xs[i]?

theorem Shuffle.inv_new (xs : List α) : (Shuffle.new xs).Inv xs [] where
  size_eq := rfl
  counter_eq := rfl
  done_nodup := List.nodup_nil
  done_lt := fun _ h => absurd h List.not_mem_nil
  doneCounter_le := Nat.zero_le _
  inner_eq := rfl
  memorized_eq := fun _ => by simp [Shuffle.new]
  out_eq := rfl

section Inv

variable {xs out : List α} {s : Shuffle α}

theorem Shuffle.Inv.length_out (hs : s.Inv xs out) : out.length = s.counter := by
  have h := congrArg List.length hs.out_eq
  simp only [List.length_map] at h
  rw [h, hs.counter_eq]

theorem Shuffle.Inv.done_subset (hs : s.Inv xs out) : s.done ⊆ List.range xs.length := fun i hi =>
  List.mem_range.mpr (lt_of_lt_of_le (hs.done_lt i hi) hs.doneCounter_le)

theorem Shuffle.Inv.counter_le (hs : s.Inv xs out) : s.counter ≤ s.size := by
  have hle := (hs.done_nodup.subperm hs.done_subset).length_le
  rw [List.length_range] at hle
  rw [hs.counter_eq, hs.size_eq]
  exact hle

/-- While not all are done, some index is not. -/
theorem Shuffle.Inv.exists_undone (hs : s.Inv xs out) (hc : s.counter ≠ s.size) :
    ∃ i < xs.length, i ∉ s.done := by
  by_contra hnone
  have hall : List.range xs.length ⊆ s.done := fun i hi => by
    by_contra hi'
    exact hnone ⟨i, List.mem_range.mp hi, hi'⟩
  have hlen := (List.nodup_range.subperm hall).length_le
  rw [List.length_range] at hlen
  have hle := hs.counter_le
  exact hc (by rw [hs.counter_eq, hs.size_eq] at hle ⊢; omega)

/-- Once all are done, `out` is a permutation of the items. -/
theorem Shuffle.Inv.perm (hs : s.Inv xs out) (hc : s.counter = s.size) : out.Perm xs := by
  have hdone : s.done.Perm (List.range xs.length) :=
    (hs.done_nodup.subperm hs.done_subset).perm_of_length_le
      (by rw [List.length_range, ← hs.counter_eq, hc, hs.size_eq])
  have hitems : (List.range xs.length).map (fun i => xs[i]?) = xs.map some := by
    apply List.ext_getElem?
    intro i
    by_cases h : i < xs.length
    · simp [h]
    · simp [h]
  have hsome : (out.map some).Perm (xs.map some) := by
    rw [hs.out_eq, ← hitems]
    exact hdone.map _
  exact (List.map_perm_map_iff (Option.some_injective α)).mp hsome

/-- A memorized index is read and not done, and holds its item. -/
theorem Shuffle.Inv.memorized_some (hs : s.Inv xs out) {pick : Nat} {e : α}
    (hm : s.memorized pick = some e) :
    pick < s.doneCounter ∧ pick ∉ s.done ∧ xs[pick]? = some e := by
  have h := hs.memorized_eq pick
  rw [hm] at h
  split_ifs at h with hcond
  · exact ⟨hcond.1, hcond.2, h.symm⟩

/-- A pick that is not done and not memorized is not read yet. -/
theorem Shuffle.Inv.doneCounter_le_of_none (hs : s.Inv xs out) {pick : Nat} (hfresh : pick ∉ s.done)
    (hpick : pick < xs.length) (hm : s.memorized pick = none) : s.doneCounter ≤ pick := by
  by_contra hlt
  have h := hs.memorized_eq pick
  rw [if_pos ⟨by omega, hfresh⟩, hm, List.getElem?_eq_getElem hpick] at h
  cases h

theorem Shuffle.Inv.nodup_done_append (hs : s.Inv xs out) {pick : Nat} (hfresh : pick ∉ s.done) :
    (s.done ++ [pick]).Nodup :=
  List.nodup_append_comm.mp (hs.done_nodup.cons hfresh)

/-- The first branch of `next`: the pick is taken out of `memorized`. -/
theorem Shuffle.Inv.take_memorized (hs : s.Inv xs out) (position : Nat) {pick : Nat} {e : α}
    (hm : s.memorized pick = some e) :
    Shuffle.Inv xs (out ++ [e])
      { s with
        position, done := s.done ++ [pick], memorized := Function.update s.memorized pick none,
        counter := s.counter + 1 } := by
  obtain ⟨hread, hfresh, hitem⟩ := hs.memorized_some hm
  constructor
  case size_eq => exact hs.size_eq
  case counter_eq => simp [hs.counter_eq]
  case done_nodup => exact hs.nodup_done_append hfresh
  case done_lt =>
    simp only [List.mem_append, List.mem_singleton]
    rintro i (hi | rfl)
    · exact hs.done_lt i hi
    · exact hread
  case doneCounter_le => exact hs.doneCounter_le
  case inner_eq => exact hs.inner_eq
  case memorized_eq =>
    intro i
    by_cases hi : i = pick
    · subst hi
      simp
    · simp [hs.memorized_eq i, hi]
  case out_eq => simp [hs.out_eq, hitem]

/-- The second branch of `next`: the inner iterator is read up to the pick,
and the pick is taken out of `memorized` at once. -/
theorem Shuffle.Inv.read_memorized (hs : s.Inv xs out) (position : Nat) {pick : Nat} (hfresh : pick ∉ s.done)
    (hpick : pick < xs.length) (hm : s.memorized pick = none) :
    Shuffle.Inv xs (out ++ [xs[pick]])
      { s with
        inner := xs.drop (pick + 1), position, done := s.done ++ [pick],
        memorized := Function.update
          (fun i => if s.doneCounter ≤ i ∧ i ≤ pick then xs[i]? else s.memorized i) pick none,
        doneCounter := pick + 1, counter := s.counter + 1 } := by
  have hle := hs.doneCounter_le_of_none hfresh hpick hm
  constructor
  case size_eq => exact hs.size_eq
  case counter_eq => simp [hs.counter_eq]
  case done_nodup => exact hs.nodup_done_append hfresh
  case done_lt =>
    simp only [List.mem_append, List.mem_singleton]
    rintro i (hi | rfl)
    · exact lt_of_lt_of_le (hs.done_lt i hi) (by omega)
    · exact Nat.lt_succ_self _
  case doneCounter_le => exact hpick
  case inner_eq => rfl
  case memorized_eq =>
    intro i
    by_cases hi : i = pick
    · subst hi
      simp
    · -- the indices read now are not done; those read before keep their entries
      have hdone := hs.done_lt i
      simp only [Function.update_of_ne hi, hs.memorized_eq i, List.mem_append, List.mem_singleton, hi,
        or_false]
      by_cases hread : i < pick + 1 ∧ i ∉ s.done
      · rw [if_pos hread]
        split_ifs with hnew hold
        · rfl
        · rfl
        · exact absurd ⟨by omega, hread.2⟩ hold
      · rw [if_neg hread]
        split_ifs with hnew hold
        · exact absurd ⟨by omega, fun hmem => by have := hdone hmem; omega⟩ hread
        · exact absurd ⟨by omega, hold.2⟩ hread
        · rfl
  case out_eq => simp [hs.out_eq, List.getElem?_eq_getElem hpick]

variable {rng : Nat → Nat}

/-- One call of `next` whose retry loop ends yields an item and keeps the
invariant. -/
theorem Shuffle.Inv.next (hs : s.Inv xs out) (hc : s.counter ≠ s.size) {fuel : Nat} {r : Nat × Nat}
    (hp : drawPick rng s.size s.done fuel s.position = some r) :
    ∃ x s', s.next fuel rng = some (some x, s') ∧ s'.Inv xs (out ++ [x]) := by
  obtain ⟨pick, position⟩ := r
  obtain ⟨hfresh, t, hpick⟩ := drawPick_spec hp
  have hsize : 0 < s.size := by have := hs.counter_le; omega
  have hlt : pick < xs.length := by
    rw [hpick, ← hs.size_eq]
    exact Nat.mod_lt _ hsize
  cases hm : s.memorized pick with
  | some e =>
      refine ⟨e, _, ?_, hs.take_memorized position hm⟩
      simp only [Shuffle.next, hc, if_false, hp, Option.map_some, hm]
  | none =>
      refine ⟨xs[pick], _, ?_, hs.read_memorized position hfresh hlt hm⟩
      have hle := hs.doneCounter_le_of_none hfresh hlt hm
      have hread := readUpTo_drop s.memorized hle hlt
      rw [← hs.inner_eq] at hread
      simp only [Shuffle.next, hc, if_false, hp, Option.map_some, hm, hread, hle, le_refl, and_self,
        if_true, List.getElem?_eq_getElem hlt]

theorem Shuffle.next_congr {s : Shuffle α} {fuel fuel' : Nat}
    (h : drawPick rng s.size s.done fuel s.position = drawPick rng s.size s.done fuel' s.position) :
    s.next fuel rng = s.next fuel' rng := by
  simp only [Shuffle.next, h]

/-- Whatever `collect` returns, from a state that keeps the invariant,
completes `out` to a permutation of the items. -/
theorem Shuffle.Inv.collect_perm (fuel : Nat) :
    ∀ {s : Shuffle α} {out ys : List α}, s.Inv xs out → s.collect rng fuel = some ys →
      (out ++ ys).Perm xs := by
  induction fuel with
  | zero => intro _ _ _ _ h; cases h
  | succ fuel ih =>
      intro s out ys hs h
      by_cases hc : s.counter = s.size
      · -- `next` yields nothing: all are done
        simp only [Shuffle.collect, Shuffle.next, hc, if_true, Option.bind_some,
          Option.some_inj] at h
        subst h
        rw [List.append_nil]
        exact hs.perm hc
      · cases hp : drawPick rng s.size s.done (fuel + 1) s.position with
        | none => simp [Shuffle.collect, Shuffle.next, hc, hp] at h
        | some r =>
            obtain ⟨x, s', hnext, hs'⟩ := hs.next hc hp
            simp only [Shuffle.collect, hnext, Option.bind_some] at h
            obtain ⟨ys', hys', rfl⟩ := Option.map_eq_some_iff.mp h
            simpa using ih hs' hys'

/-- If every index below `xs.length` is drawn again at some point after any
position, `collect` returns once given enough fuel. -/
theorem Shuffle.Inv.collect_terminates
    (hevery : ∀ t, ∀ i < xs.length, ∃ t', t ≤ t' ∧ rng t' % xs.length = i) (m : Nat) :
    ∀ {s : Shuffle α} {out : List α}, s.Inv xs out → xs.length - out.length = m →
      ∃ F, ∀ fuel, F ≤ fuel → ∃ ys, s.collect rng fuel = some ys := by
  induction m with
  | zero =>
      -- all are done: the next call yields nothing
      intro s out hs hm
      have hc : s.counter = s.size := by
        have := hs.counter_le
        rw [← hs.length_out, hs.size_eq] at this ⊢
        omega
      refine ⟨1, fun fuel hfuel => ⟨[], ?_⟩⟩
      obtain ⟨fuel, rfl⟩ : ∃ f, fuel = f + 1 := ⟨fuel - 1, by omega⟩
      simp only [Shuffle.collect, Shuffle.next, hc, if_true, Option.bind_some]
  | succ m ih =>
      intro s out hs hm
      have hc : s.counter ≠ s.size := by
        rw [← hs.length_out, hs.size_eq]
        omega
      -- an undone index, and the draw that picks it
      obtain ⟨i, hi, hfresh⟩ := hs.exists_undone hc
      obtain ⟨t, hle, hdraw⟩ := hevery s.position i hi
      have ht : rng t % s.size ∉ s.done := by rw [hs.size_eq, hdraw]; exact hfresh
      obtain ⟨r, hp⟩ := drawPick_isSome ht (t - s.position + 1) s.position hle (by omega)
      obtain ⟨x, s', hnext, hs'⟩ := hs.next hc hp
      obtain ⟨F, hF⟩ := ih hs' (by rw [List.length_append, List.length_singleton]; omega)
      refine ⟨max (t - s.position + 1) F + 1, fun fuel hfuel => ?_⟩
      obtain ⟨fuel, rfl⟩ : ∃ f, fuel = f + 1 := ⟨fuel - 1, by omega⟩
      obtain ⟨ys, hys⟩ := hF fuel (by omega)
      have hnext' : s.next (fuel + 1) rng = some (some x, s') := by
        rw [← hnext]
        exact Shuffle.next_congr (by rw [drawPick_mono hp (by omega), hp])
      exact ⟨x :: ys, by simp only [Shuffle.collect, hnext', Option.bind_some, hys, Option.map_some]⟩

end Inv

theorem shuffle_collect_perm (xs : List α) (rng : Nat → Nat)
    (hevery : ∀ t, ∀ i < xs.length, ∃ t', t ≤ t' ∧ rng t' % xs.length = i) :
    (∃ fuel ys, (Shuffle.new xs).collect rng fuel = some ys) ∧
      ∀ fuel ys, (Shuffle.new xs).collect rng fuel = some ys → ys.Perm xs := by
  constructor
  · obtain ⟨F, hF⟩ := (Shuffle.inv_new xs).collect_terminates hevery _ rfl
    obtain ⟨ys, hys⟩ := hF F (le_refl F)
    exact ⟨F, ys, hys⟩
  · intro fuel ys h
    simpa using (Shuffle.inv_new xs).collect_perm fuel h

/-- A generator of the odd numbers, whose remainders by three run through
1, 0, 2 over and over. -/
theorem shuffle_collect_perm_counting :
    (∀ t, ∀ i < [10, 20, 30].length, ∃ t', t ≤ t' ∧ (fun n => 2 * n + 1) t' % [10, 20, 30].length = i) ∧
      ((∃ fuel ys, (Shuffle.new [10, 20, 30]).collect (fun n => 2 * n + 1) fuel = some ys) ∧
        ∀ fuel ys, (Shuffle.new [10, 20, 30]).collect (fun n => 2 * n + 1) fuel = some ys →
          ys.Perm [10, 20, 30]) :=
  have hevery : ∀ t, ∀ i < [10, 20, 30].length, ∃ t', t ≤ t' ∧
      (fun n => 2 * n + 1) t' % [10, 20, 30].length = i := fun t i hi =>
    ⟨3 * t + 2 * i + 1, by omega, by simp only [List.length_cons, List.length_nil] at hi ⊢; omega⟩
  ⟨hevery, shuffle_collect_perm [10, 20, 30] (fun n => 2 * n + 1) hevery⟩

example : (Shuffle.new [10, 20, 30]).collect (fun n => 2 * n + 1) 4 = some [20, 10, 30] := by
  decide

end Shuffle

end FreenetCore.Util
