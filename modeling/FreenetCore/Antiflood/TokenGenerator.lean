import FreenetCore.Antiflood.AllocationContract

/-!
The token generator delegate's allocation (`delegates/token-generator`,
`TokenAssignmentInternal`).

`assign` picks the slot with `next_free_assignment`, signs its
`signature_content` with the generator's private key, and adds the
assignment to its copy of the record with `append_unchecked`. The slot is
the oldest one the criteria allow, `normalize_to_next(now) - max_age`, when
the record holds nothing of the tier; otherwise a walk over the tier's
assignments looks for a slot between them.

The time `Utc::now()` is the argument `current`. The walk's state is the
pair of `Option`s the source keeps, and its `unreachable!()` is the `none` of
a step.
-/

namespace FreenetCore.Antiflood

open Civil Crypto FreenetCore.WasmRuntime FreenetCore.Contract FreenetCore.Stdlib

/-- `chrono::Duration::MAX` in nanoseconds: `i64::MAX` milliseconds. -/
def maxChronoNanos : Nat := (2 ^ 63 - 1) * 1000000

/-- `Duration::from_std`; `none` is the `unwrap` of a duration past
`chrono`'s range. -/
def durationFromStd (d : Nat) : Option Duration :=
  if d ≤ maxChronoNanos then some d else none

/-- The state of `next_free_assignment`'s walk: the oldest assignment seen
in the window, and the first free slot found. -/
structure FreeSlotWalk where
  oldestValidObserved : Option TokenAssignment
  firstValid : Option DateTime

/-- One assignment of the walk. Only the assignments at or after the oldest
valid slot count. The first sets a candidate: the oldest valid slot if the
assignment is not on it, and otherwise the slot before or after the
assignment; each later one on the candidate moves it past itself, or drops
it once past `normalized`. A candidate dropped while assignments remain is
the `unreachable!()`. -/
def freeSlotStep (normalized : DateTime) (maxAge : Duration) (st : FreeSlotWalk)
    (assignment : TokenAssignment) : Option FreeSlotWalk :=
  if normalized - maxAge ≤ assignment.timeSlot then
    match st.oldestValidObserved, st.firstValid with
    | none, none =>
        let oldestValid := normalized - maxAge
        if assignment.timeSlot ≠ oldestValid then some ⟨some assignment, some oldestValid⟩
        else
          let prev := assignment.previousSlot
          if oldestValid < prev then some ⟨some assignment, some prev⟩
          else some ⟨some assignment, some assignment.nextSlot⟩
    | some oldest, some firstValidDate =>
        if firstValidDate = assignment.timeSlot then
          let next := assignment.nextSlot
          if normalized < next then some ⟨some oldest, none⟩ else some ⟨some oldest, some next⟩
        else some st
    | _, _ => none
  else some st

variable (rsa : SignatureScheme RsaPrivateKey RsaPublicKey)

namespace TokenAllocationRecord

/-- `next_free_assignment` at the time `current`: the slot, or `none` inside
when there is none free; the outer `none` is a panic. -/
def nextFreeAssignment (r : TokenAllocationRecord) (criteria : AllocationCriteria)
    (current : DateTime) : Option (Option DateTime) := do
  let normalized ← criteria.frequency.normalizeToNext current
  let maxAge ← durationFromStd criteria.maxAge
  match r.getTier criteria.frequency with
  | some currentlyAssigned =>
      let st ← currentlyAssigned.foldlM (freeSlotStep normalized maxAge) ⟨none, none⟩
      if st.oldestValidObserved.isNone then
        -- first slot for the tier free
        pure (some (normalized - maxAge))
      else if st.firstValid.isSome then pure st.firstValid
      else pure none
  | none => pure (some (normalized - maxAge))

/-- `append_unchecked`. -/
def appendUnchecked (r : TokenAllocationRecord) (assignment : TokenAssignment) :
    TokenAllocationRecord :=
  match r.getTier assignment.tier with
  | some list => r.insert assignment.tier (sortUnstable (list ++ [assignment]))
  | none => r.insert assignment.tier [assignment]

/-- `assign` at the time `current`: the assignment and the record with it
added, or `none` inside when no slot is free; the outer `none` is a
panic. -/
def assign (r : TokenAllocationRecord) (criteria : AllocationCriteria) (generatorPk : RsaPrivateKey)
    (assignmentHash : Bytes32) (current : DateTime) :
    Option (Option (TokenAssignment × TokenAllocationRecord)) := do
  match ← r.nextFreeAssignment criteria current with
  | none => pure none
  | some timeSlot =>
      let msg := TokenAssignment.signatureContent timeSlot criteria.frequency assignmentHash
      let signature := rsa.sign generatorPk msg
      let assignment : TokenAssignment :=
        ⟨criteria.frequency, timeSlot, rsa.toPublicKey generatorPk, signature, assignmentHash,
          criteria.contract⟩
      pure (some (assignment, r.appendUnchecked assignment))

end TokenAllocationRecord

section Lemmas

variable {rsa}

theorem durationFromStd_of_le {d : Nat} (h : d ≤ maxChronoNanos) : durationFromStd d = some d := by
  simp [durationFromStd, h]

/-- With no assignment of the tier, the free slot is the oldest the
criteria allow. -/
theorem nextFreeAssignment_of_getTier_none {r : TokenAllocationRecord}
    {criteria : AllocationCriteria} {current normalized : DateTime}
    (hnorm : criteria.frequency.normalizeToNext current = some normalized)
    (hmax : criteria.maxAge ≤ maxChronoNanos) (h : r.getTier criteria.frequency = none) :
    r.nextFreeAssignment criteria current = some (some (normalized - (criteria.maxAge : Duration))) := by
  simp [TokenAllocationRecord.nextFreeAssignment, hnorm, durationFromStd_of_le hmax, h]

/-- What `assign` makes of a free slot: the assignment of the slot, signed
over its content, added to the record. -/
theorem assign_of_nextFreeAssignment {r : TokenAllocationRecord} {criteria : AllocationCriteria}
    {sk : RsaPrivateKey} {hash : Bytes32} {current timeSlot : DateTime}
    (h : r.nextFreeAssignment criteria current = some (some timeSlot)) :
    r.assign rsa criteria sk hash current =
      some (some (⟨criteria.frequency, timeSlot, rsa.toPublicKey sk,
        rsa.sign sk (TokenAssignment.signatureContent timeSlot criteria.frequency hash), hash,
          criteria.contract⟩,
        r.appendUnchecked ⟨criteria.frequency, timeSlot, rsa.toPublicKey sk,
          rsa.sign sk (TokenAssignment.signatureContent timeSlot criteria.frequency hash), hash,
            criteria.contract⟩)) := by
  simp [TokenAllocationRecord.assign, h]

/-! ### The walk over a tier's assignments -/

section Walk

variable {normalized : DateTime} {maxAge : Duration} {st : FreeSlotWalk} {a : TokenAssignment}

/-- An assignment before the oldest valid slot leaves the walk as it was. -/
theorem freeSlotStep_of_lt (h : a.timeSlot < normalized - maxAge) :
    freeSlotStep normalized maxAge st a = some st := by
  have hnle : ¬ normalized - maxAge ≤ a.timeSlot := by
    rw [DateTime.le_def]
    rw [DateTime.lt_def] at h
    omega
  rw [freeSlotStep, if_neg hnle]

/-- The walk over assignments that all lie before the oldest valid slot
ends where it started. -/
theorem foldlM_freeSlotStep_of_lt (st : FreeSlotWalk) {pre : List TokenAssignment}
    (hpre : ∀ p ∈ pre, p.timeSlot < normalized - maxAge) :
    pre.foldlM (freeSlotStep normalized maxAge) st = some st := by
  induction pre with
  | nil => rfl
  | cons p pre ih =>
      rw [List.foldlM_cons, freeSlotStep_of_lt (hpre p List.mem_cons_self)]
      exact ih fun q hq => hpre q (List.mem_cons_of_mem p hq)

/-- The first assignment of the window, on the oldest valid slot, makes the
slot after it the candidate: the slot before it lies outside the window. -/
theorem freeSlotStep_first_of_eq (h : a.timeSlot = normalized - maxAge) :
    freeSlotStep normalized maxAge ⟨none, none⟩ a = some ⟨some a, some a.nextSlot⟩ := by
  have hprev : ¬ normalized - maxAge < a.previousSlot := by
    have hd : (0 : Int) < a.tier.tierDuration := a.tier.tierDuration_pos
    rw [DateTime.lt_def, TokenAssignment.previousSlot, h]
    simp only [DateTime.nanos_sub]
    omega
  have hle : normalized - maxAge ≤ a.timeSlot := by simp [h]
  rw [freeSlotStep, if_pos hle]
  simp only [h, ne_eq, not_true_eq_false, if_false, if_neg hprev]

/-- An assignment on the candidate whose next slot lies past `normalized`
drops the candidate. -/
theorem freeSlotStep_drop (oldest : TokenAssignment) (hle : normalized - maxAge ≤ a.timeSlot)
    (hnext : normalized < a.nextSlot) :
    freeSlotStep normalized maxAge ⟨some oldest, some a.timeSlot⟩ a = some ⟨some oldest, none⟩ := by
  rw [freeSlotStep, if_pos hle]
  simp only [if_true, if_pos hnext]

/-- With the candidate dropped, an assignment in the window is the
`unreachable!()`. -/
theorem freeSlotStep_of_dropped (oldest : TokenAssignment) (hle : normalized - maxAge ≤ a.timeSlot) :
    freeSlotStep normalized maxAge ⟨some oldest, none⟩ a = none := by
  rw [freeSlotStep, if_pos hle]

end Walk

/-- `next_free_assignment` on a tier the record holds: the walk, then the
answer its state gives. -/
theorem nextFreeAssignment_of_getTier_some {r : TokenAllocationRecord}
    {criteria : AllocationCriteria} {current normalized : DateTime}
    (hnorm : criteria.frequency.normalizeToNext current = some normalized)
    (hmax : criteria.maxAge ≤ maxChronoNanos) {l : List TokenAssignment}
    (h : r.getTier criteria.frequency = some l) :
    r.nextFreeAssignment criteria current =
      (l.foldlM (freeSlotStep normalized criteria.maxAge) ⟨none, none⟩).bind fun st =>
        if st.oldestValidObserved.isNone then some (some (normalized - (criteria.maxAge : Duration)))
        else if st.firstValid.isSome then some st.firstValid
        else some none := by
  simp only [TokenAllocationRecord.nextFreeAssignment, hnorm, durationFromStd_of_le hmax, h,
    Option.bind_eq_bind, Option.bind_some, Option.pure_def]

/-- A tier whose assignments all lie before the window leaves its oldest
valid slot free. -/
theorem nextFreeAssignment_of_before_window {r : TokenAllocationRecord}
    {criteria : AllocationCriteria} {current normalized : DateTime}
    (hnorm : criteria.frequency.normalizeToNext current = some normalized)
    (hmax : criteria.maxAge ≤ maxChronoNanos) {l : List TokenAssignment}
    (h : r.getTier criteria.frequency = some l)
    (hl : ∀ p ∈ l, p.timeSlot < normalized - (criteria.maxAge : Duration)) :
    r.nextFreeAssignment criteria current = some (some (normalized - (criteria.maxAge : Duration))) := by
  rw [nextFreeAssignment_of_getTier_some hnorm hmax h, foldlM_freeSlotStep_of_lt _ hl]
  rfl

/-- With the oldest valid slot the only one taken in the window, the slot
after it is returned, whether or not it lies past `normalized`. -/
theorem nextFreeAssignment_of_oldest_taken {r : TokenAllocationRecord}
    {criteria : AllocationCriteria} {current normalized : DateTime}
    (hnorm : criteria.frequency.normalizeToNext current = some normalized)
    (hmax : criteria.maxAge ≤ maxChronoNanos) {pre : List TokenAssignment} {a : TokenAssignment}
    (h : r.getTier criteria.frequency = some (pre ++ [a]))
    (hpre : ∀ p ∈ pre, p.timeSlot < normalized - (criteria.maxAge : Duration))
    (ha : a.timeSlot = normalized - (criteria.maxAge : Duration)) :
    r.nextFreeAssignment criteria current = some (some a.nextSlot) := by
  rw [nextFreeAssignment_of_getTier_some hnorm hmax h, List.foldlM_append,
    foldlM_freeSlotStep_of_lt _ hpre, Option.bind_eq_bind, Option.bind_some, List.foldlM_cons,
    freeSlotStep_first_of_eq ha]
  rfl

end Lemmas

section FreeSlots

variable {rsa}

/-- For the hour tier, with a maximum age that is not a whole number of
hours, the generator assigns a slot off the hour grid when the record holds
no hourly token: the assignment is refused as invalid, yet `update_state`
takes it as a delta, and the record it gives is then refused by
`validate_state`. -/
theorem assign_off_hour_grid {R : TokenAllocationRecord} (hR : R.getTier .hour1 = none)
    {maxAge : Nat} {contract : Bytes32} {criteria : AllocationCriteria}
    (hnew : AllocationCriteria.new .hour1 maxAge contract = .ok criteria)
    (hgrid : maxAge % (3600 * 1000000000) ≠ 0) (sk : RsaPrivateKey) (hash : Bytes32)
    (current : DateTime) :
    ∃ a R', R.assign rsa criteria sk hash current = some (some (a, R')) ∧
      a.isValid rsa (rsa.toPublicKey sk) = .error .invalidSlot ∧
      ∃ R'', updateState rsa ⟨rsa.toPublicKey sk⟩ R [.delta a] = some (.ok R'') ∧
        validateState rsa ⟨rsa.toPublicKey sk⟩ R'' = .invalid := by
  -- the criteria are the hour tier's, with a maximum age within two years
  simp only [AllocationCriteria.new] at hnew
  split at hnew
  · next hle =>
      cases hnew
      obtain ⟨n, hn, hngrid⟩ := Tier.normalizeToNext_hour1 current
      have hfree : R.nextFreeAssignment ⟨.hour1, maxAge, contract⟩ current =
          some (some (n - (maxAge : Duration))) :=
        nextFreeAssignment_of_getTier_none hn (by simp only [maxChronoNanos]; omega) hR
      set a : TokenAssignment := ⟨.hour1, n - (maxAge : Duration), rsa.toPublicKey sk,
        rsa.sign sk (TokenAssignment.signatureContent (n - (maxAge : Duration)) .hour1 hash), hash,
        contract⟩ with ha
      -- the slot is off the grid: `normalized` is on it and `max_age` is not
      have hoff : a.tier.isValidSlot a.timeSlot = false := by
        rw [Bool.eq_false_iff]
        intro hvalid
        rw [ha, Tier.isValidSlot_hour1, DateTime.nanos_sub] at hvalid
        simp only [nanosPerSec] at hvalid hngrid
        omega
      have hinvalid : a.isValid rsa (rsa.toPublicKey sk) = .error .invalidSlot :=
        TokenAssignment.isValid_of_invalidSlot hoff _
      -- `update_state` appends it unchecked, to a tier the record does not hold
      have hRa : R.getTier a.tier = none := hR
      have hupdate : updateState rsa ⟨rsa.toPublicKey sk⟩ R [.delta a] =
          some (.ok (R.insert .hour1 [a])) :=
        updateState_delta_of_getTier_none hRa
      refine ⟨a, _, assign_of_nextFreeAssignment hfree, hinvalid, _, hupdate, ?_⟩
      apply validateState_of_not_isOk (a := a)
      · exact TokenAllocationRecord.mem_assignments.mpr
          ⟨.hour1, [a], TokenAllocationRecord.getTier_insert_self _ _ _, List.mem_singleton_self a⟩
      · rw [hinvalid]
        rfl
  · cases hnew

theorem assign_off_hour_grid_half_hour :
    ∃ a R', TokenAllocationRecord.empty.assign echoScheme
        ⟨.hour1, 1800 * 1000000000, Bytes32.replicate 0⟩ [7] (Bytes32.replicate 0) ⟨0⟩ =
          some (some (a, R')) ∧
      a.isValid echoScheme (echoScheme.toPublicKey [7]) = .error .invalidSlot ∧
      ∃ R'', updateState echoScheme ⟨echoScheme.toPublicKey [7]⟩ TokenAllocationRecord.empty [.delta a] =
          some (.ok R'') ∧
        validateState echoScheme ⟨echoScheme.toPublicKey [7]⟩ R'' = .invalid :=
  @assign_off_hour_grid echoScheme TokenAllocationRecord.empty rfl (1800 * 1000000000)
    (Bytes32.replicate 0) _ rfl (by decide) [7] (Bytes32.replicate 0) ⟨0⟩

/-- A tier whose window starts with its oldest valid slot taken, then the
slot after it, the last of the window, and then a later assignment: the walk
drops its candidate at the second and meets the third, the
`unreachable!()`. -/
theorem nextFreeAssignment_panics {R : TokenAllocationRecord} {criteria : AllocationCriteria}
    {current normalized : DateTime}
    (hnorm : criteria.frequency.normalizeToNext current = some normalized)
    (hmax : criteria.maxAge ≤ maxChronoNanos) {pre rest : List TokenAssignment}
    {a b c : TokenAssignment} (h : R.getTier criteria.frequency = some (pre ++ a :: b :: c :: rest))
    (hpre : ∀ p ∈ pre, p.timeSlot < normalized - (criteria.maxAge : Duration))
    (ha : a.timeSlot = normalized - (criteria.maxAge : Duration)) (hb : b.timeSlot = a.nextSlot)
    (hnext : normalized < b.nextSlot) (hc : b.timeSlot < c.timeSlot) :
    R.nextFreeAssignment criteria current = none := by
  -- `b` and `c` lie in the window too, after `a`
  have hd : (0 : Int) < a.tier.tierDuration := a.tier.tierDuration_pos
  have hb_le : normalized - (criteria.maxAge : Duration) ≤ b.timeSlot := by
    rw [hb, TokenAssignment.nextSlot, ← ha, DateTime.le_def, DateTime.nanos_add]
    omega
  have hc_le : normalized - (criteria.maxAge : Duration) ≤ c.timeSlot := by
    rw [DateTime.le_def] at hb_le ⊢
    rw [DateTime.lt_def] at hc
    omega
  have hstep₁ := freeSlotStep_first_of_eq ha
  have hstep₂ := freeSlotStep_drop a hb_le hnext
  rw [hb] at hstep₂
  have hstep₃ := freeSlotStep_of_dropped (a := c) a hc_le
  simp only [nextFreeAssignment_of_getTier_some hnorm hmax h, List.foldlM_append,
    foldlM_freeSlotStep_of_lt _ hpre, List.foldlM_cons, hstep₁, hstep₂, hstep₃, Option.bind_eq_bind,
    Option.bind_some, Option.bind_none]

/-- The one-minute tier at the epoch with no maximum age: the window is the
epoch's slot alone, and the record holds it and the next two minutes. -/
theorem nextFreeAssignment_panics_min1 :
    let a : TokenAssignment := default
    let b : TokenAssignment := { a with timeSlot := ⟨60 * nanosPerSec⟩ }
    let c : TokenAssignment := { a with timeSlot := ⟨120 * nanosPerSec⟩ }
    [a, b, c].Pairwise (fun x y => x.timeSlot < y.timeSlot) ∧
      (TokenAllocationRecord.empty.insert .min1 [a, b, c]).nextFreeAssignment
        ⟨.min1, 0, Bytes32.replicate 0⟩ ⟨0⟩ = none :=
  ⟨by decide, @nextFreeAssignment_panics _ _ _ ⟨0⟩ (by decide) (by decide) [] [] _ _ _ rfl (by simp)
    (by decide) (by decide) (by decide) (by decide)⟩

end FreeSlots

end FreenetCore.Antiflood
