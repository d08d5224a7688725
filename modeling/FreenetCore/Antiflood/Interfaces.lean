import FreenetCore.Lib.Civil
import FreenetCore.Lib.Crypto
import FreenetCore.Lib.Bytes
import FreenetCore.Stdlib.ContractInterface

/-!
The anti-flood token interfaces (`antiflood-tokens/interfaces`): tiers and
their time slots, token assignments and their signatures, and the record of
the tokens a generator has allocated.

A tier is a frequency, from one token a minute to one a year. Its time slots
are the times on its grid: `is_valid_slot` checks a time against the grid,
and `normalize_to_next` moves a time onto it. A token assignment is a slot of
a tier, signed by the generator together with the hash of what the token is
assigned to; `is_valid` checks the slot and then the signature over
`signature_content`. The allocation record keeps the assignments by tier,
each tier's list sorted by time slot.

Keys are byte strings, and RSA with PKCS#1 v1.5 and SHA-256 is a
`Crypto.SignatureScheme`, `rsa`, which every definition that signs or
verifies takes. An `unwrap` that can fail makes its function return an
`Option`, `none` being the panic; the `unwrap` of `get_date(y, 12, 31)`
cannot, and is taken with its proof. A `std::time::Duration` is its
nanoseconds. A tier's duration goes through `to_std` and `from_std`
unchanged, so it is kept as a `chrono::Duration`.
-/

namespace FreenetCore.Antiflood

open Civil Crypto Bytes FreenetCore.WasmRuntime

/-- `Assignee`, an `RsaPublicKey`, as its bytes. -/
abbrev RsaPublicKey := List UInt8

/-- `RsaPrivateKey`, as its bytes. -/
abbrev RsaPrivateKey := List UInt8

/-- `Tier`. -/
inductive Tier
  | min1 | min5 | min10 | min30
  | hour1 | hour3 | hour6 | hour12
  | day1 | day7 | day15 | day30 | day90 | day180 | day365
  deriving DecidableEq, Repr

namespace Tier

/-- Every tier, in the enumeration's order. -/
def all : List Tier :=
  [min1, min5, min10, min30, hour1, hour3, hour6, hour12, day1, day7, day15, day30, day90, day180, day365]

theorem mem_all (t : Tier) : t ∈ all := by
  cases t <;> decide

/-- `tier as u8` (the enumeration is `repr(u8)`). -/
def toU8 : Tier → UInt8
  | min1 => 0 | min5 => 1 | min10 => 2 | min30 => 3
  | hour1 => 4 | hour3 => 5 | hour6 => 6 | hour12 => 7
  | day1 => 8 | day7 => 9 | day15 => 10 | day30 => 11 | day90 => 12 | day180 => 13 | day365 => 14

/-- `Tier::tier_duration`. -/
def tierDuration : Tier → Duration
  | min1 => Duration.minutes 1
  | min5 => Duration.minutes 5
  | min10 => Duration.minutes 10
  | min30 => Duration.minutes 30
  | hour1 => Duration.hours 1
  | hour3 => Duration.hours 3
  | hour6 => Duration.hours 6
  | hour12 => Duration.hours 12
  | day1 => Duration.days 1
  | day7 => Duration.days 7
  | day15 => Duration.days 15
  | day30 => Duration.days 30
  | day90 => Duration.days 90
  | day180 => Duration.days 180
  | day365 => Duration.days 365

theorem tierDuration_pos (tier : Tier) : 0 < tier.tierDuration := by
  cases tier <;> simp [tierDuration, Duration.minutes, Duration.hours, Duration.days, nanosPerSec]

end Tier

/-- `get_date`: midnight of a date; `none` is the `unwrap` of a date that
does not exist. -/
def getDate (y : Int) (m d : Nat) : Option DateTime := DateTime.ofYmd y m d

theorem getDate_dec31_isSome (y : Int) : (getDate y 12 31).isSome := by
  simp [getDate, DateTime.ofYmd, daysInMonth]

/-- `get_date(y, 12, 31)`, which always exists. -/
def lastDayOf (y : Int) : DateTime := (getDate y 12 31).get (getDate_dec31_isSome y)

/-- The days from the last day of the year before, as the day tiers count
them: `(dt - get_date(dt.year() - 1, 12, 31)).num_days()`. -/
def daysInYear (dt : DateTime) : Int := Duration.numDays (dt.diff (lastDayOf (dt.year - 1)))

namespace Tier

/-- `Tier::check_is_correct_minute`. -/
def checkIsCorrectMinute (dt : DateTime) (baseMin : Nat) : Bool :=
  dt.second == 0 && dt.nanosecond == 0 && dt.minute % baseMin == 0

/-- `Tier::check_is_correct_hour`. -/
def checkIsCorrectHour (dt : DateTime) (baseHour : Nat) : Bool :=
  dt.minute == 0 && dt.second == 0 && dt.nanosecond == 0 && dt.hour % baseHour == 0

/-- `Tier::check_is_correct_day`; `%` on `i64` is `Int.tmod`. -/
def checkIsCorrectDay (dt : DateTime) (baseDay : Int) : Bool :=
  dt.hour == 0 && dt.minute == 0 && dt.second == 0 && dt.nanosecond == 0 &&
    (daysInYear dt).tmod baseDay == 0

/-- `Tier::is_valid_slot`. -/
def isValidSlot : Tier → DateTime → Bool
  | min1, dt => dt.nanosecond == 0 && dt.second == 0
  | min5, dt => checkIsCorrectMinute dt 5
  | min10, dt => checkIsCorrectMinute dt 10
  | min30, dt => checkIsCorrectMinute dt 30
  | hour1, dt => dt.nanosecond == 0 && dt.second == 0 && dt.minute == 0
  | hour3, dt => checkIsCorrectHour dt 3
  | hour6, dt => checkIsCorrectHour dt 6
  | hour12, dt => checkIsCorrectHour dt 12
  | day1, dt => dt.nanosecond == 0 && dt.second == 0 && dt.minute == 0 && dt.hour == 0
  | day7, dt => checkIsCorrectDay dt 7
  | day15, dt => checkIsCorrectDay dt 15
  | day30, dt => checkIsCorrectDay dt 30
  | day90, dt => checkIsCorrectDay dt 90
  | day180, dt => checkIsCorrectDay dt 180
  | day365, dt => checkIsCorrectDay dt 365

/-- `Tier::normalize_to_next_minute`. A time on a multiple of the base
minute but not at its start is cut back to that minute. -/
def normalizeToNextMinute (tier : Tier) (time : DateTime) (baseMinute : Nat) : Option DateTime :=
  let isRounded := time.minute % baseMinute == 0 && time.second == 0 && time.nanosecond == 0
  if !isRounded then do
    let time := (← time.withSecond 0).truncSubsecs
    let remainderMinutes := time.minute % baseMinute
    if remainderMinutes != 0 then
      let time ← time.withMinute (time.minute - remainderMinutes)
      pure (time + tier.tierDuration)
    else pure time
  else pure time

/-- `Tier::normalize_to_next_hour`. -/
def normalizeToNextHour (tier : Tier) (time : DateTime) (baseHour : Nat) : Option DateTime :=
  let isRounded := time.hour % baseHour == 0 && time.minute == 0 && time.second == 0 &&
    time.nanosecond == 0
  if !isRounded then do
    let time := (← (← time.withSecond 0).withMinute 0).truncSubsecs
    let remainderHours := time.hour % baseHour
    if remainderHours != 0 then
      let time ← time.withHour (time.hour - remainderHours)
      pure (time + tier.tierDuration)
    else pure time
  else pure time

/-- `Tier::normalize_to_next_day`. The remainder is the day count's, cast
`as u32`; `time.day() - remainder_days` on `u32` panics in a debug build
when it underflows and wraps out of `with_day`'s range in a release one, and
the truncated subtraction of `Nat` gives `0`, which `with_day` refuses
too. -/
def normalizeToNextDay (tier : Tier) (time : DateTime) (baseDay : Int) : Option DateTime :=
  let delta := daysInYear time
  let isRounded := time.hour == 0 && time.minute == 0 && time.second == 0 &&
    time.nanosecond == 0 && delta.tmod baseDay == 0
  if !isRounded then do
    let time := (← (← (← time.withSecond 0).withMinute 0).withHour 0).truncSubsecs
    let remainderDays := (delta.tmod baseDay % 2 ^ 32).toNat
    if remainderDays != 0 then
      let time ← time.withDay (time.day - remainderDays)
      pure (time + tier.tierDuration)
    else pure time
  else pure time

/-- `Tier::normalize_to_next`. The one-minute tier takes a time at the
start of a second of hour `0` as rounded, and the thirty-minute tier
normalizes on a grid of fifteen minutes, as the source has them. -/
def normalizeToNext (tier : Tier) (time : DateTime) : Option DateTime :=
  match tier with
  | min1 =>
      let isRounded := time.hour == 0 && time.second == 0 && time.nanosecond == 0
      if !isRounded then do
        let time := (← time.withSecond 0).truncSubsecs
        pure (time + min1.tierDuration)
      else pure time
  | min5 => normalizeToNextMinute min5 time 5
  | min10 => normalizeToNextMinute min10 time 10
  | min30 => normalizeToNextMinute min30 time 15
  | hour1 =>
      let isRounded := time.hour == 0 && time.minute == 0 && time.second == 0 &&
        time.nanosecond == 0
      if !isRounded then do
        let time := (← (← time.withSecond 0).withMinute 0).truncSubsecs
        pure (time + hour1.tierDuration)
      else pure time
  | hour3 => normalizeToNextHour hour3 time 3
  | hour6 => normalizeToNextHour hour6 time 6
  | hour12 => normalizeToNextHour hour12 time 12
  | day1 =>
      let isRounded := time.hour == 0 && time.minute == 0 && time.second == 0 &&
        time.nanosecond == 0
      if !isRounded then do
        let time := (← (← (← time.withSecond 0).withMinute 0).withHour 0).truncSubsecs
        pure (time + day1.tierDuration)
      else pure time
  | day7 => normalizeToNextDay day7 time 7
  | day15 => normalizeToNextDay day15 time 15
  | day30 => normalizeToNextDay day30 time 30
  | day90 => normalizeToNextDay day90 time 90
  | day180 => normalizeToNextDay day180 time 180
  | day365 => normalizeToNextDay day365 time 365

/-- The slots of the hour tier are the starts of the hours. -/
theorem isValidSlot_hour1 (dt : DateTime) :
    hour1.isValidSlot dt = true ↔ dt.nanos % (3600 * nanosPerSec) = 0 := by
  simp only [isValidSlot, Bool.and_eq_true, beq_iff_eq, and_assoc]
  exact DateTime.startOfHour_iff dt

/-- The hour tier normalizes every time to the start of an hour: a time
already at one is kept, any other goes to the start of the next. -/
theorem normalizeToNext_hour1 (time : DateTime) :
    ∃ n, hour1.normalizeToNext time = some n ∧ n.nanos % (3600 * nanosPerSec) = 0 := by
  simp only [normalizeToNext]
  split
  · next hround =>
      obtain ⟨u, hu⟩ : ∃ u, time.withSecond 0 = some u := ⟨_, by simp [DateTime.withSecond]; rfl⟩
      obtain ⟨v, hv⟩ : ∃ v, u.withMinute 0 = some v := ⟨_, by simp [DateTime.withMinute]; rfl⟩
      have htrunc := DateTime.truncSubsecs_withMinute_withSecond hu hv
      refine ⟨v.truncSubsecs + hour1.tierDuration, by simp [hu, hv], ?_⟩
      simp only [DateTime.nanos_add, htrunc, tierDuration, Duration.hours, nanosPerSec] at *
      omega
  · next hround =>
      have hrounded : time.hour = 0 ∧ time.minute = 0 ∧ time.second = 0 ∧ time.nanosecond = 0 := by
        simpa [and_assoc] using hround
      exact ⟨time, rfl, (DateTime.startOfHour_iff time).mp
        ⟨hrounded.2.2.2, hrounded.2.2.1, hrounded.2.1⟩⟩

/-- On a multiple of the base minute but past its start, the minute tiers
cut the time back to the start of its minute: the remainder of the minutes
is zero, so nothing is added. -/
theorem normalizeToNextMinute_of_multiple (tier : Tier) {time : DateTime} {baseMinute : Nat}
    (hmin : time.minute % baseMinute = 0) (hsec : time.second ≠ 0) :
    normalizeToNextMinute tier time baseMinute =
      some ⟨time.nanos - time.nanos % (60 * nanosPerSec)⟩ := by
  obtain ⟨u, hu⟩ : ∃ u, time.withSecond 0 = some u := ⟨_, by simp [DateTime.withSecond]; rfl⟩
  have hu' : u.nanos = time.nanos - time.second * nanosPerSec := by
    simp only [DateTime.withSecond, Nat.ofNat_pos, if_true, Option.some.injEq] at hu
    rw [← hu]
    ring
  have htrunc : u.truncSubsecs.nanos = time.nanos - time.nanos % (60 * nanosPerSec) := by
    simp only [DateTime.truncSubsecs, DateTime.nanosecond, hu', DateTime.second, DateTime.timestamp,
      nanosPerSec]
    omega
  -- cutting the seconds keeps the minute
  have hminute : u.truncSubsecs.minute = time.minute := by
    simp only [DateTime.minute, DateTime.timestamp, htrunc, nanosPerSec]
    omega
  have hsecb : (time.second == 0) = false := by simpa using hsec
  simp only [normalizeToNextMinute, hsecb, Bool.and_false, Bool.false_and, Bool.not_false, if_true, hu,
    Option.bind_eq_bind, Option.bind_some, hminute, hmin, bne_self_eq_false, Bool.false_eq_true,
    if_false, Option.pure_def, Option.some.injEq]
  exact DateTime.ext htrunc

end Tier

/-- `InvalidReason`. -/
inductive InvalidReason
  | invalidSlot
  | signatureMismatch
  deriving DecidableEq, Repr

/-- `TokenAssignment`. `token_record` is the `ContractInstanceId` of the
contract holding the assignee's records. -/
structure TokenAssignment where
  tier : Tier
  timeSlot : DateTime
  generator : RsaPublicKey
  signature : List UInt8
  assignmentHash : Bytes32
  tokenRecord : Bytes32
  deriving DecidableEq

namespace TokenAssignment

/-- `TokenAssignment::signature_content`: the tier's byte, the slot's
timestamp as a little-endian `i64`, and the assignment hash. -/
def signatureContent (issueTime : DateTime) (tier : Tier) (assignmentHash : Bytes32) : List UInt8 :=
  [tier.toU8] ++ i64le issueTime.timestamp ++ assignmentHash.val

/-- `TokenAssignment::next_slot`. -/
def nextSlot (a : TokenAssignment) : DateTime := a.timeSlot + a.tier.tierDuration

/-- `TokenAssignment::previous_slot`. -/
def previousSlot (a : TokenAssignment) : DateTime := a.timeSlot - a.tier.tierDuration

/-- `TokenAssignment::is_valid`: the slot first, then the signature. -/
def isValid (rsa : SignatureScheme RsaPrivateKey RsaPublicKey) (a : TokenAssignment)
    (verifyingKey : RsaPublicKey) : Except InvalidReason Unit :=
  if !a.tier.isValidSlot a.timeSlot then .error .invalidSlot
  else if !rsa.verify verifyingKey (signatureContent a.timeSlot a.tier a.assignmentHash) a.signature then
    .error .signatureMismatch
  else .ok ()

/-- An assignment on an invalid slot is refused for its slot, whatever its
signature. -/
theorem isValid_of_invalidSlot {rsa : SignatureScheme RsaPrivateKey RsaPublicKey}
    {a : TokenAssignment} (h : a.tier.isValidSlot a.timeSlot = false) (key : RsaPublicKey) :
    a.isValid rsa key = .error .invalidSlot := by
  simp [isValid, h]

/-- An assignment on a valid slot signed by the key's private key is
valid. -/
theorem isValid_of_sign {rsa : SignatureScheme RsaPrivateKey RsaPublicKey}
    {a : TokenAssignment} {sk : RsaPrivateKey} (hslot : a.tier.isValidSlot a.timeSlot = true)
    (hsig : a.signature = rsa.sign sk (signatureContent a.timeSlot a.tier a.assignmentHash)) :
    a.isValid rsa (rsa.toPublicKey sk) = .ok () := by
  simp [isValid, hslot, hsig]

end TokenAssignment

instance : Inhabited TokenAssignment := ⟨⟨.min1, ⟨0⟩, [], [], Bytes32.replicate 0, Bytes32.replicate 0⟩⟩

/-- `Ord for TokenAssignment`: by time slot alone. -/
instance : Ord TokenAssignment := ⟨fun a b => compare a.timeSlot b.timeSlot⟩

/-- `sort_unstable` of a tier's assignments, by time slot. A stable sort
stands for it: the two differ only in the order of assignments of one
slot. -/
def sortUnstable (l : List TokenAssignment) : List TokenAssignment :=
  l.mergeSort fun a b => decide (a.timeSlot ≤ b.timeSlot)

theorem mem_sortUnstable {l : List TokenAssignment} {a : TokenAssignment} :
    a ∈ sortUnstable l ↔ a ∈ l :=
  (List.mergeSort_perm l _).mem_iff

/-- Sorting a list whose slots are distinct makes it strictly increasing in
slot. -/
theorem sortUnstable_pairwise_lt {l : List TokenAssignment} (hl : (l.map (·.timeSlot.nanos)).Nodup) :
    (sortUnstable l).Pairwise (fun a b => a.timeSlot < b.timeSlot) := by
  have hsorted : (sortUnstable l).Pairwise (fun a b => decide (a.timeSlot ≤ b.timeSlot) = true) :=
    List.pairwise_mergeSort
      (fun a b c hab hbc => by simp only [decide_eq_true_eq, DateTime.le_def] at *; omega)
      (fun a b => by simpa using Int.le_total a.timeSlot.nanos b.timeSlot.nanos) l
  have hne : (sortUnstable l).Pairwise (fun a b => a.timeSlot.nanos ≠ b.timeSlot.nanos) :=
    List.pairwise_map.mp (((List.mergeSort_perm l _).map _).nodup_iff.mpr hl)
  exact (hsorted.and hne).imp fun h => lt_of_le_of_ne (by simpa using h.1) h.2

/-- `TokenAllocationRecord`: the assignments of each tier. -/
structure TokenAllocationRecord where
  tokensByTier : Tier → Option (List TokenAssignment)

namespace TokenAllocationRecord

/-- The record with no tier (`Default`). -/
def empty : TokenAllocationRecord := ⟨fun _ => none⟩

/-- `TokenAllocationRecord::get_tier`. -/
def getTier (r : TokenAllocationRecord) (tier : Tier) : Option (List TokenAssignment) :=
  r.tokensByTier tier

/-- `TokenAllocationRecord::insert`. -/
def insert (r : TokenAllocationRecord) (tier : Tier) (assignments : List TokenAssignment) :
    TokenAllocationRecord :=
  ⟨Function.update r.tokensByTier tier (some assignments)⟩

/-- `TokenAllocationRecord::new`: each tier's list sorted. -/
def new (tokens : Tier → Option (List TokenAssignment)) : TokenAllocationRecord :=
  ⟨fun tier => (tokens tier).map sortUnstable⟩

@[simp] theorem getTier_empty (tier : Tier) : empty.getTier tier = none := rfl

@[simp] theorem getTier_insert_self (r : TokenAllocationRecord) (tier : Tier)
    (assignments : List TokenAssignment) : (r.insert tier assignments).getTier tier = some assignments := by
  simp [insert, getTier]

theorem getTier_insert_of_ne (r : TokenAllocationRecord) {tier tier' : Tier}
    (assignments : List TokenAssignment) (h : tier' ≠ tier) :
    (r.insert tier assignments).getTier tier' = r.getTier tier' := by
  simp [insert, getTier, h]

/-- A record built from the empty one holds the one tier it was given. -/
theorem eq_of_getTier_empty_insert {tier tier' : Tier} {l l' : List TokenAssignment}
    (h : (empty.insert tier l).getTier tier' = some l') : tier' = tier ∧ l' = l := by
  by_cases ht : tier' = tier
  · subst ht
    rw [getTier_insert_self, Option.some.injEq] at h
    exact ⟨rfl, h.symm⟩
  · rw [getTier_insert_of_ne _ _ ht, getTier_empty] at h
    cases h

/-- The record's tiers with their lists, as iterating the map gives them. -/
def entries (r : TokenAllocationRecord) : List (Tier × List TokenAssignment) :=
  Tier.all.filterMap fun tier => (r.getTier tier).map (tier, ·)

/-- Every assignment of the record, tier by tier. -/
def assignments (r : TokenAllocationRecord) : List TokenAssignment :=
  r.entries.flatMap Prod.snd

theorem mem_entries {r : TokenAllocationRecord} {tier : Tier} {l : List TokenAssignment} :
    (tier, l) ∈ r.entries ↔ r.getTier tier = some l := by
  simp [entries, Tier.mem_all]

theorem mem_assignments {r : TokenAllocationRecord} {a : TokenAssignment} :
    a ∈ r.assignments ↔ ∃ tier l, r.getTier tier = some l ∧ a ∈ l := by
  simp [assignments, mem_entries]

/-- `TokenAllocationSummary`: the timestamps of each tier's slots. -/
structure TokenAllocationSummary where
  byTier : Tier → Option (List Int)

/-- `TokenAllocationSummary::contains_alloc`: whether the tier's list holds
the slot's timestamp. -/
def TokenAllocationSummary.containsAlloc (summary : TokenAllocationSummary) (tier : Tier) (slot : DateTime) :
    Bool :=
  match summary.byTier tier with
  | some assignments => assignments.any (· == slot.timestamp)
  | none => false

/-- `TokenAllocationRecord::summarize`. -/
def summarize (r : TokenAllocationRecord) : TokenAllocationSummary :=
  ⟨fun tier => (r.getTier tier).map (·.map (·.timeSlot.timestamp))⟩

/-- `TokenAllocationRecord::delta`: for each tier of the summary that the
record also holds, the record's assignments whose timestamp the summary's
list of the tier does not hold, by binary search; a tier the summary lacks
is left out. -/
def delta (r : TokenAllocationRecord) (summary : TokenAllocationSummary) : TokenAllocationRecord :=
  ⟨fun tier =>
    match summary.byTier tier with
    | none => none
    | some summaryAssignments =>
        (r.getTier tier).map fun assigned =>
          assigned.filter fun a =>
            !(BinarySearch.binarySearchBy (fun ts => compare ts a.timeSlot.timestamp)
              summaryAssignments).isOk⟩

/-- `TokenAllocationRecord::assignment_exists`: whether the record's list
of the tier has the assignment's slot, by binary search. -/
def assignmentExists (r : TokenAllocationRecord) (record : TokenAssignment) : Bool :=
  match r.getTier record.tier with
  | none => false
  | some assignments =>
      (BinarySearch.binarySearchBy (fun (t : TokenAssignment) => compare t.timeSlot record.timeSlot)
        assignments).isOk

end TokenAllocationRecord

/-- `AllocationError`, the errors of allocating and appending tokens. -/
inductive AllocationError
  | allocatedSlot (tier : Tier) (slot : DateTime)
  | incorrectMaxAge
  | invalidAssignment (record : TokenAssignment) (reason : InvalidReason)

/-- `AllocationCriteria`; `max_age` in nanoseconds. -/
structure AllocationCriteria where
  frequency : Tier
  maxAge : Nat
  contract : Bytes32

/-- `AllocationCriteria::new`: a maximum age of two years at most. -/
def AllocationCriteria.new (frequency : Tier) (maxAge : Nat) (contract : Bytes32) :
    Except AllocationError AllocationCriteria :=
  if maxAge ≤ 3600 * 24 * 365 * 2 * 1000000000 then .ok ⟨frequency, maxAge, contract⟩
  else .error .incorrectMaxAge

/-- `TokenDelegateParameters`: the contract's parameters. -/
structure TokenDelegateParameters where
  generatorPublicKey : RsaPublicKey

namespace TokenAllocationRecord

/-- On a tier the summarized record holds in slot order, `delta` keeps
exactly the assignments whose timestamp that record's list lacks. -/
theorem getTier_delta_of_sorted {A B : TokenAllocationRecord} {tier : Tier}
    {la lb : List TokenAssignment} (hA : A.getTier tier = some la)
    (hsorted : la.Pairwise (fun x y => x.timeSlot ≤ y.timeSlot)) (hB : B.getTier tier = some lb) :
    (B.delta A.summarize).getTier tier =
      some (lb.filter fun b => b.timeSlot.timestamp ∉ la.map (·.timeSlot.timestamp)) := by
  -- the summary's list is sorted too, as the timestamp rounds down
  have hts : (la.map (·.timeSlot.timestamp)).Pairwise (fun x y => id x ≤ id y) :=
    List.pairwise_map.mpr (hsorted.imp fun h => Int.ediv_le_ediv (by simp [nanosPerSec]) h)
  simp only [getTier, delta, summarize] at hA hB ⊢
  rw [hA, hB]
  simp only [Option.map_some, Option.some.injEq]
  congr 1
  funext b
  have hiff := BinarySearch.binarySearchBy_isOk_iff id hts b.timeSlot.timestamp
  simp only [id] at hiff
  by_cases hmem : ∃ a ∈ la.map (·.timeSlot.timestamp), a = b.timeSlot.timestamp
  · rw [hiff.mpr hmem]
    obtain ⟨a, ha, rfl⟩ := hmem
    simp [ha]
  · have hnot : ¬ b.timeSlot.timestamp ∈ la.map (·.timeSlot.timestamp) := fun h => hmem ⟨_, h, rfl⟩
    rw [Bool.eq_false_iff.mpr (fun h => hmem (hiff.mp h))]
    simp [hnot]

theorem getTier_delta_of_sorted_min1 :
    let a : TokenAssignment := default
    let b : TokenAssignment := { a with timeSlot := ⟨60000000000⟩ }
    [a].Pairwise (fun x y => x.timeSlot ≤ y.timeSlot) ∧
      ((empty.insert .min1 [a, b]).delta (empty.insert .min1 [a]).summarize).getTier .min1 =
        some ([a, b].filter fun x => x.timeSlot.timestamp ∉ [a].map (·.timeSlot.timestamp)) :=
  ⟨by simp, getTier_delta_of_sorted (getTier_insert_self _ _ _) (by simp) (getTier_insert_self _ _ _)⟩

end TokenAllocationRecord

section SlotsAndDeltas

/-- The five-minute tier takes a time on a multiple of five minutes, past
the start of its minute, back to that start: the slot it returns is valid
but lies before the time. -/
theorem normalizeToNext_before_time {t : DateTime} (hmin : t.minute % 5 = 0) (hsec : t.second ≠ 0) :
    ∃ n, Tier.min5.normalizeToNext t = some n ∧ n < t ∧ Tier.min5.isValidSlot n = true := by
  refine ⟨_, Tier.normalizeToNextMinute_of_multiple .min5 hmin hsec, ?_, ?_⟩
  · -- the seconds cut off are not zero
    simp only [DateTime.lt_def]
    simp only [DateTime.second, DateTime.timestamp, nanosPerSec] at hsec
    simp only [nanosPerSec]
    omega
  · simp only [Tier.isValidSlot, Tier.checkIsCorrectMinute, Bool.and_eq_true, beq_iff_eq]
    simp only [DateTime.minute, DateTime.second, DateTime.nanosecond, DateTime.timestamp, nanosPerSec]
      at hmin ⊢
    omega

theorem normalizeToNext_before_time_thirty :
    (⟨30 * nanosPerSec⟩ : DateTime).minute % 5 = 0 ∧ (⟨30 * nanosPerSec⟩ : DateTime).second ≠ 0 ∧
      ∃ n, Tier.min5.normalizeToNext ⟨30 * nanosPerSec⟩ = some n ∧ n < ⟨30 * nanosPerSec⟩ ∧
        Tier.min5.isValidSlot n = true :=
  ⟨by decide, by decide, normalizeToNext_before_time (by decide) (by decide)⟩

/-- `delta` walks the tiers of the summary only: a tier the summarized
record lacks is left out of the delta, though every assignment the other
record holds of it is missing from the summarized one. -/
theorem delta_skips_tier_missing_from_summary {A B : TokenAllocationRecord} {tier : Tier}
    {lb : List TokenAssignment} (hA : A.getTier tier = none) (hB : B.getTier tier = some lb) :
    (B.delta A.summarize).getTier tier = none ∧
      (B.getTier tier).map (List.filter fun b => b.timeSlot.timestamp ∉ (A.summarize.byTier tier).getD []) =
        some lb := by
  have hsum : A.summarize.byTier tier = none := by
    simp only [TokenAllocationRecord.summarize, hA, Option.map_none]
  constructor
  · simp only [TokenAllocationRecord.getTier, TokenAllocationRecord.delta, hsum]
  · -- the summary has no list of the tier, so no assignment of it is found there
    rw [hB, hsum, Option.getD_none, Option.map_some, Option.some.injEq, List.filter_eq_self]
    simp

/-- A record with one assignment of the one-minute tier, against the empty
record's summary. -/
theorem delta_skips_tier_missing_from_summary_min1 :
    ((TokenAllocationRecord.empty.insert .min1 [default]).delta
        TokenAllocationRecord.empty.summarize).getTier .min1 = none ∧
      ((TokenAllocationRecord.empty.insert .min1 [default]).getTier .min1).map
          (List.filter fun b => b.timeSlot.timestamp ∉
            (TokenAllocationRecord.empty.summarize.byTier .min1).getD []) =
        some [default] :=
  delta_skips_tier_missing_from_summary rfl (TokenAllocationRecord.getTier_insert_self _ _ _)

end SlotsAndDeltas

end FreenetCore.Antiflood
