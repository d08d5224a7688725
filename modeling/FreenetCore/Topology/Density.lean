import FreenetCore.Lib.BTreeMap
import FreenetCore.Lib.Circle
import FreenetCore.Lib.Since
import FreenetCore.Operations.Common

/-!
The density of a node's requests around the ring
(`topology/request_density_tracker.rs`).

`RequestDensityTracker` keeps the locations of the node's last
`window_size` requests twice: as a queue (`request_list`) and as a count per
location (`request_locations`). `create_density_map` credits each sampled
location's count to one of its two neighbours on the ring, the previous
(the greatest location below it, or the last) when it is strictly nearer,
the next (the least location from it on, or the first) otherwise. The
`DensityMap` it builds answers the density at a location, interpolated
between the location's two neighbours, and the midpoint of the densest
pair of adjacent neighbours.

Locations are rationals. So are the `f64` results, except where a division
by zero makes them infinite or not a number, which is `none`. The
tracker's `samples` counter is read by nothing and is left out.
-/

namespace FreenetCore.Topology

open FreenetCore.Operations MachineInt

/-- On locations of the ring, `Location::distance` is the distance the short
way round. -/
theorem Location.distance_eq_arcDist (a b : Location) :
    Location.distance a b = Circle.arcDist a b := by
  unfold Location.distance Circle.arcDist
  dsimp only
  split_ifs with h
  · rw [min_eq_left (by linarith)]
  · rw [min_eq_right (by linarith)]

/-- `RequestDensityTracker`. -/
structure RequestDensityTracker where
  requestLocations : BTreeMap Location Nat
  requestList : List Location
  windowSize : Nat

/-- `RequestDensityTracker::new`. -/
def RequestDensityTracker.new (windowSize : Nat) : RequestDensityTracker :=
  ⟨.empty, [], windowSize⟩

/-- `RequestDensityTracker::sample`; `none` is the overflow panic of the
decrement. -/
def RequestDensityTracker.sample (profile : Profile) (t : RequestDensityTracker)
    (value : Location) : Option RequestDensityTracker :=
  let requestList := t.requestList ++ [value]
  let requestLocations := t.requestLocations.addTo value 1
  if t.windowSize < requestList.length then
    match requestList with
    | [] => some { t with requestList, requestLocations }
    | oldest :: requestList =>
        match requestLocations.get? oldest with
        | none => some { t with requestList, requestLocations }
        | some count => do
            let count ← subUsize profile count 1
            let requestLocations :=
              if count = 0 then requestLocations.remove oldest
              else requestLocations.insert oldest count
            pure { t with requestList, requestLocations }
  else some { t with requestList, requestLocations }

/-- `sample` for each location in turn. -/
def RequestDensityTracker.samples (profile : Profile) (t : RequestDensityTracker)
    (values : List Location) : Option RequestDensityTracker :=
  values.foldlM (RequestDensityTracker.sample profile) t

/-! ### The window of samples -/

/-- The tracker holds the last `w` of the samples `h`, and counts them. -/
structure RequestDensityTracker.Window (w : Nat) (h : List Location) (t : RequestDensityTracker) :
    Prop where
  windowSize : t.windowSize = w
  requestList : t.requestList = History.window w h
  counts : History.Counts t.requestLocations.get? t.requestList

theorem RequestDensityTracker.window_new (w : Nat) : (RequestDensityTracker.new w).Window w [] :=
  ⟨rfl, (History.window_nil w).symm, fun _ => by simp [RequestDensityTracker.new]⟩

/-- One sample moves the window by one: it never panics, since the oldest
location of an over-size window has a count of at least one. -/
theorem RequestDensityTracker.sample_window {w : Nat} {h : List Location}
    {t : RequestDensityTracker} (ht : t.Window w h) (profile : Profile) (e : Location) :
    ∃ t', t.sample profile e = some t' ∧ t'.Window w (h ++ [e]) := by
  have hc : History.Counts (t.requestLocations.addTo e 1).get? (t.requestList ++ [e]) :=
    ht.counts.concat fun a => BTreeMap.get?_addTo _ _ _ _
  have hwin := History.window_concat w h e
  rw [← ht.requestList, ← ht.windowSize] at hwin
  unfold RequestDensityTracker.sample
  by_cases hlen : t.windowSize < (t.requestList ++ [e]).length
  · -- over size: the oldest sample leaves, and its count goes down by one
    obtain ⟨oldest, rest, hsplit⟩ := List.exists_cons_of_ne_nil
      (List.concat_ne_nil e t.requestList)
    rw [hsplit] at hc hwin hlen
    have hcount := hc.get_of_mem List.mem_cons_self
    rw [List.count_cons_self] at hcount
    simp only [hlen, if_true, hsplit, hcount, Nat.add_sub_cancel, subUsize_of_le (Nat.le_add_left 1 _),
      Option.bind_eq_bind, Option.bind_some]
    refine ⟨_, rfl, ht.windowSize, ?_, hc.pop fun a => ?_⟩
    · rw [← ht.windowSize, hwin, if_pos hlen, List.tail_cons]
    · by_cases hz : rest.count oldest = 0
      · simp only [hz, if_true, BTreeMap.get?_remove]
      · simp only [hz, if_false, BTreeMap.get?_insert]
  · simp only [hlen, if_false]
    exact ⟨_, rfl, ht.windowSize, by rw [← ht.windowSize, hwin, if_neg hlen], hc⟩

/-- From a new tracker, every sequence of samples is taken without a panic,
and the tracker holds the last `w` of them and counts them. -/
theorem RequestDensityTracker.samples_window (profile : Profile) (w : Nat) (h : List Location) :
    ∃ t, (RequestDensityTracker.new w).samples profile h = some t ∧ t.Window w h :=
  History.foldlM_exists (fun h (t : RequestDensityTracker) => t.Window w h) (RequestDensityTracker.window_new w)
    (fun _ e _ ht => RequestDensityTracker.sample_window ht profile e) h

/-- A map that counts a list holds, all together, as many as the list. -/
theorem values_sum_of_counts {m : BTreeMap Location Nat} {l : List Location}
    (hc : History.Counts m.get? l) : m.values.sum = l.length := by
  -- each entry holds the count of its key
  have hval : m.values = m.keys.map (l.count ·) := by
    simp only [BTreeMap.values, BTreeMap.keys, List.map_map]
    refine List.map_congr_left fun e he => ?_
    have hget := BTreeMap.get?_of_mem he
    rw [hc] at hget
    split_ifs at hget
    · exact (Option.some.inj hget).symm
  have hnodup : m.keys.Nodup :=
    (List.pairwise_map.mpr m.sorted).nodup
  have hperm : m.keys.Perm l.dedup := by
    refine (List.perm_ext_iff_of_nodup hnodup (List.nodup_dedup l)).mpr fun a => ?_
    rw [BTreeMap.mem_keys_iff, hc a, List.mem_dedup]
    split_ifs with ha <;> simp [ha]
  rw [hval, (hperm.map _).sum_eq, List.sum_map_count_dedup_eq_length]

/-! ### The density map -/

/-- `DensityMapError`. -/
inductive DensityMapError
  | emptyNeighbors
  deriving DecidableEq

/-- `DensityMap`. -/
structure DensityMap where
  neighborRequestCounts : BTreeMap Location Nat

section Neighbors

variable {ν : Type}

/-- The previous neighbour of a location: the one of the greatest location
below it, or the last one when none is below. -/
def previousNeighbor (m : BTreeMap Location ν) (x : Location) : Option (Location × ν) :=
  (m.lastBelow? x).orElse fun _ => m.last?

/-- The next neighbour of a location: the one of the least location from it
on, or the first one when there is none. -/
def nextNeighbor (m : BTreeMap Location ν) (x : Location) : Option (Location × ν) :=
  (m.firstFrom? x).orElse fun _ => m.first?

theorem previousNeighbor_isCyclicPred {m : BTreeMap Location ν} (hne : m.entries ≠ [])
    (x : Location) :
    ∃ e, previousNeighbor m x = some e ∧ e ∈ m.entries ∧ Circle.IsCyclicPred {k | k ∈ m.keys} x e.1 := by
  cases hb : m.lastBelow? x with
  | some e =>
      obtain ⟨he, hlt, hmax⟩ := BTreeMap.lastBelow?_eq_some hb
      refine ⟨e, by simp [previousNeighbor, hb], he, BTreeMap.mem_keys_of_mem he, Or.inl ⟨hlt, ?_⟩⟩
      intro k hk hkx
      obtain ⟨a, ha, rfl⟩ := List.mem_map.mp hk
      exact hmax a ha hkx
  | none =>
      -- nothing below `x`: the last one, round the ring
      obtain ⟨e, hl⟩ := Option.isSome_iff_exists.mp (BTreeMap.last?_isSome hne)
      obtain ⟨he, hmax⟩ := BTreeMap.last?_eq_some hl
      have hall := BTreeMap.lastBelow?_eq_none hb
      refine ⟨e, by simp [previousNeighbor, hb, hl], he, BTreeMap.mem_keys_of_mem he,
        Or.inr ⟨fun k hk => ?_, fun k hk => ?_⟩⟩ <;>
      · obtain ⟨a, ha, rfl⟩ := List.mem_map.mp hk
        first
          | exact hall a ha
          | exact hmax a ha

theorem nextNeighbor_isCyclicSucc {m : BTreeMap Location ν} (hne : m.entries ≠ [])
    (x : Location) :
    ∃ e, nextNeighbor m x = some e ∧ e ∈ m.entries ∧ Circle.IsCyclicSucc {k | k ∈ m.keys} x e.1 := by
  cases hf : m.firstFrom? x with
  | some e =>
      obtain ⟨he, hle, hmin⟩ := BTreeMap.firstFrom?_eq_some hf
      refine ⟨e, by simp [nextNeighbor, hf], he, BTreeMap.mem_keys_of_mem he, Or.inl ⟨hle, ?_⟩⟩
      intro k hk hxk
      obtain ⟨a, ha, rfl⟩ := List.mem_map.mp hk
      exact hmin a ha hxk
  | none =>
      -- nothing from `x` on: the first one, round the ring
      obtain ⟨e, hfst⟩ := Option.isSome_iff_exists.mp (BTreeMap.first?_isSome hne)
      obtain ⟨he, hmin⟩ := BTreeMap.first?_eq_some hfst
      have hall := BTreeMap.firstFrom?_eq_none hf
      refine ⟨e, by simp [nextNeighbor, hf, hfst], he, BTreeMap.mem_keys_of_mem he,
        Or.inr ⟨fun k hk => ?_, fun k hk => ?_⟩⟩ <;>
      · obtain ⟨a, ha, rfl⟩ := List.mem_map.mp hk
        first
          | exact hall a ha
          | exact hmin a ha

/-- The neighbour `create_density_map` credits a sample at `x` to: the
previous one when it is strictly nearer, the next one otherwise; `none` is
the `unreachable!` of an empty map. -/
def creditedNeighbor (m : BTreeMap Location ν) (x : Location) : Option Location :=
  match previousNeighbor m x, nextNeighbor m x with
  | some previous, some next =>
      some (if Location.distance x previous.1 < Location.distance x next.1 then previous.1
        else next.1)
  | _, _ => none

/-- The neighbour a sample is credited to is a nearest one on the ring. -/
theorem creditedNeighbor_nearest {m : BTreeMap Location ν} (hne : m.entries ≠ [])
    (hrange : ∀ k ∈ m.keys, 0 ≤ k ∧ k ≤ 1) (x : Location) :
    ∃ n, creditedNeighbor m x = some n ∧ n ∈ m.keys ∧
      ∀ k ∈ m.keys, Location.distance x n ≤ Location.distance x k := by
  obtain ⟨p, hp, hpm, hpred⟩ := previousNeighbor_isCyclicPred hne x
  obtain ⟨s, hs, hsm, hsucc⟩ := nextNeighbor_isCyclicSucc hne x
  have hnear := fun k (hk : k ∈ m.keys) =>
    Circle.min_arcDist_neighbours_le (K := {k | k ∈ m.keys}) hrange hpred hsucc hk
  simp only [← Location.distance_eq_arcDist] at hnear
  refine ⟨if Location.distance x p.1 < Location.distance x s.1 then p.1 else s.1,
    by simp only [creditedNeighbor, hp, hs], ?_, fun k hk => ?_⟩
  · split_ifs
    · exact BTreeMap.mem_keys_of_mem hpm
    · exact BTreeMap.mem_keys_of_mem hsm
  · -- the credited neighbour is the nearer of the two
    have hk := hnear k hk
    split_ifs with hlt
    · exact (min_eq_left hlt.le).symm ▸ hk
    · exact (min_eq_right (not_lt.mp hlt)).symm ▸ hk

end Neighbors

/-- `RequestDensityTracker::create_density_map`; `none` is the
`unreachable!`. -/
def RequestDensityTracker.createDensityMap {ν : Type} (t : RequestDensityTracker)
    (neighborLocations : BTreeMap Location ν) : Option (Except DensityMapError DensityMap) :=
  if neighborLocations.entries.isEmpty then some (.error .emptyNeighbors)
  else
    (t.requestLocations.entries.foldlM
      (fun neighborRequestCounts sample =>
        (creditedNeighbor neighborLocations sample.1).map (neighborRequestCounts.addTo · sample.2))
      BTreeMap.empty).map fun neighborRequestCounts => .ok ⟨neighborRequestCounts⟩

/-- With neighbours, the density map is built without a panic: each
sample's count is added at the neighbour it is credited to. -/
theorem RequestDensityTracker.createDensityMap_eq {ν : Type} (t : RequestDensityTracker)
    {neighborLocations : BTreeMap Location ν} (hne : neighborLocations.entries ≠ [])
    {credit : Location → Location} (hcredit : ∀ x, creditedNeighbor neighborLocations x = some (credit x)) :
    t.createDensityMap neighborLocations =
      some (.ok ⟨t.requestLocations.entries.foldl (fun c sample => c.addTo (credit sample.1) sample.2)
        BTreeMap.empty⟩) := by
  have hstep : (fun (c : BTreeMap Location Nat) (sample : Location × Nat) =>
      (creditedNeighbor neighborLocations sample.1).map (c.addTo · sample.2)) =
      fun c sample => pure (c.addTo (credit sample.1) sample.2) := by
    funext c sample
    rw [hcredit]
    rfl
  simp only [RequestDensityTracker.createDensityMap, List.isEmpty_iff, hne, if_false, hstep,
    List.foldlM_pure]
  rfl

/-- The density map conserves and localises the requests. For every
sequence of samples and window size, and every non-empty map of neighbours
on the ring, the density map has a key only for neighbours, its counts add
up to the samples in the window, and each sampled location's count is
credited to a neighbour at least distance from it on the ring. -/
theorem createDensityMap_conserves {ν : Type} (profile : Profile) (w : Nat) (samples : List Location)
    (neighborLocations : BTreeMap Location ν) (hne : neighborLocations.entries ≠ [])
    (hrange : ∀ k ∈ neighborLocations.keys, 0 ≤ k ∧ k ≤ 1) :
    ∃ t dm, (RequestDensityTracker.new w).samples profile samples = some t ∧
      t.requestList = History.window w samples ∧
      t.createDensityMap neighborLocations = some (.ok dm) ∧
      (∀ k ∈ dm.neighborRequestCounts.keys, k ∈ neighborLocations.keys) ∧
      dm.neighborRequestCounts.values.sum = t.requestList.length ∧
      ∃ credit : Location → Location,
        (∀ x ∈ t.requestLocations.keys, credit x ∈ neighborLocations.keys ∧
          ∀ k ∈ neighborLocations.keys, Location.distance x (credit x) ≤ Location.distance x k) ∧
        ∀ k, (dm.neighborRequestCounts.get? k).getD 0 =
          ((t.requestLocations.entries.filter (credit ·.1 = k)).map (·.2)).sum := by
  obtain ⟨t, ht, hwin⟩ := RequestDensityTracker.samples_window profile w samples
  -- the credited neighbour, as a function: every location has one
  have hnear := creditedNeighbor_nearest hne hrange
  let credit : Location → Location := fun x => (creditedNeighbor neighborLocations x).getD 0
  have hcredit : ∀ x, creditedNeighbor neighborLocations x = some (credit x) := fun x => by
    obtain ⟨n, hn, -⟩ := hnear x
    simp [credit, hn]
  have hnear' : ∀ x, credit x ∈ neighborLocations.keys ∧
      ∀ k ∈ neighborLocations.keys, Location.distance x (credit x) ≤ Location.distance x k := by
    intro x
    obtain ⟨n, hn, hmem, hmin⟩ := hnear x
    rw [Option.some.inj ((hcredit x).symm.trans hn)]
    exact ⟨hmem, hmin⟩
  refine ⟨t, _, ht, hwin.requestList, t.createDensityMap_eq hne hcredit, fun k hk => ?_, ?_,
    credit, fun x _ => hnear' x, fun k => ?_⟩
  · rcases BTreeMap.mem_keys_foldl_addTo _ _ hk with hk | ⟨sample, -, rfl⟩
    · simp [BTreeMap.keys, BTreeMap.empty] at hk
    · exact (hnear' sample.1).1
  · rw [BTreeMap.sum_foldl_addTo, ← values_sum_of_counts hwin.counts]
    simp [BTreeMap.values, BTreeMap.empty]
  · rw [BTreeMap.get?_foldl_addTo]
    simp

/-- Two neighbours, at a quarter and three quarters of the ring, and three
samples in a window of two. -/
theorem createDensityMap_conserves_quarters :
    let neighborLocations : BTreeMap Location Unit :=
      ⟨[(1 / 4, ()), (3 / 4, ())], List.pairwise_pair.mpr (by norm_num)⟩
    neighborLocations.entries ≠ [] ∧ (∀ k ∈ neighborLocations.keys, 0 ≤ k ∧ k ≤ 1) ∧
    ∃ t dm, (RequestDensityTracker.new 2).samples .debug [1 / 5, 9 / 10, 1 / 5] = some t ∧
      t.requestList = History.window 2 [1 / 5, 9 / 10, 1 / 5] ∧
      t.createDensityMap neighborLocations = some (.ok dm) ∧
      (∀ k ∈ dm.neighborRequestCounts.keys, k ∈ neighborLocations.keys) ∧
      dm.neighborRequestCounts.values.sum = t.requestList.length ∧
      ∃ credit : Location → Location,
        (∀ x ∈ t.requestLocations.keys, credit x ∈ neighborLocations.keys ∧
          ∀ k ∈ neighborLocations.keys, Location.distance x (credit x) ≤ Location.distance x k) ∧
        ∀ k, (dm.neighborRequestCounts.get? k).getD 0 =
          ((t.requestLocations.entries.filter (credit ·.1 = k)).map (·.2)).sum :=
  have hrange : ∀ k ∈ [(1 / 4 : Location), 3 / 4], 0 ≤ k ∧ k ≤ 1 := by
    simp only [List.mem_cons, List.not_mem_nil, or_false, forall_eq_or_imp, forall_eq]
    norm_num
  ⟨List.cons_ne_nil _ _, hrange, createDensityMap_conserves .debug 2 _ _ (List.cons_ne_nil _ _) hrange⟩

/-! ### The density at a location -/

/-- An `f64` quotient: `none` where the divisor is zero, and the quotient
infinite or not a number. -/
def f64Div (a b : ℚ) : Option ℚ := if b = 0 then none else some (a / b)

/-- `DensityMap::get_density_at`: the counts of the two neighbours, each
weighted by the other's share of their distances; `none` is the
`unreachable!`, and an `ok none` a result that is not a finite number. -/
def DensityMap.getDensityAt (dm : DensityMap) (location : Location) :
    Option (Except DensityMapError (Option ℚ)) :=
  if dm.neighborRequestCounts.entries.isEmpty then some (.error .emptyNeighbors)
  else
    match previousNeighbor dm.neighborRequestCounts location,
        nextNeighbor dm.neighborRequestCounts location with
    | some (previousLocation, previousCount), some (nextLocation, nextCount) =>
        let previousDist := Location.distance location previousLocation
        let nextDist := Location.distance location nextLocation
        let totalDist := previousDist + nextDist
        some (.ok do
          let previousProp ← f64Div previousDist totalDist
          let nextProp ← f64Div nextDist totalDist
          pure (nextProp * previousCount + previousProp * nextCount))
    | _, _ => none

/-- The density at a location between two neighbours: their counts
weighted by the distances, or not a number when both are at distance zero. -/
theorem DensityMap.getDensityAt_eq {dm : DensityMap} {x p n : Location} {pc nc : Nat}
    (hne : dm.neighborRequestCounts.entries ≠ [])
    (hp : previousNeighbor dm.neighborRequestCounts x = some (p, pc))
    (hn : nextNeighbor dm.neighborRequestCounts x = some (n, nc)) :
    dm.getDensityAt x = some (.ok
      (if Location.distance x p + Location.distance x n = 0 then none
      else some ((Location.distance x n * pc + Location.distance x p * nc) /
        (Location.distance x p + Location.distance x n)))) := by
  simp only [DensityMap.getDensityAt, List.isEmpty_iff, hne, if_false, hp, hn, f64Div]
  split_ifs with hz
  · rfl
  · simp only [Option.bind_eq_bind, Option.bind_some, Option.pure_def, Option.some.injEq,
      Except.ok.injEq]
    ring_nf

/-- A map with a single neighbour, asked for the density at that
neighbour's own location, has it as its previous and its next neighbour, both
at distance zero: the weights are `0.0 / 0.0`, and the density is not a
number. -/
theorem getDensityAt_single_nan (x : Location) (count : Nat) :
    DensityMap.getDensityAt ⟨⟨[(x, count)], List.pairwise_singleton _ _⟩⟩ x = some (.ok none) := by
  have hp : previousNeighbor (⟨[(x, count)], List.pairwise_singleton _ _⟩ : BTreeMap Location Nat) x =
      some (x, count) := by
    simp [previousNeighbor, BTreeMap.lastBelow?, BTreeMap.last?]
  have hn : nextNeighbor (⟨[(x, count)], List.pairwise_singleton _ _⟩ : BTreeMap Location Nat) x =
      some (x, count) := by
    simp [nextNeighbor, BTreeMap.firstFrom?]
  rw [DensityMap.getDensityAt_eq (List.cons_ne_nil _ _) hp hn]
  simp [Location.distance]

/-! ### The densest gap -/

/-- One pair of adjacent neighbours in the loop of `get_max_density`: its
midpoint and combined count replace the best so far when the count is
greater. -/
def maxDensityStep (acc : Location × Nat) (pair : (Location × Nat) × (Location × Nat)) :
    Location × Nat :=
  let combinedCount := pair.1.2 + pair.2.2
  if acc.2 < combinedCount then ((pair.1.1 + pair.2.1) / 2, combinedCount) else acc

/-- The loop of `get_max_density` over the pairs of adjacent neighbours,
from `(0.0, 0)`. -/
def maxDensityPair (pairs : List ((Location × Nat) × (Location × Nat))) : Location × Nat :=
  pairs.foldl maxDensityStep (0, 0)

/-- `DensityMap::get_max_density`. -/
def DensityMap.getMaxDensity (dm : DensityMap) : Except DensityMapError Location :=
  let counts := dm.neighborRequestCounts
  if counts.entries.isEmpty then .error .emptyNeighbors
  else
    let maxDensity := maxDensityPair (counts.entries.zip counts.entries.tail)
    match counts.first?, counts.last? with
    | some (first, firstCount), some (last, lastCount) =>
        if maxDensity.2 < firstCount + lastCount then
          let distance := Location.distance first last
          let mp := first - distance / 2
          .ok (if mp < 0 then mp + 1 else mp)
        else .ok maxDensity.1
    | _, _ => .ok maxDensity.1

/-- The loop ends with its start's count or with some pair's combined
count. -/
theorem foldl_maxDensityStep_snd (pairs : List ((Location × Nat) × (Location × Nat)))
    (acc : Location × Nat) :
    (pairs.foldl maxDensityStep acc).2 = acc.2 ∨
      ∃ pair ∈ pairs, (pairs.foldl maxDensityStep acc).2 = pair.1.2 + pair.2.2 := by
  induction pairs generalizing acc with
  | nil => exact Or.inl rfl
  | cons pair pairs ih =>
      rw [List.foldl_cons]
      rcases ih (maxDensityStep acc pair) with h | ⟨q, hq, h⟩
      · by_cases hlt : acc.2 < pair.1.2 + pair.2.2
        · have hstep : maxDensityStep acc pair = ((pair.1.1 + pair.2.1) / 2, pair.1.2 + pair.2.2) :=
            if_pos hlt
          exact Or.inr ⟨pair, List.mem_cons_self, h.trans (by rw [hstep])⟩
        · have hstep : maxDensityStep acc pair = acc := if_neg hlt
          exact Or.inl (h.trans (by rw [hstep]))
      · exact Or.inr ⟨q, List.mem_cons_of_mem pair hq, h⟩

/-- The ring midpoint of the arc that goes from `last` up through `1.0` and
`0.0` to `first`. -/
def wrapMidpoint (first last : Location) : Location :=
  let m := (last + first + 1) / 2
  if 1 ≤ m then m - 1 else m

/-- Points `1/2 - δ` apart one way round, or `1/2 + δ` the other, are
`1/2 - δ` apart on the ring. -/
theorem distance_of_abs_sub {a b δ : Location} (hδ : 0 ≤ δ)
    (h : |a - b| = 1 / 2 - δ ∨ |a - b| = 1 / 2 + δ) : Location.distance a b = 1 / 2 - δ := by
  unfold Location.distance
  dsimp only
  rcases h with h | h <;> rw [h] <;> split_ifs <;> linarith

/-- When the first and last neighbours are the densest pair and lie less
than half the ring apart, `get_max_density` does not return the midpoint of
the arc between them through `1.0` and `0.0`: it steps back from the first
neighbour by half their distance the short way, which lies inside, and
lands `1/2 - (last - first)` away from that midpoint. -/
theorem getMaxDensity_wrap_misplaced (dm : DensityMap) {first last : Location}
    {firstCount lastCount : Nat}
    (hfirst : dm.neighborRequestCounts.first? = some (first, firstCount))
    (hlast : dm.neighborRequestCounts.last? = some (last, lastCount))
    (hshort : last - first < 1 / 2) (hpos : 0 < firstCount + lastCount)
    (hdensest : ∀ pair ∈ dm.neighborRequestCounts.entries.zip dm.neighborRequestCounts.entries.tail,
      pair.1.2 + pair.2.2 < firstCount + lastCount) :
    ∃ loc, dm.getMaxDensity = .ok loc ∧
      Location.distance loc (wrapMidpoint first last) = 1 / 2 - (last - first) := by
  have hne : dm.neighborRequestCounts.entries ≠ [] := by
    intro h
    simp [BTreeMap.first?, h] at hfirst
  have hle : first ≤ last :=
    (BTreeMap.first?_eq_some hfirst).2 _ (BTreeMap.last?_eq_some hlast).1
  -- the loop over adjacent pairs stays below the wrap-around pair
  have hloop : (maxDensityPair (dm.neighborRequestCounts.entries.zip
      dm.neighborRequestCounts.entries.tail)).2 < firstCount + lastCount := by
    rcases foldl_maxDensityStep_snd _ (0, 0) with h | ⟨pair, hpair, h⟩
    · rw [maxDensityPair, h]
      exact hpos
    · rw [maxDensityPair, h]
      exact hdensest pair hpair
  have hdist : Location.distance first last = last - first := by
    unfold Location.distance
    rw [abs_sub_comm, abs_of_nonneg (by linarith), if_pos hshort]
  set mp := first - (last - first) / 2 with hmp
  refine ⟨if mp < 0 then mp + 1 else mp, by simp only [DensityMap.getMaxDensity, List.isEmpty_iff,
    hne, if_false, hfirst, hlast, hloop, if_true, hdist, hmp], ?_⟩
  unfold wrapMidpoint
  dsimp only
  apply distance_of_abs_sub (sub_nonneg.mpr hle)
  -- the step back lands below `0.0` only when the midpoint is below `1.0`
  by_cases hneg : mp < 0
  · have hm : ¬ 1 ≤ (last + first + 1) / 2 := by linarith
    rw [if_pos hneg, if_neg hm]
    left
    rw [abs_of_nonneg (by linarith)]
    ring
  · rw [if_neg hneg]
    split_ifs with hm
    · left
      rw [abs_of_nonneg (by linarith)]
      ring
    · right
      rw [abs_of_neg (by linarith)]
      ring

theorem getMaxDensity_wrap_misplaced_three :
    let dm : DensityMap := ⟨⟨[(1 / 10, 5), (1 / 5, 1), (3 / 10, 5)], by simp; norm_num⟩⟩
    dm.neighborRequestCounts.first? = some (1 / 10, 5) ∧
      dm.neighborRequestCounts.last? = some (3 / 10, 5) ∧ (3 / 10 : Location) - 1 / 10 < 1 / 2 ∧
      0 < 5 + 5 ∧
      (∀ pair ∈ dm.neighborRequestCounts.entries.zip dm.neighborRequestCounts.entries.tail,
        pair.1.2 + pair.2.2 < 5 + 5) ∧
      ∃ loc, dm.getMaxDensity = .ok loc ∧
        Location.distance loc (wrapMidpoint (1 / 10) (3 / 10)) = 1 / 2 - (3 / 10 - 1 / 10) :=
  ⟨rfl, rfl, by norm_num, by decide, by decide,
    getMaxDensity_wrap_misplaced _ rfl rfl (by norm_num) (by decide) (by decide)⟩

end FreenetCore.Topology
