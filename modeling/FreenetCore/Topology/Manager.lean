import FreenetCore.Node.Ring
import FreenetCore.Topology.Meter
import FreenetCore.Topology.Windows

/-!
The topology manager (`topology.rs`): the usage it extrapolates from its
meter, and what it decides to do with its connections.

`extrapolated_usage` sums one rate per attribution source: the source's own
once it is past its ramp-up, else the meter's estimate. With no source
ramping up the sum is that of the sources' own rates
(`extrapolatedUsage_of_rampedUp`); where a source ramps up and the estimate
has to be made over two rates or more, the sort behind it never returns
(`extrapolatedUsage_eq_none`), and nor does `adjust_topology`.

`adjust_topology` counts its neighbours as `neighbor_locations.len()`, the
buckets of the map by location rather than the connections in them; under
the minimum it asks for one location per missing bucket
(`adjustTopology_below_minimum`).

`Instant::now()`, which `select_connections_to_remove` reads in place of
the time it is given, is an argument of its own, and so is the sequence of
draws of `Location::random()`. `none` is a comparison of rates that never
returns, or a panic of the density map.
-/

namespace FreenetCore.Topology

open FreenetCore.Operations FreenetCore.Node

/-- `SOURCE_RAMP_UP_DURATION`: five minutes. -/
def sourceRampUpDuration : Nat := 5 * 60 * nanosPerSecond

/-- `MINIMUM_DESIRED_RESOURCE_USAGE_PROPORTION`. -/
def minimumDesiredResourceUsageProportion : ℚ := 1 / 2

/-- `MAXIMUM_DESIRED_RESOURCE_USAGE_PROPORTION`. -/
def maximumDesiredResourceUsageProportion : ℚ := 9 / 10

/-- `REQUEST_DENSITY_TRACKER_WINDOW_SIZE`. -/
def requestDensityTrackerWindowSize : Nat := 10000

/-- `OUTBOUND_REQUEST_COUNTER_WINDOW_SIZE`. -/
def outboundRequestCounterWindowSize : Nat := 10000

/-- `Limits`. -/
structure Limits where
  maxUpstreamBandwidth : Rate
  maxDownstreamBandwidth : Rate
  minConnections : Nat
  maxConnections : Nat

/-- `Limits::get`. -/
def Limits.get (limits : Limits) : ResourceType → Rate
  | .outboundBandwidthBytes => limits.maxUpstreamBandwidth
  | .inboundBandwidthBytes => limits.maxDownstreamBandwidth

/-- `ConnectionAcquisitionStrategy`. -/
inductive ConnectionAcquisitionStrategy
  | slow
  | fast

/-- `TopologyManager`, without the connection evaluators and the cached
density map, which only `evaluate_new_connection` reads. The `HashMap` of
creation times is the list of its entries in iteration order. -/
structure TopologyManager where
  limits : Limits
  meter : Meter
  sourceCreationTimes : List (AttributionSource × Nat)
  requestDensityTracker : RequestDensityTracker
  outboundRequestCounter : OutboundRequestCounter
  connectionAcquisitionStrategy : ConnectionAcquisitionStrategy

/-- `TopologyManager::new`. -/
def TopologyManager.new (limits : Limits) : TopologyManager where
  limits := limits
  meter := Meter.newWithWindowSize 100
  sourceCreationTimes := []
  requestDensityTracker := RequestDensityTracker.new requestDensityTrackerWindowSize
  outboundRequestCounter := OutboundRequestCounter.new outboundRequestCounterWindowSize
  connectionAcquisitionStrategy := .fast

/-- `TopologyManager::report_resource_usage`: a source is created at the
earliest time it is reported at. -/
def TopologyManager.reportResourceUsage (tm : TopologyManager) (attribution : AttributionSource)
    (resource : ResourceType) (amount : ℚ) (atTime : Nat) : TopologyManager :=
  let sourceCreationTimes :=
    match tm.sourceCreationTimes.lookup attribution with
    | some creationTime =>
        if atTime < creationTime then KeyedList.insert tm.sourceCreationTimes attribution atTime
        else tm.sourceCreationTimes
    | none => KeyedList.insert tm.sourceCreationTimes attribution atTime
  { tm with sourceCreationTimes, meter := tm.meter.report attribution resource amount atTime }

/-! ### Extrapolated usage -/

/-- `Usage`. -/
structure Usage where
  total : Rate
  perSource : List (AttributionSource × Rate)

/-- A source's rate in `extrapolated_usage`: the meter's estimate while the
source ramps up, else its own; and the meter, whose cache an estimate fills. -/
def sourceUsageRate (fuel : Nat) (meter : Meter) (resourceType : ResourceType) (now : Nat)
    (source : AttributionSource) (rampingUp : Bool) : Option (Option Rate × Meter) :=
  if rampingUp then meter.getAdjustedUsageRate fuel resourceType now
  else some (meter.attributedUsageRate source resourceType now, meter)

/-- One source of step 2 of `extrapolated_usage`: its rate, zero where it
has none, joins the total. -/
def extrapolationStep (fuel : Nat) (resourceType : ResourceType) (now : Nat) (acc : Usage × Meter)
    (sourceRampingUp : AttributionSource × Bool) : Option (Usage × Meter) :=
  (sourceUsageRate fuel acc.2 resourceType now sourceRampingUp.1 sourceRampingUp.2).map fun r =>
    let rate := r.1.getD (Rate.newPerSecond 0)
    (⟨acc.1.total + rate, acc.1.perSource ++ [(sourceRampingUp.1, rate)]⟩, r.2)

/-- `TopologyManager::extrapolated_usage`. -/
def TopologyManager.extrapolatedUsage (fuel : Nat) (tm : TopologyManager) (resourceType : ResourceType)
    (now : Nat) : Option (Usage × TopologyManager) :=
  -- step 1: whether each source is still ramping up
  let usageData := tm.sourceCreationTimes.map fun sourceCreation =>
    (sourceCreation.1, decide (now - sourceCreation.2 ≤ sourceRampUpDuration))
  (usageData.foldlM (extrapolationStep fuel resourceType now) (⟨Rate.newPerSecond 0, []⟩, tm.meter)).map
    fun r => (r.1, { tm with meter := r.2 })

/-- `cmp::max_by`, as `Iterator::max_by` folds with it: the later of two
that compare equal. -/
def maxUsageStep (acc next : ResourceType × RateProportion) : ResourceType × RateProportion :=
  if next.2.value < acc.2.value then acc else next

/-- `TopologyManager::calculate_usage_proportion`, of which `adjust_topology`
reads the greatest proportion only; the `HashMap` of proportions is
iterated in the order of `ResourceType::all`. -/
def TopologyManager.calculateUsageProportion (fuel : Nat) (tm : TopologyManager) (atTime : Nat) :
    Option ((ResourceType × RateProportion) × TopologyManager) := do
  let perType ← ResourceType.all.foldlM
    (fun (acc : List (ResourceType × RateProportion) × TopologyManager) resourceType =>
      (acc.2.extrapolatedUsage fuel resourceType atTime).map fun r =>
        (acc.1 ++ [(resourceType, r.1.total.proportionOf (r.2.limits.get resourceType))], r.2))
    ([], tm)
  match perType.1 with
  -- the `unwrap` of the greatest of an empty map
  | [] => none
  | first :: rest => some (rest.foldl maxUsageStep first, perType.2)

/-! ### Adjusting the topology -/

/-- `TopologyAdjustment`. -/
inductive TopologyAdjustment
  | addConnections (locations : List Location)
  | removeConnections (peers : List PeerKeyLocation)
  | noChange

/-- An `f64` count over a rate: `none` is `NaN`, and `⊤` infinity. -/
def countPerRate (count : Nat) (rate : ℚ) : Option (WithTop ℚ) :=
  if rate = 0 then (if count = 0 then none else some ⊤) else some ((count / rate : ℚ) : WithTop ℚ)

/-- `f64`'s `<`, false with a `NaN`. -/
def f64Lt : Option (WithTop ℚ) → Option (WithTop ℚ) → Bool
  | some a, some b => decide (a < b)
  | _, _ => false

/-- One source of `select_connections_to_remove`: a peer past its ramp-up,
by `Instant::now()`, is the worst so far when it has fewer requests per
usage. -/
def TopologyManager.worstStep (tm : TopologyManager) (instantNow : Nat)
    (worst : Option (PeerKeyLocation × Option (WithTop ℚ))) (sourceUsage : AttributionSource × Rate) :
    Option (PeerKeyLocation × Option (WithTop ℚ)) :=
  match tm.sourceCreationTimes.lookup sourceUsage.1 with
  | none => worst
  | some creationTime =>
      if instantNow - creationTime ≤ sourceRampUpDuration then worst
      else
        match sourceUsage.1 with
        | .peer peer =>
            let valuePerUsage :=
              countPerRate (tm.outboundRequestCounter.getRequestCount peer) sourceUsage.2.perSecond
            match worst with
            | some (_, worstValuePerUsage) =>
                if f64Lt valuePerUsage worstValuePerUsage then some (peer, valuePerUsage) else worst
            | none => some (peer, valuePerUsage)
        | .delegate _ => worst

/-- `TopologyManager::select_connections_to_remove`. -/
def TopologyManager.selectConnectionsToRemove (tm : TopologyManager)
    (exceededUsageForResourceType : ResourceType) (atTime instantNow : Nat) : TopologyAdjustment :=
  match (tm.meter.getUsageRates exceededUsageForResourceType atTime).foldl (tm.worstStep instantNow) none with
  | some (peer, _) => .removeConnections [peer]
  | none => .noChange

/-- `TopologyManager::select_connections_to_add`: one connection, at the
densest location. -/
def TopologyManager.selectConnectionsToAdd (tm : TopologyManager)
    (neighborLocations : BTreeMap Location (List Connection)) :
    Option (Except DensityMapError TopologyAdjustment) :=
  (tm.requestDensityTracker.createDensityMap neighborLocations).map fun densityMap =>
    densityMap.bind fun densityMap =>
      densityMap.getMaxDensity.map fun maxDensityLocation => .addConnections [maxDensityLocation]

/-- `TopologyManager::adjust_topology`. The neighbours are counted as the
map's buckets. -/
def TopologyManager.adjustTopology (fuel : Nat) (tm : TopologyManager)
    (neighborLocations : BTreeMap Location (List Connection)) (myLocation : Option Location)
    (atTime instantNow : Nat) (randomLocation : Nat → Location) :
    Option (TopologyAdjustment × TopologyManager) :=
  if neighborLocations.entries.length < tm.limits.minConnections then
    let belowThreshold := tm.limits.minConnections - neighborLocations.entries.length
    -- the peer's own location where it is known, against failing to cluster
    let locations := if 0 < belowThreshold then
        (List.range belowThreshold).map fun i => myLocation.getD (randomLocation i)
      else []
    some (.addConnections locations, tm)
  else do
    let usage ← tm.calculateUsageProportion fuel atTime
    let tm := usage.2
    if tm.limits.maxConnections < neighborLocations.entries.length then
      let tm := { tm with connectionAcquisitionStrategy := .slow }
      pure (tm.selectConnectionsToRemove usage.1.1 atTime instantNow, tm)
    else if usage.1.2.value < minimumDesiredResourceUsageProportion then
      let tm := { tm with connectionAcquisitionStrategy := .fast }
      let adjustment ← tm.selectConnectionsToAdd neighborLocations
      -- an error is logged, and nothing changes
      pure (match adjustment with
        | .ok adjustment => adjustment
        | .error _ => .noChange, tm)
    else if maximumDesiredResourceUsageProportion < usage.1.2.value then
      pure (tm.selectConnectionsToRemove usage.1.1 atTime instantNow, tm)
    else pure (.noChange, tm)

/-! ### What the extrapolation computes -/

/-- A source past its ramp-up adds its own rate, and leaves the meter as it
is. -/
theorem extrapolationStep_rampedUp (fuel : Nat) (resourceType : ResourceType) (now : Nat)
    (acc : Usage × Meter) (source : AttributionSource) :
    extrapolationStep fuel resourceType now acc (source, false) =
      some (⟨acc.1.total + (acc.2.attributedUsageRate source resourceType now).getD (Rate.newPerSecond 0),
        acc.1.perSource ++
          [(source, (acc.2.attributedUsageRate source resourceType now).getD (Rate.newPerSecond 0))]⟩,
        acc.2) := rfl

/-- A source ramping up, with no fresh estimate and two rates or more to make
one from, stops the extrapolation. -/
theorem extrapolationStep_rampingUp_eq_none (fuel : Nat) (resourceType : ResourceType) (now : Nat)
    {acc : Usage × Meter} (source : AttributionSource)
    (hcache : acc.2.freshCachedRate resourceType now = none)
    (hrates : 2 ≤ (acc.2.currentRates resourceType now).length) :
    extrapolationStep fuel resourceType now acc (source, true) = none := by
  simp only [extrapolationStep, sourceUsageRate, if_true,
    Meter.getAdjustedUsageRate_eq_none fuel hcache hrates, Option.map_none]

/-- With every source past its ramp-up, the total is the sum of the sources'
own rates, zero for a source with none, and the meter is left as it is. -/
theorem extrapolatedUsage_of_rampedUp (fuel : Nat) (tm : TopologyManager) (resourceType : ResourceType)
    (now : Nat) (hramped : ∀ sc ∈ tm.sourceCreationTimes, sourceRampUpDuration < now - sc.2) :
    ∃ usage, tm.extrapolatedUsage fuel resourceType now = some (usage, tm) ∧
      usage.total.value = (tm.sourceCreationTimes.map fun sc =>
        ((tm.meter.attributedUsageRate sc.1 resourceType now).getD (Rate.newPerSecond 0)).value).sum := by
  have hdata : (tm.sourceCreationTimes.map fun sc =>
      (sc.1, decide (now - sc.2 ≤ sourceRampUpDuration))) =
      tm.sourceCreationTimes.map fun sc => (sc.1, false) := by
    refine List.map_congr_left fun sc hsc => ?_
    simp [Nat.not_le.mpr (hramped sc hsc)]
  -- the run over the sources keeps the meter, and sums the rates of those it has seen
  have hexists := @History.foldlM_exists _ _
    (fun acc sc => extrapolationStep fuel resourceType now acc (sc.1, false))
    (fun h acc => acc.2 = tm.meter ∧ acc.1.total.value = (h.map fun sc =>
      ((tm.meter.attributedUsageRate sc.1 resourceType now).getD (Rate.newPerSecond 0)).value).sum)
    (⟨Rate.newPerSecond 0, []⟩, tm.meter) ⟨rfl, by simp [Rate.newPerSecond]⟩
    (by
      intro h sc acc hacc
      obtain ⟨hmeter, htotal⟩ := hacc
      refine ⟨_, extrapolationStep_rampedUp fuel resourceType now acc sc.1, hmeter, ?_⟩
      simp [hmeter, htotal])
    tm.sourceCreationTimes
  obtain ⟨acc, hrun, hmeter, htotal⟩ := hexists
  refine ⟨acc.1, ?_, htotal⟩
  simp only [TopologyManager.extrapolatedUsage, hdata, List.foldlM_map, hrun, Option.map_some, hmeter]

theorem extrapolatedUsage_eq_none (fuel : Nat) (tm : TopologyManager) (resourceType : ResourceType)
    (now : Nat) {source : AttributionSource} {creationTime : Nat}
    (hsource : (source, creationTime) ∈ tm.sourceCreationTimes)
    (hramp : now - creationTime ≤ sourceRampUpDuration)
    (hcache : tm.meter.freshCachedRate resourceType now = none)
    (hrates : 2 ≤ (tm.meter.currentRates resourceType now).length) :
    tm.extrapolatedUsage fuel resourceType now = none := by
  have hrefuse : ∀ (acc : Usage × Meter) (s : AttributionSource), acc.2 = tm.meter →
      extrapolationStep fuel resourceType now acc (s, true) = none := by
    intro acc s hmeter
    exact extrapolationStep_rampingUp_eq_none fuel resourceType now s (by rw [hmeter]; exact hcache)
      (by rw [hmeter]; exact hrates)
  -- the sources before the first one ramping up leave the meter as it is; that one stops the run
  have hrun : (tm.sourceCreationTimes.map fun sc =>
      (sc.1, decide (now - sc.2 ≤ sourceRampUpDuration))).foldlM
      (extrapolationStep fuel resourceType now) (⟨Rate.newPerSecond 0, []⟩, tm.meter) = none := by
    refine History.foldlM_eq_none (fun acc : Usage × Meter => acc.2 = tm.meter) ?_
      (List.mem_map.mpr ⟨(source, creationTime), hsource, by simp [hramp]⟩)
      (fun acc hmeter => hrefuse acc source hmeter) rfl
    intro acc sr acc' _ hmeter hstep
    obtain ⟨s, rampingUp⟩ := sr
    cases rampingUp with
    | false =>
        rw [extrapolationStep_rampedUp] at hstep
        cases hstep
        exact hmeter
    | true =>
        rw [hrefuse acc s hmeter] at hstep
        cases hstep
  simp only [TopologyManager.extrapolatedUsage, hrun, Option.map_none]

theorem extrapolatedUsage_eq_none_two_peers :
    let tm := ((TopologyManager.new ⟨⟨1000⟩, ⟨1000⟩, 5, 200⟩).reportResourceUsage
        (.peer ⟨0, none⟩) .inboundBandwidthBytes 100 0).reportResourceUsage
        (.peer ⟨1, none⟩) .inboundBandwidthBytes 100 0
    ((.peer ⟨0, none⟩, 0) ∈ tm.sourceCreationTimes ∧ 0 - 0 ≤ sourceRampUpDuration ∧
        tm.meter.freshCachedRate .inboundBandwidthBytes 0 = none ∧
        2 ≤ (tm.meter.currentRates .inboundBandwidthBytes 0).length) ∧
      tm.extrapolatedUsage 1000 .inboundBandwidthBytes 0 = none := by
  intro tm
  have hsource : (.peer ⟨0, none⟩, 0) ∈ tm.sourceCreationTimes := by decide
  have hramp : 0 - 0 ≤ sourceRampUpDuration := by decide
  have hcache : tm.meter.freshCachedRate .inboundBandwidthBytes 0 = none := rfl
  have hrates : 2 ≤ (tm.meter.currentRates .inboundBandwidthBytes 0).length := by decide
  exact ⟨⟨hsource, hramp, hcache, hrates⟩,
    extrapolatedUsage_eq_none 1000 tm .inboundBandwidthBytes 0 hsource hramp hcache hrates⟩

/-- Where the extrapolated inbound usage never comes, nor do the
proportions. -/
theorem calculateUsageProportion_eq_none {fuel : Nat} {tm : TopologyManager} {atTime : Nat}
    (h : tm.extrapolatedUsage fuel .inboundBandwidthBytes atTime = none) :
    tm.calculateUsageProportion fuel atTime = none := by
  simp [TopologyManager.calculateUsageProportion, ResourceType.all, h]

/-! ### Adjusting the topology -/

/-- The number of connections in a map of connections by location. -/
def connectionCount (neighborLocations : BTreeMap Location (List Connection)) : Nat :=
  (neighborLocations.entries.map (·.2.length)).sum

/-- Under the minimum number of buckets, one location is asked for per
missing bucket: the peer's own where it is known, else a random one. -/
theorem adjustTopology_below_minimum (fuel : Nat) (tm : TopologyManager)
    (neighborLocations : BTreeMap Location (List Connection)) (myLocation : Option Location)
    (atTime instantNow : Nat) (randomLocation : Nat → Location)
    (h : neighborLocations.entries.length < tm.limits.minConnections) :
    tm.adjustTopology fuel neighborLocations myLocation atTime instantNow randomLocation =
      some (.addConnections ((List.range (tm.limits.minConnections - neighborLocations.entries.length)).map
        fun i => myLocation.getD (randomLocation i)), tm) := by
  have hpos : 0 < tm.limits.minConnections - neighborLocations.entries.length := by omega
  simp only [TopologyManager.adjustTopology, h, if_true, hpos]

/-- Counts of one or more, one of them two or more, outnumber the list. -/
theorem length_lt_sum_of_two_le {L : List Nat} (hpos : ∀ x ∈ L, 1 ≤ x) (htwo : ∃ x ∈ L, 2 ≤ x) :
    L.length < L.sum := by
  induction L with
  | nil => simp at htwo
  | cons x L ih =>
      have hrest : ∀ y ∈ L, 1 ≤ y := fun y hy => hpos y (List.mem_cons_of_mem x hy)
      have hx := hpos x List.mem_cons_self
      obtain ⟨y, hy, hy2⟩ := htwo
      rw [List.length_cons, List.sum_cons]
      rcases List.mem_cons.mp hy with rfl | hy
      · have := List.length_le_sum_of_one_le L hrest
        omega
      · have := ih hrest ⟨y, hy, hy2⟩
        omega

/-- With the buckets non-empty and one holding two connections or more,
there are fewer buckets than connections. -/
theorem length_lt_connectionCount {neighborLocations : BTreeMap Location (List Connection)}
    (hnonempty : ∀ bucket ∈ neighborLocations.entries, bucket.2 ≠ [])
    (hshared : ∃ bucket ∈ neighborLocations.entries, 2 ≤ bucket.2.length) :
    neighborLocations.entries.length < connectionCount neighborLocations := by
  obtain ⟨bucket, hb, hb2⟩ := hshared
  have h := length_lt_sum_of_two_le (L := neighborLocations.entries.map (·.2.length))
    (by
      intro x hx
      obtain ⟨b, hb, rfl⟩ := List.mem_map.mp hx
      exact List.length_pos_iff.mpr (hnonempty b hb))
    ⟨bucket.2.length, List.mem_map_of_mem hb, hb2⟩
  rwa [List.length_map] at h

theorem adjustTopology_shared_bucket_overshoots (fuel : Nat) (tm : TopologyManager)
    (neighborLocations : BTreeMap Location (List Connection)) (myLocation : Option Location)
    (atTime instantNow : Nat) (randomLocation : Nat → Location)
    (hmin : connectionCount neighborLocations < tm.limits.minConnections)
    (hnonempty : ∀ bucket ∈ neighborLocations.entries, bucket.2 ≠ [])
    (hshared : ∃ bucket ∈ neighborLocations.entries, 2 ≤ bucket.2.length) :
    ∃ locations, tm.adjustTopology fuel neighborLocations myLocation atTime instantNow randomLocation =
        some (.addConnections locations, tm) ∧
      tm.limits.minConnections - connectionCount neighborLocations < locations.length := by
  have hlt := length_lt_connectionCount hnonempty hshared
  refine ⟨_, adjustTopology_below_minimum fuel tm neighborLocations myLocation atTime instantNow
    randomLocation (by omega), ?_⟩
  rw [List.length_map, List.length_range]
  omega

theorem adjustTopology_shared_bucket_overshoots_three :
    let neighborLocations : BTreeMap Location (List Connection) :=
      ⟨[(1 / 2, [⟨⟨0, some (1 / 2)⟩⟩, ⟨⟨1, some (1 / 2)⟩⟩])], List.pairwise_singleton _ _⟩
    let tm := TopologyManager.new ⟨⟨1000⟩, ⟨1000⟩, 3, 200⟩
    (connectionCount neighborLocations < tm.limits.minConnections ∧
        (∀ bucket ∈ neighborLocations.entries, bucket.2 ≠ []) ∧
        ∃ bucket ∈ neighborLocations.entries, 2 ≤ bucket.2.length) ∧
      ∃ locations, tm.adjustTopology 0 neighborLocations (some (1 / 2)) 0 0 (fun _ => 0) =
          some (.addConnections locations, tm) ∧
        tm.limits.minConnections - connectionCount neighborLocations < locations.length := by
  intro neighborLocations tm
  have hmin : connectionCount neighborLocations < tm.limits.minConnections := by decide
  have hnonempty : ∀ bucket ∈ neighborLocations.entries, bucket.2 ≠ [] := by
    simp [neighborLocations]
  have hshared : ∃ bucket ∈ neighborLocations.entries, 2 ≤ bucket.2.length :=
    ⟨_, List.mem_singleton_self _, by decide⟩
  exact ⟨⟨hmin, hnonempty, hshared⟩, adjustTopology_shared_bucket_overshoots 0 tm neighborLocations
    (some (1 / 2)) 0 0 (fun _ => 0) hmin hnonempty hshared⟩

end FreenetCore.Topology
