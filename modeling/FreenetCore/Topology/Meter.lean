import FreenetCore.Lib.FallibleSort
import FreenetCore.Lib.KeyedList
import FreenetCore.Operations.Common

/-!
Resource metering for the topology manager (`topology/rate.rs`,
`topology/running_average.rs`, `topology/meter.rs`).

A `RunningAverage` keeps its last `max_samples` samples with their sum, and
its rate is that sum over the time since the oldest sample, one second at
least. The `Meter` keeps a running average per attribution source and
resource, and estimates the usage of a resource as the median of the
sources' rates, cached for a minute.

`Rate`'s `Ord` and `PartialOrd` are written in terms of each other: `cmp` is
`partial_cmp` unwrapped, and `partial_cmp` is `cmp` wrapped. Each call is
given one unit of fuel, and neither answers at any fuel (`Rate.cmp_eq_none`):
`sort_unstable` of two rates or more never returns, and the estimate with it
(`calculateEstimatedUsageRate_eq_none`). In this module `none` is such a
comparison.

Instants and durations are nanoseconds; `Instant - Instant` saturates at
zero, as the truncated subtraction does. Rates are rationals.
-/

namespace FreenetCore.Topology

open FreenetCore.Operations FreenetCore.WasmRuntime

/-! ### Rates -/

/-- Nanoseconds in a second. -/
def nanosPerSecond : Nat := 1000000000

/-- `Rate`: a value per second. -/
structure Rate where
  value : ℚ
  deriving DecidableEq

/-- `Rate::new`: a value over a duration. -/
def Rate.new (value : ℚ) (divisor : Nat) : Rate := ⟨value / ((divisor : ℚ) / nanosPerSecond)⟩

/-- `Rate::new_per_second`. -/
def Rate.newPerSecond (value : ℚ) : Rate := ⟨value⟩

/-- `Rate::per_second`. -/
def Rate.perSecond (r : Rate) : ℚ := r.value

instance : Add Rate := ⟨fun a b => ⟨a.value + b.value⟩⟩

@[simp] theorem Rate.add_value (a b : Rate) : (a + b).value = a.value + b.value := rfl

/-- `RateProportion`. -/
structure RateProportion where
  value : ℚ

/-- `Rate::proportion_of`. -/
def Rate.proportionOf (r other : Rate) : RateProportion := ⟨r.value / other.value⟩

mutual

/-- `Ord::cmp` for `Rate`: `partial_cmp`, with `Equal` where it has no
answer. -/
def Rate.cmp : Nat → Rate → Rate → Option Ordering
  | 0, _, _ => none
  | fuel + 1, r, other => (Rate.partialCmp fuel r other).map fun o => o.getD .eq

/-- `PartialOrd::partial_cmp` for `Rate`: `cmp`, as an answer. -/
def Rate.partialCmp : Nat → Rate → Rate → Option (Option Ordering)
  | 0, _, _ => none
  | fuel + 1, r, other => (Rate.cmp fuel r other).map some

end

/-- `PartialOrd::lt`, which `sort_unstable` asks: `partial_cmp` is `Less`. -/
def Rate.lt (fuel : Nat) (r other : Rate) : Option Bool :=
  (Rate.partialCmp fuel r other).map (· == some .lt)

/-- Each of `cmp` and `partial_cmp` only calls the other, so neither answers,
whatever the fuel. -/
theorem Rate.cmp_eq_none (fuel : Nat) (r other : Rate) :
    Rate.cmp fuel r other = none ∧ Rate.partialCmp fuel r other = none := by
  induction fuel with
  | zero => exact ⟨rfl, rfl⟩
  | succ fuel ih =>
      constructor
      · simp only [Rate.cmp, ih.2, Option.map_none]
      · simp only [Rate.partialCmp, ih.1, Option.map_none]

theorem Rate.lt_eq_none (fuel : Nat) (r other : Rate) : Rate.lt fuel r other = none := by
  simp only [Rate.lt, (Rate.cmp_eq_none fuel r other).2, Option.map_none]

/-! ### Running averages -/

/-- `RunningAverage`: the last samples, oldest first, and their sum. The
count of all samples ever inserted is never read, and left out. -/
structure RunningAverage where
  maxSamples : Nat
  samples : List (Nat × ℚ)
  sumSamples : ℚ

/-- `RunningAverage::new`. -/
def RunningAverage.new (maxSamples : Nat) : RunningAverage := ⟨maxSamples, [], 0⟩

/-- `RunningAverage::insert_with_time`: under `max_samples` the sample joins,
else it takes the oldest one's place. -/
def RunningAverage.insertWithTime (ra : RunningAverage) (now : Nat) (value : ℚ) : RunningAverage :=
  if ra.samples.length < ra.maxSamples then
    { ra with samples := ra.samples ++ [(now, value)], sumSamples := ra.sumSamples + value }
  else
    match ra.samples with
    | [] => ra
    | (_, oldValue) :: rest =>
        { ra with samples := rest ++ [(now, value)], sumSamples := ra.sumSamples + (value - oldValue) }

/-- `MINIMUM_TIME_WINDOW`: one second. -/
def minimumTimeWindow : Nat := nanosPerSecond

/-- `RunningAverage::get_rate_at_time`. -/
def RunningAverage.getRateAtTime (ra : RunningAverage) (now : Nat) : Option Rate :=
  match ra.samples with
  | [] => none
  | (oldestSampleTime, _) :: _ =>
      some (Rate.new ra.sumSamples (max (now - oldestSampleTime) minimumTimeWindow))

/-! ### The meter -/

/-- `ResourceType`. -/
inductive ResourceType
  | inboundBandwidthBytes
  | outboundBandwidthBytes
  deriving DecidableEq

/-- `ResourceType::all`. -/
def ResourceType.all : List ResourceType := [.inboundBandwidthBytes, .outboundBandwidthBytes]

/-- `AttributionSource`. -/
inductive AttributionSource
  | peer (peer : PeerKeyLocation)
  | delegate (key : DelegateKey)
  deriving DecidableEq

/-- `Meter`. The `DashMap` of sources is the list of its entries in
iteration order; a source's running averages are a function of the
resource, as is the cache of estimates. -/
structure Meter where
  attributionMeters : List (AttributionSource × (ResourceType → Option RunningAverage))
  runningAverageWindowSize : Nat
  cachedEstimatedUsageRate : ResourceType → Option (Rate × Nat)

/-- `Meter::new_with_window_size`. -/
def Meter.newWithWindowSize (runningAverageWindowSize : Nat) : Meter :=
  ⟨[], runningAverageWindowSize, fun _ => none⟩

/-- `Meter::attributed_usage_rate`: the source's rate, zero for a resource it
has no running average of, and nothing for an unknown source. -/
def Meter.attributedUsageRate (m : Meter) (attribution : AttributionSource) (resource : ResourceType)
    (atTime : Nat) : Option Rate :=
  match m.attributionMeters.lookup attribution with
  | some attributionMeters =>
      match attributionMeters resource with
      | some meter => meter.getRateAtTime atTime
      | none => some (Rate.new 0 nanosPerSecond)
  | none => none

/-- `Meter::get_usage_rates`, in iteration order. -/
def Meter.getUsageRates (m : Meter) (resource : ResourceType) (atTime : Nat) :
    List (AttributionSource × Rate) :=
  m.attributionMeters.filterMap fun attributionMeter =>
    (m.attributedUsageRate attributionMeter.1 resource atTime).map (attributionMeter.1, ·)

/-- `DEFAULT_USAGE_PERCENTILE`. -/
def defaultUsagePercentile : ℚ := 1 / 2

/-- `ESTIMATED_USAGE_RATE_CACHE_TIME`: a minute. -/
def estimatedUsageRateCacheTime : Nat := 60 * nanosPerSecond

/-- The `rates` of `calculate_estimated_usage_rate`: each source's current
rate for the resource, where it has one. -/
def Meter.currentRates (m : Meter) (resource : ResourceType) (atTime : Nat) : List Rate :=
  m.attributionMeters.filterMap fun t => (t.2 resource).bind (·.getRateAtTime atTime)

/-- `Meter::calculate_estimated_usage_rate`: the rate at the percentile of
the sorted rates. -/
def Meter.calculateEstimatedUsageRate (fuel : Nat) (m : Meter) (resource : ResourceType)
    (atTime : Nat) : Option (Option Rate) :=
  let rates := m.currentRates resource atTime
  if rates.isEmpty then some none
  else
    (FallibleSort.insertionSort (Rate.lt fuel) rates).map fun sortedRates =>
      -- `f64::round` rounds half away from zero, as `round` does on `0 ≤ x`
      let percentileIndex := (round (defaultUsagePercentile * sortedRates.length)).toNat
      let estimatedIndex := min percentileIndex (sortedRates.length - 1)
      sortedRates[estimatedIndex]?

/-- The cached estimate for a resource, while it is at most a minute old. -/
def Meter.freshCachedRate (m : Meter) (resource : ResourceType) (atTime : Nat) : Option Rate :=
  match m.cachedEstimatedUsageRate resource with
  | some (cachedRate, cachedTime) =>
      if atTime - cachedTime ≤ estimatedUsageRateCacheTime then some cachedRate else none
  | none => none

/-- `Meter::get_adjusted_usage_rate`: the fresh cached estimate, else a new
one, which is cached. -/
def Meter.getAdjustedUsageRate (fuel : Nat) (m : Meter) (resource : ResourceType) (atTime : Nat) :
    Option (Option Rate × Meter) :=
  match m.freshCachedRate resource atTime with
  | some cachedRate => some (some cachedRate, m)
  | none =>
      (m.calculateEstimatedUsageRate fuel resource atTime).map fun
        | some estimatedUsageRate =>
            (some estimatedUsageRate, { m with
              cachedEstimatedUsageRate := Function.update m.cachedEstimatedUsageRate resource
                (some (estimatedUsageRate, atTime)) })
        | none => (none, m)

/-- `Meter::report`: the sample joins the source's running average for the
resource, each made where missing. -/
def Meter.report (m : Meter) (attribution : AttributionSource) (resource : ResourceType) (value : ℚ)
    (atTime : Nat) : Meter :=
  let resourceMap := (m.attributionMeters.lookup attribution).getD fun _ => none
  let resourceValue := (resourceMap resource).getD (RunningAverage.new m.runningAverageWindowSize)
  { m with
    attributionMeters := KeyedList.insert m.attributionMeters attribution
      (Function.update resourceMap resource (some (resourceValue.insertWithTime atTime value))) }

/-! ### The estimate -/

/-- Of two rates or more, no estimate is ever made: the sort's first
comparison does not return. -/
theorem Meter.calculateEstimatedUsageRate_eq_none (fuel : Nat) {m : Meter}
    {resource : ResourceType} {atTime : Nat} (h : 2 ≤ (m.currentRates resource atTime).length) :
    m.calculateEstimatedUsageRate fuel resource atTime = none := by
  have hne : (m.currentRates resource atTime).isEmpty = false := by
    rw [List.isEmpty_eq_false_iff_exists_mem]
    exact List.exists_mem_of_length_pos (by omega)
  simp only [Meter.calculateEstimatedUsageRate, hne, Bool.false_eq_true, if_false,
    FallibleSort.insertionSort_eq_none (Rate.lt_eq_none fuel) h, Option.map_none]

/-- Without a fresh cached estimate, the adjusted rate of two rates or more
never returns. -/
theorem Meter.getAdjustedUsageRate_eq_none (fuel : Nat) {m : Meter} {resource : ResourceType}
    {atTime : Nat} (hcache : m.freshCachedRate resource atTime = none)
    (h : 2 ≤ (m.currentRates resource atTime).length) :
    m.getAdjustedUsageRate fuel resource atTime = none := by
  simp only [Meter.getAdjustedUsageRate, hcache, Meter.calculateEstimatedUsageRate_eq_none fuel h,
    Option.map_none]

end FreenetCore.Topology
