import FreenetCore.Lib.KeyedList
import FreenetCore.Operations.Common

/-!
The router's outcome estimators (`router/isotonic_estimator.rs`).

An `IsotonicEstimator` fits a regression of an outcome on the distance
between a peer and a contract, and keeps for each peer an `Adjustment`: the
sum of the differences between its outcomes and the regression's estimate,
and their count. `new` builds it from a history at once: when the
regression holds at least twenty points, every peer of the history gets an
adjustment counted from `ADJUSTMENT_PRIOR_SIZE`, with one more per event.
`add_event` adds one event: the point goes into the regression, and once
the regression holds twenty points the event's peer has its adjustment
counted from zero (`Adjustment::default`) up by one.

The regression is the `pav_regression` crate's, which is not part of the
repository: it is modelled as the points it was given, its `len` counts
them, and its `interpolate` is a parameter. Outcomes and distances, `f64`s
in the source, are rationals.
-/

namespace FreenetCore.Routing

open FreenetCore.Operations

/-- `MIN_POINTS_FOR_REGRESSION`. -/
def minPointsForRegression : Nat := 5

/-- `IsotonicEstimator::ADJUSTMENT_PRIOR_SIZE`: the count `new` starts each
peer's adjustment from. -/
def adjustmentPriorSize : Nat := 10

/-- The local `adjustment_prior_size` of `new` and `add_event`: the points
the regression needs before peer adjustments are kept. -/
def regressionSizeForAdjustments : Nat := 20

/-- `pav_regression::Point`. -/
structure Point where
  x : ℚ
  y : ℚ
  deriving DecidableEq

/-- `EstimatorType`: whether the outcome is expected to grow with the
distance. -/
inductive EstimatorType
  | positive
  | negative
  deriving DecidableEq

/-- An `IsotonicRegression`, ascending or descending, as the points it was
given. -/
structure IsotonicRegression where
  ascending : Bool
  points : List Point

/-- `IsotonicRegression::len`: the points added. -/
def IsotonicRegression.len (r : IsotonicRegression) : Nat := r.points.length

/-- `IsotonicRegression::add_points`. -/
def IsotonicRegression.addPoints (r : IsotonicRegression) (ps : List Point) : IsotonicRegression :=
  { r with points := r.points ++ ps }

/-- `IsotonicEvent`: a request to a peer for a contract, and its outcome. -/
structure IsotonicEvent where
  peer : PeerKeyLocation
  contractLocation : Location
  result : ℚ

/-- `IsotonicEvent::route_distance`; `none` is the `unwrap` on a peer with
no location. -/
def IsotonicEvent.routeDistance (e : IsotonicEvent) : Option ℚ :=
  e.peer.location.map (Location.distance e.contractLocation)

/-- `Adjustment`: the sum of a peer's differences and their count. -/
structure Adjustment where
  sum : ℚ
  count : Nat

/-- `Adjustment::new`, which is its `Default`. -/
def Adjustment.new : Adjustment := ⟨0, 0⟩

/-- `Adjustment::add`. -/
def Adjustment.add (a : Adjustment) (value : ℚ) : Adjustment := ⟨a.sum + value, a.count + 1⟩

/-- `Adjustment::value`. -/
def Adjustment.value (a : Adjustment) : ℚ := a.sum / a.count

/-- `IsotonicEstimator`: the regression and the peers' adjustments. -/
structure IsotonicEstimator where
  globalRegression : IsotonicRegression
  peerAdjustments : PeerKeyLocation → Option Adjustment

/-- `EstimationError`. -/
inductive EstimationError
  | insufficientData
  deriving DecidableEq

/-- How many of the events are the peer's. -/
def eventsOf (p : PeerKeyLocation) (events : List IsotonicEvent) : Nat :=
  (events.filter (·.peer == p)).length

section Estimator

variable (interpolate : IsotonicRegression → ℚ → Option ℚ)

/-- The inner loop of `new` over a peer's events: from the prior count, one
more per event, and the event's difference from the regression's estimate
added to the sum; `none` is the `expect` on the estimate. -/
def priorAdjustment (reg : IsotonicRegression) (events : List IsotonicEvent) : Option Adjustment :=
  events.foldlM
    (fun (a : Adjustment) e => do
      let d ← e.routeDistance
      let g ← interpolate reg d
      pure ⟨a.sum + (e.result - g), a.count + 1⟩)
    ⟨0, adjustmentPriorSize⟩

/-- `IsotonicEstimator::new`. The peers are those of the history, each
with its own events (`peer_events`); `none` is an `unwrap` or `expect`. -/
def IsotonicEstimator.new (history : List IsotonicEvent) (ty : EstimatorType) :
    Option IsotonicEstimator := do
  let allPoints ← history.mapM fun e => e.routeDistance.map fun d => (⟨d, e.result⟩ : Point)
  let globalRegression : IsotonicRegression := ⟨ty = .positive, allPoints⟩
  if regressionSizeForAdjustments ≤ globalRegression.len then
    let adjustments ← (history.map (·.peer)).dedup.mapM fun p =>
      (priorAdjustment interpolate globalRegression (history.filter (·.peer == p))).map (p, ·)
    pure ⟨globalRegression, fun p => adjustments.lookup p⟩
  else pure ⟨globalRegression, fun _ => none⟩

/-- `IsotonicEstimator::add_event`; `none` is an `unwrap`. -/
def IsotonicEstimator.addEvent (est : IsotonicEstimator) (event : IsotonicEvent) :
    Option IsotonicEstimator := do
  let routeDistance ← event.routeDistance
  let globalRegression := est.globalRegression.addPoints [⟨routeDistance, event.result⟩]
  if regressionSizeForAdjustments ≤ globalRegression.len then
    let g ← interpolate globalRegression routeDistance
    let adjustment := event.result - g
    pure ⟨globalRegression, Function.update est.peerAdjustments event.peer
      (some (((est.peerAdjustments event.peer).getD .new).add adjustment))⟩
  else pure { est with globalRegression := globalRegression }

/-- `add_event` for each event in turn. -/
def IsotonicEstimator.addEvents (est : IsotonicEstimator) (events : List IsotonicEvent) :
    Option IsotonicEstimator :=
  events.foldlM (IsotonicEstimator.addEvent interpolate) est

/-- Whether `estimate_retrieval_time` adds the peer's adjustment to the
regression's estimate. -/
def IsotonicEstimator.usesAdjustment (est : IsotonicEstimator) (peer : PeerKeyLocation) : Bool :=
  (est.peerAdjustments peer).any (minPointsForRegression ≤ ·.count)

/-- `estimate_retrieval_time`; `none` is an `unwrap`. -/
def IsotonicEstimator.estimateRetrievalTime (est : IsotonicEstimator) (peer : PeerKeyLocation)
    (contractLocation : Location) : Option (Except EstimationError ℚ) :=
  if est.globalRegression.len < minPointsForRegression then some (.error .insufficientData)
  else do
    let loc ← peer.location
    let globalEstimate ← interpolate est.globalRegression (Location.distance contractLocation loc)
    -- regression can sometimes produce negative estimates
    let globalEstimate := max globalEstimate 0
    pure <| .ok <|
      match est.peerAdjustments peer with
      | none => globalEstimate
      | some adj =>
          globalEstimate + if minPointsForRegression ≤ adj.count then adj.value else 0

/-- The estimate adds the peer's adjustment exactly when `usesAdjustment`
says so. -/
theorem estimateRetrievalTime_eq {est : IsotonicEstimator} {peer : PeerKeyLocation}
    {contractLocation loc g : ℚ} (hlen : minPointsForRegression ≤ est.globalRegression.len)
    (hloc : peer.location = some loc)
    (hg : interpolate est.globalRegression (Location.distance contractLocation loc) = some g) :
    est.estimateRetrievalTime interpolate peer contractLocation =
      some (.ok (max g 0 + if est.usesAdjustment peer then
        ((est.peerAdjustments peer).map Adjustment.value).getD 0 else 0)) := by
  simp only [IsotonicEstimator.estimateRetrievalTime, Nat.not_lt.mpr hlen, if_false, hloc, hg,
    Option.bind_eq_bind, Option.bind_some]
  cases hadj : est.peerAdjustments peer with
  | none => simp [IsotonicEstimator.usesAdjustment, hadj]
  | some adj => by_cases hc : minPointsForRegression ≤ adj.count <;>
      simp [IsotonicEstimator.usesAdjustment, hadj, hc]

/-! ### How the adjustments are counted -/

variable {interpolate}

/-- The inner loop of `new` counts one more per event, from any start. -/
theorem foldlM_count {reg : IsotonicRegression} {events : List IsotonicEvent} {a₀ a : Adjustment}
    (h : events.foldlM (fun (a : Adjustment) e => do
        let d ← e.routeDistance
        let g ← interpolate reg d
        pure (⟨a.sum + (e.result - g), a.count + 1⟩ : Adjustment)) a₀ = some a) :
    a.count = a₀.count + events.length := by
  induction events generalizing a₀ with
  | nil => cases h; rfl
  | cons e es ih =>
      simp only [List.foldlM_cons, Option.bind_eq_bind, Option.pure_def, Option.bind_eq_some_iff,
        Option.some.injEq] at h
      obtain ⟨a₁, ⟨d, -, g, -, rfl⟩, hrest⟩ := h
      rw [ih hrest, List.length_cons]
      simp only
      omega

theorem priorAdjustment_count {reg : IsotonicRegression} {events : List IsotonicEvent}
    {a : Adjustment} (h : priorAdjustment interpolate reg events = some a) :
    a.count = adjustmentPriorSize + events.length :=
  foldlM_count h

/-- The inner loop of `new` succeeds when every event has a distance and the
regression an estimate for it. -/
theorem priorAdjustment_isSome {reg : IsotonicRegression} {events : List IsotonicEvent}
    (hloc : ∀ e ∈ events, e.peer.location.isSome) (hreg : ∀ x, (interpolate reg x).isSome) :
    (priorAdjustment interpolate reg events).isSome := by
  unfold priorAdjustment
  generalize (⟨0, adjustmentPriorSize⟩ : Adjustment) = a₀
  induction events generalizing a₀ with
  | nil => rfl
  | cons e es ih =>
      obtain ⟨l, hl⟩ := Option.isSome_iff_exists.mp (hloc e List.mem_cons_self)
      obtain ⟨g, hg⟩ := Option.isSome_iff_exists.mp (hreg (Location.distance e.contractLocation l))
      simp only [List.foldlM_cons, IsotonicEvent.routeDistance, hl, Option.map_some, hg,
        Option.bind_eq_bind, Option.bind_some, Option.pure_def]
      exact ih (fun x hx => hloc x (List.mem_cons_of_mem e hx)) _

theorem IsotonicEstimator.new_len {history : List IsotonicEvent} {ty : EstimatorType} {est : IsotonicEstimator}
    (h : IsotonicEstimator.new interpolate history ty = some est) :
    est.globalRegression.len = history.length := by
  simp only [IsotonicEstimator.new, Option.bind_eq_bind, Option.bind_eq_some_iff] at h
  obtain ⟨pts, hpts, hrest⟩ := h
  have hlen : pts.length = history.length := KeyedList.length_mapM hpts
  split at hrest
  · obtain ⟨adjs, -, hest⟩ := Option.bind_eq_some_iff.mp hrest
    cases hest
    exact hlen
  · cases hrest
    exact hlen

/-- The adjustments `new` keeps: with twenty points or more, each peer of
the history has one counted from `ADJUSTMENT_PRIOR_SIZE`, one more per
event of its own; otherwise none. -/
theorem IsotonicEstimator.new_count {history : List IsotonicEvent} {ty : EstimatorType} {est : IsotonicEstimator}
    (h : IsotonicEstimator.new interpolate history ty = some est) (p : PeerKeyLocation) :
    (est.peerAdjustments p).map (·.count) =
      if regressionSizeForAdjustments ≤ history.length ∧ p ∈ history.map (·.peer) then
        some (adjustmentPriorSize + eventsOf p history)
      else none := by
  simp only [IsotonicEstimator.new, Option.bind_eq_bind, Option.bind_eq_some_iff] at h
  obtain ⟨pts, hpts, hrest⟩ := h
  have hlen : pts.length = history.length := KeyedList.length_mapM hpts
  split at hrest
  · rename_i hsize
    obtain ⟨adjs, hadjs, hest⟩ := Option.bind_eq_some_iff.mp hrest
    cases hest
    have hsize' : regressionSizeForAdjustments ≤ history.length := by
      simpa [IsotonicRegression.len, hlen] using hsize
    simp only [KeyedList.lookup_mapM hadjs p, List.mem_dedup, hsize', true_and]
    split
    · rename_i hp
      -- the traversal reached this peer, so its adjustment was computed
      have hsome := KeyedList.isSome_of_mapM hadjs (List.mem_dedup.mpr hp)
      obtain ⟨a, ha⟩ := Option.isSome_iff_exists.mp (by simpa using hsome)
      rw [ha, Option.map_some, priorAdjustment_count ha]
      rfl
    · rfl
  · rename_i hsize
    cases hrest
    have hsize' : ¬ regressionSizeForAdjustments ≤ history.length := by
      simpa [IsotonicRegression.len, hlen] using hsize
    simp [hsize']

theorem IsotonicEstimator.addEvent_len {est est' : IsotonicEstimator} {e : IsotonicEvent}
    (h : est.addEvent interpolate e = some est') :
    est'.globalRegression.len = est.globalRegression.len + 1 := by
  simp only [IsotonicEstimator.addEvent, Option.bind_eq_bind, Option.bind_eq_some_iff] at h
  obtain ⟨d, -, hrest⟩ := h
  split at hrest
  · obtain ⟨g, -, hest⟩ := Option.bind_eq_some_iff.mp hrest
    cases hest
    simp [IsotonicRegression.len, IsotonicRegression.addPoints]
  · cases hrest
    simp [IsotonicRegression.len, IsotonicRegression.addPoints]

/-- `add_event` counts the event for its peer, up from zero for a peer with
no adjustment yet, once the regression holds twenty points. -/
theorem IsotonicEstimator.addEvent_count {est est' : IsotonicEstimator} {e : IsotonicEvent}
    (h : est.addEvent interpolate e = some est') (p : PeerKeyLocation) :
    (est'.peerAdjustments p).map (·.count) =
      if p = e.peer ∧ regressionSizeForAdjustments ≤ est.globalRegression.len + 1 then
        some (((est.peerAdjustments p).map (·.count)).getD 0 + 1)
      else (est.peerAdjustments p).map (·.count) := by
  simp only [IsotonicEstimator.addEvent, Option.bind_eq_bind, Option.bind_eq_some_iff] at h
  obtain ⟨d, -, hrest⟩ := h
  have hlen : (est.globalRegression.addPoints [⟨d, e.result⟩]).len =
      est.globalRegression.len + 1 := by
    simp [IsotonicRegression.len, IsotonicRegression.addPoints]
  split at hrest
  · rename_i hsize
    obtain ⟨g, -, hest⟩ := Option.bind_eq_some_iff.mp hrest
    cases hest
    rw [hlen] at hsize
    by_cases hp : p = e.peer
    · subst hp
      cases hadj : est.peerAdjustments e.peer <;>
        simp [hsize, Adjustment.add, Adjustment.new]
    · simp [hp]
  · rename_i hsize
    cases hrest
    rw [hlen] at hsize
    simp [hsize]

/-- The points of `new` are the history's, at their distances. -/
theorem IsotonicEstimator.new_points {history : List IsotonicEvent} {ty : EstimatorType}
    {est : IsotonicEstimator} (h : IsotonicEstimator.new interpolate history ty = some est) :
    history.mapM (fun e => e.routeDistance.map fun d => (⟨d, e.result⟩ : Point)) =
      some est.globalRegression.points := by
  simp only [IsotonicEstimator.new, Option.bind_eq_bind, Option.bind_eq_some_iff] at h
  obtain ⟨pts, hpts, hrest⟩ := h
  split at hrest
  · obtain ⟨adjs, -, hest⟩ := Option.bind_eq_some_iff.mp hrest
    cases hest
    exact hpts
  · cases hrest
    exact hpts

/-- A history of one event over and over gives its point as often. -/
theorem IsotonicEstimator.new_points_replicate {n : Nat} {e : IsotonicEvent} {d : ℚ} {ty : EstimatorType}
    {est : IsotonicEstimator} (hd : e.routeDistance = some d)
    (h : IsotonicEstimator.new interpolate (List.replicate n e) ty = some est) :
    est.globalRegression.points = List.replicate n ⟨d, e.result⟩ := by
  have hpts := IsotonicEstimator.new_points h
  rw [KeyedList.mapM_replicate (by rw [hd]; rfl) n] at hpts
  exact (Option.some.inj hpts).symm

/-- A peer none of whose events is in the history has no adjustment. -/
theorem IsotonicEstimator.new_peerAdjustments_of_not_mem {history : List IsotonicEvent}
    {ty : EstimatorType} {est : IsotonicEstimator}
    (h : IsotonicEstimator.new interpolate history ty = some est) {p : PeerKeyLocation}
    (hp : p ∉ history.map (·.peer)) : est.peerAdjustments p = none := by
  have hcount := IsotonicEstimator.new_count h p
  rw [if_neg fun h => hp h.2] at hcount
  exact Option.map_eq_none_iff.mp hcount

/-- What `add_event` does once the regression holds twenty points: the
event's point joins, and the event's peer has its adjustment, counted from
zero, take the event's difference from the new estimate. -/
theorem IsotonicEstimator.addEvent_eq {est : IsotonicEstimator} {e : IsotonicEvent} {d g : ℚ}
    (hd : e.routeDistance = some d)
    (hlen : regressionSizeForAdjustments ≤ est.globalRegression.len + 1)
    (hg : interpolate (est.globalRegression.addPoints [⟨d, e.result⟩]) d = some g) :
    est.addEvent interpolate e = some ⟨est.globalRegression.addPoints [⟨d, e.result⟩],
      Function.update est.peerAdjustments e.peer
        (some (((est.peerAdjustments e.peer).getD .new).add (e.result - g)))⟩ := by
  have hlen' : regressionSizeForAdjustments ≤ (est.globalRegression.addPoints [⟨d, e.result⟩]).len := by
    simpa [IsotonicRegression.len, IsotonicRegression.addPoints] using hlen
  simp only [IsotonicEstimator.addEvent, hd, hlen', if_true, hg, Option.bind_eq_bind,
    Option.bind_some, Option.pure_def]

/-- A whole run of `add_event` counts a peer at most once per event of its
own. -/
theorem IsotonicEstimator.addEvents_count_le {est est' : IsotonicEstimator} {events : List IsotonicEvent}
    (h : est.addEvents interpolate events = some est') (p : PeerKeyLocation) :
    ((est'.peerAdjustments p).map (·.count)).getD 0 ≤
      ((est.peerAdjustments p).map (·.count)).getD 0 + eventsOf p events := by
  induction events generalizing est with
  | nil => cases h; simp [eventsOf]
  | cons e es ih =>
      obtain ⟨est₁, h₁, hrest⟩ := Option.bind_eq_some_iff.mp h
      have hstep := IsotonicEstimator.addEvent_count h₁ p
      have hih := ih hrest
      -- one event adds at most one, and only for its own peer
      have hone : ((est₁.peerAdjustments p).map (·.count)).getD 0 ≤
          ((est.peerAdjustments p).map (·.count)).getD 0 + (if e.peer == p then 1 else 0) := by
        rw [hstep]
        split
        · rename_i hc
          simp [hc.1]
        · simp
      have hcount : eventsOf p (e :: es) = (if e.peer == p then 1 else 0) + eventsOf p es := by
        by_cases hp : e.peer = p <;> simp [eventsOf, hp]; omega
      omega

/-- The regression answers once it holds a point, as the `pav_regression`
crate's does. -/
def Interpolates (interpolate : IsotonicRegression → ℚ → Option ℚ) : Prop :=
  ∀ reg x, reg.points ≠ [] → (interpolate reg x).isSome

/-- `add_event` does not panic on a peer with a location. -/
theorem IsotonicEstimator.addEvent_isSome (hi : Interpolates interpolate) (est : IsotonicEstimator)
    {e : IsotonicEvent} (hloc : e.peer.location.isSome) :
    (est.addEvent interpolate e).isSome := by
  obtain ⟨l, hl⟩ := Option.isSome_iff_exists.mp hloc
  have hd : e.routeDistance = some (Location.distance e.contractLocation l) := by
    simp [IsotonicEvent.routeDistance, hl]
  obtain ⟨g, hg⟩ := Option.isSome_iff_exists.mp
    (hi (est.globalRegression.addPoints [⟨Location.distance e.contractLocation l, e.result⟩])
      (Location.distance e.contractLocation l) (by simp [IsotonicRegression.addPoints]))
  simp only [IsotonicEstimator.addEvent, hd, hg, Option.bind_eq_bind, Option.bind_some]
  split <;> rfl

theorem IsotonicEstimator.addEvents_isSome (hi : Interpolates interpolate) (est : IsotonicEstimator)
    {events : List IsotonicEvent} (hloc : ∀ e ∈ events, e.peer.location.isSome) :
    (est.addEvents interpolate events).isSome := by
  induction events generalizing est with
  | nil => rfl
  | cons e es ih =>
      obtain ⟨est₁, h₁⟩ := Option.isSome_iff_exists.mp
        (IsotonicEstimator.addEvent_isSome hi est (hloc e List.mem_cons_self))
      simp only [IsotonicEstimator.addEvents, List.foldlM_cons, h₁, Option.bind_eq_bind,
        Option.bind_some]
      exact ih est₁ fun x hx => hloc x (List.mem_cons_of_mem e hx)

/-- `new` does not panic on a history of peers with locations. -/
theorem IsotonicEstimator.new_isSome (hi : Interpolates interpolate) {history : List IsotonicEvent}
    (hloc : ∀ e ∈ history, e.peer.location.isSome) (ty : EstimatorType) :
    (IsotonicEstimator.new interpolate history ty).isSome := by
  have hpts := KeyedList.mapM_isSome (f := fun e : IsotonicEvent =>
      e.routeDistance.map fun d => (⟨d, e.result⟩ : Point)) (l := history)
    (fun e he => by simpa [IsotonicEvent.routeDistance] using hloc e he)
  obtain ⟨pts, hpts⟩ := Option.isSome_iff_exists.mp hpts
  have hlen : pts.length = history.length := KeyedList.length_mapM hpts
  simp only [IsotonicEstimator.new, hpts, Option.bind_eq_bind, Option.bind_some]
  split
  · rename_i hsize
    -- twenty points or more: the regression has an estimate for every distance
    have hreg : ∀ x, (interpolate ⟨decide (ty = .positive), pts⟩ x).isSome := fun x =>
      hi _ x (by
        intro hnil
        have hpts₀ : pts = [] := hnil
        simp [IsotonicRegression.len, hpts₀, regressionSizeForAdjustments] at hsize)
    have hadj := KeyedList.mapM_isSome (l := (history.map (·.peer)).dedup)
      (f := fun p => (priorAdjustment interpolate ⟨decide (ty = .positive), pts⟩
        (history.filter (·.peer == p))).map (p, ·))
      (fun p _ => by
        simpa using priorAdjustment_isSome (fun e he => hloc e (List.mem_of_mem_filter he)) hreg)
    obtain ⟨adjs, hadjs⟩ := Option.isSome_iff_exists.mp hadj
    simp [hadjs]
  · rfl

end Estimator

end FreenetCore.Routing
