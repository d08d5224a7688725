import FreenetCore.Lib.BinaryHeap
import FreenetCore.Router.Router

/-!
How the router chooses among peers (`router.rs`).

`select_closest_peers` pushes a (distance, peer) pair for each peer with a
location into a max-heap, popping whenever the heap holds more than
`consider_n_closest_peers`, and returns the peers of what is left in
increasing order. Rust compares the pairs by the distance and then by the
peer, whose derived order compares the id and then the location, `None`
first; a pair is an element of `ℚ ×ₗ (ℕ ×ₗ WithBot ℚ)`, which compares the
same way.
-/

namespace FreenetCore.Routing

open FreenetCore.Operations

/-- The heap's pairs, `(Distance, &PeerKeyLocation)`, in Rust's order. -/
abbrev HeapEntry := ℚ ×ₗ (ℕ ×ₗ WithBot ℚ)

/-- The pair of a peer at a distance. -/
def HeapEntry.mk (distance : ℚ) (p : PeerKeyLocation) : HeapEntry :=
  toLex (distance, toLex (p.peer, p.location))

def HeapEntry.distance (e : HeapEntry) : ℚ := (ofLex e).1

def HeapEntry.peer (e : HeapEntry) : PeerKeyLocation :=
  ⟨(ofLex (ofLex e).2).1, (ofLex (ofLex e).2).2⟩

@[simp] theorem HeapEntry.distance_mk (d : ℚ) (p : PeerKeyLocation) :
    (HeapEntry.mk d p).distance = d := rfl

@[simp] theorem HeapEntry.peer_mk (d : ℚ) (p : PeerKeyLocation) : (HeapEntry.mk d p).peer = p := rfl

/-- `Router::select_closest_peers`. -/
def Router.selectClosestPeers (r : Router) (peers : List PeerKeyLocation)
    (targetLocation : Location) : List PeerKeyLocation :=
  let heap := peers.foldl
    (fun heap peerLocation =>
      match peerLocation.location with
      | some location =>
          heap.pushBounded r.considerNClosestPeers
            (HeapEntry.mk (Location.distance targetLocation location) peerLocation)
      | none => heap)
    BinaryHeap.empty
  heap.intoSortedVec.map HeapEntry.peer

/-- The pair pushed for a peer, if it has a location. -/
def closestPeerEntry (targetLocation : Location) (p : PeerKeyLocation) : Option HeapEntry :=
  p.location.map fun location => HeapEntry.mk (Location.distance targetLocation location) p

theorem mem_closestPeerEntries {targetLocation : Location} {peers : List PeerKeyLocation}
    {e : HeapEntry} :
    e ∈ peers.filterMap (closestPeerEntry targetLocation) ↔
      ∃ p ∈ peers, ∃ l, p.location = some l ∧ e = HeapEntry.mk (Location.distance targetLocation l) p := by
  simp only [List.mem_filterMap, closestPeerEntry, Option.map_eq_some_iff]
  constructor
  · rintro ⟨p, hp, l, hl, rfl⟩
    exact ⟨p, hp, l, hl, rfl⟩
  · rintro ⟨p, hp, l, hl, rfl⟩
    exact ⟨p, hp, l, hl, rfl⟩

theorem length_closestPeerEntries (targetLocation : Location) (peers : List PeerKeyLocation) :
    (peers.filterMap (closestPeerEntry targetLocation)).length =
      (peers.filter (·.location.isSome)).length := by
  induction peers with
  | nil => rfl
  | cons p peers ih =>
      cases hl : p.location <;> simp [closestPeerEntry, hl, ih]

/-- The heap of `select_closest_peers` is that of the pairs of the peers
with a location. -/
theorem selectClosestPeers_heap (r : Router) (peers : List PeerKeyLocation)
    (targetLocation : Location) :
    r.selectClosestPeers peers targetLocation =
      ((peers.filterMap (closestPeerEntry targetLocation)).foldl
        (BinaryHeap.pushBounded r.considerNClosestPeers) BinaryHeap.empty).intoSortedVec.map
        HeapEntry.peer := by
  unfold Router.selectClosestPeers
  generalize (BinaryHeap.empty : BinaryHeap HeapEntry) = heap
  induction peers generalizing heap with
  | nil => rfl
  | cons p peers ih =>
      cases hl : p.location <;> simp [closestPeerEntry, hl, ih]

/-- Bounded selection is exact. For every router and sequence of peers, the
selection holds `min k m` peers, `k` being `consider_n_closest_peers` and
`m` the number of peers with a location; it is in order of distance to the
target, it holds only peers of the input with a location, and no peer with a
location left out is strictly nearer the target than a peer selected. -/
theorem selectClosestPeers_exact (r : Router) (peers : List PeerKeyLocation)
    (targetLocation : Location) :
    (r.selectClosestPeers peers targetLocation).length =
        min r.considerNClosestPeers (peers.filter (·.location.isSome)).length ∧
      ((r.selectClosestPeers peers targetLocation).map fun p =>
        (p.location.map (Location.distance targetLocation)).getD 0).Pairwise (· ≤ ·) ∧
      (∀ q ∈ r.selectClosestPeers peers targetLocation, q ∈ peers ∧ q.location.isSome) ∧
      ∀ p ∈ peers, ∀ l, p.location = some l → p ∉ r.selectClosestPeers peers targetLocation →
        ∀ q ∈ r.selectClosestPeers peers targetLocation, ∀ lq, q.location = some lq →
          ¬ Location.distance targetLocation l < Location.distance targetLocation lq := by
  rw [selectClosestPeers_heap]
  set xs := peers.filterMap (closestPeerEntry targetLocation) with hxs
  set heap := xs.foldl (BinaryHeap.pushBounded r.considerNClosestPeers) BinaryHeap.empty
  have hk : BinaryHeap.TopK r.considerNClosestPeers xs heap := BinaryHeap.topK_foldl _ xs
  -- every pair kept is a peer's with a location, at its distance
  have hentry : ∀ e ∈ heap.intoSortedVec, ∃ p ∈ peers, ∃ l, p.location = some l ∧
      e = HeapEntry.mk (Location.distance targetLocation l) p := fun e he =>
    mem_closestPeerEntries.mp (hk.subperm.subset (BinaryHeap.mem_intoSortedVec.mp he))
  refine ⟨?_, ?_, ?_, ?_⟩
  · rw [List.length_map, BinaryHeap.length_intoSortedVec, hk.length, hxs,
      length_closestPeerEntries]
  · rw [List.map_map, List.pairwise_map]
    refine (BinaryHeap.pairwise_intoSortedVec heap).imp_of_mem fun {a b} ha hb hab => ?_
    obtain ⟨p, -, l, hl, rfl⟩ := hentry a ha
    obtain ⟨q, -, lq, hlq, rfl⟩ := hentry b hb
    simp only [Function.comp_apply, HeapEntry.peer_mk, hl, hlq, Option.map_some, Option.getD_some]
    rcases Prod.Lex.le_iff.mp hab with h | h
    · exact le_of_lt h
    · exact le_of_eq h.1
  · intro q hq
    obtain ⟨e, he, rfl⟩ := List.mem_map.mp hq
    obtain ⟨p, hp, l, hl, rfl⟩ := hentry e he
    exact ⟨hp, by simp [hl]⟩
  · intro p hp l hl hout q hq lq hlq hlt
    obtain ⟨a, ha, rfl⟩ := List.mem_map.mp hq
    obtain ⟨q, -, lq', hlq', rfl⟩ := hentry a ha
    rw [HeapEntry.peer_mk, hlq'] at hlq
    cases hlq
    -- the pair of `p` is below a pair kept, so it is kept too
    have hb : HeapEntry.mk (Location.distance targetLocation l) p ∈ xs :=
      mem_closestPeerEntries.mpr ⟨p, hp, l, hl, rfl⟩
    have hkept := hk.mem_of_lt_of_mem (BinaryHeap.mem_intoSortedVec.mp ha) hb
      (Prod.Lex.lt_iff.mpr (Or.inl hlt))
    exact hout (List.mem_map.mpr ⟨_, BinaryHeap.mem_intoSortedVec.mpr hkept, rfl⟩)

/-! ### Predictions -/

/-- `Mean::compute`. -/
def Mean.compute (m : Mean) : ℚ := m.sum / m.count

/-- `TransferSpeed`. -/
structure TransferSpeed where
  bytesPerSecond : ℚ

/-- `RoutingPrediction`. -/
structure RoutingPrediction where
  failureProbability : ℚ
  xferSpeed : TransferSpeed
  timeToResponseStart : ℚ
  expectedTotalTime : ℚ

/-- `RoutingError`. -/
inductive RoutingError
  | insufficientDataError
  | estimationError (estimation : String) (source : EstimationError)

/-- `Router::has_sufficient_historical_data`. -/
def Router.hasSufficientHistoricalData (r : Router) : Bool :=
  200 ≤ r.responseStartTimeEstimator.globalRegression.len

section Prediction

variable (interpolate : IsotonicRegression → ℚ → Option ℚ)

/-- `Router::predict_routing_outcome`; `none` is a panic of an estimator. -/
def Router.predictRoutingOutcome (r : Router) (peer : PeerKeyLocation) (targetLocation : Location) :
    Option (Except RoutingError RoutingPrediction) :=
  if !r.hasSufficientHistoricalData then some (.error .insufficientDataError)
  else do
    match ← r.responseStartTimeEstimator.estimateRetrievalTime interpolate peer targetLocation with
    | .error source => pure (.error (.estimationError "start time" source))
    | .ok timeToResponseStartEstimate =>
      match ← r.failureEstimator.estimateRetrievalTime interpolate peer targetLocation with
      | .error source => pure (.error (.estimationError "failure" source))
      | .ok failureEstimate =>
        match ← r.transferRateEstimator.estimateRetrievalTime interpolate peer targetLocation with
        | .error source => pure (.error (.estimationError "transfer rate" source))
        | .ok transferRateEstimate =>
          -- the cost of a failure is taken to be a multiple of that of a success
          let failureCostMultiplier : ℚ := 3
          let expectedTotalTime := timeToResponseStartEstimate +
            r.meanTransferSize.compute / transferRateEstimate +
            timeToResponseStartEstimate * failureEstimate * failureCostMultiplier
          pure (.ok ⟨failureEstimate, ⟨transferRateEstimate⟩, timeToResponseStartEstimate,
            expectedTotalTime⟩)

/-- `Iterator::min_by` under a strict order: the first of the least. -/
def firstMinBy {α : Type*} (lt : α → α → Bool) : List α → Option α
  | [] => none
  | a :: rest => some (rest.foldl (fun m b => if lt b m then b else m) a)

/-- `Router::select_peer`; `none` is a panic, of an estimator or of the
`expect` on a prediction. -/
def Router.selectPeer (r : Router) (peers : List PeerKeyLocation) (targetLocation : Location) :
    Option (Option PeerKeyLocation) :=
  if !r.hasSufficientHistoricalData then
    -- the peer nearest the target, of those with a location
    some ((firstMinBy (fun a b => decide (a.2 < b.2)) (peers.filterMap fun peer =>
      peer.location.map fun loc => (peer, Location.distance targetLocation loc))).map (·.1))
  else do
    let timed ← (r.selectClosestPeers peers targetLocation).mapM fun peer =>
      match r.predictRoutingOutcome interpolate peer targetLocation with
      | some (.ok t) => some (peer, t.timeToResponseStart)
      | _ => none
    pure ((firstMinBy (fun a b => decide (a.2 < b.2)) timed).map (·.1))

variable {interpolate}

/-- With five points or more, an estimator answers for a peer with a
location. -/
theorem estimateRetrievalTime_ok (hi : Interpolates interpolate) {est : IsotonicEstimator}
    (hlen : minPointsForRegression ≤ est.globalRegression.len) {peer : PeerKeyLocation}
    {l : Location} (hloc : peer.location = some l) (contractLocation : Location) :
    ∃ v, est.estimateRetrievalTime interpolate peer contractLocation = some (.ok v) := by
  have hne : est.globalRegression.points ≠ [] := by
    intro h
    simp [IsotonicRegression.len, h, minPointsForRegression] at hlen
  obtain ⟨g, hg⟩ := Option.isSome_iff_exists.mp
    (hi est.globalRegression (Location.distance contractLocation l) hne)
  exact ⟨_, estimateRetrievalTime_eq interpolate hlen hloc hg⟩

/-- With all three estimates, the prediction is made of them. -/
theorem Router.predictRoutingOutcome_eq {r : Router} (hsuff : r.hasSufficientHistoricalData = true)
    {peer : PeerKeyLocation} {targetLocation ts fe tr : ℚ}
    (hs : r.responseStartTimeEstimator.estimateRetrievalTime interpolate peer targetLocation =
      some (.ok ts))
    (hf : r.failureEstimator.estimateRetrievalTime interpolate peer targetLocation = some (.ok fe))
    (ht : r.transferRateEstimator.estimateRetrievalTime interpolate peer targetLocation =
      some (.ok tr)) :
    r.predictRoutingOutcome interpolate peer targetLocation =
      some (.ok ⟨fe, ⟨tr⟩, ts, ts + r.meanTransferSize.compute / tr + ts * fe * 3⟩) := by
  simp [Router.predictRoutingOutcome, hsuff, hs, hf, ht]

/-- The regression pools the points of a single distance into their mean,
as pool-adjacent-violators does. -/
def PoolsAtOneDistance (interpolate : IsotonicRegression → ℚ → Option ℚ) : Prop :=
  ∀ reg x, reg.points ≠ [] → (∀ p ∈ reg.points, p.x = x) →
    interpolate reg x = some ((reg.points.map (·.y)).sum / reg.points.length)

/-- Events of one peer at distance zero with outcome zero, added into a
regression of points at distance zero once it holds twenty: their points
join, and each takes the regression's new mean off the peer's adjustment. -/
theorem addEvents_pooled (hpool : PoolsAtOneDistance interpolate) {e : IsotonicEvent}
    (hd : e.routeDistance = some 0) (hzero : e.result = 0) (k : Nat) :
    ∀ est : IsotonicEstimator, (∀ p ∈ est.globalRegression.points, p.x = 0) →
      regressionSizeForAdjustments ≤ est.globalRegression.len + 1 →
      ∃ est', est.addEvents interpolate (List.replicate k e) = some est' ∧
        est'.globalRegression.points = est.globalRegression.points ++ List.replicate k ⟨0, 0⟩ ∧
        (est'.peerAdjustments e.peer).getD .new =
          ⟨((est.peerAdjustments e.peer).getD .new).sum -
            ((List.range k).map fun i : Nat => (est.globalRegression.points.map (·.y)).sum /
              (est.globalRegression.len + i + 1)).sum,
          ((est.peerAdjustments e.peer).getD .new).count + k⟩ := by
  induction k with
  | zero =>
      intro est _ _
      exact ⟨est, rfl, by simp, by simp⟩
  | succ k ih =>
      intro est hx hlen
      have hx₁ : ∀ p ∈ est.globalRegression.points ++ [⟨0, e.result⟩], p.x = 0 := fun p hp => by
        rcases List.mem_append.mp hp with hp | hp
        · exact hx p hp
        · simp only [List.mem_singleton] at hp
          rw [hp]
      -- the first event: its point joins, and the new mean comes off its peer's adjustment
      have hg : interpolate (est.globalRegression.addPoints [⟨0, e.result⟩]) 0 =
          some ((est.globalRegression.points.map (·.y)).sum / (est.globalRegression.len + 1)) := by
        rw [hpool _ 0 (by simp [IsotonicRegression.addPoints]) hx₁]
        simp [IsotonicRegression.addPoints, IsotonicRegression.len, hzero]
      have hstep := IsotonicEstimator.addEvent_eq hd hlen hg
      obtain ⟨est', hrun, hpts', hadj'⟩ := ih ⟨est.globalRegression.addPoints [⟨0, e.result⟩],
          Function.update est.peerAdjustments e.peer (some (((est.peerAdjustments e.peer).getD .new).add
            (e.result - (est.globalRegression.points.map (·.y)).sum / (est.globalRegression.len + 1))))⟩
        hx₁ (by simp only [IsotonicRegression.addPoints, IsotonicRegression.len, List.length_append,
          List.length_singleton] at hlen ⊢; omega)
      refine ⟨est', ?_, ?_, ?_⟩
      · rw [List.replicate_succ, IsotonicEstimator.addEvents, List.foldlM_cons, hstep]
        exact hrun
      · rw [hpts']
        simp [IsotonicRegression.addPoints, hzero, List.replicate_succ]
      · rw [hadj']
        dsimp only
        rw [Function.update_self]
        simp only [Option.getD_some, Adjustment.add, IsotonicRegression.addPoints,
          IsotonicRegression.len, hzero, List.map_append, List.map_cons, List.map_nil,
          List.sum_append, List.sum_cons, List.sum_nil, add_zero, List.length_append,
          List.length_cons, List.length_nil, List.range_succ_eq_map, List.map_map,
          Adjustment.mk.injEq, Function.comp_def]
        refine ⟨?_, by omega⟩
        -- the later means are taken over one point more
        push_cast
        ring_nf

/-- What the response-start estimator learns from two hundred successes of
one peer at distance zero, one second each to the response's start, then
five of another peer at distance zero with no time at all: the two hundred
and five points, and for the second peer an adjustment from five events,
each measured against the mean of the points so far. -/
theorem responseStartTimeEstimator_pooled (hpool : PoolsAtOneDistance interpolate) {r₀ r : Router}
    (hr₀ : Router.new interpolate (List.replicate 200 ⟨⟨0, some 0⟩, 0, .success 1 1 1⟩) = some r₀)
    (hr : r₀.addEvents interpolate (List.replicate 5 ⟨⟨1, some 0⟩, 0, .success 0 1 1⟩) = some r) :
    r.responseStartTimeEstimator.globalRegression.points =
        List.replicate 200 ⟨0, 1⟩ ++ List.replicate 5 ⟨0, 0⟩ ∧
      r.responseStartTimeEstimator.peerAdjustments ⟨1, some 0⟩ =
        some ⟨-(200 / 201 + 200 / 202 + 200 / 203 + 200 / 204 + 200 / 205), 5⟩ := by
  have hdist : Location.distance 0 0 = 0 := by norm_num [Location.distance]
  -- the history: two hundred points at distance zero, none of the second peer
  have hresp₀ := Router.new_responseStartTimeEstimator hr₀
  rw [List.filterMap_replicate_of_some (f := RouteEvent.successDuration) rfl] at hresp₀
  have hpts₀ : r₀.responseStartTimeEstimator.globalRegression.points = List.replicate 200 ⟨0, 1⟩ :=
    IsotonicEstimator.new_points_replicate (by simp [IsotonicEvent.routeDistance, hdist]) hresp₀
  have hb₀ : r₀.responseStartTimeEstimator.peerAdjustments ⟨1, some 0⟩ = none := by
    refine IsotonicEstimator.new_peerAdjustments_of_not_mem hresp₀ fun h => ?_
    obtain ⟨e, he, hpe⟩ := List.mem_map.mp h
    rw [List.eq_of_mem_replicate he] at hpe
    simp at hpe
  -- the second peer's five events pool with the history
  have hresp := Router.addEvents_responseStartTimeEstimator hr
  rw [List.filterMap_replicate_of_some (f := RouteEvent.successDuration) rfl] at hresp
  obtain ⟨est', hrun, hpts', hadj'⟩ := addEvents_pooled hpool (e := ⟨⟨1, some 0⟩, 0, 0⟩)
    (by simp [IsotonicEvent.routeDistance, hdist]) rfl 5 r₀.responseStartTimeEstimator
    (fun p hp => by rw [hpts₀] at hp; rw [List.eq_of_mem_replicate hp])
    (by rw [IsotonicRegression.len, hpts₀, List.length_replicate]; decide)
  rw [hrun, Option.some_inj] at hresp
  subst hresp
  refine ⟨by rw [hpts', hpts₀], ?_⟩
  have hlen₀ : r₀.responseStartTimeEstimator.globalRegression.len = 200 := by
    rw [IsotonicRegression.len, hpts₀, List.length_replicate]
  have hsum₀ : (r₀.responseStartTimeEstimator.globalRegression.points.map (·.y)).sum = 200 := by
    rw [hpts₀, List.map_replicate, List.sum_replicate]
    norm_num
  rw [hb₀, hlen₀, hsum₀] at hadj'
  cases hb : r.responseStartTimeEstimator.peerAdjustments ⟨1, some 0⟩ with
  | none =>
      rw [hb] at hadj'
      simp [Adjustment.new] at hadj'
  | some a =>
      rw [hb, Option.getD_some] at hadj'
      rw [hadj']
      norm_num [Adjustment.new, List.range_succ]

/-- Two hundred successes of one peer, at distance zero from their contracts
and one second each to the response's start, then five successes of another
peer at distance zero with no time at all: the router has enough data, and
predicts for the second peer a negative time to the response's start. Its
adjustment lies further below the final mean than the mean lies above zero. -/
theorem predicted_response_time_negative (hi : Interpolates interpolate)
    (hpool : PoolsAtOneDistance interpolate) :
    ∃ r pred, (Router.new interpolate (List.replicate 200 ⟨⟨0, some 0⟩, 0, .success 1 1 1⟩)).bind
        (·.addEvents interpolate (List.replicate 5 ⟨⟨1, some 0⟩, 0, .success 0 1 1⟩)) = some r ∧
      r.hasSufficientHistoricalData = true ∧
      r.predictRoutingOutcome interpolate ⟨1, some 0⟩ 0 = some (.ok pred) ∧
      pred.timeToResponseStart < 0 := by
  obtain ⟨r₀, hr₀⟩ := Option.isSome_iff_exists.mp
    (Router.new_isSome hi (show ∀ e ∈ List.replicate 200 (⟨⟨0, some 0⟩, 0, .success 1 1 1⟩ : RouteEvent),
      e.peer.location.isSome from fun _ he => by rw [List.eq_of_mem_replicate he]; rfl))
  obtain ⟨r, hr⟩ := Option.isSome_iff_exists.mp
    (Router.addEvents_isSome hi r₀ (show ∀ e ∈ List.replicate 5 (⟨⟨1, some 0⟩, 0, .success 0 1 1⟩ : RouteEvent),
      e.peer.location.isSome from fun _ he => by rw [List.eq_of_mem_replicate he]; rfl))
  obtain ⟨hpts, hadj⟩ := responseStartTimeEstimator_pooled hpool hr₀ hr
  -- the regression pools the two hundred and five points to their mean
  have hlen : r.responseStartTimeEstimator.globalRegression.len = 205 := by
    rw [IsotonicRegression.len, hpts, List.length_append, List.length_replicate, List.length_replicate]
  have hg : interpolate r.responseStartTimeEstimator.globalRegression (Location.distance 0 0) =
      some (200 / 205) := by
    have hne : r.responseStartTimeEstimator.globalRegression.points ≠ [] := by
      intro h
      have h0 := congrArg List.length h
      rw [hpts, List.length_append, List.length_replicate, List.length_replicate] at h0
      exact absurd h0 (by decide)
    have hx : ∀ p ∈ r.responseStartTimeEstimator.globalRegression.points, p.x = 0 := by
      intro p hp
      rw [hpts] at hp
      rcases List.mem_append.mp hp with h | h <;> rw [List.eq_of_mem_replicate h]
    have hdist : Location.distance 0 0 = 0 := by norm_num [Location.distance]
    rw [hdist, hpool _ 0 hne hx, hpts, List.map_append, List.map_replicate,
      List.map_replicate, List.sum_append, List.sum_replicate, List.sum_replicate,
      List.length_append, List.length_replicate, List.length_replicate]
    norm_num
  have hs : r.responseStartTimeEstimator.estimateRetrievalTime interpolate ⟨1, some 0⟩ 0 = _ :=
    estimateRetrievalTime_eq interpolate (by rw [hlen]; decide) rfl hg
  simp only [IsotonicEstimator.usesAdjustment, hadj, Option.any_some, Option.map_some,
    Option.getD_some] at hs
  -- the other two estimators hold the history's two hundred points at least
  have hf₀ := IsotonicEstimator.new_len (Router.new_failureEstimator hr₀)
  have ht₀ := Router.new_transferRateEstimator hr₀
  rw [List.filterMap_replicate_of_some (f := RouteEvent.transferRate) rfl] at ht₀
  have ht₀ := IsotonicEstimator.new_len ht₀
  obtain ⟨hfl, htl⟩ := Router.addEvents_len_le hr
  rw [hf₀, List.length_map, List.length_replicate] at hfl
  rw [ht₀, List.length_replicate] at htl
  have hloc : (⟨1, some 0⟩ : PeerKeyLocation).location = some 0 := rfl
  obtain ⟨fe, hf⟩ := estimateRetrievalTime_ok hi (le_trans (by decide) hfl) hloc 0
  obtain ⟨tr, ht⟩ := estimateRetrievalTime_ok hi (le_trans (by decide) htl) hloc 0
  have hsuff : r.hasSufficientHistoricalData = true := by
    rw [Router.hasSufficientHistoricalData, hlen]
    decide
  refine ⟨r, _, by rw [hr₀]; exact hr, hsuff, Router.predictRoutingOutcome_eq hsuff hs hf ht, ?_⟩
  norm_num [Adjustment.value, minPointsForRegression]

/-- A regression answering the mean of its results at every distance: what
`pav_regression` answers when all its points lie at one distance. -/
def meanInterpolate (reg : IsotonicRegression) (_ : ℚ) : Option ℚ :=
  if reg.points.isEmpty then none else some ((reg.points.map (·.y)).sum / reg.points.length)

theorem meanInterpolate_interpolates : Interpolates meanInterpolate := fun reg _ hne => by
  simp [meanInterpolate, List.isEmpty_iff, hne]

theorem meanInterpolate_pools : PoolsAtOneDistance meanInterpolate := fun reg _ hne _ => by
  simp [meanInterpolate, List.isEmpty_iff, hne]

theorem predicted_response_time_negative_mean :
    Interpolates meanInterpolate ∧ PoolsAtOneDistance meanInterpolate ∧
      ∃ r pred, (Router.new meanInterpolate
          (List.replicate 200 ⟨⟨0, some 0⟩, 0, .success 1 1 1⟩)).bind
          (·.addEvents meanInterpolate (List.replicate 5 ⟨⟨1, some 0⟩, 0, .success 0 1 1⟩)) = some r ∧
        r.hasSufficientHistoricalData = true ∧
        r.predictRoutingOutcome meanInterpolate ⟨1, some 0⟩ 0 = some (.ok pred) ∧
        pred.timeToResponseStart < 0 :=
  ⟨meanInterpolate_interpolates, meanInterpolate_pools,
    predicted_response_time_negative meanInterpolate_interpolates meanInterpolate_pools⟩

end Prediction

end FreenetCore.Routing
