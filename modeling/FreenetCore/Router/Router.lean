import FreenetCore.Router.IsotonicEstimator

/-!
The router (`router.rs`): three estimators trained on the node's route
events, one for the time to the response's start, one for the transfer
rate and one for the probability of failure, and the mean transfer size.

`Router::new` builds the router from a history at once; `add_event` trains
it on one more event. The ring rebuilds its router from the event log's
history every five minutes (`refresh_router`), so the router a node uses
is at times one trained event by event and at times one built at once from
the same events.

Durations are their seconds, as rationals; so is a transfer rate, and a
transfer time of zero gives a rate of zero where the `f64` division gives
an infinity.
-/

namespace FreenetCore.Routing

open FreenetCore.Operations

/-- `Mean`. -/
structure Mean where
  sum : ℚ
  count : Nat

/-- `Mean::new`. -/
def Mean.new : Mean := ⟨0, 0⟩

/-- `Mean::add`. -/
def Mean.add (m : Mean) (value : ℚ) : Mean := ⟨m.sum + value, m.count + 1⟩

/-- `Mean::add_with_count`. -/
def Mean.addWithCount (m : Mean) (sum : ℚ) (count : Nat) : Mean := ⟨m.sum + sum, m.count + count⟩

/-- `RouteOutcome`. -/
inductive RouteOutcome
  | success (timeToResponseStart : ℚ) (payloadSize : Nat) (payloadTransferTime : ℚ)
  | failure

/-- `RouteEvent`: a request routed to a peer for a contract, and how it
went. -/
structure RouteEvent where
  peer : PeerKeyLocation
  contractLocation : Location
  outcome : RouteOutcome

/-- The event the failure estimator is trained on: `0.0` for a success,
`1.0` for a failure. -/
def RouteEvent.failureOutcome (re : RouteEvent) : IsotonicEvent :=
  ⟨re.peer, re.contractLocation, match re.outcome with
    | .success .. => 0
    | .failure => 1⟩

/-- The event the response-start estimator is trained on, for a success. -/
def RouteEvent.successDuration (re : RouteEvent) : Option IsotonicEvent :=
  match re.outcome with
  | .success timeToResponseStart _ _ => some ⟨re.peer, re.contractLocation, timeToResponseStart⟩
  | .failure => none

/-- The event the transfer-rate estimator is trained on, for a success. -/
def RouteEvent.transferRate (re : RouteEvent) : Option IsotonicEvent :=
  match re.outcome with
  | .success _ payloadSize payloadTransferTime =>
      some ⟨re.peer, re.contractLocation, payloadSize / payloadTransferTime⟩
  | .failure => none

/-- `Router`. -/
structure Router where
  responseStartTimeEstimator : IsotonicEstimator
  transferRateEstimator : IsotonicEstimator
  failureEstimator : IsotonicEstimator
  meanTransferSize : Mean
  considerNClosestPeers : Nat

section Router

variable (interpolate : IsotonicRegression → ℚ → Option ℚ)

/-- `Router::new`; `none` is a panic of one of the estimators. -/
def Router.new (history : List RouteEvent) : Option Router := do
  let failureOutcomes := history.map RouteEvent.failureOutcome
  let successDurations := history.filterMap RouteEvent.successDuration
  let transferRates := history.filterMap RouteEvent.transferRate
  -- some initial data so this produces sensible results with little history
  let meanTransferSize := history.foldl
    (fun m event => match event.outcome with
      | .success _ payloadSize _ => m.add payloadSize
      | .failure => m)
    (Mean.new.addWithCount 1000 10)
  let responseStartTimeEstimator ← IsotonicEstimator.new interpolate successDurations .positive
  let failureEstimator ← IsotonicEstimator.new interpolate failureOutcomes .positive
  let transferRateEstimator ← IsotonicEstimator.new interpolate transferRates .negative
  pure ⟨responseStartTimeEstimator, transferRateEstimator, failureEstimator, meanTransferSize, 20⟩

/-- `Router::add_event`; `none` is a panic of one of the estimators. -/
def Router.addEvent (r : Router) (event : RouteEvent) : Option Router :=
  match event.outcome with
  | .success timeToResponseStart payloadSize payloadTransferTime => do
      let responseStartTimeEstimator ← r.responseStartTimeEstimator.addEvent interpolate
        ⟨event.peer, event.contractLocation, timeToResponseStart⟩
      let failureEstimator ← r.failureEstimator.addEvent interpolate
        ⟨event.peer, event.contractLocation, 0⟩
      let transferRateEvent : IsotonicEvent :=
        ⟨event.peer, event.contractLocation, payloadSize / payloadTransferTime⟩
      let meanTransferSize := r.meanTransferSize.add payloadSize
      let transferRateEstimator ← r.transferRateEstimator.addEvent interpolate transferRateEvent
      pure { r with
        responseStartTimeEstimator := responseStartTimeEstimator
        failureEstimator := failureEstimator
        meanTransferSize := meanTransferSize
        transferRateEstimator := transferRateEstimator }
  | .failure => do
      let failureEstimator ← r.failureEstimator.addEvent interpolate
        ⟨event.peer, event.contractLocation, 1⟩
      pure { r with failureEstimator := failureEstimator }

/-- `add_event` for each event in turn. -/
def Router.addEvents (r : Router) (events : List RouteEvent) : Option Router :=
  events.foldlM (Router.addEvent interpolate) r

variable {interpolate}

/-- What `add_event` does: a success trains all three estimators and is
counted in the mean transfer size, a failure trains the failure estimator
only. -/
theorem Router.addEvent_cases {r r' : Router} {event : RouteEvent}
    (h : r.addEvent interpolate event = some r') :
    (∃ t size transferTime, event.outcome = .success t size transferTime ∧
      r.responseStartTimeEstimator.addEvent interpolate ⟨event.peer, event.contractLocation, t⟩ =
        some r'.responseStartTimeEstimator ∧
      r.failureEstimator.addEvent interpolate ⟨event.peer, event.contractLocation, 0⟩ =
        some r'.failureEstimator ∧
      r.transferRateEstimator.addEvent interpolate
        ⟨event.peer, event.contractLocation, size / transferTime⟩ = some r'.transferRateEstimator ∧
      r'.meanTransferSize = r.meanTransferSize.add size ∧
      r'.considerNClosestPeers = r.considerNClosestPeers) ∨
    (event.outcome = .failure ∧
      r.failureEstimator.addEvent interpolate ⟨event.peer, event.contractLocation, 1⟩ =
        some r'.failureEstimator ∧
      r'.responseStartTimeEstimator = r.responseStartTimeEstimator ∧
      r'.transferRateEstimator = r.transferRateEstimator ∧
      r'.meanTransferSize = r.meanTransferSize ∧
      r'.considerNClosestPeers = r.considerNClosestPeers) := by
  unfold Router.addEvent at h
  split at h
  · rename_i t size transferTime hout
    simp only [Option.bind_eq_bind, Option.bind_eq_some_iff, Option.pure_def,
      Option.some.injEq] at h
    obtain ⟨rs, hrs, fe, hfe, tr, htr, rfl⟩ := h
    exact Or.inl ⟨t, size, transferTime, hout, hrs, hfe, htr, rfl, rfl⟩
  · rename_i hout
    obtain ⟨fe, hfe, hr⟩ := Option.bind_eq_some_iff.mp h
    cases hr
    exact Or.inr ⟨hout, hfe, rfl, rfl, rfl, rfl⟩

/-- The response-start estimator is trained on the successes, with their
time to the response's start. -/
theorem Router.addEvents_responseStartTimeEstimator {r r' : Router} {events : List RouteEvent}
    (h : r.addEvents interpolate events = some r') :
    r.responseStartTimeEstimator.addEvents interpolate (events.filterMap RouteEvent.successDuration) =
      some r'.responseStartTimeEstimator := by
  induction events generalizing r with
  | nil => cases h; rfl
  | cons e es ih =>
      obtain ⟨r₁, h₁, hrest⟩ := Option.bind_eq_some_iff.mp h
      rcases Router.addEvent_cases h₁ with ⟨t, size, transferTime, hout, hrs, -⟩ | ⟨hout, -, hrs, -⟩
      · simp only [List.filterMap_cons, RouteEvent.successDuration, hout,
          IsotonicEstimator.addEvents, List.foldlM_cons, hrs, Option.bind_eq_bind, Option.bind_some]
        exact ih hrest
      · simp only [List.filterMap_cons, RouteEvent.successDuration, hout]
        rw [← hrs]
        exact ih hrest

/-- Training never shrinks the failure and transfer-rate regressions. -/
theorem Router.addEvents_len_le {r r' : Router} {events : List RouteEvent}
    (h : r.addEvents interpolate events = some r') :
    r.failureEstimator.globalRegression.len ≤ r'.failureEstimator.globalRegression.len ∧
      r.transferRateEstimator.globalRegression.len ≤ r'.transferRateEstimator.globalRegression.len := by
  induction events generalizing r with
  | nil => cases h; exact ⟨le_rfl, le_rfl⟩
  | cons e es ih =>
      obtain ⟨r₁, h₁, hrest⟩ := Option.bind_eq_some_iff.mp h
      obtain ⟨hf, ht⟩ := ih hrest
      rcases Router.addEvent_cases h₁ with ⟨t, size, transferTime, -, -, hfe, htr, -⟩ |
        ⟨-, hfe, -, htr, -⟩
      · have h₁f := IsotonicEstimator.addEvent_len hfe
        have h₁t := IsotonicEstimator.addEvent_len htr
        omega
      · have h₁f := IsotonicEstimator.addEvent_len hfe
        rw [htr] at ht
        omega

/-- The failure estimator is trained on every event, with its failure
outcome. -/
theorem Router.addEvent_failureEstimator {r r' : Router} {event : RouteEvent}
    (h : r.addEvent interpolate event = some r') :
    r.failureEstimator.addEvent interpolate event.failureOutcome = some r'.failureEstimator := by
  rcases Router.addEvent_cases h with ⟨t, size, transferTime, hout, -, hfe, -⟩ | ⟨hout, hfe, -⟩
  · simpa [RouteEvent.failureOutcome, hout] using hfe
  · simpa [RouteEvent.failureOutcome, hout] using hfe

theorem Router.addEvents_failureEstimator {r r' : Router} {events : List RouteEvent}
    (h : r.addEvents interpolate events = some r') :
    r.failureEstimator.addEvents interpolate (events.map RouteEvent.failureOutcome) =
      some r'.failureEstimator := by
  induction events generalizing r with
  | nil => cases h; rfl
  | cons e es ih =>
      obtain ⟨r₁, h₁, hrest⟩ := Option.bind_eq_some_iff.mp h
      simp only [IsotonicEstimator.addEvents, List.map_cons, List.foldlM_cons,
        Router.addEvent_failureEstimator h₁, Option.bind_eq_bind, Option.bind_some]
      exact ih hrest

/-- What `new` builds: each estimator from the events it is trained on. -/
theorem Router.new_estimators {history : List RouteEvent} {r : Router}
    (h : Router.new interpolate history = some r) :
    IsotonicEstimator.new interpolate (history.filterMap RouteEvent.successDuration) .positive =
        some r.responseStartTimeEstimator ∧
      IsotonicEstimator.new interpolate (history.map RouteEvent.failureOutcome) .positive =
        some r.failureEstimator ∧
      IsotonicEstimator.new interpolate (history.filterMap RouteEvent.transferRate) .negative =
        some r.transferRateEstimator := by
  simp only [Router.new, Option.bind_eq_bind, Option.bind_eq_some_iff] at h
  obtain ⟨rs, hrs, fe, hfe, tr, htr, hr⟩ := h
  cases hr
  exact ⟨hrs, hfe, htr⟩

theorem Router.new_failureEstimator {history : List RouteEvent} {r : Router}
    (h : Router.new interpolate history = some r) :
    IsotonicEstimator.new interpolate (history.map RouteEvent.failureOutcome) .positive =
      some r.failureEstimator :=
  (Router.new_estimators h).2.1

theorem Router.new_responseStartTimeEstimator {history : List RouteEvent} {r : Router}
    (h : Router.new interpolate history = some r) :
    IsotonicEstimator.new interpolate (history.filterMap RouteEvent.successDuration) .positive =
      some r.responseStartTimeEstimator :=
  (Router.new_estimators h).1

theorem Router.new_transferRateEstimator {history : List RouteEvent} {r : Router}
    (h : Router.new interpolate history = some r) :
    IsotonicEstimator.new interpolate (history.filterMap RouteEvent.transferRate) .negative =
      some r.transferRateEstimator :=
  (Router.new_estimators h).2.2

/-- `Router::new` does not panic on a history of peers with locations. -/
theorem Router.new_isSome (hi : Interpolates interpolate) {history : List RouteEvent}
    (hloc : ∀ e ∈ history, e.peer.location.isSome) :
    (Router.new interpolate history).isSome := by
  have hsub : ∀ (f : RouteEvent → Option IsotonicEvent), (∀ re e, f re = some e → e.peer = re.peer) →
      ∀ e ∈ history.filterMap f, e.peer.location.isSome := by
    intro f hf e he
    obtain ⟨re, hre, hfe⟩ := List.mem_filterMap.mp he
    rw [hf re e hfe]
    exact hloc re hre
  have hsd := hsub RouteEvent.successDuration (fun re e h => by
    unfold RouteEvent.successDuration at h
    split at h <;> cases h
    rfl)
  have htr := hsub RouteEvent.transferRate (fun re e h => by
    unfold RouteEvent.transferRate at h
    split at h <;> cases h
    rfl)
  have hfo : ∀ e ∈ history.map RouteEvent.failureOutcome, e.peer.location.isSome := by
    intro e he
    obtain ⟨re, hre, rfl⟩ := List.mem_map.mp he
    exact hloc re hre
  obtain ⟨rs, hrs⟩ := Option.isSome_iff_exists.mp (IsotonicEstimator.new_isSome hi hsd .positive)
  obtain ⟨fe, hfe⟩ := Option.isSome_iff_exists.mp (IsotonicEstimator.new_isSome hi hfo .positive)
  obtain ⟨tr, htr⟩ := Option.isSome_iff_exists.mp (IsotonicEstimator.new_isSome hi htr .negative)
  simp [Router.new, hrs, hfe, htr]

/-- `add_event` does not panic on events of peers with locations. -/
theorem Router.addEvents_isSome (hi : Interpolates interpolate) (r : Router) {events : List RouteEvent}
    (hloc : ∀ e ∈ events, e.peer.location.isSome) : (r.addEvents interpolate events).isSome := by
  induction events generalizing r with
  | nil => rfl
  | cons e es ih =>
      obtain ⟨l, hl⟩ := Option.isSome_iff_exists.mp (hloc e List.mem_cons_self)
      have hev : ∀ v : ℚ, (⟨e.peer, e.contractLocation, v⟩ : IsotonicEvent).peer.location.isSome :=
        fun _ => by simp [hl]
      have hstep : (r.addEvent interpolate e).isSome := by
        unfold Router.addEvent
        split
        next time size transferTime _ =>
          obtain ⟨rs, hrs⟩ := Option.isSome_iff_exists.mp
            (IsotonicEstimator.addEvent_isSome hi r.responseStartTimeEstimator (hev time))
          obtain ⟨fe, hfe⟩ := Option.isSome_iff_exists.mp
            (IsotonicEstimator.addEvent_isSome hi r.failureEstimator (hev 0))
          obtain ⟨tr, htr⟩ := Option.isSome_iff_exists.mp
            (IsotonicEstimator.addEvent_isSome hi r.transferRateEstimator (hev (size / transferTime)))
          simp [hrs, hfe, htr]
        next =>
          obtain ⟨fe, hfe⟩ := Option.isSome_iff_exists.mp
            (IsotonicEstimator.addEvent_isSome hi r.failureEstimator (hev 1))
          simp [hfe]
      obtain ⟨r₁, h₁⟩ := Option.isSome_iff_exists.mp hstep
      simp only [Router.addEvents, List.foldlM_cons, h₁, Option.bind_eq_bind, Option.bind_some]
      exact ih r₁ fun x hx => hloc x (List.mem_cons_of_mem e hx)

/-- A peer's failure outcomes are its route events. -/
theorem eventsOf_failureOutcome (p : PeerKeyLocation) (events : List RouteEvent) :
    eventsOf p (events.map RouteEvent.failureOutcome) = (events.filter (·.peer == p)).length := by
  simp [eventsOf, List.filter_map, Function.comp_def, RouteEvent.failureOutcome]

/-- Training event by event and building at once disagree on the peers'
adjustments. Take any history `h` and further events `s`, twenty in all,
and a peer `p` that has events in `s` and none in `h`, all peers with
locations. Built at once from `h ++ s`, the failure estimator counts `p`'s
adjustment from `ADJUSTMENT_PRIOR_SIZE`; trained on `s` from the router of
`h`, it counts from zero, and only the events that come once the regression
holds twenty points. With fewer than five events of `p`, the router built at
once adds `p`'s adjustment to its estimates and the one trained event by
event does not. -/
theorem incremental_training_diverges (hi : Interpolates interpolate) (h s : List RouteEvent)
    (p : PeerKeyLocation) (hloc : ∀ e ∈ h ++ s, e.peer.location.isSome)
    (hsize : regressionSizeForAdjustments ≤ (h ++ s).length) (hph : p ∉ h.map (·.peer))
    (hps : p ∈ s.map (·.peer)) :
    ∃ rb ri, Router.new interpolate (h ++ s) = some rb ∧
      (Router.new interpolate h).bind (·.addEvents interpolate s) = some ri ∧
      (rb.failureEstimator.peerAdjustments p).map (·.count) =
        some (adjustmentPriorSize + (s.filter (·.peer == p)).length) ∧
      ((ri.failureEstimator.peerAdjustments p).map (·.count)).getD 0 ≤
        (s.filter (·.peer == p)).length ∧
      ((s.filter (·.peer == p)).length < minPointsForRegression →
        rb.failureEstimator.usesAdjustment p = true ∧
          ri.failureEstimator.usesAdjustment p = false) := by
  have hlocH : ∀ e ∈ h, e.peer.location.isSome := fun e he => hloc e (List.mem_append_left s he)
  have hlocS : ∀ e ∈ s, e.peer.location.isSome := fun e he => hloc e (List.mem_append_right h he)
  obtain ⟨rb, hrb⟩ := Option.isSome_iff_exists.mp (Router.new_isSome hi hloc)
  obtain ⟨r₀, hr₀⟩ := Option.isSome_iff_exists.mp (Router.new_isSome hi hlocH)
  obtain ⟨ri, hri⟩ := Option.isSome_iff_exists.mp (Router.addEvents_isSome hi r₀ hlocS)
  -- `p` has no event in `h`, so all its events in `h ++ s` are those of `s`
  have hnone : (h.filter (·.peer == p)).length = 0 := by
    rw [List.length_eq_zero_iff, List.filter_eq_nil_iff]
    intro e he hep
    exact hph (List.mem_map.mpr ⟨e, he, by simpa using hep⟩)
  have hbatch : (rb.failureEstimator.peerAdjustments p).map (·.count) =
      some (adjustmentPriorSize + (s.filter (·.peer == p)).length) := by
    rw [IsotonicEstimator.new_count (Router.new_failureEstimator hrb) p, eventsOf_failureOutcome,
      List.filter_append, List.length_append, hnone, Nat.zero_add, if_pos]
    refine ⟨by simpa using hsize, ?_⟩
    obtain ⟨e, he, rfl⟩ := List.mem_map.mp hps
    exact List.mem_map.mpr ⟨e.failureOutcome, List.mem_map.mpr ⟨e, List.mem_append_right h he, rfl⟩, rfl⟩
  have hstart : (r₀.failureEstimator.peerAdjustments p).map (·.count) = none := by
    rw [IsotonicEstimator.new_count (Router.new_failureEstimator hr₀) p, if_neg]
    rintro ⟨-, hp⟩
    obtain ⟨e, he, hep⟩ := List.mem_map.mp hp
    obtain ⟨re, hre, rfl⟩ := List.mem_map.mp he
    exact hph (List.mem_map.mpr ⟨re, hre, hep⟩)
  have hincr : ((ri.failureEstimator.peerAdjustments p).map (·.count)).getD 0 ≤
      (s.filter (·.peer == p)).length := by
    have hle := IsotonicEstimator.addEvents_count_le (Router.addEvents_failureEstimator hri) p
    rwa [hstart, eventsOf_failureOutcome, Option.getD_none, Nat.zero_add] at hle
  refine ⟨rb, ri, hrb, by simp [hr₀, hri], hbatch, hincr, fun hfew => ⟨?_, ?_⟩⟩
  · -- built at once, the count starts at `ADJUSTMENT_PRIOR_SIZE`, past the threshold
    obtain ⟨adj, hadj, hc⟩ := Option.map_eq_some_iff.mp hbatch
    simp only [IsotonicEstimator.usesAdjustment, hadj, hc, adjustmentPriorSize, minPointsForRegression,
      Option.any_some, decide_eq_true_eq]
    omega
  · -- trained event by event, it stays below the threshold
    cases hadj : ri.failureEstimator.peerAdjustments p with
    | none => simp [IsotonicEstimator.usesAdjustment, hadj]
    | some adj =>
        rw [hadj] at hincr
        simp only [Option.map_some, Option.getD_some] at hincr
        simp only [IsotonicEstimator.usesAdjustment, hadj, Option.any_some, decide_eq_false_iff_not,
          Nat.not_le]
        omega

theorem incremental_training_diverges_fresh :
    let interpolate : IsotonicRegression → ℚ → Option ℚ := fun _ _ => some 0
    let q : PeerKeyLocation := ⟨0, some 0⟩
    let p : PeerKeyLocation := ⟨1, some 0⟩
    let s : List RouteEvent := List.replicate 19 ⟨q, 0, .failure⟩ ++ [⟨p, 0, .failure⟩]
    Interpolates interpolate ∧ (∀ e ∈ [] ++ s, e.peer.location.isSome) ∧
      regressionSizeForAdjustments ≤ ([] ++ s).length ∧ p ∉ ([] : List RouteEvent).map (·.peer) ∧
      p ∈ s.map (·.peer) ∧
      ∃ rb ri, Router.new interpolate ([] ++ s) = some rb ∧
        (Router.new interpolate []).bind (·.addEvents interpolate s) = some ri ∧
        (rb.failureEstimator.peerAdjustments p).map (·.count) =
          some (adjustmentPriorSize + (s.filter (·.peer == p)).length) ∧
        ((ri.failureEstimator.peerAdjustments p).map (·.count)).getD 0 ≤
          (s.filter (·.peer == p)).length ∧
        ((s.filter (·.peer == p)).length < minPointsForRegression →
          rb.failureEstimator.usesAdjustment p = true ∧
            ri.failureEstimator.usesAdjustment p = false) :=
  ⟨fun _ _ _ => rfl, by simp, by decide, by simp, by simp,
    incremental_training_diverges (fun _ _ _ => rfl) [] _ _ (by simp) (by decide) (by simp)
      (by simp)⟩

end Router

end FreenetCore.Routing
