import FreenetCore.Topology.Density

/-!
The topology manager's other sliding windows: the outbound requests per
peer (`topology/outbound_request_counter.rs`) and the scores of the
connections offered to the node (`topology/connection_evaluator.rs`).

`OutboundRequestCounter` keeps its last `window_size` requests as a queue,
a count per peer and a total, and evicts from the front in a loop while the
queue is over size. `ConnectionEvaluator` keeps the scores recorded within
its window's duration of the latest call, evicting from the front while the
oldest is too old; a score is better when it beats every score it keeps.

An `Instant` is its nanoseconds since some origin, and a `Duration` its
nanoseconds; `duration_since` saturates at zero as the truncated
subtraction does. Scores are rationals.
-/

namespace FreenetCore.Topology

open FreenetCore.Operations MachineInt

/-! ### Outbound requests per peer -/

/-- `OutboundRequestCounter`; the `HashMap` of counts is a function. -/
structure OutboundRequestCounter where
  windowSize : Nat
  requestWindow : List PeerKeyLocation
  countsByPeer : PeerKeyLocation → Option Nat
  totalCount : Nat

/-- `OutboundRequestCounter::new`. -/
def OutboundRequestCounter.new (windowSize : Nat) : OutboundRequestCounter :=
  ⟨windowSize, [], fun _ => none, 0⟩

/-- The `while` loop of `record_request` over the queue it pops from: the
oldest request leaves while the queue is over size. `none` is an `unwrap`
on a missing count or the overflow panic of a decrement. -/
def OutboundRequestCounter.trim (profile : Profile) (c : OutboundRequestCounter) :
    List PeerKeyLocation → Option OutboundRequestCounter
  | [] => some { c with requestWindow := [] }
  | removedRequest :: rest =>
      if c.windowSize < (removedRequest :: rest).length then do
        let count ← c.countsByPeer removedRequest
        let count ← subUsize profile count 1
        let totalCount ← subUsize profile c.totalCount 1
        let countsByPeer := Function.update c.countsByPeer removedRequest
          (if count = 0 then none else some count)
        OutboundRequestCounter.trim profile { c with countsByPeer, totalCount } rest
      else some { c with requestWindow := removedRequest :: rest }

/-- `OutboundRequestCounter::record_request`. -/
def OutboundRequestCounter.recordRequest (profile : Profile) (c : OutboundRequestCounter)
    (peer : PeerKeyLocation) : Option OutboundRequestCounter :=
  let requestWindow := c.requestWindow ++ [peer]
  let countsByPeer := Function.update c.countsByPeer peer (some ((c.countsByPeer peer).getD 0 + 1))
  let totalCount := c.totalCount + 1
  OutboundRequestCounter.trim profile { c with countsByPeer, totalCount } requestWindow

/-- `OutboundRequestCounter::get_request_count`. -/
def OutboundRequestCounter.getRequestCount (c : OutboundRequestCounter) (peer : PeerKeyLocation) : Nat :=
  (c.countsByPeer peer).getD 0

/-- `record_request` for each peer in turn. -/
def OutboundRequestCounter.recordRequests (profile : Profile) (c : OutboundRequestCounter)
    (peers : List PeerKeyLocation) : Option OutboundRequestCounter :=
  peers.foldlM (OutboundRequestCounter.recordRequest profile) c

/-- The counter holds the last `w` of the requests `h`, counts them per
peer, and its total is their number. -/
structure OutboundRequestCounter.Window (w : Nat) (h : List PeerKeyLocation)
    (c : OutboundRequestCounter) : Prop where
  windowSize : c.windowSize = w
  requestWindow : c.requestWindow = History.window w h
  counts : History.Counts c.countsByPeer c.requestWindow
  totalCount : c.totalCount = c.requestWindow.length

theorem OutboundRequestCounter.window_new (w : Nat) : (OutboundRequestCounter.new w).Window w [] :=
  ⟨rfl, (History.window_nil w).symm, History.counts_nil, rfl⟩

/-- A queue within the size leaves the loop at once. -/
theorem OutboundRequestCounter.trim_of_length_le (profile : Profile) (c : OutboundRequestCounter)
    {l : List PeerKeyLocation} (hl : l.length ≤ c.windowSize) :
    OutboundRequestCounter.trim profile c l = some { c with requestWindow := l } := by
  cases l with
  | nil => rfl
  | cons r rest => simp only [OutboundRequestCounter.trim, Nat.not_lt.mpr hl, if_false]

/-- One request moves the window by one. The loop runs at most once, and
never panics: the oldest request of an over-size queue has a count of at
least one, and the total is the queue's length. -/
theorem OutboundRequestCounter.recordRequest_window {w : Nat} {h : List PeerKeyLocation}
    {c : OutboundRequestCounter} (hc : c.Window w h) (profile : Profile) (p : PeerKeyLocation) :
    ∃ c', c.recordRequest profile p = some c' ∧ c'.Window w (h ++ [p]) := by
  have hcounts : History.Counts
      (Function.update c.countsByPeer p (some ((c.countsByPeer p).getD 0 + 1)))
      (c.requestWindow ++ [p]) :=
    hc.counts.concat fun a => by by_cases ha : a = p <;> simp [ha]
  have hwin := History.window_concat w h p
  have hlen : c.requestWindow.length ≤ w := by
    rw [hc.requestWindow, History.length_window]
    exact min_le_left _ _
  rw [← hc.requestWindow] at hwin
  unfold OutboundRequestCounter.recordRequest
  by_cases hover : w < (c.requestWindow ++ [p]).length
  · -- over size: one pass of the loop takes the oldest request out
    obtain ⟨oldest, rest, hsplit⟩ := List.exists_cons_of_ne_nil
      (List.concat_ne_nil p c.requestWindow)
    have hrest : rest.length = c.requestWindow.length := by
      simpa using congrArg List.length hsplit.symm
    rw [hsplit] at hcounts hwin hover
    have hcount := hcounts.get_of_mem List.mem_cons_self
    rw [List.count_cons_self] at hcount
    have hover' : c.windowSize < (oldest :: rest).length := hc.windowSize ▸ hover
    simp only [hsplit, OutboundRequestCounter.trim, hover', if_true, hcount, Nat.add_sub_cancel,
      subUsize_of_le (Nat.le_add_left 1 _), hc.totalCount, Option.bind_eq_bind, Option.bind_some]
    rw [OutboundRequestCounter.trim_of_length_le _ _ (by rw [hc.windowSize]; omega)]
    refine ⟨_, rfl, ?_⟩
    refine ⟨hc.windowSize, by rw [hwin, if_pos hover, List.tail_cons], hcounts.pop fun a => ?_,
      by simp only [hrest]⟩
    by_cases ha : a = oldest
    · subst ha
      by_cases hz : rest.count a = 0 <;> simp [hz]
    · simp [ha]
  · rw [OutboundRequestCounter.trim_of_length_le _ _ (by rw [hc.windowSize]; omega)]
    refine ⟨_, rfl, ?_⟩
    exact ⟨hc.windowSize, by rw [hwin, if_neg hover], hcounts, by simp [hc.totalCount]⟩

/-- From a new counter, every sequence of requests is recorded without a
panic, and the counter holds the last `w` of them. -/
theorem OutboundRequestCounter.recordRequests_window (profile : Profile) (w : Nat)
    (h : List PeerKeyLocation) :
    ∃ c, (OutboundRequestCounter.new w).recordRequests profile h = some c ∧ c.Window w h :=
  History.foldlM_exists (fun h (c : OutboundRequestCounter) => c.Window w h)
    (OutboundRequestCounter.window_new w)
    (fun _ p _ hc => OutboundRequestCounter.recordRequest_window hc profile p) h

/-- Both sliding-window counters are exact, for every window size and every
sequence, and never panic: the density tracker holds the last `w` sampled
locations and counts them per location, and the request counter holds the
last `w` peers, counts them per peer, and totals them. -/
theorem sliding_window_counters_exact (profile : Profile) (w : Nat) (samples : List Location)
    (peers : List PeerKeyLocation) :
    (∃ t, (RequestDensityTracker.new w).samples profile samples = some t ∧
      t.requestList = History.window w samples ∧
      History.Counts t.requestLocations.get? t.requestList) ∧
    (∃ c, (OutboundRequestCounter.new w).recordRequests profile peers = some c ∧
      c.requestWindow = History.window w peers ∧
      History.Counts c.countsByPeer c.requestWindow ∧
      c.totalCount = c.requestWindow.length) := by
  obtain ⟨t, ht, htw⟩ := RequestDensityTracker.samples_window profile w samples
  obtain ⟨c, hc, hcw⟩ := OutboundRequestCounter.recordRequests_window profile w peers
  exact ⟨⟨t, ht, htw.requestList, htw.counts⟩, ⟨c, hc, hcw.requestWindow, hcw.counts, hcw.totalCount⟩⟩

/-! ### Connection scores -/

/-- `ConnectionEvaluator`: the recorded scores, oldest first, with their
times. -/
structure ConnectionEvaluator where
  scores : List (Nat × ℚ)
  windowDuration : Nat

/-- `ConnectionEvaluator::new`. -/
def ConnectionEvaluator.new (windowDuration : Nat) : ConnectionEvaluator := ⟨[], windowDuration⟩

/-- `remove_outdated_scores`: the oldest scores leave while they are more
than the window's duration old. -/
def ConnectionEvaluator.removeOutdatedScores (e : ConnectionEvaluator) (currentTime : Nat) :
    ConnectionEvaluator :=
  { e with scores := e.scores.dropWhile fun s => e.windowDuration < currentTime - s.1 }

/-- `record_only_with_current_time`. -/
def ConnectionEvaluator.recordOnly (e : ConnectionEvaluator) (score : ℚ) (currentTime : Nat) :
    ConnectionEvaluator :=
  let e := e.removeOutdatedScores currentTime
  { e with scores := e.scores ++ [(currentTime, score)] }

/-- `record_and_eval_with_current_time`: the evaluator after the call, and
whether the score is better than every one it keeps. -/
def ConnectionEvaluator.recordAndEval (e : ConnectionEvaluator) (score : ℚ) (currentTime : Nat) :
    ConnectionEvaluator × Bool :=
  let e := e.removeOutdatedScores currentTime
  let isBetter := e.scores.isEmpty || e.scores.all fun s => s.2 < score
  (e.recordOnly score currentTime, isBetter)

/-- A call to the evaluator. -/
inductive EvaluatorCall
  | recordOnly (score : ℚ) (time : Nat)
  | recordAndEval (score : ℚ) (time : Nat)

/-- The score a call records, with its time. -/
def EvaluatorCall.record : EvaluatorCall → Nat × ℚ
  | .recordOnly score time => (time, score)
  | .recordAndEval score time => (time, score)

/-- A call made on the evaluator: the evaluator after it, and what a
`record_and_eval` call answers. -/
def ConnectionEvaluator.call (e : ConnectionEvaluator) : EvaluatorCall → ConnectionEvaluator × Option Bool
  | .recordOnly score time => (e.recordOnly score time, none)
  | .recordAndEval score time =>
      let r := e.recordAndEval score time
      (r.1, some r.2)

/-- The calls made in turn. -/
def ConnectionEvaluator.run (e : ConnectionEvaluator) (calls : List EvaluatorCall) :
    ConnectionEvaluator :=
  calls.foldl (fun e c => (e.call c).1) e

/-- What a call does, whichever it is: the scores older than the window's
duration at its time leave, and its own score joins; a `record_and_eval`
call answers whether its score beats all that are kept. The second pass of
`remove_outdated_scores`, in `record_only_with_current_time`, finds nothing
more to take. -/
theorem ConnectionEvaluator.call_eq (e : ConnectionEvaluator) (c : EvaluatorCall) :
    (e.call c).1 = { e with
      scores := e.scores.dropWhile (fun s => e.windowDuration < c.record.1 - s.1) ++ [c.record] } ∧
    ∀ score time, c = .recordAndEval score time → (e.call c).2 = some
      ((e.scores.dropWhile fun s => e.windowDuration < c.record.1 - s.1).isEmpty ||
        (e.scores.dropWhile fun s => e.windowDuration < c.record.1 - s.1).all fun s => s.2 < score) := by
  cases c with
  | recordOnly score time => exact ⟨rfl, fun _ _ h => by cases h⟩
  | recordAndEval score time =>
      refine ⟨?_, fun score' time' h => ?_⟩
      · dsimp only [ConnectionEvaluator.call, ConnectionEvaluator.recordAndEval,
          ConnectionEvaluator.recordOnly, ConnectionEvaluator.removeOutdatedScores,
          EvaluatorCall.record]
        rw [List.dropWhile_idempotent]
        rfl
      · cases h
        rfl

/-- The evaluator keeps the scores recorded within the window's duration of
`T`, the time of its latest call. -/
def ConnectionEvaluator.Retains (W T : Nat) (h : List EvaluatorCall) (e : ConnectionEvaluator) :
    Prop :=
  e.windowDuration = W ∧ e.scores = (h.map EvaluatorCall.record).filter fun r => T - r.1 ≤ W

/-- At a time `t` from `T` on, the scores too old at `t` are the oldest,
since the scores are kept in time order and age together: the loop of
`remove_outdated_scores` takes exactly them. -/
theorem ConnectionEvaluator.dropWhile_outdated {W T : Nat} {h : List EvaluatorCall}
    {e : ConnectionEvaluator} (he : e.Retains W T h)
    (hsorted : ((h.map EvaluatorCall.record).map (·.1)).Pairwise (· ≤ ·)) {t : Nat} (hT : T ≤ t) :
    e.scores.dropWhile (fun s => e.windowDuration < t - s.1) =
      (h.map EvaluatorCall.record).filter fun r => t - r.1 ≤ W := by
  obtain ⟨hW, hscores⟩ := he
  have hsorted' : (e.scores).Pairwise (fun a b => a.1 ≤ b.1) := by
    rw [hscores]
    exact (List.pairwise_map.mp hsorted).filter _
  rw [History.dropWhile_eq_filter hsorted' fun a b hab hb => by
    simp only [decide_eq_true_eq] at hb ⊢
    omega, hscores, List.filter_filter]
  refine List.filter_congr fun r _ => ?_
  rw [hW]
  -- a score recent enough at `t` was recent enough at `T`
  by_cases hr : t - r.1 ≤ W
  · have hr' : T - r.1 ≤ W := by omega
    simp [hr, hr']
  · simp [hr, not_le.mp hr]

/-- One call at a time `t` from `T` on keeps the scores within the window's
duration of `t`, its own among them, and answers whether its score beats
every earlier one within it. -/
theorem ConnectionEvaluator.call_retains {W T : Nat} {h : List EvaluatorCall}
    {e : ConnectionEvaluator} (he : e.Retains W T h)
    (hsorted : ((h.map EvaluatorCall.record).map (·.1)).Pairwise (· ≤ ·)) {c : EvaluatorCall}
    (hT : T ≤ c.record.1) :
    (e.call c).1.Retains W c.record.1 (h ++ [c]) ∧
      ∀ score time, c = .recordAndEval score time →
        (e.call c).2 = some (decide (∀ r ∈ h.map EvaluatorCall.record, time - r.1 ≤ W → r.2 < score)) := by
  have hkept := ConnectionEvaluator.dropWhile_outdated he hsorted hT
  obtain ⟨hcall, hanswer⟩ := ConnectionEvaluator.call_eq e c
  refine ⟨⟨by rw [hcall]; exact he.1, ?_⟩, fun score time hc => ?_⟩
  · rw [hcall]
    simp only [hkept, List.map_append, List.map_singleton, List.filter_append]
    simp
  · rw [hanswer score time hc, hkept]
    subst hc
    -- with nothing kept, every kept score is beaten
    have hor : ∀ l : List (Nat × ℚ),
        (l.isEmpty || l.all fun s => s.2 < score) = l.all fun s => s.2 < score := fun l => by
      cases l <;> simp
    rw [hor, Option.some.injEq, Bool.eq_iff_iff, List.all_eq_true, decide_eq_true_iff]
    simp [List.mem_filter, EvaluatorCall.record]

/-- The time of the latest call. -/
def lastTime (h : List EvaluatorCall) : Nat := (h.getLast?.map (·.record.1)).getD 0

theorem lastTime_le {h : List EvaluatorCall} {c : EvaluatorCall}
    (hsorted : (((h ++ [c]).map EvaluatorCall.record).map (·.1)).Pairwise (· ≤ ·)) :
    lastTime h ≤ c.record.1 := by
  cases hl : h.getLast? with
  | none => simp [lastTime, hl]
  | some d =>
      obtain ⟨pre, rfl⟩ := List.getLast?_eq_some_iff.mp hl
      simp only [List.map_append, List.map_cons, List.map_nil, List.pairwise_append,
        List.pairwise_cons] at hsorted
      simpa [lastTime] using hsorted.2.2 _ (by simp) _ (by simp)

/-- From a new evaluator, a run of calls in time order keeps the scores
within the window's duration of its latest call. -/
theorem ConnectionEvaluator.run_retains (W : Nat) {h : List EvaluatorCall}
    (hsorted : ((h.map EvaluatorCall.record).map (·.1)).Pairwise (· ≤ ·)) :
    ((ConnectionEvaluator.new W).run h).Retains W (lastTime h) h := by
  induction h using List.reverseRecOn with
  | nil => exact ⟨rfl, rfl⟩
  | append_singleton h c ih =>
      have hprefix : ((h.map EvaluatorCall.record).map (·.1)).Pairwise (· ≤ ·) := by
        simp only [List.map_append, List.pairwise_append] at hsorted
        exact hsorted.1
      have hstep := (ConnectionEvaluator.call_retains (ih hprefix) hprefix (lastTime_le hsorted)).1
      simpa [ConnectionEvaluator.run, List.foldl_append, lastTime] using hstep

/-- The connection evaluator's window. Along any sequence of calls in time
order, after each call the evaluator keeps exactly the scores recorded within
its window's duration of the call's time, the call's own among them, and a
`record_and_eval` call answers whether its score beats every score recorded
before it within that duration. -/
theorem connectionEvaluator_window (W : Nat) (h : List EvaluatorCall) (c : EvaluatorCall)
    (hsorted : (((h ++ [c]).map EvaluatorCall.record).map (·.1)).Pairwise (· ≤ ·)) :
    (((ConnectionEvaluator.new W).run h).call c).1.scores =
        ((h ++ [c]).map EvaluatorCall.record).filter (fun r => c.record.1 - r.1 ≤ W) ∧
      ∀ score time, c = .recordAndEval score time →
        (((ConnectionEvaluator.new W).run h).call c).2 =
          some (decide (∀ r ∈ h.map EvaluatorCall.record, time - r.1 ≤ W → r.2 < score)) := by
  have hprefix : ((h.map EvaluatorCall.record).map (·.1)).Pairwise (· ≤ ·) := by
    simp only [List.map_append, List.pairwise_append] at hsorted
    exact hsorted.1
  obtain ⟨hretains, hanswer⟩ := ConnectionEvaluator.call_retains
    (ConnectionEvaluator.run_retains W hprefix) hprefix (lastTime_le hsorted)
  exact ⟨hretains.2, hanswer⟩

theorem connectionEvaluator_window_five :
    let h : List EvaluatorCall := [.recordAndEval 5 0]
    let c : EvaluatorCall := .recordAndEval 4 5
    (((h ++ [c]).map EvaluatorCall.record).map (·.1)).Pairwise (· ≤ ·) ∧
      (((ConnectionEvaluator.new 10).run h).call c).1.scores =
        ((h ++ [c]).map EvaluatorCall.record).filter (fun r => c.record.1 - r.1 ≤ 10) ∧
      ∀ score time, c = .recordAndEval score time →
        (((ConnectionEvaluator.new 10).run h).call c).2 =
          some (decide (∀ r ∈ h.map EvaluatorCall.record, time - r.1 ≤ 10 → r.2 < score)) :=
  ⟨by decide, connectionEvaluator_window 10 [.recordAndEval 5 0] (.recordAndEval 4 5) (by decide)⟩

end FreenetCore.Topology
