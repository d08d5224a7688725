import FreenetCore.Topology.Manager
import FreenetCore.Lib.MachineInt
import FreenetCore.Message

/-!
The connection maintenance loop of the ring (`Ring::connection_maintenance`
and `Ring::acquire_new`).

Each pass of the loop drains the channel of missing candidates, forgets
those reported more than the retry interval ago, pops one pending location
and asks for a connection at it, counts the connections that are old enough
and not busy with a live transaction, and lets the topology manager decide.
On `AddConnections` the locations are queued and the loop goes round again
at once; otherwise it sends the drops it is told to and awaits the next tick
of one of its two intervals.

A pass sends one `FindOptimalPeer` at most
(`MaintenanceState.pass_sent_le_one`); what bounds the requests between two
ticks is then the number of passes that go round at once.

While no connection is settled, the topology manager sees no neighbour at
all and asks for `min_connections` locations every pass, and every pass is
of the first kind: the queue grows by `min_connections - 1` a pass and one
`FindOptimalPeer` goes out per pass, with no tick awaited in between
(`MaintenanceState.run_unsettled_of_pending`).

What a pass reads of the rest of the node (the clock, the channels, the
routing, the counters of the ring and the live transactions) is a view of
its own, one per pass. `none` is a panic, or an adjustment of the topology
that never returns. The clock is that of a platform whose `Instant` cannot
go below its origin: there the subtraction of the retry interval panics in
the first ten minutes, while on unix it gives an earlier instant.
-/

namespace FreenetCore.Node

open FreenetCore.Operations FreenetCore.Topology MachineInt

/-- `CONNECTION_AGE_THRESOLD`: five minutes. -/
def connectionAgeThresold : Nat := 60 * 5 * nanosPerSecond

/-- `retry_peers_missing_candidates_interval`: ten minutes. -/
def retryPeersMissingCandidatesInterval : Nat := 60 * 5 * nanosPerSecond * 2

/-- The `FindOptimalPeer` request of `acquire_new`, with its transaction. -/
structure FindOptimalPeer where
  id : Transaction
  queryTarget : PeerKeyLocation
  idealLocation : Location
  joiner : PeerKeyLocation
  maxHopsToLive : Nat

/-- What the loop sends to the event loop. -/
inductive Notification
  | findOptimalPeer (msg : FindOptimalPeer)
  | dropConnection (peer : PeerId)

def Notification.isFindOptimalPeer : Notification → Bool
  | .findOptimalPeer _ => true
  | .dropConnection _ => false

/-- The number of `FindOptimalPeer` requests among what is sent. -/
def findOptimalPeerCount (sent : List Notification) : Nat := sent.countP Notification.isFindOptimalPeer

/-- How a pass ends: round again at once (`continue`), after a tick of one
of the intervals, or out of the loop, when the channel of candidates is
closed or a send fails. -/
inductive PassEnd
  | continued
  | tick
  | finished
  | failed
  deriving DecidableEq

/-- What one pass reads of the rest of the node. -/
structure MaintenanceView where
  /-- the candidates `try_recv` gets, each at the `Instant::now()` of its insertion -/
  received : List (Nat × PeerId)
  /-- whether `try_recv` then says `Disconnected` rather than `Empty` -/
  disconnected : Bool
  /-- the `Instant::now()` the retry interval is taken from -/
  now : Nat
  /-- `Ring::routing(location, None, skip_list)` -/
  routing : Location → List PeerId → Option PeerKeyLocation
  openConnections : UInt64
  ownLocation : PeerKeyLocation
  newTransaction : Transaction
  notifierOpen : Bool
  stillAlive : Transaction → Bool
  connectionsByLocation : BTreeMap Location (List Connection)
  /-- `conn.open_at.elapsed()` -/
  elapsed : Connection → Nat
  hasLiveConnection : PeerId → Bool
  /-- the `Instant::now()` given to `adjust_topology`, and the one it reads itself -/
  adjustAt : Nat
  instantNow : Nat
  randomLocation : Nat → Location

/-- The loop's own variables, and the topology manager it writes. `missing`
is keyed by `Reverse<Instant>`. -/
structure MaintenanceState where
  missing : BTreeMap (OrderDual Nat) PeerId
  liveTx : Option Transaction
  pendingConnAdds : List Location
  topologyManager : TopologyManager

def MaintenanceState.init (topologyManager : TopologyManager) : MaintenanceState :=
  ⟨BTreeMap.empty, none, [], topologyManager⟩

/-- `Ring::acquire_new`: the request to send, if routing finds a peer to
send it to. `max_connections - open_connections()` is a `usize`
subtraction. -/
def acquireNew (p : Profile) (v : MaintenanceView) (maxConnections : Nat) (idealLocation : Location)
    (skipList : List PeerId) : Option (Option FindOptimalPeer) :=
  match v.routing idealLocation skipList with
  | none => some none
  | some queryTarget =>
      (subUsize p maxConnections v.openConnections.toNat).map fun missingConnections =>
        some ⟨v.newTransaction, queryTarget, idealLocation, v.ownLocation, missingConnections⟩

/-- The connections a pass counts as neighbours: open for longer than the
threshold and with no live transaction, by location, empty buckets left
out. -/
def neighborLocations (v : MaintenanceView) : BTreeMap Location (List Connection) :=
  (v.connectionsByLocation.mapValues fun conns =>
      conns.filter fun conn =>
        decide (connectionAgeThresold < v.elapsed conn) && !v.hasLiveConnection conn.location.peer).filter
    fun bucket => !bucket.2.isEmpty

/-- The inner `loop`: every candidate received is inserted at its time. -/
def MaintenanceState.receive (v : MaintenanceView) (st : MaintenanceState) :
    BTreeMap (OrderDual Nat) PeerId :=
  v.received.foldl (fun m r => m.insert (OrderDual.toDual r.1) r.2) st.missing

/-- `missing.split_off(&Reverse(retry_missing_candidates_until))`: only the
candidates reported after the cutoff stay. -/
def retainRecent (v : MaintenanceView) (missing : BTreeMap (OrderDual Nat) PeerId) :
    BTreeMap (OrderDual Nat) PeerId :=
  (missing.splitOff (OrderDual.toDual (v.now - retryPeersMissingCandidatesInterval))).1

/-- The pending location's request, and `live_tx` after it: `Ok(None)`
clears it too. A closed notifier fails the pass. -/
def MaintenanceState.acquirePending (p : Profile) (maxConnections : Nat) (v : MaintenanceView)
    (missing : BTreeMap (OrderDual Nat) PeerId) (st : MaintenanceState) :
    Option (Option (List Notification × Option Transaction × List Location)) :=
  match st.pendingConnAdds with
  | [] => some (some ([], st.liveTx, []))
  | idealLocation :: rest =>
      (acquireNew p v maxConnections idealLocation missing.values).map fun
        | none => some ([], none, rest)
        | some msg => if v.notifierOpen then some ([.findOptimalPeer msg], some msg.id, rest) else none

/-- `live_tx`, dropped once its transaction is no longer alive. -/
def checkLive (v : MaintenanceView) : Option Transaction → Option Transaction
  | some tx => if v.stillAlive tx then some tx else none
  | none => none

/-- The adjustment of the topology at the end of a pass, and what the pass
does with it; `sent` is what the pass has sent before. -/
def MaintenanceState.adjust (fuel : Nat) (v : MaintenanceView) (sent : List Notification)
    (st : MaintenanceState) : Option (PassEnd × List Notification × MaintenanceState) :=
  (st.topologyManager.adjustTopology fuel (neighborLocations v) v.ownLocation.location v.adjustAt
      v.instantNow v.randomLocation).map fun r =>
    let st := { st with topologyManager := r.2 }
    match r.1 with
    | .addConnections targetLocs =>
        (.continued, sent, { st with pendingConnAdds := st.pendingConnAdds ++ targetLocs })
    | .removeConnections peers =>
        if v.notifierOpen || peers.isEmpty then
          (.tick, sent ++ peers.map fun peer => .dropConnection peer.peer, st)
        else (.failed, sent, st)
    | .noChange => (.tick, sent, st)

/-- One pass of the `'outer` loop of `connection_maintenance`. -/
def MaintenanceState.pass (p : Profile) (fuel maxConnections : Nat) (v : MaintenanceView)
    (st : MaintenanceState) : Option (PassEnd × List Notification × MaintenanceState) :=
  let missing := st.receive v
  if v.disconnected then some (.finished, [], { st with missing })
  -- `Instant::now() - retry_peers_missing_candidates_interval` panics below the clock's origin
  -- where an `Instant` cannot go below it (Windows, macOS); on unix the `timespec` goes negative
  else if v.now < retryPeersMissingCandidatesInterval then none
  else
    let missing := retainRecent v missing
    (st.acquirePending p maxConnections v missing).bind fun
      | none => some (.failed, [], { st with missing })
      | some (sent, liveTx, pendingConnAdds) =>
          MaintenanceState.adjust fuel v sent
            { st with missing, liveTx := checkLive v liveTx, pendingConnAdds }

/-- The loop over a sequence of passes, up to the first that leaves it. -/
def MaintenanceState.run (p : Profile) (fuel maxConnections : Nat) :
    List MaintenanceView → MaintenanceState → Option (List (PassEnd × List Notification) × MaintenanceState)
  | [], st => some ([], st)
  | v :: vs, st => (st.pass p fuel maxConnections v).bind fun r =>
      match r.1 with
      | .finished | .failed => some ([(r.1, r.2.1)], r.2.2)
      | _ => (MaintenanceState.run p fuel maxConnections vs r.2.2).map fun rs =>
          ((r.1, r.2.1) :: rs.1, rs.2)

/-- A pass that goes round again is followed by the rest of the run. -/
theorem MaintenanceState.run_cons_continued {p : Profile} {fuel maxConnections : Nat}
    {v : MaintenanceView} {vs : List MaintenanceView} {st st₁ st' : MaintenanceState}
    {sent : List Notification} {ends : List (PassEnd × List Notification)}
    (hpass : st.pass p fuel maxConnections v = some (.continued, sent, st₁))
    (hrun : st₁.run p fuel maxConnections vs = some (ends, st')) :
    st.run p fuel maxConnections (v :: vs) = some ((.continued, sent) :: ends, st') := by
  simp only [MaintenanceState.run, hpass, Option.bind_some, hrun, Option.map_some]

/-! ### What a pass sends -/

section Sends

variable {p : Profile} {fuel maxConnections : Nat} {v : MaintenanceView} {st st' : MaintenanceState}

theorem findOptimalPeerCount_append_drops (sent : List Notification) (peers : List PeerKeyLocation) :
    findOptimalPeerCount (sent ++ peers.map fun peer => .dropConnection peer.peer) =
      findOptimalPeerCount sent := by
  simp [findOptimalPeerCount, List.countP_append, List.countP_map, Function.comp_def,
    Notification.isFindOptimalPeer]

/-- The adjustment sends drops only. -/
theorem MaintenanceState.adjust_sent {sent sent' : List Notification} {e : PassEnd}
    (h : st.adjust fuel v sent = some (e, sent', st')) :
    findOptimalPeerCount sent' = findOptimalPeerCount sent := by
  unfold MaintenanceState.adjust at h
  obtain ⟨⟨adjustment, tm⟩, -, hr⟩ := Option.map_eq_some_iff.mp h
  cases adjustment with
  | addConnections targetLocs => cases hr; rfl
  | removeConnections peers =>
      simp only at hr
      split_ifs at hr
      · cases hr
        exact findOptimalPeerCount_append_drops sent peers
      · cases hr
        rfl
  | noChange => cases hr; rfl

/-- `acquire_new` sends one request at most. -/
theorem MaintenanceState.acquirePending_sent {missing : BTreeMap (OrderDual Nat) PeerId}
    {sent : List Notification} {liveTx : Option Transaction} {rest : List Location}
    (h : st.acquirePending p maxConnections v missing = some (some (sent, liveTx, rest))) :
    findOptimalPeerCount sent ≤ 1 := by
  unfold MaintenanceState.acquirePending at h
  split at h
  · cases h
    simp [findOptimalPeerCount]
  · obtain ⟨request, -, hr⟩ := Option.map_eq_some_iff.mp h
    cases request with
    | none =>
        cases hr
        simp [findOptimalPeerCount]
    | some msg =>
        simp only at hr
        split_ifs at hr
        cases hr
        simp [findOptimalPeerCount, Notification.isFindOptimalPeer]

/-- Every pass, however it ends, sends one `FindOptimalPeer` at most. -/
theorem MaintenanceState.pass_sent_le_one {e : PassEnd} {sent : List Notification}
    (h : st.pass p fuel maxConnections v = some (e, sent, st')) : findOptimalPeerCount sent ≤ 1 := by
  unfold MaintenanceState.pass at h
  split_ifs at h
  · cases h
    simp [findOptimalPeerCount]
  · obtain ⟨acquired, hacquire, hr⟩ := Option.bind_eq_some_iff.mp h
    cases acquired with
    | none =>
        cases hr
        simp [findOptimalPeerCount]
    | some acquired =>
        obtain ⟨sent₀, liveTx, rest⟩ := acquired
        rw [MaintenanceState.adjust_sent hr]
        exact MaintenanceState.acquirePending_sent hacquire

/-- A run sends no more requests than it makes passes. -/
theorem MaintenanceState.run_sent_le (vs : List MaintenanceView) :
    ∀ {st st' : MaintenanceState} {ends : List (PassEnd × List Notification)},
      st.run p fuel maxConnections vs = some (ends, st') →
        (ends.map fun e => findOptimalPeerCount e.2).sum ≤ ends.length ∧ ends.length ≤ vs.length := by
  induction vs with
  | nil =>
      intro st st' ends h
      cases h
      simp
  | cons v vs ih =>
      intro st st' ends h
      obtain ⟨r, hpass, hr⟩ := Option.bind_eq_some_iff.mp h
      obtain ⟨e, sent, st₁⟩ := r
      have hone := MaintenanceState.pass_sent_le_one hpass
      -- the pass leaves the loop, or the rest of the run follows it
      cases e with
      | finished | failed =>
          cases hr
          simp only [List.map_cons, List.map_nil, List.sum_cons, List.sum_nil, List.length_cons,
            List.length_nil]
          omega
      | continued | tick =>
          obtain ⟨rs, hrun, hends⟩ := Option.map_eq_some_iff.mp hr
          cases hends
          have hrest := ih hrun
          simp only [List.map_cons, List.sum_cons, List.length_cons]
          omega

/-- Two passes of a node whose only connection is too young to count. -/
theorem MaintenanceState.run_sent_le_two :
    let view : MaintenanceView :=
      { received := [], disconnected := false, now := retryPeersMissingCandidatesInterval,
        routing := fun _ _ => some ⟨0, some (1 / 4)⟩, openConnections := 0,
        ownLocation := ⟨1, some (1 / 2)⟩, newTransaction := ⟨0⟩, notifierOpen := true,
        stillAlive := fun _ => true,
        connectionsByLocation := ⟨[(1 / 4, [⟨⟨0, some (1 / 4)⟩⟩])], List.pairwise_singleton _ _⟩,
        elapsed := fun _ => nanosPerSecond, hasLiveConnection := fun _ => false, adjustAt := 0,
        instantNow := 0, randomLocation := fun _ => 0 }
    let tm := TopologyManager.new ⟨⟨1000⟩, ⟨1000⟩, 2, 10⟩
    ∃ r, (MaintenanceState.init tm).run .release 0 10 [view, view] = some r ∧
      (r.1.map fun e => findOptimalPeerCount e.2).sum ≤ r.1.length ∧ r.1.length ≤ [view, view].length := by
  intro view tm
  let r := ((MaintenanceState.init tm).run .release 0 10 [view, view]).get rfl
  have h : (MaintenanceState.init tm).run .release 0 10 [view, view] = some r := (Option.some_get _).symm
  exact ⟨r, h, MaintenanceState.run_sent_le _ h⟩

end Sends

/-! ### Passes with no settled connection -/

/-- A pass on which no connection is settled (each is too young, or busy
with a live transaction) and nothing else stops the loop: the channels are
open, the clock is past the retry interval, routing finds a peer and the
counter of open connections is within the maximum. -/
structure MaintenanceView.Unsettled (maxConnections : Nat) (v : MaintenanceView) : Prop where
  connected : v.disconnected = false
  clock : retryPeersMissingCandidatesInterval ≤ v.now
  notifierOpen : v.notifierOpen = true
  routes : ∀ location skipList, v.routing location skipList ≠ none
  openConnections_le : v.openConnections.toNat ≤ maxConnections
  unsettled : ∀ bucket ∈ v.connectionsByLocation.entries, ∀ conn ∈ bucket.2,
    v.elapsed conn ≤ connectionAgeThresold ∨ v.hasLiveConnection conn.location.peer = true

section Unsettled

variable (p : Profile) (fuel : Nat) {maxConnections : Nat} {v : MaintenanceView}

theorem neighborLocations_eq_empty
    (hunsettled : ∀ bucket ∈ v.connectionsByLocation.entries, ∀ conn ∈ bucket.2,
      v.elapsed conn ≤ connectionAgeThresold ∨ v.hasLiveConnection conn.location.peer = true) :
    (neighborLocations v).entries = [] := by
  simp only [neighborLocations, BTreeMap.filter, BTreeMap.mapValues, List.filter_eq_nil_iff,
    List.mem_map]
  rintro _ ⟨bucket, hbucket, rfl⟩
  -- every connection of the bucket is filtered out
  have hempty : bucket.2.filter (fun conn =>
      decide (connectionAgeThresold < v.elapsed conn) && !v.hasLiveConnection conn.location.peer) = [] :=
    List.filter_eq_nil_iff.mpr fun conn hconn => by
      rcases hunsettled bucket hbucket conn hconn with h | h <;> simp [h]
  simp [hempty]

/-- With no neighbour counted, the topology manager asks for
`min_connections` locations and the pass goes round again. -/
theorem MaintenanceState.adjust_unsettled (st : MaintenanceState) (sent : List Notification)
    (hempty : (neighborLocations v).entries = []) (hmin : 0 < st.topologyManager.limits.minConnections) :
    ∃ targetLocs, st.adjust fuel v sent =
        some (.continued, sent, { st with pendingConnAdds := st.pendingConnAdds ++ targetLocs }) ∧
      targetLocs.length = st.topologyManager.limits.minConnections := by
  have hbelow : (neighborLocations v).entries.length < st.topologyManager.limits.minConnections := by
    rw [hempty, List.length_nil]
    exact hmin
  refine ⟨(List.range (st.topologyManager.limits.minConnections - (neighborLocations v).entries.length)).map
    fun i => v.ownLocation.location.getD (v.randomLocation i), ?_, ?_⟩
  · simp only [MaintenanceState.adjust, adjustTopology_below_minimum fuel _ _ _ _ _ _ hbelow,
      Option.map_some]
  · rw [List.length_map, List.length_range, hempty, List.length_nil, Nat.sub_zero]

/-- The pending location, if there is one, is popped and asked for with one
`FindOptimalPeer`. -/
theorem MaintenanceState.acquirePending_unsettled (st : MaintenanceState)
    (missing : BTreeMap (OrderDual Nat) PeerId) (hv : v.Unsettled maxConnections) :
    ∃ sent liveTx, st.acquirePending p maxConnections v missing =
        some (some (sent, liveTx, st.pendingConnAdds.tail)) ∧
      findOptimalPeerCount sent = if st.pendingConnAdds = [] then 0 else 1 := by
  cases hpending : st.pendingConnAdds with
  | nil => exact ⟨[], st.liveTx, by simp [MaintenanceState.acquirePending, hpending], rfl⟩
  | cons idealLocation rest =>
      obtain ⟨queryTarget, hroute⟩ := Option.ne_none_iff_exists'.mp (hv.routes idealLocation missing.values)
      refine ⟨[.findOptimalPeer ⟨v.newTransaction, queryTarget, idealLocation, v.ownLocation,
        maxConnections - v.openConnections.toNat⟩], some v.newTransaction, ?_,
        by simp [findOptimalPeerCount, Notification.isFindOptimalPeer]⟩
      simp only [MaintenanceState.acquirePending, hpending, acquireNew, hroute,
        subUsize_of_le hv.openConnections_le, Option.map_some, hv.notifierOpen, if_true, List.tail_cons]

/-- A pass with no settled connection goes round again at once: it sends
the request for the pending location, if there is one, and queues
`min_connections` locations more. -/
theorem MaintenanceState.pass_unsettled (st : MaintenanceState) (hv : v.Unsettled maxConnections)
    (hmin : 0 < st.topologyManager.limits.minConnections) :
    ∃ sent st', st.pass p fuel maxConnections v = some (.continued, sent, st') ∧
      findOptimalPeerCount sent = (if st.pendingConnAdds = [] then 0 else 1) ∧
      st'.pendingConnAdds.length = st.pendingConnAdds.length - 1 + st.topologyManager.limits.minConnections ∧
      st'.topologyManager = st.topologyManager := by
  obtain ⟨sent, liveTx, hacquire, hcount⟩ :=
    st.acquirePending_unsettled p (retainRecent v (st.receive v)) hv
  obtain ⟨targetLocs, hadjust, hlen⟩ :=
    MaintenanceState.adjust_unsettled fuel
      { st with
        missing := retainRecent v (st.receive v), liveTx := checkLive v liveTx,
        pendingConnAdds := st.pendingConnAdds.tail }
      sent (neighborLocations_eq_empty hv.unsettled) hmin
  refine ⟨sent,
    { st with
      missing := retainRecent v (st.receive v), liveTx := checkLive v liveTx,
      pendingConnAdds := st.pendingConnAdds.tail ++ targetLocs }, ?_, hcount, ?_, rfl⟩
  · simp only [MaintenanceState.pass, hv.connected, Bool.false_eq_true, if_false,
      if_neg (Nat.not_lt.mpr hv.clock), hacquire, Option.bind_some, hadjust]
  · show (st.pendingConnAdds.tail ++ targetLocs).length = _
    rw [List.length_append, List.length_tail, hlen]

/-- From a non-empty queue, every pass sends one request and the queue
grows by `min_connections - 1`. -/
theorem MaintenanceState.run_unsettled_of_pending (vs : List MaintenanceView)
    (hvs : ∀ v ∈ vs, v.Unsettled maxConnections) :
    ∀ st : MaintenanceState, 0 < st.topologyManager.limits.minConnections → st.pendingConnAdds ≠ [] →
      ∃ ends st', st.run p fuel maxConnections vs = some (ends, st') ∧
        (∀ e ∈ ends, e.1 = .continued) ∧
        (ends.map fun e => findOptimalPeerCount e.2).sum = vs.length ∧
        st'.pendingConnAdds.length =
          st.pendingConnAdds.length + vs.length * (st.topologyManager.limits.minConnections - 1) ∧
        st'.topologyManager = st.topologyManager := by
  induction vs with
  | nil =>
      intro st _ _
      exact ⟨[], st, rfl, by simp, rfl, by simp, rfl⟩
  | cons v vs ih =>
      intro st hmin hpending
      obtain ⟨sent, st₁, hpass, hcount, hlen, htm⟩ :=
        st.pass_unsettled p fuel (hvs v List.mem_cons_self) hmin
      have hlen_pos : 0 < st.pendingConnAdds.length := List.length_pos_iff.mpr hpending
      obtain ⟨ends, st', hrun, hends, hsum, hlen', htm'⟩ :=
        ih (fun w hw => hvs w (List.mem_cons_of_mem v hw)) st₁ (htm ▸ hmin)
          (List.ne_nil_of_length_pos (by omega))
      refine ⟨(.continued, sent) :: ends, st', MaintenanceState.run_cons_continued hpass hrun,
        List.forall_mem_cons.mpr ⟨rfl, hends⟩, ?_, ?_, htm'.trans htm⟩
      · rw [List.map_cons, List.sum_cons, hsum, hcount, if_neg hpending, List.length_cons]
        omega
      · rw [hlen', hlen, htm, List.length_cons, Nat.succ_mul]
        have : 1 ≤ st.topologyManager.limits.minConnections := hmin
        omega

end Unsettled

theorem run_unsettled_floods (p : Profile) (fuel maxConnections : Nat) (tm : TopologyManager)
    (views : List MaintenanceView) (hmin : 0 < tm.limits.minConnections) (hviews : views ≠ [])
    (hunsettled : ∀ v ∈ views, v.Unsettled maxConnections) :
    ∃ ends st, (MaintenanceState.init tm).run p fuel maxConnections views = some (ends, st) ∧
      (∀ e ∈ ends, e.1 = .continued) ∧
      (ends.map fun e => findOptimalPeerCount e.2).sum = views.length - 1 ∧
      st.pendingConnAdds.length = tm.limits.minConnections + (views.length - 1) * (tm.limits.minConnections - 1) := by
  obtain ⟨v, vs, rfl⟩ := List.exists_cons_of_ne_nil hviews
  -- the first pass has nothing pending, and queues `min_connections` locations
  obtain ⟨sent, st₁, hpass, hcount, hlen, htm⟩ :=
    (MaintenanceState.init tm).pass_unsettled p fuel (hunsettled v List.mem_cons_self) hmin
  have hlen₁ : st₁.pendingConnAdds.length = tm.limits.minConnections := by
    rw [hlen]
    simp [MaintenanceState.init]
  obtain ⟨ends, st, hrun, hends, hsum, hlen', htm'⟩ :=
    MaintenanceState.run_unsettled_of_pending p fuel vs
      (fun w hw => hunsettled w (List.mem_cons_of_mem v hw)) st₁ (htm ▸ hmin)
      (List.ne_nil_of_length_pos (by omega))
  refine ⟨(.continued, sent) :: ends, st, MaintenanceState.run_cons_continued hpass hrun,
    List.forall_mem_cons.mpr ⟨rfl, hends⟩, ?_, ?_⟩
  · rw [List.map_cons, List.sum_cons, hsum, hcount]
    simp [MaintenanceState.init]
  · rw [hlen', hlen₁, htm, List.length_cons, Nat.add_sub_cancel]
    rfl

/-- Four passes while the ring's one connection is a second old: three
requests and five pending locations, against a minimum of two. -/
theorem run_unsettled_floods_young :
    let view : MaintenanceView :=
      { received := [], disconnected := false, now := retryPeersMissingCandidatesInterval,
        routing := fun _ _ => some ⟨0, some (1 / 4)⟩, openConnections := 0,
        ownLocation := ⟨1, some (1 / 2)⟩, newTransaction := ⟨0⟩, notifierOpen := true,
        stillAlive := fun _ => true,
        connectionsByLocation := ⟨[(1 / 4, [⟨⟨0, some (1 / 4)⟩⟩])], List.pairwise_singleton _ _⟩,
        elapsed := fun _ => nanosPerSecond, hasLiveConnection := fun _ => false, adjustAt := 0,
        instantNow := 0, randomLocation := fun _ => 0 }
    let tm := TopologyManager.new ⟨⟨1000⟩, ⟨1000⟩, 2, 10⟩
    (0 < tm.limits.minConnections ∧ List.replicate 4 view ≠ [] ∧
        ∀ v ∈ List.replicate 4 view, v.Unsettled 10) ∧
      ∃ ends st, (MaintenanceState.init tm).run .release 0 10 (List.replicate 4 view) = some (ends, st) ∧
        (∀ e ∈ ends, e.1 = .continued) ∧
        (ends.map fun e => findOptimalPeerCount e.2).sum = (List.replicate 4 view).length - 1 ∧
        st.pendingConnAdds.length =
          tm.limits.minConnections + ((List.replicate 4 view).length - 1) * (tm.limits.minConnections - 1) := by
  intro view tm
  have hview : view.Unsettled 10 :=
    { connected := rfl
      clock := le_refl _
      notifierOpen := rfl
      routes := fun _ _ => Option.some_ne_none _
      openConnections_le := by decide
      unsettled := fun _ _ _ _ => Or.inl (Nat.le_mul_of_pos_left nanosPerSecond (by decide)) }
  have hunsettled : ∀ v ∈ List.replicate 4 view, v.Unsettled 10 := fun v hv =>
    List.eq_of_mem_replicate hv ▸ hview
  exact ⟨⟨by decide, by simp, hunsettled⟩,
    run_unsettled_floods .release 0 10 tm (List.replicate 4 view) (by decide) (by simp) hunsettled⟩

end FreenetCore.Node
