import FreenetCore.Lib.BinarySearch
import FreenetCore.Lib.BTreeMap
import FreenetCore.Lib.Vec
import FreenetCore.Operations.Common

/-!
The ring's bookkeeping of connections and subscribers (`ring.rs`).

A node files each open connection twice: by location in
`connections_by_location` (a bucket of connections per location) and by peer
in `location_for_peer`; `open_connections` counts the connections accepted
and not yet closed. `should_accept` takes a slot in the counter before it
decides and gives it back on a refusal, `add_connection` files a connection
in both maps, and `prune_connection` drops the peer from `location_for_peer`
(with an `unwrap`), drops its location's whole bucket, removes the first
subscriber at that location from every contract and gives a slot back.
The connect operation adds a connection with no `should_accept` on the
joiner's side, and the network bridge prunes on every closed connection.

The subscribers of a contract are a vector: `add_subscriber` inserts at the
point a binary search finds, which keeps a sorted vector sorted and free of
duplicates; `register_subscription` (the upstream peer of a subscription of
this node) pushes at the end, and `prune_connection` removes by
`swap_remove`. Neither keeps the vector sorted, so a later binary search can
miss a subscriber that is there.

The counter is an `AtomicUsize`: its `fetch_add` and `fetch_sub` wrap, in a
debug build too.

`closest_to_location` reads `connections_by_location` in the order of its
locations, so it takes the map as a `BTreeMap`; the random choice of a
connection in a bucket is a parameter.
-/

namespace FreenetCore.Node

open FreenetCore.Operations FreenetCore.WasmRuntime BinarySearch

/-- `Ring::MAX_SUBSCRIBERS`. -/
def maxSubscribers : Nat := 10

/-- `Ring::TOTAL_MAX_SUBSCRIPTIONS`: all subscribers, the upstream included. -/
def totalMaxSubscriptions : Nat := maxSubscribers + 1

/-- `Connection`, by the peer it goes to; its opening time is not read by
the modelled calls. -/
structure Connection where
  location : PeerKeyLocation
  deriving DecidableEq, Repr

/-- The fields of `Ring` that its connection and subscriber calls read and
write. Maps are functions; `subscribers` is keyed by the contract's instance
id, which `ContractKey`'s `Eq` and `Hash` compare. -/
structure Ring where
  maxConnections : Nat
  minConnections : Nat
  ownLocation : Option Location
  connectionsByLocation : Location → Option (List Connection)
  locationForPeer : PeerId → Option Location
  subscribers : Bytes32 → Option (List PeerKeyLocation)
  openConnections : UInt64

/-- `Ring::new`: no connection, no subscriber, the counter at zero. -/
def Ring.new (maxConnections minConnections : Nat) (ownLocation : Option Location) : Ring where
  maxConnections := maxConnections
  minConnections := minConnections
  ownLocation := ownLocation
  connectionsByLocation := fun _ => none
  locationForPeer := fun _ => none
  subscribers := fun _ => none
  openConnections := 0

/-- The decision of `should_accept` for a peer with no connection yet, from
the counter as it stood before the call took its slot. -/
def Ring.accepts (r : Ring) (myLocation location : Location) (openConn : UInt64)
    (evaluate : Bool) : Bool :=
  if location = myLocation || (r.connectionsByLocation location).isSome then false
  else if openConn.toNat < r.minConnections then true
  else if r.maxConnections ≤ openConn.toNat then false
  else evaluate

/-- `should_accept`, with the topology manager's answer to
`evaluate_new_connection` as `evaluate`; `none` is the panic of `expect` on
a node with no location. -/
def Ring.shouldAccept (r : Ring) (location : Location) (peer : PeerId) (evaluate : Bool) :
    Option (Ring × Bool) :=
  let openConn := r.openConnections
  let taken := { r with openConnections := openConn + 1 }
  let released := { r with openConnections := openConn + 1 - 1 }
  if (r.locationForPeer peer).isSome then
    -- avoid connecting more than once to the same peer
    some (released, false)
  else
    match r.ownLocation with
    | none => none
    | some myLocation =>
        if r.accepts myLocation location openConn evaluate then some (taken, true)
        else some (released, false)

/-- `add_connection`: pushed to its location's bucket with no check for an
entry already there. -/
def Ring.addConnection (r : Ring) (loc : Location) (peer : PeerId) : Ring :=
  { r with
    connectionsByLocation := Function.update r.connectionsByLocation loc
      (some ((r.connectionsByLocation loc).getD [] ++ [⟨⟨peer, some loc⟩⟩]))
    locationForPeer := Function.update r.locationForPeer peer (some loc) }

/-- What `prune_connection` does to one contract's subscribers: the first
one at the pruned location is taken out by `swap_remove`. -/
def dropSubscriberAt (loc : Location) (subs : List PeerKeyLocation) : List PeerKeyLocation :=
  match subs.findIdx? (fun l => l.location == some loc) with
  | some pos => Vec.swapRemove subs pos
  | none => subs

/-- `prune_connection`; `none` is the panic of `unwrap` on a peer with no
location. -/
def Ring.pruneConnection (r : Ring) (peer : PeerId) : Option Ring :=
  match r.locationForPeer peer with
  | none => none
  | some loc => some
      { r with
        locationForPeer := Function.update r.locationForPeer peer none
        connectionsByLocation := Function.update r.connectionsByLocation loc none
        subscribers := fun c => (r.subscribers c).map (dropSubscriberAt loc)
        openConnections := r.openConnections - 1 }

/-- `register_subscription`: pushed at the end of the vector. -/
def Ring.registerSubscription (r : Ring) (contract : ContractKey) (subscriber : PeerKeyLocation) :
    Ring :=
  { r with
    subscribers := Function.update r.subscribers contract.id
      (some ((r.subscribers contract.id).getD [] ++ [subscriber])) }

/-- `add_subscriber`, with its `Result<(), ()>`. The entry is created even
when the call fails. -/
def Ring.addSubscriber (r : Ring) (contract : ContractKey) (subscriber : PeerKeyLocation) :
    Ring × Except Unit Unit :=
  let subs := (r.subscribers contract.id).getD []
  let entered := { r with subscribers := Function.update r.subscribers contract.id (some subs) }
  if maxSubscribers ≤ subs.length then (entered, .error ())
  else
    match binarySearchBy (fun p => compare p subscriber) subs with
    | .ok _ => (entered, .ok ())
    | .error nextIdx =>
        if subs.length = maxSubscribers then (entered, .error ())
        else
          let inserted := subs.insertIdx nextIdx subscriber
          ({ r with subscribers := Function.update r.subscribers contract.id (some inserted) }, .ok ())

/-! ### Runs of calls -/

/-- The calls other components make on a node's ring. -/
inductive RingCall
  | shouldAccept (location : Location) (peer : PeerId) (evaluate : Bool)
  | addConnection (location : Location) (peer : PeerId)
  | pruneConnection (peer : PeerId)
  | addSubscriber (contract : ContractKey) (subscriber : PeerKeyLocation)
  | registerSubscription (contract : ContractKey) (subscriber : PeerKeyLocation)

/-- One call; `none` is a panic. -/
def Ring.step (r : Ring) : RingCall → Option Ring
  | .shouldAccept location peer evaluate => (r.shouldAccept location peer evaluate).map Prod.fst
  | .addConnection location peer => some (r.addConnection location peer)
  | .pruneConnection peer => r.pruneConnection peer
  | .addSubscriber contract subscriber => some (r.addSubscriber contract subscriber).1
  | .registerSubscription contract subscriber => some (r.registerSubscription contract subscriber)

/-- A run of calls, stopped by the first panic. -/
def Ring.run (r : Ring) (calls : List RingCall) : Option Ring :=
  calls.foldlM Ring.step r

@[simp] theorem Ring.run_nil (r : Ring) : r.run [] = some r := rfl

@[simp] theorem Ring.run_cons (r : Ring) (c : RingCall) (cs : List RingCall) :
    r.run (c :: cs) = (r.step c).bind (·.run cs) := rfl

theorem Ring.run_append (r : Ring) (cs ds : List RingCall) :
    r.run (cs ++ ds) = (r.run cs).bind (·.run ds) := by
  simp [Ring.run, List.foldlM_append]

/-! ### Which peers have a location -/

/-- Whether a call leaves `p` connected, given whether it was: an
`add_connection` of `p` connects it, a `prune_connection` of `p`
disconnects it. -/
def RingCall.connects (p : PeerId) (connected : Bool) : RingCall → Bool
  | .addConnection _ q => if q = p then true else connected
  | .pruneConnection q => if q = p then false else connected
  | _ => connected

/-- Whether `p` is connected after the calls, from `connected` before. -/
def connectedAfter (p : PeerId) (connected : Bool) (calls : List RingCall) : Bool :=
  calls.foldl (fun b c => c.connects p b) connected

section Connections

variable {r r' : Ring} {p : PeerId}

/-- `should_accept` moves the counter and nothing else. -/
theorem shouldAccept_eq {loc : Location} {q : PeerId} {ev : Bool} {b : Bool}
    (h : r.shouldAccept loc q ev = some (r', b)) : ∃ n, r' = { r with openConnections := n } := by
  simp only [Ring.shouldAccept] at h
  split at h
  · cases h; exact ⟨_, rfl⟩
  · split at h
    · cases h
    · split at h <;> cases h <;> exact ⟨_, rfl⟩

/-- `add_subscriber` changes the contract's vector and nothing else. -/
theorem addSubscriber_eq (r : Ring) (c : ContractKey) (s : PeerKeyLocation) :
    ∃ subs, (r.addSubscriber c s).1 =
      { r with subscribers := Function.update r.subscribers c.id (some subs) } := by
  simp only [Ring.addSubscriber]
  split
  · exact ⟨_, rfl⟩
  · split
    · exact ⟨_, rfl⟩
    · split
      · exact ⟨_, rfl⟩
      · exact ⟨_, rfl⟩

/-- One call: `location_for_peer` has an entry for `p` exactly as
`RingCall.connects` says. -/
theorem step_locationForPeer {c : RingCall} (h : r.step c = some r') :
    (r'.locationForPeer p).isSome = c.connects p (r.locationForPeer p).isSome := by
  cases c with
  | shouldAccept loc q ev =>
      obtain ⟨⟨r₁, b⟩, hs, rfl⟩ := Option.map_eq_some_iff.mp h
      obtain ⟨n, rfl⟩ := shouldAccept_eq hs
      rfl
  | addConnection loc q =>
      cases h
      by_cases hq : q = p
      · subst hq; simp [RingCall.connects, Ring.addConnection]
      · simp [RingCall.connects, Ring.addConnection, hq, Function.update_of_ne (Ne.symm hq)]
  | pruneConnection q =>
      simp only [Ring.step, Ring.pruneConnection] at h
      split at h
      · cases h
      · cases h
        by_cases hq : q = p
        · subst hq; simp [RingCall.connects]
        · simp [RingCall.connects, hq, Function.update_of_ne (Ne.symm hq)]
  | addSubscriber c s =>
      cases h
      obtain ⟨subs, hsubs⟩ := addSubscriber_eq r c s
      rw [hsubs]
      rfl
  | registerSubscription => cases h; rfl

/-- A whole run: `p` has a location exactly when its last `add_connection`
was not followed by a `prune_connection` of it. -/
theorem run_locationForPeer {cs : List RingCall} (h : r.run cs = some r') :
    (r'.locationForPeer p).isSome = connectedAfter p (r.locationForPeer p).isSome cs := by
  induction cs generalizing r with
  | nil => cases h; rfl
  | cons c cs ih =>
      obtain ⟨r₁, h₁, hrest⟩ := Option.bind_eq_some_iff.mp h
      rw [ih hrest, step_locationForPeer h₁]
      rfl

/-- The connect operation and the network bridge break the ring's
bookkeeping. From a new ring: closing the connection of a peer that the
calls so far leave unconnected (never added, or pruned already) panics in
`unwrap`; the joiner's two `add_connection`s of its gateway, on
`ReceivedOC` and on `Connected`, file the gateway twice in its bucket; and a
connection added with no `should_accept`, as the joiner adds it, wraps the
counter below zero when it closes. -/
theorem connection_bookkeeping_breaks (maxC minC : Nat) (own : Option Location)
    (calls : List RingCall) (r : Ring) (p g : PeerId) (l : Location)
    (hrun : (Ring.new maxC minC own).run calls = some r)
    (hp : connectedAfter p false calls = false) :
    r.pruneConnection p = none ∧
      ((Ring.new maxC minC own).run [.addConnection l g, .addConnection l g]).map
          (·.connectionsByLocation l) = some (some [⟨⟨g, some l⟩⟩, ⟨⟨g, some l⟩⟩]) ∧
      ((Ring.new maxC minC own).run [.addConnection l g, .pruneConnection g]).map
          (·.openConnections.toNat) = some (2 ^ 64 - 1) := by
  have hnone : r.locationForPeer p = none := by
    have h : (r.locationForPeer p).isSome = connectedAfter p false calls := run_locationForPeer hrun
    rw [hp] at h
    exact Option.not_isSome_iff_eq_none.mp (by simp [h])
  refine ⟨by simp [Ring.pruneConnection, hnone], ?_, ?_⟩
  · simp [Ring.step, Ring.addConnection, Ring.new]
  · simp [Ring.step, Ring.addConnection, Ring.pruneConnection, Ring.new]

theorem connection_bookkeeping_breaks_new :
    let r := Ring.new 200 5 none
    r.run [] = some r ∧ connectedAfter 7 false [] = false ∧
      r.pruneConnection 7 = none ∧
      (r.run [.addConnection 0 1, .addConnection 0 1]).map (·.connectionsByLocation 0) =
        some (some [⟨⟨1, some 0⟩⟩, ⟨⟨1, some 0⟩⟩]) ∧
      (r.run [.addConnection 0 1, .pruneConnection 1]).map (·.openConnections.toNat) =
        some (2 ^ 64 - 1) :=
  ⟨rfl, rfl, connection_bookkeeping_breaks 200 5 none [] _ 7 1 0 rfl rfl⟩

end Connections

/-! ### Subscribers -/

section Subscribers

variable {r : Ring} {k : ContractKey} {a b c : PeerKeyLocation}

@[simp] theorem registerSubscription_subscribers_self :
    (r.registerSubscription k a).subscribers k.id = some ((r.subscribers k.id).getD [] ++ [a]) := by
  simp [Ring.registerSubscription]

/-- `n` registrations of one peer push it `n` times. -/
theorem run_register_replicate (n : Nat) :
    (r.run (List.replicate n (.registerSubscription k a))).map (·.subscribers k.id |>.getD []) =
      some ((r.subscribers k.id).getD [] ++ List.replicate n a) := by
  induction n generalizing r with
  | zero => simp
  | succ n ih =>
      rw [List.replicate_succ, Ring.run_cons]
      simp only [Ring.step, Option.bind_some]
      rw [ih]
      simp [List.replicate_succ]

/-- `add_subscriber` puts no one in a vector but its subscriber. -/
theorem mem_addSubscriber {c : ContractKey} {s l : PeerKeyLocation}
    (h : l ∈ ((r.addSubscriber c s).1.subscribers k.id).getD []) :
    l ∈ (r.subscribers k.id).getD [] ∨ l = s := by
  by_cases hk : k.id = c.id
  · rw [hk] at h ⊢
    simp only [Ring.addSubscriber] at h
    split at h
    · simp at h; exact Or.inl h
    · split at h
      · simp at h; exact Or.inl h
      · split at h
        · simp at h; exact Or.inl h
        · rename_i nextIdx _ _
          simp only [Function.update_self, Option.getD_some] at h
          -- an index past the end leaves the vector as it was
          rcases Nat.lt_or_ge ((r.subscribers c.id).getD []).length nextIdx with hlt | hle
          · rw [List.insertIdx_of_length_lt hlt] at h; exact Or.inl h
          · exact ((List.mem_insertIdx hle).mp h).symm
  · obtain ⟨subs, hsubs⟩ := addSubscriber_eq r c s
    rw [hsubs] at h
    simp only [Function.update_of_ne hk] at h
    exact Or.inl h

/-- A peer below the two entries before it, searched for in `[b, c, a]`, is
not found: the probes look at `c` and then at `b`, never at `a`. -/
theorem binarySearch_misses_last (hb : compare b a = .gt) (hc : compare c a = .gt) :
    binarySearchBy (fun p => compare p a) [b, c, a] = .error 0 := by
  simp [binarySearchBy, searchFrom, hb, hc]

/-- Subscriber vectors keep neither their bound nor their uniqueness.
`register_subscription` pushes with no check, so `n` registrations of one
peer leave it `n` times in the vector, past `TOTAL_MAX_SUBSCRIPTIONS` for
`n > 11`; and a peer registered after two greater ones sits at the end of an
unsorted vector, where the binary search of `add_subscriber` misses it: the
call returns `Ok` and inserts the peer a second time. -/
theorem subscribers_not_unique (hk : r.subscribers k.id = none)
    (hb : compare b a = .gt) (hc : compare c a = .gt) :
    (∀ n, (r.run (List.replicate n (.registerSubscription k a))).map
        (·.subscribers k.id |>.getD []) = some (List.replicate n a)) ∧
    ∃ r', r.run [.registerSubscription k b, .registerSubscription k c,
        .registerSubscription k a] = some r' ∧
      (r'.addSubscriber k a).2 = .ok () ∧
      (r'.addSubscriber k a).1.subscribers k.id = some [a, b, c, a] := by
  refine ⟨fun n => by rw [run_register_replicate, hk]; simp, ?_⟩
  refine ⟨_, rfl, ?_⟩
  have hsubs : ((((r.registerSubscription k b).registerSubscription k c).registerSubscription k a).subscribers
      k.id).getD [] = [b, c, a] := by simp [hk]
  simp only [Ring.addSubscriber, hsubs, binarySearch_misses_last hb hc]
  simp [maxSubscribers]

theorem subscribers_not_unique_new :
    let r := Ring.new 200 5 none
    let k : ContractKey := ⟨.replicate 1, none⟩
    let a : PeerKeyLocation := ⟨0, none⟩
    let b : PeerKeyLocation := ⟨1, none⟩
    let c : PeerKeyLocation := ⟨2, none⟩
    r.subscribers k.id = none ∧ compare b a = .gt ∧ compare c a = .gt ∧
      (∀ n, (r.run (List.replicate n (.registerSubscription k a))).map
          (·.subscribers k.id |>.getD []) = some (List.replicate n a)) ∧
      ∃ r', r.run [.registerSubscription k b, .registerSubscription k c,
          .registerSubscription k a] = some r' ∧
        (r'.addSubscriber k a).2 = .ok () ∧
        (r'.addSubscriber k a).1.subscribers k.id = some [a, b, c, a] :=
  ⟨rfl, by decide, by decide, subscribers_not_unique rfl (by decide) (by decide)⟩

end Subscribers

/-! ### Routing by location -/

/-- `Ring::closest_to_location`: from the bucket just below `location`
downwards, a connection drawn from each bucket (`choose`), the first whose
peer is not in the skip list. `none` is the `unwrap` of a draw from an empty
bucket; the buckets at or above `location` are never looked at. -/
def closestToLocation (connectionsByLocation : BTreeMap Location (List Connection))
    (choose : List Connection → Option Connection) (location : Location)
    (skipList : List PeerId) : Option (Option PeerKeyLocation) :=
  (connectionsByLocation.entries.filter (·.1 < location)).reverse.findSomeM? fun bucket => do
    let conn ← choose bucket.2
    pure (if conn.location.peer ∈ skipList then none else some conn.location)

/-- Whatever is drawn and skipped, a ring whose connections all lie at or
above the target has no closest connection to it, however near they are. -/
theorem closestToLocation_none_above (connectionsByLocation : BTreeMap Location (List Connection))
    (choose : List Connection → Option Connection) {location : Location} (skipList : List PeerId)
    (habove : ∀ bucket ∈ connectionsByLocation.entries, location ≤ bucket.1) :
    closestToLocation connectionsByLocation choose location skipList = some none := by
  have hbelow : connectionsByLocation.entries.filter (·.1 < location) = [] :=
    List.filter_eq_nil_iff.mpr fun bucket hb => by simpa using habove bucket hb
  simp only [closestToLocation, hbelow, List.reverse_nil]
  rfl

theorem closestToLocation_none_above_next :
    let connectionsByLocation : BTreeMap Location (List Connection) :=
      ⟨[(3 / 5, [⟨⟨1, some (3 / 5)⟩⟩])], List.pairwise_singleton _ _⟩
    (∀ bucket ∈ connectionsByLocation.entries, (1 / 2 : Location) ≤ bucket.1) ∧
      closestToLocation connectionsByLocation List.head? (1 / 2) [] = some none :=
  ⟨by simp; norm_num, closestToLocation_none_above _ List.head? [] (by simp; norm_num)⟩

end FreenetCore.Node
