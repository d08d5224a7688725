import FreenetCore.Operations.Connect
import FreenetCore.Node.Maintenance

/-!
The connect operation across a network of nodes (`operations/connect.rs`
over the event loop of `node.rs` and `handle_aborted_op`).

Each node runs `ConnectOp::process_message` over its own ring and op
manager: a message of a transaction the node holds no operation for starts
one (`load_or_init`), one of a completed transaction is dropped,
`handle_op_result` pushes the operation back or completes it and sends a
returned message to its target, and a failed step tells the message's sender
with `Aborted` and marks the transaction completed. An `Aborted` the node
gets for a join it started (`handle_aborted_op`) retries the join while the
node lacks connections, and an error of the retry ends the node's event
loop. Joins start through a gateway (`initial_join_procedure`), and the
maintenance loop hands the node its `FindOptimalPeer` requests
(`acquire_new`). Messages in flight are delivered one at a time in any
order, each with the view of the ring it meets and the new transaction a
retry would take.

The invariant `ConnectNet.Inv` says what every message in flight and every
operation held carries, with a joiner fixed per transaction. From it, over
every run from nodes with no operation and no connection to themselves, in
which new transactions are fresh and the ring's queries return connected
peers: a `Proxy` request never goes to a peer of its skip list, which holds
no peer twice, holds the joiner, and grows by one as the hops to live drop
by one (`proxy_requests_never_revisit`); and no node ever connects to itself
(`connect_never_connects_to_self`).
-/

namespace FreenetCore.Node

open FreenetCore.Operations FreenetCore.Operations.Connect FreenetCore.Util MachineInt

/-- A message between nodes as the connect operation uses them. -/
inductive ConnectNetMsg
  | connect (msg : ConnectMsg)
  | aborted (id : Transaction)

def ConnectNetMsg.id : ConnectNetMsg → Transaction
  | .connect msg => msg.id
  | .aborted id => id

/-- The message `acquire_new` hands to the node's own event loop. -/
def FindOptimalPeer.toMsg (req : FindOptimalPeer) : ConnectMsg :=
  .request req.id (.findOptimalPeer req.queryTarget req.idealLocation req.joiner req.maxHopsToLive)

/-- A node as the connect operation uses it: its configuration, ring and
gateways, its op manager's connect operations and completed transactions,
the connections its network bridge opened, the missing candidates it
reported, and whether its event loop has ended. -/
structure ConnectNode where
  cfg : ConnectConfig
  ring : Ring
  gateways : List PeerKeyLocation
  ops : Transaction → Option ConnectOp
  completed : Transaction → Bool
  bridged : List PeerId
  missing : List PeerId
  stopped : Bool

namespace ConnectNode

/-- Where `handle_op_result` sends a message: to its target, if it has one. -/
def outbound : Option ConnectMsg → List (PeerId × ConnectNetMsg)
  | some msg =>
      match msg.target with
      | some t => [(t.peer, .connect msg)]
      | none => []
  | none => []

/-- The context a step starts from. -/
def ctx (n : ConnectNode) : ConnectCtx := ⟨n.ring, [], [], [], []⟩

/-- What a step leaves at its node: its ring, the connections it opened, the
candidates it reported, and the operations `notify_op_change` pushed. -/
def absorb (n : ConnectNode) (c : ConnectCtx) : ConnectNode :=
  { n with
    ring := c.ring
    bridged := n.bridged ++ c.bridged
    missing := n.missing ++ c.missing
    ops := c.aborted.foldl (fun ops op => Function.update ops op.id (some op)) n.ops }

/-- What a step sends: its messages, and `Aborted` to the node's own event
loop for each operation `notify_op_change` handed back. -/
def sentBy (n : ConnectNode) (c : ConnectCtx) : List (PeerId × ConnectNetMsg) :=
  c.sent.map (fun x => (x.1, .connect x.2)) ++ c.aborted.map fun op => (n.cfg.peer, .aborted op.id)

/-- `handle_op_request` of a connect message and `report_result`; `none` is
a panic. -/
def process (n : ConnectNode) (v : ConnectView) (msg : ConnectMsg) :
    Option (ConnectNode × List (PeerId × ConnectNetMsg)) :=
  let id := msg.id
  -- `pop` refuses a completed transaction, and the task returns
  if n.completed id then some (n, [])
  else
    let init := loadOrInit n.cfg n.ring (n.ops id) msg
    let n := { n with ops := Function.update n.ops id none }
    (init.1.processMessage n.cfg v n.ctx msg).map fun r =>
      let out := n.sentBy r.2
      let n := n.absorb r.2
      match r.1 with
      | .error (.op .statePushed) => (n, out)
      -- `handle_op_result` tells the sender; `report_result` marks the transaction completed
      | .error _ =>
          ({ n with completed := Function.update n.completed id true },
            out ++ (init.2.map fun s => (s, ConnectNetMsg.aborted id)).toList)
      | .ok res =>
          match handleOpResult ConnectOp.finalized (.ok res) with
          | .pushed op sent =>
              ({ n with ops := Function.update n.ops ((sent.map ConnectMsg.id).getD op.id) (some op) },
                out ++ outbound sent)
          | .completed _ sent =>
              ({ n with completed := Function.update n.completed id true }, out ++ outbound sent)
          | _ => (n, out)

/-- What `join_ring_request` leaves at the node: the operation pushed, the
connection to the gateway opened and the `StartReq` sent to it; an error
ends the node's event loop (`?`). -/
def afterJoin (n : ConnectNode) (tx : Transaction) :
    Except ConnectError (Option (ConnectOp × PeerKeyLocation × ConnectMsg)) →
      ConnectNode × List (PeerId × ConnectNetMsg)
  | .error _ => ({ n with stopped := true }, [])
  | .ok none => (n, [])
  | .ok (some r) =>
      ({ n with bridged := n.bridged ++ [r.2.1.peer], ops := Function.update n.ops tx (some r.1) },
        [(r.2.1.peer, .connect r.2.2)])

/-- `join_ring_request` through a gateway of `initial_join_procedure`. -/
def join (n : ConnectNode) (gateway : PeerKeyLocation) (tx : Transaction) :
    Option (ConnectNode × List (PeerId × ConnectNetMsg)) :=
  (joinRingRequest n.cfg n.ring none gateway tx).map (n.afterJoin tx)

/-- `handle_aborted_op`: an aborted join the node holds is retried while the
node lacks connections, with its backoff one attempt further; with no
backoff and no connection at all, through the gateway the shuffle picks.
`fresh` is the new transaction. `none` is a panic. -/
def handleAbortedOp (n : ConnectNode) (tx fresh : Transaction) (pick : Nat) :
    Option (ConnectNode × List (PeerId × ConnectNetMsg)) :=
  match tx.transactionType with
  | none => none
  | some .connect =>
      -- `pop` refuses a completed transaction
      if n.completed tx then some (n, [])
      else
        match n.ops tx with
        | none => some (n, [])
        | some op =>
            -- popped, and not pushed back
            let n := { n with ops := Function.update n.ops tx none }
            if op.hasBackoff ∧ n.ring.openConnections.toNat < n.ring.minConnections then
              match op.gateway with
              | none => some (n, [])
              | some gateway => (joinRingRequest n.cfg n.ring op.backoff gateway fresh).map (n.afterJoin fresh)
            else if n.ring.openConnections = 0 then
              match (n.gateways[pick % n.gateways.length]?).filter (·.peer != n.cfg.peer) with
              | none => some (n, [])
              | some gateway => (joinRingRequest n.cfg n.ring none gateway fresh).map (n.afterJoin fresh)
            else some (n, [])
  | some _ => some (n, [])

end ConnectNode

/-- The nodes, and the messages in flight with the peer each goes to. -/
structure ConnectNet where
  nodes : PeerId → ConnectNode
  inFlight : List (PeerId × ConnectNetMsg)

/-- A node joins through a gateway with a new transaction, the maintenance
loop of a node asks for a connection, or a message in flight is delivered
with the view of the ring it meets, the new transaction a retry would take
and the shuffle's pick of a gateway. -/
inductive ConnectEvent
  | join (p : PeerId) (gateway : PeerKeyLocation) (tx : Transaction)
  | acquire (p : PeerId) (req : FindOptimalPeer)
  | deliver (i : Nat) (v : ConnectView) (fresh : Transaction) (pick : Nat)

namespace ConnectNet

/-- One event; `none` is a panic, or a message that is not in flight. A node
whose event loop ended takes no more messages. -/
def step (net : ConnectNet) : ConnectEvent → Option ConnectNet
  | .join p gateway tx =>
      if (net.nodes p).stopped then some net
      else ((net.nodes p).join gateway tx).map fun r =>
        ⟨Function.update net.nodes p r.1, net.inFlight ++ r.2⟩
  | .acquire p req => some ⟨net.nodes, net.inFlight ++ [(p, .connect req.toMsg)]⟩
  | .deliver i v fresh pick =>
      match net.inFlight[i]? with
      | none => none
      | some (p, m) =>
          let rest := net.inFlight.eraseIdx i
          if (net.nodes p).stopped then some ⟨net.nodes, rest⟩
          else
            let r := match m with
              | .connect msg => (net.nodes p).process v msg
              | .aborted id => (net.nodes p).handleAbortedOp id fresh pick
            r.map fun r => ⟨Function.update net.nodes p r.1, rest ++ r.2⟩

/-- A run of events. -/
def run (net : ConnectNet) (es : List ConnectEvent) : Option ConnectNet :=
  es.foldlM step net

@[simp] theorem run_cons (net : ConnectNet) (e : ConnectEvent) (es : List ConnectEvent) :
    net.run (e :: es) = (net.step e).bind fun net' => net'.run es := rfl

@[simp] theorem run_nil (net : ConnectNet) : net.run [] = some net := rfl

/-- A transaction no message in flight and no operation held is of. -/
def Fresh (net : ConnectNet) (tx : Transaction) : Prop :=
  (∀ x ∈ net.inFlight, x.2.id ≠ tx) ∧ ∀ p, (net.nodes p).ops tx = none

end ConnectNet

/-! ### What messages and operations carry -/

section Invariant

variable (J : Transaction → PeerId) (H : Nat)

/-- What a connect message in flight to `d` carries, `J` giving the joiner
of each transaction and `H` bounding the hops to live a join starts with. -/
def GoodMsg (d : PeerId) : ConnectMsg → Prop
  | .request tx (.startReq target joiner _ hopsToLive _) =>
      target.peer = d ∧ joiner ≠ d ∧ hopsToLive ≤ H ∧ joiner = J tx
  | .request tx (.findOptimalPeer queryTarget _ joiner hopsToLive) =>
      queryTarget.peer ≠ joiner.peer ∧ hopsToLive ≤ H ∧ joiner.peer = J tx ∧
        (d ≠ queryTarget.peer → d = joiner.peer)
  | .request tx (.proxy _ joiner hopsToLive skipList acceptedBy) =>
      d ∉ skipList ∧ skipList.Nodup ∧ joiner.peer ∈ skipList ∧
        hopsToLive + skipList.length ≤ H + 2 ∧ joiner.peer = J tx ∧ ∀ a ∈ acceptedBy, a.peer ≠ J tx
  | .request _ .receivedOC => True
  | .response tx _ target (.proxy acceptedBy _) => target.peer = d ∧ ∀ a ∈ acceptedBy, a.peer ≠ J tx
  | .response _ _ target (.acceptedBy _ _ yourPeerId) => target.peer = d ∧ yourPeerId = d
  | .response _ sender target (.receivedOC _ _) => target.peer = d ∧ sender.peer ≠ d
  | .connected _ sender _ => sender.peer ≠ d

/-- What the state of a connect operation node `p` holds for `tx` carries. -/
def GoodState (p : PeerId) (tx : Transaction) : Option ConnectState → Prop
  | some (.awaitingNewConnection _) => p = J tx
  | some (.awaitingProxyResponse _ acceptedBy _ _) => ∀ a ∈ acceptedBy, a.peer ≠ J tx
  | some (.connecting info) => info.gateway.peer ≠ p
  | _ => True

/-- What a connect operation node `p` holds for `tx` carries. -/
structure GoodOp (p : PeerId) (tx : Transaction) (op : ConnectOp) : Prop where
  id : op.id = tx
  state : GoodState J p tx op.state
  gateway : op.hasBackoff = true → ∀ g, op.gateway = some g → g.peer ≠ p

def GoodNetMsg (d : PeerId) : ConnectNetMsg → Prop
  | .connect msg => GoodMsg J H d msg
  | .aborted _ => True

/-- A branch of a step of `tx` at node `d` keeps the invariant: what it sends
and hands back carries what it should, it opens no connection to `d`, and the
state and message it returns carry what they should. -/
def BranchGood (d : PeerId) (tx : Transaction) (c : ConnectCtx) (r : ConnectOutcome × ConnectCtx) :
    Prop :=
  c.Follows (GoodMsg J H) (· ≠ d) (fun op => GoodOp J d op.id op) r.2 ∧
    ∀ s m, r.1 = .ok (s, m) → GoodState J d tx s ∧
      ∀ msg ∈ m, msg.id = tx ∧ ∀ t, msg.target = some t → GoodMsg J H t.peer msg

end Invariant

/-! ### Each branch keeps the invariant -/

section Branches

open ConnectCtx

variable {J : Transaction → PeerId} {H : Nat} {cfg : ConnectConfig} {v : ConnectView}
  {c : ConnectCtx} {r : ConnectOutcome × ConnectCtx} {id : Transaction}

theorem branchGood_error {d : PeerId} {c' : ConnectCtx} {e : ConnectError}
    (hc : c.Follows (GoodMsg J H) (· ≠ d) (fun op => GoodOp J d op.id op) c') :
    BranchGood J H d id c (.error e, c') :=
  ⟨hc, fun _ _ h => by cases h⟩

theorem branchGood_ok {d : PeerId} {c' : ConnectCtx} {s : Option ConnectState}
    {m : Option ConnectMsg}
    (hc : c.Follows (GoodMsg J H) (· ≠ d) (fun op => GoodOp J d op.id op) c')
    (hs : GoodState J d id s)
    (hm : ∀ msg ∈ m, msg.id = id ∧ ∀ t, msg.target = some t → GoodMsg J H t.peer msg) :
    BranchGood J H d id c (.ok (s, m), c') := by
  refine ⟨hc, fun s' m' h => ?_⟩
  simp only [Except.ok.injEq, Prod.mk.injEq] at h
  obtain ⟨rfl, rfl⟩ := h
  exact ⟨hs, hm⟩

/-- A step that has or has not opened its connection. -/
theorem goodState_ite_ocReceived {d : PeerId} (P : Prop) [Decidable P] :
    GoodState J d id (if P then some .ocReceived else none) := by
  split <;> trivial

/-- The acceptances a hop passes on hold no joiner when it is not the joiner
itself. -/
theorem acceptedBy_insert_good (b : Bool) {acc : List PeerKeyLocation} {own : PeerKeyLocation}
    (hacc : ∀ a ∈ acc, a.peer ≠ J id) (hown : own.peer ≠ J id) :
    ∀ a ∈ (if b then acc.insert own else acc), a.peer ≠ J id := by
  intro a ha
  split_ifs at ha
  · rcases List.mem_insert_iff.mp ha with rfl | ha
    · exact hown
    · exact hacc a ha
  · exact hacc a ha

theorem awaitProxies_good {d : PeerId} {t : PeerKeyLocation} {acc : List PeerKeyLocation}
    {l : Location} {j : PeerId} {o : ConnectOutcome} (hacc : ∀ a ∈ acc, a.peer ≠ J id)
    (h : awaitProxies (.awaitingProxyResponse t acc l j) acc = o) :
    ∀ s m, o = .ok (s, m) → GoodState J d id s ∧ m = none := by
  intro s m ho
  subst h
  simp only [awaitProxies, ConnectState.addNewProxy, Except.map, Except.ok.injEq,
    Prod.mk.injEq] at ho
  obtain ⟨rfl, rfl⟩ := ho
  refine ⟨fun a ha => ?_, rfl⟩
  rcases mem_extendPeers.mp ha with ha | ha <;> exact hacc a ha

/-- `FindOptimalPeer`: the query target starts a proxy chain with itself and
the joiner as skip list; the joiner waits, being the joiner. -/
theorem handleFindOptimalPeer_good (hv : v.Avoids cfg.peer) {q j : PeerKeyLocation} {l : Location}
    {h : Nat} (hmsg : GoodMsg J H cfg.peer (.request id (.findOptimalPeer q l j h)))
    (hr : handleFindOptimalPeer cfg v c id q l j h = some r) : BranchGood J H cfg.peer id c r := by
  obtain ⟨hqj, hh, hj, hd⟩ := hmsg
  simp only [handleFindOptimalPeer, ConnectCtx.ownLocation] at hr
  cases hloc : c.ring.ownLocation with
  | none =>
      simp only [hloc, Option.some.injEq] at hr
      subst hr
      exact branchGood_error (Follows.refl c)
  | some loc =>
    simp only [hloc] at hr
    split_ifs at hr with hq hdbg
    · -- at the query target
      obtain ⟨f, hf, rfl⟩ := Option.map_eq_some_iff.mp hr
      cases f with
      | some f =>
          obtain ⟨hfj, hfd⟩ := hv.closest _ _ _ hf
          refine branchGood_ok (follows_send ?_) trivial (by simp)
          refine ⟨?_, ?_, by simp, by simp; omega, hj, by simp⟩
          · simp only [List.mem_cons, List.not_mem_nil, or_false, not_or]
            exact ⟨hfd, by simpa using hfj⟩
          · simp only [List.nodup_cons, List.mem_cons, List.not_mem_nil, or_false, not_false_eq_true,
              List.nodup_nil, and_true]
            rw [hq]
            exact hqj
      | none =>
          refine branchGood_ok (Follows.refl c) trivial ?_
          simp only [Option.mem_def, Option.some.injEq, forall_eq']
          exact ⟨rfl, fun t ht => by
            simp only [ConnectMsg.target, Option.some.injEq] at ht
            subst ht
            exact ⟨rfl, by simp⟩⟩
    · -- at the joiner, which waits for the query target's answer
      cases hr
      exact branchGood_ok (follows_send ⟨hqj, hh, hj, fun h => absurd rfl h⟩)
        ((hd hq).trans hj) (by simp)

/-- `StartReq`: the gateway, the message's target, accepts with itself and
passes the request on with itself and the joiner as skip list, or answers
the joiner. -/
theorem handleStartReq_good (hv : v.Avoids cfg.peer) {t : PeerKeyLocation} {j : PeerId} {h mh : Nat}
    {a : Option Location} (hmsg : GoodMsg J H cfg.peer (.request id (.startReq t j a h mh)))
    (hr : handleStartReq cfg v c id t j h a = some r) : BranchGood J H cfg.peer id c r := by
  obtain ⟨ht, hj, hh, hjJ⟩ := hmsg
  simp only [handleStartReq] at hr
  obtain ⟨acc, hacc, hr⟩ := Option.bind_eq_some_iff.mp hr
  have hfa : c.Follows (GoodMsg J H) (· ≠ cfg.peer) (fun op => GoodOp J cfg.peer op.id op) acc.1 :=
    follows_of_shouldAccept hacc
  -- the gateway that accepts is not the joiner
  have hgood : ∀ x ∈ (if acc.2 then [t] else []), x.peer ≠ J id := by
    intro x hx
    split_ifs at hx
    · rw [List.mem_singleton.mp hx, ht, ← hjJ]
      exact hj.symm
    · cases hx
  obtain ⟨f, hf, rfl⟩ := Option.map_eq_some_iff.mp hr
  rcases forwardConn_spec hv hf with rfl | ⟨g, l, hpos, hl, hg, -, rfl⟩
  · -- no peer to pass it on to: the joiner is answered
    refine branchGood_ok hfa (by split <;> trivial) ?_
    simp only [Option.mem_def, Option.some.injEq, forall_eq']
    exact ⟨rfl, fun t' ht' => by
      simp only [ConnectMsg.target, Option.some.injEq] at ht'
      subst ht'
      exact ⟨rfl, rfl⟩⟩
  · refine ⟨hfa.trans (follows_send ⟨hg, ?_, by simp, by simp; omega, hjJ, hgood⟩), ?_⟩
    · simp only [List.nodup_cons, List.mem_cons, List.not_mem_nil, or_false, not_false_eq_true,
        List.nodup_nil, and_true]
      rw [ht]
      exact hj.symm
    · intro s m ho
      obtain ⟨hs, rfl⟩ := awaitProxies_good hgood rfl s m ho
      exact ⟨hs, by simp⟩

/-- `Proxy`: a hop off the skip list, and so not the joiner, accepts with
itself, joins the skip list and passes the request on with one hop less, or
answers back. -/
theorem handleProxyRequest_good (hv : v.Avoids cfg.peer) {self : ConnectOp} {s j : PeerKeyLocation}
    {h : Nat} {skip : List PeerId} {acc : List PeerKeyLocation}
    (hmsg : GoodMsg J H cfg.peer (.request id (.proxy s j h skip acc)))
    (hr : handleProxyRequest cfg v c self id s j h skip acc = some r) :
    BranchGood J H cfg.peer id c r := by
  obtain ⟨hd, hnodup, hjs, hbound, hjJ, hacc⟩ := hmsg
  simp only [handleProxyRequest] at hr
  cases hl : j.location with
  | none =>
      simp only [hl, Option.some.injEq] at hr
      subst hr
      exact branchGood_error (Follows.refl c)
  | some jl =>
    simp only [hl] at hr
    obtain ⟨a, ha, hr⟩ := Option.bind_eq_some_iff.mp hr
    have hfa : c.Follows (GoodMsg J H) (· ≠ cfg.peer) (fun op => GoodOp J cfg.peer op.id op) a.1 :=
      follows_of_shouldAccept ha
    -- the hop is off the skip list, where the joiner is
    have hown : (c.ownLocation cfg).peer ≠ J id := by
      rw [ConnectCtx.ownLocation_peer, ← hjJ]
      exact fun e => hd (e ▸ hjs)
    have hgood := acceptedBy_insert_good a.2 hacc hown
    obtain ⟨f, hf, rfl⟩ := Option.map_eq_some_iff.mp hr
    rcases forwardConn_spec hv hf with rfl | ⟨g, l, hpos, -, hg, -, rfl⟩
    · -- the last hop answers back, if it was a new operation
      cases hs : self.state with
      | some st =>
          cases st with
          | initializing =>
              refine branchGood_ok hfa ?_ ?_
              · exact goodState_ite_ocReceived _
              simp only [Option.mem_def, Option.some.injEq, forall_eq']
              exact ⟨rfl, fun t' ht' => by
                simp only [ConnectMsg.target, Option.some.injEq] at ht'
                subst ht'
                exact ⟨rfl, hgood⟩⟩
          | _ => exact branchGood_error hfa
      | none => exact branchGood_error hfa
    · refine ⟨hfa.trans (follows_send ⟨hg, ?_, by simp [hjs], by simp; omega, hjJ, hgood⟩), ?_⟩
      · rw [ConnectCtx.ownLocation_peer]
        exact List.nodup_append.mpr ⟨hnodup, List.nodup_singleton _,
          fun x hx y hy e => hd (by rw [List.mem_singleton.mp hy] at e; exact e ▸ hx)⟩
      · intro s m ho
        obtain ⟨hs, rfl⟩ := awaitProxies_good hgood rfl s m ho
        exact ⟨hs, by simp⟩

/-- `AcceptedBy`: the joiner, the message's target, tells the gateway and
the other peers that accepted it, none of them itself, and opens connections
to them; with none, it hands its operation back. -/
theorem handleAcceptedBy_good {self : ConnectOp} {s t : PeerKeyLocation} {acc : List PeerKeyLocation}
    {l : Location} {y : PeerId} (hmsg : GoodMsg J H cfg.peer (.response id s t (.acceptedBy acc l y)))
    (hstate : GoodState J cfg.peer id self.state)
    (hgw : self.hasBackoff = true → ∀ g, self.gateway = some g → g.peer ≠ cfg.peer)
    (hr : handleAcceptedBy v c self id t acc l y = some r) : BranchGood J H cfg.peer id c r := by
  obtain ⟨ht, hy⟩ := hmsg
  simp only [handleAcceptedBy] at hr
  cases hs : self.state with
  | none =>
      simp only [hs, Option.some.injEq] at hr
      subst hr
      exact branchGood_error (Follows.refl c)
  | some st =>
    cases st with
    | connecting info =>
        simp only [hs] at hr hstate
        by_cases hne : (!acc.isEmpty) = true
        · rw [if_pos hne] at hr
          obtain ⟨c', hc', rfl⟩ := Option.map_eq_some_iff.mp hr
          -- the peers told are the ones that accepted, but the joiner
          have hprop : (c.updateLocation l).Follows (GoodMsg J H) (· ≠ cfg.peer)
              (fun op => GoodOp J cfg.peer op.id op) c' := by
            refine propagateAll_follows hc' fun p hp => ?_
            have hpt : p.peer ≠ cfg.peer := by
              rw [← ht]
              simpa using (List.mem_filter.mp hp).2
            exact ⟨fun _ => ⟨rfl, by rw [hy]; exact hpt.symm⟩, hpt⟩
          refine branchGood_ok ((follows_updateLocation l).trans hprop) trivial ?_
          split_ifs
          · simp only [Option.mem_def, Option.some.injEq, forall_eq']
            exact ⟨rfl, fun t' ht' => by
              simp only [ConnectMsg.target, Option.some.injEq] at ht'
              subst ht'
              exact ⟨rfl, by rw [hy]; exact hstate.symm⟩⟩
          · simp
        · rw [if_neg hne, Option.some.injEq] at hr
          subst hr
          exact branchGood_error (follows_abort ⟨rfl, trivial, hgw⟩)
    | _ =>
        simp only [hs, Option.some.injEq] at hr
        subst hr
        exact branchGood_error (Follows.refl c)

/-- `Proxy` answer: passed back to the hop before with the acceptances
joined, or handed to the joiner of a `FindOptimalPeer`; at that joiner, the
message's target, the peers that accepted it are told and connected to. -/
theorem handleProxyResponse_good {self : ConnectOp} {s t : PeerKeyLocation}
    {acc : List PeerKeyLocation} {j : PeerId}
    (hmsg : GoodMsg J H cfg.peer (.response id s t (.proxy acc j)))
    (hstate : GoodState J cfg.peer id self.state)
    (hr : handleProxyResponse cfg v c self id s t acc j = some r) : BranchGood J H cfg.peer id c r := by
  obtain ⟨ht, hacc⟩ := hmsg
  simp only [handleProxyResponse] at hr
  cases hs : self.state with
  | none =>
      simp only [hs, Option.some.injEq] at hr
      subst hr
      exact branchGood_error (Follows.refl c)
  | some st =>
    cases st with
    | awaitingProxyResponse ot prev nl np =>
        simp only [hs, Option.some.injEq] at hr hstate
        subst hr
        have hprev : ∀ a ∈ extendPeers prev acc, a.peer ≠ J id := fun a ha =>
          (mem_extendPeers.mp ha).elim (hstate a) (hacc a)
        refine branchGood_ok (Follows.refl c) (goodState_ite_ocReceived _) ?_
        simp only [Option.mem_def, Option.some.injEq, forall_eq']
        split_ifs with hnp
        · exact ⟨rfl, fun t' ht' => by
            simp only [ConnectMsg.target, Option.some.injEq] at ht'
            subst ht'
            exact ⟨rfl, hnp⟩⟩
        · exact ⟨rfl, fun t' ht' => by
            simp only [ConnectMsg.target, Option.some.injEq] at ht'
            subst ht'
            exact ⟨rfl, hprev⟩⟩
    | awaitingConnectionAcquisition jj =>
        simp only [hs, Option.some.injEq] at hr
        subst hr
        refine branchGood_ok (Follows.refl c) trivial ?_
        simp only [Option.mem_def, Option.some.injEq, forall_eq']
        exact ⟨rfl, fun t' ht' => by
          simp only [ConnectMsg.target, Option.some.injEq] at ht'
          subst ht'
          exact ⟨rfl, hacc⟩⟩
    | awaitingNewConnection q =>
        simp only [hs] at hr hstate
        split_ifs at hr
        · simp only [Option.some.injEq] at hr
          subst hr
          exact branchGood_ok (follows_missing _) trivial (by simp)
        · obtain ⟨r', hr', rfl⟩ := Option.map_eq_some_iff.mp hr
          -- the joiner is this node, and no peer that accepted it
          have hprop : c.Follows (GoodMsg J H) (· ≠ cfg.peer) (fun op => GoodOp J cfg.peer op.id op)
              r'.2 := by
            refine propagateEach_follows hr' fun p hp => ⟨fun _ => ⟨rfl, fun e => ?_⟩, fun e => ?_⟩
            · exact hacc p hp (by rw [← e, ht, hstate])
            · exact hacc p hp (by rw [e, hstate])
          refine ⟨hprop, fun s' m' ho => ?_⟩
          cases h1 : r'.1 with
          | error e => simp [h1, Except.map] at ho
          | ok u =>
              simp only [h1, Except.map, Except.ok.injEq, Prod.mk.injEq] at ho
              obtain ⟨rfl, rfl⟩ := ho
              exact ⟨trivial, by simp⟩
    | _ =>
        simp only [hs, Option.some.injEq] at hr
        subst hr
        exact branchGood_error (Follows.refl c)

/-- `ReceivedOC`: a peer that accepted opens the connection to the joiner,
which is not itself, and the gateway answers with `Connected`. -/
theorem handleReceivedOC_good {self : ConnectOp} {s t b g : PeerKeyLocation}
    (hmsg : GoodMsg J H cfg.peer (.response id s t (.receivedOC b g)))
    (hr : handleReceivedOC c self id s t g = some r) : BranchGood J H cfg.peer id c r := by
  obtain ⟨ht, hs⟩ := hmsg
  simp only [handleReceivedOC] at hr
  cases hst : self.state with
  | none =>
      simp only [hst, Option.some.injEq] at hr
      subst hr
      exact branchGood_error (Follows.refl c)
  | some st =>
    cases st with
    | ocReceived =>
        simp only [hst] at hr
        cases hl : s.location with
        | none =>
            simp only [hl, Option.some.injEq] at hr
            subst hr
            exact branchGood_error (follows_addBridge _)
        | some loc =>
            simp only [hl, Option.some.injEq] at hr
            subst hr
            refine branchGood_ok ((follows_addBridge _).trans (follows_addConnection loc hs)) ?_ ?_
            · split_ifs <;> trivial
            · split_ifs
              · simp only [Option.mem_def, Option.some.injEq, forall_eq']
                exact ⟨rfl, fun t' ht' => by
                  simp only [ConnectMsg.target, Option.some.injEq] at ht'
                  subst ht'
                  show t.peer ≠ s.peer
                  rw [ht]
                  exact hs.symm⟩
              · simp
    | _ =>
        simp only [hst, Option.some.injEq] at hr
        subst hr
        exact branchGood_error (Follows.refl c)

/-- `Connected`: the joiner opens the connection to the gateway, which is
not itself. -/
theorem handleConnected_good {self : ConnectOp} {s t : PeerKeyLocation}
    (hmsg : GoodMsg J H cfg.peer (.connected id s t))
    (hr : handleConnected c self s = some r) : BranchGood J H cfg.peer id c r := by
  simp only [handleConnected] at hr
  cases hst : self.state with
  | none =>
      simp only [hst, Option.some.injEq] at hr
      subst hr
      exact branchGood_error (Follows.refl c)
  | some st =>
    cases st with
    | ocReceived =>
        simp only [hst] at hr
        cases hl : s.location with
        | none =>
            simp only [hl, Option.some.injEq] at hr
            subst hr
            exact branchGood_error (follows_addBridge _)
        | some loc =>
            simp only [hl, Option.some.injEq] at hr
            subst hr
            exact branchGood_ok ((follows_addBridge _).trans (follows_addConnection loc hmsg))
              trivial (by simp)
    | _ =>
        simp only [hst, Option.some.injEq] at hr
        subst hr
        exact branchGood_error (Follows.refl c)

/-- A step of `process_message` at a node keeps the invariant: what it
sends and hands back carries what it should, it opens no connection to the
node, and the message and operation it returns carry what they should. -/
theorem processMessage_good (hv : v.Avoids cfg.peer) {self : ConnectOp} {msg : ConnectMsg}
    (hmsg : GoodMsg J H cfg.peer msg) (hself : GoodOp J cfg.peer msg.id self)
    {res : Except ConnectError (OperationResult ConnectMsg ConnectOp)} {c' : ConnectCtx}
    (h : self.processMessage cfg v c msg = some (res, c')) :
    c.Follows (GoodMsg J H) (· ≠ cfg.peer) (fun op => GoodOp J cfg.peer op.id op) c' ∧
      ∀ r, res = .ok r →
        (∀ m ∈ r.returnMsg, m.id = msg.id ∧ ∀ t, m.target = some t → GoodMsg J H t.peer m) ∧
          ∀ op ∈ r.state, GoodOp J cfg.peer msg.id op := by
  unfold ConnectOp.processMessage at h
  obtain ⟨o, ho, he⟩ := Option.map_eq_some_iff.mp h
  simp only [Prod.mk.injEq] at he
  obtain ⟨rfl, rfl⟩ := he
  -- the branch the message takes keeps the invariant
  have hb : BranchGood J H cfg.peer msg.id c o := by
    cases msg with
    | request id rq =>
        cases rq with
        | startReq => exact handleStartReq_good hv hmsg ho
        | findOptimalPeer => exact handleFindOptimalPeer_good hv hmsg ho
        | proxy => exact handleProxyRequest_good hv hmsg ho
        | receivedOC =>
            cases ho
            exact branchGood_error (Follows.refl c)
    | response id s t rs =>
        cases rs with
        | acceptedBy => exact handleAcceptedBy_good hmsg hself.state hself.gateway ho
        | receivedOC => exact handleReceivedOC_good hmsg ho
        | proxy => exact handleProxyResponse_good hmsg hself.state ho
    | connected id s t => exact handleConnected_good hmsg ho
  refine ⟨hb.1, fun r hr => ?_⟩
  cases ho1 : o.1 with
  | error e => simp [ho1, Except.map] at hr
  | ok sm =>
      simp only [ho1, Except.map, Except.ok.injEq] at hr
      subst hr
      obtain ⟨hs, hm⟩ := hb.2 sm.1 sm.2 (by rw [ho1])
      refine ⟨hm, ?_⟩
      simp only [Connect.buildOpResult, Option.mem_def, Option.some.injEq, forall_eq']
      exact ⟨hself.id, hs, hself.gateway⟩

end Branches

/-! ### Each node keeps the invariant -/

/-- What a node carries: it is its own peer, it has no connection to itself,
and each operation it holds carries what it should. -/
structure NodeGood (J : Transaction → PeerId) (p : PeerId) (n : ConnectNode) : Prop where
  peer : n.cfg.peer = p
  noSelf : n.ring.locationForPeer p = none
  ops : ∀ tx op, n.ops tx = some op → GoodOp J p tx op

section Nodes

open ConnectCtx

variable {J : Transaction → PeerId} {H : Nat} {p : PeerId} {n n' : ConnectNode}
  {out : List (PeerId × ConnectNetMsg)}

/-- Putting a good operation at its transaction, or taking one out, keeps a
node's operations good. -/
theorem NodeGood.update (hn : NodeGood J p n) {tx : Transaction} {op : Option ConnectOp}
    (hop : ∀ o ∈ op, GoodOp J p tx o) : NodeGood J p { n with ops := Function.update n.ops tx op } where
  peer := hn.peer
  noSelf := hn.noSelf
  ops tx' o h := by
    by_cases e : tx' = tx
    · subst e
      simp only [Function.update_self] at h
      exact hop o h
    · simp only [Function.update_of_ne e] at h
      exact hn.ops tx' o h

theorem NodeGood.foldl_update (hn : NodeGood J p n) {ops : List ConnectOp}
    (hops : ∀ o ∈ ops, GoodOp J p o.id o) :
    NodeGood J p { n with ops := ops.foldl (fun m o => Function.update m o.id (some o)) n.ops } := by
  induction ops generalizing n with
  | nil => exact hn
  | cons o ops ih =>
      have h1 : NodeGood J p { n with ops := Function.update n.ops o.id (some o) } :=
        hn.update fun o' ho' => by
          cases ho'
          exact hops o List.mem_cons_self
      exact ih h1 fun o' ho' => hops o' (List.mem_cons_of_mem o ho')

/-- A node whose configuration, ring and operations are those of a good node
is good. -/
theorem NodeGood.of_eq (hn : NodeGood J p n) (hcfg : n'.cfg = n.cfg) (hring : n'.ring = n.ring)
    (hops : n'.ops = n.ops) : NodeGood J p n' :=
  ⟨hcfg ▸ hn.peer, hring ▸ hn.noSelf, hops ▸ hn.ops⟩

/-- The sends of a step that keeps the invariant are good. -/
theorem sentBy_good {c : ConnectCtx}
    (hc : n.ctx.Follows (GoodMsg J H) (· ≠ p) (fun op => GoodOp J p op.id op) c) :
    ∀ x ∈ n.sentBy c, GoodNetMsg J H x.1 x.2 := by
  obtain ⟨new, hnew, hgood⟩ := hc.sent
  intro x hx
  rcases List.mem_append.mp hx with hx | hx
  · obtain ⟨y, hy, rfl⟩ := List.mem_map.mp hx
    rw [hnew] at hy
    exact hgood y (by simpa [ConnectNode.ctx] using hy)
  · obtain ⟨y, -, rfl⟩ := List.mem_map.mp hx
    trivial

theorem outbound_good {m : Option ConnectMsg}
    (hm : ∀ msg ∈ m, ∀ t, msg.target = some t → GoodMsg J H t.peer msg) :
    ∀ x ∈ ConnectNode.outbound m, GoodNetMsg J H x.1 x.2 := by
  intro x hx
  cases m with
  | none => cases hx
  | some msg =>
      simp only [ConnectNode.outbound] at hx
      split at hx
      · rename_i t ht
        rw [List.mem_singleton.mp hx]
        exact hm msg rfl t ht
      · cases hx

/-- What a step leaves at its node keeps the node good. -/
theorem NodeGood.absorb (hn : NodeGood J p n) {c : ConnectCtx}
    (hc : n.ctx.Follows (GoodMsg J H) (· ≠ p) (fun op => GoodOp J p op.id op) c) :
    NodeGood J p (n.absorb c) := by
  obtain ⟨new, hnew, hgood⟩ := hc.aborted
  have hfold : NodeGood J p
      { n with ops := c.aborted.foldl (fun m o => Function.update m o.id (some o)) n.ops } :=
    hn.foldl_update fun o ho => hgood o (by simpa [hnew, ConnectNode.ctx] using ho)
  have hops := hfold.ops
  refine ⟨hn.peer, ?_, hops⟩
  -- the step opened no connection to the node itself
  by_contra hne
  exact hc.ring p (by simpa [ConnectNode.ctx, ConnectNode.absorb, hn.noSelf] using hne) rfl

theorem handleOpResult_ok_pushed {r : OperationResult ConnectMsg ConnectOp} {op : ConnectOp}
    {sent : Option ConnectMsg}
    (h : handleOpResult ConnectOp.finalized (.ok r) = .pushed op sent) : r = ⟨sent, some op⟩ := by
  obtain ⟨m, s⟩ := r
  cases m <;> cases s <;> simp only [handleOpResult, reduceCtorEq] at h
  · split at h <;> cases h
    rfl
  · cases h
    rfl

theorem handleOpResult_ok_completed {r : OperationResult ConnectMsg ConnectOp}
    {final : Option ConnectOp} {sent : Option ConnectMsg}
    (h : handleOpResult ConnectOp.finalized (.ok r) = .completed final sent) : r.returnMsg = sent := by
  obtain ⟨m, s⟩ := r
  cases m <;> cases s
  · simp only [handleOpResult, Handled.completed.injEq] at h
    exact h.2
  · simp only [handleOpResult] at h
    split at h
    · simp only [Handled.completed.injEq] at h
      exact h.2
    · cases h
  · simp only [handleOpResult, Handled.completed.injEq] at h
    exact h.2
  · simp [handleOpResult] at h

/-- Delivering a good message to a good node keeps the node good and sends
only good messages. -/
theorem process_good (hn : NodeGood J p n) {v : ConnectView} (hv : v.Avoids p) {msg : ConnectMsg}
    (hmsg : GoodMsg J H p msg) (h : n.process v msg = some (n', out)) :
    NodeGood J p n' ∧ n'.cfg = n.cfg ∧ ∀ x ∈ out, GoodNetMsg J H x.1 x.2 := by
  simp only [ConnectNode.process] at h
  split_ifs at h with hc
  · cases h
    exact ⟨hn, rfl, by simp⟩
  · obtain ⟨r, hr, he⟩ := Option.map_eq_some_iff.mp h
    -- the operation the step starts from
    have hinit : GoodOp J p msg.id (loadOrInit n.cfg n.ring (n.ops msg.id) msg).1 := by
      cases hop : n.ops msg.id with
      | some op => exact hn.ops _ op hop
      | none => exact ⟨rfl, trivial, by simp [loadOrInit, ConnectOp.hasBackoff]⟩
    set n₁ : ConnectNode := { n with ops := Function.update n.ops msg.id none }
    have hn₁ : NodeGood J p n₁ := hn.update (by simp)
    have hpeer : n₁.cfg.peer = p := hn.peer
    rw [← hpeer] at hv hmsg hinit
    obtain ⟨hf, hres⟩ := processMessage_good hv hmsg hinit hr
    rw [hpeer] at hf hres
    have h₀ : NodeGood J p (n₁.absorb r.2) := hn₁.absorb hf
    have hout₀ := sentBy_good hf
    -- what `handle_op_result` and `report_result` do with the result
    split at he
    · cases he
      exact ⟨h₀, rfl, hout₀⟩
    · cases he
      refine ⟨⟨h₀.peer, h₀.noSelf, h₀.ops⟩, rfl, fun x hx => ?_⟩
      rcases List.mem_append.mp hx with hx | hx
      · exact hout₀ x hx
      · obtain ⟨s, -, rfl⟩ : ∃ s, _ ∧ (s, ConnectNetMsg.aborted msg.id) = x := by
          simpa using hx
        trivial
    · rename_i res hres1
      obtain ⟨hmsgs, hops⟩ := hres res hres1
      split at he
      · rename_i op sent hpush
        cases he
        have hr' := handleOpResult_ok_pushed hpush
        subst hr'
        -- the operation goes back under the transaction of the step
        have hkey : (sent.map ConnectMsg.id).getD op.id = msg.id := by
          cases sent with
          | none => exact (hops op rfl).id
          | some m => exact (hmsgs m rfl).1
        rw [hkey]
        refine ⟨h₀.update fun o ho => ?_, rfl, fun x hx => ?_⟩
        · cases ho
          exact hops op rfl
        · rcases List.mem_append.mp hx with hx | hx
          · exact hout₀ x hx
          · exact outbound_good (fun m hm t ht => (hmsgs m hm).2 t ht) x hx
      · rename_i final sent hcomp
        cases he
        have hsent := handleOpResult_ok_completed hcomp
        subst hsent
        refine ⟨⟨h₀.peer, h₀.noSelf, h₀.ops⟩, rfl, fun x hx => ?_⟩
        rcases List.mem_append.mp hx with hx | hx
        · exact hout₀ x hx
        · exact outbound_good (fun m hm t ht => (hmsgs m hm).2 t ht) x hx
      · cases he
        exact ⟨h₀, rfl, hout₀⟩

/-! ### A new transaction -/

theorem GoodMsg.update_joiner {d q : PeerId} {tx : Transaction} {m : ConnectMsg}
    (h : GoodMsg J H d m) (hne : m.id ≠ tx) : GoodMsg (Function.update J tx q) H d m := by
  cases m with
  | request id rq =>
      have e : Function.update J tx q id = J id := Function.update_of_ne hne q J
      cases rq <;> first | trivial | simpa only [GoodMsg, e] using h
  | response id s t rs =>
      have e : Function.update J tx q id = J id := Function.update_of_ne hne q J
      cases rs <;> first | exact h | simpa only [GoodMsg, e] using h
  | connected => exact h

theorem GoodNetMsg.update_joiner {d q : PeerId} {tx : Transaction} {m : ConnectNetMsg}
    (h : GoodNetMsg J H d m) (hne : m.id ≠ tx) : GoodNetMsg (Function.update J tx q) H d m := by
  cases m with
  | connect msg => exact GoodMsg.update_joiner (J := J) h hne
  | aborted => trivial

theorem GoodOp.update_joiner {q : PeerId} {tx tx' : Transaction} {op : ConnectOp}
    (h : GoodOp J p tx' op) (hne : tx' ≠ tx) : GoodOp (Function.update J tx q) p tx' op := by
  have e : Function.update J tx q tx' = J tx' := Function.update_of_ne hne q J
  refine ⟨h.id, ?_, h.gateway⟩
  have hs := h.state
  cases hst : op.state with
  | none => trivial
  | some st =>
      rw [hst] at hs
      cases st <;> first | trivial | simpa only [GoodState, e] using hs

/-- A transaction a node holds nothing of may be given any joiner. -/
theorem NodeGood.update_joiner (hn : NodeGood J p n) {q : PeerId} {tx : Transaction}
    (hfresh : n.ops tx = none) : NodeGood (Function.update J tx q) p n where
  peer := hn.peer
  noSelf := hn.noSelf
  ops tx' op h := (hn.ops tx' op h).update_joiner fun e => by
    subst e
    rw [hfresh] at h
    cases h

/-- A join through a gateway other than the node keeps the node good, with
the node as the joiner of the join's transaction. -/
theorem afterJoin_good (hn : NodeGood J p n) (hh : n.cfg.maxHopsToLive ≤ H) {tx : Transaction}
    {gateway : PeerKeyLocation} {b : Option ExponentialBackoff}
    {res : Except ConnectError (Option (ConnectOp × PeerKeyLocation × ConnectMsg))}
    (hgw : gateway.peer ≠ p) (hfresh : n.ops tx = none)
    (hj : joinRingRequest n.cfg n.ring b gateway tx = some res) :
    NodeGood (Function.update J tx p) p (n.afterJoin tx res).1 ∧
      (n.afterJoin tx res).1.cfg = n.cfg ∧
      ∀ x ∈ (n.afterJoin tx res).2, GoodNetMsg (Function.update J tx p) H x.1 x.2 := by
  have hn' : NodeGood (Function.update J tx p) p n := hn.update_joiner hfresh
  cases res with
  | error e => exact ⟨hn'.of_eq rfl rfl rfl, rfl, by simp [ConnectNode.afterJoin]⟩
  | ok r =>
      cases r with
      | none => exact ⟨hn', rfl, by simp [ConnectNode.afterJoin]⟩
      | some r =>
          obtain ⟨hid, hst, hgwy, hto, hm⟩ := joinRingRequest_eq_ok hj
          have hpeer := hn.peer
          refine ⟨?_, rfl, ?_⟩
          · have hup : NodeGood (Function.update J tx p) p
                { n with ops := Function.update n.ops tx (some r.1) } := hn'.update fun o ho => by
              cases ho
              refine ⟨hid, by rw [hst]; exact hpeer ▸ hgw, fun _ g hg => ?_⟩
              rw [hgwy, Option.some.injEq] at hg
              exact hg ▸ hgw
            exact hup.of_eq rfl rfl rfl
          · intro x hx
            simp only [ConnectNode.afterJoin, List.mem_singleton] at hx
            subst hx
            rw [hto, hm]
            exact ⟨rfl, hpeer ▸ hgw.symm, hh, by simp [hpeer]⟩

/-- `handle_aborted_op` keeps the node good, with the node as the joiner of
the transaction a retry takes. -/
theorem handleAbortedOp_good (hn : NodeGood J p n) (hh : n.cfg.maxHopsToLive ≤ H)
    {tx fresh : Transaction} {pick : Nat} (hfresh : n.ops fresh = none)
    (h : n.handleAbortedOp tx fresh pick = some (n', out)) :
    NodeGood (Function.update J fresh p) p n' ∧ n'.cfg = n.cfg ∧
      ∀ x ∈ out, GoodNetMsg (Function.update J fresh p) H x.1 x.2 := by
  have hn' : NodeGood (Function.update J fresh p) p n := hn.update_joiner hfresh
  unfold ConnectNode.handleAbortedOp at h
  split at h
  · cases h
  · split_ifs at h with hc
    · cases h
      exact ⟨hn', rfl, by simp⟩
    · split at h
      · cases h
        exact ⟨hn', rfl, by simp⟩
      · rename_i op hop
        -- the aborted operation is popped for good
        set n₁ : ConnectNode := { n with ops := Function.update n.ops tx none }
        have hn₁ : NodeGood J p n₁ := hn.update (by simp)
        have hfresh₁ : n₁.ops fresh = none := by
          by_cases e : fresh = tx
          · simp [n₁, e]
          · simp [n₁, Function.update_of_ne e, hfresh]
        have hn₁' : NodeGood (Function.update J fresh p) p n₁ := hn₁.update_joiner hfresh₁
        dsimp only at h
        split_ifs at h with hb hz
        · split at h
          · obtain ⟨rfl, rfl⟩ := Prod.mk.inj (Option.some.inj h)
            exact ⟨hn₁', rfl, by simp⟩
          · rename_i gateway hgw
            obtain ⟨res, hres, he⟩ := Option.map_eq_some_iff.mp h
            -- the gateway of a join with a backoff is another node
            have hne : gateway.peer ≠ p := (hn.ops tx op hop).gateway hb.1 gateway hgw
            have hgood := afterJoin_good hn₁ hh hne hfresh₁ hres
            rw [he] at hgood
            exact hgood
        · split at h
          · obtain ⟨rfl, rfl⟩ := Prod.mk.inj (Option.some.inj h)
            exact ⟨hn₁', rfl, by simp⟩
          · rename_i gateway hpick
            obtain ⟨res, hres, he⟩ := Option.map_eq_some_iff.mp h
            -- the gateway picked is filtered to another node
            have hne : gateway.peer ≠ p := by
              obtain ⟨-, hf⟩ := Option.filter_eq_some_iff.mp hpick
              rw [← hn.peer]
              simpa using hf
            have hgood := afterJoin_good hn₁ hh hne hfresh₁ hres
            rw [he] at hgood
            exact hgood
        · obtain ⟨rfl, rfl⟩ := Prod.mk.inj (Option.some.inj h)
          exact ⟨hn₁', rfl, by simp⟩
  · cases h
    exact ⟨hn', rfl, by simp⟩

end Nodes

/-! ### The invariant over runs -/

namespace ConnectNet

/-- The invariant of the connect protocol: no node starts a join with more
than `H` hops to live, and, with a joiner fixed per transaction, every node
and every message in flight carries what it should. -/
structure Inv (H : Nat) (net : ConnectNet) : Prop where
  hops : ∀ p, (net.nodes p).cfg.maxHopsToLive ≤ H
  good : ∃ J, (∀ p, NodeGood J p (net.nodes p)) ∧ ∀ x ∈ net.inFlight, GoodNetMsg J H x.1 x.2

/-- What the environment of an event guarantees: a join goes through another
node; the maintenance loop asks a peer it is connected to, as the node
itself, with at most `H` hops; the view a message meets answers only peers
its node is connected to; and every new transaction is fresh. -/
def Admissible (H : Nat) (net : ConnectNet) : ConnectEvent → Prop
  | .join p gateway tx => gateway.peer ≠ p ∧ net.Fresh tx
  | .acquire p req =>
      req.joiner.peer = p ∧ ((net.nodes p).ring.locationForPeer req.queryTarget.peer).isSome ∧
        req.maxHopsToLive ≤ H ∧ net.Fresh req.id
  | .deliver i v fresh _ =>
      (∀ p m, net.inFlight[i]? = some (p, m) → v.Sound (net.nodes p).ring) ∧ net.Fresh fresh

/-- The networks a run reaches from nodes that hold no operation and have no
connection to themselves, through admissible events. -/
inductive Reachable (H : Nat) : ConnectNet → Prop
  | init (nodes : PeerId → ConnectNode) (hpeer : ∀ p, (nodes p).cfg.peer = p)
      (hhops : ∀ p, (nodes p).cfg.maxHopsToLive ≤ H)
      (hself : ∀ p, (nodes p).ring.locationForPeer p = none) (hops : ∀ p tx, (nodes p).ops tx = none) :
      Reachable H ⟨nodes, []⟩
  | step {net net' : ConnectNet} {e : ConnectEvent} :
      Reachable H net → Admissible H net e → net.step e = some net' → Reachable H net'

variable {H : Nat} {net net' : ConnectNet}

theorem inv_init (nodes : PeerId → ConnectNode) (hpeer : ∀ p, (nodes p).cfg.peer = p)
    (hhops : ∀ p, (nodes p).cfg.maxHopsToLive ≤ H)
    (hself : ∀ p, (nodes p).ring.locationForPeer p = none) (hops : ∀ p tx, (nodes p).ops tx = none) :
    Inv H ⟨nodes, []⟩ where
  hops := hhops
  good := ⟨fun _ => 0, fun p => ⟨hpeer p, hself p, fun tx op h => by simp [hops p tx] at h⟩,
    by simp⟩

/-- A fresh transaction given a joiner: every node and message stays good. -/
theorem good_update_joiner {J : Transaction → PeerId} {tx : Transaction} (q : PeerId)
    (hfresh : net.Fresh tx) (hnodes : ∀ p, NodeGood J p (net.nodes p))
    (hmsgs : ∀ x ∈ net.inFlight, GoodNetMsg J H x.1 x.2) :
    (∀ p, NodeGood (Function.update J tx q) p (net.nodes p)) ∧
      ∀ x ∈ net.inFlight, GoodNetMsg (Function.update J tx q) H x.1 x.2 :=
  ⟨fun p => (hnodes p).update_joiner (hfresh.2 p),
    fun x hx => (hmsgs x hx).update_joiner (hfresh.1 x hx)⟩

/-- A node replaced by one that keeps the invariant, and messages added that
carry what they should. -/
theorem inv_of_update {J : Transaction → PeerId} {p : PeerId} {n : ConnectNode}
    {rest out : List (PeerId × ConnectNetMsg)} (hinv : Inv H net)
    (hnodes : ∀ q, NodeGood J q (net.nodes q)) (hn : NodeGood J p n)
    (hcfg : n.cfg = (net.nodes p).cfg) (hrest : ∀ x ∈ rest, GoodNetMsg J H x.1 x.2)
    (hout : ∀ x ∈ out, GoodNetMsg J H x.1 x.2) :
    Inv H ⟨Function.update net.nodes p n, rest ++ out⟩ where
  hops q := by
    by_cases e : q = p
    · subst e
      simpa [hcfg] using hinv.hops q
    · simpa [Function.update_of_ne e] using hinv.hops q
  good := by
    refine ⟨J, fun q => ?_, fun x hx => ?_⟩
    · by_cases e : q = p
      · subst e
        simpa using hn
      · simpa [Function.update_of_ne e] using hnodes q
    · rcases List.mem_append.mp hx with hx | hx
      · exact hrest x hx
      · exact hout x hx

/-- One admissible event keeps the invariant. -/
theorem inv_step {e : ConnectEvent} (hinv : Inv H net) (hadm : Admissible H net e)
    (h : net.step e = some net') : Inv H net' := by
  obtain ⟨J, hnodes, hmsgs⟩ := hinv.good
  cases e with
  | join p gateway tx =>
      obtain ⟨hgw, hfresh⟩ := hadm
      simp only [step] at h
      split_ifs at h
      · cases h
        exact hinv
      · obtain ⟨r, hr, rfl⟩ := Option.map_eq_some_iff.mp h
        obtain ⟨res, hres, rfl⟩ := Option.map_eq_some_iff.mp hr
        obtain ⟨hnodes', hmsgs'⟩ := good_update_joiner p hfresh hnodes hmsgs
        obtain ⟨hn, hcfg, hout⟩ := afterJoin_good (hnodes p) (hinv.hops p) hgw (hfresh.2 p) hres
        exact inv_of_update hinv hnodes' hn hcfg hmsgs' hout
  | acquire p req =>
      obtain ⟨hj, hq, hh, hfresh⟩ := hadm
      simp only [step, Option.some.injEq] at h
      subst h
      obtain ⟨hnodes', hmsgs'⟩ := good_update_joiner p hfresh hnodes hmsgs
      refine ⟨hinv.hops, ⟨Function.update J req.id p, hnodes', fun x hx => ?_⟩⟩
      rcases List.mem_append.mp hx with hx | hx
      · exact hmsgs' x hx
      · rw [List.mem_singleton.mp hx]
        -- the query target is a peer of the node, so not the node itself
        have hqp : req.queryTarget.peer ≠ p := fun e => by
          rw [e, (hnodes p).noSelf] at hq
          cases hq
        exact ⟨hj ▸ hqp, hh, by simp [hj], fun hne => hj.symm⟩
  | deliver i v fresh pick =>
      obtain ⟨hsound, hfresh⟩ := hadm
      simp only [step] at h
      split at h
      · cases h
      · rename_i p m hi
        have hmem : (p, m) ∈ net.inFlight := List.mem_of_getElem? hi
        have hrest : ∀ x ∈ net.inFlight.eraseIdx i, GoodNetMsg J H x.1 x.2 := fun x hx =>
          hmsgs x (List.mem_of_mem_eraseIdx hx)
        split_ifs at h
        · cases h
          exact ⟨hinv.hops, J, hnodes, hrest⟩
        · obtain ⟨r, hr, rfl⟩ := Option.map_eq_some_iff.mp h
          cases m with
          | connect msg =>
              -- a view that answers connected peers never answers the node itself
              have hv : v.Avoids p := (hsound p _ hi).avoids (hnodes p).noSelf
              obtain ⟨hn, hcfg, hout⟩ := process_good (hnodes p) hv (hmsgs _ hmem) hr
              exact inv_of_update hinv hnodes hn hcfg hrest hout
          | aborted id =>
              obtain ⟨hnodes', hmsgs'⟩ := good_update_joiner p hfresh hnodes hmsgs
              obtain ⟨hn, hcfg, hout⟩ := handleAbortedOp_good (hnodes p) (hinv.hops p) (hfresh.2 p) hr
              exact inv_of_update hinv hnodes' hn hcfg
                (fun x hx => hmsgs' x (List.mem_of_mem_eraseIdx hx)) hout

theorem Reachable.inv (h : Reachable H net) : Inv H net := by
  induction h with
  | init nodes hpeer hhops hself hops => exact inv_init nodes hpeer hhops hself hops
  | step _ hadm hstep ih => exact inv_step ih hadm hstep

end ConnectNet

open ConnectNet

/-- In every network the connect protocol reaches, a `Proxy` request never
goes to a peer on its skip list; the skip list holds no peer twice and holds
the joiner, and its length and the hops left add up to at most `H + 2`; and
no peer it lists as accepting is the joiner. -/
theorem proxy_requests_never_revisit {H : Nat} {net : ConnectNet} (hr : net.Reachable H)
    {d : PeerId} {tx : Transaction} {s j : PeerKeyLocation} {h : Nat} {skip : List PeerId}
    {acc : List PeerKeyLocation}
    (hm : (d, .connect (.request tx (.proxy s j h skip acc))) ∈ net.inFlight) :
    d ∉ skip ∧ skip.Nodup ∧ j.peer ∈ skip ∧ h + skip.length ≤ H + 2 ∧ ∀ a ∈ acc, a.peer ≠ j.peer := by
  obtain ⟨J, -, hmsgs⟩ := hr.inv.good
  obtain ⟨hd, hnd, hj, hb, hjJ, hacc⟩ := hmsgs _ hm
  exact ⟨hd, hnd, hj, hb, fun a ha => by rw [hjJ]; exact hacc a ha⟩

/-- A line of three peers `0 — 1 — 2` reaches a `Proxy` request to peer `2`:
peer `0` takes a `FindOptimalPeer` for itself from its maintenance loop and
sends it to peer `1`, whose closest peer off the skip list is `2`. -/
theorem lineNet_reaches_proxy :
    ∃ net : ConnectNet, net.Reachable 2 ∧
      (2, .connect (.request (Transaction.new .connect 0x100)
        (.proxy ⟨1, some (1 / 4)⟩ ⟨0, some 0⟩ 2 [1, 0] []))) ∈ net.inFlight := by
  -- a line of peers at locations `p / 4`, each connected to the next one only
  let node : PeerId → ConnectNode := fun p =>
    ⟨⟨p, .release, 2, 10⟩,
      { Ring.new 10 1 (some ((p : ℚ) / 4)) with
        locationForPeer := fun q => if q = p + 1 then some (((p : ℚ) + 1) / 4) else none },
      [], fun _ => none, fun _ => false, [], [], false⟩
  let tx := Transaction.new .connect 0x100
  let req : FindOptimalPeer := ⟨tx, ⟨1, some (1 / 4)⟩, 3 / 4, ⟨0, some 0⟩, 2⟩
  let net0 : ConnectNet := ⟨node, []⟩
  -- the joiner's view asks nothing; the query target's finds peer `2` off the skip list
  let v0 : ConnectView := ⟨0, 0, fun _ => false, fun _ _ => some none, fun _ => none, fun _ _ _ => some none⟩
  let v1 : ConnectView := ⟨0, 0, fun _ => false,
    fun _ skip => if 2 ∈ skip then some none else some (some ⟨2, some (1 / 2)⟩),
    fun _ => none, fun _ _ _ => some none⟩
  let f1 := Transaction.new .connect 0x200
  let f2 := Transaction.new .connect 0x300
  let net1 : ConnectNet := ⟨node, [(0, .connect req.toMsg)]⟩
  have h1 : net0.step (.acquire 0 req) = some net1 := rfl
  have h2 : (net1.step (.deliver 0 v0 f1 0)).isSome = true := rfl
  let net2 := (net1.step (.deliver 0 v0 f1 0)).get h2
  have h3 : (net2.step (.deliver 0 v1 f2 0)).isSome = true := rfl
  let net3 := (net2.step (.deliver 0 v1 f2 0)).get h3
  have r0 : net0.Reachable 2 := .init node (fun _ => rfl) (fun _ => le_refl 2)
    (fun p => by simp [node]) (fun _ _ => rfl)
  have a1 : ConnectNet.Admissible 2 net0 (.acquire 0 req) :=
    ⟨rfl, by simp [net0, node, req], le_refl 2, by simp [ConnectNet.Fresh, net0, node]⟩
  have r1 : net1.Reachable 2 := .step r0 a1 h1
  have a2 : ConnectNet.Admissible 2 net1 (.deliver 0 v0 f1 0) := by
    refine ⟨fun p m _ => ⟨fun _ _ _ h => ?_, fun _ _ h => ?_, fun _ _ _ _ h => ?_⟩, ?_⟩
    · cases h
    · cases h
    · cases h
    · refine ⟨?_, fun _ => rfl⟩
      simp [net1, req, tx, f1, ConnectNetMsg.id, FindOptimalPeer.toMsg, ConnectMsg.id]
      decide
  have r2 : net2.Reachable 2 := .step r1 a2 (Option.some_get h2).symm
  have e2 : net2.inFlight[0]? = some (1, .connect req.toMsg) := rfl
  have a3 : ConnectNet.Admissible 2 net2 (.deliver 0 v1 f2 0) := by
    refine ⟨fun p m hpm => ?_, ?_⟩
    · rw [e2, Option.some.injEq, Prod.mk.injEq] at hpm
      obtain ⟨rfl, -⟩ := hpm
      refine ⟨fun l skip q h => ?_, fun _ _ h => (by cases h), fun _ _ _ _ h => (by cases h)⟩
      simp only [v1] at h
      split_ifs at h with hs
      · simp at h
      · simp only [Option.some.injEq] at h
        subst h
        exact ⟨hs, rfl⟩
    · refine ⟨?_, fun p => ?_⟩
      · rw [show net2.inFlight = [(1, .connect req.toMsg)] from rfl]
        simp only [List.mem_singleton, forall_eq]
        decide
      · by_cases hp : p = 0
        · subst hp
          rfl
        · have : net2.nodes p = node p := Function.update_of_ne hp _ _
          rw [this]
  have r3 : net3.Reachable 2 := .step r2 a3 (Option.some_get h3).symm
  refine ⟨net3, r3, ?_⟩
  rw [show net3.inFlight = [(2, .connect (.request tx (.proxy ⟨1, some (1 / 4)⟩ ⟨0, some 0⟩ 2 [1, 0]
    [])))] from rfl]
  exact List.mem_singleton_self _

theorem proxy_requests_never_revisit_line :
    ∃ net : ConnectNet, net.Reachable 2 ∧
      (2, .connect (.request (Transaction.new .connect 0x100)
        (.proxy ⟨1, some (1 / 4)⟩ ⟨0, some 0⟩ 2 [1, 0] []))) ∈ net.inFlight ∧
      (2 ∉ [1, 0] ∧ [1, 0].Nodup ∧ 0 ∈ [1, 0] ∧ 2 + [1, 0].length ≤ 2 + 2 ∧
        ∀ a ∈ ([] : List PeerKeyLocation), a.peer ≠ 0) := by
  obtain ⟨net, hr, hm⟩ := lineNet_reaches_proxy
  exact ⟨net, hr, hm, proxy_requests_never_revisit hr hm⟩

/-- In every network the connect protocol reaches, no node has a connection
to itself. -/
theorem connect_never_connects_to_self {H : Nat} {net : ConnectNet} (hr : net.Reachable H)
    (p : PeerId) : (net.nodes p).ring.locationForPeer p = none := by
  obtain ⟨J, hnodes, -⟩ := hr.inv.good
  exact (hnodes p).noSelf

theorem connect_never_connects_to_self_line :
    ∃ net : ConnectNet, net.Reachable 2 ∧
      (2, .connect (.request (Transaction.new .connect 0x100)
        (.proxy ⟨1, some (1 / 4)⟩ ⟨0, some 0⟩ 2 [1, 0] []))) ∈ net.inFlight ∧
      (net.nodes 1).ring.locationForPeer 1 = none := by
  obtain ⟨net, hr, hm⟩ := lineNet_reaches_proxy
  exact ⟨net, hr, hm, connect_never_connects_to_self hr 1⟩

end FreenetCore.Node
