import FreenetCore.Node.Ring
import FreenetCore.Topology.Meter
import FreenetCore.Util

/-!
The connect operation (`operations/connect.rs`), one node's part.

A joiner sends `StartReq` to a gateway. The gateway decides with
`should_accept` whether it takes the joiner, gives it a location, and either
answers it with the peers that accepted (`AcceptedBy`) or passes a `Proxy`
request with its acceptance on to a peer of its own (`forward_conn`), which
does the same in turn: each hop adds itself to the skip list and spends one
hop to live, and the answers come back along the chain, each hop adding the
acceptances of the hops after it. The joiner then sends `ReceivedOC` to the
peers that accepted it, which open the connection, and the gateway answers
with `Connected`. A node that wants more connections (`acquire_new`) asks one
of its peers with `FindOptimalPeer`, which starts a proxy chain for it from
a peer close to the location it wants.

`process_message` is modelled branch by branch. What it asks of the ring that
the ring's model does not compute (the number of connections, the routing
queries and their random draws, the topology manager's answer in
`should_accept`) is a `ConnectView`; what it changes (the ring, and what it
sends, opens, reports and hands back) is threaded through a `ConnectCtx`,
which a failing step keeps as far as it got. Sends through the network
bridge and the op manager's channels succeed. A `HashSet` is a list without
duplicates, in the order its iteration would give.
-/

namespace FreenetCore.Operations

open FreenetCore.Node FreenetCore.Util FreenetCore.Topology MachineInt

/-- `ConnectRequest`. -/
inductive ConnectRequest
  | startReq (target : PeerKeyLocation) (joiner : PeerId) (assignedLocation : Option Location)
      (hopsToLive maxHopsToLive : Nat)
  | findOptimalPeer (queryTarget : PeerKeyLocation) (idealLocation : Location)
      (joiner : PeerKeyLocation) (maxHopsToLive : Nat)
  | proxy (sender joiner : PeerKeyLocation) (hopsToLive : Nat) (skipList : List PeerId)
      (acceptedBy : List PeerKeyLocation)
  | receivedOC

/-- `ConnectResponse`. -/
inductive ConnectResponse
  | acceptedBy (peers : List PeerKeyLocation) (yourLocation : Location) (yourPeerId : PeerId)
  | receivedOC (byPeer gateway : PeerKeyLocation)
  | proxy (acceptedBy : List PeerKeyLocation) (joiner : PeerId)

/-- `ConnectMsg`. -/
inductive ConnectMsg
  | request (id : Transaction) (msg : ConnectRequest)
  | response (id : Transaction) (sender target : PeerKeyLocation) (msg : ConnectResponse)
  | connected (id : Transaction) (sender target : PeerKeyLocation)

namespace ConnectMsg

def id : ConnectMsg → Transaction
  | .request id _ => id
  | .response id _ _ _ => id
  | .connected id _ _ => id

/-- `InnerMessage::target`. -/
def target : ConnectMsg → Option PeerKeyLocation
  | .response _ _ target _ => some target
  | .request _ (.startReq target _ _ _ _) => some target
  | .connected _ _ target => some target
  | _ => none

/-- `ConnectMsg::sender`. -/
def sender : ConnectMsg → Option PeerId
  | .response _ sender _ _ => some sender.peer
  | .connected _ sender _ => some sender.peer
  | .request _ (.startReq _ joiner _ _ _) => some joiner
  | _ => none

def isFindOptimalPeer : ConnectMsg → Bool
  | .request _ (.findOptimalPeer ..) => true
  | _ => false

end ConnectMsg

/-- `ConnectionInfo`. -/
structure ConnectionInfo where
  gateway : PeerKeyLocation
  thisPeer : PeerId
  maxHopsToLive : Nat

/-- `ConnectState`. -/
inductive ConnectState
  | initializing
  | connecting (info : ConnectionInfo)
  | awaitingProxyResponse (target : PeerKeyLocation) (acceptedBy : List PeerKeyLocation)
      (newLocation : Location) (newPeerId : PeerId)
  | awaitingConnectionAcquisition (joiner : PeerKeyLocation)
  | awaitingNewConnection (queryTarget : PeerId)
  | ocReceived
  | connected

/-- `ConnectOp`. -/
structure ConnectOp where
  id : Transaction
  state : Option ConnectState
  gateway : Option PeerKeyLocation
  backoff : Option ExponentialBackoff

def ConnectOp.hasBackoff (op : ConnectOp) : Bool := op.backoff.isSome

def ConnectOp.finalized (op : ConnectOp) : Bool :=
  match op.state with
  | some .connected => true
  | _ => false

/-- The errors of the connect operation: an `OpError` the operations share,
or one of the two only this operation returns, `RingError::NoLocation` and
`ConnectionError::LocationUnknown`. -/
inductive ConnectError
  | op (e : OpError)
  | noLocation
  | locationUnknown

/-- `HashSet::extend` of peers. -/
def extendPeers (s new : List PeerKeyLocation) : List PeerKeyLocation :=
  new.foldl (fun s p => s.insert p) s

/-- `ConnectState::add_new_proxy`. -/
def ConnectState.addNewProxy (s : ConnectState) (proxies : List PeerKeyLocation) :
    Except ConnectError ConnectState :=
  match s with
  | .awaitingProxyResponse target acceptedBy newLocation newPeerId =>
      .ok (.awaitingProxyResponse target (extendPeers acceptedBy proxies) newLocation newPeerId)
  | _ => .error (.op .unexpectedOpState)

/-- What a node fixes for its connect operations: its peer, its build, and
the ring's `max_hops_to_live` and `rnd_if_htl_above`. -/
structure ConnectConfig where
  peer : PeerId
  profile : Profile
  maxHopsToLive : Nat
  rndIfHtlAbove : Nat

/-- What a step asks the ring that the ring's model does not compute: the
number of connections, `Location::random`, the topology manager's answer in
`should_accept`, and the queries over the connections with their random
draws (`closest_to_location`, `random_peer`, `routing`). An outer `none` is
a panic of the query. -/
structure ConnectView where
  numConnections : Nat
  randomLocation : Location
  evaluate : Location → Bool
  closestToLocation : Location → List PeerId → Option (Option PeerKeyLocation)
  randomPeer : (PeerId → Bool) → Option PeerKeyLocation
  routing : Location → Option PeerId → List PeerId → Option (Option PeerKeyLocation)

/-- What a step changes at its node: the ring, the messages it sends through
the network bridge, the peers it opens connections to on the bridge, the
peers it reports to the live transaction tracker as missing candidates, and
the operations it hands back with `notify_op_change(Aborted)`. -/
structure ConnectCtx where
  ring : Ring
  sent : List (PeerId × ConnectMsg)
  bridged : List PeerId
  missing : List PeerId
  aborted : List ConnectOp

namespace ConnectCtx

def send (c : ConnectCtx) (dest : PeerId) (msg : ConnectMsg) : ConnectCtx :=
  { c with sent := c.sent ++ [(dest, msg)] }

/-- `NetworkBridge::add_connection`. -/
def addBridge (c : ConnectCtx) (peer : PeerId) : ConnectCtx :=
  { c with bridged := c.bridged ++ [peer] }

/-- `Ring::add_connection`. -/
def addConnection (c : ConnectCtx) (location : Location) (peer : PeerId) : ConnectCtx :=
  { c with ring := c.ring.addConnection location peer }

/-- `Ring::own_location`. -/
def ownLocation (cfg : ConnectConfig) (c : ConnectCtx) : PeerKeyLocation :=
  ⟨cfg.peer, c.ring.ownLocation⟩

@[simp] theorem ownLocation_peer (cfg : ConnectConfig) (c : ConnectCtx) :
    (c.ownLocation cfg).peer = cfg.peer := rfl

/-- `Ring::should_accept`; `none` is its panic on a node with no location. -/
def shouldAccept (v : ConnectView) (c : ConnectCtx) (location : Location) (peer : PeerId) :
    Option (ConnectCtx × Bool) :=
  (c.ring.shouldAccept location peer (v.evaluate location)).map fun r =>
    ({ c with ring := r.1 }, r.2)

/-- `Ring::update_location` with a location. -/
def updateLocation (c : ConnectCtx) (location : Location) : ConnectCtx :=
  { c with ring := { c.ring with ownLocation := some location } }

end ConnectCtx

/-- What a branch of `process_message` decides: the operation's next state
and the message to return, or an error. -/
abbrev ConnectOutcome := Except ConnectError (Option ConnectState × Option ConnectMsg)

namespace Connect

section Branches

variable (cfg : ConnectConfig) (v : ConnectView)

/-- `forward_conn`: the state to await the answer in, if the request went on
to another peer. The outer `none` is the panic of `joiner.location.unwrap()`. -/
def forwardConn (c : ConnectCtx) (id : Transaction) (reqPeer joiner : PeerKeyLocation)
    (leftHtl : Nat) (acceptedBy : List PeerKeyLocation) (skipList : List PeerId) :
    Option (Option ConnectState × ConnectCtx) :=
  if leftHtl = 0 then some (none, c)
  else if v.numConnections = 0 then some (none, c)
  else
    let forwardTo : Option (Option PeerKeyLocation) :=
      if cfg.rndIfHtlAbove ≤ leftHtl then some (v.randomPeer fun p => !skipList.contains p)
      else
        match joiner.location with
        | none => none
        | some desiredLocation =>
            (v.routing desiredLocation (some reqPeer.peer) skipList).map fun pkl =>
              pkl.filter (·.peer != joiner.peer)
    forwardTo.bind fun
      | none => some (none, c)
      | some forwardTo =>
          joiner.location.map fun newLocation =>
            (some (.awaitingProxyResponse reqPeer acceptedBy newLocation joiner.peer),
              c.send forwardTo.peer
                (.request id (.proxy (c.ownLocation cfg) joiner (leftHtl - 1) skipList acceptedBy)))

/-- `updated_state.add_new_proxy(accepted_by)?` after a forward: the node
awaits the answer with the acceptances so far. -/
def awaitProxies (updatedState : ConnectState) (acceptedBy : List PeerKeyLocation) :
    ConnectOutcome :=
  (updatedState.addNewProxy acceptedBy).map fun s => (some s, none)

/-- `try_returning_proxy_connection`. -/
def tryReturningProxyConnection (id : Transaction) (sender ownLoc : PeerKeyLocation)
    (acceptedBy : List PeerKeyLocation) (joiner : PeerId) :
    Option ConnectState × Option ConnectMsg :=
  (if ownLoc ∈ acceptedBy then some .ocReceived else none,
    some (.response id ownLoc sender (.proxy acceptedBy joiner)))

/-- `propagate_oc_to_responding_peers`. -/
def propagateOcToRespondingPeers (c : ConnectCtx) (sender otherPeer : PeerKeyLocation)
    (msg : ConnectMsg) : Option (Except ConnectError Unit × ConnectCtx) :=
  match otherPeer.location with
  | none => some (.error .locationUnknown, c)
  | some location =>
      (c.shouldAccept v location otherPeer.peer).map fun r =>
        if r.2 then
          let c := (r.1.addBridge otherPeer.peer).addConnection location otherPeer.peer
          -- the gateway is told by the answer of the step itself
          (.ok (), if otherPeer.peer ≠ sender.peer then c.send otherPeer.peer msg else c)
        else (.ok (), r.1)

/-- The loop of the `AcceptedBy` branch: each peer's result is dropped
(`let _ =`), so a peer with no location is passed over. -/
def propagateAll (sender : PeerKeyLocation) (mkMsg : PeerKeyLocation → ConnectMsg) :
    List PeerKeyLocation → ConnectCtx → Option ConnectCtx
  | [], c => some c
  | p :: ps, c =>
      (propagateOcToRespondingPeers v c sender p (mkMsg p)).bind fun r =>
        propagateAll sender mkMsg ps r.2

/-- The loop of the `AwaitingNewConnection` branch: the first error ends it
(`?`). -/
def propagateEach (sender : PeerKeyLocation) (mkMsg : PeerKeyLocation → ConnectMsg) :
    List PeerKeyLocation → ConnectCtx → Option (Except ConnectError Unit × ConnectCtx)
  | [], c => some (.ok (), c)
  | p :: ps, c =>
      (propagateOcToRespondingPeers v c sender p (mkMsg p)).bind fun r =>
        match r.1 with
        | .error e => some (.error e, r.2)
        | .ok () => propagateEach sender mkMsg ps r.2

/-- `FindOptimalPeer`: at the query target, a proxy chain for the joiner
from the connection closest to the location it wants; at the joiner, the
query passed on to the query target. -/
def handleFindOptimalPeer (c : ConnectCtx) (id : Transaction) (queryTarget : PeerKeyLocation)
    (idealLocation : Location) (joiner : PeerKeyLocation) (maxHopsToLive : Nat) :
    Option (ConnectOutcome × ConnectCtx) :=
  let ownLoc := c.ownLocation cfg
  match ownLoc.location with
  | none => some (.error .noLocation, c)
  | some _ =>
      if cfg.peer = queryTarget.peer then
        (v.closestToLocation idealLocation [joiner.peer]).map fun
          | some desirablePeer =>
              (.ok (some (.awaitingConnectionAcquisition joiner), none),
                c.send desirablePeer.peer (.request id
                  (.proxy ownLoc joiner maxHopsToLive [cfg.peer, joiner.peer] [])))
          | none => (.ok (none, some (.response id queryTarget joiner (.proxy [] joiner.peer))), c)
      -- `debug_assert_eq!(this_peer, &joiner.peer)`
      else if cfg.profile = .debug ∧ cfg.peer ≠ joiner.peer then none
      else
        some (.ok (some (.awaitingNewConnection queryTarget.peer), none),
          c.send queryTarget.peer
            (.request id (.findOptimalPeer queryTarget idealLocation joiner maxHopsToLive)))

/-- `StartReq`, at the gateway. -/
def handleStartReq (c : ConnectCtx) (id : Transaction) (thisPeer : PeerKeyLocation)
    (joiner : PeerId) (hopsToLive : Nat) (assignedLocation : Option Location) :
    Option (ConnectOutcome × ConnectCtx) :=
  let newLocation := assignedLocation.getD v.randomLocation
  (c.shouldAccept v newLocation joiner).bind fun r =>
    let acceptedBy := if r.2 then [thisPeer] else []
    let newPeerLoc : PeerKeyLocation := ⟨joiner, some newLocation⟩
    (forwardConn cfg v r.1 id newPeerLoc newPeerLoc hopsToLive acceptedBy
        [thisPeer.peer, joiner]).map fun f =>
      match f.1 with
      | some updatedState => (awaitProxies updatedState acceptedBy, f.2)
      | none =>
          (.ok (if acceptedBy.isEmpty then none else some .ocReceived,
              some (.response id thisPeer newPeerLoc (.acceptedBy acceptedBy newLocation joiner))),
            f.2)

/-- `Proxy`, at a hop of the chain. -/
def handleProxyRequest (c : ConnectCtx) (self : ConnectOp) (id : Transaction)
    (sender joiner : PeerKeyLocation) (hopsToLive : Nat) (skipList : List PeerId)
    (acceptedBy : List PeerKeyLocation) : Option (ConnectOutcome × ConnectCtx) :=
  let ownLoc := c.ownLocation cfg
  match joiner.location with
  | none => some (.error .locationUnknown, c)
  | some joinerLocation =>
      (c.shouldAccept v joinerLocation joiner.peer).bind fun r =>
        let acceptedBy := if r.2 then acceptedBy.insert ownLoc else acceptedBy
        let skipList := skipList ++ [ownLoc.peer]
        (forwardConn cfg v r.1 id sender joiner hopsToLive acceptedBy skipList).map fun f =>
          match f.1 with
          | some updatedState => (awaitProxies updatedState acceptedBy, f.2)
          | none =>
              match self.state with
              | some .initializing =>
                  (.ok (tryReturningProxyConnection id sender ownLoc acceptedBy joiner.peer), f.2)
              | _ => (.error (.op (.invalidTransition self.id)), f.2)

/-- `AcceptedBy`, at the joiner: it takes the location it was given and
connects to the peers that accepted it; with none, the operation goes back to
the event loop as aborted, to be retried. -/
def handleAcceptedBy (c : ConnectCtx) (self : ConnectOp) (id : Transaction)
    (target : PeerKeyLocation) (acceptedBy : List PeerKeyLocation) (yourLocation : Location)
    (yourPeerId : PeerId) : Option (ConnectOutcome × ConnectCtx) :=
  let pkLoc : PeerKeyLocation := ⟨yourPeerId, some yourLocation⟩
  match self.state with
  | some (.connecting info) =>
      let gateway := info.gateway
      if !acceptedBy.isEmpty then
        let returnMsg : Option ConnectMsg :=
          if gateway ∈ acceptedBy then some (.response id pkLoc gateway (.receivedOC pkLoc gateway))
          else none
        (propagateAll v gateway (fun otherPeer => .response id pkLoc otherPeer (.receivedOC pkLoc gateway))
            (acceptedBy.filter (·.peer != target.peer)) (c.updateLocation yourLocation)).map fun c =>
          (.ok (some .ocReceived, returnMsg), c)
      else
        some (.error (.op .statePushed),
          { c with aborted := c.aborted ++ [⟨id, none, self.gateway, self.backoff⟩] })
  | _ => some (.error (.op (.invalidTransition self.id)), c)

/-- `Proxy` answer: passed back along the chain with the acceptances added;
at the query target of a `FindOptimalPeer`, handed to the joiner; at the
joiner of a `FindOptimalPeer`, the connections opened. -/
def handleProxyResponse (c : ConnectCtx) (self : ConnectOp) (id : Transaction)
    (sender target : PeerKeyLocation) (acceptedBy : List PeerKeyLocation) (joiner : PeerId) :
    Option (ConnectOutcome × ConnectCtx) :=
  match self.state with
  | some (.awaitingProxyResponse originalTarget previouslyAccepted newLocation newPeerId) =>
      let ownLoc := c.ownLocation cfg
      let previouslyAccepted := extendPeers previouslyAccepted acceptedBy
      let newState : Option ConnectState :=
        if ownLoc ∈ previouslyAccepted then some .ocReceived else none
      let returnMsg : ConnectMsg :=
        if newPeerId = originalTarget.peer then
          .response id target originalTarget (.acceptedBy previouslyAccepted newLocation newPeerId)
        else .response id target originalTarget (.proxy previouslyAccepted joiner)
      some (.ok (newState, some returnMsg), c)
  | some (.awaitingConnectionAcquisition joiner) =>
      some (.ok (none, some (.response id target joiner (.proxy acceptedBy joiner.peer))), c)
  | some (.awaitingNewConnection queryTarget) =>
      let joiner := target
      if acceptedBy.isEmpty then
        some (.ok (none, none), { c with missing := c.missing ++ [queryTarget] })
      else
        (propagateEach v sender (fun peer => .response id joiner peer (.receivedOC joiner sender))
            acceptedBy c).map fun r =>
          (r.1.map fun _ => (none, none), r.2)
  | _ => some (.error (.op (.invalidTransition self.id)), c)

/-- `ReceivedOC`: the connection to the joiner is opened; at the gateway,
answered with `Connected`. -/
def handleReceivedOC (c : ConnectCtx) (self : ConnectOp) (id : Transaction)
    (sender target gateway : PeerKeyLocation) : Option (ConnectOutcome × ConnectCtx) :=
  match self.state with
  | some .ocReceived =>
      let decided : Option ConnectState × Option ConnectMsg :=
        if target = gateway then (some .connected, some (.connected id target sender))
        else (none, none)
      let c := c.addBridge sender.peer
      match sender.location with
      | none => some (.error .locationUnknown, c)
      | some location =>
          some (.ok (if target ≠ gateway then none else decided.1, decided.2),
            c.addConnection location sender.peer)
  | _ => some (.error (.op (.invalidTransition self.id)), c)

/-- `Connected`, at the joiner: the connection to the gateway is opened. -/
def handleConnected (c : ConnectCtx) (self : ConnectOp) (sender : PeerKeyLocation) :
    Option (ConnectOutcome × ConnectCtx) :=
  match self.state with
  | some .ocReceived =>
      let c := c.addBridge sender.peer
      match sender.location with
      | none => some (.error .locationUnknown, c)
      | some location => some (.ok (none, none), c.addConnection location sender.peer)
  | _ => some (.error (.op (.invalidTransition self.id)), c)

end Branches

/-- `build_op_result`: the operation always comes back. -/
def buildOpResult (id : Transaction) (state : Option ConnectState) (msg : Option ConnectMsg)
    (gateway : Option PeerKeyLocation) (backoff : Option ExponentialBackoff) :
    OperationResult ConnectMsg ConnectOp :=
  ⟨msg, some ⟨id, state, gateway, backoff⟩⟩

end Connect

open Connect in
/-- `ConnectOp::process_message`; `none` is a panic. -/
def ConnectOp.processMessage (self : ConnectOp) (cfg : ConnectConfig) (v : ConnectView)
    (c : ConnectCtx) (input : ConnectMsg) :
    Option (Except ConnectError (OperationResult ConnectMsg ConnectOp) × ConnectCtx) :=
  let outcome : Option (ConnectOutcome × ConnectCtx) :=
    match input with
    | .request id (.findOptimalPeer queryTarget idealLocation joiner maxHopsToLive) =>
        handleFindOptimalPeer cfg v c id queryTarget idealLocation joiner maxHopsToLive
    | .request id (.startReq thisPeer joiner assignedLocation hopsToLive _) =>
        handleStartReq cfg v c id thisPeer joiner hopsToLive assignedLocation
    | .request id (.proxy sender joiner hopsToLive skipList acceptedBy) =>
        handleProxyRequest cfg v c self id sender joiner hopsToLive skipList acceptedBy
    | .response id _ target (.acceptedBy peers yourLocation yourPeerId) =>
        handleAcceptedBy v c self id target peers yourLocation yourPeerId
    | .response id sender target (.proxy acceptedBy joiner) =>
        handleProxyResponse cfg v c self id sender target acceptedBy joiner
    | .response id sender target (.receivedOC _ gateway) =>
        handleReceivedOC c self id sender target gateway
    | .connected _ sender _ => handleConnected c self sender
    | .request _ .receivedOC => some (.error (.op .unexpectedOpState), c)
  outcome.map fun r =>
    (r.1.map fun s => Connect.buildOpResult self.id s.1 s.2 self.gateway self.backoff, r.2)

namespace Connect

/-- `load_or_init`, given the connect operation the node holds for the
transaction, if any: that operation, with the message's sender; or a new
one, whose gateway is the node itself unless the message is a
`FindOptimalPeer`. -/
def loadOrInit (cfg : ConnectConfig) (ring : Ring) (held : Option ConnectOp) (msg : ConnectMsg) :
    ConnectOp × Option PeerId :=
  match held with
  | some op => (op, msg.sender)
  | none =>
      (⟨msg.id, some .initializing,
          if msg.isFindOptimalPeer then none else some ⟨cfg.peer, ring.ownLocation⟩, none⟩,
        none)

/-- `MAX_JOIN_RETRIES`: `usize::MAX`. -/
def maxJoinRetries : UInt64 := 18446744073709551615

/-- `initial_request`: connecting through the gateway, with a backoff of one
second doubling up to two minutes (the ceiling of a build that is not a
test). -/
def initialRequest (thisPeer : PeerId) (gateway : PeerKeyLocation) (maxHopsToLive : Nat)
    (id : Transaction) : ConnectOp :=
  ⟨id, some (.connecting ⟨gateway, thisPeer, maxHopsToLive⟩), some gateway,
    some (ExponentialBackoff.new nanosPerSecond (120 * nanosPerSecond) maxJoinRetries)⟩

/-- `connect_request`: the operation to push, the gateway to open a
connection to, and the `StartReq` to send it. The outer `none` is the
`expect` on an operation with no state. -/
def connectRequest (ring : Ring) (tx : Transaction) (joinOp : ConnectOp) :
    Option (Except ConnectError (ConnectOp × PeerKeyLocation × ConnectMsg)) :=
  match joinOp.state with
  | none => none
  | some (.connecting info) =>
      some (.ok (⟨joinOp.id, some (.connecting info), some info.gateway, joinOp.backoff⟩,
        info.gateway,
        .request tx (.startReq info.gateway info.thisPeer ring.ownLocation info.maxHopsToLive
          info.maxHopsToLive)))
  | some _ => some (.error (.op .unexpectedOpState))

/-- `join_ring_request`: a join through `gateway` with a new transaction;
with the backoff of an earlier attempt, after sleeping it one attempt
further, or, once its attempts are spent, not at all (an error if the node
has no connection). The outer `none` is a panic. -/
def joinRingRequest (cfg : ConnectConfig) (ring : Ring) (backoff : Option ExponentialBackoff)
    (gateway : PeerKeyLocation) (txId : Transaction) :
    Option (Except ConnectError (Option (ConnectOp × PeerKeyLocation × ConnectMsg))) :=
  let op := initialRequest cfg.peer gateway cfg.maxHopsToLive txId
  match backoff with
  | none => (connectRequest ring txId op).map (Except.map some)
  | some backoff =>
      (backoff.sleep cfg.profile).bind fun r =>
        match r.1 with
        | none =>
            some (if ring.openConnections = 0 then .error (.op (.maxRetriesExceeded txId .connect))
              else .ok none)
        | some _ => (connectRequest ring txId { op with backoff := some r.2 }).map (Except.map some)

end Connect

/-! ### What a step does to its node -/

namespace ConnectCtx

section Follows

variable (sendOk : PeerId → ConnectMsg → Prop) (peerOk : PeerId → Prop) (abortOk : ConnectOp → Prop)

/-- `c'` comes from `c` by sending only messages that satisfy `sendOk`,
opening ring connections only to peers that satisfy `peerOk`, and handing
back only operations that satisfy `abortOk`. -/
structure Follows (c c' : ConnectCtx) : Prop where
  sent : ∃ new, c'.sent = c.sent ++ new ∧ ∀ x ∈ new, sendOk x.1 x.2
  ring : ∀ q, c'.ring.locationForPeer q ≠ c.ring.locationForPeer q → peerOk q
  aborted : ∃ new, c'.aborted = c.aborted ++ new ∧ ∀ op ∈ new, abortOk op

variable {sendOk peerOk abortOk} {c c' c'' : ConnectCtx}

theorem Follows.refl (c : ConnectCtx) : Follows sendOk peerOk abortOk c c where
  sent := ⟨[], by simp, by simp⟩
  ring _ h := absurd rfl h
  aborted := ⟨[], by simp, by simp⟩

theorem Follows.trans (h₁ : Follows sendOk peerOk abortOk c c')
    (h₂ : Follows sendOk peerOk abortOk c' c'') : Follows sendOk peerOk abortOk c c'' where
  sent := by
    obtain ⟨n₁, e₁, g₁⟩ := h₁.sent
    obtain ⟨n₂, e₂, g₂⟩ := h₂.sent
    exact ⟨n₁ ++ n₂, by rw [e₂, e₁, List.append_assoc],
      fun x hx => (List.mem_append.mp hx).elim (g₁ x) (g₂ x)⟩
  ring q hq := by
    -- a peer whose entry changed changed in one of the two steps
    by_cases h : c'.ring.locationForPeer q = c.ring.locationForPeer q
    · exact h₂.ring q (by rwa [h])
    · exact h₁.ring q h
  aborted := by
    obtain ⟨n₁, e₁, g₁⟩ := h₁.aborted
    obtain ⟨n₂, e₂, g₂⟩ := h₂.aborted
    exact ⟨n₁ ++ n₂, by rw [e₂, e₁, List.append_assoc],
      fun x hx => (List.mem_append.mp hx).elim (g₁ x) (g₂ x)⟩

/-- A step that leaves the sent messages, the ring's connections and the
aborted operations alone. -/
theorem Follows.of_eq (hs : c'.sent = c.sent) (hr : c'.ring.locationForPeer = c.ring.locationForPeer)
    (ha : c'.aborted = c.aborted) : Follows sendOk peerOk abortOk c c' where
  sent := ⟨[], by simp [hs], by simp⟩
  ring q h := absurd (congrFun hr q) h
  aborted := ⟨[], by simp [ha], by simp⟩

theorem follows_send {dest : PeerId} {msg : ConnectMsg} (h : sendOk dest msg) :
    Follows sendOk peerOk abortOk c (c.send dest msg) where
  sent := ⟨[(dest, msg)], rfl, by simpa using h⟩
  ring _ h := absurd rfl h
  aborted := ⟨[], by simp [send], by simp⟩

theorem follows_addBridge (p : PeerId) : Follows sendOk peerOk abortOk c (c.addBridge p) :=
  Follows.of_eq rfl rfl rfl

theorem follows_addConnection {q : PeerId} (location : Location) (h : peerOk q) :
    Follows sendOk peerOk abortOk c (c.addConnection location q) where
  sent := ⟨[], by simp [addConnection], by simp⟩
  ring q' hq' := by
    -- `add_connection` files the location of its peer only
    by_cases e : q' = q
    · exact e ▸ h
    · simp [addConnection, Ring.addConnection, Function.update_of_ne e] at hq'
  aborted := ⟨[], by simp [addConnection], by simp⟩

theorem follows_abort {op : ConnectOp} (h : abortOk op) :
    Follows sendOk peerOk abortOk c { c with aborted := c.aborted ++ [op] } where
  sent := ⟨[], by simp, by simp⟩
  ring _ h := absurd rfl h
  aborted := ⟨[op], rfl, by simpa using h⟩

theorem follows_missing (peers : List PeerId) :
    Follows sendOk peerOk abortOk c { c with missing := peers } :=
  Follows.of_eq rfl rfl rfl

theorem follows_updateLocation (location : Location) :
    Follows sendOk peerOk abortOk c (c.updateLocation location) :=
  Follows.of_eq rfl rfl rfl

theorem follows_of_shouldAccept {v : ConnectView} {location : Location} {peer : PeerId}
    {r : ConnectCtx × Bool} (h : c.shouldAccept v location peer = some r) :
    Follows sendOk peerOk abortOk c r.1 := by
  obtain ⟨⟨r', b⟩, hr', rfl⟩ := Option.map_eq_some_iff.mp h
  -- `should_accept` only moves the counter
  obtain ⟨n, rfl⟩ := shouldAccept_eq hr'
  exact Follows.of_eq rfl rfl rfl

end Follows

end ConnectCtx

/-- The queries of a view never answer the node `d` itself, and keep to the
skip list and the filter they are given. -/
structure ConnectView.Avoids (v : ConnectView) (d : PeerId) : Prop where
  closest : ∀ l skip q, v.closestToLocation l skip = some (some q) → q.peer ∉ skip ∧ q.peer ≠ d
  random : ∀ f q, v.randomPeer f = some q → f q.peer = true ∧ q.peer ≠ d
  routing : ∀ l req skip q, v.routing l req skip = some (some q) → q.peer ∉ skip ∧ q.peer ≠ d

/-- The queries of a view answer only peers the ring is connected to, and
keep to the skip list and the filter they are given. -/
structure ConnectView.Sound (r : Ring) (v : ConnectView) : Prop where
  closest : ∀ l skip q, v.closestToLocation l skip = some (some q) →
    q.peer ∉ skip ∧ (r.locationForPeer q.peer).isSome
  random : ∀ f q, v.randomPeer f = some q → f q.peer = true ∧ (r.locationForPeer q.peer).isSome
  routing : ∀ l req skip q, v.routing l req skip = some (some q) →
    q.peer ∉ skip ∧ (r.locationForPeer q.peer).isSome

/-- A node not connected to itself is never the answer of a sound view. -/
theorem ConnectView.Sound.avoids {r : Ring} {v : ConnectView} {d : PeerId} (hv : v.Sound r)
    (hd : r.locationForPeer d = none) : v.Avoids d where
  closest l skip q h := by
    obtain ⟨hskip, hc⟩ := hv.closest l skip q h
    exact ⟨hskip, fun e => by simp [e, hd] at hc⟩
  random f q h := by
    obtain ⟨hf, hc⟩ := hv.random f q h
    exact ⟨hf, fun e => by simp [e, hd] at hc⟩
  routing l req skip q h := by
    obtain ⟨hskip, hc⟩ := hv.routing l req skip q h
    exact ⟨hskip, fun e => by simp [e, hd] at hc⟩

namespace Connect

open ConnectCtx

section Lemmas

variable {cfg : ConnectConfig} {v : ConnectView}
  {sendOk : PeerId → ConnectMsg → Prop} {peerOk : PeerId → Prop} {abortOk : ConnectOp → Prop}

@[simp] theorem mem_extendPeers {s new : List PeerKeyLocation} {p : PeerKeyLocation} :
    p ∈ extendPeers s new ↔ p ∈ s ∨ p ∈ new := by
  induction new generalizing s with
  | nil => simp [extendPeers]
  | cons q new ih =>
      simp only [extendPeers, List.foldl_cons] at ih ⊢
      rw [ih, List.mem_insert_iff, List.mem_cons]
      tauto

/-- What `forward_conn` does: nothing, or one `Proxy` request with one hop
less, to a peer off the skip list other than the node itself, awaited in
`AwaitingProxyResponse`. -/
theorem forwardConn_spec (hv : v.Avoids cfg.peer) {c : ConnectCtx} {id : Transaction}
    {reqPeer joiner : PeerKeyLocation} {leftHtl : Nat} {acceptedBy : List PeerKeyLocation}
    {skipList : List PeerId} {r : Option ConnectState × ConnectCtx}
    (h : forwardConn cfg v c id reqPeer joiner leftHtl acceptedBy skipList = some r) :
    r = (none, c) ∨ ∃ f l, 0 < leftHtl ∧ joiner.location = some l ∧ f ∉ skipList ∧ f ≠ cfg.peer ∧
      r = (some (.awaitingProxyResponse reqPeer acceptedBy l joiner.peer),
        c.send f (.request id (.proxy (c.ownLocation cfg) joiner (leftHtl - 1) skipList acceptedBy))) := by
  unfold forwardConn at h
  split_ifs at h with h0 hn hr
  · exact .inl (Option.some.inj h).symm
  · exact .inl (Option.some.inj h).symm
  · -- a random peer off the skip list
    simp only [Option.bind_some] at h
    cases hf : v.randomPeer (fun p => !skipList.contains p) with
    | none =>
        simp only [hf, Option.some.injEq] at h
        exact .inl h.symm
    | some f =>
        simp only [hf] at h
        obtain ⟨l, hl, rfl⟩ := Option.map_eq_some_iff.mp h
        obtain ⟨hfilter, hne⟩ := hv.random _ f hf
        exact .inr ⟨f.peer, l, Nat.pos_of_ne_zero h0, hl, by simpa using hfilter, hne, rfl⟩
  · -- the peer routing finds, unless it is the joiner
    cases hj : joiner.location with
    | none => simp [hj] at h
    | some desired =>
        cases hq : v.routing desired (some reqPeer.peer) skipList with
        | none => simp [hj, hq] at h
        | some q =>
            simp only [hj, hq, Option.map_some, Option.bind_some] at h
            cases hfq : q.filter (·.peer != joiner.peer) with
            | none =>
                simp only [hfq, Option.some.injEq] at h
                exact .inl h.symm
            | some f =>
                simp only [hfq, Option.some.injEq] at h
                obtain ⟨rfl, -⟩ := Option.filter_eq_some_iff.mp hfq
                obtain ⟨hskip, hne⟩ := hv.routing _ _ _ _ hq
                exact .inr ⟨f.peer, desired, Nat.pos_of_ne_zero h0, rfl, hskip, hne, h.symm⟩

/-- `propagate_oc_to_responding_peers` opens a connection to its peer at
most, and sends its message to that peer only if it is not the sender. -/
theorem propagate_follows {c : ConnectCtx} {sender otherPeer : PeerKeyLocation} {msg : ConnectMsg}
    {r : Except ConnectError Unit × ConnectCtx}
    (h : propagateOcToRespondingPeers v c sender otherPeer msg = some r)
    (hsend : otherPeer.peer ≠ sender.peer → sendOk otherPeer.peer msg) (hpeer : peerOk otherPeer.peer) :
    Follows sendOk peerOk abortOk c r.2 := by
  unfold propagateOcToRespondingPeers at h
  cases hl : otherPeer.location with
  | none =>
      simp only [hl, Option.some.injEq] at h
      exact h ▸ Follows.refl c
  | some location =>
      simp only [hl] at h
      obtain ⟨a, ha, rfl⟩ := Option.map_eq_some_iff.mp h
      have hacc : Follows sendOk peerOk abortOk c a.1 := follows_of_shouldAccept ha
      split_ifs with hok hne
      · exact hacc.trans (follows_addBridge _ |>.trans
          (follows_addConnection location hpeer |>.trans (follows_send (hsend hne))))
      · exact hacc.trans (follows_addBridge _ |>.trans (follows_addConnection location hpeer))
      · exact hacc

theorem propagateAll_follows {sender : PeerKeyLocation} {mkMsg : PeerKeyLocation → ConnectMsg}
    {ps : List PeerKeyLocation} {c c' : ConnectCtx} (h : propagateAll v sender mkMsg ps c = some c')
    (hps : ∀ p ∈ ps, (p.peer ≠ sender.peer → sendOk p.peer (mkMsg p)) ∧ peerOk p.peer) :
    Follows sendOk peerOk abortOk c c' := by
  induction ps generalizing c with
  | nil => exact (Option.some.inj h) ▸ Follows.refl c
  | cons p ps ih =>
      obtain ⟨r, hr, hrest⟩ := Option.bind_eq_some_iff.mp h
      have hp := hps p List.mem_cons_self
      exact (propagate_follows hr hp.1 hp.2).trans
        (ih hrest fun q hq => hps q (List.mem_cons_of_mem p hq))

theorem propagateEach_follows {sender : PeerKeyLocation} {mkMsg : PeerKeyLocation → ConnectMsg}
    {ps : List PeerKeyLocation} {c : ConnectCtx} {r : Except ConnectError Unit × ConnectCtx}
    (h : propagateEach v sender mkMsg ps c = some r)
    (hps : ∀ p ∈ ps, (p.peer ≠ sender.peer → sendOk p.peer (mkMsg p)) ∧ peerOk p.peer) :
    Follows sendOk peerOk abortOk c r.2 := by
  induction ps generalizing c with
  | nil => exact (Option.some.inj h) ▸ Follows.refl c
  | cons p ps ih =>
      obtain ⟨r', hr', hrest⟩ := Option.bind_eq_some_iff.mp h
      have hp := hps p List.mem_cons_self
      have hfirst : Follows sendOk peerOk abortOk c r'.2 := propagate_follows hr' hp.1 hp.2
      -- an error stops the loop where it is
      cases he : r'.1 with
      | error e =>
          simp only [he, Option.some.injEq] at hrest
          exact hrest ▸ hfirst
      | ok u =>
          simp only [he] at hrest
          exact hfirst.trans (ih hrest fun q hq => hps q (List.mem_cons_of_mem p hq))

/-- `connect_request` of an operation connecting through a gateway pushes it
back as it is and sends the gateway `StartReq` with the operation's hops to
live. -/
theorem connectRequest_eq_ok {ring : Ring} {tx : Transaction} {op : ConnectOp}
    {info : ConnectionInfo} (hs : op.state = some (.connecting info)) :
    connectRequest ring tx op = some (.ok (⟨op.id, some (.connecting info), some info.gateway, op.backoff⟩,
      info.gateway, .request tx (.startReq info.gateway info.thisPeer ring.ownLocation
        info.maxHopsToLive info.maxHopsToLive))) := by
  simp [connectRequest, hs]

/-- A join that goes ahead pushes an operation of its transaction connecting
through the gateway, with the node as joiner, and sends the gateway
`StartReq` with the node's hops to live. -/
theorem joinRingRequest_eq_ok {ring : Ring} {b : Option ExponentialBackoff} {gateway : PeerKeyLocation}
    {txId : Transaction} {r : ConnectOp × PeerKeyLocation × ConnectMsg}
    (h : joinRingRequest cfg ring b gateway txId = some (.ok (some r))) :
    r.1.id = txId ∧ r.1.state = some (.connecting ⟨gateway, cfg.peer, cfg.maxHopsToLive⟩) ∧
      r.1.gateway = some gateway ∧ r.2.1 = gateway ∧
      r.2.2 = .request txId (.startReq gateway cfg.peer ring.ownLocation cfg.maxHopsToLive
        cfg.maxHopsToLive) := by
  -- both ways end in `connect_request` of the operation of `initial_request`
  have hreq : ∀ op : ConnectOp, op.id = txId →
      op.state = some (.connecting ⟨gateway, cfg.peer, cfg.maxHopsToLive⟩) →
      (connectRequest ring txId op).map (Except.map some) = some (.ok (some r)) →
      r.1.id = txId ∧ r.1.state = some (.connecting ⟨gateway, cfg.peer, cfg.maxHopsToLive⟩) ∧
        r.1.gateway = some gateway ∧ r.2.1 = gateway ∧
        r.2.2 = .request txId (.startReq gateway cfg.peer ring.ownLocation cfg.maxHopsToLive
          cfg.maxHopsToLive) := by
    intro op hid hs hc
    rw [connectRequest_eq_ok hs] at hc
    simp only [Option.map_some, Except.map, Option.some.injEq, Except.ok.injEq] at hc
    subst hc
    exact ⟨hid, rfl, rfl, rfl, rfl⟩
  unfold joinRingRequest at h
  cases b with
  | none => exact hreq _ rfl rfl h
  | some b =>
      obtain ⟨s, -, h⟩ := Option.bind_eq_some_iff.mp h
      split at h
      · split_ifs at h <;> simp at h
      · exact hreq _ rfl rfl h

end Lemmas

end Connect

end FreenetCore.Operations
