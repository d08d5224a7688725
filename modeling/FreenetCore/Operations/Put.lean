import FreenetCore.Operations.Common

/-!
The put operation (`operations/put.rs`).

The node that puts a contract's state sends `RequestPut` to itself, which
turns into a `SeekNode` to the peer closest to the contract. A peer that
gets a `SeekNode` or a `PutForward` stores the state when it seeds the
contract (`put_contract`), passes a `PutForward` to a closer peer if it
knows one and forgets about it (`forward_put`), and then
`try_to_broadcast`s the change: with subscribers to tell, it hands itself
`Broadcasting`, which sends `BroadcastTo` to each of them and
`SuccessfulPut` to the peer the change came from. A peer that gets a
`BroadcastTo` stores the value and broadcasts it on in the same way. A
`SuccessfulPut` finishes an operation waiting in `AwaitingResponse` and is
passed on to its upstream peer.

All messages of a put carry its one transaction id, so a `BroadcastTo` can
reach a node whose own operation for that transaction still waits in
`AwaitingResponse`, a state `try_to_broadcast` refuses.

Of `PutStats` the model keeps the recording step, which `finalized` reads;
the related contracts of a request, which only go to the contract handler,
are left out.
-/

namespace FreenetCore.Operations

open FreenetCore.WasmRuntime

/-- `PutState`. -/
inductive PutState
  | receivedRequest
  | prepareRequest (contract : ContractContainer) (value : List UInt8) (htl : Nat)
  | awaitingResponse (key : ContractKey) (upstream : Option PeerKeyLocation)
  | broadcastOngoing
  | finished (key : ContractKey)
  deriving DecidableEq

/-- `RecordingStats`: how far the timing of a put has got. -/
inductive RecordingStats
  | uninitialized
  | initPut
  | completed
  deriving DecidableEq

/-- `PutOp`, with its statistics as their recording step. -/
structure PutOp where
  id : Transaction
  state : Option PutState
  stats : Option RecordingStats
  deriving DecidableEq

/-- `PutMsg`. -/
inductive PutMsg
  | requestPut (id : Transaction) (contract : ContractContainer) (value : List UInt8) (htl : Nat)
      (target : PeerKeyLocation)
  | awaitPut (id : Transaction)
  | putForward (id : Transaction) (sender : PeerKeyLocation) (contract : ContractContainer)
      (newValue : List UInt8) (htl : Nat) (skipList : List PeerId)
  | successfulPut (id : Transaction) (target : PeerKeyLocation)
  | seekNode (id : Transaction) (sender target : PeerKeyLocation) (value : List UInt8)
      (contract : ContractContainer) (htl : Nat)
  | broadcasting (id : Transaction) (broadcastedTo : Nat) (broadcastTo : List PeerKeyLocation)
      (key : ContractKey) (newValue : List UInt8) (contract : ContractContainer)
      (upstream : PeerKeyLocation)
  | broadcastTo (id : Transaction) (sender : PeerKeyLocation) (key : ContractKey)
      (newValue : List UInt8) (contract : ContractContainer)
  deriving DecidableEq

/-- `PutMsg::id`. -/
def PutMsg.id : PutMsg → Transaction
  | .requestPut id .. | .awaitPut id | .putForward id .. | .successfulPut id _ | .seekNode id ..
  | .broadcasting id .. | .broadcastTo id .. => id

/-- `PutMsg::target`: the peer `handle_op_result` sends the message to. -/
def PutMsg.target : PutMsg → Option PeerKeyLocation
  | .seekNode _ _ target .. | .requestPut _ _ _ _ target | .successfulPut _ target => some target
  | _ => none

/-- `PutOp::finalized`. -/
def PutOp.finalized (op : PutOp) : Bool :=
  op.stats == some .completed ||
    match op.state with
    | some (.finished _) => true
    | _ => false

/-- `PutOp::to_host_result`: `PutResponse` with the key, or the error the
client gets. -/
def PutOp.toHostResult (op : PutOp) : Except String ContractKey :=
  match op.state with
  | some (.finished key) => .ok key
  | _ => .error "put didn\x27t finish successfully"

/-- What the contract handler answers to a `PutQuery`: `PutResponse` with
the new value, `PutResponse` with an error, an error of its channel, or
another event. -/
inductive PutQueryAnswer
  | putResponse (newValue : List UInt8)
  | rejected
  | channelError
  | otherEvent

/-- What a put step consults: the ring's routing, seeding and subscribers,
what `seed_contract` drops to make room (`none` is its `unwrap` on an empty
map), and the contract handler's answers. -/
structure PutView where
  closestPotentiallyCaching : ContractKey → List PeerId → Option PeerKeyLocation
  shouldSeed : ContractKey → Bool
  isSeedingContract : ContractKey → Bool
  subscribersOf : ContractKey → Option (List PeerKeyLocation)
  seedContract : ContractKey → Option (Option ContractKey × List PeerKeyLocation)
  putQuery : ContractKey → List UInt8 → ContractContainer → PutQueryAnswer

/-- What a put step does besides its result: the messages it sends on the
spot (`PutForward`, `BroadcastTo`), the `Unsubscribed` notices for the
contract `seed_contract` dropped, the contract it started seeding, and the
subscription it starts (`start_subscription_request`). -/
structure PutEffects where
  sent : List (PeerId × PutMsg) := []
  unsubscribed : List (PeerId × ContractKey) := []
  seeded : Option ContractKey := none
  subscribe : Option ContractKey := none

/-- One `process_message` of a put: its effects, the message and operation
`notify_op_change` hands back before `StatePushed`, and its result. -/
structure PutStep extends PutEffects where
  pushed : Option (PutMsg × PutOp) := none
  result : Except OpError (OperationResult PutMsg PutOp)

/-- `build_op_result`: the operation always comes back. -/
def buildOpResult (id : Transaction) (state : Option PutState) (msg : Option PutMsg)
    (stats : Option RecordingStats) : OperationResult PutMsg PutOp :=
  ⟨msg, some ⟨id, state, stats⟩⟩

/-- `get_broadcast_targets`: the contract's subscribers but the sender. -/
def getBroadcastTargets (view : PutView) (key : ContractKey) (sender : PeerId) :
    List PeerKeyLocation :=
  ((view.subscribersOf key).map fun subs => subs.filter (·.peer != sender)).getD []

/-- `put_contract`: the value the contract handler stored; `none` is the
`todo!` a rejected value reaches. -/
def putContract (view : PutView) (key : ContractKey) (state : List UInt8)
    (contract : ContractContainer) : ExceptT OpError Option (List UInt8) :=
  ExceptT.mk <|
    match view.putQuery key state contract with
    | .putResponse newVal => some (.ok newVal)
    | .rejected => none
    | .channelError => some (.error .contractHandler)
    | .otherEvent => some (.error .unexpectedOpState)

/-- `forward_put`: whether this node is where the contract goes, and the
`PutForward` it sent to a closer peer; `none` is the `expect` on a node
without a location. -/
def forwardPut (cfg : NodeConfig) (view : PutView) (contract : ContractContainer)
    (newValue : List UInt8) (id : Transaction) (htl : Nat) (skipList : List PeerId) :
    Option (Bool × List (PeerId × PutMsg)) :=
  let key := contract.key
  let contractLoc := Location.fromContractKey key.id.val
  let forwardTo := view.closestPotentiallyCaching key skipList
  match cfg.ownLocation.location with
  | none => none
  | some ownLoc =>
      match forwardTo with
      | none => some (true, [])
      | some peer =>
          match peer.location with
          | none => none
          | some otherLoc =>
              if Location.distance contractLoc otherLoc < Location.distance contractLoc ownLoc then
                -- fire and forget: the op is not kept for the answer
                some (false, [(peer.peer, .putForward id cfg.ownLocation contract newValue htl skipList)])
              else some (true, [])

/-- `try_to_broadcast`: the state and message to return, or the operation
and `Broadcasting` message `notify_op_change` hands back, with the
`StatePushed` that follows. -/
def tryToBroadcast (id : Transaction) (lastHop : Bool) (state : Option PutState)
    (broadcastTo : List PeerKeyLocation) (upstream : PeerKeyLocation) (key : ContractKey)
    (contract : ContractContainer) (newValue : List UInt8) :
    Option (PutMsg × PutOp) × Except OpError (Option PutState × Option PutMsg) :=
  match state with
  | some .receivedRequest | some .broadcastOngoing =>
      if broadcastTo.isEmpty && !lastHop then
        -- the whole transaction finished here
        (none, .ok (some (.awaitingResponse key (some upstream)), none))
      else if !broadcastTo.isEmpty then
        (some (.broadcasting id 0 broadcastTo key newValue contract upstream,
            ⟨id, some .broadcastOngoing, none⟩), .error .statePushed)
      else (none, .ok (none, some (.successfulPut id upstream)))
  | _ => (none, .error (.invalidTransition id))

/-- The end of the `SeekNode`, `BroadcastTo` and `PutForward` branches:
`try_to_broadcast`, then `build_op_result` on what it returns. -/
def broadcastStep (op : PutOp) (fx : PutEffects) (id : Transaction) (lastHop : Bool)
    (broadcastTo : List PeerKeyLocation) (upstream : PeerKeyLocation) (key : ContractKey)
    (contract : ContractContainer) (newValue : List UInt8) : PutStep :=
  let attempt := tryToBroadcast id lastHop op.state broadcastTo upstream key contract newValue
  { toPutEffects := fx
    pushed := attempt.1
    result := attempt.2.map fun r => buildOpResult op.id r.1 r.2 op.stats }

/-- The store-and-forward part of the `SeekNode` branch: whether this node
is the last hop, with the `PutForward` it sent. -/
def seekNodeHop (cfg : NodeConfig) (view : PutView) (id : Transaction) (sender : PeerKeyLocation)
    (contract : ContractContainer) (value : List UInt8) (htl : Nat) :
    ExceptT OpError Option (Bool × PutEffects) := do
  let key := contract.key
  let isSubscribedContract := view.isSeedingContract key
  if isSubscribedContract || view.shouldSeed key then
    discard <| putContract view key value contract
  match htl with
  | 0 =>
      -- no hops left: the contract goes here
      discard <| putContract view key value contract
      return (true, {})
  | newHtl + 1 =>
      let (putHere, sent) ← ExceptT.lift (forwardPut cfg view contract value id newHtl [sender.peer])
      if putHere && !isSubscribedContract then
        discard <| putContract view key value contract
      return (putHere, { sent })

/-- The store-and-forward part of the `PutForward` branch: whether this
node is the last hop, with the `PutForward` it sent, and the seeding it
started with the `Unsubscribed` notices for the contract that made room. -/
def putForwardHop (cfg : NodeConfig) (view : PutView) (id : Transaction)
    (sender : PeerKeyLocation) (contract : ContractContainer) (newValue : List UInt8) (htl : Nat)
    (skipList : List PeerId) : ExceptT OpError Option (Bool × PutEffects) := do
  let key := contract.key
  let shouldSeed := view.shouldSeed key
  if shouldSeed then
    discard <| putContract view key newValue contract
  match htl with
  | 0 =>
      discard <| putContract view key newValue contract
      return (true, {})
  | newHtl + 1 =>
      let newSkipList := skipList ++ [sender.peer]
      let (putHere, sent) ← ExceptT.lift (forwardPut cfg view contract newValue id newHtl newSkipList)
      if putHere && !view.isSeedingContract key && shouldSeed then
        discard <| putContract view key newValue contract
        let (droppedContract, oldSubscribers) ← ExceptT.lift (view.seedContract key)
        let unsubscribed := match droppedContract with
          | some dropped => oldSubscribers.map fun s => (s.peer, dropped)
          | none => []
        return (putHere, { sent, unsubscribed, seeded := some key })
      return (putHere, { sent })

/-- `PutOp::process_message`; `none` is a panic. -/
def PutOp.processMessage (cfg : NodeConfig) (view : PutView) (op : PutOp) :
    PutMsg → Option PutStep
  | .requestPut id contract value htl target =>
      -- no changes to the state yet, still in `AwaitingResponse`
      some { result := .ok (buildOpResult op.id op.state
        (some (.seekNode id cfg.ownLocation target value contract htl)) op.stats) }
  | .seekNode id sender _ value contract htl =>
      (seekNodeHop cfg view id sender contract value htl).run.map fun
        | .error e => { result := .error e }
        | .ok (lastHop, fx) =>
            broadcastStep op fx id lastHop (getBroadcastTargets view contract.key sender.peer)
              sender contract.key contract value
  | .broadcastTo id sender key newValue contract =>
      (putContract view key newValue contract).run.map fun
        | .error e => { result := .error e }
        | .ok newValue =>
            broadcastStep op {} id false (getBroadcastTargets view key sender.peer) sender key
              contract newValue
  | .broadcasting id _ broadcastTo key newValue contract upstream =>
      let sender := cfg.ownLocation
      -- the subscribers have been told, the operation is completed here
      some { sent := broadcastTo.map fun peer => (peer.peer, .broadcastTo id sender key newValue contract)
             result := .ok (buildOpResult op.id none (some (.successfulPut id upstream)) op.stats) }
  | .successfulPut id _ =>
      match op.state with
      | some (.awaitingResponse key upstream) =>
          let subscribe := if !view.isSeedingContract key && view.shouldSeed key then some key else none
          some { subscribe
                 result := .ok (buildOpResult op.id (some (.finished key))
                   (upstream.map (PutMsg.successfulPut id ·)) op.stats) }
      | _ => some { result := .error (.invalidTransition op.id) }
  | .putForward id sender contract newValue htl skipList =>
      (putForwardHop cfg view id sender contract newValue htl skipList).run.map fun
        | .error e => { result := .error e }
        | .ok (lastHop, fx) =>
            broadcastStep op fx id lastHop (getBroadcastTargets view contract.key sender.peer)
              sender contract.key contract newValue
  | .awaitPut _ => some { result := .error .unexpectedOpState }

/-- `start_op`, with the id `Transaction::new::<PutMsg>()` draws. -/
def Put.startOp (contract : ContractContainer) (value : List UInt8) (htl : Nat)
    (id : Transaction) : PutOp :=
  ⟨id, some (.prepareRequest contract value htl), some .uninitialized⟩

/-- `request_put`: the operation the originator keeps and the `RequestPut`
it sends itself. -/
def requestPut (cfg : NodeConfig) (view : PutView) (putOp : PutOp) :
    Except OpError (PutOp × PutMsg) :=
  match putOp.state with
  | some (.prepareRequest contract value htl) =>
      let key := contract.key
      match view.closestPotentiallyCaching key [cfg.ownLocation.peer] with
      | none => .error (.ringError .emptyRing)
      | some target =>
          .ok (⟨putOp.id, some (.awaitingResponse key none), putOp.stats⟩,
            .requestPut putOp.id contract value htl target)
  | _ => .error .unexpectedOpState


/-! ### What a step hands back -/

section Steps

variable {cfg : NodeConfig} {view : PutView} {op : PutOp} {id : Transaction} {lastHop : Bool}
  {state : Option PutState} {broadcastTo : List PeerKeyLocation} {upstream : PeerKeyLocation}
  {key : ContractKey} {contract : ContractContainer} {newValue : List UInt8}

/-- `try_to_broadcast` refuses every state but a received request and an
ongoing broadcast. -/
theorem tryToBroadcast_refused (hr : state ≠ some .receivedRequest)
    (hb : state ≠ some .broadcastOngoing) :
    tryToBroadcast id lastHop state broadcastTo upstream key contract newValue =
      (none, .error (.invalidTransition id)) := by
  unfold tryToBroadcast
  split
  · exact absurd rfl hr
  · exact absurd rfl hb
  · rfl

/-- A received request or an ongoing broadcast with subscribers to tell
hands itself `Broadcasting`. -/
theorem tryToBroadcast_broadcasting
    (hs : state = some .receivedRequest ∨ state = some .broadcastOngoing) (hne : broadcastTo ≠ []) :
    tryToBroadcast id lastHop state broadcastTo upstream key contract newValue =
      (some (.broadcasting id 0 broadcastTo key newValue contract upstream,
        ⟨id, some .broadcastOngoing, none⟩), .error .statePushed) := by
  have hne' : broadcastTo.isEmpty = false := List.isEmpty_eq_false_iff.mpr hne
  rcases hs with rfl | rfl <;> simp [tryToBroadcast, hne']

/-- A node with a location that knows no peer to pass the put to is where
the contract goes. -/
theorem forwardPut_of_no_peer {htl : Nat} {skipList : List PeerId}
    (hloc : cfg.ownLocation.location.isSome)
    (hroute : view.closestPotentiallyCaching contract.key skipList = none) :
    forwardPut cfg view contract newValue id htl skipList = some (true, []) := by
  obtain ⟨loc, hl⟩ := Option.isSome_iff_exists.mp hloc
  simp [forwardPut, hl, hroute]

/-- `forward_put` and `seed_contract` answer in `Option`; lifted, an answer
is a `pure` one. -/
theorem lift_some {α : Type} (x : α) : (ExceptT.lift (some x) : ExceptT OpError Option α) = pure x :=
  ExceptT.lift_pure x

theorem putContract_of_putResponse {state v : List UInt8}
    (h : view.putQuery key state contract = .putResponse v) :
    putContract view key state contract = pure v := by
  simp [putContract, h]
  rfl

/-- A `SeekNode` with hops left at a node that takes the value and knows no
closer peer makes the node the last hop. -/
theorem seekNodeHop_last {sender : PeerKeyLocation} {htl : Nat} {v : List UInt8}
    (hput : view.putQuery contract.key newValue contract = .putResponse v)
    (hloc : cfg.ownLocation.location.isSome)
    (hroute : view.closestPotentiallyCaching contract.key [sender.peer] = none) (hhtl : 0 < htl) :
    (seekNodeHop cfg view id sender contract newValue htl).run = some (.ok (true, {})) := by
  obtain ⟨k, rfl⟩ := Nat.exists_eq_add_one_of_ne_zero hhtl.ne'
  have hfwd : forwardPut cfg view contract newValue id k [sender.peer] = some (true, []) :=
    forwardPut_of_no_peer hloc hroute
  -- the value is stored once or twice, as the node seeds the contract or not
  simp [seekNodeHop, putContract_of_putResponse hput, hfwd, lift_some, discard]
  split_ifs <;> rfl

/-- A step hands back what it files under the right ids: the operation of
its result is the one it ran, and the operation `notify_op_change` pushes
carries its message's id. -/
structure PutStep.Filed (op : PutOp) (step : PutStep) : Prop where
  result : ∀ m o, step.result = .ok ⟨m, some o⟩ → o.id = op.id
  pushed : ∀ m o, step.pushed = some (m, o) → o.id = m.id

theorem PutStep.filed_error (e : OpError) : PutStep.Filed op { result := .error e } :=
  ⟨by simp, by simp⟩

/-- Only the branch that hands itself `Broadcasting` pushes an operation. -/
theorem tryToBroadcast_pushed {m : PutMsg} {o : PutOp}
    (h : (tryToBroadcast id lastHop state broadcastTo upstream key contract newValue).1 =
      some (m, o)) :
    m = .broadcasting id 0 broadcastTo key newValue contract upstream ∧
      o = ⟨id, some .broadcastOngoing, none⟩ := by
  unfold tryToBroadcast at h
  split at h
  -- a received request and an ongoing broadcast go the same way
  · split_ifs at h
    simp_all
  · split_ifs at h
    simp_all
  · cases h

theorem broadcastStep_filed (fx : PutEffects) :
    (broadcastStep op fx id lastHop broadcastTo upstream key contract newValue).Filed op := by
  constructor
  · intro m o h
    simp only [broadcastStep, Except.map] at h
    split at h
    · cases h
    · simp only [Except.ok.injEq, buildOpResult, OperationResult.mk.injEq, Option.some.injEq] at h
      rw [← h.2]
  · intro m o h
    obtain ⟨rfl, rfl⟩ := tryToBroadcast_pushed h
    rfl

/-- Every step of `process_message` files what it hands back. -/
theorem processMessage_filed {msg : PutMsg} {step : PutStep}
    (h : op.processMessage cfg view msg = some step) : step.Filed op := by
  cases msg with
  | requestPut =>
      cases h
      exact ⟨by simp [buildOpResult], by simp⟩
  | awaitPut => cases h; exact PutStep.filed_error _
  | broadcasting =>
      cases h
      exact ⟨by simp [buildOpResult], by simp⟩
  | successfulPut =>
      simp only [PutOp.processMessage] at h
      split at h <;> cases h
      · exact ⟨by simp [buildOpResult], by simp⟩
      · exact PutStep.filed_error _
  | seekNode | broadcastTo | putForward =>
      simp only [PutOp.processMessage] at h
      obtain ⟨r, -, rfl⟩ := Option.map_eq_some_iff.mp h
      split
      · exact PutStep.filed_error _
      · exact broadcastStep_filed _

/-- A `BroadcastTo` that reaches an operation waiting for its answer is an
invalid transition, once the contract handler has taken the value. -/
theorem processMessage_broadcastTo_waiting {sender : PeerKeyLocation} {v : List UInt8}
    {k : ContractKey} {up : Option PeerKeyLocation}
    (hwait : op.state = some (.awaitingResponse k up))
    (hput : view.putQuery key newValue contract = .putResponse v) :
    op.processMessage cfg view (.broadcastTo id sender key newValue contract) =
      some { result := .error (.invalidTransition id) } := by
  have hrefused : tryToBroadcast id false op.state (getBroadcastTargets view key sender.peer)
      sender key contract v = (none, .error (.invalidTransition id)) :=
    tryToBroadcast_refused (by simp [hwait]) (by simp [hwait])
  simp [PutOp.processMessage, putContract, hput, broadcastStep, hrefused, Except.map]

end Steps

end FreenetCore.Operations
