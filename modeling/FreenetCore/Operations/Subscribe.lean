import FreenetCore.Operations.Get

/-!
The subscribe operation (`operations/subscribe.rs`), and the hop count of
`SeekNode` in both the get and the subscribe operation.

A node asked to subscribe that does not have the contract forwards the
`SeekNode` with one hop less; one that has it adds the subscriber to its
ring and answers `ReturnSub`. A `ReturnSub` that did not subscribe makes the
waiting node retry with another peer.

The hop count and the retry count of a `SeekNode` come off the wire. Both
operations compute `htl - 1` on the received count before they compare the
result with zero, so a `SeekNode` with no hop left makes the subtraction
overflow: a debug build panics, a release build forwards the request with
the largest count there is.

The `debug_assert!` that a `RequestSub` finds its operation awaiting a
response is left out, as in the get operation: `request_subscribe` leaves it
so before it sends the message.
-/

namespace FreenetCore.Operations

open FreenetCore.WasmRuntime MachineInt

/-- `MAX_RETRIES` of the subscribe operation. -/
def subscribeMaxRetries : Nat := 10

/-- `SubscribeState`. -/
inductive SubscribeState
  | prepareRequest (id : Transaction) (key : ContractKey)
  | receivedRequest
  | awaitingResponse (skipList : List PeerId) (retries : Nat)
      (upstreamSubscriber : Option PeerKeyLocation) (currentHop : Nat)
  | completed
  deriving DecidableEq

/-- `SubscribeOp`. -/
structure SubscribeOp where
  id : Transaction
  state : Option SubscribeState
  deriving DecidableEq

/-- `SubscribeMsg`. -/
inductive SubscribeMsg
  | fetchRouting (id : Transaction) (target : PeerKeyLocation)
  | requestSub (id : Transaction) (key : ContractKey) (target : PeerKeyLocation)
  | seekNode (id : Transaction) (key : ContractKey) (target subscriber : PeerKeyLocation)
      (skipList : List PeerId) (htl retries : Nat)
  | returnSub (id : Transaction) (key : ContractKey) (sender target : PeerKeyLocation)
      (subscribed : Bool)
  deriving DecidableEq

/-- `SubscribeOp::finalized`. -/
def SubscribeOp.finalized (op : SubscribeOp) : Bool :=
  op.state == some .completed

/-- `SubscribeMsg::id`. -/
def SubscribeMsg.id : SubscribeMsg → Transaction
  | .fetchRouting id .. | .requestSub id .. | .seekNode id .. | .returnSub id .. => id

/-- `SubscribeMsg::target`: the peer the message is sent to; a `RequestSub`
goes to the node's own event loop. -/
def SubscribeMsg.target : SubscribeMsg → Option PeerKeyLocation
  | .seekNode _ _ target .. | .returnSub _ _ _ target _ => some target
  | _ => none

/-- How a `GetQuery` to the contract handler fails: its channel fails, an
error that `?` turns into `OpError::ContractError`, or the handler answers
`GetResponse` with an `Err`. -/
inductive GetQueryError
  | channel
  | response
  deriving DecidableEq

/-- What a subscribe step consults: the ring's routing, the contract
handler's answer to `GetQuery` (for `has_contract`), and whether the ring
takes one more subscriber for a contract. -/
structure SubscribeView where
  closestPotentiallyCaching : ContractKey → List PeerId → Option PeerKeyLocation
  getQuery : ContractKey → Bool → Except GetQueryError StoreResponse
  addSubscriber : ContractKey → PeerKeyLocation → Bool

/-- One `process_message` of a subscribe, with the subscriber it added to
the ring (`add_subscriber`) and the subscription it registered
(`register_subscription`). -/
structure SubscribeStep where
  addedSubscriber : Option (ContractKey × PeerKeyLocation)
  registered : Option (ContractKey × PeerKeyLocation)
  result : Except OpError (OperationResult SubscribeMsg SubscribeOp)

/-- `build_op_result`: no state is no operation. -/
def subscribeOpResult (id : Transaction) (state : Option SubscribeState)
    (msg : Option SubscribeMsg) : OperationResult SubscribeMsg SubscribeOp :=
  ⟨msg, state.map fun state => ⟨id, some state⟩⟩

/-- `has_contract`: whether the handler has a state for the key. An `Err`
answer falls to the match's last arm, `UnexpectedOpState`. -/
def hasContract (view : SubscribeView) (key : ContractKey) : Except OpError Bool :=
  match view.getQuery key false with
  | .ok ⟨some _, _⟩ => .ok true
  | .ok ⟨none, _⟩ => .ok false
  | .error .channel => .error .contractHandler
  | .error .response => .error .unexpectedOpState

/-- A step with no effect on the ring. -/
def subscribeStep (result : Except OpError (OperationResult SubscribeMsg SubscribeOp)) :
    SubscribeStep :=
  ⟨none, none, result⟩

/-- `SubscribeOp::process_message`; `none` is a panic, or the undefined
behaviour of `transaction_type` on an id with no type. -/
def SubscribeOp.processMessage (cfg : NodeConfig) (view : SubscribeView) (op : SubscribeOp) :
    SubscribeMsg → Option SubscribeStep
  | .requestSub id key target =>
      -- fast tracked from `request_subscribe`
      let sender := cfg.ownLocation
      some (subscribeStep (.ok (subscribeOpResult op.id op.state
        (some (.seekNode id key target sender [sender.peer] cfg.maxHopsToLive 0)))))
  | .seekNode id key target subscriber skipList htl retries =>
      let thisPeer := cfg.ownLocation
      let returnNotSubbed : OperationResult SubscribeMsg SubscribeOp :=
        ⟨some (.returnSub id key thisPeer subscriber false), none⟩
      match hasContract view key with
      | .error e => some (subscribeStep (.error e))
      | .ok false =>
          match view.closestPotentiallyCaching key skipList with
          | none => some (subscribeStep (.ok returnNotSubbed))
          | some newTarget =>
              match subUsize cfg.profile htl 1 with
              | none => none
              | some newHtl =>
                  if newHtl = 0 then some (subscribeStep (.ok returnNotSubbed))
                  else
                    let newSkipList := skipList ++ [target.peer]
                    -- retry seek node when the contract to subscribe has not been found here
                    some (subscribeStep (.ok (subscribeOpResult id
                      (some (.awaitingResponse newSkipList retries (some subscriber) newHtl))
                      (some (.seekNode id key newTarget thisPeer newSkipList newHtl retries)))))
      | .ok true =>
          if !view.addSubscriber key subscriber then some (subscribeStep (.ok returnNotSubbed))
          else
            let added := some (key, subscriber)
            match op.state with
            | some .receivedRequest =>
                some ⟨added, none, .ok (subscribeOpResult op.id none
                  (some (.returnSub id key target subscriber true)))⟩
            | _ => some ⟨added, none, .error (.invalidTransition op.id)⟩
  | .returnSub id key sender _ false =>
      match op.state with
      | some (.awaitingResponse skipList retries upstreamSubscriber currentHop) =>
          if retries < subscribeMaxRetries then
            let skipList := skipList ++ [sender.peer]
            match view.closestPotentiallyCaching key skipList with
            | some target =>
                some (subscribeStep (.ok (subscribeOpResult op.id
                  (some (.awaitingResponse skipList (retries + 1) upstreamSubscriber currentHop))
                  (some (.seekNode id key target cfg.ownLocation skipList currentHop (retries + 1))))))
            | none => some (subscribeStep (.error (.ringError (.noCachingPeers key))))
          else
            match id.transactionType with
            | none => none
            | some ty => some (subscribeStep (.error (.maxRetriesExceeded id ty)))
      | _ => some (subscribeStep (.error (.invalidTransition op.id)))
  | .returnSub id key sender target true =>
      match op.state with
      | some (.awaitingResponse _ _ upstreamSubscriber _) =>
          let msg := upstreamSubscriber.map fun upstream => SubscribeMsg.returnSub id key target upstream true
          some ⟨none, some (key, sender), .ok (subscribeOpResult op.id (some .completed) msg)⟩
      | _ => some (subscribeStep (.error (.invalidTransition op.id)))
  | .fetchRouting .. => some (subscribeStep (.error .unexpectedOpState))

/-! ### Hops to live -/

/-- The hop count a get message carries, if it is a `SeekNode`. -/
def GetMsg.seekHtl : GetMsg → Option Nat
  | .seekNode _ _ _ _ _ htl _ => some htl
  | _ => none

/-- The hop count a subscribe message carries, if it is a `SeekNode`. -/
def SubscribeMsg.seekHtl : SubscribeMsg → Option Nat
  | .seekNode _ _ _ _ _ htl _ => some htl
  | _ => none

/-- A get's `SeekNode` with at least one hop left is processed without a
panic, and a `SeekNode` it forwards carries one hop less. -/
theorem get_seekNode_htl_decreases (cfg : NodeConfig) (view : GetView) (op : GetOp)
    (id : Transaction) (key : ContractKey) (fetchContract : Bool) (target sender : PeerKeyLocation)
    (htl : Nat) (skipList : List PeerId) (hhtl : 1 ≤ htl) :
    ∃ step, op.processMessage cfg view (.seekNode id key fetchContract target sender htl skipList) = some step ∧
      ∀ msg o h, step.result = .ok ⟨some msg, o⟩ → msg.seekHtl = some h → h + 1 = htl := by
  simp only [GetOp.processMessage]
  split
  · -- the contract is here: the answer is a `ReturnGet`, or nothing
    split
    · exact ⟨_, rfl, fun _ _ _ hres hmsg => by cases hres; cases hmsg⟩
    · exact ⟨_, rfl, fun _ _ _ hres => by cases hres⟩
    · exact ⟨_, rfl, fun _ _ _ hres hmsg => by cases hres; cases hmsg⟩
    · exact ⟨_, rfl, fun _ _ _ hres => by cases hres⟩
  · simp only [tryForwardOrReturn, subUsize_of_le hhtl]
    split
    · -- no hop left after this one: a `ReturnGet` back to the sender
      exact ⟨_, rfl, fun _ _ _ hres hmsg => by cases hres; cases hmsg⟩
    · split
      · exact ⟨_, rfl, fun _ _ _ hres => by cases hres⟩
      · refine ⟨_, rfl, fun _ _ _ hres hmsg => ?_⟩
        cases hres
        cases hmsg
        omega

/-- A subscribe's `SeekNode` with at least one hop left is processed without
a panic, and a `SeekNode` it forwards carries one hop less. -/
theorem subscribe_seekNode_htl_decreases (cfg : NodeConfig) (view : SubscribeView)
    (op : SubscribeOp) (id : Transaction) (key : ContractKey) (target subscriber : PeerKeyLocation)
    (skipList : List PeerId) (htl retries : Nat) (hhtl : 1 ≤ htl) :
    ∃ step, op.processMessage cfg view (.seekNode id key target subscriber skipList htl retries) = some step ∧
      ∀ msg o h, step.result = .ok ⟨some msg, o⟩ → msg.seekHtl = some h → h + 1 = htl := by
  simp only [SubscribeOp.processMessage, subUsize_of_le hhtl]
  split
  · -- the handler failed
    exact ⟨_, rfl, fun _ _ _ hres => by cases hres⟩
  · -- not here: forward, or answer that it did not subscribe
    split
    · exact ⟨_, rfl, fun _ _ _ hres hmsg => by cases hres; cases hmsg⟩
    · split
      · exact ⟨_, rfl, fun _ _ _ hres hmsg => by cases hres; cases hmsg⟩
      · refine ⟨_, rfl, fun _ _ _ hres hmsg => ?_⟩
        cases hres
        cases hmsg
        omega
  · -- here: the answer is a `ReturnSub`
    split
    · exact ⟨_, rfl, fun _ _ _ hres hmsg => by cases hres; cases hmsg⟩
    · split
      · exact ⟨_, rfl, fun _ _ _ hres hmsg => by cases hres; cases hmsg⟩
      · exact ⟨_, rfl, fun _ _ _ hres => by cases hres⟩

/-- The hop count of `SeekNode`, in both operations: a `SeekNode` with at
least one hop left is processed without a panic, and a `SeekNode` sent in
answer carries one hop less. -/
theorem seekNode_htl_decreases (htl : Nat) (hhtl : 1 ≤ htl) :
    (∀ (cfg : NodeConfig) (view : GetView) (op : GetOp) id key fetchContract target sender skipList,
      ∃ step, op.processMessage cfg view (.seekNode id key fetchContract target sender htl skipList) = some step ∧
        ∀ msg o h, step.result = .ok ⟨some msg, o⟩ → msg.seekHtl = some h → h + 1 = htl) ∧
    (∀ (cfg : NodeConfig) (view : SubscribeView) (op : SubscribeOp) id key target subscriber skipList retries,
      ∃ step, op.processMessage cfg view (.seekNode id key target subscriber skipList htl retries) = some step ∧
        ∀ msg o h, step.result = .ok ⟨some msg, o⟩ → msg.seekHtl = some h → h + 1 = htl) :=
  ⟨fun cfg view op id key fetchContract target sender skipList =>
      get_seekNode_htl_decreases cfg view op id key fetchContract target sender htl skipList hhtl,
    fun cfg view op id key target subscriber skipList retries =>
      subscribe_seekNode_htl_decreases cfg view op id key target subscriber skipList htl retries hhtl⟩

/-- A get's and a subscribe's `SeekNode` with three hops left, at a node
with nothing stored and a peer `1` to forward to. -/
theorem seekNode_htl_decreases_three :
    let cfg : NodeConfig := ⟨10, ⟨0, none⟩, .debug⟩
    let getView : GetView := ⟨fun _ _ => some ⟨1, none⟩, fun _ => false, fun _ => false,
      fun _ _ => .ok ⟨none, none⟩, fun _ _ _ => .ok⟩
    let subView : SubscribeView := ⟨fun _ _ => some ⟨1, none⟩, fun _ _ => .ok ⟨none, none⟩, fun _ _ => true⟩
    let getId := Transaction.new .get 0
    let subId := Transaction.new .subscribe 0
    1 ≤ 3 ∧
      (∃ step, (⟨getId, none, none⟩ : GetOp).processMessage cfg getView
          (.seekNode getId ⟨.replicate 1, none⟩ false ⟨0, none⟩ ⟨2, none⟩ 3 []) = some step ∧
        ∀ msg o h, step.result = .ok ⟨some msg, o⟩ → msg.seekHtl = some h → h + 1 = 3) ∧
      ∃ step, (⟨subId, none⟩ : SubscribeOp).processMessage cfg subView
          (.seekNode subId ⟨.replicate 1, none⟩ ⟨0, none⟩ ⟨2, none⟩ [] 3 0) = some step ∧
        ∀ msg o h, step.result = .ok ⟨some msg, o⟩ → msg.seekHtl = some h → h + 1 = 3 :=
  have h := seekNode_htl_decreases 3 (by decide)
  ⟨by decide, h.1 _ _ _ _ _ _ _ _ [], h.2 _ _ _ _ _ _ _ [] 0⟩

/-- A `SeekNode` with no hop left, received by a node that does not have
the contract and has a peer to forward to: in both operations a debug build
panics on `htl - 1`, and a release build forwards the request with the
largest `usize` as its hop count. -/
theorem seekNode_zero_htl_overflows (cfg : NodeConfig) (getView : GetView) (getOp : GetOp)
    (subView : SubscribeView) (subOp : SubscribeOp) (id : Transaction) (key : ContractKey)
    (fetchContract : Bool) (target sender subscriber newTarget : PeerKeyLocation)
    (skipList : List PeerId) (retries : Nat) (contract : Option ContractContainer)
    (hget : getView.getQuery key fetchContract = .ok ⟨none, contract⟩)
    (hgetNext : getView.closestPotentiallyCaching key (skipList ++ [target.peer]) = some newTarget)
    (hsub : subView.getQuery key false = .ok ⟨none, contract⟩)
    (hsubNext : subView.closestPotentiallyCaching key skipList = some newTarget) :
    getOp.processMessage { cfg with profile := .debug } getView
        (.seekNode id key fetchContract target sender 0 skipList) = none ∧
      subOp.processMessage { cfg with profile := .debug } subView
        (.seekNode id key target subscriber skipList 0 retries) = none ∧
      (getOp.processMessage { cfg with profile := .release } getView
          (.seekNode id key fetchContract target sender 0 skipList)).map GetStep.result =
        some (.ok ⟨some (.seekNode id key fetchContract newTarget target (2 ^ 64 - 1)
            (skipList ++ [target.peer])),
          some ⟨id, some (.awaitingResponse (some sender) fetchContract 0 (2 ^ 64 - 1)), none⟩⟩) ∧
      (subOp.processMessage { cfg with profile := .release } subView
          (.seekNode id key target subscriber skipList 0 retries)).map SubscribeStep.result =
        some (.ok ⟨some (.seekNode id key newTarget cfg.ownLocation (skipList ++ [target.peer])
            (2 ^ 64 - 1) retries),
          some ⟨id, some (.awaitingResponse (skipList ++ [target.peer]) retries (some subscriber)
            (2 ^ 64 - 1))⟩⟩) := by
  have hwrap : subUsize .release 0 1 = some (2 ^ 64 - 1) := by decide
  refine ⟨?_, ?_, ?_, ?_⟩
  · simp [GetOp.processMessage, hget, tryForwardOrReturn, subUsize]
  · simp [SubscribeOp.processMessage, hasContract, hsub, hsubNext, subUsize]
  · simp [GetOp.processMessage, hget, tryForwardOrReturn, hwrap, hgetNext, getOpResult]
  · simp [SubscribeOp.processMessage, hasContract, hsub, hsubNext, hwrap, subscribeStep,
      subscribeOpResult]

/-- The overflow at a node with nothing stored, a peer `1` to forward to,
ten hops configured, and a `SeekNode` from peer `2` with no hop left. -/
theorem seekNode_zero_htl_overflows_empty :
    let cfg : NodeConfig := ⟨10, ⟨0, none⟩, .debug⟩
    let getView : GetView := ⟨fun _ _ => some ⟨1, none⟩, fun _ => false, fun _ => false,
      fun _ _ => .ok ⟨none, none⟩, fun _ _ _ => .ok⟩
    let subView : SubscribeView := ⟨fun _ _ => some ⟨1, none⟩, fun _ _ => .ok ⟨none, none⟩, fun _ _ => true⟩
    let id := Transaction.new .get 0
    let key : ContractKey := ⟨.replicate 1, none⟩
    let getOp : GetOp := ⟨id, none, none⟩
    let subOp : SubscribeOp := ⟨id, none⟩
    let skipList : List PeerId := []
    let target : PeerKeyLocation := ⟨0, none⟩
    let peer : PeerKeyLocation := ⟨2, none⟩
    let newTarget : PeerKeyLocation := ⟨1, none⟩
    getView.getQuery key false = .ok ⟨none, none⟩ ∧
      getView.closestPotentiallyCaching key (skipList ++ [target.peer]) = some newTarget ∧
      subView.getQuery key false = .ok ⟨none, none⟩ ∧
      subView.closestPotentiallyCaching key skipList = some newTarget ∧
      getOp.processMessage { cfg with profile := .debug } getView
        (.seekNode id key false target peer 0 skipList) = none ∧
      subOp.processMessage { cfg with profile := .debug } subView
        (.seekNode id key target peer skipList 0 0) = none ∧
      (getOp.processMessage { cfg with profile := .release } getView
          (.seekNode id key false target peer 0 skipList)).map GetStep.result =
        some (.ok ⟨some (.seekNode id key false newTarget target (2 ^ 64 - 1)
            (skipList ++ [target.peer])),
          some ⟨id, some (.awaitingResponse (some peer) false 0 (2 ^ 64 - 1)), none⟩⟩) ∧
      (subOp.processMessage { cfg with profile := .release } subView
          (.seekNode id key target peer skipList 0 0)).map SubscribeStep.result =
        some (.ok ⟨some (.seekNode id key newTarget cfg.ownLocation (skipList ++ [target.peer])
            (2 ^ 64 - 1) 0),
          some ⟨id, some (.awaitingResponse (skipList ++ [target.peer]) 0 (some peer)
            (2 ^ 64 - 1))⟩⟩) := by
  intro cfg getView subView id key getOp subOp skipList target peer newTarget
  exact ⟨rfl, rfl, rfl, rfl, seekNode_zero_htl_overflows cfg getView getOp subView subOp id key false
    target peer peer newTarget skipList 0 none rfl rfl rfl rfl⟩

end FreenetCore.Operations
