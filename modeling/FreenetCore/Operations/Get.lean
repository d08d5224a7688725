import FreenetCore.Operations.Common

/-!
The get operation (`operations/get.rs`).

The node that starts a get sends `RequestGet` to itself, which turns into a
`SeekNode` towards the peer closest to the contract; a peer that has the
state answers `ReturnGet` with it, one that has not forwards the `SeekNode`
with one hop less, and a `ReturnGet` without a state makes the node waiting
for it retry with another peer. The originator's state `AwaitingResponse`
keeps its retries, hop count, requester and fetch flag, but not the key it
asked for: the answer it accepts is the one a `ReturnGet` carries.

The operation's timing statistics (`GetStats`) are left out: nothing the
operation decides depends on them. So is the `debug_assert!` that a
`RequestGet` finds its operation awaiting a response: `request_get` leaves it
so before it sends the message (`requestGet_startOp`).
-/

namespace FreenetCore.Operations

open FreenetCore.WasmRuntime MachineInt

/-- `MAX_RETRIES` of the get operation. -/
def getMaxRetries : Nat := 10

/-- `GetState`. -/
inductive GetState
  | receivedRequest
  | prepareRequest (key : ContractKey) (id : Transaction) (fetchContract : Bool)
  | awaitingResponse (requester : Option PeerKeyLocation) (fetchContract : Bool)
      (retries currentHop : Nat)
  deriving DecidableEq

/-- `GetResult`. -/
structure GetResult where
  key : ContractKey
  state : List UInt8
  contract : Option ContractContainer
  deriving DecidableEq

/-- `GetOp`, without its statistics. -/
structure GetOp where
  id : Transaction
  state : Option GetState
  result : Option GetResult
  deriving DecidableEq

/-- `GetMsg`. -/
inductive GetMsg
  | requestGet (id : Transaction) (target : PeerKeyLocation) (key : ContractKey)
      (fetchContract : Bool)
  | seekNode (id : Transaction) (key : ContractKey) (fetchContract : Bool)
      (target sender : PeerKeyLocation) (htl : Nat) (skipList : List PeerId)
  | returnGet (id : Transaction) (key : ContractKey) (value : StoreResponse)
      (sender target : PeerKeyLocation) (skipList : List PeerId)
  deriving DecidableEq

/-- `GetOp::finalized`. -/
def GetOp.finalized (op : GetOp) : Bool :=
  op.result.isSome

/-- `matches!(self.state, Some(GetState::AwaitingResponse { fetch_contract: true, .. }))`. -/
def requiresContract : Option GetState → Bool
  | some (.awaitingResponse _ true _ _) => true
  | _ => false

/-- `matches!(self.state, Some(GetState::AwaitingResponse { requester: None, .. }))`. -/
def isOriginalRequester : Option GetState → Bool
  | some (.awaitingResponse none _ _ _) => true
  | _ => false

/-- What a get step consults, as it stands when the step runs: the ring's
routing and seeding answers and the contract handler's answers. -/
structure GetView where
  closestPotentiallyCaching : ContractKey → List PeerId → Option PeerKeyLocation
  shouldSeed : ContractKey → Bool
  isSeedingContract : ContractKey → Bool
  getQuery : ContractKey → Bool → Except Unit StoreResponse
  putQuery : ContractKey → List UInt8 → Option ContractContainer → PutQueryResponse

/-- One `process_message` of a get, with what it does besides its result:
the `PutQuery` it sends the contract handler, the subscription it starts
(`start_subscription_request`), and the message and operation it hands back
to the op manager (`notify_op_change`) before returning `StatePushed`. -/
structure GetStep where
  putQuery : Option (ContractKey × List UInt8 × Option ContractContainer)
  subscribe : Option ContractKey
  pushed : Option (GetMsg × GetOp)
  result : Except OpError (OperationResult GetMsg GetOp)

/-- `build_op_result`: the operation always comes back, with the new state
and the step's result. -/
def getOpResult (id : Transaction) (state : Option GetState) (msg : Option GetMsg)
    (result : Option GetResult) : GetStep :=
  ⟨none, none, none, .ok ⟨msg, some ⟨id, state, result⟩⟩⟩

/-- A step that only fails. -/
def getError (e : OpError) : GetStep :=
  ⟨none, none, none, .error e⟩

/-- `start_op`, with the id `Transaction::new::<GetMsg>()` draws. -/
def startOp (key : ContractKey) (fetchContract : Bool) (id : Transaction) : GetOp :=
  ⟨id, some (.prepareRequest key id fetchContract), none⟩

/-- `request_get`: the operation the originator keeps and the `RequestGet`
it sends itself. -/
def requestGet (cfg : NodeConfig) (view : GetView) (getOp : GetOp) :
    Except OpError (GetOp × GetMsg) :=
  match getOp.state with
  | some (.prepareRequest key id fetchContract) =>
      match view.closestPotentiallyCaching key [] with
      | none => .error (.ringError .emptyRing)
      | some target =>
          let newState := GetState.awaitingResponse none fetchContract 0 cfg.maxHopsToLive
          .ok (⟨id, some newState, none⟩, .requestGet id target key fetchContract)
  | _ => .error .unexpectedOpState

/-- `try_forward_or_return`: the contract is not here, so forward the
`SeekNode` with one hop less, or answer without a state when no hop is left.
`htl - 1` is an unchecked `usize` subtraction; `none` is its overflow panic. -/
def tryForwardOrReturn (cfg : NodeConfig) (view : GetView) (id : Transaction) (key : ContractKey)
    (htl : Nat) (fetchContract : Bool) (thisPeer sender : PeerKeyLocation)
    (skipList : List PeerId) : Option GetStep :=
  let newSkipList := skipList ++ [thisPeer.peer]
  match subUsize cfg.profile htl 1 with
  | none => none
  | some newHtl =>
      if newHtl = 0 then
        some (getOpResult id none
          (some (.returnGet id key ⟨none, none⟩ cfg.ownLocation sender newSkipList)) none)
      else
        match view.closestPotentiallyCaching key newSkipList with
        | none => some (getError (.ringError (.noCachingPeers key)))
        | some newTarget =>
            some (getOpResult id (some (.awaitingResponse (some sender) fetchContract 0 newHtl))
              (some (.seekNode id key fetchContract newTarget thisPeer newHtl newSkipList)) none)

/-- The `ReturnGet` branch with a state, once the state is accepted: where
the answer goes, by the state the operation is in. -/
def returnGetValue (op : GetOp) (id : Transaction) (key : ContractKey) (value : List UInt8)
    (contract : Option ContractContainer) (sender target : PeerKeyLocation)
    (skipList : List PeerId) : Except OpError (OperationResult GetMsg GetOp) :=
  let result : GetResult := ⟨key, value, contract⟩
  match op.state with
  | some (.awaitingResponse none _ _ _) =>
      .ok ⟨none, some ⟨op.id, none, some result⟩⟩
  | some (.awaitingResponse (some requester) _ _ _) =>
      .ok ⟨some (.returnGet id key ⟨some value, contract⟩ target requester skipList),
        some ⟨op.id, none, some result⟩⟩
  | some .receivedRequest =>
      .ok ⟨some (.returnGet id key ⟨some value, contract⟩ target sender skipList),
        some ⟨op.id, none, none⟩⟩
  | _ => .error (.invalidTransition op.id)

/-- `GetOp::process_message`; `none` is a panic, or the undefined behaviour
of `transaction_type` on an id with no type. -/
def GetOp.processMessage (cfg : NodeConfig) (view : GetView) (op : GetOp) :
    GetMsg → Option GetStep
  | .requestGet id target key fetchContract =>
      -- fast tracked from `request_get`
      some (getOpResult op.id op.state
        (some (.seekNode id key fetchContract target cfg.ownLocation cfg.maxHopsToLive
          [cfg.ownLocation.peer])) none)
  | .seekNode id key fetchContract target sender htl skipList =>
      match view.getQuery key fetchContract with
      | .ok ⟨some state, contract⟩ =>
          match op.state with
          | some (.awaitingResponse (some requester) _ _ _) =>
              some (getOpResult op.id none
                (some (.returnGet id key ⟨some state, contract⟩ target requester skipList)) none)
          | some (.awaitingResponse none _ _ _) => some (getOpResult op.id none none none)
          | some .receivedRequest =>
              some (getOpResult op.id none
                (some (.returnGet id key ⟨some state, contract⟩ target sender skipList)) none)
          | _ => some (getError (.invalidTransition op.id))
      | _ => tryForwardOrReturn cfg view id key htl fetchContract target sender skipList
  | .returnGet id key ⟨none, _⟩ sender target skipList =>
      match op.state with
      | some (.awaitingResponse requester fetchContract retries currentHop) =>
          if retries < getMaxRetries then
            -- no answer from this peer: skip it in the next try
            let newSkipList := skipList ++ [target.peer]
            match view.closestPotentiallyCaching key newSkipList with
            | some newTarget =>
                some (getOpResult op.id
                  (some (.awaitingResponse requester fetchContract (retries + 1) currentHop))
                  (some (.seekNode id key fetchContract newTarget target currentHop newSkipList)) none)
            | none => some (getError (.ringError (.noCachingPeers key)))
          else
            match id.transactionType with
            | none => none
            | some ty => some (getError (.maxRetriesExceeded id ty))
      | some .receivedRequest =>
          some (getOpResult op.id none
            (some (.returnGet id key ⟨none, none⟩ sender target skipList)) none)
      | _ => some (getError (.invalidTransition op.id))
  | .returnGet id key ⟨some value, contract⟩ sender target skipList =>
      let requireContract := requiresContract op.state
      -- the state goes back to the op manager, and a `ReturnGet` without a
      -- state to this node, which then retries
      let pushBack : GetStep :=
        ⟨none, none,
          some (.returnGet id key ⟨none, none⟩ sender target (skipList ++ [sender.peer]),
            ⟨id, op.state, none⟩),
          .error .statePushed⟩
      if requireContract && contract.isNone then some pushBack
      else
        let isOriginalRequester := isOriginalRequester op.state
        let shouldSubscribe := view.shouldSeed key
        if isOriginalRequester || shouldSubscribe then
          let query := some (key, value, contract)
          match view.putQuery key value contract with
          | .ok =>
              let subscribe := if !view.isSeedingContract key && shouldSubscribe then some key else none
              some ⟨query, subscribe, none,
                returnGetValue op id key value contract sender target skipList⟩
          | .executorError =>
              if isOriginalRequester then some ⟨query, none, none, .error .executorError⟩
              else some { pushBack with putQuery := query }
          | .handlerError => some ⟨query, none, none, .error .contractHandler⟩
        else some ⟨none, none, none, returnGetValue op id key value contract sender target skipList⟩

/-- Where a node's get stands after some of its messages: kept by the op
manager, completed (with the final operation when it finalized), failed, or
stopped by a panic. -/
inductive GetRunEnd
  | live (op : GetOp)
  | done (final : Option GetOp)
  | failed (e : OpError)
  | panicked

/-- One message of a node's get: `process_message` and `handle_op_result`.
A `StatePushed` step keeps the operation it handed back. -/
def GetOp.handle (cfg : NodeConfig) (view : GetView) (op : GetOp) (msg : GetMsg) : GetRunEnd :=
  match op.processMessage cfg view msg with
  | none => .panicked
  | some step =>
      match handleOpResult GetOp.finalized step.result with
      | .statePushed =>
          match step.pushed with
          | some (_, op) => .live op
          | none => .done none
      | .failed e => .failed e
      | .pushed op _ => .live op
      | .completed final _ => .done final

/-- A node's get over the messages of its transaction, each with the view
of the ring and the handler it is processed in. -/
def GetOp.run (cfg : NodeConfig) : GetOp → List (GetView × GetMsg) → GetRunEnd
  | op, [] => .live op
  | op, (view, msg) :: rest =>
      match op.handle cfg view msg with
      | .live op => op.run cfg rest
      | stop => stop

/-! ### The originator's answer

From `request_get` on, the originator's state is `AwaitingResponse` with no
requester and its own fetch flag, until a message moves it elsewhere; no step
ever goes back to a state with no requester and another fetch flag. Its get
completes with a result only in the `ReturnGet` branch for that state, and
what it completes with is read off the message. -/

/-- The originator's fetch flag is `fetchContract`, whenever its state is
one with no requester. -/
def OriginState (fetchContract : Bool) : Option GetState → Prop
  | some (.awaitingResponse none f _ _) => f = fetchContract
  | _ => True

/-- Every operation a step hands on keeps the originator's fetch flag. -/
structure GetStep.Keeps (fetchContract : Bool) (step : GetStep) : Prop where
  result : ∀ msg op, step.result = .ok ⟨msg, some op⟩ → OriginState fetchContract op.state
  pushed : ∀ msg op, step.pushed = some (msg, op) → OriginState fetchContract op.state

/-- A step that completes the operation with the result `r`. -/
def GetStep.Settles (step : GetStep) (r : GetResult) : Prop :=
  ∃ final, step.result = .ok ⟨none, some final⟩ ∧ final.result = some r

theorem getOpResult_keeps (fetchContract : Bool) (id : Transaction) (state : Option GetState)
    (h : OriginState fetchContract state) (msg : Option GetMsg) (res : Option GetResult) :
    (getOpResult id state msg res).Keeps fetchContract := by
  refine ⟨?_, ?_⟩ <;> intro m o ho <;> simp [getOpResult] at ho
  exact ho.2 ▸ h

theorem getOpResult_not_settles (id : Transaction) (state : Option GetState)
    (msg : Option GetMsg) (r : GetResult) : ¬ (getOpResult id state msg none).Settles r := by
  rintro ⟨final, h, hr⟩
  simp only [getOpResult, Except.ok.injEq, OperationResult.mk.injEq, Option.some.injEq] at h
  rw [← h.2] at hr
  cases hr

theorem getError_keeps (fetchContract : Bool) (e : OpError) :
    (getError e).Keeps fetchContract := by
  refine ⟨?_, ?_⟩ <;> intro m o ho <;> simp [getError] at ho

theorem getError_not_settles (e : OpError) (r : GetResult) : ¬ (getError e).Settles r := by
  rintro ⟨final, h, -⟩
  simp [getError] at h

/-- Forwarding never completes the operation, and hands on only states
with a requester. -/
theorem tryForwardOrReturn_spec {cfg : NodeConfig} {view : GetView} {id : Transaction}
    {key : ContractKey} {htl : Nat} {fetchContract f : Bool} {thisPeer sender : PeerKeyLocation}
    {skipList : List PeerId} {step : GetStep}
    (h : tryForwardOrReturn cfg view id key htl fetchContract thisPeer sender skipList = some step) :
    step.Keeps f ∧ ∀ r, ¬ step.Settles r := by
  simp only [tryForwardOrReturn] at h
  split at h
  · cases h
  · split at h
    · cases h
      exact ⟨getOpResult_keeps f _ none trivial _ _, getOpResult_not_settles _ _ _⟩
    · split at h <;> cases h
      · exact ⟨getError_keeps _ _, getError_not_settles _⟩
      · exact ⟨getOpResult_keeps f _ _ (by simp [OriginState]) _ _, getOpResult_not_settles _ _ _⟩

/-- Answering with a state completes the operation only for the
originator's state, with the message's key, state and contract. -/
theorem returnGetValue_settles {op : GetOp} {id : Transaction} {key : ContractKey}
    {value : List UInt8} {contract : Option ContractContainer} {sender target : PeerKeyLocation}
    {skipList : List PeerId} {final : GetOp} {r : GetResult}
    (h : returnGetValue op id key value contract sender target skipList = .ok ⟨none, some final⟩)
    (hr : final.result = some r) :
    r = ⟨key, value, contract⟩ ∧ ∃ f retries hop, op.state = some (.awaitingResponse none f retries hop) := by
  unfold returnGetValue at h
  split at h
  · rename_i f retries hop hstate
    simp only [Except.ok.injEq, OperationResult.mk.injEq, Option.some.injEq, true_and] at h
    subst h
    exact ⟨(Option.some.inj hr).symm, f, retries, hop, hstate⟩
  all_goals simp at h

theorem returnGetValue_keeps (fetchContract : Bool) (op : GetOp) (id : Transaction)
    (key : ContractKey) (value : List UInt8) (contract : Option ContractContainer)
    (sender target : PeerKeyLocation) (skipList : List PeerId) :
    (∀ msg o, returnGetValue op id key value contract sender target skipList = .ok ⟨msg, some o⟩ →
      OriginState fetchContract o.state) := by
  intro msg o h
  unfold returnGetValue at h
  split at h <;> simp only [Except.ok.injEq, OperationResult.mk.injEq, Option.some.injEq,
    reduceCtorEq] at h
  all_goals (rw [← h.2]; trivial)

/-- Every operation a step hands on keeps the originator's fetch flag: the
retry keeps the requester and the flag, and every other state handed on is
the one the operation had, one with a requester, or none. -/
theorem processMessage_keeps {cfg : NodeConfig} {view : GetView} {op : GetOp} {msg : GetMsg}
    {f : Bool} {step : GetStep} (hop : OriginState f op.state)
    (h : op.processMessage cfg view msg = some step) : step.Keeps f := by
  have pushBack : ∀ {q s m i res},
      (⟨q, s, some (m, ⟨i, op.state, none⟩), .error res⟩ : GetStep).Keeps f := by
    intro q s m i res
    exact ⟨fun _ _ ho => (by cases ho), fun _ _ ho => by cases ho; exact hop⟩
  cases msg with
  | requestGet id target key fetchContract =>
      simp only [GetOp.processMessage, Option.some.injEq] at h
      subst h
      exact getOpResult_keeps f _ _ hop _ _
  | seekNode id key fetchContract target sender htl skipList =>
      simp only [GetOp.processMessage] at h
      split at h
      · split at h <;> simp only [Option.some.injEq] at h <;> subst h
        · exact getOpResult_keeps f _ none trivial _ _
        · exact getOpResult_keeps f _ none trivial _ _
        · exact getOpResult_keeps f _ none trivial _ _
        · exact getError_keeps _ _
      · exact (tryForwardOrReturn_spec h).1
  | returnGet id key value sender target skipList =>
      obtain ⟨_ | value, contract⟩ := value
      · simp only [GetOp.processMessage] at h
        split at h
        · rename_i requester fetchContract retries currentHop hstate
          split at h
          · split at h <;> simp only [Option.some.injEq] at h <;> subst h
            · -- the retry keeps the requester and the flag
              apply getOpResult_keeps
              rw [hstate] at hop
              cases requester <;> simp_all [OriginState]
            · exact getError_keeps _ _
          · split at h
            · cases h
            · cases h
              exact getError_keeps _ _
        · cases h
          exact getOpResult_keeps f _ none trivial _ _
        · cases h
          exact getError_keeps _ _
      · simp only [GetOp.processMessage] at h
        split at h
        · cases h
          exact pushBack
        split at h
        · split at h
          · cases h
            exact ⟨returnGetValue_keeps f op _ _ _ _ _ _ _, fun _ _ ho => by cases ho⟩
          · split at h <;> cases h
            · exact ⟨fun _ _ ho => (by cases ho), fun _ _ ho => by cases ho⟩
            · exact pushBack
          · cases h
            exact ⟨fun _ _ ho => (by cases ho), fun _ _ ho => by cases ho⟩
        · cases h
          exact ⟨returnGetValue_keeps f op _ _ _ _ _ _ _, fun _ _ ho => by cases ho⟩

/-- A message completes the originator's get only as a `ReturnGet` with a
state: the result is the message's key, state and contract, the handler
accepted the `PutQuery` of them, and the contract is there when the
originator asked for it. Nothing compares the key with the one asked for. -/
theorem processMessage_settles {cfg : NodeConfig} {view : GetView} {op : GetOp} {msg : GetMsg}
    {f : Bool} {step : GetStep} {r : GetResult} (hop : OriginState f op.state)
    (h : op.processMessage cfg view msg = some step) (hr : step.Settles r) :
    (∃ id sender target skipList,
        msg = .returnGet id r.key ⟨some r.state, r.contract⟩ sender target skipList) ∧
      view.putQuery r.key r.state r.contract = .ok ∧ (f = true → r.contract.isSome) := by
  have noOpResult : ∀ {id s m}, step = getOpResult id s m none → False := fun hs =>
    getOpResult_not_settles _ _ _ r (hs ▸ hr)
  have noError : ∀ {e}, step = getError e → False := fun hs => getError_not_settles _ r (hs ▸ hr)
  cases msg with
  | requestGet id target key fetchContract =>
      simp only [GetOp.processMessage, Option.some.injEq] at h
      exact (noOpResult h.symm).elim
  | seekNode id key fetchContract target sender htl skipList =>
      simp only [GetOp.processMessage] at h
      split at h
      · split at h <;> simp only [Option.some.injEq] at h
        · exact (noOpResult h.symm).elim
        · exact (noOpResult h.symm).elim
        · exact (noOpResult h.symm).elim
        · exact (noError h.symm).elim
      · exact absurd hr ((tryForwardOrReturn_spec (f := f) h).2 r)
  | returnGet id key value sender target skipList =>
      obtain ⟨_ | value, contract⟩ := value
      · -- without a state the node retries or passes the answer on
        simp only [GetOp.processMessage] at h
        split at h
        · split at h
          · split at h <;> simp only [Option.some.injEq] at h
            · exact (noOpResult h.symm).elim
            · exact (noError h.symm).elim
          · split at h
            · cases h
            · exact (noError (Option.some.inj h).symm).elim
        · exact (noOpResult (Option.some.inj h).symm).elim
        · exact (noError (Option.some.inj h).symm).elim
      · simp only [GetOp.processMessage] at h
        split at h
        · -- pushed back: the step returns `StatePushed`
          cases h
          obtain ⟨_, hres, -⟩ := hr
          cases hres
        rename_i hrequire
        split at h
        · rename_i horigin
          split at h
          · -- the handler accepted the state: the answer goes where the state says
            cases h
            obtain ⟨final, hres, hfinal⟩ := hr
            obtain ⟨rfl, f', retries, hop', hstate⟩ := returnGetValue_settles hres hfinal
            rename_i hput
            refine ⟨⟨id, sender, target, skipList, rfl⟩, hput, fun hf => ?_⟩
            have hf' : f' = f := by simpa [OriginState, hstate] using hop
            subst hf' hf
            have hsome : contract ≠ none := by simpa [requiresContract, hstate] using hrequire
            exact Option.ne_none_iff_isSome.mp hsome
          · split at h <;> (cases h; obtain ⟨_, hres, -⟩ := hr; cases hres)
          · cases h
            obtain ⟨_, hres, -⟩ := hr
            cases hres
        · rename_i horigin
          simp only [Option.some.injEq] at h
          subst h
          obtain ⟨final, hres, hfinal⟩ := hr
          obtain ⟨-, f', retries, hop', hstate⟩ := returnGetValue_settles hres hfinal
          simp [isOriginalRequester, hstate] at horigin

/-- One message at a node whose state keeps the originator's fetch flag:
the operation it keeps still does, and if the message completes the get
with a result, that result is the message's. -/
theorem handle_originator (cfg : NodeConfig) (view : GetView) {op : GetOp} (msg : GetMsg)
    {f : Bool} (hop : OriginState f op.state) :
    (∀ op', op.handle cfg view msg = .live op' → OriginState f op'.state) ∧
      ∀ final r, op.handle cfg view msg = .done (some final) → final.result = some r →
        (∃ id sender target skipList,
            msg = .returnGet id r.key ⟨some r.state, r.contract⟩ sender target skipList) ∧
          view.putQuery r.key r.state r.contract = .ok ∧ (f = true → r.contract.isSome) := by
  unfold GetOp.handle
  cases hs : op.processMessage cfg view msg with
  | none => exact ⟨fun _ h => (by cases h), fun _ _ h => by cases h⟩
  | some step =>
      have hk := processMessage_keeps hop hs
      simp only
      generalize hh : handleOpResult GetOp.finalized step.result = handled
      cases handled with
      | pushed o sent =>
          obtain ⟨m, hm⟩ := handleOpResult_pushed hh
          exact ⟨fun op' h => by cases h; exact hk.result _ _ hm, fun _ _ h => by cases h⟩
      | completed final sent =>
          refine ⟨fun _ h => (by cases h), fun fin r h hr => ?_⟩
          cases h
          exact processMessage_settles hop hs ⟨fin, (handleOpResult_completed_some hh).1, hr⟩
      | statePushed =>
          cases hp : step.pushed with
          | none => exact ⟨fun _ h => (by cases h), fun _ _ h => by cases h⟩
          | some pushed =>
              obtain ⟨m, o⟩ := pushed
              exact ⟨fun op' h => by cases h; exact hk.pushed _ _ hp, fun _ _ h => by cases h⟩
      | failed e => exact ⟨fun _ h => (by cases h), fun _ _ h => by cases h⟩

/-- Over every sequence of messages, from a state that keeps the
originator's fetch flag: if the get completes with a result, some message of
the sequence is a `ReturnGet` carrying that result, and the handler accepted
its `PutQuery` in the view that message was processed in. -/
theorem run_result_from_message (cfg : NodeConfig) (f : Bool) :
    ∀ (op : GetOp) (steps : List (GetView × GetMsg)) (final : GetOp) (r : GetResult),
      OriginState f op.state → op.run cfg steps = .done (some final) → final.result = some r →
      ∃ view id sender target skipList,
        (view, .returnGet id r.key ⟨some r.state, r.contract⟩ sender target skipList) ∈ steps ∧
          view.putQuery r.key r.state r.contract = .ok ∧ (f = true → r.contract.isSome)
  | _, [], _, _, _, h, _ => by cases h
  | op, (view, msg) :: rest, final, r, hop, h, hr => by
      simp only [GetOp.run] at h
      obtain ⟨hlive, hdone⟩ := handle_originator cfg view msg hop
      generalize hh : op.handle cfg view msg = handled at h hlive hdone
      cases handled with
      | live op' =>
          -- the get goes on: the rest of the messages decide
          obtain ⟨v, id, sender, target, skipList, hmem, hput, hf⟩ :=
            run_result_from_message cfg f op' rest final r (hlive op' rfl) h hr
          exact ⟨v, id, sender, target, skipList, List.mem_cons_of_mem _ hmem, hput, hf⟩
      | done fin =>
          cases h
          obtain ⟨⟨id, sender, target, skipList, rfl⟩, hput, hf⟩ := hdone final r rfl hr
          exact ⟨view, id, sender, target, skipList, List.mem_cons_self, hput, hf⟩
      | failed e => cases h
      | panicked => cases h

/-- `request_get` leaves the originator waiting with no requester, its own
fetch flag, no retry and the full hop count. -/
theorem requestGet_startOp {cfg : NodeConfig} {view : GetView} {key : ContractKey}
    {fetchContract : Bool} {id : Transaction} {op : GetOp} {msg : GetMsg}
    (h : requestGet cfg view (startOp key fetchContract id) = .ok (op, msg)) :
    op = ⟨id, some (.awaitingResponse none fetchContract 0 cfg.maxHopsToLive), none⟩ ∧
      ∃ target, msg = .requestGet id target key fetchContract := by
  simp only [requestGet, startOp] at h
  split at h
  · cases h
  · cases h
    exact ⟨rfl, _, rfl⟩

/-- What a get started by `start_op(key, fetch_contract)` and `request_get`
completes with, over every sequence of messages of its transaction and
every view of the ring and the handler: the key, state and contract of some
`ReturnGet` it received, whose `PutQuery` its handler accepted, with a
contract when `fetch_contract` is set. -/
theorem get_result_read_from_message (cfg : NodeConfig) (view : GetView) (key : ContractKey)
    (fetchContract : Bool) (id : Transaction) (op : GetOp) (msg : GetMsg)
    (steps : List (GetView × GetMsg)) (final : GetOp) (r : GetResult)
    (hreq : requestGet cfg view (startOp key fetchContract id) = .ok (op, msg))
    (hrun : op.run cfg steps = .done (some final)) (hr : final.result = some r) :
    ∃ v id' sender target skipList,
      (v, .returnGet id' r.key ⟨some r.state, r.contract⟩ sender target skipList) ∈ steps ∧
        v.putQuery r.key r.state r.contract = .ok ∧ (fetchContract = true → r.contract.isSome) := by
  obtain ⟨rfl, -⟩ := requestGet_startOp hreq
  have hop : OriginState fetchContract (some (.awaitingResponse none fetchContract 0 cfg.maxHopsToLive)) :=
    rfl
  exact run_result_from_message cfg fetchContract _ steps final r hop hrun hr

/-- A get of key `1…1` with the contract, answered by a `ReturnGet` for the
key `2…2` with that key's contract: the originator puts that state and
completes with it. -/
theorem get_result_for_other_key :
    let key : ContractKey := ⟨.replicate 1, none⟩
    let other : ContractKey := ⟨.replicate 2, none⟩
    let contract : ContractContainer := ⟨other, [], [9]⟩
    let id := Transaction.new .get 0
    let cfg : NodeConfig := ⟨10, ⟨0, none⟩, .release⟩
    let view : GetView := ⟨fun _ _ => some ⟨1, none⟩, fun _ => false, fun _ => false,
      fun _ _ => .ok ⟨none, none⟩, fun _ _ _ => .ok⟩
    let answer : GetMsg := .returnGet id other ⟨some [5], some contract⟩ ⟨1, none⟩ ⟨0, none⟩ [0]
    ∃ op msg, requestGet cfg view (startOp key true id) = .ok (op, msg) ∧
      (op.processMessage cfg view answer).map GetStep.putQuery = some (some (other, [5], some contract)) ∧
      op.run cfg [(view, msg), (view, answer)] = .done (some ⟨id, none, some ⟨other, [5], some contract⟩⟩) ∧
      other ≠ key ∧ contract.key ≠ key :=
  ⟨_, _, rfl, rfl, rfl, by decide, by decide⟩

/-- The same run, through the theorem: the answer is in the sequence. -/
theorem get_result_read_from_message_other_key :
    let key : ContractKey := ⟨.replicate 1, none⟩
    let other : ContractKey := ⟨.replicate 2, none⟩
    let contract : ContractContainer := ⟨other, [], [9]⟩
    let id := Transaction.new .get 0
    let view : GetView := ⟨fun _ _ => some ⟨1, none⟩, fun _ => false, fun _ => false,
      fun _ _ => .ok ⟨none, none⟩, fun _ _ _ => .ok⟩
    let answer : GetMsg := .returnGet id other ⟨some [5], some contract⟩ ⟨1, none⟩ ⟨0, none⟩ [0]
    let r : GetResult := ⟨other, [5], some contract⟩
    ∃ v id' sender target skipList,
      (v, .returnGet id' r.key ⟨some r.state, r.contract⟩ sender target skipList) ∈
          [(view, .requestGet id ⟨1, none⟩ key true), (view, answer)] ∧
        v.putQuery r.key r.state r.contract = .ok ∧ (true = true → r.contract.isSome) := by
  intro key other contract id view answer r
  exact get_result_read_from_message ⟨10, ⟨0, none⟩, .release⟩ view key true id _ _ _ ⟨id, none, some r⟩ r
    rfl rfl rfl

end FreenetCore.Operations
