import FreenetCore.Lib.BinarySearch
import FreenetCore.WasmRuntime.CodeStores

/-!
The contract requests of the local executor (`contract/executor/runtime.rs`),
as built with the default features (neither `local-mode` nor `network-mode`),
where the operation mode is a field of the executor.

The state store and the contract store are maps from a contract's instance
id (which `ContractKey`'s equality and hash compare); states, parameters,
summaries and deltas are byte strings. The contract's WASM functions are
arbitrary functions (`ContractRuntime`), and what the executor asks of the
network through the event loop (`op_request`) is a parameter too
(`Network`): in local mode none of it is reached.

A request either answers, or gives no answer (`none`): the executor's task
panicked, or one of its loops did not end within the fuel it was given.
-/

namespace FreenetCore.Contract

open FreenetCore.WasmRuntime BinarySearch

/-- `OperationMode`. -/
inductive OperationMode
  | local
  | network
  deriving DecidableEq, Repr

/-- `ValidateResult`. -/
inductive ValidateResult
  | valid
  | invalid
  | requestRelated (related : List Bytes32)
  deriving DecidableEq

/-- `RelatedMode`. -/
inductive RelatedMode
  | stateOnce
  | stateThenSubscribe
  deriving DecidableEq

/-- The `UpdateData` variants the executor builds. -/
inductive UpdateData
  | state (s : List UInt8)
  | delta (d : List UInt8)
  | relatedState (relatedTo : Bytes32) (s : List UInt8)
  deriving DecidableEq

/-- `UpdateModification`: the new state, if any, and the related contracts
the contract still needs (`RelatedContract`). -/
structure UpdateModification where
  newState : Option (List UInt8)
  related : List (Bytes32 × RelatedMode)

/-- The contract's functions the executor runs in its WASM runtime; `.error ()`
is an error of the runtime. -/
structure ContractRuntime where
  validateState : ContractKey → List UInt8 → List UInt8 → List (Bytes32 × Option (List UInt8)) →
    Except Unit ValidateResult
  updateState : ContractKey → List UInt8 → List UInt8 → List UpdateData → Except Unit UpdateModification
  summarizeState : ContractKey → List UInt8 → List UInt8 → Except Unit (List UInt8)
  getStateDelta : ContractKey → List UInt8 → List UInt8 → List UInt8 → Except Unit (List UInt8)

/-- `StdContractError`, with the causes the executor gives. -/
inductive StdContractError
  | put (key : ContractKey) (cause : String)
  | update (key : ContractKey) (cause : String)
  | get (key : ContractKey) (cause : String)
  | subscribe (key : ContractKey) (cause : String)
  | missingRelated (key : Bytes32)
  deriving DecidableEq

/-- `RequestError`. -/
inductive RequestError
  | contractError (e : StdContractError)
  | timeout
  deriving DecidableEq

/-- `ExecutorError`. `other` is `ExecutorError::other` of a text of the
executor, `inner` that of an error of the state store or of the runtime,
whose text is theirs. -/
inductive ExecutorError
  | request (e : RequestError)
  | execution (key : ContractKey)
  | other (cause : String)
  | inner
  deriving DecidableEq

/-- The responses of contract requests, and the update notification. -/
inductive HostResponse
  | putResponse (key : ContractKey)
  | getResponse (key : ContractKey) (contract : Option ContractContainer) (state : List UInt8)
  | updateResponse (key : ContractKey) (summary : List UInt8)
  | updateNotification (key : ContractKey) (update : UpdateData)
  deriving DecidableEq

/-- `ContractRequest`. -/
inductive ContractRequest
  | put (contract : ContractContainer) (state : List UInt8)
      (relatedContracts : List (Bytes32 × Option (List UInt8)))
  | update (key : ContractKey) (data : UpdateData)
  | get (key : ContractKey) (fetchContract : Bool)
  | subscribe (key : ContractKey) (summary : Option (List UInt8))

/-- A client id (`ClientId`) and a notification channel. -/
abbrev ClientId := Nat

/-- A notification channel, by its identity (`same_channel`). -/
abbrev Channel := Nat

/-- The fields of `Executor` the contract requests read and write, and the
notification channels: `closed` says which have lost their receiver, `sent`
is what the open ones have been sent, in order. -/
structure Executor where
  mode : OperationMode
  states : Bytes32 → Option (List UInt8)
  params : Bytes32 → Option (List UInt8)
  contracts : Bytes32 → Option ContractContainer
  updateNotifications : Bytes32 → Option (List (ClientId × Channel))
  subscriberSummaries : Bytes32 → Option (ClientId → Option (Option (List UInt8)))
  closed : Channel → Bool
  sent : List (Channel × HostResponse)

/-- What the executor asks of the network: the subscription, the update sent
to peers, a related contract's state an update needs (from the store or the
network, storing the contract fetched and subscribing as the mode asks), the
states a validation asks for (the loop over `related_contracts.update()`,
with the last contract it fetched), and a contract fetched for a get. -/
structure Network where
  subscribe : ContractKey → Except ExecutorError Unit
  updateContract : ContractKey → List UInt8 → Except ExecutorError Unit
  fetchRelated : Executor → Bytes32 → RelatedMode → Executor × Except ExecutorError (List UInt8)
  relatedForValidation : Executor → List (Bytes32 × Option (List UInt8)) → List Bytes32 →
    Executor × Except ExecutorError
      (List (Bytes32 × Option (List UInt8)) × Option (ContractKey × ContractContainer × List UInt8))
  contractFromNetwork : Executor → ContractKey → Executor × Except ExecutorError (Option ContractContainer)

namespace Executor

/-- `Executor::new` over empty stores: no notifier, no summary, every
channel open and nothing sent. -/
def init (mode : OperationMode) : Executor where
  mode := mode
  states _ := none
  params _ := none
  contracts _ := none
  updateNotifications _ := none
  subscriberSummaries _ := none
  closed _ := false
  sent := []

/-- `StateStore::get`: `none` is `StateStoreError::MissingContract`. -/
def getState (ex : Executor) (key : ContractKey) : Option (List UInt8) :=
  ex.states key.id

/-- `StateStore::update`: only an existing contract's state is replaced. -/
def updateState (ex : Executor) (key : ContractKey) (state : List UInt8) : Option Executor :=
  match ex.states key.id with
  | none => none
  | some _ => some { ex with states := Function.update ex.states key.id (some state) }

/-- `StateStore::store`. -/
def storeState (ex : Executor) (key : ContractKey) (state params : List UInt8) : Executor :=
  { ex with
    states := Function.update ex.states key.id (some state)
    params := Function.update ex.params key.id (some params) }

/-- `get_contract_locally`: the contract, when its parameters are stored
and the contract store has it. -/
def getContractLocally (ex : Executor) (key : ContractKey) : Option ContractContainer :=
  match ex.params key.id with
  | none => none
  | some _ => ex.contracts key.id

/-- `register_contract_notifier`. The key's notifier list is created if
absent, a client found in it by `binary_search_by_key` must come with the
same channel, one not found is pushed at the end; the client's summary is
recorded when the registration succeeds. -/
def registerContractNotifier (ex : Executor) (key : ContractKey) (cliId : ClientId)
    (notificationCh : Channel) (summary : Option (List UInt8)) : Executor × Except RequestError Unit :=
  let channels := (ex.updateNotifications key.id).getD []
  let ex := { ex with updateNotifications := Function.update ex.updateNotifications key.id (some channels) }
  let pushed : Except RequestError (List (ClientId × Channel)) :=
    match binarySearchByKey cliId Prod.fst channels with
    | .ok i =>
        if channels[i]!.2 ≠ notificationCh then
          .error (.contractError (.subscribe key s!"Peer {cliId} already subscribed"))
        else .ok channels
    | .error _ => .ok (channels ++ [(cliId, notificationCh)])
  match pushed with
  | .error e => (ex, .error e)
  | .ok channels =>
      let summaries := (ex.subscriberSummaries key.id).getD fun _ => none
      ({ ex with
          updateNotifications := Function.update ex.updateNotifications key.id (some channels)
          subscriberSummaries := Function.update ex.subscriberSummaries key.id
            (some (Function.update summaries cliId (some summary))) },
        .ok ())

/-- The loop of `send_update_notification` over the key's notifiers: each
client is sent its delta from the summary it gave, or the whole state; the
clients whose channel is closed are collected. A client without an entry in
the summaries is the panic of `summaries.get_mut(peer_key).unwrap()`; a failing
delta ends the loop with its error, after the notifications already sent. -/
def notifyEach (rt : ContractRuntime) (key : ContractKey) (params newState : List UInt8)
    (summaries : ClientId → Option (Option (List UInt8))) :
    Executor → List ClientId → List (ClientId × Channel) →
      Executor × Option (Except ExecutorError (List ClientId))
  | ex, failures, [] => (ex, some (.ok failures))
  | ex, failures, (peerKey, notifier) :: rest =>
      match summaries peerKey with
      | none => (ex, none)
      | some peerSummary =>
          let update : Except ExecutorError UpdateData :=
            match peerSummary with
            | some summary =>
                match rt.getStateDelta key params newState summary with
                | .ok delta => .ok (.delta delta)
                | .error () => .error (.execution key)
            | none => .ok (.state newState)
          match update with
          | .error e => (ex, some (.error e))
          | .ok update =>
              if ex.closed notifier then notifyEach rt key params newState summaries ex (failures ++ [peerKey]) rest
              else
                notifyEach rt key params newState summaries
                  { ex with sent := ex.sent ++ [(notifier, .updateNotification key update)] } failures rest

/-- `send_update_notification`: the clients whose channel failed are removed
from the key's notifiers afterwards. -/
def sendUpdateNotification (rt : ContractRuntime) (ex : Executor) (key : ContractKey)
    (params newState : List UInt8) : Executor × Option (Except ExecutorError Unit) :=
  match ex.updateNotifications key.id with
  | none => (ex, some (.ok ()))
  | some notifiers =>
      match ex.subscriberSummaries key.id with
      | none => (ex, none)
      | some summaries =>
          match notifyEach rt key params newState summaries ex [] notifiers with
          | (ex, none) => (ex, none)
          | (ex, some (.error e)) => (ex, some (.error e))
          | (ex, some (.ok failures)) =>
              if failures.isEmpty then (ex, some (.ok ()))
              else
                let kept := notifiers.filter fun (c, _) => !failures.contains c
                ({ ex with updateNotifications := Function.update ex.updateNotifications key.id (some kept) },
                  some (.ok ()))

/-- `attempt_state_update`: the new state is stored when the contract gives
one; otherwise the old state stands, or the related contracts it asks for are
returned. -/
def attemptStateUpdate (rt : ContractRuntime) (ex : Executor) (params currentState : List UInt8)
    (key : ContractKey) (updates : List UpdateData) :
    Except ExecutorError (Executor × (List UInt8 ⊕ List (Bytes32 × RelatedMode))) :=
  match rt.updateState key params currentState updates with
  | .error () => .error (.execution key)
  | .ok { newState := none, related } =>
      if related.isEmpty then .ok (ex, .inl currentState) else .ok (ex, .inr related)
  | .ok { newState := some newState, .. } =>
      match ex.updateState key newState with
      | none => .error .inner
      | some ex => .ok (ex, .inl newState)

/-- The inner loop of `get_updated_state` over the related contracts a
contract asked for: each one's state from the store, or in network mode from
the network; in local mode a missing one is an error. -/
def resolveMissing (net : Network) :
    Executor → List UpdateData → List (Bytes32 × RelatedMode) →
      Executor × Except ExecutorError (List UpdateData)
  | ex, updates, [] => (ex, .ok updates)
  | ex, updates, (id, mode) :: rest =>
      match ex.states id with
      | some state => resolveMissing net ex (updates ++ [.relatedState id state]) rest
      | none =>
          if ex.mode = .network then
            match net.fetchRelated ex id mode with
            | (ex, .error e) => (ex, .error e)
            | (ex, .ok state) => resolveMissing net ex (updates ++ [.state state]) rest
          else (ex, .error .inner)

/-- The loop of `get_updated_state`, from iteration `i` on, with `fuel`
iterations left; `none` when it has not returned within them. `timedOut i`
says whether ten seconds have passed at iteration `i`. -/
def getUpdatedStateLoop (rt : ContractRuntime) (net : Network) (timedOut : Nat → Bool)
    (params currentState : List UInt8) (key : ContractKey) :
    Nat → Nat → Executor → List UpdateData → Executor × Option (Except ExecutorError (List UInt8))
  | 0, _, ex, _ => (ex, none)
  | fuel + 1, i, ex, updates =>
      match attemptStateUpdate rt ex params currentState key updates with
      | .error e => (ex, some (.error e))
      | .ok (ex, .inl newState) =>
          match ex.updateState key newState with
          | none => (ex, some (.error .inner))
          | some ex => (ex, some (.ok newState))
      | .ok (ex, .inr missing) =>
          let requiredContracts := missing.length + 1
          match resolveMissing net ex updates missing with
          | (ex, .error e) => (ex, some (.error e))
          | (ex, .ok updates) =>
              -- both branches go round the loop again; only the second can time out
              if updates.length + 1 ≥ requiredContracts then
                getUpdatedStateLoop rt net timedOut params currentState key fuel (i + 1) ex updates
              else if timedOut i then (ex, some (.error (.request .timeout)))
              else getUpdatedStateLoop rt net timedOut params currentState key fuel (i + 1) ex updates

/-- `perform_contract_update`. -/
def performContractUpdate (rt : ContractRuntime) (net : Network) (timedOut : Nat → Bool)
    (fuel : Nat) (ex : Executor) (key : ContractKey) (update : UpdateData) :
    Executor × Option (Except ExecutorError HostResponse) :=
  match ex.params key.id with
  | none => (ex, some (.error (.request (.contractError (.update key "missing contract parameters")))))
  | some parameters =>
      match ex.getState key with
      | none => (ex, some (.error .inner))
      | some currentState =>
          match getUpdatedStateLoop rt net timedOut parameters currentState key fuel 0 ex [update] with
          | (ex, none) => (ex, none)
          | (ex, some (.error e)) => (ex, some (.error e))
          | (ex, some (.ok newState)) =>
              match rt.summarizeState key parameters newState with
              | .error () => (ex, some (.error .inner))
              | .ok summary =>
                  match sendUpdateNotification rt ex key parameters newState with
                  | (ex, none) => (ex, none)
                  | (ex, some (.error e)) => (ex, some (.error e))
                  | (ex, some (.ok ())) =>
                      if ex.mode = .local then (ex, some (.ok (.updateResponse key summary)))
                      else
                        match net.updateContract key newState with
                        | .error e => (ex, some (.error e))
                        | .ok () => (ex, some (.ok (.updateResponse key summary)))

/-- `DEPENDENCY_CYCLE_LIMIT_GUARD`. -/
def dependencyCycleLimitGuard : Nat := 100

/-- The loop of `verify_and_store_contract`, with `fuel` iterations left:
store the contract being tried, validate its state, store the state when
valid and go back to the original contract, resolve what it asks for
otherwise. The result is the iteration count the loop ends with. -/
def verifyLoop (rt : ContractRuntime) (net : Network) (originalKey : ContractKey)
    (originalParams originalState : List UInt8) :
    Nat → Nat → Executor → ContractKey → List UInt8 → List UInt8 → Option ContractContainer →
      List (Bytes32 × Option (List UInt8)) → Executor × Option (Except ExecutorError Nat)
  | 0, _, ex, _, _, _, _, _ => (ex, none)
  | fuel + 1, iterations, ex, tryingKey, tryingParams, tryingState, tryingContract, related =>
      if iterations < dependencyCycleLimitGuard then
        let ex := match tryingContract with
          | some contract => { ex with contracts := Function.update ex.contracts contract.key.id (some contract) }
          | none => ex
        match rt.validateState tryingKey tryingParams tryingState related with
        | .error () =>
            -- the contract being tried is removed from the contract store
            let ex : Executor := { ex with contracts := Function.update ex.contracts tryingKey.id none }
            (ex, some (.error .inner))
        | .ok .invalid => (ex, some (.error (.request (.contractError (.put tryingKey "not valid")))))
        | .ok (.requestRelated ids) =>
            match net.relatedForValidation ex related ids with
            | (ex, .error e) => (ex, some (.error e))
            | (ex, .ok (related, none)) =>
                verifyLoop rt net originalKey originalParams originalState fuel (iterations + 1) ex
                  tryingKey tryingParams tryingState none related
            | (ex, .ok (related, some (key, contract, state))) =>
                verifyLoop rt net originalKey originalParams originalState fuel (iterations + 1) ex
                  key contract.params state (some contract) related
        | .ok .valid =>
            let ex := ex.storeState tryingKey tryingState tryingParams
            if tryingKey.id ≠ originalKey.id then
              verifyLoop rt net originalKey originalParams originalState fuel iterations ex
                originalKey originalParams originalState none related
            else (ex, some (.ok iterations))
      else (ex, some (.ok iterations))

/-- `verify_and_store_contract`. -/
def verifyAndStoreContract (rt : ContractRuntime) (net : Network) (fuel : Nat) (ex : Executor)
    (state : List UInt8) (tryingContainer : ContractContainer)
    (related : List (Bytes32 × Option (List UInt8))) : Executor × Option (Except ExecutorError Unit) :=
  let key := tryingContainer.key
  let params := tryingContainer.params
  match verifyLoop rt net key params state fuel 0 ex key params state (some tryingContainer) related with
  | (ex, none) => (ex, none)
  | (ex, some (.error e)) => (ex, some (.error e))
  | (ex, some (.ok iterations)) =>
      if iterations = dependencyCycleLimitGuard then
        (ex, some (.error (.request (.contractError (.missingRelated key.id)))))
      else (ex, some (.ok ()))

/-- `perform_contract_put`. -/
def performContractPut (rt : ContractRuntime) (net : Network) (timedOut : Nat → Bool) (fuel : Nat)
    (ex : Executor) (contract : ContractContainer) (state : List UInt8)
    (related : List (Bytes32 × Option (List UInt8))) :
    Executor × Option (Except ExecutorError HostResponse) :=
  let key := contract.key
  if (ex.updateNotifications key.id).isNone then (ex, some (.ok (.putResponse key)))
  else
    let params := contract.params
    -- `get_local_contract` succeeds when the state store has the contract
    if (ex.getState key).isSome then
      performContractUpdate rt net timedOut fuel ex key (.state state)
    else
      match verifyAndStoreContract rt net fuel ex state contract related with
      | (ex, none) => (ex, none)
      | (ex, some (.error e)) => (ex, some (.error e))
      | (ex, some (.ok ())) =>
          match sendUpdateNotification rt ex key params state with
          | (ex, none) => (ex, none)
          | (ex, some (.error _)) =>
              (ex, some (.error (.request (.contractError (.put key "failed while sending notifications")))))
          | (ex, some (.ok ())) => (ex, some (.ok (.putResponse key)))

/-- `perform_contract_get`. -/
def performContractGet (net : Network) (ex : Executor) (fetchContract : Bool) (key : ContractKey) :
    Executor × Except ExecutorError HostResponse :=
  let gotContract : Executor × Except ExecutorError (Option ContractContainer) :=
    if fetchContract && ex.mode = .local then
      match ex.getContractLocally key with
      | none => (ex, .error (.request (.contractError (.get key "Missing contract and/or parameters"))))
      | some contract => (ex, .ok (some contract))
    else if fetchContract then net.contractFromNetwork ex key
    else (ex, .ok none)
  match gotContract with
  | (ex, .error e) => (ex, .error e)
  | (ex, .ok gotContract) =>
      match ex.getState key with
      | some state => (ex, .ok (.getResponse key gotContract state))
      | none => (ex, .error (.request (.contractError (.get key "Missing contract state"))))

/-- `Executor::subscribe`: nothing to do in local mode. -/
def subscribe (net : Network) (ex : Executor) (key : ContractKey) : Except ExecutorError Unit :=
  if ex.mode = .local then .ok () else net.subscribe key

/-- `contract_requests`, for the request of client `cliId` with its update
channel, if any. -/
def contractRequests (rt : ContractRuntime) (net : Network) (timedOut : Nat → Bool) (fuel : Nat)
    (ex : Executor) (req : ContractRequest) (cliId : ClientId) (updates : Option Channel) :
    Executor × Option (Except ExecutorError HostResponse) :=
  match req with
  | .put contract state relatedContracts =>
      performContractPut rt net timedOut fuel ex contract state relatedContracts
  | .update key data => performContractUpdate rt net timedOut fuel ex key data
  | .get key contract =>
      match performContractGet net ex contract key with
      | (ex, res) => (ex, some res)
  | .subscribe key summary =>
      match updates with
      | none => (ex, some (.error (.other "missing update channel")))
      | some updates =>
          match ex.registerContractNotifier key cliId updates summary with
          | (ex, .error e) => (ex, some (.error (.request e)))
          | (ex, .ok ()) =>
              -- by default a subscribe op has an implicit get
              match performContractGet net ex false key with
              | (ex, .error e) => (ex, some (.error e))
              | (ex, .ok res) =>
                  match ex.subscribe net key with
                  | .error e => (ex, some (.error e))
                  | .ok () => (ex, some (.ok res))

/-! ### What notifications leave unchanged -/

section Frame

variable (rt : ContractRuntime) (key : ContractKey) (params newState : List UInt8)

/-- Notifying only sends: the stores are as they were. -/
theorem notifyEach_stores (summaries : ClientId → Option (Option (List UInt8))) (ex : Executor)
    (failures : List ClientId) (notifiers : List (ClientId × Channel)) :
    let ex' := (notifyEach rt key params newState summaries ex failures notifiers).1
    ex'.states = ex.states ∧ ex'.params = ex.params ∧ ex'.contracts = ex.contracts := by
  -- the loop goes down the notifier list, with the executor and the failures changing
  induction notifiers generalizing ex failures with
  | nil => simp [notifyEach]
  | cons n rest ih =>
      obtain ⟨peerKey, notifier⟩ := n
      simp only [notifyEach]
      split
      · simp
      · split
        · simp
        · split
          · exact ih ex _
          · exact ih _ failures

theorem sendUpdateNotification_stores (ex : Executor) :
    let ex' := (sendUpdateNotification rt ex key params newState).1
    ex'.states = ex.states ∧ ex'.params = ex.params ∧ ex'.contracts = ex.contracts := by
  cases hn : ex.updateNotifications key.id with
  | none => simp [sendUpdateNotification, hn]
  | some notifiers =>
      cases hs : ex.subscriberSummaries key.id with
      | none => simp [sendUpdateNotification, hn, hs]
      | some summaries =>
          have h := notifyEach_stores rt key params newState summaries ex [] notifiers
          simp only [sendUpdateNotification, hn, hs]
          generalize notifyEach rt key params newState summaries ex [] notifiers = r at h ⊢
          obtain ⟨ex', res⟩ := r
          rcases res with _ | _ | failures
          · exact h
          · exact h
          · -- the failed clients' removal touches the notifiers only
            dsimp only
            split <;> exact h

end Frame

/-! ### Puts and gets -/

section Get

variable (rt : ContractRuntime) (net : Network) (timedOut : Nat → Bool) (fuel : Nat)
  (cliId : ClientId) (updates : Option Channel)

/-- A get without the contract answers the stored state. -/
theorem contractRequests_get_of_state {ex : Executor} {key : ContractKey} {state : List UInt8}
    (hs : ex.states key.id = some state) :
    ex.contractRequests rt net timedOut fuel (.get key false) cliId updates =
      (ex, some (.ok (.getResponse key none state))) := by
  simp [contractRequests, performContractGet, getState, hs]

/-- A get of a key with no stored state fails, with the cause it names. -/
theorem contractRequests_get_of_no_state {ex : Executor} {key : ContractKey}
    (hs : ex.states key.id = none) :
    ex.contractRequests rt net timedOut fuel (.get key false) cliId updates =
      (ex, some (.error (.request (.contractError (.get key "Missing contract state"))))) := by
  simp [contractRequests, performContractGet, getState, hs]

end Get

/-- A contract whose state is valid as it stands is stored with its state
and parameters in the first iteration. -/
theorem verifyAndStoreContract_valid (rt : ContractRuntime) (net : Network) (fuel : Nat)
    (ex : Executor) (state : List UInt8) (contract : ContractContainer)
    (related : List (Bytes32 × Option (List UInt8)))
    (hv : rt.validateState contract.key contract.params state related = .ok .valid) :
    verifyAndStoreContract rt net (fuel + 1) ex state contract related =
      (storeState { ex with contracts := Function.update ex.contracts contract.key.id (some contract) }
        contract.key state contract.params, some (.ok ())) := by
  simp [verifyAndStoreContract, verifyLoop, dependencyCycleLimitGuard, hv]

/-- An update the contract answers with a new state at once is stored, in
the first iteration of `get_updated_state`. -/
theorem getUpdatedStateLoop_of_newState (rt : ContractRuntime) (net : Network)
    (timedOut : Nat → Bool) (params currentState newState : List UInt8) (key : ContractKey)
    (fuel i : Nat) (ex : Executor) (updates : List UpdateData)
    (related : List (Bytes32 × RelatedMode)) (hst : (ex.states key.id).isSome)
    (hu : rt.updateState key params currentState updates = .ok ⟨some newState, related⟩) :
    getUpdatedStateLoop rt net timedOut params currentState key (fuel + 1) i ex updates =
      ({ ex with states := Function.update ex.states key.id (some newState) }, some (.ok newState)) := by
  obtain ⟨prev, hprev⟩ := Option.isSome_iff_exists.mp hst
  simp [getUpdatedStateLoop, attemptStateUpdate, hu, updateState, hprev]

/-- With a client notified of the key, a put of a contract already stored
merges the state it carries: when the contract's `update_state` answers with
a new state at once, a get that follows returns that state. -/
theorem put_existing_then_get (rt : ContractRuntime) (net : Network) (timedOut : Nat → Bool)
    (fuel : Nat) (ex ex' : Executor) (contract : ContractContainer)
    (state prev params newState : List UInt8) (related : List (Bytes32 × Option (List UInt8)))
    (required : List (Bytes32 × RelatedMode)) (cliId : ClientId) (updates : Option Channel)
    (res : HostResponse) (hn : ex.updateNotifications contract.key.id ≠ none)
    (hs : ex.states contract.key.id = some prev) (hp : ex.params contract.key.id = some params)
    (hu : rt.updateState contract.key params prev [.state state] = .ok ⟨some newState, required⟩)
    (hput : ex.contractRequests rt net timedOut fuel (.put contract state related) cliId updates =
      (ex', some (.ok res))) :
    ex'.contractRequests rt net timedOut fuel (.get contract.key false) cliId updates =
      (ex', some (.ok (.getResponse contract.key none newState))) := by
  have hn' : (ex.updateNotifications contract.key.id).isNone = false := by
    simpa using Option.ne_none_iff_isSome.mp hn
  obtain _ | fuel := fuel
  · simp [contractRequests, performContractPut, hn', getState, hs, performContractUpdate, hp,
      getUpdatedStateLoop] at hput
  simp only [contractRequests, performContractPut, hn', getState, hs, Option.isSome_some,
    performContractUpdate, hp,
    getUpdatedStateLoop_of_newState rt net timedOut params prev newState contract.key fuel 0 ex _
      required (by simp [hs]) hu] at hput
  set updated := { ex with states := Function.update ex.states contract.key.id (some newState) }
  have hupdated : updated.states contract.key.id = some newState := by simp [updated]
  -- the summary, the notifications and the update sent to peers leave the state as it is
  generalize rt.summarizeState contract.key params newState = summary at hput
  obtain _ | summary := summary
  · simp at hput
  have hframe := sendUpdateNotification_stores rt contract.key params newState updated
  generalize sendUpdateNotification rt updated contract.key params newState = r at hframe hput
  obtain ⟨ex₁, _ | _ | _⟩ := r <;> simp at hput
  have hst : ex₁.states = updated.states := hframe.1
  have hex : ex' = ex₁ := by
    split at hput
    · exact (Prod.mk.inj hput).1.symm
    · split at hput <;> simp at hput
      exact hput.1.symm
  subst hex
  exact contractRequests_get_of_state rt net timedOut _ cliId updates (hst ▸ hupdated)

/-- A put of a contract already stored, whose contract answers every update
with the state `[8]`. -/
theorem put_existing_then_get_init :
    let rt : ContractRuntime := ⟨fun _ _ _ _ => .ok .valid, fun _ _ _ _ => .ok ⟨some [8], []⟩,
      fun _ _ _ => .ok [], fun _ _ _ _ => .ok []⟩
    let net : Network := ⟨fun _ => .ok (), fun _ _ => .ok (), fun ex _ _ => (ex, .ok []),
      fun ex r _ => (ex, .ok (r, none)), fun ex _ => (ex, .ok none)⟩
    let contract : ContractContainer := ⟨⟨.replicate 1, none⟩, [], [9]⟩
    let ex : Executor := { init .local with
      states := fun _ => some [7]
      params := fun _ => some []
      updateNotifications := fun _ => some []
      subscriberSummaries := fun _ => some fun _ => none }
    ex.updateNotifications contract.key.id ≠ none ∧ ex.states contract.key.id = some [7] ∧
      ex.params contract.key.id = some [] ∧ rt.updateState contract.key [] [7] [.state [6]] = .ok ⟨some [8], []⟩ ∧
      ∃ ex' res, ex.contractRequests rt net (fun _ => false) 1 (.put contract [6] []) 0 none = (ex', some (.ok res)) ∧
        ex'.contractRequests rt net (fun _ => false) 1 (.get contract.key false) 0 none =
          (ex', some (.ok (.getResponse contract.key none [8]))) := by
  intro rt net contract ex
  have hn : ex.updateNotifications contract.key.id ≠ none := by simp [ex]
  have hput : ex.contractRequests rt net (fun _ => false) 1 (.put contract [6] []) 0 none =
      ((ex.contractRequests rt net (fun _ => false) 1 (.put contract [6] []) 0 none).1,
        some (.ok (.updateResponse contract.key []))) := rfl
  exact ⟨hn, rfl, rfl, rfl, _, _, hput,
    put_existing_then_get rt net _ 1 ex _ contract [6] [7] [] [8] [] [] 0 none _ hn rfl rfl rfl hput⟩

/-- A put of a contract no client has asked to be notified of is answered
as stored, and the executor is left as it was: the contract is neither
validated nor stored, and a get of its key that follows finds no state. -/
theorem put_without_notifier_not_stored (rt : ContractRuntime) (net : Network)
    (timedOut : Nat → Bool) (fuel : Nat) (ex : Executor) (contract : ContractContainer)
    (state : List UInt8) (related : List (Bytes32 × Option (List UInt8))) (cliId : ClientId)
    (updates : Option Channel) (hn : ex.updateNotifications contract.key.id = none)
    (hs : ex.states contract.key.id = none) :
    ex.contractRequests rt net timedOut fuel (.put contract state related) cliId updates =
        (ex, some (.ok (.putResponse contract.key))) ∧
      ex.contractRequests rt net timedOut fuel (.get contract.key false) cliId updates =
        (ex, some (.error (.request (.contractError (.get contract.key "Missing contract state"))))) := by
  constructor
  · simp [contractRequests, performContractPut, hn]
  · exact contractRequests_get_of_no_state rt net timedOut fuel cliId updates hs

/-- A put of a new contract whose state is valid, on a fresh executor in
local mode. -/
theorem put_without_notifier_not_stored_init :
    let rt : ContractRuntime := ⟨fun _ _ _ _ => .ok .valid, fun _ _ s _ => .ok ⟨some s, []⟩,
      fun _ _ _ => .ok [], fun _ _ _ _ => .ok []⟩
    let net : Network := ⟨fun _ => .ok (), fun _ _ => .ok (), fun ex _ _ => (ex, .ok []),
      fun ex r _ => (ex, .ok (r, none)), fun ex _ => (ex, .ok none)⟩
    let contract : ContractContainer := ⟨⟨.replicate 1, none⟩, [], [9]⟩
    (init .local).updateNotifications contract.key.id = none ∧
      (init .local).states contract.key.id = none ∧
      ((init .local).contractRequests rt net (fun _ => false) 1 (.put contract [7] []) 0 none =
          (init .local, some (.ok (.putResponse contract.key))) ∧
        (init .local).contractRequests rt net (fun _ => false) 1 (.get contract.key false) 0 none =
          (init .local,
            some (.error (.request (.contractError (.get contract.key "Missing contract state")))))) :=
  ⟨rfl, rfl, put_without_notifier_not_stored _ _ _ _ _ _ _ _ _ _ rfl rfl⟩

/-! ### Related contracts -/

section Related

variable (rt : ContractRuntime) (net : Network) (params currentState : List UInt8) (key : ContractKey)

/-- Each related contract resolved adds one update. -/
theorem resolveMissing_length {ex ex' : Executor} {updates updates' : List UpdateData}
    {missing : List (Bytes32 × RelatedMode)}
    (h : resolveMissing net ex updates missing = (ex', .ok updates')) :
    updates'.length = updates.length + missing.length := by
  induction missing generalizing ex updates with
  | nil =>
      simp only [resolveMissing, Prod.mk.injEq, Except.ok.injEq] at h
      rw [← h.2, List.length_nil, Nat.add_zero]
  | cons m rest ih =>
      simp only [resolveMissing] at h
      split at h
      · rw [ih h]
        simp only [List.length_append, List.length_cons, List.length_nil]
        omega
      · split at h
        · split at h
          · cases h
          · rw [ih h]
            simp only [List.length_append, List.length_cons, List.length_nil]
            omega
        · cases h

/-- Related contracts the store has are resolved from it, and the executor
is left as it was. -/
theorem resolveMissing_of_stored {ex : Executor} {missing : List (Bytes32 × RelatedMode)}
    (hstored : ∀ p ∈ missing, (ex.states p.1).isSome) (updates : List UpdateData) :
    ∃ updates', resolveMissing net ex updates missing = (ex, .ok updates') := by
  induction missing generalizing updates with
  | nil => exact ⟨updates, rfl⟩
  | cons m rest ih =>
      obtain ⟨state, hstate⟩ := Option.isSome_iff_exists.mp (hstored m List.mem_cons_self)
      obtain ⟨updates', h⟩ := ih (fun p hp => hstored p (List.mem_cons_of_mem m hp))
        (updates ++ [.relatedState m.1 state])
      refine ⟨updates', ?_⟩
      rw [resolveMissing, hstate]
      exact h

/-- The timeout of `get_updated_state` is never reached. Once the related
contracts are resolved the update list holds at least one update for each
contract asked for, so `updates.len() + 1 >= required_contracts` always holds
and the loop goes round again without looking at the time: the loop is the
same for every clock. -/
theorem getUpdatedStateLoop_clock (timedOut timedOut' : Nat → Bool) (fuel i : Nat) (ex : Executor)
    (updates : List UpdateData) :
    getUpdatedStateLoop rt net timedOut params currentState key fuel i ex updates =
      getUpdatedStateLoop rt net timedOut' params currentState key fuel i ex updates := by
  induction fuel generalizing i ex updates with
  | zero => rfl
  | succ fuel ih =>
      simp only [getUpdatedStateLoop]
      rcases attemptStateUpdate rt ex params currentState key updates with
        e | ⟨ex₁, newState | missing⟩
      · rfl
      · rfl
      · dsimp only
        rcases hres : resolveMissing net ex₁ updates missing with ⟨ex₂, e | updates₂⟩
        · rfl
        · have hlen := resolveMissing_length net hres
          simp only [if_pos (show updates₂.length + 1 ≥ missing.length + 1 by omega)]
          exact ih (i + 1) ex₂ updates₂

/-- A contract that answers every update list by asking for the same
related contracts, all of them stored, keeps the loop going: it gives no
answer within any number of iterations. -/
theorem getUpdatedStateLoop_of_asks {related : List (Bytes32 × RelatedMode)} (hne : related ≠ [])
    (hasks : ∀ updates, rt.updateState key params currentState updates = .ok ⟨none, related⟩)
    {ex : Executor} (hstored : ∀ p ∈ related, (ex.states p.1).isSome) (timedOut : Nat → Bool)
    (fuel i : Nat) (updates : List UpdateData) :
    getUpdatedStateLoop rt net timedOut params currentState key fuel i ex updates = (ex, none) := by
  induction fuel generalizing i updates with
  | zero => rfl
  | succ fuel ih =>
      have hattempt : attemptStateUpdate rt ex params currentState key updates = .ok (ex, .inr related) := by
        simp [attemptStateUpdate, hasks, hne]
      obtain ⟨updates', hres⟩ := resolveMissing_of_stored net hstored updates
      have hlen := resolveMissing_length net hres
      simp only [getUpdatedStateLoop, hattempt, hres,
        if_pos (show updates'.length + 1 ≥ related.length + 1 by omega)]
      exact ih (i + 1) updates'

/-- An update of a contract that keeps asking for a related contract the
store has is never answered, however many iterations the executor is given
and whatever the clock says: the ten-second timeout never fires. -/
theorem update_never_answered (rt : ContractRuntime) (net : Network) (timedOut : Nat → Bool)
    {ex : Executor} {key : ContractKey} {params currentState : List UInt8}
    (hp : ex.params key.id = some params) (hs : ex.states key.id = some currentState)
    {related : List (Bytes32 × RelatedMode)} (hne : related ≠ [])
    (hstored : ∀ p ∈ related, (ex.states p.1).isSome)
    (hasks : ∀ updates, rt.updateState key params currentState updates = .ok ⟨none, related⟩)
    (data : UpdateData) (fuel : Nat) (cliId : ClientId) (updates : Option Channel) :
    ex.contractRequests rt net timedOut fuel (.update key data) cliId updates = (ex, none) := by
  simp only [contractRequests, performContractUpdate, hp, getState, hs,
    getUpdatedStateLoop_of_asks rt net params currentState key hne hasks hstored]

end Related

/-- A contract whose every update asks for the contract `5`, on an executor
storing both, with the clock always past ten seconds. -/
theorem update_never_answered_related :
    let rt : ContractRuntime := ⟨fun _ _ _ _ => .ok .valid,
      fun _ _ _ _ => .ok ⟨none, [(.replicate 5, .stateOnce)]⟩, fun _ _ _ => .ok [], fun _ _ _ _ => .ok []⟩
    let net : Network := ⟨fun _ => .ok (), fun _ _ => .ok (), fun ex _ _ => (ex, .ok []),
      fun ex r _ => (ex, .ok (r, none)), fun ex _ => (ex, .ok none)⟩
    let ex : Executor := { init .local with states := fun _ => some [], params := fun _ => some [] }
    ex.contractRequests rt net (fun _ => true) 100 (.update ⟨.replicate 1, none⟩ (.delta [])) 0 none =
      (ex, none) :=
  update_never_answered _ _ _ rfl rfl (List.cons_ne_nil _ _) (fun _ _ => rfl) (fun _ => rfl) _ _ _ _

/-! ### Update notifiers -/

/-- A client that `binary_search_by_key` does not find in the key's
notifiers is pushed at the end of them, with its summary recorded. -/
theorem registerContractNotifier_of_not_found {ex : Executor} {key : ContractKey}
    {channels : List (ClientId × Channel)} (hch : (ex.updateNotifications key.id).getD [] = channels)
    {cliId : ClientId} {i : Nat} (hmiss : binarySearchByKey cliId Prod.fst channels = .error i)
    (ch : Channel) (summary : Option (List UInt8)) :
    (ex.registerContractNotifier key cliId ch summary).2 = .ok () ∧
      (ex.registerContractNotifier key cliId ch summary).1.updateNotifications key.id =
        some (channels ++ [(cliId, ch)]) := by
  simp [registerContractNotifier, hch, hmiss]

/-- Clients that register out of order defeat the search for duplicates:
with a client `b` registered after a client `a > b`, a second registration
of `a` on another channel is not refused but pushed, and the key's notifiers
hold `a` twice. -/
theorem notifier_registered_twice {ex : Executor} {key : ContractKey}
    (hempty : (ex.updateNotifications key.id).getD [] = []) {a b : ClientId} (hab : b < a)
    (ca cb cc : Channel) (sa sb sc : Option (List UInt8)) :
    let ex₁ := (ex.registerContractNotifier key a ca sa).1
    let ex₂ := (ex₁.registerContractNotifier key b cb sb).1
    (ex.registerContractNotifier key a ca sa).2 = .ok () ∧
      (ex₁.registerContractNotifier key b cb sb).2 = .ok () ∧
      (ex₂.registerContractNotifier key a cc sc).2 = .ok () ∧
      (ex₂.registerContractNotifier key a cc sc).1.updateNotifications key.id =
        some [(a, ca), (b, cb), (a, cc)] := by
  have hmiss₁ : binarySearchByKey a Prod.fst ([] : List (ClientId × Channel)) = .error 0 := by
    simp [binarySearchByKey, binarySearchBy, searchFrom]
  obtain ⟨h₁, hch₁⟩ := registerContractNotifier_of_not_found hempty hmiss₁ ca sa
  -- `b` is compared with `a` and goes left, off the list
  have hmiss₂ : binarySearchByKey b Prod.fst [(a, ca)] = .error 0 := by
    simp [binarySearchByKey, binarySearchBy, searchFrom, compare_gt_iff_gt.mpr hab]
  obtain ⟨h₂, hch₂⟩ := registerContractNotifier_of_not_found (by rw [hch₁]; rfl) hmiss₂ cb sb
  -- `a` is compared with `b`, the middle element, and goes right, off the list
  have hmiss₃ : binarySearchByKey a Prod.fst [(a, ca), (b, cb)] = .error 2 := by
    simp [binarySearchByKey, binarySearchBy, searchFrom, compare_lt_iff_lt.mpr hab]
  obtain ⟨h₃, hch₃⟩ := registerContractNotifier_of_not_found (by rw [hch₂]; rfl) hmiss₃ cc sc
  exact ⟨h₁, h₂, h₃, hch₃⟩

/-- Client `2`, then client `1`, then client `2` again on another channel. -/
theorem notifier_registered_twice_init :
    let ex₁ := ((init .local).registerContractNotifier ⟨.replicate 1, none⟩ 2 7 none).1
    let ex₂ := (ex₁.registerContractNotifier ⟨.replicate 1, none⟩ 1 8 none).1
    ((init .local).registerContractNotifier ⟨.replicate 1, none⟩ 2 7 none).2 = .ok () ∧
      (ex₁.registerContractNotifier ⟨.replicate 1, none⟩ 1 8 none).2 = .ok () ∧
      (ex₂.registerContractNotifier ⟨.replicate 1, none⟩ 2 9 none).2 = .ok () ∧
      (ex₂.registerContractNotifier ⟨.replicate 1, none⟩ 2 9 none).1.updateNotifications
        (Bytes32.replicate 1) = some [(2, 7), (1, 8), (2, 9)] :=
  notifier_registered_twice rfl (by decide) 7 8 9 none none none

end Executor

end FreenetCore.Contract
