import FreenetCore.Operations.Put
import FreenetCore.Lib.Since

/-!
The put operation across a network of nodes (`operations/put.rs` over
`node/op_state_manager.rs` and the event loop of `node.rs`).

Each node runs `PutOp::process_message` over its own op manager: a message
of a transaction the node does not know starts a received request
(`load_or_init`), one of a completed transaction is dropped (`pop` answers
`OpNotAvailable::Completed` and the task returns), `handle_op_result`
pushes the operation back or completes it and sends a message with a
target to that peer, and `report_result` marks a failed transaction
completed. A final operation's `to_host_result` goes to the client waiting
for the transaction at the node. `notify_op_change` pushes its operation
and hands its message to the node's own event loop.

The ring's and the contract handler's answers are fixed per node: routing,
seeding and subscriber lists do not change. `seed_contract`,
`start_subscription_request` and the `Unsubscribed` and `Aborted` messages
belong to other operations and change nothing here. Messages in flight are
delivered one at a time in any order, and each runs to its end before the
next one starts.
-/

namespace FreenetCore.Node

open FreenetCore.Operations FreenetCore.WasmRuntime

/-- A node as the put operation uses it: its configuration, the ring's and
the contract handler's answers, its op manager's put operations and
completed transactions, and the host results `report_result` handed to the
client of each transaction. -/
structure PutNode where
  cfg : NodeConfig
  view : PutView
  ops : Transaction → Option PutOp
  completed : Transaction → Bool
  results : List (Transaction × Except String ContractKey)

namespace PutNode

/-- Where `handle_op_result` sends a message: to its target, if it has one. -/
def outbound : Option PutMsg → List (PeerId × PutMsg)
  | some msg =>
      match msg.target with
      | some t => [(t.peer, msg)]
      | none => []
  | none => []

/-- `notify_op_change` pushes its operation under its message's id. -/
def pushOp (n : PutNode) : Option (PutMsg × PutOp) → PutNode
  | some (m, op) => { n with ops := Function.update n.ops m.id (some op) }
  | none => n

/-- The message `notify_op_change` hands to the node's own event loop. -/
def toSelf (me : PeerId) (pushed : Option (PutMsg × PutOp)) : List (PeerId × PutMsg) :=
  (pushed.map fun p => (me, p.1)).toList

/-- What node `me` does with a step of transaction `id`: the push of
`notify_op_change`, then `handle_op_result` and `report_result`. -/
def settle (n : PutNode) (me : PeerId) (id : Transaction) (step : PutStep) :
    PutNode × List (PeerId × PutMsg) :=
  let sent := step.sent ++ toSelf me step.pushed
  let n := n.pushOp step.pushed
  match handleOpResult PutOp.finalized step.result with
  | .pushed op reply => ({ n with ops := Function.update n.ops id (some op) }, sent ++ outbound reply)
  | .completed final reply =>
      ({ n with
          completed := Function.update n.completed id true
          results := n.results ++ final.toList.map fun op => (op.id, op.toHostResult) },
        sent ++ outbound reply)
  | .statePushed => (n, sent)
  -- `report_result` marks a failed transaction completed
  | .failed _ => ({ n with completed := Function.update n.completed id true }, sent)

/-- A message of the put operation at node `me`, with the messages it sends;
`none` is a panic. -/
def process (n : PutNode) (me : PeerId) (msg : PutMsg) :
    Option (PutNode × List (PeerId × PutMsg)) :=
  let id := msg.id
  if n.completed id then some (n, [])
  else
    let op := (n.ops id).getD ⟨id, some .receivedRequest, none⟩
    let popped := { n with ops := Function.update n.ops id none }
    (op.processMessage n.cfg n.view msg).map (popped.settle me id)

/-! ### What the op manager keeps -/

/-- The op manager files each operation under its own id. -/
def Filed (ops : Transaction → Option PutOp) : Prop :=
  ∀ t op, ops t = some op → op.id = t

theorem filed_update_none {ops : Transaction → Option PutOp} (h : Filed ops) (id : Transaction) :
    Filed (Function.update ops id none) := by
  intro t op ht
  by_cases hti : t = id
  · simp [hti] at ht
  · rw [Function.update_of_ne hti] at ht
    exact h t op ht

theorem filed_update_some {ops : Transaction → Option PutOp} (h : Filed ops) {id : Transaction}
    {op : PutOp} (hop : op.id = id) : Filed (Function.update ops id (some op)) := by
  intro t op' ht
  by_cases hti : t = id
  · subst hti
    simp only [Function.update_self, Option.some.injEq] at ht
    rw [← ht, hop]
  · rw [Function.update_of_ne hti] at ht
    exact h t op' ht

variable {n : PutNode} {me : PeerId} {id : Transaction} {step : PutStep}

theorem pushOp_filed (h : Filed n.ops) (hp : ∀ m o, step.pushed = some (m, o) → o.id = m.id) :
    Filed (n.pushOp step.pushed).ops := by
  cases hpushed : step.pushed with
  | none => exact h
  | some p => exact filed_update_some h (hp p.1 p.2 hpushed)

/-- A step of an operation filed under `id` leaves every operation filed. -/
theorem settle_filed {op : PutOp} (h : Filed n.ops) (hf : step.Filed op) (hid : op.id = id) :
    Filed (n.settle me id step).1.ops := by
  have hpush := pushOp_filed h hf.pushed
  unfold settle
  split
  · rename_i op' reply hres
    obtain ⟨m, hm⟩ := handleOpResult_pushed hres
    exact filed_update_some hpush (by rw [hf.result m op' hm, hid])
  all_goals exact hpush

/-- `process` leaves every operation filed. -/
theorem process_filed {msg : PutMsg} {n' : PutNode} {out : List (PeerId × PutMsg)}
    (h : Filed n.ops) (hp : n.process me msg = some (n', out)) : Filed n'.ops := by
  unfold process at hp
  dsimp only at hp
  split at hp
  · cases hp
    exact h
  · obtain ⟨step, hstep, hsettle⟩ := Option.map_eq_some_iff.mp hp
    obtain rfl : _ = n' := congrArg Prod.fst hsettle
    -- the operation it loads is the one filed under the message's id, or a new one
    have hid : ((n.ops msg.id).getD ⟨msg.id, some .receivedRequest, none⟩).id = msg.id := by
      cases hop : n.ops msg.id with
      | none => rfl
      | some op => exact h _ _ hop
    exact settle_filed (filed_update_none h _) (processMessage_filed hstep) hid

/-! ### A transaction a node gave up on -/

/-- The node completed transaction `id` without a host result for it. -/
structure Abandoned (n : PutNode) (id : Transaction) : Prop where
  completed : n.completed id = true
  noResult : ∀ r ∈ n.results, r.1 ≠ id

theorem Abandoned.pushOp {t : Transaction} (ha : n.Abandoned t) (p : Option (PutMsg × PutOp)) :
    (n.pushOp p).Abandoned t := by
  cases p with
  | none => exact ha
  | some p => exact ⟨ha.completed, ha.noResult⟩

/-- A step of another transaction keeps an abandoned one abandoned: it only
completes its own transaction, and only with its own operation's result. -/
theorem settle_abandoned {op : PutOp} {t : Transaction} (ha : n.Abandoned t) (hf : step.Filed op)
    (hid : op.id = id) (hne : id ≠ t) : (n.settle me id step).1.Abandoned t := by
  have hpush := ha.pushOp step.pushed
  unfold settle
  split
  · exact ⟨hpush.completed, hpush.noResult⟩
  · rename_i final reply hres
    refine ⟨by simp [Function.update_of_ne hne.symm, hpush.completed], ?_⟩
    intro r hr
    rcases List.mem_append.mp hr with hr | hr
    · exact hpush.noResult r hr
    · -- the result is the final operation's, which is filed under `id`
      cases final with
      | none => simp at hr
      | some o =>
          obtain ⟨hres', -⟩ := handleOpResult_completed_some hres
          simp only [Option.toList_some, List.map_cons, List.map_nil, List.mem_singleton] at hr
          rw [hr, hf.result none o hres', hid]
          exact hne
  · exact hpush
  · exact ⟨by simp [Function.update_of_ne hne.symm, hpush.completed], hpush.noResult⟩

/-- Once a node abandoned a transaction, no message makes it answer it. -/
theorem process_abandoned {msg : PutMsg} {n' : PutNode} {out : List (PeerId × PutMsg)}
    {t : Transaction} (h : Filed n.ops) (ha : n.Abandoned t) (hp : n.process me msg = some (n', out)) :
    n'.Abandoned t := by
  unfold process at hp
  dsimp only at hp
  split at hp
  · cases hp
    exact ha
  · rename_i hc
    obtain ⟨step, hstep, hsettle⟩ := Option.map_eq_some_iff.mp hp
    obtain rfl : _ = n' := congrArg Prod.fst hsettle
    -- the message is of another transaction: `t` is completed, its own is not
    have hne : msg.id ≠ t := by
      rintro rfl
      exact hc ha.completed
    have hid : ((n.ops msg.id).getD ⟨msg.id, some .receivedRequest, none⟩).id = msg.id := by
      cases hop : n.ops msg.id with
      | none => rfl
      | some op => exact h _ _ hop
    exact settle_abandoned ⟨ha.completed, ha.noResult⟩ (processMessage_filed hstep) hid hne

/-! ### What each node of a put does -/

section Roles

variable {id : Transaction} {contract : ContractContainer} {key : ContractKey}
  {value v : List UInt8} {sender target : PeerKeyLocation} {targets : List PeerKeyLocation}

/-- A message of a completed transaction is dropped. -/
theorem process_completed {msg : PutMsg} (hc : n.completed msg.id = true) :
    n.process me msg = some (n, []) := by
  simp [process, hc]

/-- A step that fails, with no other effect, completes its transaction and
drops the operation. -/
theorem process_of_error {msg : PutMsg} {e : OpError} (hc : n.completed msg.id = false)
    (he : e ≠ .statePushed)
    (h : ((n.ops msg.id).getD ⟨msg.id, some .receivedRequest, none⟩).processMessage n.cfg n.view msg =
      some { result := .error e }) :
    n.process me msg =
      some ({ n with ops := Function.update n.ops msg.id none,
                     completed := Function.update n.completed msg.id true }, []) := by
  simp [process, hc, h, settle, handleOpResult, pushOp, toSelf]

/-- The originator's own `RequestPut` sends the `SeekNode` to its target and
keeps the operation. -/
theorem process_requestPut {op : PutOp} {htl : Nat} (hc : n.completed id = false)
    (hop : n.ops id = some op) :
    n.process me (.requestPut id contract value htl target) =
      some (n, [(target.peer, .seekNode id n.cfg.ownLocation target value contract htl)]) := by
  -- the operation goes back where it was
  have hops : Function.update n.ops id (some op) = n.ops := by
    rw [Function.update_eq_self_iff, hop]
  simp [process, PutMsg.id, hc, hop, PutOp.processMessage, buildOpResult, settle, handleOpResult,
    pushOp, toSelf, outbound, PutMsg.target, hops]

/-- A node that gets a `SeekNode` it has not seen, takes the value, knows no
closer peer and has subscribers to tell hands itself `Broadcasting`. -/
theorem process_seekNode_broadcast {htl : Nat} (hc : n.completed id = false)
    (hop : n.ops id = none) (hput : n.view.putQuery contract.key value contract = .putResponse v)
    (hloc : n.cfg.ownLocation.location.isSome)
    (hroute : n.view.closestPotentiallyCaching contract.key [sender.peer] = none) (hhtl : 0 < htl)
    (htargets : getBroadcastTargets n.view contract.key sender.peer = targets) (hne : targets ≠ []) :
    n.process me (.seekNode id sender target value contract htl) =
      some ({ n with ops := Function.update n.ops id (some ⟨id, some .broadcastOngoing, none⟩) },
        [(me, .broadcasting id 0 targets contract.key value contract sender)]) := by
  have hhop : (seekNodeHop n.cfg n.view id sender contract value htl).run = some (.ok (true, {})) :=
    seekNodeHop_last hput hloc hroute hhtl
  have hstart : tryToBroadcast id true (some .receivedRequest) targets sender contract.key contract
      value = _ := tryToBroadcast_broadcasting (.inl rfl) hne
  simp [process, PutMsg.id, hc, hop, PutOp.processMessage, hhop, htargets, broadcastStep, hstart,
    Except.map, settle, handleOpResult, pushOp, toSelf]

/-- A node that gets a `BroadcastTo` it has not seen and has subscribers to
tell stores the value and hands itself `Broadcasting` with what it stored. -/
theorem process_broadcastTo_relay {v' : List UInt8} (hc : n.completed id = false)
    (hop : n.ops id = none) (hput : n.view.putQuery key v contract = .putResponse v')
    (htargets : getBroadcastTargets n.view key sender.peer = targets) (hne : targets ≠ []) :
    n.process me (.broadcastTo id sender key v contract) =
      some ({ n with ops := Function.update n.ops id (some ⟨id, some .broadcastOngoing, none⟩) },
        [(me, .broadcasting id 0 targets key v' contract sender)]) := by
  have hstart : tryToBroadcast id false (some .receivedRequest) targets sender key contract v' = _ :=
    tryToBroadcast_broadcasting (.inl rfl) hne
  simp [process, PutMsg.id, hc, hop, PutOp.processMessage, putContract_of_putResponse hput,
    htargets, broadcastStep, hstart, Except.map, settle, handleOpResult, pushOp, toSelf]

/-- `Broadcasting` sends `BroadcastTo` to every target and `SuccessfulPut`
upstream, and keeps the operation with no state. -/
theorem process_broadcasting {op : PutOp} {k : Nat} {up : PeerKeyLocation}
    (hc : n.completed id = false) (hop : n.ops id = some op) :
    n.process me (.broadcasting id k targets key v contract up) =
      some ({ n with ops := Function.update n.ops id (some ⟨op.id, none, op.stats⟩) },
        targets.map (fun p => (p.peer, .broadcastTo id n.cfg.ownLocation key v contract)) ++
          [(up.peer, .successfulPut id up)]) := by
  simp [process, PutMsg.id, hc, hop, PutOp.processMessage, buildOpResult, settle, handleOpResult,
    pushOp, toSelf, outbound, PutMsg.target]

/-- A `BroadcastTo` that reaches an operation waiting for its answer fails
the transaction there. -/
theorem process_broadcastTo_waiting {op : PutOp} {v' : List UInt8} {k : ContractKey}
    {up : Option PeerKeyLocation} (hc : n.completed id = false) (hop : n.ops id = some op)
    (hwait : op.state = some (.awaitingResponse k up))
    (hput : n.view.putQuery key v contract = .putResponse v') :
    n.process me (.broadcastTo id sender key v contract) =
      some ({ n with ops := Function.update n.ops id none,
                     completed := Function.update n.completed id true }, []) := by
  have hfail : op.processMessage n.cfg n.view (.broadcastTo id sender key v contract) =
      some { result := .error (.invalidTransition id) } :=
    processMessage_broadcastTo_waiting hwait hput
  exact process_of_error (e := .invalidTransition id) hc (by simp)
    (by simpa [PutMsg.id, hop] using hfail)

/-- A `SuccessfulPut` for an operation that is not waiting for it fails the
transaction there. -/
theorem process_successfulPut_refused {op : PutOp} (hc : n.completed id = false)
    (hop : n.ops id = some op) (hstate : ∀ k up, op.state ≠ some (.awaitingResponse k up)) :
    n.process me (.successfulPut id target) =
      some ({ n with ops := Function.update n.ops id none,
                     completed := Function.update n.completed id true }, []) := by
  refine process_of_error (e := .invalidTransition op.id) hc (by simp) ?_
  -- `hstate` rules out the one branch that takes a `SuccessfulPut`
  simp only [PutMsg.id, hop, Option.getD_some, PutOp.processMessage]

end Roles

end PutNode

/-- The nodes, and the messages in flight with the peer each goes to. -/
structure PutNet where
  nodes : PeerId → PutNode
  inFlight : List (PeerId × PutMsg)

/-- A node puts a contract's state with a fresh transaction, or a message in
flight is delivered. -/
inductive PutEvent
  | put (p : PeerId) (contract : ContractContainer) (value : List UInt8) (id : Transaction)
  | deliver (i : Nat)

namespace PutNet

/-- One event; `none` is a panic, or a message that is not in flight. -/
def step (net : PutNet) : PutEvent → Option PutNet
  | .put p contract value id =>
      let n := net.nodes p
      match requestPut n.cfg n.view (Put.startOp contract value n.cfg.maxHopsToLive id) with
      -- the node only logs the error
      | .error _ => some net
      | .ok (op, msg) =>
          some ⟨Function.update net.nodes p (n.pushOp (some (msg, op))),
            net.inFlight ++ PutNode.toSelf p (some (msg, op))⟩
  | .deliver i =>
      match net.inFlight[i]? with
      | none => none
      | some (p, msg) =>
          ((net.nodes p).process p msg).map fun r =>
            ⟨Function.update net.nodes p r.1, net.inFlight.eraseIdx i ++ r.2⟩

/-- A run of events. -/
def run (net : PutNet) (es : List PutEvent) : Option PutNet :=
  es.foldlM step net

@[simp] theorem run_cons (net : PutNet) (e : PutEvent) (es : List PutEvent) :
    net.run (e :: es) = (net.step e).bind fun net' => net'.run es := rfl

@[simp] theorem run_nil (net : PutNet) : net.run [] = some net := rfl

/-- Every node files each operation under its own id. -/
def WellFiled (net : PutNet) : Prop :=
  ∀ p, PutNode.Filed (net.nodes p).ops

/-- `request_put` keeps the operation under its own id, and its message
carries that id. -/
theorem requestPut_ids {cfg : NodeConfig} {view : PutView} {putOp op : PutOp} {msg : PutMsg}
    (h : requestPut cfg view putOp = .ok (op, msg)) : op.id = putOp.id ∧ msg.id = putOp.id := by
  unfold requestPut at h
  split at h
  · dsimp only at h
    split at h
    · cases h
    · cases h
      exact ⟨rfl, rfl⟩
  · cases h

/-- The nodes after one event: the one it touched, the others as they were. -/
theorem step_nodes {net net' : PutNet} {e : PutEvent} (h : net.step e = some net') (q : PeerId) :
    net'.nodes q = net.nodes q ∨
      (∃ p contract value id op msg, e = .put p contract value id ∧
        requestPut (net.nodes p).cfg (net.nodes p).view
          (Put.startOp contract value (net.nodes p).cfg.maxHopsToLive id) = .ok (op, msg) ∧
        q = p ∧ net'.nodes q = (net.nodes p).pushOp (some (msg, op))) ∨
      ∃ msg out, (net.nodes q).process q msg = some (net'.nodes q, out) := by
  cases e with
  | put p contract value id =>
      simp only [step] at h
      split at h
      · cases h
        exact .inl rfl
      · rename_i op msg hreq
        cases h
        by_cases hq : q = p
        · subst hq
          exact .inr (.inl ⟨q, contract, value, id, op, msg, rfl, hreq, rfl, by simp⟩)
        · exact .inl (Function.update_of_ne hq _ _)
  | deliver i =>
      simp only [step] at h
      split at h
      · cases h
      · rename_i p msg _
        obtain ⟨r, hr, rfl⟩ := Option.map_eq_some_iff.mp h
        by_cases hq : q = p
        · subst hq
          exact .inr (.inr ⟨msg, r.2, by simpa using hr⟩)
        · exact .inl (Function.update_of_ne hq _ _)

theorem step_wellFiled {net net' : PutNet} {e : PutEvent} (hf : net.WellFiled)
    (h : net.step e = some net') : net'.WellFiled := by
  intro q
  rcases step_nodes h q with hq | ⟨p, contract, value, id, op, msg, -, hreq, rfl, hq⟩ |
    ⟨msg, out, hq⟩
  · rw [hq]
    exact hf q
  · obtain ⟨hop, hmsg⟩ := requestPut_ids hreq
    rw [hq]
    exact PutNode.filed_update_some (hf q) (by rw [hop, hmsg])
  · exact PutNode.process_filed (hf q) hq

theorem step_abandoned {net net' : PutNet} {e : PutEvent} {q : PeerId} {t : Transaction}
    (hf : net.WellFiled) (ha : (net.nodes q).Abandoned t) (h : net.step e = some net') :
    (net'.nodes q).Abandoned t := by
  rcases step_nodes h q with hq | ⟨p, contract, value, id, op, msg, -, -, rfl, hq⟩ |
    ⟨msg, out, hq⟩
  · rwa [hq]
  · rw [hq]
    exact ha.pushOp _
  · exact PutNode.process_abandoned (hf q) ha hq

/-- A run keeps every operation filed under its own id. -/
theorem run_wellFiled {net net' : PutNet} {es : List PutEvent} (hf : net.WellFiled)
    (h : net.run es = some net') : net'.WellFiled :=
  History.foldlM_invariant PutNet.WellFiled (fun _ _ _ _ hf h => step_wellFiled hf h) hf h

/-- A transaction a node abandoned stays abandoned over every run. -/
theorem run_abandoned {net net' : PutNet} {es : List PutEvent} {q : PeerId} {t : Transaction}
    (hf : net.WellFiled) (ha : (net.nodes q).Abandoned t) (h : net.run es = some net') :
    (net'.nodes q).Abandoned t :=
  -- abandonment is kept together with the filing, which its step needs
  (History.foldlM_invariant (fun net : PutNet => net.WellFiled ∧ (net.nodes q).Abandoned t)
    (fun _ _ _ _ hP h => ⟨step_wellFiled hP.1 h, step_abandoned hP.1 hP.2 h⟩) ⟨hf, ha⟩ h).2

/-- `request_put` at a node that knows a peer to send the put to. -/
theorem step_put {net : PutNet} {p : PeerId} {contract : ContractContainer} {value : List UInt8}
    {id : Transaction} {target : PeerKeyLocation}
    (hroute : (net.nodes p).view.closestPotentiallyCaching contract.key
      [(net.nodes p).cfg.ownLocation.peer] = some target) :
    net.step (.put p contract value id) =
      some ⟨Function.update net.nodes p { net.nodes p with
          ops := Function.update (net.nodes p).ops id
            (some ⟨id, some (.awaitingResponse contract.key none), some .uninitialized⟩) },
        net.inFlight ++ [(p, .requestPut id contract value (net.nodes p).cfg.maxHopsToLive target)]⟩ := by
  simp [step, requestPut, Put.startOp, hroute, PutNode.pushOp, PutNode.toSelf, PutMsg.id]

/-- Delivering a message in flight to a node in a known state. -/
theorem step_deliver_at {net : PutNet} {i : Nat} {p : PeerId} {msg : PutMsg} {n₀ n : PutNode}
    {out : List (PeerId × PutMsg)} (hi : net.inFlight[i]? = some (p, msg)) (hn : net.nodes p = n₀)
    (h : n₀.process p msg = some (n, out)) :
    net.step (.deliver i) = some ⟨Function.update net.nodes p n, net.inFlight.eraseIdx i ++ out⟩ := by
  simp [step, hi, hn, h]

/-- A put whose broadcast comes back to its originator: `o` puts through
`t`, which stores the contract and broadcasts it to its subscriber `s`,
whose own subscriber is `o`. When the `BroadcastTo` from `s` reaches `o`
before the `SuccessfulPut` from `t`, it finds `o`'s operation still waiting
in `AwaitingResponse`: an invalid transition, so `o` completes the
transaction with no result and drops the `SuccessfulPut`. The network falls
quiet, and no later event gives `o`'s client an answer. -/
theorem originator_abandons_put (net : PutNet) (o t s : PeerId) (contract : ContractContainer)
    (value : List UInt8) (id : Transaction) (lt ls lo : Option Location)
    (hot : o ≠ t) (hos : o ≠ s) (hts : t ≠ s)
    (hself : ∀ p, (net.nodes p).cfg.ownLocation.peer = p) (hfiled : net.WellFiled)
    (hfree : ∀ p, (net.nodes p).ops id = none ∧ (net.nodes p).completed id = false)
    (hres : ∀ r ∈ (net.nodes o).results, r.1 ≠ id) (hflight : net.inFlight = [])
    (hacc : ∀ p v, ∃ v', (net.nodes p).view.putQuery contract.key v contract = .putResponse v')
    (hroute_o : (net.nodes o).view.closestPotentiallyCaching contract.key [o] = some ⟨t, lt⟩)
    (hhops : 0 < (net.nodes o).cfg.maxHopsToLive)
    (hloc_t : (net.nodes t).cfg.ownLocation.location.isSome)
    (hroute_t : (net.nodes t).view.closestPotentiallyCaching contract.key [o] = none)
    (hsubs_t : (net.nodes t).view.subscribersOf contract.key = some [⟨s, ls⟩])
    (hsubs_s : (net.nodes s).view.subscribersOf contract.key = some [⟨o, lo⟩]) :
    ∃ net', net.run [.put o contract value id, .deliver 0, .deliver 0, .deliver 0, .deliver 0,
        .deliver 1, .deliver 1, .deliver 0, .deliver 0] = some net' ∧
      net'.inFlight = [] ∧ (net'.nodes o).Abandoned id ∧
      ∀ es net'', net'.run es = some net'' → (net''.nodes o).Abandoned id := by
  obtain ⟨hoop, hoc⟩ := hfree o
  obtain ⟨htop, htc⟩ := hfree t
  obtain ⟨hsop, hsc⟩ := hfree s
  obtain ⟨vt, hvt⟩ := hacc t value
  obtain ⟨vs, hvs⟩ := hacc s value
  obtain ⟨vo, hvo⟩ := hacc o vs
  let key := contract.key
  let H := (net.nodes o).cfg.maxHopsToLive
  let lo' := (net.nodes o).cfg.ownLocation
  let lt' := (net.nodes t).cfg.ownLocation
  let ls' := (net.nodes s).cfg.ownLocation
  let opO : PutOp := ⟨id, some (.awaitingResponse key none), some .uninitialized⟩
  let opB : PutOp := ⟨id, some .broadcastOngoing, none⟩
  let opN : PutOp := ⟨id, none, none⟩
  -- the three nodes along the run
  let no₁ : PutNode := { net.nodes o with ops := Function.update (net.nodes o).ops id (some opO) }
  let nt₁ : PutNode := { net.nodes t with ops := Function.update (net.nodes t).ops id (some opB) }
  let nt₂ : PutNode := { nt₁ with ops := Function.update nt₁.ops id (some opN) }
  let ns₁ : PutNode := { net.nodes s with ops := Function.update (net.nodes s).ops id (some opB) }
  let ns₂ : PutNode := { ns₁ with ops := Function.update ns₁.ops id (some opN) }
  let no₂ : PutNode :=
    { no₁ with ops := Function.update no₁.ops id none,
               completed := Function.update no₁.completed id true }
  let nt₃ : PutNode :=
    { nt₂ with ops := Function.update nt₂.ops id none,
               completed := Function.update nt₂.completed id true }
  let N₁ := Function.update net.nodes o no₁
  let N₂ := Function.update N₁ t nt₁
  let N₃ := Function.update N₂ t nt₂
  let N₄ := Function.update N₃ s ns₁
  let N₅ := Function.update N₄ s ns₂
  let N₆ := Function.update N₅ o no₂
  let N₇ := Function.update N₆ t nt₃
  have hlo : lo'.peer = o := hself o
  have hlt : lt'.peer = t := hself t
  -- where each node stands along the run
  have hN₁o : N₁ o = no₁ := Function.update_self o no₁ net.nodes
  have hN₁t : N₁ t = net.nodes t := Function.update_of_ne (Ne.symm hot) no₁ net.nodes
  have hN₂t : N₂ t = nt₁ := Function.update_self t nt₁ N₁
  have hN₃s : N₃ s = net.nodes s := by
    simp only [N₃, N₂, N₁, Function.update_of_ne (Ne.symm hts), Function.update_of_ne (Ne.symm hos)]
  have hN₄s : N₄ s = ns₁ := Function.update_self s ns₁ N₃
  have hN₅o : N₅ o = no₁ := by
    simp only [N₅, N₄, N₃, N₂, Function.update_of_ne hos, Function.update_of_ne hot, hN₁o]
  have hN₆o : N₆ o = no₂ := Function.update_self o no₂ N₅
  have hN₆t : N₆ t = nt₂ := by
    simp only [N₆, N₅, N₄, Function.update_of_ne (Ne.symm hot), Function.update_of_ne hts, N₃,
      Function.update_self]
  -- and the operation each keeps for the transaction
  have hop_o₁ : no₁.ops id = some opO := by simp [no₁]
  have hop_t₁ : nt₁.ops id = some opB := by simp [nt₁]
  have hop_t₂ : nt₂.ops id = some opN := by simp [nt₂]
  have hop_s₁ : ns₁.ops id = some opB := by simp [ns₁]
  have hoc₁ : no₁.completed id = false := hoc
  have htc₁ : nt₁.completed id = false := htc
  have htc₂ : nt₂.completed id = false := htc
  have hsc₁ : ns₁.completed id = false := hsc
  -- `o` pushes its operation and sends itself `RequestPut`
  have e₁ : net.step (.put o contract value id) =
      some ⟨N₁, [(o, .requestPut id contract value H ⟨t, lt⟩)]⟩ := by
    rw [step_put (by rw [hself o]; exact hroute_o), hflight]
    rfl
  -- `o` sends `SeekNode` to `t`
  have e₂ : (⟨N₁, [(o, .requestPut id contract value H ⟨t, lt⟩)]⟩ : PutNet).step (.deliver 0) =
      some ⟨N₁, [(t, .seekNode id lo' ⟨t, lt⟩ value contract H)]⟩ := by
    rw [step_deliver_at rfl hN₁o (PutNode.process_requestPut hoc₁ hop_o₁),
      Function.update_eq_self_iff.mpr hN₁o.symm]
    rfl
  -- `t` stores the contract, finds no closer peer, and hands itself `Broadcasting`
  have e₃ : (⟨N₁, [(t, .seekNode id lo' ⟨t, lt⟩ value contract H)]⟩ : PutNet).step (.deliver 0) =
      some ⟨N₂, [(t, .broadcasting id 0 [⟨s, ls⟩] key value contract lo')]⟩ := by
    have htargets : getBroadcastTargets (net.nodes t).view key lo'.peer = [⟨s, ls⟩] := by
      simp [getBroadcastTargets, key, hsubs_t, hlo, Ne.symm hos]
    rw [step_deliver_at rfl hN₁t (PutNode.process_seekNode_broadcast htc htop hvt hloc_t
      (by rw [hlo]; exact hroute_t) hhops htargets (List.cons_ne_nil _ _))]
    rfl
  -- `t` sends `BroadcastTo` to `s` and `SuccessfulPut` to `o`
  have e₄ : (⟨N₂, [(t, .broadcasting id 0 [⟨s, ls⟩] key value contract lo')]⟩ : PutNet).step
      (.deliver 0) = some ⟨N₃, [(s, .broadcastTo id lt' key value contract),
        (o, .successfulPut id lo')]⟩ := by
    rw [step_deliver_at rfl hN₂t (PutNode.process_broadcasting htc₁ hop_t₁), hlo]
    rfl
  -- `s` stores the value and hands itself `Broadcasting` for its subscriber `o`
  have e₅ : (⟨N₃, [(s, .broadcastTo id lt' key value contract), (o, .successfulPut id lo')]⟩ :
      PutNet).step (.deliver 0) = some ⟨N₄, [(o, .successfulPut id lo'),
        (s, .broadcasting id 0 [⟨o, lo⟩] key vs contract lt')]⟩ := by
    have htargets : getBroadcastTargets (net.nodes s).view key lt'.peer = [⟨o, lo⟩] := by
      simp [getBroadcastTargets, key, hsubs_s, hlt, hot]
    rw [step_deliver_at rfl hN₃s
      (PutNode.process_broadcastTo_relay hsc hsop hvs htargets (List.cons_ne_nil _ _))]
    rfl
  -- `s` sends `BroadcastTo` to `o` and `SuccessfulPut` to `t`
  have e₆ : (⟨N₄, [(o, .successfulPut id lo'), (s, .broadcasting id 0 [⟨o, lo⟩] key vs contract lt')]⟩ :
      PutNet).step (.deliver 1) = some ⟨N₅, [(o, .successfulPut id lo'),
        (o, .broadcastTo id ls' key vs contract), (t, .successfulPut id lt')]⟩ := by
    rw [step_deliver_at rfl hN₄s (PutNode.process_broadcasting hsc₁ hop_s₁), hlt]
    rfl
  -- the `BroadcastTo` overtakes the `SuccessfulPut` and fails `o`'s waiting operation
  have e₇ : (⟨N₅, [(o, .successfulPut id lo'), (o, .broadcastTo id ls' key vs contract),
      (t, .successfulPut id lt')]⟩ : PutNet).step (.deliver 1) =
      some ⟨N₆, [(o, .successfulPut id lo'), (t, .successfulPut id lt')]⟩ := by
    rw [step_deliver_at rfl hN₅o (PutNode.process_broadcastTo_waiting hoc₁ hop_o₁ rfl hvo)]
    rfl
  -- `o` drops the `SuccessfulPut` of a completed transaction
  have e₈ : (⟨N₆, [(o, .successfulPut id lo'), (t, .successfulPut id lt')]⟩ : PutNet).step
      (.deliver 0) = some ⟨N₆, [(t, .successfulPut id lt')]⟩ := by
    rw [step_deliver_at rfl hN₆o (PutNode.process_completed (by simp [no₂, PutMsg.id])),
      Function.update_eq_self_iff.mpr hN₆o.symm]
    rfl
  -- `t`, done broadcasting, refuses the `SuccessfulPut` from `s`
  have e₉ : (⟨N₆, [(t, .successfulPut id lt')]⟩ : PutNet).step (.deliver 0) = some ⟨N₇, []⟩ := by
    rw [step_deliver_at rfl hN₆t (PutNode.process_successfulPut_refused htc₂ hop_t₂ (by simp [opN]))]
    rfl
  have hrun : net.run [.put o contract value id, .deliver 0, .deliver 0, .deliver 0, .deliver 0,
      .deliver 1, .deliver 1, .deliver 0, .deliver 0] = some ⟨N₇, []⟩ := by
    simp only [run_cons, e₁, e₂, e₃, e₄, e₅, e₆, e₇, e₈, e₉, Option.bind_some, run_nil]
  have hab : (N₇ o).Abandoned id := by
    rw [show N₇ o = no₂ from (Function.update_of_ne hot nt₃ N₆).trans hN₆o]
    exact ⟨by simp [no₂], hres⟩
  exact ⟨⟨N₇, []⟩, hrun, rfl, hab,
    fun es net'' h => run_abandoned (run_wellFiled hfiled hrun) hab h⟩

/-- Three nodes: `0` puts through `1`, which seeds the contract and has `2`
as its subscriber, whose own subscriber is `0`. -/
theorem originator_abandons_put_cycle :
    let contract : ContractContainer := ⟨⟨.replicate 1, none⟩, [], []⟩
    let value : List UInt8 := [7]
    let id := Transaction.new .put 0
    let node (p : PeerId) : PutNode :=
      ⟨⟨10, ⟨p, some 0⟩, .release⟩,
        ⟨fun _ _ => if p = 0 then some ⟨1, none⟩ else none, fun _ => true, fun _ => true,
          fun _ => if p = 1 then some [⟨2, none⟩] else if p = 2 then some [⟨0, none⟩] else none,
          fun _ => some (none, []), fun _ v _ => .putResponse v⟩,
        fun _ => none, fun _ => false, []⟩
    let net : PutNet := ⟨node, []⟩
    (0 : PeerId) ≠ 1 ∧ (0 : PeerId) ≠ 2 ∧ (1 : PeerId) ≠ 2 ∧
      (∀ p, (net.nodes p).cfg.ownLocation.peer = p) ∧ net.WellFiled ∧
      (∀ p, (net.nodes p).ops id = none ∧ (net.nodes p).completed id = false) ∧
      (∀ r ∈ (net.nodes 0).results, r.1 ≠ id) ∧ net.inFlight = [] ∧
      (∀ p v, ∃ v', (net.nodes p).view.putQuery contract.key v contract = .putResponse v') ∧
      (net.nodes 0).view.closestPotentiallyCaching contract.key [0] = some ⟨1, none⟩ ∧
      0 < (net.nodes 0).cfg.maxHopsToLive ∧ (net.nodes 1).cfg.ownLocation.location.isSome ∧
      (net.nodes 1).view.closestPotentiallyCaching contract.key [0] = none ∧
      (net.nodes 1).view.subscribersOf contract.key = some [⟨2, none⟩] ∧
      (net.nodes 2).view.subscribersOf contract.key = some [⟨0, none⟩] ∧
      ∃ net', net.run [.put 0 contract value id, .deliver 0, .deliver 0, .deliver 0, .deliver 0,
          .deliver 1, .deliver 1, .deliver 0, .deliver 0] = some net' ∧
        net'.inFlight = [] ∧ (net'.nodes 0).Abandoned id ∧
        ∀ es net'', net'.run es = some net'' → (net''.nodes 0).Abandoned id := by
  intro contract value id node net
  have hself : ∀ p, (net.nodes p).cfg.ownLocation.peer = p := fun _ => rfl
  have hfiled : net.WellFiled := fun _ _ _ h => by cases h
  have hfree : ∀ p, (net.nodes p).ops id = none ∧ (net.nodes p).completed id = false :=
    fun _ => ⟨rfl, rfl⟩
  have hres : ∀ r ∈ (net.nodes 0).results, r.1 ≠ id := by simp [net, node]
  have hacc : ∀ p v, ∃ v', (net.nodes p).view.putQuery contract.key v contract = .putResponse v' :=
    fun _ v => ⟨v, rfl⟩
  exact ⟨by decide, by decide, by decide, hself, hfiled, hfree, hres, rfl, hacc, rfl, by decide,
    rfl, rfl, rfl, rfl,
    originator_abandons_put net 0 1 2 contract value id none none none (by decide) (by decide)
      (by decide) hself hfiled hfree hres rfl hacc rfl (by decide) rfl rfl rfl rfl⟩

end PutNet

end FreenetCore.Node
