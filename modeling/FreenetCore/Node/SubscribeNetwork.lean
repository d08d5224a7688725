import FreenetCore.Node.Ring
import FreenetCore.Operations.Subscribe

/-!
The subscribe operation across a network of nodes (`operations/subscribe.rs`
over `ring.rs` and `node/op_state_manager.rs`).

Each node runs `SubscribeOp::process_message` over its own ring and op
manager: a message of a transaction the node does not know starts a received
request (`load_or_init`), `handle_op_result` pushes the operation back or
completes it, and a message with a target goes to that peer. A node that
subscribes first holds the contract (`request_subscribe` refuses otherwise),
pushes its operation and sends `RequestSub` to its own event loop.

Routing over the fixed connections (`closest_potentially_caching`) and
whether a node's contract handler has a state are given per node. Messages
in flight are delivered in any order.

The subscriber lists are the ring's: the provider of a subscription adds the
hop that reached it (`add_subscriber`), and a node that gets
`ReturnSub { subscribed: true }` files the hop that answered in the same list
(`register_subscription`). A node that forwards a `SeekNode` keeps its
requester only as `upstream_subscriber`, to pass the answer back.
-/

namespace FreenetCore.Node

open FreenetCore.Operations FreenetCore.WasmRuntime MachineInt

/-- A node as the subscribe operation uses it: its configuration and ring,
its routing and whether it has a state for a contract, its op manager's
subscribe operations and completed transactions, and the final operations
`report_result` handed to the client. -/
structure SubNode where
  cfg : NodeConfig
  ring : Ring
  routing : ContractKey → List PeerId → Option PeerKeyLocation
  holds : ContractKey → Bool
  ops : Transaction → Option SubscribeOp
  completed : Transaction → Bool
  results : List SubscribeOp

namespace SubNode

/-- What `process_message` consults at this node. -/
def view (n : SubNode) : SubscribeView where
  closestPotentiallyCaching := n.routing
  getQuery key _ := .ok ⟨if n.holds key then some [] else none, none⟩
  addSubscriber key s := (n.ring.addSubscriber key s).2.isOk

/-- The ring after a step: the subscriber `add_subscriber` took, then the
subscription `register_subscription` filed. -/
def stepRing (r : Ring) (step : SubscribeStep) : Ring :=
  let r := match step.addedSubscriber with
    | some (key, s) => (r.addSubscriber key s).1
    | none => r
  match step.registered with
  | some (key, s) => r.registerSubscription key s
  | none => r

/-- Where `handle_op_result` sends a message: to its target, if it has one. -/
def outbound : Option SubscribeMsg → List (PeerId × SubscribeMsg)
  | some msg =>
      match msg.target with
      | some t => [(t.peer, msg)]
      | none => []
  | none => []

/-- `request_subscribe`: the operation to push and the `RequestSub` for the
node's own event loop. -/
def requestSubscribe (n : SubNode) (op : SubscribeOp) : Except OpError (SubscribeOp × SubscribeMsg) :=
  match op.state with
  | some (.prepareRequest id key) =>
      if !n.holds key then .error (.contractNotFound key)
      else
        match n.routing key [] with
        | none => .error (.ringError (.noCachingPeers key))
        | some target =>
            .ok (⟨id, some (.awaitingResponse [] 0 none n.cfg.maxHopsToLive)⟩,
              .requestSub id key target)
  | _ => .error .unexpectedOpState

/-- A message of the subscribe operation at this node, with the messages it
sends; `none` is a panic. -/
def process (n : SubNode) (msg : SubscribeMsg) : Option (SubNode × List (PeerId × SubscribeMsg)) :=
  let id := msg.id
  -- `pop` refuses a completed transaction, and the task ends
  if n.completed id then some (n, [])
  else
    let op := (n.ops id).getD ⟨id, some .receivedRequest⟩
    let n := { n with ops := Function.update n.ops id none }
    (op.processMessage n.cfg n.view msg).map fun step =>
      let n := { n with ring := stepRing n.ring step }
      match handleOpResult SubscribeOp.finalized step.result with
      | .pushed op sent => ({ n with ops := Function.update n.ops id (some op) }, outbound sent)
      | .completed final sent =>
          ({ n with completed := Function.update n.completed id true,
                    results := n.results ++ final.toList }, outbound sent)
      | .statePushed => (n, [])
      -- `report_result` marks a failed transaction completed
      | .failed _ => ({ n with completed := Function.update n.completed id true }, [])

/-- Whether `p` is among this node's subscribers for `key`. -/
def hasSubscriber (n : SubNode) (key : ContractKey) (p : PeerId) : Bool :=
  ((n.ring.subscribers key.id).getD []).any (·.peer == p)

/-! ### What each node of a subscription does -/

variable {n : SubNode} {id : Transaction} {key : ContractKey} {target subscriber : PeerKeyLocation}

/-- The originator's own `RequestSub` sends the first `SeekNode` to the
target, with the originator as subscriber, and keeps the operation. -/
theorem process_requestSub {st : SubscribeState} (hc : n.completed id = false)
    (hop : n.ops id = some ⟨id, some st⟩) :
    n.process (.requestSub id key target) =
      some (n, [(target.peer, .seekNode id key target n.cfg.ownLocation [n.cfg.ownLocation.peer]
        n.cfg.maxHopsToLive 0)]) := by
  -- the operation goes back where it was
  have hops : Function.update n.ops id (some ⟨id, some st⟩) = n.ops := by
    rw [Function.update_eq_self_iff, hop]
  simp [process, SubscribeMsg.id, hc, hop, hops, SubscribeOp.processMessage, subscribeStep,
    subscribeOpResult, handleOpResult, stepRing, outbound, SubscribeMsg.target]

/-- A node without the contract forwards the `SeekNode` one hop on, as its
own subscriber, and waits with the requester as upstream subscriber. -/
theorem process_seekNode_forward {skip : List PeerId} {htl retries : Nat} {next : PeerKeyLocation}
    (hc : n.completed id = false) (hholds : n.holds key = false)
    (hroute : n.routing key skip = some next) (hhtl : 2 ≤ htl) :
    n.process (.seekNode id key target subscriber skip htl retries) =
      some ({ n with
          ops := Function.update n.ops id (some ⟨id, some (.awaitingResponse
            (skip ++ [target.peer]) retries (some subscriber) (htl - 1))⟩) },
        [(next.peer, .seekNode id key next n.cfg.ownLocation (skip ++ [target.peer]) (htl - 1)
          retries)]) := by
  have hsub : subUsize n.cfg.profile htl 1 = some (htl - 1) := subUsize_of_le (by omega)
  have hne : htl - 1 ≠ 0 := by omega
  simp [process, SubscribeMsg.id, hc, SubscribeOp.processMessage, hasContract, view, hholds,
    hroute, hsub, hne, subscribeStep, subscribeOpResult, handleOpResult, stepRing, outbound,
    SubscribeMsg.target]

/-- A node with the contract that takes the subscriber answers it with
`ReturnSub { subscribed: true }` and is done with the transaction. -/
theorem process_seekNode_provide {skip : List PeerId} {htl retries : Nat}
    (hc : n.completed id = false) (hop : n.ops id = none) (hholds : n.holds key = true)
    (hadd : (n.ring.addSubscriber key subscriber).2 = .ok ()) :
    n.process (.seekNode id key target subscriber skip htl retries) =
      some ({ n with ring := (n.ring.addSubscriber key subscriber).1,
                     completed := Function.update n.completed id true },
        [(subscriber.peer, .returnSub id key target subscriber true)]) := by
  have hops : Function.update n.ops id none = n.ops := by
    rw [Function.update_eq_self_iff, hop]
  simp [process, SubscribeMsg.id, hc, hop, hops, SubscribeOp.processMessage, hasContract, view,
    hholds, hadd, Except.isOk, Except.toBool, handleOpResult, subscribeOpResult, stepRing, outbound,
    SubscribeMsg.target]

/-- A node waiting with an upstream subscriber files the hop that answered
as a subscription and passes the answer upstream. -/
theorem process_returnSub_forward {sender : PeerKeyLocation} {skip : List PeerId}
    {retries hop : Nat} {up : PeerKeyLocation} (hc : n.completed id = false)
    (hop : n.ops id = some ⟨id, some (.awaitingResponse skip retries (some up) hop)⟩) :
    n.process (.returnSub id key sender target true) =
      some ({ n with ring := n.ring.registerSubscription key sender,
                     ops := Function.update n.ops id (some ⟨id, some .completed⟩) },
        [(up.peer, .returnSub id key target up true)]) := by
  simp [process, SubscribeMsg.id, hc, hop, SubscribeOp.processMessage, handleOpResult,
    subscribeOpResult, stepRing, outbound, SubscribeMsg.target]

/-- The originator files the hop that answered as a subscription, and its
operation completes. -/
theorem process_returnSub_complete {sender : PeerKeyLocation} {skip : List PeerId}
    {retries hop : Nat} (hc : n.completed id = false)
    (hop : n.ops id = some ⟨id, some (.awaitingResponse skip retries none hop)⟩) :
    n.process (.returnSub id key sender target true) =
      some ({ n with ring := n.ring.registerSubscription key sender,
                     ops := Function.update n.ops id none,
                     completed := Function.update n.completed id true,
                     results := n.results ++ [⟨id, some .completed⟩] }, []) := by
  simp [process, SubscribeMsg.id, hc, hop, SubscribeOp.processMessage, handleOpResult,
    subscribeOpResult, SubscribeOp.finalized, stepRing, outbound]

/-- `register_subscription` adds its peer to the subscribers of its contract. -/
theorem hasSubscriber_of_register {m : SubNode} {x : PeerKeyLocation}
    (h : n.ring = m.ring.registerSubscription key x) (p : PeerId) :
    n.hasSubscriber key p = (m.hasSubscriber key p || x.peer == p) := by
  simp [hasSubscriber, h, List.any_append]

/-- `add_subscriber` adds no one but its subscriber. -/
theorem hasSubscriber_of_add {m : SubNode} {x : PeerKeyLocation} {p : PeerId}
    (h : n.ring = (m.ring.addSubscriber key x).1) (hp : n.hasSubscriber key p = true) :
    m.hasSubscriber key p = true ∨ x.peer = p := by
  simp only [hasSubscriber, h, List.any_eq_true, beq_iff_eq] at hp ⊢
  obtain ⟨l, hl, rfl⟩ := hp
  rcases mem_addSubscriber hl with hl | rfl
  · exact Or.inl ⟨l, hl, rfl⟩
  · exact Or.inr rfl

end SubNode

/-- The nodes, and the messages in flight with the peer each goes to. -/
structure SubNet where
  nodes : PeerId → SubNode
  inFlight : List (PeerId × SubscribeMsg)

/-- A node subscribes to a contract with a fresh transaction, or a message
in flight is delivered. -/
inductive SubEvent
  | subscribe (p : PeerId) (key : ContractKey) (id : Transaction)
  | deliver (i : Nat)

namespace SubNet

/-- One event; `none` is a panic, or a message that is not in flight. -/
def step (net : SubNet) : SubEvent → Option SubNet
  | .subscribe p key id =>
      match (net.nodes p).requestSubscribe ⟨id, some (.prepareRequest id key)⟩ with
      | .error _ => some net
      | .ok (op, msg) =>
          -- `notify_op_change`: the operation is pushed, the message goes to the node itself
          some { nodes := Function.update net.nodes p
                   { net.nodes p with ops := Function.update (net.nodes p).ops id (some op) }
                 inFlight := net.inFlight ++ [(p, msg)] }
  | .deliver i =>
      match net.inFlight[i]? with
      | none => none
      | some (p, msg) =>
          ((net.nodes p).process msg).map fun r =>
            { nodes := Function.update net.nodes p r.1, inFlight := net.inFlight.eraseIdx i ++ r.2 }

/-- A run of events. -/
def run (net : SubNet) (es : List SubEvent) : Option SubNet :=
  es.foldlM step net

@[simp] theorem run_cons (net : SubNet) (e : SubEvent) (es : List SubEvent) :
    net.run (e :: es) = (net.step e).bind fun net' => net'.run es := rfl

@[simp] theorem run_nil (net : SubNet) : net.run [] = some net := rfl

/-- A chain `s = n₀, n₁, …, nₘ` with `m ≥ 1`, where `nₘ` has the contract and
each `nᵢ` is among `nᵢ₊₁`'s subscribers: the path a broadcast from `nₘ`
takes back to `s`. -/
def SubscriberChain (net : SubNet) (key : ContractKey) (s : PeerId) : Prop :=
  ∃ path last, path.getLast? = some last ∧ (net.nodes last).holds key = true ∧
    List.IsChain (fun a b => (net.nodes b).hasSubscriber key a = true) (s :: path)

/-- A node that is no one's subscriber has no chain. -/
theorem not_subscriberChain {net : SubNet} {key : ContractKey} {s : PeerId}
    (h : ∀ p, (net.nodes p).hasSubscriber key s = false) : ¬ net.SubscriberChain key s := by
  rintro ⟨path, last, hlast, -, hchain⟩
  cases path with
  | nil => cases hlast
  | cons n rest =>
      have := (List.isChain_cons_cons.mp hchain).1
      simp [h n] at this

/-- Delivering a message in flight to a node in a known state. -/
theorem step_deliver_at {net : SubNet} {i : Nat} {p : PeerId} {msg : SubscribeMsg} {n₀ n : SubNode}
    {out : List (PeerId × SubscribeMsg)} (hi : net.inFlight[i]? = some (p, msg))
    (hn : net.nodes p = n₀) (h : n₀.process msg = some (n, out)) :
    net.step (.deliver i) = some ⟨Function.update net.nodes p n, net.inFlight.eraseIdx i ++ out⟩ := by
  simp [step, hi, hn, h]

/-- A first subscriber always fits. -/
theorem addSubscriber_first {r : Ring} {key : ContractKey} {x : PeerKeyLocation}
    (h : r.subscribers key.id = none) : (r.addSubscriber key x).2 = .ok () := by
  simp [Ring.addSubscriber, h, BinarySearch.binarySearchBy, BinarySearch.searchFrom, maxSubscribers]

/-- A subscription that goes through a node without the contract: the
originator `s` asks `a`, which forwards to `b`, which has the contract.
Delivered in order, the messages complete the originator's operation, yet
`s` ends up in no node's subscriber list: `b` lists `a`, `a` lists `b` (the
provider it registered), and `s` lists `a`. A broadcast from `b` reaches `a`
and stops there, so no chain leads back to `s`. -/
theorem subscription_without_chain (net : SubNet) (s a b : PeerId) (key : ContractKey)
    (id : Transaction) (la lb : Option Location) (hsa : s ≠ a) (hsb : s ≠ b) (hab : a ≠ b)
    (hself : ∀ p, (net.nodes p).cfg.ownLocation.peer = p)
    (hfree : ∀ p, (net.nodes p).ops id = none ∧ (net.nodes p).completed id = false)
    (hflight : net.inFlight = [])
    (hs : (net.nodes s).holds key = true) (hroute_s : (net.nodes s).routing key [] = some ⟨a, la⟩)
    (ha : (net.nodes a).holds key = false) (hroute_a : (net.nodes a).routing key [s] = some ⟨b, lb⟩)
    (hb : (net.nodes b).holds key = true) (hbsubs : (net.nodes b).ring.subscribers key.id = none)
    (hhops : 2 ≤ (net.nodes s).cfg.maxHopsToLive)
    (hfresh : ∀ p, (net.nodes p).hasSubscriber key s = false) :
    ∃ net', net.run [.subscribe s key id, .deliver 0, .deliver 0, .deliver 0, .deliver 0,
        .deliver 0] = some net' ∧
      ⟨id, some .completed⟩ ∈ (net'.nodes s).results ∧ ¬ net'.SubscriberChain key s := by
  obtain ⟨hsop, hscomp⟩ := hfree s
  obtain ⟨-, hacomp⟩ := hfree a
  obtain ⟨hbop, hbcomp⟩ := hfree b
  let H := (net.nodes s).cfg.maxHopsToLive
  -- the three nodes along the run
  let ns₁ : SubNode :=
    { net.nodes s with
      ops := Function.update (net.nodes s).ops id
        (some ⟨id, some (.awaitingResponse [] 0 none H)⟩) }
  let na₁ : SubNode :=
    { net.nodes a with
      ops := Function.update (net.nodes a).ops id (some ⟨id, some (.awaitingResponse ([s] ++ [a])
        0 (some (net.nodes s).cfg.ownLocation) (H - 1))⟩) }
  let nb₁ : SubNode :=
    { net.nodes b with
      ring := ((net.nodes b).ring.addSubscriber key (net.nodes a).cfg.ownLocation).1
      completed := Function.update (net.nodes b).completed id true }
  let na₂ : SubNode :=
    { na₁ with
      ring := na₁.ring.registerSubscription key ⟨b, lb⟩
      ops := Function.update na₁.ops id (some ⟨id, some .completed⟩) }
  let ns₂ : SubNode :=
    { ns₁ with
      ring := ns₁.ring.registerSubscription key (net.nodes a).cfg.ownLocation
      ops := Function.update ns₁.ops id none
      completed := Function.update ns₁.completed id true
      results := ns₁.results ++ [⟨id, some .completed⟩] }
  let N₁ := Function.update net.nodes s ns₁
  let N₃ := Function.update N₁ a na₁
  let N₄ := Function.update N₃ b nb₁
  let N₅ := Function.update N₄ a na₂
  let N₆ := Function.update N₅ s ns₂
  -- where each node stands along the run
  have hN₁s : N₁ s = ns₁ := Function.update_self s ns₁ net.nodes
  have hN₁a : N₁ a = net.nodes a := Function.update_of_ne hsa.symm ns₁ net.nodes
  have hN₃b : N₃ b = net.nodes b := by simp [N₃, N₁, hab.symm, hsb.symm]
  have hN₄a : N₄ a = na₁ := by simp [N₄, N₃, hab]
  have hN₅s : N₅ s = ns₁ := by simp [N₅, N₄, N₃, N₁, hsa, hsb]
  have hN₆s : N₆ s = ns₂ := Function.update_self s ns₂ N₅
  have hN₆a : N₆ a = na₂ := by simp [N₆, N₅, hsa.symm]
  have hN₆b : N₆ b = nb₁ := by simp [N₆, N₅, N₄, hsb.symm, hab.symm]
  -- and the operation each keeps for the transaction
  have hop_s₁ : ns₁.ops id = some ⟨id, some (.awaitingResponse [] 0 none H)⟩ := by simp [ns₁]
  have hop_a₁ : na₁.ops id = some ⟨id, some (.awaitingResponse ([s] ++ [a]) 0
      (some (net.nodes s).cfg.ownLocation) (H - 1))⟩ := by simp [na₁]
  have hsc₁ : ns₁.completed id = false := hscomp
  have hac₁ : na₁.completed id = false := hacomp
  -- `s` pushes its operation and sends itself `RequestSub`
  have e₁ : net.step (.subscribe s key id) = some ⟨N₁, [(s, .requestSub id key ⟨a, la⟩)]⟩ := by
    simp [step, SubNode.requestSubscribe, hs, hroute_s, hflight, N₁, ns₁, H]
  -- `s` sends `SeekNode` to `a`
  have e₂ : (⟨N₁, [(s, .requestSub id key ⟨a, la⟩)]⟩ : SubNet).step (.deliver 0) =
      some ⟨N₁, [(a, .seekNode id key ⟨a, la⟩ (net.nodes s).cfg.ownLocation [s] H 0)]⟩ := by
    rw [step_deliver_at rfl hN₁s (SubNode.process_requestSub hsc₁ hop_s₁),
      Function.update_eq_self_iff.mpr hN₁s.symm]
    simp [ns₁, hself s, H]
  -- `a` has no contract: it forwards to `b`
  have e₃ : (⟨N₁, [(a, .seekNode id key ⟨a, la⟩ (net.nodes s).cfg.ownLocation [s] H 0)]⟩ :
      SubNet).step (.deliver 0) =
      some ⟨N₃, [(b, .seekNode id key ⟨b, lb⟩ (net.nodes a).cfg.ownLocation ([s] ++ [a]) (H - 1)
        0)]⟩ :=
    step_deliver_at rfl hN₁a (SubNode.process_seekNode_forward hacomp ha hroute_a hhops)
  -- `b` has the contract: it takes `a` as subscriber and answers
  have e₄ : (⟨N₃, [(b, .seekNode id key ⟨b, lb⟩ (net.nodes a).cfg.ownLocation ([s] ++ [a])
      (H - 1) 0)]⟩ : SubNet).step (.deliver 0) =
      some ⟨N₄, [(a, .returnSub id key ⟨b, lb⟩ (net.nodes a).cfg.ownLocation true)]⟩ := by
    rw [step_deliver_at rfl hN₃b
      (SubNode.process_seekNode_provide hbcomp hbop hb (addSubscriber_first hbsubs))]
    simp [N₄, nb₁, hself a]
  -- `a` files `b` and passes the answer to `s`
  have e₅ : (⟨N₄, [(a, .returnSub id key ⟨b, lb⟩ (net.nodes a).cfg.ownLocation true)]⟩ :
      SubNet).step (.deliver 0) =
      some ⟨N₅, [(s, .returnSub id key (net.nodes a).cfg.ownLocation (net.nodes s).cfg.ownLocation
        true)]⟩ := by
    rw [step_deliver_at rfl hN₄a (SubNode.process_returnSub_forward hac₁ hop_a₁)]
    simp [N₅, na₂, hself s]
  -- `s` files `a`, and its operation completes
  have e₆ : (⟨N₅, [(s, .returnSub id key (net.nodes a).cfg.ownLocation
      (net.nodes s).cfg.ownLocation true)]⟩ : SubNet).step (.deliver 0) = some ⟨N₆, []⟩ :=
    step_deliver_at rfl hN₅s (SubNode.process_returnSub_complete hsc₁ hop_s₁)
  refine ⟨⟨N₆, []⟩, ?_, by simp [N₆, ns₂], ?_⟩
  · simp only [run_cons, e₁, Option.bind_some, e₂, e₃, e₄, e₅, e₆, run_nil]
  · apply not_subscriberChain
    intro q
    show (N₆ q).hasSubscriber key s = false
    -- `s` lists `a`, `a` lists `b`, `b` lists `a`, and no one else changed
    by_cases hqs : q = s
    · rw [hqs, hN₆s, SubNode.hasSubscriber_of_register (m := net.nodes s) rfl, hfresh s, hself a]
      simpa using hsa.symm
    · by_cases hqa : q = a
      · rw [hqa, hN₆a, SubNode.hasSubscriber_of_register (m := net.nodes a) rfl, hfresh a]
        simpa using hsb.symm
      · by_cases hqb : q = b
        · rw [hqb]
          cases hq : (N₆ b).hasSubscriber key s
          · rfl
          · rw [hN₆b] at hq
            rcases SubNode.hasSubscriber_of_add (m := net.nodes b) rfl hq with h | h
            · simp [hfresh b] at h
            · exact absurd (h.symm.trans (hself a)) hsa
        · simp [N₆, N₅, N₄, N₃, N₁, hqs, hqa, hqb, hfresh q]

theorem subscription_without_chain_line :
    let key : ContractKey := ⟨.replicate 1, none⟩
    let id := Transaction.new .subscribe 0
    let node (p : PeerId) : SubNode :=
      ⟨⟨10, ⟨p, none⟩, .release⟩, Ring.new 200 5 none,
        fun _ skip => if p = 0 ∧ skip = [] then some ⟨1, none⟩
          else if p = 1 ∧ skip = [0] then some ⟨2, none⟩ else none,
        fun _ => p != 1, fun _ => none, fun _ => false, []⟩
    let net : SubNet := ⟨node, []⟩
    (0 : PeerId) ≠ 1 ∧ (0 : PeerId) ≠ 2 ∧ (1 : PeerId) ≠ 2 ∧
      (∀ p, (net.nodes p).cfg.ownLocation.peer = p) ∧
      (∀ p, (net.nodes p).ops id = none ∧ (net.nodes p).completed id = false) ∧
      net.inFlight = [] ∧ (net.nodes 0).holds key = true ∧
      (net.nodes 0).routing key [] = some ⟨1, none⟩ ∧ (net.nodes 1).holds key = false ∧
      (net.nodes 1).routing key [0] = some ⟨2, none⟩ ∧ (net.nodes 2).holds key = true ∧
      (net.nodes 2).ring.subscribers key.id = none ∧ 2 ≤ (net.nodes 0).cfg.maxHopsToLive ∧
      (∀ p, (net.nodes p).hasSubscriber key 0 = false) ∧
      ∃ net', net.run [.subscribe 0 key id, .deliver 0, .deliver 0, .deliver 0, .deliver 0,
          .deliver 0] = some net' ∧
        ⟨id, some .completed⟩ ∈ (net'.nodes 0).results ∧ ¬ net'.SubscriberChain key 0 := by
  intro key id node net
  have hself : ∀ p, (net.nodes p).cfg.ownLocation.peer = p := fun _ => rfl
  have hfree : ∀ p, (net.nodes p).ops id = none ∧ (net.nodes p).completed id = false :=
    fun _ => ⟨rfl, rfl⟩
  have hfresh : ∀ p, (net.nodes p).hasSubscriber key 0 = false := fun _ => rfl
  exact ⟨by decide, by decide, by decide, hself, hfree, rfl, rfl, rfl, rfl, rfl, rfl, rfl,
    by decide, hfresh, subscription_without_chain net 0 1 2 key id none none (by decide) (by decide)
      (by decide) hself hfree rfl rfl rfl rfl rfl rfl rfl (by decide) hfresh⟩

end SubNet

end FreenetCore.Node
