import FreenetCore.WasmRuntime.SecretsStore

/-!
The delegate runtime (`wasm_runtime/delegate.rs`): `inbound_app_message` and
the loop of `get_outbound`.

A delegate is its `process` function, from an inbound message to the list of
outbound messages it answers with; anything the call of the WASM function can
do is some such function, failures included. The runtime feeds each inbound
message to it and works through the answers: a secret request is answered
from the secret store and fed back, an unprocessed application message is fed
back, a secret write goes to the store, an application message already
processed ends the loop as a result. Each call of `get_outbound` feeds back at
most `MAX_ITERATIONS` messages.

Two kinds of secret writes are kept apart. The writes a delegate answers an
inbound application message with are put aside and done after all the inbound
messages; those it answers a secret response with are done at once, and so are
all secret reads. After a `UserResponse`, every unprocessed answer is put aside
in the same way, and the deferred list is then expected to hold writes only
(`unreachable!()` otherwise).

The secret store is a parameter: its reads and writes, over any state. So are
the methods of `freenet_stdlib`'s message types that the runtime calls
(`MsgApi`), whose sources are not in the repository; the results take of them
only what `MsgApi.Lawful` says, and `MsgApi.ofVariants` is a choice of them
that follows the variants, to run the model on. The runtime's record of
`process` calls (`processCalls`) counts the calls the code makes; nothing
reads it.
-/

namespace FreenetCore.WasmRuntime

/-- `DelegateContext`: the delegate's own bytes, carried between calls. -/
abbrev DelegateContext := List UInt8

/-- `ApplicationMessage`. -/
structure ApplicationMessage where
  app : Bytes32
  payload : List UInt8
  context : DelegateContext
  processed : Bool
  deriving DecidableEq

/-- `GetSecretRequest`. -/
structure GetSecretRequest where
  key : SecretsId
  context : DelegateContext
  processed : Bool
  deriving DecidableEq

/-- `GetSecretResponse`. -/
structure GetSecretResponse where
  key : SecretsId
  value : Option (List UInt8)
  context : DelegateContext
  deriving DecidableEq

/-- `SetSecretRequest`: a write, or a removal when there is no value. -/
structure SetSecretRequest where
  key : SecretsId
  value : Option (List UInt8)
  deriving DecidableEq

/-- `UserInputRequest`, by its request id: the runtime reads nothing else. -/
structure UserInputRequest where
  requestId : UInt32
  deriving DecidableEq

/-- `UserInputResponse`. -/
structure UserInputResponse where
  requestId : UInt32
  response : List UInt8
  context : DelegateContext
  deriving DecidableEq

/-- `InboundDelegateMsg`. -/
inductive InboundDelegateMsg
  | applicationMessage (msg : ApplicationMessage)
  | getSecretResponse (msg : GetSecretResponse)
  | userResponse (msg : UserInputResponse)
  | getSecretRequest (msg : GetSecretRequest)
  deriving DecidableEq

/-- `OutboundDelegateMsg`. -/
inductive OutboundDelegateMsg
  | applicationMessage (msg : ApplicationMessage)
  | requestUserInput (req : UserInputRequest)
  | contextUpdated (context : DelegateContext)
  | getSecretRequest (msg : GetSecretRequest)
  | setSecretRequest (msg : SetSecretRequest)
  | getSecretResponse (msg : GetSecretResponse)
  deriving DecidableEq

/-- The methods of `freenet_stdlib`'s message types that the runtime calls:
`InboundDelegateMsg::get_context`, and `OutboundDelegateMsg::processed`,
`get_context` and `get_mut_context` (here a write of the context). Their
sources are not part of the repository, so they are a parameter. -/
structure MsgApi where
  inboundContext : InboundDelegateMsg → Option DelegateContext
  processed : OutboundDelegateMsg → Bool
  context : OutboundDelegateMsg → Option DelegateContext
  setContext : DelegateContext → OutboundDelegateMsg → OutboundDelegateMsg

/-- What the results below take of those methods, as their names and the
runtime's uses of them say: the messages that carry a context give it, a
context update is one, and a secret write carries none and is never
processed (the runtime defers it with the unprocessed messages). -/
structure MsgApi.Lawful (api : MsgApi) : Prop where
  inboundContext_app : ∀ m, api.inboundContext (.applicationMessage m) = some m.context
  context_app : ∀ m, api.context (.applicationMessage m) = some m.context
  context_getSecretRequest : ∀ m, api.context (.getSecretRequest m) = some m.context
  context_contextUpdated : ∀ c, api.context (.contextUpdated c) = some c
  context_setSecretRequest : ∀ m, api.context (.setSecretRequest m) = none
  processed_setSecretRequest : ∀ m, api.processed (.setSecretRequest m) = false

/-- Methods that follow the variants, to run the model on: a message's own
context and `processed` flag where it has them, secret writes never
processed, and every other message processed. -/
def MsgApi.ofVariants : MsgApi where
  inboundContext
    | .applicationMessage msg => some msg.context
    | .getSecretResponse msg => some msg.context
    | .userResponse msg => some msg.context
    | .getSecretRequest msg => some msg.context
  processed
    | .applicationMessage msg => msg.processed
    | .getSecretRequest msg => msg.processed
    | .setSecretRequest _ => false
    | _ => true
  context
    | .applicationMessage msg => some msg.context
    | .getSecretRequest msg => some msg.context
    | .getSecretResponse msg => some msg.context
    | .contextUpdated context => some context
    | _ => none
  setContext context
    | .applicationMessage msg => .applicationMessage { msg with context := context }
    | .getSecretRequest msg => .getSecretRequest { msg with context := context }
    | .getSecretResponse msg => .getSecretResponse { msg with context := context }
    | .contextUpdated _ => .contextUpdated context
    | msg => msg

theorem MsgApi.ofVariants_lawful : MsgApi.ofVariants.Lawful :=
  ⟨fun _ => rfl, fun _ => rfl, fun _ => rfl, fun _ => rfl, fun _ => rfl, fun _ => rfl⟩

/-- Whether an outbound message is a `SetSecretRequest`. -/
def OutboundDelegateMsg.isSetSecret : OutboundDelegateMsg → Bool
  | .setSecretRequest _ => true
  | _ => false

/-- `Response` of the simulated user. -/
inductive Response
  | allowed
  | notAllowed
  deriving DecidableEq

/-- The runtime's own `Context` of user answers. -/
structure Context where
  waitingForUserInput : List UInt32
  userResponse : List (UInt32 × Response)
  deriving DecidableEq

/-- `bincode` on `Context`: decoding can fail, encoding cannot. -/
structure ContextCodec where
  decode : DelegateContext → Option Context
  encode : Context → DelegateContext

/-- The secret store as the runtime uses it, over its state `σ`. -/
structure SecretAccess (σ : Type) where
  getSecret : σ → DelegateKey → SecretsId → Except SecretStoreError (List UInt8)
  storeSecret : σ → DelegateKey → SecretsId → List UInt8 → Except SecretStoreError σ
  removeSecret : σ → DelegateKey → SecretsId → Except SecretStoreError σ

/-- A secret store that keeps what it is given: a secret read after a write
is what was written. -/
def SecretAccess.KeepsWrites {σ : Type} (secrets : SecretAccess σ) : Prop :=
  ∀ st st' delegate id v, secrets.storeSecret st delegate id v = .ok st' →
    secrets.getSecret st' delegate id = .ok v

/-- A delegate: its `process` function. An error is any failure of the call
(of the function, or of reading its result). -/
abbrev Delegate := InboundDelegateMsg → Except String (List OutboundDelegateMsg)

/-- The errors of the runtime calls: a `DelegateError::Other` of the runtime
itself, a failure of `process`, or one of the secret store. -/
inductive DelegateRuntimeError
  | other (cause : String)
  | process (cause : String)
  | secretStore (e : SecretStoreError)
  deriving DecidableEq

/-- The runtime's state: the secret store, and the `process` calls so far. -/
structure DelegateRuntime (σ : Type) where
  secretStore : σ
  processCalls : Nat

/-- `MAX_ITERATIONS` of `get_outbound`. -/
def maxIterations : Nat := 100

section Runtime

variable {σ : Type} (codec : ContextCodec) (api : MsgApi) (process : Delegate) (secrets : SecretAccess σ)
  (delegateKey : DelegateKey)

/-- `exec_inbound`: one call of `process`. -/
def execInbound (rt : DelegateRuntime σ) (msg : InboundDelegateMsg) :
    DelegateRuntime σ × Except DelegateRuntimeError (List OutboundDelegateMsg) :=
  ({ rt with processCalls := rt.processCalls + 1 }, (process msg).mapError .process)

/-- A secret write or removal of a `SetSecretRequest`. -/
def setSecret (rt : DelegateRuntime σ) (req : SetSecretRequest) :
    Except DelegateRuntimeError (DelegateRuntime σ) :=
  let stored := match req.value with
    | some plaintext => secrets.storeSecret rt.secretStore delegateKey req.key plaintext
    | none => secrets.removeSecret rt.secretStore delegateKey req.key
  match stored with
  | .ok s => .ok { rt with secretStore := s }
  | .error e => .error (.secretStore e)

/-- The simulated user's answer to a `RequestUserInput`: the request is no
longer waited for and is allowed. `none` is the panic of `unwrap` on a
context that does not decode. -/
def answerUserInput (lastContext : DelegateContext) (req : UserInputRequest) :
    Option DelegateContext :=
  (codec.decode lastContext).map fun context =>
    codec.encode
      { waitingForUserInput := context.waitingForUserInput.erase req.requestId
        userResponse := (req.requestId, .allowed) ::
          context.userResponse.filter (·.1 != req.requestId) }

/-- The messages a delegate's answer to a secret puts back in the queue: the
unprocessed ones, given the answer's last context when it has one. -/
def requeued (updated : Option DelegateContext) (newMsgs : List OutboundDelegateMsg) :
    List OutboundDelegateMsg :=
  (newMsgs.map fun m => match updated with
    | some context => api.setContext context m
    | none => m).filter (!api.processed ·)

/-- What the loop of `get_outbound` carries: the runtime, the queue, the
results so far, the last context, and the number of messages fed back. -/
structure OutboundState (σ : Type) where
  runtime : DelegateRuntime σ
  queue : List OutboundDelegateMsg
  results : List OutboundDelegateMsg
  lastContext : DelegateContext
  recursion : Nat

/-- How one iteration of the loop ends: in the next state, with the result of
`get_outbound` (after the queue runs out, a `break` or a `return`), or in a
panic. The result keeps the runtime and the results even when it is an
error, as the code's `&mut` arguments do. -/
inductive OutboundIteration (σ : Type)
  | next (s : OutboundState σ)
  | done (rt : DelegateRuntime σ) (results : List OutboundDelegateMsg)
      (res : Except DelegateRuntimeError DelegateContext)
  | panic

/-- One iteration of `while let Some(outbound) = outbound_msgs.pop_front()`. -/
def outboundIteration (s : OutboundState σ) : OutboundIteration σ :=
  match s.queue with
  | [] => .done s.runtime s.results (.ok s.lastContext)
  | .getSecretRequest ⟨key, _, false⟩ :: rest =>
      match secrets.getSecret s.runtime.secretStore delegateKey key with
      | .error e => .done s.runtime s.results (.error (.secretStore e))
      | .ok secret =>
          if maxIterations ≤ s.recursion then
            .done s.runtime s.results (.error (.other
              "The maximum number of attempts to get the secret has been exceeded"))
          else
            match execInbound process s.runtime (.getSecretResponse ⟨key, some secret, s.lastContext⟩) with
            | (rt, .error e) => .done rt s.results (.error e)
            | (rt, .ok newMsgs) =>
                match newMsgs.getLast? with
                | none => .done rt s.results (.error (.other
                    "Error trying to update the context from the secret"))
                | some lastMsg =>
                    let updated := api.context lastMsg
                    .next ⟨rt, rest ++ requeued api updated newMsgs, s.results,
                      updated.getD s.lastContext, s.recursion + 1⟩
  | .getSecretRequest ⟨_, context, true⟩ :: rest => .next { s with queue := rest, lastContext := context }
  | .getSecretResponse ⟨_, _, context⟩ :: rest => .next { s with queue := rest, lastContext := context }
  | .setSecretRequest req :: rest =>
      match setSecret secrets delegateKey s.runtime req with
      | .error e => .done s.runtime s.results (.error e)
      | .ok rt => .next { s with runtime := rt, queue := rest }
  | .applicationMessage msg :: rest =>
      if !msg.processed then
        if maxIterations ≤ s.recursion then
          .done s.runtime s.results (.error (.other "max recurssion (100) limit hit"))
        else
          match execInbound process s.runtime
              (.applicationMessage ⟨msg.app, msg.payload, s.lastContext, msg.processed⟩) with
          | (rt, .error e) => .done rt s.results (.error e)
          | (rt, .ok outbound) => .next ⟨rt, rest ++ outbound, s.results, s.lastContext, s.recursion + 1⟩
      else
        -- a processed application message is a result, and ends the loop
        .done s.runtime (s.results ++ [.applicationMessage { msg with context := [] }]) (.ok s.lastContext)
  | .requestUserInput req :: rest =>
      match answerUserInput codec s.lastContext req with
      | none => .panic
      | some context => .next { s with queue := rest, lastContext := context }
  | .contextUpdated context :: rest => .next { s with queue := rest, lastContext := context }

theorem execInbound_processCalls {rt rt' : DelegateRuntime σ} {msg : InboundDelegateMsg}
    {r : Except DelegateRuntimeError (List OutboundDelegateMsg)}
    (h : execInbound process rt msg = (rt', r)) : rt'.processCalls = rt.processCalls + 1 := by
  have hcalls := congrArg (fun p => p.1.processCalls) h
  simp only [execInbound] at hcalls
  omega

theorem setSecret_processCalls {rt rt' : DelegateRuntime σ} {req : SetSecretRequest}
    (h : setSecret secrets delegateKey rt req = .ok rt') : rt'.processCalls = rt.processCalls := by
  simp only [setSecret] at h
  split at h <;> cases h
  rfl

/-- What an iteration does to the count of `process` calls. One that goes on
either takes a message off the queue without calling `process`, or calls it
once, below `MAX_ITERATIONS`, and counts the message fed back; one that ends
has called it at most once, and only below `MAX_ITERATIONS`. -/
def OutboundIteration.Counted (s : OutboundState σ) : OutboundIteration σ → Prop
  | .next s' =>
      (s'.recursion = s.recursion ∧ s'.runtime.processCalls = s.runtime.processCalls ∧
          s'.queue.length < s.queue.length) ∨
        (s.recursion < maxIterations ∧ s'.recursion = s.recursion + 1 ∧
          s'.runtime.processCalls = s.runtime.processCalls + 1)
  | .done rt _ _ =>
      rt.processCalls = s.runtime.processCalls ∨
        (s.recursion < maxIterations ∧ rt.processCalls = s.runtime.processCalls + 1)
  | .panic => True

/-- Every iteration keeps the count: a case for each message at the front of
the queue. -/
theorem outboundIteration_counted (s : OutboundState σ) :
    (outboundIteration codec api process secrets delegateKey s).Counted s := by
  obtain ⟨rt, queue, results, lastContext, recursion⟩ := s
  cases queue with
  | nil => exact .inl rfl
  | cons m rest =>
    have hshort : rest.length < (m :: rest).length := by simp
    cases m with
    | getSecretRequest req =>
        obtain ⟨key, context, _ | _⟩ := req
        · -- a secret to fetch and feed back: the one call of `process`
          simp only [outboundIteration]
          split
          · exact .inl rfl
          · split
            · exact .inl rfl
            · split
              · rename_i rt₁ e hexec
                exact .inr ⟨by dsimp only; omega, execInbound_processCalls process hexec⟩
              · rename_i rt₁ newMsgs hexec
                split
                · exact .inr ⟨by dsimp only; omega, execInbound_processCalls process hexec⟩
                · exact .inr ⟨by dsimp only; omega, rfl, execInbound_processCalls process hexec⟩
        · exact .inl ⟨rfl, rfl, hshort⟩
    | getSecretResponse => exact .inl ⟨rfl, rfl, hshort⟩
    | setSecretRequest req =>
        simp only [outboundIteration]
        split
        · exact .inl rfl
        · rename_i rt₁ hset
          exact .inl ⟨rfl, setSecret_processCalls secrets delegateKey hset, hshort⟩
    | applicationMessage msg =>
        simp only [outboundIteration]
        split
        · split
          · exact .inl rfl
          · split
            · rename_i rt₁ e hexec
              exact .inr ⟨by dsimp only; omega, execInbound_processCalls process hexec⟩
            · rename_i rt₁ outbound hexec
              exact .inr ⟨by dsimp only; omega, rfl, execInbound_processCalls process hexec⟩
        · exact .inl rfl
    | requestUserInput req =>
        simp only [outboundIteration]
        split
        · trivial
        · exact .inl ⟨rfl, rfl, hshort⟩
    | contextUpdated => exact .inl ⟨rfl, rfl, hshort⟩

theorem outboundIteration_next {s s' : OutboundState σ}
    (h : outboundIteration codec api process secrets delegateKey s = .next s') :
    (s'.recursion = s.recursion ∧ s'.runtime.processCalls = s.runtime.processCalls ∧
        s'.queue.length < s.queue.length) ∨
      (s.recursion < maxIterations ∧ s'.recursion = s.recursion + 1 ∧
        s'.runtime.processCalls = s.runtime.processCalls + 1) := by
  have hc := outboundIteration_counted codec api process secrets delegateKey s
  rw [h] at hc
  exact hc

theorem outboundIteration_done {s : OutboundState σ} {rt : DelegateRuntime σ}
    {results : List OutboundDelegateMsg} {res : Except DelegateRuntimeError DelegateContext}
    (h : outboundIteration codec api process secrets delegateKey s = .done rt results res) :
    rt.processCalls = s.runtime.processCalls ∨
      (s.recursion < maxIterations ∧ rt.processCalls = s.runtime.processCalls + 1) := by
  have hc := outboundIteration_counted codec api process secrets delegateKey s
  rw [h] at hc
  exact hc

/-- Each iteration that goes on decreases the number of messages that may
still be fed back, or keeps it and shortens the queue. -/
theorem outboundIteration_next_lt {s s' : OutboundState σ}
    (h : outboundIteration codec api process secrets delegateKey s = .next s') :
    Prod.Lex (· < ·) (· < ·) (maxIterations - s'.recursion, s'.queue.length)
      (maxIterations - s.recursion, s.queue.length) := by
  rcases outboundIteration_next codec api process secrets delegateKey h with
    ⟨hrec, -, hlen⟩ | ⟨hlt, hrec, -⟩
  · rw [hrec]
    exact Prod.Lex.right _ hlen
  · exact Prod.Lex.left _ _ (by omega)

set_option linter.unusedVariables false in
/-- The loop of `get_outbound`. -/
def getOutboundLoop (s : OutboundState σ) :
    Option (DelegateRuntime σ × List OutboundDelegateMsg × Except DelegateRuntimeError DelegateContext) :=
  match h : outboundIteration codec api process secrets delegateKey s with
  | .next s' => getOutboundLoop s'
  | .done rt results res => some (rt, results, res)
  | .panic => none
termination_by (maxIterations - s.recursion, s.queue.length)
decreasing_by exact outboundIteration_next_lt codec api process secrets delegateKey h

theorem getOutboundLoop_of_next {s s' : OutboundState σ}
    (h : outboundIteration codec api process secrets delegateKey s = .next s') :
    getOutboundLoop codec api process secrets delegateKey s =
      getOutboundLoop codec api process secrets delegateKey s' := by
  rw [getOutboundLoop]
  split <;> simp_all

theorem getOutboundLoop_of_done {s : OutboundState σ} {rt : DelegateRuntime σ}
    {results : List OutboundDelegateMsg} {res : Except DelegateRuntimeError DelegateContext}
    (h : outboundIteration codec api process secrets delegateKey s = .done rt results res) :
    getOutboundLoop codec api process secrets delegateKey s = some (rt, results, res) := by
  rw [getOutboundLoop]
  split <;> simp_all

theorem getOutboundLoop_of_panic {s : OutboundState σ}
    (h : outboundIteration codec api process secrets delegateKey s = .panic) :
    getOutboundLoop codec api process secrets delegateKey s = none := by
  rw [getOutboundLoop]
  split <;> simp_all

/-- `get_outbound`: with no context on the last message of the queue, the
queue is dropped and the default context returned. -/
def getOutbound (rt : DelegateRuntime σ) (queue results : List OutboundDelegateMsg) :
    Option (DelegateRuntime σ × List OutboundDelegateMsg × Except DelegateRuntimeError DelegateContext) :=
  match queue.getLast? >>= api.context with
  | none => some (rt, results, .ok [])
  | some lastContext => getOutboundLoop codec api process secrets delegateKey ⟨rt, queue, results, lastContext, 0⟩

/-- The loop of `inbound_app_message` over the inbound messages, with the
shared context, the results and the deferred messages (`non_processed`). -/
def inboundLoop (rt : DelegateRuntime σ) :
    List InboundDelegateMsg → DelegateContext → List OutboundDelegateMsg → List OutboundDelegateMsg →
      Option (DelegateRuntime σ × Except DelegateRuntimeError
        (List OutboundDelegateMsg × List OutboundDelegateMsg))
  | [], _, results, nonProcessed => some (rt, .ok (results, nonProcessed))
  | .applicationMessage ⟨app, payload, _, processed⟩ :: rest, lastContext, results, nonProcessed =>
      match execInbound process rt (.applicationMessage ⟨app, payload, lastContext, processed⟩) with
      | (rt, .error e) => some (rt, .error e)
      | (rt, .ok outbound) =>
          -- the delegate's secret writes wait for the end of the call
          let nonProcessed := nonProcessed ++ outbound.filter (·.isSetSecret)
          match getOutbound codec api process secrets delegateKey rt
              (outbound.filter (!·.isSetSecret)) results with
          | none => none
          | some (rt, _, .error e) => some (rt, .error e)
          | some (rt, results, .ok lastContext) =>
              inboundLoop rt rest lastContext results nonProcessed
  | .userResponse response :: rest, lastContext, results, nonProcessed =>
      match execInbound process rt (.userResponse response) with
      | (rt, .error e) => some (rt, .error e)
      | (rt, .ok outbound) =>
          let nonProcessed := nonProcessed ++ outbound.filter (!api.processed ·)
          match getOutbound codec api process secrets delegateKey rt (outbound.filter (api.processed ·))
              results with
          | none => none
          | some (rt, _, .error e) => some (rt, .error e)
          | some (rt, results, .ok _) => inboundLoop rt rest lastContext results nonProcessed
  | .getSecretRequest ⟨key, _, _⟩ :: rest, lastContext, results, nonProcessed =>
      match secrets.getSecret rt.secretStore delegateKey key with
      | .error e => some (rt, .error (.secretStore e))
      | .ok secret =>
          inboundLoop rt rest lastContext
            (results ++ [.getSecretResponse ⟨key, some secret, []⟩]) nonProcessed
  | .getSecretResponse _ :: rest, lastContext, results, nonProcessed =>
      inboundLoop rt rest lastContext results nonProcessed

/-- The deferred messages, in order: writes go to the store, anything else
is `unreachable!()`. -/
def applyNonProcessed (rt : DelegateRuntime σ) :
    List OutboundDelegateMsg → Option (DelegateRuntime σ × Except DelegateRuntimeError Unit)
  | [] => some (rt, .ok ())
  | .setSecretRequest req :: rest =>
      match setSecret secrets delegateKey rt req with
      | .error e => some (rt, .error e)
      | .ok rt => applyNonProcessed rt rest
  | _ :: _ => none

/-- `inbound_app_message`; `none` is a panic. -/
def inboundAppMessage (rt : DelegateRuntime σ) (inbound : List InboundDelegateMsg) :
    Option (DelegateRuntime σ × Except DelegateRuntimeError (List OutboundDelegateMsg)) :=
  match inbound with
  | [] => some (rt, .ok [])
  | first :: _ =>
      -- the shared context starts as the first message's
      match inboundLoop codec api process secrets delegateKey rt inbound ((api.inboundContext first).getD [])
          [] [] with
      | none => none
      | some (rt, .error e) => some (rt, .error e)
      | some (rt, .ok (results, nonProcessed)) =>
          match applyNonProcessed secrets delegateKey rt nonProcessed with
          | none => none
          | some (rt, .error e) => some (rt, .error e)
          | some (rt, .ok ()) => some (rt, .ok results)

/-! ### How many times `process` is called -/

/-- The loop of `get_outbound` calls `process` once per message fed back,
and feeds one back only below `MAX_ITERATIONS`. -/
theorem getOutboundLoop_processCalls {s : OutboundState σ} {rt : DelegateRuntime σ}
    {results : List OutboundDelegateMsg} {res : Except DelegateRuntimeError DelegateContext}
    (h : getOutboundLoop codec api process secrets delegateKey s = some (rt, results, res)) :
    rt.processCalls ≤ s.runtime.processCalls + (maxIterations - s.recursion) := by
  induction s using getOutboundLoop.induct codec api process secrets delegateKey with
  | case1 s s' hnext ih =>
      rw [getOutboundLoop, hnext] at h
      have := ih h
      rcases outboundIteration_next codec api process secrets delegateKey hnext with
        ⟨hrec, hcalls, -⟩ | ⟨hlt, hrec, hcalls⟩ <;> omega
  | case2 s rt₁ results₁ res₁ hdone =>
      rw [getOutboundLoop, hdone] at h
      cases h
      rcases outboundIteration_done codec api process secrets delegateKey hdone with
        hcalls | ⟨hlt, hcalls⟩ <;> omega
  | case3 s hpanic =>
      rw [getOutboundLoop, hpanic] at h
      cases h

theorem getOutbound_processCalls {rt rt' : DelegateRuntime σ}
    {queue results results' : List OutboundDelegateMsg}
    {res : Except DelegateRuntimeError DelegateContext}
    (h : getOutbound codec api process secrets delegateKey rt queue results = some (rt', results', res)) :
    rt'.processCalls ≤ rt.processCalls + maxIterations := by
  simp only [getOutbound] at h
  split at h
  · cases h; omega
  · exact getOutboundLoop_processCalls codec api process secrets delegateKey h

theorem applyNonProcessed_processCalls {rt rt' : DelegateRuntime σ}
    {msgs : List OutboundDelegateMsg} {res : Except DelegateRuntimeError Unit}
    (h : applyNonProcessed secrets delegateKey rt msgs = some (rt', res)) :
    rt'.processCalls = rt.processCalls := by
  induction msgs generalizing rt with
  | nil => cases h; rfl
  | cons m rest ih =>
      cases m with
      | setSecretRequest req =>
          simp only [applyNonProcessed] at h
          split at h
          · cases h; rfl
          · rename_i rt₁ hset
            rw [ih h, setSecret_processCalls secrets delegateKey hset]
      | _ => cases h

/-- Over the inbound messages: one call of `process` for each application
message or user response, and at most `MAX_ITERATIONS` more in its
`get_outbound`; none for a secret request. -/
theorem inboundLoop_processCalls {rt rt' : DelegateRuntime σ} {msgs : List InboundDelegateMsg}
    {lastContext : DelegateContext} {results nonProcessed : List OutboundDelegateMsg}
    {res : Except DelegateRuntimeError (List OutboundDelegateMsg × List OutboundDelegateMsg)}
    (h : inboundLoop codec api process secrets delegateKey rt msgs lastContext results nonProcessed =
      some (rt', res)) :
    rt'.processCalls ≤ rt.processCalls + msgs.length * (maxIterations + 1) := by
  induction msgs generalizing rt lastContext results nonProcessed with
  | nil => cases h; omega
  | cons msg rest ih =>
      rw [List.length_cons, Nat.succ_mul]
      cases msg with
      | applicationMessage m | userResponse m =>
          -- one call of `process`, then `get_outbound` on what it sent back
          simp only [inboundLoop] at h
          split at h
          · rename_i rt₁ e hexec
            cases h
            have := execInbound_processCalls process hexec
            omega
          · rename_i rt₁ outbound hexec
            have h₁ := execInbound_processCalls process hexec
            split at h
            · cases h
            · rename_i rt₂ results₂ e hout
              cases h
              have := getOutbound_processCalls codec api process secrets delegateKey hout
              omega
            · rename_i rt₂ results₂ context hout
              have h₂ := getOutbound_processCalls codec api process secrets delegateKey hout
              have := ih h
              omega
      | getSecretRequest req =>
          simp only [inboundLoop] at h
          split at h
          · cases h; omega
          · have := ih h; omega
      | getSecretResponse =>
          simp only [inboundLoop] at h
          have := ih h
          omega

/-- `inbound_app_message` always ends (the model is total), and when it
returns it has called `process` at most `MAX_ITERATIONS + 1` times per
inbound message. -/
theorem inboundAppMessage_processCalls {rt rt' : DelegateRuntime σ}
    {inbound : List InboundDelegateMsg}
    {res : Except DelegateRuntimeError (List OutboundDelegateMsg)}
    (h : inboundAppMessage codec api process secrets delegateKey rt inbound = some (rt', res)) :
    rt'.processCalls ≤ rt.processCalls + inbound.length * (maxIterations + 1) := by
  simp only [inboundAppMessage] at h
  split at h
  · cases h; omega
  · split at h
    · cases h
    · rename_i rt₁ e hloop
      cases h
      exact inboundLoop_processCalls codec api process secrets delegateKey hloop
    · rename_i rt₁ results nonProcessed hloop
      have h₁ := inboundLoop_processCalls codec api process secrets delegateKey hloop
      split at h
      · cases h
      · rename_i rt₂ e happly
        cases h
        rw [applyNonProcessed_processCalls secrets delegateKey happly]
        exact h₁
      · rename_i rt₂ happly
        cases h
        rw [applyNonProcessed_processCalls secrets delegateKey happly]
        exact h₁

/-- Two application messages, each answered by a secret write that waits for
the end of the call: `process` is called twice. -/
theorem inboundAppMessage_processCalls_writes :
    let secrets : SecretAccess Unit :=
      ⟨fun _ _ _ => .error .missingCipher, fun _ _ _ _ => .ok (), fun _ _ _ => .ok ()⟩
    let codec : ContextCodec := ⟨fun _ => none, fun _ => []⟩
    let process : Delegate := fun _ => .ok [.setSecretRequest ⟨⟨[1], .replicate 7⟩, some [2]⟩]
    let m : InboundDelegateMsg := .applicationMessage ⟨.replicate 0, [1], [], false⟩
    ∃ r, inboundAppMessage codec .ofVariants process secrets (.replicate 5, .replicate 6) ⟨(), 0⟩ [m, m] =
        some r ∧ r.1.processCalls = 2 ∧ r.1.processCalls ≤ 0 + [m, m].length * (maxIterations + 1) := by
  intro secrets codec process m
  let r := (inboundAppMessage codec .ofVariants process secrets (.replicate 5, .replicate 6) ⟨(), 0⟩
    [m, m]).get rfl
  have h : inboundAppMessage codec .ofVariants process secrets (.replicate 5, .replicate 6) ⟨(), 0⟩ [m, m] =
      some r := (Option.some_get _).symm
  exact ⟨r, h, rfl, inboundAppMessage_processCalls codec .ofVariants process secrets _ h⟩

/-! ### Panics on a delegate's answers -/

theorem applyNonProcessed_not_set {rt : DelegateRuntime σ} {m : OutboundDelegateMsg}
    {ms : List OutboundDelegateMsg} (h : m.isSetSecret = false) :
    applyNonProcessed secrets delegateKey rt (m :: ms) = none := by
  cases m <;> first | rfl | cases h

/-- A delegate that answers a `UserResponse` with an unprocessed message other
than a secret write, after which it processed nothing, makes the host panic:
the message is deferred with the writes and reaches `unreachable!()`. -/
theorem userResponse_unprocessed_panics (rt : DelegateRuntime σ) (response : UserInputResponse)
    (m : OutboundDelegateMsg) (ms : List OutboundDelegateMsg)
    (hproc : process (.userResponse response) = .ok (m :: ms))
    (hm : api.processed m = false) (hset : m.isSetSecret = false)
    (hms : ∀ x ∈ ms, api.processed x = false) :
    inboundAppMessage codec api process secrets delegateKey rt [.userResponse response] = none := by
  have hkept : (m :: ms).filter (api.processed ·) = [] := by
    rw [List.filter_eq_nil_iff]
    intro x hx
    rcases List.mem_cons.mp hx with rfl | hx
    · simp [hm]
    · simp [hms x hx]
  have hdeferred : (m :: ms).filter (!api.processed ·) = m :: ms := by
    rw [List.filter_eq_self]
    intro x hx
    rcases List.mem_cons.mp hx with rfl | hx
    · simp [hm]
    · simp [hms x hx]
  simp [inboundAppMessage, inboundLoop, execInbound, hproc, Except.mapError, hkept, hdeferred,
    getOutbound, applyNonProcessed_not_set secrets delegateKey hset]

theorem userResponse_unprocessed_panics_app :
    let secrets : SecretAccess Unit :=
      ⟨fun _ _ _ => .error .missingCipher, fun _ _ _ _ => .ok (), fun _ _ _ => .ok ()⟩
    let codec : ContextCodec := ⟨fun _ => none, fun _ => []⟩
    let response : UserInputResponse := ⟨0, [], []⟩
    let m : OutboundDelegateMsg := .applicationMessage ⟨.replicate 0, [1], [], false⟩
    let process : Delegate := fun _ => .ok [m]
    let rt : DelegateRuntime Unit := ⟨(), 0⟩
    process (.userResponse response) = .ok [m] ∧ MsgApi.ofVariants.processed m = false ∧
      m.isSetSecret = false ∧ (∀ x ∈ ([] : List OutboundDelegateMsg), MsgApi.ofVariants.processed x = false) ∧
      inboundAppMessage codec .ofVariants process secrets (.replicate 5, .replicate 6) rt
        [.userResponse response] = none := by
  intro secrets codec response m process rt
  exact ⟨rfl, rfl, rfl, by simp, userResponse_unprocessed_panics codec .ofVariants process secrets
    (.replicate 5, .replicate 6) rt response m [] rfl rfl rfl (by simp)⟩

/-- The secret writes a delegate answers an inbound application message with
wait for the end of the call, while a later message's secret request reads
the store at once. So one call with `[m, GetSecretRequest(k)]`, where the
delegate answers `m` by writing `v` under `k`, reads `k` before the write and
fails when `k` had no secret, leaving the store as it was; the same two
messages in two calls write `v` and then read it back. -/
theorem batch_reads_before_deferred_write (rt : DelegateRuntime σ) (m : ApplicationMessage)
    (req : GetSecretRequest) (v : List UInt8) (s' : σ) (e : SecretStoreError) (hapi : api.Lawful)
    (hproc : process (.applicationMessage m) = .ok [.setSecretRequest ⟨req.key, some v⟩])
    (hget : secrets.getSecret rt.secretStore delegateKey req.key = .error e)
    (hstore : secrets.storeSecret rt.secretStore delegateKey req.key v = .ok s')
    (hread : secrets.getSecret s' delegateKey req.key = .ok v) :
    inboundAppMessage codec api process secrets delegateKey rt
        [.applicationMessage m, .getSecretRequest req] =
      some ({ rt with processCalls := rt.processCalls + 1 }, .error (.secretStore e)) ∧
    inboundAppMessage codec api process secrets delegateKey rt [.applicationMessage m] =
      some (⟨s', rt.processCalls + 1⟩, .ok []) ∧
    inboundAppMessage codec api process secrets delegateKey ⟨s', rt.processCalls + 1⟩
        [.getSecretRequest req] =
      some (⟨s', rt.processCalls + 1⟩, .ok [.getSecretResponse ⟨req.key, some v, []⟩]) := by
  obtain ⟨app, payload, context, processed⟩ := m
  refine ⟨?_, ?_, ?_⟩
  · simp [inboundAppMessage, inboundLoop, hapi.inboundContext_app, execInbound, hproc,
      Except.mapError, OutboundDelegateMsg.isSetSecret, getOutbound, hget]
  · simp [inboundAppMessage, inboundLoop, hapi.inboundContext_app, execInbound, hproc,
      Except.mapError, OutboundDelegateMsg.isSetSecret, getOutbound, applyNonProcessed, setSecret,
      hstore]
  · simp [inboundAppMessage, inboundLoop, hread, applyNonProcessed]

theorem batch_reads_before_deferred_write_map :
    let secrets : SecretAccess (SecretsId → Option (List UInt8)) :=
      ⟨fun s _ k => match s k with
        | some v => .ok v
        | none => .error (.missingSecret k),
       fun s _ k v => .ok (Function.update s k (some v)),
       fun s _ k => .ok (Function.update s k none)⟩
    let key : SecretsId := ⟨[1], .replicate 7⟩
    let process : Delegate := fun _ => .ok [.setSecretRequest ⟨key, some [2]⟩]
    let codec : ContextCodec := ⟨fun _ => none, fun _ => []⟩
    let rt : DelegateRuntime (SecretsId → Option (List UInt8)) := ⟨fun _ => none, 0⟩
    let m : ApplicationMessage := ⟨.replicate 0, [], [], false⟩
    let req : GetSecretRequest := ⟨key, [], false⟩
    let dk : DelegateKey := (.replicate 5, .replicate 6)
    let s' := Function.update rt.secretStore key (some [2])
    process (.applicationMessage m) = .ok [.setSecretRequest ⟨req.key, some [2]⟩] ∧
      secrets.getSecret rt.secretStore dk req.key = .error (.missingSecret key) ∧
      secrets.storeSecret rt.secretStore dk req.key [2] = .ok s' ∧
      secrets.getSecret s' dk req.key = .ok [2] ∧
      inboundAppMessage codec .ofVariants process secrets dk rt [.applicationMessage m, .getSecretRequest req] =
        some ({ rt with processCalls := rt.processCalls + 1 }, .error (.secretStore (.missingSecret key))) ∧
      inboundAppMessage codec .ofVariants process secrets dk rt [.applicationMessage m] =
        some (⟨s', rt.processCalls + 1⟩, .ok []) ∧
      inboundAppMessage codec .ofVariants process secrets dk ⟨s', rt.processCalls + 1⟩ [.getSecretRequest req] =
        some (⟨s', rt.processCalls + 1⟩, .ok [.getSecretResponse ⟨req.key, some [2], []⟩]) := by
  intro secrets key process codec rt m req dk s'
  have hread : secrets.getSecret s' dk req.key = .ok [2] := by simp [secrets, s', req]
  exact ⟨rfl, rfl, rfl, hread, batch_reads_before_deferred_write codec .ofVariants process secrets dk
    rt m req [2] s' (.missingSecret key) MsgApi.ofVariants_lawful rfl rfl rfl hread⟩


/-- A run of `GetSecretRequest`s reads each secret from the store as it is
and answers them in order; the first read that fails ends the loop. -/
theorem inboundLoop_getSecretRequests (rt : DelegateRuntime σ) (reqs : List GetSecretRequest)
    (lastContext : DelegateContext) (results nonProcessed : List OutboundDelegateMsg) :
    inboundLoop codec api process secrets delegateKey rt (reqs.map .getSecretRequest) lastContext results
        nonProcessed =
      match reqs.mapM fun req => secrets.getSecret rt.secretStore delegateKey req.key with
      | .error e => some (rt, .error (.secretStore e))
      | .ok values => some (rt, .ok (results ++ (reqs.zip values).map fun p =>
          .getSecretResponse ⟨p.1.key, some p.2, []⟩, nonProcessed)) := by
  -- on the requests, the answers so far growing
  induction reqs generalizing results with
  | nil => simp [inboundLoop, pure, Except.pure]
  | cons req reqs ih =>
      obtain ⟨key, context, processed⟩ := req
      simp only [List.map_cons, inboundLoop, List.mapM_cons]
      cases hget : secrets.getSecret rt.secretStore delegateKey key with
      | error e => rfl
      | ok v =>
          dsimp only
          rw [ih]
          cases hrest : reqs.mapM fun req => secrets.getSecret rt.secretStore delegateKey req.key with
          | error e => rfl
          | ok values => simp [bind, Except.bind, pure, Except.pure]

/-- The secret writes a delegate answers an application message with are
done at the end of the call, after every later message of the batch: the
`GetSecretRequest`s after it read the store as it was before the call, and
the writes then go to the store in order. A call with the application
message alone does them at its own end, where a later call reads them. -/
theorem app_secret_writes_deferred (rt : DelegateRuntime σ) (m : ApplicationMessage)
    (writes : List SetSecretRequest) (reqs : List GetSecretRequest) (hapi : api.Lawful)
    (hproc : process (.applicationMessage m) = .ok (writes.map .setSecretRequest)) :
    inboundAppMessage codec api process secrets delegateKey rt
        (.applicationMessage m :: reqs.map .getSecretRequest) =
      match reqs.mapM fun req => secrets.getSecret rt.secretStore delegateKey req.key with
      | .error e => some ({ rt with processCalls := rt.processCalls + 1 }, .error (.secretStore e))
      | .ok values =>
          (applyNonProcessed secrets delegateKey { rt with processCalls := rt.processCalls + 1 }
              (writes.map .setSecretRequest)).map fun r =>
            (r.1, r.2.map fun _ => (reqs.zip values).map fun p =>
              .getSecretResponse ⟨p.1.key, some p.2, []⟩) := by
  obtain ⟨app, payload, context, processed⟩ := m
  -- the answer is all writes: nothing for `get_outbound`, everything deferred
  have hsplit : (writes.map OutboundDelegateMsg.setSecretRequest).filter (·.isSetSecret) =
        writes.map .setSecretRequest ∧
      (writes.map OutboundDelegateMsg.setSecretRequest).filter (!·.isSetSecret) = [] := by
    simp [List.filter_map, Function.comp_def, OutboundDelegateMsg.isSetSecret]
  simp only [inboundAppMessage, inboundLoop, hapi.inboundContext_app, Option.getD_some,
    execInbound, hproc, Except.mapError, hsplit, getOutbound, List.getLast?_nil, Option.bind_eq_bind,
    Option.bind_none, List.nil_append,
    inboundLoop_getSecretRequests]
  cases hreads : reqs.mapM fun req => secrets.getSecret rt.secretStore delegateKey req.key with
  | error e => rfl
  | ok values =>
      dsimp only
      cases happly : applyNonProcessed secrets delegateKey { rt with processCalls := rt.processCalls + 1 }
          (writes.map .setSecretRequest) with
      | none => rfl
      | some r =>
          obtain ⟨rt', _ | _⟩ := r <;> rfl

/-- A delegate that answers every application message by writing `[2]`
under a key the store does not hold, then a request for that key, in one
call: the read comes first and fails. -/
theorem app_secret_writes_deferred_map :
    let secrets : SecretAccess (SecretsId → Option (List UInt8)) :=
      ⟨fun s _ k => match s k with
        | some v => .ok v
        | none => .error (.missingSecret k),
       fun s _ k v => .ok (Function.update s k (some v)),
       fun s _ k => .ok (Function.update s k none)⟩
    let key : SecretsId := ⟨[1], .replicate 7⟩
    let process : Delegate := fun _ => .ok [.setSecretRequest ⟨key, some [2]⟩]
    let codec : ContextCodec := ⟨fun _ => none, fun _ => []⟩
    let rt : DelegateRuntime (SecretsId → Option (List UInt8)) := ⟨fun _ => none, 0⟩
    let m : ApplicationMessage := ⟨.replicate 0, [], [], false⟩
    let req : GetSecretRequest := ⟨key, [], false⟩
    let dk : DelegateKey := (.replicate 5, .replicate 6)
    process (.applicationMessage m) = .ok ([⟨key, some [2]⟩].map .setSecretRequest) ∧
      inboundAppMessage codec .ofVariants process secrets dk rt (.applicationMessage m :: [req].map .getSecretRequest) =
        some (⟨rt.secretStore, 1⟩, .error (.secretStore (.missingSecret key))) := by
  intro secrets key process codec rt m req dk
  exact ⟨rfl, (app_secret_writes_deferred codec .ofVariants process secrets dk rt m [⟨key, some [2]⟩]
    [req] MsgApi.ofVariants_lawful rfl).trans rfl⟩

end Runtime

end FreenetCore.WasmRuntime
