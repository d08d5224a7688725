import Mathlib
import FreenetCore.Lib.Json
import FreenetCore.Lib.KeyedList
import FreenetCore.WasmRuntime.Delegate

/-!
The identity management delegate (`modules/identity-management`) over the
delegate runtime (`wasm_runtime/delegate.rs`).

The delegate keeps a client's aliases in one secret, under the id of its
params (`as_secret_id`). `Init` writes an empty manager there. `CreateIdentity`
and `DeleteIdentity` take two calls of `process`: the first asks the runtime
for the secret, with the message itself as the context; the runtime feeds the
secret back with that context, and the second call writes the manager back
with the alias inserted or removed. A panic of the delegate (its `unwrap`s on
bytes that do not decode, its `unreachable!()`s) is a failure of the WASM call,
which the runtime sees as any other error of `process`.

The bytes are `serde_json`'s: byte codecs (`SerdeJson.ByteCodec`) of the
params, the messages and the manager, each of which reads back what it
writes. The manager's `HashMap` is the list of its entries; a new alias is put
at the end, where the map's own iteration order is not modelled, and nothing
here reads that order. `SecretsId::new` hashes the id's bytes with a hash that
is a parameter.

Each message sent alone through `inbound_app_message` does to the manager
stored in the secret what `IdentityMsg.apply` says (`inboundAppMessage_apply`),
and so, over a store that keeps what it is given, a run of messages from
`Init` leaves the secret holding the manager their `apply`s build
(`messages_build_manager`).
-/

namespace FreenetCore.Identity

open FreenetCore.WasmRuntime SerdeJson

/-- `AliasInfo`. -/
structure AliasInfo where
  key : List UInt8
  extra : Option String
  deriving DecidableEq

/-- `IdentityManagement`: its map of identities as the list of its entries. -/
structure IdentityManagement where
  identities : List (String × AliasInfo)
  deriving DecidableEq

/-- `IdentityMsg`. -/
inductive IdentityMsg
  | init
  | createIdentity (alias' : String) (key : List UInt8) (extra : Option String)
  | deleteIdentity (alias' : String)
  deriving DecidableEq

/-- `SecretsId::new`: the id's bytes, and their hash. -/
def secretsIdNew (hash : List UInt8 → Bytes32) (key : List UInt8) : SecretsId := ⟨key, hash key⟩

/-- The `serde_json` bytes the delegate reads and writes, of its params (of
type `π`), its messages and its manager; and the hash of `SecretsId::new`. -/
structure Serde (π : Type) where
  params : ByteCodec π
  msg : ByteCodec IdentityMsg
  manager : ByteCodec IdentityManagement
  hash : List UInt8 → Bytes32

namespace IdentityManagement

/-- `HashMap::insert`. -/
def insert (m : IdentityManagement) (alias' : String) (info : AliasInfo) : IdentityManagement :=
  ⟨KeyedList.insert m.identities alias' info⟩

/-- `HashMap::remove`. -/
def remove (m : IdentityManagement) (alias' : String) : IdentityManagement :=
  ⟨m.identities.filter (·.1 != alias')⟩

end IdentityManagement

section Process

variable {π : Type} (s : Serde π)

/-- `IdentityParams::as_secret_id`. -/
def asSecretId (p : π) : SecretsId := secretsIdNew s.hash (s.params.encode p)

/-- `IdentityManagement::process` for the delegate's params. -/
def process (params : List UInt8) : Delegate := fun message =>
  match s.params.decode params with
  | .error e => .error e
  | .ok p =>
      match message with
      | .applicationMessage ⟨_, payload, _, false⟩ =>
          match s.msg.decode payload with
          | .error _ => .error "IdentityMsg::try_from: unwrap"
          | .ok .init => .ok [.setSecretRequest ⟨asSecretId s p, some (s.manager.encode ⟨[]⟩)⟩]
          | .ok action =>
              -- the action waits in the context for the secret
              .ok [.getSecretRequest ⟨asSecretId s p, s.msg.encode action, false⟩]
      | .getSecretResponse ⟨_, some value, context⟩ =>
          if context.isEmpty then .error "invalid request"
          else
            match s.msg.decode context with
            | .error _ => .error "IdentityMsg::try_from: unwrap"
            | .ok context =>
                match s.manager.decode value with
                | .error _ => .error "IdentityManagement::try_from: unwrap"
                | .ok manager =>
                    match context with
                    | .createIdentity alias' key extra =>
                        .ok [.setSecretRequest ⟨asSecretId s p,
                          some (s.manager.encode (manager.insert alias' ⟨key, extra⟩))⟩]
                    | .deleteIdentity alias' =>
                        .ok [.setSecretRequest ⟨asSecretId s p, some (s.manager.encode (manager.remove alias'))⟩]
                    | .init => .error "unreachable"
      | _ => .error "unreachable"

end Process

/-- What a message does to the manager in the secret, once the runtime has
fed the delegate the secret it asked for. -/
def IdentityMsg.apply : IdentityMsg → IdentityManagement → IdentityManagement
  | .init, _ => ⟨[]⟩
  | .createIdentity alias' key extra, m => m.insert alias' ⟨key, extra⟩
  | .deleteIdentity alias', m => m.remove alias'

/-! ### The delegate's calls -/

section Calls

variable {π : Type} {s : Serde π} {params : List UInt8} {p : π}

theorem process_init (hp : s.params.decode params = .ok p) (app : Bytes32)
    (context : DelegateContext) :
    process s params (.applicationMessage ⟨app, s.msg.encode .init, context, false⟩) =
      .ok [.setSecretRequest ⟨asSecretId s p, some (s.manager.encode ⟨[]⟩)⟩] := by
  simp [process, hp]

/-- `CreateIdentity` and `DeleteIdentity` ask for the secret, carrying the
message in the context. -/
theorem process_action (hp : s.params.decode params = .ok p) {msg : IdentityMsg}
    (hmsg : msg ≠ .init) (app : Bytes32) (context : DelegateContext) :
    process s params (.applicationMessage ⟨app, s.msg.encode msg, context, false⟩) =
      .ok [.getSecretRequest ⟨asSecretId s p, s.msg.encode msg, false⟩] := by
  cases msg with
  | init => exact absurd rfl hmsg
  | createIdentity => simp [process, hp]
  | deleteIdentity => simp [process, hp]

/-- Fed the secret back with that context, they write the manager `apply`
makes of it. -/
theorem process_secret (hp : s.params.decode params = .ok p) {msg : IdentityMsg}
    (hmsg : msg ≠ .init) (key : SecretsId) (m : IdentityManagement) :
    process s params (.getSecretResponse ⟨key, some (s.manager.encode m), s.msg.encode msg⟩) =
      .ok [.setSecretRequest ⟨asSecretId s p, some (s.manager.encode (msg.apply m))⟩] := by
  have hne : (s.msg.encode msg).isEmpty = false :=
    List.isEmpty_eq_false_iff.mpr (s.msg.encode_ne_nil msg)
  cases msg with
  | init => exact absurd rfl hmsg
  | createIdentity => simp [process, hp, hne, IdentityMsg.apply]
  | deleteIdentity => simp [process, hp, hne, IdentityMsg.apply]

end Calls

/-! ### Through the runtime -/

section Runtime

variable {π σ : Type} {s : Serde π} {params : List UInt8} {p : π}
  (codec : ContextCodec) {api : MsgApi} (secrets : SecretAccess σ) (dk : DelegateKey)

/-- `CreateIdentity` and `DeleteIdentity`: the runtime reads the secret, feeds
it back, and writes what the second call answers, all within the call of
`get_outbound`. -/
theorem inboundAppMessage_action (hapi : api.Lawful) (hp : s.params.decode params = .ok p) {msg : IdentityMsg}
    (hmsg : msg ≠ .init) (app : Bytes32) (context : DelegateContext) (rt : DelegateRuntime σ)
    {m : IdentityManagement}
    (hsecret : secrets.getSecret rt.secretStore dk (asSecretId s p) = .ok (s.manager.encode m)) :
    inboundAppMessage codec api (process s params) secrets dk rt
        [.applicationMessage ⟨app, s.msg.encode msg, context, false⟩] =
      some (match secrets.storeSecret rt.secretStore dk (asSecretId s p)
          (s.manager.encode (msg.apply m)) with
        | .ok st => (⟨st, rt.processCalls + 2⟩, .ok [])
        | .error e => (⟨rt.secretStore, rt.processCalls + 2⟩, .error (.secretStore e))) := by
  -- the first call asks for the secret
  have h1 : execInbound (process s params) rt (.applicationMessage ⟨app, s.msg.encode msg, context, false⟩) =
      ({ rt with processCalls := rt.processCalls + 1 }, .ok [.getSecretRequest ⟨asSecretId s p, s.msg.encode msg, false⟩]) := by
    simp [execInbound, process_action hp hmsg]
  set sid := asSecretId s p
  set rt₁ : DelegateRuntime σ := { rt with processCalls := rt.processCalls + 1 }
  set rt₂ : DelegateRuntime σ := { rt with processCalls := rt.processCalls + 2 }
  set request : OutboundDelegateMsg := .getSecretRequest ⟨sid, s.msg.encode msg, false⟩
  set write : SetSecretRequest := ⟨sid, some (s.manager.encode (msg.apply m))⟩
  -- the runtime reads the secret and feeds it back: the second call asks to write
  have hit : outboundIteration codec api (process s params) secrets dk ⟨rt₁, [request], [], s.msg.encode msg, 0⟩ =
      .next ⟨rt₂, [.setSecretRequest write], [], s.msg.encode msg, 1⟩ := by
    simp [outboundIteration, request, rt₁, rt₂, hsecret, execInbound, process_secret hp hmsg, maxIterations,
      requeued, hapi.context_setSecretRequest, hapi.processed_setSecretRequest, write, sid]
  have hloop : getOutbound codec api (process s params) secrets dk rt₁ [request] [] =
      some (match secrets.storeSecret rt.secretStore dk sid (s.manager.encode (msg.apply m)) with
        | .ok st => (⟨st, rt.processCalls + 2⟩, [], .ok (s.msg.encode msg))
        | .error e => (rt₂, [], .error (.secretStore e))) := by
    simp only [getOutbound, request, List.getLast?_singleton, Option.bind_eq_bind, Option.bind_some,
      hapi.context_getSecretRequest]
    rw [getOutboundLoop_of_next codec api (process s params) secrets dk hit]
    cases hw : secrets.storeSecret rt.secretStore dk sid (s.manager.encode (msg.apply m)) with
    | error e =>
        apply getOutboundLoop_of_done
        simp [outboundIteration, setSecret, write, rt₂, hw]
    | ok st =>
        have hnext : outboundIteration codec api (process s params) secrets dk
            ⟨rt₂, [.setSecretRequest write], [], s.msg.encode msg, 1⟩ =
            .next ⟨⟨st, rt.processCalls + 2⟩, [], [], s.msg.encode msg, 1⟩ := by
          simp [outboundIteration, setSecret, write, rt₂, hw]
        rw [getOutboundLoop_of_next codec api (process s params) secrets dk hnext]
        exact getOutboundLoop_of_done codec api (process s params) secrets dk rfl
  simp only [inboundAppMessage, inboundLoop, hapi.inboundContext_app, Option.getD_some, h1]
  have hf1 : List.filter (fun x => !x.isSetSecret) [request] = [request] := rfl
  have hf2 : List.filter (fun x => x.isSetSecret) [request] = [] := rfl
  rw [hf1, hf2, hloop]
  cases secrets.storeSecret rt.secretStore dk sid (s.manager.encode (msg.apply m)) <;> rfl

/-- `Init`: the write is put aside until the inbound messages are done, and
then made. -/
theorem inboundAppMessage_init (hapi : api.Lawful) (hp : s.params.decode params = .ok p) (app : Bytes32)
    (context : DelegateContext) (rt : DelegateRuntime σ) :
    inboundAppMessage codec api (process s params) secrets dk rt
        [.applicationMessage ⟨app, s.msg.encode .init, context, false⟩] =
      some (match secrets.storeSecret rt.secretStore dk (asSecretId s p) (s.manager.encode ⟨[]⟩) with
        | .ok st => (⟨st, rt.processCalls + 1⟩, .ok [])
        | .error e => (⟨rt.secretStore, rt.processCalls + 1⟩, .error (.secretStore e))) := by
  set write : OutboundDelegateMsg :=
    .setSecretRequest ⟨asSecretId s p, some (s.manager.encode ⟨[]⟩)⟩
  have h1 : execInbound (process s params) rt (.applicationMessage ⟨app, s.msg.encode .init, context, false⟩) =
      ({ rt with processCalls := rt.processCalls + 1 }, .ok [write]) := by
    simp [execInbound, process_init hp, write]
  have hf1 : List.filter (fun x => !x.isSetSecret) [write] = [] := rfl
  have hf2 : List.filter (fun x => x.isSetSecret) [write] = [write] := rfl
  simp only [inboundAppMessage, inboundLoop, hapi.inboundContext_app, Option.getD_some, h1, hf1, hf2]
  cases hw : secrets.storeSecret rt.secretStore dk (asSecretId s p) (s.manager.encode ⟨[]⟩) <;>
    simp [getOutbound, applyNonProcessed, setSecret, write, hw]

/-- Each message sent alone writes to the secret the manager `apply` makes of
the one stored there (which `Init` does not read); the call then answers
nothing, or the store's error. -/
theorem inboundAppMessage_apply (hapi : api.Lawful) (hp : s.params.decode params = .ok p) (msg : IdentityMsg)
    (app : Bytes32) (context : DelegateContext) (rt : DelegateRuntime σ) {m : IdentityManagement}
    (hsecret : msg ≠ .init →
      secrets.getSecret rt.secretStore dk (asSecretId s p) = .ok (s.manager.encode m)) :
    ∃ calls, inboundAppMessage codec api (process s params) secrets dk rt
        [.applicationMessage ⟨app, s.msg.encode msg, context, false⟩] =
      some (match secrets.storeSecret rt.secretStore dk (asSecretId s p)
          (s.manager.encode (msg.apply m)) with
        | .ok st => (⟨st, calls⟩, .ok [])
        | .error e => (⟨rt.secretStore, calls⟩, .error (.secretStore e))) := by
  by_cases hmsg : msg = .init
  · subst hmsg
    exact ⟨_, inboundAppMessage_init codec secrets dk hapi hp app context rt⟩
  · exact ⟨_, inboundAppMessage_action codec secrets dk hapi hp hmsg app context rt (hsecret hmsg)⟩

end Runtime

/-! ### Runs of messages -/

section Runs

variable {π σ : Type} (s : Serde π) (params : List UInt8)
  (codec : ContextCodec) (api : MsgApi) (secrets : SecretAccess σ) (dk : DelegateKey)

/-- A client sending messages one at a time, each in its own call of
`inbound_app_message`, until one fails. -/
def sendMessages (app : Bytes32) (rt : DelegateRuntime σ) :
    List IdentityMsg → Option (DelegateRuntime σ × Except DelegateRuntimeError Unit)
  | [] => some (rt, .ok ())
  | msg :: ms =>
      match inboundAppMessage codec api (process s params) secrets dk rt
          [.applicationMessage ⟨app, s.msg.encode msg, [], false⟩] with
      | none => none
      | some (rt, .error e) => some (rt, .error e)
      | some (rt, .ok _) => sendMessages app rt ms

variable {s params codec api secrets dk} {p : π}

/-- From a secret that holds a manager, over a store that keeps its writes,
the messages build on it: by induction on the messages, each keeping the
secret the manager built so far. -/
theorem sendMessages_of_secret (hapi : api.Lawful) (hp : s.params.decode params = .ok p)
    (hkeep : secrets.KeepsWrites)
    (app : Bytes32) (ms : List IdentityMsg) :
    ∀ (rt : DelegateRuntime σ) (m : IdentityManagement),
      secrets.getSecret rt.secretStore dk (asSecretId s p) = .ok (s.manager.encode m) →
      (∃ rt', sendMessages s params codec api secrets dk app rt ms = some (rt', .ok ()) ∧
          secrets.getSecret rt'.secretStore dk (asSecretId s p) =
            .ok (s.manager.encode (ms.foldl (fun m msg => msg.apply m) m))) ∨
        ∃ rt' e, sendMessages s params codec api secrets dk app rt ms = some (rt', .error (.secretStore e)) := by
  induction ms with
  | nil => exact fun rt m hm => .inl ⟨rt, rfl, hm⟩
  | cons msg ms ih =>
      intro rt m hm
      obtain ⟨calls, hcall⟩ := inboundAppMessage_apply codec secrets dk hapi hp msg app [] rt (fun _ => hm)
      simp only [sendMessages, hcall]
      cases hw : secrets.storeSecret rt.secretStore dk (asSecretId s p) (s.manager.encode (msg.apply m)) with
      | error e => exact .inr ⟨_, e, rfl⟩
      | ok st => exact ih ⟨st, calls⟩ (msg.apply m) (hkeep _ _ _ _ _ hw)

/-- Over a secret store that keeps what it is given, a client that sends the
identity delegate (with the params of any `IdentityParams`) `Init` and then
any messages, one per call, either sees every call answer nothing, and the
delegate's secret for its params then holds the manager that applying the
messages in order builds from an empty one (`CreateIdentity` inserting its
alias, `DeleteIdentity` removing it), or sees a call fail with an error of
the secret store; no call panics or fails otherwise. -/
theorem messages_build_manager (p : π) (hapi : api.Lawful) (hkeep : secrets.KeepsWrites) (app : Bytes32)
    (rt : DelegateRuntime σ) (ms : List IdentityMsg) :
    (∃ rt', sendMessages s (s.params.encode p) codec api secrets dk app rt (.init :: ms) = some (rt', .ok ()) ∧
        secrets.getSecret rt'.secretStore dk (asSecretId s p) =
          .ok (s.manager.encode ((IdentityMsg.init :: ms).foldl (fun m msg => msg.apply m) ⟨[]⟩))) ∨
      ∃ rt' e, sendMessages s (s.params.encode p) codec api secrets dk app rt (.init :: ms) =
        some (rt', .error (.secretStore e)) := by
  have hp : s.params.decode (s.params.encode p) = .ok p := s.params.decode_encode p
  simp only [sendMessages, inboundAppMessage_init codec secrets dk hapi hp, List.foldl_cons, IdentityMsg.apply]
  cases hw : secrets.storeSecret rt.secretStore dk (asSecretId s p) (s.manager.encode ⟨[]⟩) with
  | error e => exact .inr ⟨_, e, rfl⟩
  | ok st => exact sendMessages_of_secret hapi hp hkeep app ms ⟨st, rt.processCalls + 1⟩ ⟨[]⟩ (hkeep _ _ _ _ _ hw)

/-- Codecs for the delegate's data that write each value's code in unary, and
a hash that ignores its bytes. -/
def unarySerde : Serde Unit :=
  letI : Encodable Char :=
    Encodable.ofLeftInjection Char.toNat (fun n => some (Char.ofNat n)) fun c => congrArg some (Char.ofNat_toNat c)
  letI : Encodable String :=
    Encodable.ofLeftInjection String.toList (fun l => some (String.ofList l)) fun _ =>
      congrArg some String.ofList_toList
  letI : Encodable UInt8 :=
    Encodable.ofLeftInjection UInt8.toNat (fun n => some (UInt8.ofNat n)) fun _ =>
      congrArg some UInt8.ofNat_toNat
  letI : Encodable IdentityMsg :=
    Encodable.ofLeftInjection (α := Option (String × List UInt8 × Option String) ⊕ String)
      (fun m => match m with
        | .init => .inl none
        | .createIdentity a k e => .inl (some (a, k, e))
        | .deleteIdentity a => .inr a)
      (fun c => match c with
        | .inl none => some .init
        | .inl (some (a, k, e)) => some (.createIdentity a k e)
        | .inr a => some (.deleteIdentity a))
      fun m => by cases m <;> rfl
  letI : Encodable IdentityManagement :=
    Encodable.ofLeftInjection (α := List (String × List UInt8 × Option String))
      (fun m => m.identities.map fun e => (e.1, e.2.key, e.2.extra))
      (fun l => some ⟨l.map fun e => (e.1, ⟨e.2.1, e.2.2⟩)⟩)
      fun m => by simp only [List.map_map, Function.comp_def, List.map_id']
  ⟨.ofEncodable Unit, .ofEncodable IdentityMsg, .ofEncodable IdentityManagement, fun _ => .replicate 0⟩

/-- `Init` and one `CreateIdentity` over a map of secrets. -/
theorem messages_build_manager_create :
    let secrets : SecretAccess (SecretsId → Option (List UInt8)) :=
      ⟨fun st _ k => match st k with
        | some v => .ok v
        | none => .error (.missingSecret k),
       fun st _ k v => .ok (Function.update st k (some v)),
       fun st _ k => .ok (Function.update st k none)⟩
    let codec : ContextCodec := ⟨fun _ => none, fun _ => []⟩
    let dk : DelegateKey := (.replicate 5, .replicate 6)
    let rt : DelegateRuntime (SecretsId → Option (List UInt8)) := ⟨fun _ => none, 0⟩
    let ms : List IdentityMsg := [.createIdentity "work" [1] none]
    secrets.KeepsWrites ∧
      ((∃ rt', sendMessages unarySerde (unarySerde.params.encode ()) codec .ofVariants secrets dk
            (.replicate 0) rt (.init :: ms) = some (rt', .ok ()) ∧
          secrets.getSecret rt'.secretStore dk (asSecretId unarySerde ()) =
            .ok (unarySerde.manager.encode ((IdentityMsg.init :: ms).foldl (fun m msg => msg.apply m) ⟨[]⟩))) ∨
        ∃ rt' e, sendMessages unarySerde (unarySerde.params.encode ()) codec .ofVariants secrets dk
          (.replicate 0) rt (.init :: ms) = some (rt', .error (.secretStore e))) := by
  intro secrets codec dk rt ms
  have hkeep : secrets.KeepsWrites := by
    intro st st' _ id v h
    cases h
    simp [secrets]
  exact ⟨hkeep, messages_build_manager () MsgApi.ofVariants_lawful hkeep (.replicate 0) rt ms⟩

end Runs

end FreenetCore.Identity
