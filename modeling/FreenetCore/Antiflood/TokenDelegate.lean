import FreenetCore.Antiflood.TokenGenerator
import FreenetCore.Antiflood.Codec
import FreenetCore.WasmRuntime.Delegate
import FreenetCore.Lib.KeyedList

/-!
The token generator delegate (`delegates/token-generator`: `process` and
`allocate_token`) over the delegate runtime (`wasm_runtime/delegate.rs`).

A `RequestNewToken` takes the delegate two calls. On the first the request is
neither waited for nor answered in the context: the delegate marks it as
waiting and answers with a `RequestUserInput` and the request itself, carrying
the new context. The runtime answers the user input on the user's behalf
(always `Allowed`, written into the context) and feeds the request back with
that context; on the second call the delegate finds the answer and allocates
with `TokenAllocationRecord::assign`. An `AllocatedToken` answer is marked
processed and is the call's result. A `NoFreeSlot` failure is not marked, so
the runtime feeds it back too, and the delegate refuses it as an unexpected
message: the call fails, and the failure never reaches the application.

A batch of fresh requests sent in one call of `inbound_app_message` is thus
answered with the tokens `assign` makes, in order, up to the first request
with no free slot, which fails the call; the secret store is never touched
(`token_requests_allocate`).

The messages and the context are `bincode`'s bytes, the params and the user's
response `serde_json`'s, each a codec that reads back what it writes. The
delegate's `Context` and the runtime's are the same type, read and written by
the same codec. `Utc::now()` is the argument `current` of `process`, and
`SecretsId`'s `Display` is a parameter.
-/

namespace FreenetCore.WasmRuntime

namespace Context

/-- `HashSet::insert` into the requests waiting for the user. -/
def wait (c : Context) (id : UInt32) : Context :=
  { c with waitingForUserInput :=
      if id ∈ c.waitingForUserInput then c.waitingForUserInput else id :: c.waitingForUserInput }

/-- `HashSet::remove`. -/
def unwait (c : Context) (id : UInt32) : Context :=
  { c with waitingForUserInput := c.waitingForUserInput.erase id }

/-- `HashMap::insert` of the user's response. -/
def respond (c : Context) (id : UInt32) (r : Response) : Context :=
  { c with userResponse := (id, r) :: c.userResponse.filter (·.1 != id) }

/-- A request neither waited for nor answered. -/
def Fresh (c : Context) (id : UInt32) : Prop :=
  id ∉ c.waitingForUserInput ∧ c.userResponse.lookup id = none

/-- Asked and answered: the context a fresh request leaves behind. -/
def answered (c : Context) (id : UInt32) : Context :=
  ((c.wait id).unwait id).respond id .allowed

theorem answered_waiting {c : Context} {id : UInt32} (h : id ∉ c.waitingForUserInput) :
    (c.answered id).waitingForUserInput = c.waitingForUserInput := by
  simp [answered, wait, unwait, respond, h]

theorem answered_lookup (c : Context) (id : UInt32) : (c.answered id).userResponse.lookup id = some .allowed := by
  simp [answered, respond]

/-- Answering one request leaves every other fresh. -/
theorem Fresh.answered {c : Context} {id id' : UInt32} (h : c.Fresh id) (h' : c.Fresh id')
    (hne : id' ≠ id) : (c.answered id).Fresh id' := by
  constructor
  · rw [answered_waiting h.1]
    exact h'.1
  · have hbeq : (id' == id) = false := beq_eq_false_iff_ne.mpr hne
    simp only [Context.answered, respond, List.lookup, hbeq]
    rw [KeyedList.lookup_filter_ne _ hne]
    exact h'.2

end Context

/-- `bincode` reads back the contexts it writes, and writes none as no bytes. -/
structure ContextCodec.Lawful (codec : ContextCodec) : Prop where
  decode_encode : ∀ c, codec.decode (codec.encode c) = some c
  encode_ne_nil : ∀ c, codec.encode c ≠ []

/-- The simulated user answers a request as the delegate would record an
answer. -/
theorem answerUserInput_eq (codec : ContextCodec) (lastContext : DelegateContext) (req : UserInputRequest) :
    answerUserInput codec lastContext req =
      (codec.decode lastContext).map fun c => codec.encode ((c.unwait req.requestId).respond req.requestId .allowed) :=
  rfl

end FreenetCore.WasmRuntime

namespace FreenetCore.Antiflood

open Civil Crypto SerdeJson FreenetCore.WasmRuntime

/-- `FailureReason`. -/
inductive FailureReason
  | userPermissionDenied
  | noFreeSlot (delegateId : SecretsId) (criteria : AllocationCriteria)

/-- `RequestNewToken`. -/
structure RequestNewToken where
  requestId : UInt32
  delegateId : SecretsId
  criteria : AllocationCriteria
  records : TokenAllocationRecord
  assignmentHash : Bytes32

/-- `TokenDelegateMessage`. -/
inductive TokenDelegateMessage
  | requestNewToken (req : RequestNewToken)
  | allocatedToken (delegateId : SecretsId) (assignment : TokenAssignment) (records : TokenAllocationRecord)
  | failure (reason : FailureReason)

/-- `Tier`'s `Display` (`strum`, in lower case). -/
def Tier.display (t : Tier) : String := t.name.toLower

/-- `AllocationCriteria`'s `Display`, with `max_age.as_secs()`. -/
def AllocationCriteria.display (c : AllocationCriteria) : String :=
  "frequency: " ++ c.frequency.display ++ "; max age: " ++ toString (c.maxAge / 1000000000) ++ " secs"

/-- `FailureReason`'s `Display`, given `SecretsId`'s. -/
def FailureReason.display (showId : SecretsId → String) : FailureReason → String
  | .userPermissionDenied => "user disallowed token allocation for this application"
  | .noFreeSlot delegateId criteria =>
      "no free slot found for delegate `" ++ showId delegateId ++ "` with criteria " ++ criteria.display

/-- The bytes the delegate reads and writes: its params (`DelegateParameters`,
the generator's private key), its messages and the user's response; and
`SecretsId`'s `Display`. -/
structure TokenSerde where
  params : ByteCodec RsaPrivateKey
  msg : ByteCodec TokenDelegateMessage
  response : ByteCodec Response
  showId : SecretsId → String

/-- `Context::try_from(DelegateContext)`: the empty context is the default. -/
def readContext (codec : ContextCodec) (context : DelegateContext) : Except String Context :=
  if context = [] then .ok ⟨[], []⟩
  else
    match codec.decode context with
    | some c => .ok c
    | none => .error "Context::try_from: invalid bincode"

section Process

variable (rsa : SignatureScheme RsaPrivateKey RsaPublicKey) (s : TokenSerde) (codec : ContextCodec)
  (current : DateTime)

/-- `allocate_token`, on the context read from the message. -/
def allocateToken (key : RsaPrivateKey) (context : Context) (app : Bytes32) (req : RequestNewToken) :
    Except String (List OutboundDelegateMsg) :=
  match context.waitingForUserInput.find? (· == req.requestId), context.userResponse.lookup req.requestId with
  | none, none =>
      -- ask the user, and send the request back to be processed once answered
      let context := context.wait req.requestId
      .ok [.requestUserInput ⟨req.requestId⟩,
        .applicationMessage ⟨app, s.msg.encode (.requestNewToken req), codec.encode context, false⟩]
  | some _, _ =>
      .ok [.applicationMessage ⟨app, s.msg.encode (.requestNewToken req), codec.encode context, false⟩]
  | none, some .allowed =>
      -- the answer is taken out of the context only after the context is written
      match req.records.assign rsa req.criteria key req.assignmentHash current with
      | none => .error "assign: panic"
      | some none =>
          .ok [.applicationMessage ⟨app, s.msg.encode (.failure (.noFreeSlot req.delegateId req.criteria)),
            codec.encode context, false⟩]
      | some (some (assignment, records)) =>
          .ok [.applicationMessage ⟨app, s.msg.encode (.allocatedToken req.delegateId assignment records),
            codec.encode context, true⟩]
  | none, some .notAllowed =>
      .ok [.applicationMessage ⟨app, s.msg.encode (.failure .userPermissionDenied), codec.encode context, false⟩]

/-- `TokenDelegate::process` for the delegate's params; a panic is an error
of the call. -/
def process (params : List UInt8) : Delegate
  | .applicationMessage ⟨app, payload, context, processed⟩ =>
      if processed then .error "cannot process an already processed message"
      else do
        let context ← readContext codec context
        let msg ← s.msg.decode payload
        let key ← s.params.decode params
        match msg with
        | .requestNewToken req => allocateToken rsa s codec current key context app req
        | .failure reason => .error ("unexpected message type: failure; reason: " ++ reason.display s.showId)
        | .allocatedToken .. => .error "unexpected message type: allocated token"
  | .userResponse ⟨requestId, response, context⟩ => do
      let context ← readContext codec context
      let response ← s.response.decode response
      .ok [.contextUpdated (codec.encode ((context.unwait requestId).respond requestId response))]
  | .getSecretResponse _ => .error "unexpected message type: get secret"
  | .getSecretRequest _ => .error "unreachable"

/-- What a batch of fresh token requests comes to: the calls of `process`
it takes, and the answer. Each request gets the token `assign` makes of its
records, until one cannot be allocated. -/
def allocationAnswers (key : RsaPrivateKey) (app : Bytes32) :
    List RequestNewToken → Nat × Except DelegateRuntimeError (List OutboundDelegateMsg)
  | [] => (0, .ok [])
  | req :: rest =>
      match req.records.assign rsa req.criteria key req.assignmentHash current with
      | none => (2, .error (.process "assign: panic"))
      | some none =>
          (3, .error (.process ("unexpected message type: failure; reason: " ++
            (FailureReason.noFreeSlot req.delegateId req.criteria).display s.showId)))
      | some (some (assignment, records)) =>
          let answers := allocationAnswers key app rest
          (answers.1 + 2, answers.2.map (.applicationMessage
            ⟨app, s.msg.encode (.allocatedToken req.delegateId assignment records), [], true⟩ :: ·))

/-! ### The delegate's calls -/

variable {s codec} {params : List UInt8} {key : RsaPrivateKey}

theorem readContext_encode (hcodec : codec.Lawful) (c : Context) :
    readContext codec (codec.encode c) = .ok c := by
  simp [readContext, hcodec.encode_ne_nil, hcodec.decode_encode]

/-- A fresh request: the delegate asks the user and sends the request back,
marked as waiting. -/
theorem process_fresh (hp : s.params.decode params = .ok key) {ctx : DelegateContext} {c : Context}
    (hc : readContext codec ctx = .ok c) {req : RequestNewToken} (hf : c.Fresh req.requestId)
    (app : Bytes32) :
    process rsa s codec current params (.applicationMessage ⟨app, s.msg.encode (.requestNewToken req), ctx, false⟩) =
      .ok [.requestUserInput ⟨req.requestId⟩,
        .applicationMessage ⟨app, s.msg.encode (.requestNewToken req), codec.encode (c.wait req.requestId), false⟩] := by
  have hfind : c.waitingForUserInput.find? (· == req.requestId) = none := by
    rw [List.find?_eq_none]
    intro x hx
    have hne : x ≠ req.requestId := fun e => hf.1 (e ▸ hx)
    simpa using hne
  simp [process, hc, hp, allocateToken, hfind, hf.2]

/-- An allowed request: the delegate allocates, and marks the token as
processed; a failure to find a slot is not marked. -/
theorem process_allowed (hp : s.params.decode params = .ok key) {ctx : DelegateContext} {c : Context}
    (hc : readContext codec ctx = .ok c) {req : RequestNewToken}
    (hw : req.requestId ∉ c.waitingForUserInput) (hr : c.userResponse.lookup req.requestId = some .allowed)
    (app : Bytes32) :
    process rsa s codec current params (.applicationMessage ⟨app, s.msg.encode (.requestNewToken req), ctx, false⟩) =
      match req.records.assign rsa req.criteria key req.assignmentHash current with
      | none => .error "assign: panic"
      | some none =>
          .ok [.applicationMessage ⟨app, s.msg.encode (.failure (.noFreeSlot req.delegateId req.criteria)),
            codec.encode c, false⟩]
      | some (some (assignment, records)) =>
          .ok [.applicationMessage ⟨app, s.msg.encode (.allocatedToken req.delegateId assignment records),
            codec.encode c, true⟩] := by
  have hfind : c.waitingForUserInput.find? (· == req.requestId) = none := by
    rw [List.find?_eq_none]
    intro x hx
    have hne : x ≠ req.requestId := fun e => hw (e ▸ hx)
    simpa using hne
  simp [process, hc, hp, allocateToken, hfind, hr]

/-- A failure sent back to the delegate is refused. -/
theorem process_failure (hp : s.params.decode params = .ok key) {ctx : DelegateContext} {c : Context}
    (hc : readContext codec ctx = .ok c) (reason : FailureReason) (app : Bytes32) :
    process rsa s codec current params (.applicationMessage ⟨app, s.msg.encode (.failure reason), ctx, false⟩) =
      .error ("unexpected message type: failure; reason: " ++ reason.display s.showId) := by
  simp [process, hc, hp]

end Process

/-! ### Through the runtime -/

section Runtime

variable {σ : Type} (rsa : SignatureScheme RsaPrivateKey RsaPublicKey) {s : TokenSerde} {codec : ContextCodec}
  {api : MsgApi} (current : DateTime) {params : List UInt8} {key : RsaPrivateKey} (secrets : SecretAccess σ)
  (dk : DelegateKey)

/-- One fresh request of a batch: a call of `process` that asks the user, the
runtime's answer, and a call that allocates; a third call when the delegate
is fed its own failure back. -/
theorem inboundLoop_request (hcodec : codec.Lawful) (hapi : api.Lawful) (hp : s.params.decode params = .ok key)
    {lastContext : DelegateContext} {c : Context} (hc : readContext codec lastContext = .ok c)
    {req : RequestNewToken} (hf : c.Fresh req.requestId) (app : Bytes32) (ctx : DelegateContext)
    (rest : List InboundDelegateMsg) (rt : DelegateRuntime σ) (results : List OutboundDelegateMsg) :
    inboundLoop codec api (process rsa s codec current params) secrets dk rt
        (.applicationMessage ⟨app, s.msg.encode (.requestNewToken req), ctx, false⟩ :: rest) lastContext
        results [] =
      match req.records.assign rsa req.criteria key req.assignmentHash current with
      | none => some (⟨rt.secretStore, rt.processCalls + 2⟩, .error (.process "assign: panic"))
      | some none => some (⟨rt.secretStore, rt.processCalls + 3⟩, .error (.process
          ("unexpected message type: failure; reason: " ++
            (FailureReason.noFreeSlot req.delegateId req.criteria).display s.showId)))
      | some (some (assignment, records)) =>
          inboundLoop codec api (process rsa s codec current params) secrets dk
            ⟨rt.secretStore, rt.processCalls + 2⟩ rest (codec.encode (c.answered req.requestId))
            (results ++ [.applicationMessage
              ⟨app, s.msg.encode (.allocatedToken req.delegateId assignment records), [], true⟩]) [] := by
  set P := process rsa s codec current params
  set c₂ := c.answered req.requestId
  set request : OutboundDelegateMsg := .applicationMessage
    ⟨app, s.msg.encode (.requestNewToken req), codec.encode (c.wait req.requestId), false⟩
  set rt₁ : DelegateRuntime σ := { rt with processCalls := rt.processCalls + 1 }
  -- the first call asks the user
  have h1 : execInbound P rt (.applicationMessage ⟨app, s.msg.encode (.requestNewToken req), lastContext, false⟩) =
      (rt₁, .ok [.requestUserInput ⟨req.requestId⟩, request]) := by
    simp [execInbound, P, process_fresh rsa current hp hc hf, request, rt₁]
  -- the runtime answers for the user
  have hask : outboundIteration codec api P secrets dk
      ⟨rt₁, [.requestUserInput ⟨req.requestId⟩, request], results, codec.encode (c.wait req.requestId), 0⟩ =
      .next ⟨rt₁, [request], results, codec.encode c₂, 0⟩ := by
    simp [outboundIteration, answerUserInput_eq, hcodec.decode_encode, c₂, Context.answered]
  -- the second call finds the answer
  have h2 := process_allowed rsa current hp (readContext_encode hcodec c₂)
    (by rw [Context.answered_waiting hf.1]; exact hf.1) (c.answered_lookup req.requestId) app
  have hout : getOutbound codec api P secrets dk rt₁ [.requestUserInput ⟨req.requestId⟩, request] results =
      getOutboundLoop codec api P secrets dk ⟨rt₁, [request], results, codec.encode c₂, 0⟩ := by
    simp only [getOutbound, request, List.getLast?_cons_cons, List.getLast?_singleton, Option.bind_eq_bind,
      Option.bind_some, hapi.context_app]
    exact getOutboundLoop_of_next codec api P secrets dk hask
  have hset : [OutboundDelegateMsg.requestUserInput ⟨req.requestId⟩, request].filter (·.isSetSecret) = [] := rfl
  have hkeep : [OutboundDelegateMsg.requestUserInput ⟨req.requestId⟩, request].filter (!·.isSetSecret) =
      [.requestUserInput ⟨req.requestId⟩, request] := rfl
  simp only [inboundLoop, h1, hset, hkeep, List.append_nil, hout]
  cases hassign : req.records.assign rsa req.criteria key req.assignmentHash current with
  | none =>
      rw [hassign] at h2
      have hdone : outboundIteration codec api P secrets dk ⟨rt₁, [request], results, codec.encode c₂, 0⟩ =
          .done ⟨rt.secretStore, rt.processCalls + 2⟩ results (.error (.process "assign: panic")) := by
        simp [outboundIteration, request, maxIterations, execInbound, P, h2, rt₁, Except.mapError]
      rw [getOutboundLoop_of_done codec api P secrets dk hdone]
  | some r =>
      rcases r with _ | ⟨assignment, records⟩
      · -- no free slot: the failure goes back to the delegate, which refuses it
        rw [hassign] at h2
        have h3 := process_failure rsa current hp (readContext_encode hcodec c₂)
          (.noFreeSlot req.delegateId req.criteria) app
        have hnext : outboundIteration codec api P secrets dk ⟨rt₁, [request], results, codec.encode c₂, 0⟩ =
            .next ⟨⟨rt.secretStore, rt.processCalls + 2⟩, [.applicationMessage
              ⟨app, s.msg.encode (.failure (.noFreeSlot req.delegateId req.criteria)), codec.encode c₂, false⟩],
              results, codec.encode c₂, 1⟩ := by
          simp [outboundIteration, request, maxIterations, execInbound, P, h2, rt₁, Except.mapError]
        have hdone : outboundIteration codec api P secrets dk ⟨⟨rt.secretStore, rt.processCalls + 2⟩,
            [.applicationMessage ⟨app, s.msg.encode (.failure (.noFreeSlot req.delegateId req.criteria)),
              codec.encode c₂, false⟩], results, codec.encode c₂, 1⟩ =
            .done ⟨rt.secretStore, rt.processCalls + 3⟩ results (.error (.process
              ("unexpected message type: failure; reason: " ++
                (FailureReason.noFreeSlot req.delegateId req.criteria).display s.showId))) := by
          simp [outboundIteration, maxIterations, execInbound, P, h3, Except.mapError]
        rw [getOutboundLoop_of_next codec api P secrets dk hnext, getOutboundLoop_of_done codec api P secrets dk hdone]
      · -- the token, processed, ends the loop as the result
        rw [hassign] at h2
        have hnext : outboundIteration codec api P secrets dk ⟨rt₁, [request], results, codec.encode c₂, 0⟩ =
            .next ⟨⟨rt.secretStore, rt.processCalls + 2⟩, [.applicationMessage
              ⟨app, s.msg.encode (.allocatedToken req.delegateId assignment records), codec.encode c₂, true⟩],
              results, codec.encode c₂, 1⟩ := by
          simp [outboundIteration, request, maxIterations, execInbound, P, h2, rt₁, Except.mapError]
        have hdone : outboundIteration codec api P secrets dk ⟨⟨rt.secretStore, rt.processCalls + 2⟩,
            [.applicationMessage ⟨app, s.msg.encode (.allocatedToken req.delegateId assignment records),
              codec.encode c₂, true⟩], results, codec.encode c₂, 1⟩ =
            .done ⟨rt.secretStore, rt.processCalls + 2⟩ (results ++ [.applicationMessage
              ⟨app, s.msg.encode (.allocatedToken req.delegateId assignment records), [], true⟩])
              (.ok (codec.encode c₂)) := by
          simp [outboundIteration]
        rw [getOutboundLoop_of_next codec api P secrets dk hnext, getOutboundLoop_of_done codec api P secrets dk hdone]

/-- A batch of fresh requests, by induction on the requests: each is answered
in turn, from the context that carries the answers so far. -/
theorem inboundLoop_requests (hcodec : codec.Lawful) (hapi : api.Lawful) (hp : s.params.decode params = .ok key)
    (app : Bytes32) (ctx : DelegateContext) (reqs : List RequestNewToken)
    (hnodup : (reqs.map (·.requestId)).Nodup) :
    ∀ (lastContext : DelegateContext) (c : Context), readContext codec lastContext = .ok c →
      (∀ req ∈ reqs, c.Fresh req.requestId) → ∀ (rt : DelegateRuntime σ) (results : List OutboundDelegateMsg),
      inboundLoop codec api (process rsa s codec current params) secrets dk rt
          (reqs.map fun req => .applicationMessage ⟨app, s.msg.encode (.requestNewToken req), ctx, false⟩)
          lastContext results [] =
        some (⟨rt.secretStore, rt.processCalls + (allocationAnswers rsa s current key app reqs).1⟩,
          (allocationAnswers rsa s current key app reqs).2.map fun answers => (results ++ answers, [])) := by
  induction reqs with
  | nil =>
      intro lastContext c _ _ rt results
      simp [inboundLoop, allocationAnswers, Except.map]
  | cons req rest ih =>
      intro lastContext c hc hfresh rt results
      obtain ⟨hnew, hnodup'⟩ := List.nodup_cons.mp hnodup
      rw [List.map_cons,
        inboundLoop_request rsa current secrets dk hcodec hapi hp hc (hfresh req List.mem_cons_self)]
      simp only [allocationAnswers]
      cases hassign : req.records.assign rsa req.criteria key req.assignmentHash current with
      | none => rfl
      | some r =>
          rcases r with _ | ⟨assignment, records⟩
          · rfl
          · -- every later request is still fresh once this one is answered
            have hfresh' : ∀ r ∈ rest, (c.answered req.requestId).Fresh r.requestId := by
              intro r hr
              have hmem : r.requestId ∈ rest.map (·.requestId) := List.mem_map_of_mem hr
              have hne : r.requestId ≠ req.requestId := fun e => hnew (by simpa [e] using hmem)
              exact (hfresh req List.mem_cons_self).answered (hfresh r (List.mem_cons_of_mem _ hr)) hne
            dsimp only
            rw [ih hnodup' _ _ (readContext_encode hcodec _) hfresh']
            cases (allocationAnswers rsa s current key app rest).2 <;>
              simp [Except.map] <;> omega

/-- A batch of token requests, fresh in the context it is sent with and with
distinct ids, sent in one call of `inbound_app_message`: the call answers each
request with the token `assign` makes of its records at the time of the call,
marked processed and in order, and nothing else (no request for user input
reaches the application); it fails at the first request that `assign` finds
no free slot for, with the delegate's refusal of its own `NoFreeSlot` failure,
or panics for. The secret store is left as it was. -/
theorem token_requests_allocate (hcodec : codec.Lawful) (hapi : api.Lawful) (hp : s.params.decode params = .ok key)
    {ctx : DelegateContext} {c : Context} (hc : readContext codec ctx = .ok c) (reqs : List RequestNewToken)
    (hnodup : (reqs.map (·.requestId)).Nodup) (hfresh : ∀ req ∈ reqs, c.Fresh req.requestId)
    (app : Bytes32) (rt : DelegateRuntime σ) :
    inboundAppMessage codec api (process rsa s codec current params) secrets dk rt
        (reqs.map fun req => .applicationMessage ⟨app, s.msg.encode (.requestNewToken req), ctx, false⟩) =
      some (⟨rt.secretStore, rt.processCalls + (allocationAnswers rsa s current key app reqs).1⟩,
        (allocationAnswers rsa s current key app reqs).2) := by
  have hloop := inboundLoop_requests rsa current secrets dk hcodec hapi hp app ctx reqs hnodup ctx c hc hfresh rt []
  cases reqs with
  | nil => simp [inboundAppMessage, allocationAnswers]
  | cons req rest =>
      -- the shared context starts as the first request's
      simp only [List.map_cons] at hloop
      simp only [inboundAppMessage, List.map_cons, hapi.inboundContext_app, Option.getD_some, hloop]
      cases (allocationAnswers rsa s current key app (req :: rest)).2 <;> rfl

end Runtime

/-- A context's bytes: its code, in unary. -/
def unaryContextCodec : ContextCodec :=
  letI : Encodable UInt32 :=
    Encodable.ofLeftInjection UInt32.toNat (fun n => some (UInt32.ofNat n)) fun _ =>
      congrArg some UInt32.ofNat_toNat
  letI : Encodable Response :=
    Encodable.ofLeftInjection (fun r => match r with | .allowed => true | .notAllowed => false)
      (fun b => some (if b then .allowed else .notAllowed)) fun r => by cases r <;> rfl
  letI : Encodable Context :=
    Encodable.ofLeftInjection (fun c : Context => (c.waitingForUserInput, c.userResponse))
      (fun p => some ⟨p.1, p.2⟩) fun _ => rfl
  ⟨fun bytes => ((ByteCodec.ofEncodable Context).decode bytes).toOption, (ByteCodec.ofEncodable Context).encode⟩

theorem unaryContextCodec_lawful : unaryContextCodec.Lawful where
  decode_encode c := by simp [unaryContextCodec, Except.toOption]
  encode_ne_nil c := by simp [unaryContextCodec, ByteCodec.ofEncodable]

/-- Codecs for the delegate's data that write each value's code in unary; the
messages' codes come from their countability. -/
noncomputable def unaryTokenSerde : TokenSerde :=
  haveI : Fintype Tier := ⟨⟨Tier.all, Tier.nodup_all⟩, Tier.mem_all⟩
  haveI : Countable DateTime := Function.Injective.countable (f := DateTime.nanos) fun a b h => DateTime.ext h
  haveI : Countable TokenAssignment :=
    Function.Injective.countable (f := fun a : TokenAssignment =>
      (a.tier, a.timeSlot, a.generator, a.signature, a.assignmentHash, a.tokenRecord)) fun a b h => by
        cases a; cases b; simp_all
  haveI : Countable TokenAllocationRecord :=
    Function.Injective.countable (f := TokenAllocationRecord.tokensByTier) fun a b h => by
      cases a; cases b; simp_all
  haveI : Countable SecretsId :=
    Function.Injective.countable (f := fun i : SecretsId => (i.key, i.hash)) fun a b h => by
      cases a; cases b; simp_all
  haveI : Countable AllocationCriteria :=
    Function.Injective.countable (f := fun c : AllocationCriteria => (c.frequency, c.maxAge, c.contract))
      fun a b h => by cases a; cases b; simp_all
  haveI : Countable RequestNewToken :=
    Function.Injective.countable (f := fun r : RequestNewToken =>
      (r.requestId, r.delegateId, r.criteria, r.records, r.assignmentHash)) fun a b h => by
        cases a; cases b; simp_all
  haveI : Countable FailureReason :=
    Function.Injective.countable (f := fun r : FailureReason => match r with
      | .userPermissionDenied => none
      | .noFreeSlot i c => some (i, c)) fun a b h => by
        cases a <;> cases b <;> simp_all
  haveI : Countable TokenDelegateMessage :=
    Function.Injective.countable (f := fun m : TokenDelegateMessage => match m with
      | .requestNewToken r => (.inl r : RequestNewToken ⊕ (SecretsId × TokenAssignment × TokenAllocationRecord) ⊕ FailureReason)
      | .allocatedToken i a r => .inr (.inl (i, a, r))
      | .failure f => .inr (.inr f)) fun a b h => by
        cases a <;> cases b <;> simp_all
  letI : Encodable Response :=
    Encodable.ofLeftInjection (fun r => match r with | .allowed => true | .notAllowed => false)
      (fun b => some (if b then .allowed else .notAllowed)) fun r => by cases r <;> rfl
  letI : Encodable (List UInt8) := Encodable.ofCountable _
  letI : Encodable TokenDelegateMessage := Encodable.ofCountable _
  ⟨.ofEncodable (List UInt8), .ofEncodable TokenDelegateMessage, .ofEncodable Response, fun _ => ""⟩

/-- Two requests with distinct ids from an empty context, over a store with
no secrets. -/
theorem token_requests_allocate_two :
    let codec := unaryContextCodec
    let s := unaryTokenSerde
    let req₁ : RequestNewToken := ⟨1, ⟨[], .replicate 0⟩, ⟨.min1, 0, .replicate 0⟩, .empty, .replicate 0⟩
    let req₂ : RequestNewToken := ⟨2, ⟨[], .replicate 0⟩, ⟨.min1, 0, .replicate 0⟩, .empty, .replicate 1⟩
    let secrets : SecretAccess Unit :=
      ⟨fun _ _ _ => .error .missingCipher, fun _ _ _ _ => .ok (), fun _ _ _ => .ok ()⟩
    codec.Lawful ∧ s.params.decode (s.params.encode [7]) = .ok [7] ∧ readContext codec [] = .ok ⟨[], []⟩ ∧
      ([req₁, req₂].map (·.requestId)).Nodup ∧ (∀ r ∈ [req₁, req₂], (⟨[], []⟩ : Context).Fresh r.requestId) ∧
      inboundAppMessage codec .ofVariants (process echoScheme s codec ⟨0⟩ (s.params.encode [7])) secrets
          (.replicate 5, .replicate 6) ⟨(), 0⟩
          ([req₁, req₂].map fun r => .applicationMessage ⟨.replicate 0, s.msg.encode (.requestNewToken r), [], false⟩) =
        some (⟨(), 0 + (allocationAnswers echoScheme s ⟨0⟩ [7] (.replicate 0) [req₁, req₂]).1⟩,
          (allocationAnswers echoScheme s ⟨0⟩ [7] (.replicate 0) [req₁, req₂]).2) := by
  intro codec s req₁ req₂ secrets
  have hcodec : codec.Lawful := unaryContextCodec_lawful
  have hp : s.params.decode (s.params.encode [7]) = .ok [7] := s.params.decode_encode _
  have hc : readContext codec [] = .ok ⟨[], []⟩ := rfl
  have hnodup : ([req₁, req₂].map (·.requestId)).Nodup := by simp [req₁, req₂]
  have hfresh : ∀ r ∈ [req₁, req₂], (⟨[], []⟩ : Context).Fresh r.requestId := by simp [Context.Fresh]
  exact ⟨hcodec, hp, hc, hnodup, hfresh, token_requests_allocate echoScheme ⟨0⟩ secrets (.replicate 5, .replicate 6)
    hcodec MsgApi.ofVariants_lawful hp hc [req₁, req₂] hnodup hfresh (.replicate 0) ⟨(), 0⟩⟩

end FreenetCore.Antiflood
