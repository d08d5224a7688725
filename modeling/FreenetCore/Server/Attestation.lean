import FreenetCore.Lib.KeyedList
import FreenetCore.Lib.Since
import FreenetCore.WasmRuntime.CodeStores

/-!
Delegate attestation (`server.rs`, `server/http_gateway.rs`,
`server/path_handlers.rs`, `contract/executor/runtime.rs`).

A page load of a web app (`web_home`, `contract_home`) draws a token and
registers a client for it with the HTTP gateway (`NewConnection`), which
files the token in `attested_contracts` with the contract and the client's
id. Once the page is served, `contract_home` disconnects that client, and
`run_local_node` removes the token of a disconnecting client.

A `RegisterDelegate` request whose token is filed adds the token's contract
to the delegate's entry of `delegate_attested_ids`, before the runtime
registers the delegate, so a registration that fails adds it too;
`UnregisterDelegate` drops the delegate's entry. A request to a delegate is
attested by the contract of its token when that contract is in the
delegate's entry.

Client ids come from the counter `CLIENT_ID`, which starts at 1 and is
shared by all proxies. Tokens are drawn at random (`AuthToken::generate`);
here the `n`-th page load's token is `n`, so no two loads share one.
-/

namespace FreenetCore.Server

open FreenetCore.WasmRuntime History KeyedList

/-- `ContractInstanceId`, the `id` of a `ContractKey`. -/
abbrev ContractInstanceId := Bytes32

/-- `ClientId`. -/
abbrev ClientId := Nat

/-- `AuthToken`, by the number of the page load that drew it. -/
abbrev AuthToken := Nat

/-- What `run_local_node` processes, in the order it does: page loads (their
`NewConnection`), other client connections, `Disconnect` requests, and
delegate registrations with their token and whether
`Runtime::register_delegate` succeeds. -/
inductive ServerEvent
  | pageLoad (key : ContractKey)
  | connect
  | disconnect (client : ClientId)
  | registerDelegate (token : Option AuthToken) (key : DelegateKey) (succeeds : Bool)
  | unregisterDelegate (token : Option AuthToken) (key : DelegateKey)
  deriving DecidableEq

/-- The gateway's `attested_contracts`, a `HashMap` as the list of its
entries; the executor's `delegate_attested_ids`, an absent entry as the
empty vector; and the two counters. -/
structure Attestation where
  attestedContracts : List (AuthToken × ContractInstanceId × ClientId)
  delegateAttestedIds : DelegateKey → List ContractInstanceId
  nextClientId : ClientId
  nextToken : AuthToken

namespace Attestation

/-- Nothing filed, and `CLIENT_ID` at 1. -/
def init : Attestation := ⟨[], fun _ => [], 1, 0⟩

/-- The contract of a request's token in `attested_contracts`. -/
def attestedContract (s : Attestation) (token : Option AuthToken) : Option ContractInstanceId :=
  token.bind fun t => (s.attestedContracts.find? (·.1 == t)).map (·.2.1)

/-- The `attested` that `delegate_request` passes to the delegate `key` for
a `GetSecretRequest` or `ApplicationMessages` request with `token`. -/
def attested (s : Attestation) (token : Option AuthToken) (key : DelegateKey) :
    Option ContractInstanceId :=
  (s.attestedContract token).bind fun c => (s.delegateAttestedIds key).find? (· == c)

/-- One event. -/
def step (s : Attestation) : ServerEvent → Attestation
  | .pageLoad key =>
      -- `HttpGateway::recv` on the `NewConnection` of `contract_home`
      { s with
        attestedContracts :=
          (s.nextToken, key.id, s.nextClientId) :: s.attestedContracts.filter (·.1 != s.nextToken)
        nextClientId := s.nextClientId + 1
        nextToken := s.nextToken + 1 }
  | .connect => { s with nextClientId := s.nextClientId + 1 }
  | .disconnect client =>
      match s.attestedContracts.find? (·.2.2 == client) with
      | some (t, _) => { s with attestedContracts := s.attestedContracts.filter (·.1 != t) }
      | none => s
  | .registerDelegate token key _ =>
      match s.attestedContract token with
      | some c =>
          { s with
            delegateAttestedIds :=
              Function.update s.delegateAttestedIds key (s.delegateAttestedIds key ++ [c]) }
      | none => s
  | .unregisterDelegate _ key =>
      { s with delegateAttestedIds := Function.update s.delegateAttestedIds key [] }

/-- The state after a history of events. -/
def run (s : Attestation) (h : List ServerEvent) : Attestation :=
  h.foldl step s

@[simp] theorem run_nil (s : Attestation) : s.run [] = s := rfl

@[simp] theorem run_concat (s : Attestation) (h : List ServerEvent) (e : ServerEvent) :
    s.run (h ++ [e]) = (s.run h).step e := by
  simp [run]

end Attestation

/-! ### The history's own account -/

/-- Page loads draw tokens. -/
def ServerEvent.drawsToken : ServerEvent → Bool
  | .pageLoad _ => true
  | _ => false

/-- Page loads and other connections take client ids. -/
def ServerEvent.takesClientId : ServerEvent → Bool
  | .pageLoad _ | .connect => true
  | _ => false

/-- The token the next page load draws. -/
def tokensDrawn (h : List ServerEvent) : AuthToken := h.countP (·.drawsToken)

/-- The client id the next connection takes. -/
def clientIdsTaken (h : List ServerEvent) : ClientId := 1 + h.countP (·.takesClientId)

/-- The page load that drew `t` was for `c` and registered `client`, and
`client` has not disconnected since. -/
def LiveToken (h : List ServerEvent) (t : AuthToken) (c : ContractInstanceId) (client : ClientId) :
    Prop :=
  Since h (fun pre e => (∃ key, e = .pageLoad key ∧ key.id = c) ∧ t = tokensDrawn pre ∧
    client = clientIdsTaken pre) (· = .disconnect client)

/-- `d` was registered, with an outcome `succeeded` allows, by a request
whose token was then live for `c`, and has not been unregistered since. -/
def RegisteredFor (h : List ServerEvent) (d : DelegateKey) (c : ContractInstanceId)
    (succeeded : Bool → Prop) : Prop :=
  Since h (fun pre e => ∃ t ok client, e = .registerDelegate (some t) d ok ∧ succeeded ok ∧
    LiveToken pre t c client) (fun e => ∃ t, e = .unregisterDelegate t d)

/-! ### The gateway's tokens -/

section Tokens

open Attestation

/-- What the gateway's map keeps: the counters are past every filed token
and client, and no two entries share a token or a client. -/
structure WellFiled (s : Attestation) : Prop where
  tokens_lt : ∀ e ∈ s.attestedContracts, e.1 < s.nextToken
  clients_lt : ∀ e ∈ s.attestedContracts, e.2.2 < s.nextClientId
  tokens_nodup : (s.attestedContracts.map (·.1)).Nodup
  clients_nodup : (s.attestedContracts.map (·.2.2)).Nodup

theorem WellFiled.filter {s : Attestation} (hw : WellFiled s)
    (p : AuthToken × ContractInstanceId × ClientId → Bool) :
    WellFiled { s with attestedContracts := s.attestedContracts.filter p } where
  tokens_lt e he := hw.tokens_lt e (List.mem_of_mem_filter he)
  clients_lt e he := hw.clients_lt e (List.mem_of_mem_filter he)
  tokens_nodup := hw.tokens_nodup.sublist (List.filter_sublist.map _)
  clients_nodup := hw.clients_nodup.sublist (List.filter_sublist.map _)

/-- An entry numbered by a counter, put in front of entries all numbered
below it: every number stays below the next counter, and the numbers stay
distinct. -/
theorem fresh_cons {α : Type} {l : List α} (f : α → Nat) (x : α) {n : Nat} (hx : f x = n)
    (hlt : ∀ e ∈ l, f e < n) (hnd : (l.map f).Nodup) :
    (∀ e ∈ x :: l, f e < n + 1) ∧ ((x :: l).map f).Nodup := by
  refine ⟨?_, List.nodup_cons.mpr ⟨?_, hnd⟩⟩
  · simp only [List.mem_cons, forall_eq_or_imp]
    exact ⟨hx ▸ Nat.lt_succ_self _, fun e he => Nat.lt_succ_of_lt (hlt e he)⟩
  · simp only [List.mem_map, not_exists, not_and]
    intro e he heq
    exact absurd (heq.trans hx) (Nat.ne_of_lt (hlt e he))

theorem step_wellFiled {s : Attestation} (hw : WellFiled s) (e : ServerEvent) :
    WellFiled (s.step e) := by
  cases e with
  | pageLoad key =>
      -- the new entry takes both counters, which no filed entry reaches
      have hf := hw.filter (·.1 != s.nextToken)
      let entry := (s.nextToken, key.id, s.nextClientId)
      obtain ⟨htok, htnd⟩ := fresh_cons (fun e : AuthToken × ContractInstanceId × ClientId => e.1)
        entry rfl hf.tokens_lt hf.tokens_nodup
      obtain ⟨hcli, hcnd⟩ := fresh_cons (fun e : AuthToken × ContractInstanceId × ClientId => e.2.2)
        entry rfl hf.clients_lt hf.clients_nodup
      exact ⟨htok, hcli, htnd, hcnd⟩
  | connect =>
      exact ⟨hw.tokens_lt, fun e he => Nat.lt_succ_of_lt (hw.clients_lt e he), hw.tokens_nodup,
        hw.clients_nodup⟩
  | disconnect client =>
      simp only [Attestation.step]
      split
      · exact hw.filter _
      · exact hw
  | registerDelegate token key ok =>
      simp only [Attestation.step]
      split
      · exact ⟨hw.1, hw.2, hw.3, hw.4⟩
      · exact hw
  | unregisterDelegate token key => exact ⟨hw.1, hw.2, hw.3, hw.4⟩

theorem run_wellFiled (h : List ServerEvent) : WellFiled (init.run h) := by
  induction h using List.reverseRecOn with
  | nil => exact ⟨by simp [init], by simp [init], by simp [init], by simp [init]⟩
  | append_singleton h e ih => rw [run_concat]; exact step_wellFiled ih e

theorem step_counters (s : Attestation) (e : ServerEvent) :
    (s.step e).nextToken = s.nextToken + (if e.drawsToken then 1 else 0) ∧
      (s.step e).nextClientId = s.nextClientId + (if e.takesClientId then 1 else 0) := by
  cases e with
  | disconnect client =>
      simp only [Attestation.step]
      split <;> simp [ServerEvent.drawsToken, ServerEvent.takesClientId]
  | registerDelegate token key ok =>
      simp only [Attestation.step]
      split <;> simp [ServerEvent.drawsToken, ServerEvent.takesClientId]
  | _ => simp [Attestation.step, ServerEvent.drawsToken, ServerEvent.takesClientId]

theorem run_counters (h : List ServerEvent) :
    (init.run h).nextToken = tokensDrawn h ∧ (init.run h).nextClientId = clientIdsTaken h := by
  induction h using List.reverseRecOn with
  | nil => exact ⟨rfl, rfl⟩
  | append_singleton h e ih =>
      obtain ⟨ht, hc⟩ := step_counters (init.run h) e
      rw [run_concat, ht, hc, ih.1, ih.2]
      simp only [tokensDrawn, clientIdsTaken, List.countP_append, List.countP_singleton,
        Nat.add_assoc, and_self]

/-- Two entries of a well-filed map with the same token, or the same client,
are the same entry. -/
theorem WellFiled.eq_of_token {s : Attestation} (hw : WellFiled s) {a b}
    (ha : a ∈ s.attestedContracts) (hb : b ∈ s.attestedContracts) (h : a.1 = b.1) : a = b :=
  List.inj_on_of_nodup_map hw.tokens_nodup ha hb h

theorem WellFiled.eq_of_client {s : Attestation} (hw : WellFiled s) {a b}
    (ha : a ∈ s.attestedContracts) (hb : b ∈ s.attestedContracts) (h : a.2.2 = b.2.2) : a = b :=
  List.inj_on_of_nodup_map hw.clients_nodup ha hb h

/-- A disconnect drops exactly the entry of its client. -/
theorem mem_step_disconnect {s : Attestation} (hw : WellFiled s) (client : ClientId)
    (e : AuthToken × ContractInstanceId × ClientId) :
    e ∈ (s.step (.disconnect client)).attestedContracts ↔
      e ∈ s.attestedContracts ∧ e.2.2 ≠ client := by
  simp only [Attestation.step]
  split
  · rename_i t rest hfind
    obtain ⟨hmem, hclient⟩ := (find?_key_eq_some (fun e : AuthToken × ContractInstanceId × ClientId => e.2.2)
      hw.clients_nodup client _).mp hfind
    simp only [List.mem_filter, bne_iff_ne, ne_eq]
    constructor
    · rintro ⟨he, hne⟩
      refine ⟨he, fun heq => hne ?_⟩
      rw [hw.eq_of_client he hmem (heq.trans hclient.symm)]
    · rintro ⟨he, hne⟩
      refine ⟨he, fun heq => hne ?_⟩
      rw [hw.eq_of_token he hmem heq, ← hclient]
  · rename_i hfind
    have hnone := List.find?_eq_none.mp hfind
    exact ⟨fun he => ⟨he, by simpa using hnone e he⟩, And.left⟩

/-- The gateway files exactly the live tokens. -/
theorem mem_run_attestedContracts (h : List ServerEvent) (t : AuthToken)
    (c : ContractInstanceId) (client : ClientId) :
    (t, c, client) ∈ (init.run h).attestedContracts ↔ LiveToken h t c client := by
  induction h using List.reverseRecOn with
  | nil => simp [init, LiveToken]
  | append_singleton h e ih =>
      have hw := run_wellFiled h
      obtain ⟨htok, hcli⟩ := run_counters h
      rw [run_concat, LiveToken, since_snoc, ← LiveToken, ← ih]
      cases e with
      | pageLoad key =>
          -- a filed token is below the counter, so it is not the new one
          have hold : (t, c, client) ∈ (init.run h).attestedContracts → t ≠ tokensDrawn h :=
            fun hm heq => absurd (htok ▸ hw.tokens_lt _ hm) (by simp [heq])
          simp only [Attestation.step, List.mem_cons, List.mem_filter, Prod.mk.injEq, htok, hcli]
          constructor
          · rintro (⟨rfl, rfl, rfl⟩ | ⟨hm, -⟩)
            · exact Or.inl ⟨⟨key, rfl, rfl⟩, rfl, rfl⟩
            · exact Or.inr ⟨hm, nofun⟩
          · rintro (⟨⟨key', hkey, rfl⟩, rfl, rfl⟩ | ⟨hm, -⟩)
            · cases hkey; exact Or.inl ⟨rfl, rfl, rfl⟩
            · exact Or.inr ⟨hm, by simpa using hold hm⟩
      | connect => simp [Attestation.step]
      | disconnect client' =>
          rw [mem_step_disconnect hw]
          simp [eq_comm]
      | registerDelegate token key ok =>
          simp only [Attestation.step]
          split <;> simp
      | unregisterDelegate token key => simp [Attestation.step]

/-- The contract a token attests is that of its live page load. -/
theorem run_attestedContract (h : List ServerEvent) (t : AuthToken) (c : ContractInstanceId) :
    (init.run h).attestedContract (some t) = some c ↔ ∃ client, LiveToken h t c client := by
  have hfind := find?_key_eq_some (fun e : AuthToken × ContractInstanceId × ClientId => e.1)
    (run_wellFiled h).tokens_nodup t
  simp only [attestedContract, Option.bind_some, Option.map_eq_some_iff, hfind]
  constructor
  · rintro ⟨⟨t', c', client⟩, ⟨hm, rfl⟩, rfl⟩
    exact ⟨client, (mem_run_attestedContracts h _ _ _).mp hm⟩
  · rintro ⟨client, hlive⟩
    exact ⟨(t, c, client), ⟨(mem_run_attestedContracts h _ _ _).mpr hlive, rfl⟩, rfl⟩

end Tokens

/-! ### The executor's delegate entries -/

section Delegates

open Attestation

/-- A delegate's entry holds the contracts of the registrations, successful
or not, whose token was then live, since its last unregistration. -/
theorem mem_run_delegateAttestedIds (h : List ServerEvent) (d : DelegateKey)
    (c : ContractInstanceId) :
    c ∈ (init.run h).delegateAttestedIds d ↔ RegisteredFor h d c (fun _ => True) := by
  induction h using List.reverseRecOn with
  | nil => simp [init, RegisteredFor]
  | append_singleton h e ih =>
      rw [run_concat, RegisteredFor, since_snoc, ← RegisteredFor, ← ih]
      cases e with
      | registerDelegate token key ok =>
          -- the registration counts when its token attests a contract now
          have hnow : (∃ t ok' client, ServerEvent.registerDelegate token key ok =
                .registerDelegate (some t) d ok' ∧ True ∧ LiveToken h t c client) ↔
              key = d ∧ (init.run h).attestedContract token = some c := by
            cases token with
            | none => simp [attestedContract]
            | some t => simp [run_attestedContract, and_comm]
          rw [hnow]
          simp only [Attestation.step]
          split
          · rename_i c' hc'
            by_cases hk : key = d
            · subst hk
              simp [hc', or_comm, eq_comm]
            · simp [Function.update_of_ne (Ne.symm hk), hk]
          · rename_i hnone
            simp [hnone]
      | unregisterDelegate token key =>
          by_cases hk : key = d
          · subst hk; simp [Attestation.step]
          · simp [Attestation.step, Function.update_of_ne (Ne.symm hk), hk]
      | pageLoad key => simp [Attestation.step]
      | connect => simp [Attestation.step]
      | disconnect client =>
          simp only [Attestation.step]
          split <;> simp

/-- A request to a delegate is attested by exactly the contracts whose page
load's client is still connected, and for which a registration of the
delegate, successful or not, carried a token then live, with no
unregistration since. -/
theorem attested_iff (h : List ServerEvent) (t : AuthToken) (d : DelegateKey)
    (c : ContractInstanceId) :
    (init.run h).attested (some t) d = some c ↔
      (∃ client, LiveToken h t c client) ∧ RegisteredFor h d c (fun _ => True) := by
  rw [← run_attestedContract, ← mem_run_delegateAttestedIds]
  simp only [attested, Option.bind_eq_some_iff, find?_beq_eq_some]
  constructor
  · rintro ⟨c', hc', rfl, hmem⟩
    exact ⟨hc', hmem⟩
  · rintro ⟨hc, hmem⟩
    exact ⟨c, hc, rfl, hmem⟩

/-- A delegate registered by a request without a token, and then again by a
request whose token a page load filed but where the runtime fails to
register it, is attested by that page's contract: no successful
registration carried the token. -/
theorem failed_registration_attests :
    let key : ContractKey := ⟨.replicate 1, none⟩
    let d : DelegateKey := (.replicate 5, .replicate 6)
    let h : List ServerEvent :=
      [.registerDelegate none d true, .pageLoad key, .registerDelegate (some 0) d false]
    (Attestation.init.run h).attested (some 0) d = some key.id ∧
      LiveToken h 0 key.id 1 ∧ ¬ RegisteredFor h d key.id (· = true) := by
  intro key d h
  have hsplit : h = [] ++ [.registerDelegate none d true] ++ [.pageLoad key] ++
      [.registerDelegate (some 0) d false] := rfl
  refine ⟨by decide, ?_, ?_⟩
  · rw [hsplit, LiveToken, since_snoc, since_snoc, since_snoc]
    simp [tokensDrawn, clientIdsTaken, ServerEvent.drawsToken, ServerEvent.takesClientId]
  · rw [hsplit, RegisteredFor, since_snoc, since_snoc, since_snoc]
    simp

end Delegates

end FreenetCore.Server
