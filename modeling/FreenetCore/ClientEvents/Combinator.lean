import Mathlib
import FreenetCore.Lib.IdTable

/-!
The combinator of client event sources (`client_events/combinator.rs`).

A node takes its client requests from several protocols at once (the
websocket and HTTP proxies, each a `ClientEventsProxy`). The combinator
runs one task (`client_fn`) per protocol, which passes the protocol's
requests to the combinator on a channel (`hosts_rx`) and its responses back
to the protocol (`clients`). The protocols name their clients by their own
ids; the combinator gives each pair of a protocol and its client id an id
of its own (`ClientId::next`) the first time a request of that client comes
in, files it in both directions (`external_clients`, `internal_clients`), and
hands the node the request under its own id. A response the node sends to
one of those ids goes to the protocol it came from, under the protocol's id.

`recv` polls the channels' `recv` futures through the module's own
`SelectAll`, which its comment says keeps their order; a channel is ready
when it holds a message or its task has ended. Its `find_map` stops at the
first future present, ready or not, and every future is present, so it polls
protocol `0`'s alone and never serves another protocol (`selectAllPoll`).
The model's `recv` takes the first ready channel in the order of the
protocols (`firstReady`). This over-approximates the code: whenever the
code's poll is ready, the model takes the same protocol
(`selectAllPoll_firstReady`), and it may also take from another protocol
while protocol `0` waits, which the code never does. The channels are bounded
by one message, so a task may wait before it sends; here every send goes
through at once, which again allows more runs than the code has. Every result
over the runs holds of those too, and so of the code's. The requests' other fields (the request, its notification channel
and token), the responses and the protocols' own errors are type parameters
the combinator passes on untouched.

`CLIENT_ID` is a `usize` counter shared with the other proxies, which draw
ids from it too; it wraps after `2^64` draws. Over every run in which it has
not wrapped, the two maps stay inverse to each other (an `IdTable.Good`
table), so a response the node sends to an id it was handed goes to the
protocol and client the request came from, no other client shares that id,
and an id it was never handed is refused (`responses_reach_their_client`).
-/

namespace FreenetCore.ClientEvents

/-- `ClientId`: a `usize`. -/
abbrev ClientId := Nat

/-- The number of values of a `usize`: `CLIENT_ID` wraps there. -/
def usizeModulus : Nat := 2 ^ 64

/-- `ClientId::next`: the value of `CLIENT_ID`, which `fetch_add` moves on,
wrapping. The counter is kept here as the number it would be without the
wrap. -/
def ClientId.next (clientIdCounter : Nat) : ClientId × Nat :=
  (clientIdCounter % usizeModulus, clientIdCounter + 1)

/-- The `ClientError`s the combinator makes, and those of the protocols it
passes on. -/
inductive ClientError (ε : Type)
  | transportProtocolDisconnect
  | unknownClient (id : ClientId)
  | client (e : ε)

/-- `OpenRequest`: the client's id, and the rest, which the combinator does
not read. -/
structure OpenRequest (ρ : Type) where
  clientId : ClientId
  rest : ρ

/-- `HostIncomingMsg`. -/
abbrev HostIncomingMsg (ρ ε : Type) := Except (ClientError ε) (OpenRequest ρ)

/-- `ClientEventsCombinator<N>`, with its channels: what each protocol's task
has sent on `hosts_rx` and `recv` has not taken, what the node has sent each
task on `clients`, with the protocol's client id, and whether each task has
ended (dropping its ends of both channels). -/
structure Combinator (n : Nat) (ρ ε η : Type) where
  hostsRx : Fin n → List (HostIncomingMsg ρ ε)
  clients : Fin n → List (ClientId × η)
  taskEnded : Fin n → Bool
  externalClients : Fin n → ClientId → Option ClientId
  internalClients : ClientId → Option (Fin n × ClientId)

namespace Combinator

variable {n : Nat} {ρ ε η : Type}

/-- `ClientEventsCombinator::new`: a task per protocol, no id filed. -/
def new : Combinator n ρ ε η :=
  ⟨fun _ => [], fun _ => [], fun _ => false, fun _ _ => none, fun _ => none⟩

/-- The protocol `select_all` takes a message from: the first, in the order
of the protocols, whose channel is ready. -/
def firstReady (c : Combinator n ρ ε η) : Option (Fin n) :=
  (List.finRange n).find? fun i => !(c.hostsRx i).isEmpty || c.taskEnded i

/-- `SelectAll::poll` as the code has it, over the futures `recv` gives it,
all present: `find_map` stops at the first future present, whether or not it
is ready, and the poll is ready only when that one is. -/
def selectAllPoll (c : Combinator n ρ ε η) : Option (Fin n) :=
  ((List.finRange n).findSome? fun i =>
    some (if !(c.hostsRx i).isEmpty || c.taskEnded i then some i else none)).join

theorem selectAllPoll_succ {k : Nat} (c : Combinator (k + 1) ρ ε η) :
    c.selectAllPoll = if !(c.hostsRx 0).isEmpty || c.taskEnded 0 then some 0 else none := by
  simp [selectAllPoll, List.finRange_succ]

/-- The code's poll, when ready, is ready with protocol `0`, the protocol
`firstReady` takes too: each `recv` the code completes is one the model's
`recv` makes. -/
theorem selectAllPoll_firstReady {c : Combinator n ρ ε η} {i : Fin n} (h : c.selectAllPoll = some i) :
    i.val = 0 ∧ c.firstReady = some i := by
  cases n with
  | zero => exact i.elim0
  | succ k =>
      rw [selectAllPoll_succ] at h
      by_cases hready : (!(c.hostsRx 0).isEmpty || c.taskEnded 0) = true
      · rw [if_pos hready, Option.some.injEq] at h
        subst h
        exact ⟨rfl, by simp [firstReady, List.finRange_succ, hready]⟩
      · rw [if_neg hready] at h
        cases h

/-- The id `recv` hands the node for a request of protocol `idx`: the one
filed for the client, or a new one from `CLIENT_ID`, filed both ways. -/
def mapExternal (c : Combinator n ρ ε η) (clientIdCounter : Nat) (idx : Fin n)
    (external : ClientId) : Combinator n ρ ε η × Nat × ClientId :=
  match c.externalClients idx external with
  | some id => (c, clientIdCounter, id)
  | none =>
      -- add a new mapped external client id
      let internal := (ClientId.next clientIdCounter).1
      ({ c with
          externalClients := Function.update c.externalClients idx
            (Function.update (c.externalClients idx) external (some internal))
          internalClients := Function.update c.internalClients internal (some (idx, external)) },
        (ClientId.next clientIdCounter).2, internal)

/-- `ClientEventsCombinator::recv`, with `CLIENT_ID`; `none` while no
channel is ready. A closed channel answers `TransportProtocolDisconnect`. -/
def recv (c : Combinator n ρ ε η) (clientIdCounter : Nat) :
    Option (Combinator n ρ ε η × Nat × HostIncomingMsg ρ ε) :=
  match c.firstReady with
  | none => none
  | some idx =>
      match c.hostsRx idx with
      | [] => some (c, clientIdCounter, .error .transportProtocolDisconnect)
      | msg :: rest =>
          let c := { c with hostsRx := Function.update c.hostsRx idx rest }
          match msg with
          | .error e => some (c, clientIdCounter, .error e)
          | .ok req =>
              match c.mapExternal clientIdCounter idx req.clientId with
              | (c, clientIdCounter, id) => some (c, clientIdCounter, .ok { req with clientId := id })

/-- `ClientEventsCombinator::send`: to the protocol and client the id was
filed for. -/
def send (c : Combinator n ρ ε η) (internal : ClientId) (response : η) :
    Combinator n ρ ε η × Except (ClientError ε) Unit :=
  match c.internalClients internal with
  | none => (c, .error (.unknownClient internal))
  | some (idx, external) =>
      if c.taskEnded idx then (c, .error .transportProtocolDisconnect)
      else ({ c with clients := Function.update c.clients idx (c.clients idx ++ [(external, response)]) },
        .ok ())

end Combinator

/-! ### Runs -/

/-- What happens around the combinator: a protocol's task passes on a
request, passes on the error that its client's channel closed and ends
(`ChannelClosed`), or ends on a failed send to its client; the node calls
`recv` or `send`; another proxy draws a `ClientId`. -/
inductive CombinatorEvent (n : Nat) (ρ ε η : Type)
  | request (idx : Fin n) (req : OpenRequest ρ)
  | channelClosed (idx : Fin n) (e : ε)
  | taskEnds (idx : Fin n)
  | recv
  | send (internal : ClientId) (response : η)
  | draw

/-- The combinator with `CLIENT_ID`, and the ids `recv` has handed the node
so far, each with the protocol and the client id of its request. -/
structure CombinatorWorld (n : Nat) (ρ ε η : Type) where
  comb : Combinator n ρ ε η
  clientIdCounter : Nat
  handedOut : List (ClientId × Fin n × ClientId)

namespace CombinatorWorld

variable {n : Nat} {ρ ε η : Type}

/-- What `recv` takes: the protocol, and the request's own client id when
the message is a request. -/
def taken (c : Combinator n ρ ε η) : Option (Fin n × Option ClientId) :=
  c.firstReady.bind fun idx =>
    match c.hostsRx idx with
    | [] => none
    | .error _ :: _ => some (idx, none)
    | .ok req :: _ => some (idx, some req.clientId)

/-- One event; `none` when it cannot happen (a task that has ended sends
nothing, `recv` waits while no channel is ready). -/
def step (w : CombinatorWorld n ρ ε η) : CombinatorEvent n ρ ε η → Option (CombinatorWorld n ρ ε η)
  | .request idx req =>
      if w.comb.taskEnded idx then none
      else some { w with comb := { w.comb with
        hostsRx := Function.update w.comb.hostsRx idx (w.comb.hostsRx idx ++ [.ok req]) } }
  | .channelClosed idx e =>
      if w.comb.taskEnded idx then none
      else some { w with comb := { w.comb with
        hostsRx := Function.update w.comb.hostsRx idx (w.comb.hostsRx idx ++ [.error (.client e)])
        taskEnded := Function.update w.comb.taskEnded idx true } }
  | .taskEnds idx =>
      some { w with comb := { w.comb with taskEnded := Function.update w.comb.taskEnded idx true } }
  | .recv =>
      match w.comb.recv w.clientIdCounter with
      | none => none
      | some (c, counter, res) =>
          let handed := match res, taken w.comb with
            | .ok req, some (idx, some external) => w.handedOut ++ [(req.clientId, idx, external)]
            | _, _ => w.handedOut
          some ⟨c, counter, handed⟩
  | .send internal response => some { w with comb := (w.comb.send internal response).1 }
  | .draw => some { w with clientIdCounter := w.clientIdCounter + 1 }

def run (w : CombinatorWorld n ρ ε η) : List (CombinatorEvent n ρ ε η) → Option (CombinatorWorld n ρ ε η)
  | [] => some w
  | e :: es => (w.step e).bind fun w' => w'.run es

/-- A new combinator, built when `CLIENT_ID` stands at any value. -/
def init (clientIdCounter : Nat) : CombinatorWorld n ρ ε η := ⟨.new, clientIdCounter, []⟩

end CombinatorWorld

/-! ### What `recv` does -/

namespace Combinator

variable {n : Nat} {ρ ε η : Type}

/-- The id table as one map from a protocol and its client id. -/
def idTable (c : Combinator n ρ ε η) : Fin n × ClientId → Option ClientId :=
  fun p => c.externalClients p.1 p.2

/-- Filing a client of a protocol is an update of the id table at the pair. -/
theorem idTable_update {c c' : Combinator n ρ ε η} {idx : Fin n} {external : ClientId}
    {v : Option ClientId}
    (h : c'.externalClients = Function.update c.externalClients idx
      (Function.update (c.externalClients idx) external v)) :
    c'.idTable = Function.update c.idTable (idx, external) v := by
  funext ⟨j, x⟩
  simp only [idTable, h]
  by_cases hj : j = idx
  · subst hj
    by_cases hx : x = external
    · subst hx
      simp
    · have hne : (j, x) ≠ (j, external) := fun e => hx (Prod.mk.inj e).2
      simp [idTable, Function.update_of_ne hx, Function.update_of_ne hne]
  · have hne : (j, x) ≠ (idx, external) := fun e => hj (Prod.mk.inj e).1
    simp [idTable, Function.update_of_ne hj, Function.update_of_ne hne]

/-- A client already filed keeps its id; a new one gets `CLIENT_ID`'s value,
filed both ways. -/
theorem mapExternal_cases (c : Combinator n ρ ε η) (k : Nat) (idx : Fin n) (external : ClientId) :
    (∃ id, c.externalClients idx external = some id ∧ c.mapExternal k idx external = (c, k, id)) ∨
      (c.externalClients idx external = none ∧
        c.mapExternal k idx external =
          ({ c with
              externalClients := Function.update c.externalClients idx
                (Function.update (c.externalClients idx) external (some (k % usizeModulus)))
              internalClients := Function.update c.internalClients (k % usizeModulus)
                (some (idx, external)) },
            k + 1, k % usizeModulus)) := by
  unfold mapExternal
  cases h : c.externalClients idx external with
  | some id => exact .inl ⟨id, rfl, rfl⟩
  | none => exact .inr ⟨rfl, rfl⟩

/-- What `recv` can do: from the first ready protocol, answer that its
channel is closed, pass on an error, or hand on a request under the id
`mapExternal` gives its client. -/
theorem recv_cases {c c' : Combinator n ρ ε η} {k k' : Nat} {res : HostIncomingMsg ρ ε}
    (h : c.recv k = some (c', k', res)) :
    ∃ idx, c.firstReady = some idx ∧
      ((c.hostsRx idx = [] ∧ c' = c ∧ k' = k ∧ res = .error .transportProtocolDisconnect) ∨
        (∃ e rest, c.hostsRx idx = .error e :: rest ∧
          c' = { c with hostsRx := Function.update c.hostsRx idx rest } ∧ k' = k ∧ res = .error e) ∨
        (∃ req rest id, c.hostsRx idx = .ok req :: rest ∧
          ({ c with hostsRx := Function.update c.hostsRx idx rest } : Combinator n ρ ε η).mapExternal
            k idx req.clientId = (c', k', id) ∧ res = .ok { req with clientId := id })) := by
  cases hr : c.firstReady with
  | none => simp [recv, hr] at h
  | some idx =>
      refine ⟨idx, rfl, ?_⟩
      cases hq : c.hostsRx idx with
      | nil =>
          simp only [recv, hr, hq, Option.some.injEq, Prod.mk.injEq] at h
          obtain ⟨rfl, rfl, rfl⟩ := h
          exact .inl ⟨rfl, rfl, rfl, rfl⟩
      | cons msg rest =>
          simp only [recv, hr, hq] at h
          cases msg with
          | error e =>
              simp only [Option.some.injEq, Prod.mk.injEq] at h
              obtain ⟨rfl, rfl, rfl⟩ := h
              exact .inr (.inl ⟨e, rest, rfl, rfl, rfl, rfl⟩)
          | ok req =>
              rcases hm : ({ c with hostsRx := Function.update c.hostsRx idx rest } :
                Combinator n ρ ε η).mapExternal k idx req.clientId with ⟨c₁, k₁, id⟩
              simp only [hm, Option.some.injEq, Prod.mk.injEq] at h
              obtain ⟨rfl, rfl, rfl⟩ := h
              exact .inr (.inr ⟨req, rest, id, rfl, hm, rfl⟩)

theorem send_filed {c : Combinator n ρ ε η} {internal external : ClientId} {idx : Fin n}
    (h : c.internalClients internal = some (idx, external)) (response : η) :
    c.send internal response =
      if c.taskEnded idx then (c, .error .transportProtocolDisconnect)
      else ({ c with clients := Function.update c.clients idx (c.clients idx ++ [(external, response)]) },
        .ok ()) := by
  simp [send, h]

theorem send_unfiled {c : Combinator n ρ ε η} {internal : ClientId} (h : c.internalClients internal = none)
    (response : η) : c.send internal response = (c, .error (.unknownClient internal)) := by
  simp [send, h]

/-- `recv` draws at most one id. -/
theorem recv_counter {c c' : Combinator n ρ ε η} {k k' : Nat} {res : HostIncomingMsg ρ ε}
    (h : c.recv k = some (c', k', res)) : k' = k ∨ k' = k + 1 := by
  obtain ⟨idx, -, hc⟩ := recv_cases h
  rcases hc with ⟨-, -, rfl, -⟩ | ⟨-, -, -, -, rfl, -⟩ | ⟨req, rest, id, -, hm, -⟩
  · exact .inl rfl
  · exact .inl rfl
  · rcases mapExternal_cases ({ c with hostsRx := Function.update c.hostsRx idx rest } :
        Combinator n ρ ε η) k idx req.clientId with ⟨_, -, hm'⟩ | ⟨-, hm'⟩ <;>
      rw [hm'] at hm <;> simp only [Prod.mk.injEq] at hm
    · exact .inl hm.2.1.symm
    · exact .inr hm.2.1.symm

end Combinator

/-! ### The id tables over runs -/

namespace CombinatorWorld

variable {n : Nat} {ρ ε η : Type} {w w' : CombinatorWorld n ρ ε η}

open Combinator

/-- The id tables are inverse with every id below `CLIENT_ID`, every id
handed out is filed for the client it was handed out for, and every id filed
was handed out. -/
structure Inv (w : CombinatorWorld n ρ ε η) : Prop where
  table : IdTable.Good w.comb.idTable w.comb.internalClients w.clientIdCounter
  handed : ∀ x ∈ w.handedOut, w.comb.internalClients x.1 = some x.2
  filed : ∀ id p, w.comb.internalClients id = some p → (id, p) ∈ w.handedOut

theorem inv_init (k : Nat) : (init k : CombinatorWorld n ρ ε η).Inv where
  table := IdTable.good_empty k
  handed x hx := by cases hx
  filed id p h := by cases h

/-- `CLIENT_ID` never goes back. -/
theorem step_counter {e : CombinatorEvent n ρ ε η} (h : w.step e = some w') :
    w.clientIdCounter ≤ w'.clientIdCounter := by
  cases e with
  | request idx req =>
      simp only [step] at h
      split at h
      · cases h
      · cases h; exact le_refl _
  | channelClosed idx e =>
      simp only [step] at h
      split at h
      · cases h
      · cases h; exact le_refl _
  | taskEnds idx => cases h; exact le_refl _
  | recv =>
      simp only [step] at h
      split at h
      · cases h
      · rename_i c counter res hrecv
        cases h
        rcases recv_counter hrecv with rfl | rfl
        · exact le_refl _
        · exact Nat.le_succ _
  | send internal response => cases h; exact le_refl _
  | draw => cases h; exact Nat.le_succ _

theorem run_counter {es : List (CombinatorEvent n ρ ε η)} (h : w.run es = some w') :
    w.clientIdCounter ≤ w'.clientIdCounter := by
  induction es generalizing w with
  | nil =>
      cases h
      exact le_refl _
  | cons e es ih =>
      simp only [CombinatorWorld.run, Option.bind_eq_some_iff] at h
      obtain ⟨w₁, h₁, hrest⟩ := h
      exact le_trans (step_counter h₁) (ih hrest)

/-- A step that leaves the id tables and the ids handed out keeps the
invariant, whatever it does to the channels and however it moves the
counter on. -/
theorem Inv.of_eq (hi : w.Inv) (hext : w'.comb.externalClients = w.comb.externalClients)
    (hint : w'.comb.internalClients = w.comb.internalClients)
    (hk : w.clientIdCounter ≤ w'.clientIdCounter) (hh : w'.handedOut = w.handedOut) : w'.Inv := by
  have htable : w'.comb.idTable = w.comb.idTable := by
    unfold Combinator.idTable
    rw [hext]
  refine ⟨?_, fun x hx => ?_, fun id p h => ?_⟩
  · rw [htable, hint]
    exact hi.table.mono hk
  · rw [hint]
    exact hi.handed x (hh ▸ hx)
  · rw [hh]
    exact hi.filed id p (hint ▸ h)

/-- A request whose client is filed already is handed on under its id. -/
theorem Inv.recv_filed (hi : w.Inv) {c : Combinator n ρ ε η} (idx : Fin n) {external id : ClientId}
    (hid : c.externalClients idx external = some id)
    (hext : c.externalClients = w.comb.externalClients) (hint : c.internalClients = w.comb.internalClients) :
    (⟨c, w.clientIdCounter, w.handedOut ++ [(id, idx, external)]⟩ : CombinatorWorld n ρ ε η).Inv := by
  have hrev : w.comb.internalClients id = some (idx, external) :=
    hi.table.rev_of_fwd (k := (idx, external)) (show w.comb.externalClients idx external = some id by
      rw [← hext]
      exact hid)
  have hi' : (⟨c, w.clientIdCounter, w.handedOut⟩ : CombinatorWorld n ρ ε η).Inv :=
    hi.of_eq hext hint (le_refl _) rfl
  refine ⟨hi'.table, fun x hx => ?_, fun id' p h => List.mem_append_left _ (hi'.filed id' p h)⟩
  rcases List.mem_append.mp hx with hx | hx
  · exact hi'.handed x hx
  · rw [List.mem_singleton.mp hx, hint]
    exact hrev

/-- A request of a client not filed yet is handed on under the counter's
value, which no id filed has, so long as the counter has not wrapped. -/
theorem Inv.recv_new (hi : w.Inv) {c : Combinator n ρ ε η} (idx : Fin n) {external : ClientId}
    (hnone : c.externalClients idx external = none)
    (hext : c.externalClients = w.comb.externalClients) (hint : c.internalClients = w.comb.internalClients)
    (hb : w.clientIdCounter < usizeModulus) :
    (⟨{ c with
        externalClients := Function.update c.externalClients idx
          (Function.update (c.externalClients idx) external (some (w.clientIdCounter % usizeModulus)))
        internalClients := Function.update c.internalClients (w.clientIdCounter % usizeModulus)
          (some (idx, external)) },
      w.clientIdCounter + 1,
      w.handedOut ++ [(w.clientIdCounter % usizeModulus, idx, external)]⟩ : CombinatorWorld n ρ ε η).Inv := by
  rw [Nat.mod_eq_of_lt hb]
  have hi' : (⟨c, w.clientIdCounter, w.handedOut⟩ : CombinatorWorld n ρ ε η).Inv :=
    hi.of_eq hext hint (le_refl _) rfl
  have hfresh : c.internalClients w.clientIdCounter = none := hi'.table.rev_next
  refine ⟨?_, fun x hx => ?_, fun id p h => ?_⟩
  · rw [Combinator.idTable_update (c := c) rfl]
    exact hi'.table.assign hnone
  · rcases List.mem_append.mp hx with hx | hx
    · -- an id handed out before is filed, so it is not the counter's value
      have hold := hi'.handed x hx
      have hne : x.1 ≠ w.clientIdCounter := fun e => by rw [e, hfresh] at hold; cases hold
      simp only [Function.update_of_ne hne]
      exact hold
    · rw [List.mem_singleton.mp hx]
      simp
  · by_cases e : id = w.clientIdCounter
    · subst e
      simp only [Function.update_self, Option.some.injEq] at h
      subst h
      exact List.mem_append_right _ (List.mem_singleton_self _)
    · simp only [Function.update_of_ne e] at h
      exact List.mem_append_left _ (hi'.filed id p h)

theorem taken_of_request {c : Combinator n ρ ε η} {idx : Fin n} {req : OpenRequest ρ}
    {rest : List (HostIncomingMsg ρ ε)} (hf : c.firstReady = some idx)
    (hq : c.hostsRx idx = .ok req :: rest) : taken c = some (idx, some req.clientId) := by
  simp [taken, hf, hq]

/-- Every event keeps the invariant, so long as the counter has not wrapped
by its end. -/
theorem Inv.step (hi : w.Inv) {e : CombinatorEvent n ρ ε η} (h : w.step e = some w')
    (hb : w'.clientIdCounter ≤ usizeModulus) : w'.Inv := by
  cases e with
  | request idx req =>
      simp only [CombinatorWorld.step] at h
      split at h
      · cases h
      · cases h
        exact hi.of_eq rfl rfl (le_refl _) rfl
  | channelClosed idx e =>
      simp only [CombinatorWorld.step] at h
      split at h
      · cases h
      · cases h
        exact hi.of_eq rfl rfl (le_refl _) rfl
  | taskEnds idx =>
      cases h
      exact hi.of_eq rfl rfl (le_refl _) rfl
  | send internal response =>
      cases h
      -- `send` only writes to a protocol's channel
      have hs : (w.comb.send internal response).1.externalClients = w.comb.externalClients ∧
          (w.comb.send internal response).1.internalClients = w.comb.internalClients := by
        unfold Combinator.send
        split
        · exact ⟨rfl, rfl⟩
        · split <;> exact ⟨rfl, rfl⟩
      exact hi.of_eq hs.1 hs.2 (le_refl _) rfl
  | draw =>
      cases h
      exact hi.of_eq rfl rfl (Nat.le_succ _) rfl
  | recv =>
      simp only [CombinatorWorld.step] at h
      split at h
      · cases h
      · rename_i c counter res hrecv
        cases h
        obtain ⟨idx, hf, hc⟩ := recv_cases hrecv
        rcases hc with ⟨-, rfl, rfl, rfl⟩ | ⟨e, rest, -, rfl, rfl, rfl⟩ | ⟨req, rest, id, hq, hm, rfl⟩
        · exact hi.of_eq rfl rfl (le_refl _) rfl
        · exact hi.of_eq rfl rfl (le_refl _) rfl
        · simp only [taken_of_request hf hq]
          rcases mapExternal_cases ({ w.comb with hostsRx := Function.update w.comb.hostsRx idx rest } :
              Combinator n ρ ε η) w.clientIdCounter idx req.clientId with ⟨id₀, hid, hm'⟩ | ⟨hnone, hm'⟩ <;>
            rw [hm'] at hm <;> simp only [Prod.mk.injEq] at hm <;> obtain ⟨rfl, rfl, rfl⟩ := hm
          · exact hi.recv_filed idx hid rfl rfl
          · -- a new id: the counter has not wrapped before this draw
            exact hi.recv_new idx hnone rfl rfl (Nat.lt_of_succ_le hb)

/-- The invariant over runs, by induction on the events. -/
theorem Inv.run (hi : w.Inv) {es : List (CombinatorEvent n ρ ε η)} (h : w.run es = some w')
    (hb : w'.clientIdCounter ≤ usizeModulus) : w'.Inv := by
  induction es generalizing w with
  | nil =>
      cases h
      exact hi
  | cons e es ih =>
      simp only [CombinatorWorld.run, Option.bind_eq_some_iff] at h
      obtain ⟨w₁, h₁, hrest⟩ := h
      have hle : w₁.clientIdCounter ≤ w'.clientIdCounter := run_counter hrest
      exact ih (hi.step h₁ (le_trans hle hb)) hrest

/-- Over every run of the combinator from its creation in which `CLIENT_ID`
has not wrapped, the ids `recv` handed the node name one client each: a
response sent to one of them goes to the protocol of the request it was
handed for, under that request's client id (or fails as a disconnection
when the protocol's task has ended); two ids handed out are the same exactly
when they were handed for the same client of the same protocol; and a
response to an id never handed out is refused as `UnknownClient`. -/
theorem responses_reach_their_client {k : Nat} {es : List (CombinatorEvent n ρ ε η)}
    (h : (init k).run es = some w) (hb : w.clientIdCounter ≤ usizeModulus) (internal : ClientId)
    (response : η) :
    (∀ idx external, (internal, idx, external) ∈ w.handedOut →
      w.comb.send internal response =
        if w.comb.taskEnded idx then (w.comb, .error .transportProtocolDisconnect)
        else ({ w.comb with
            clients := Function.update w.comb.clients idx (w.comb.clients idx ++ [(external, response)]) },
          .ok ())) ∧
    (∀ x ∈ w.handedOut, ∀ y ∈ w.handedOut, x.1 = y.1 ↔ x.2 = y.2) ∧
    ((∀ x ∈ w.handedOut, x.1 ≠ internal) →
      w.comb.send internal response = (w.comb, .error (.unknownClient internal))) := by
  have hi : w.Inv := (inv_init k).run h hb
  refine ⟨fun idx external hx => Combinator.send_filed (hi.handed _ hx) response,
    fun x hx y hy => ⟨fun e => ?_, fun e => ?_⟩, fun hnot => ?_⟩
  · -- one id is filed for one client
    have hxy := (hi.handed x hx).symm.trans (e ▸ hi.handed y hy)
    exact Option.some.inj hxy
  · -- one client is filed under one id
    have hx' := (hi.table.inverse x.2 x.1).mpr (hi.handed x hx)
    have hy' := (hi.table.inverse y.2 y.1).mpr (hi.handed y hy)
    rw [e] at hx'
    exact Option.some.inj (hx'.symm.trans hy')
  · cases hf : w.comb.internalClients internal with
    | none => exact Combinator.send_unfiled hf response
    | some p => exact absurd rfl (hnot _ (hi.filed internal p hf))

theorem responses_reach_their_client_web :
    ∃ w : CombinatorWorld 2 Unit Unit Unit,
      (init 5).run [.request 0 ⟨7, ()⟩, .recv] = some w ∧ w.clientIdCounter ≤ usizeModulus ∧
        (w.comb.send 5 ()).1.clients 0 = [(7, ())] := by
  -- protocol `0`'s client `7` sends a request, which `recv` hands on under `5`
  let w := ((init 5 : CombinatorWorld 2 Unit Unit Unit).run [.request 0 ⟨7, ()⟩, .recv]).get rfl
  have h : (init 5).run [.request 0 ⟨7, ()⟩, .recv] = some w := (Option.some_get _).symm
  have hb : w.clientIdCounter ≤ usizeModulus := show 6 ≤ 2 ^ 64 by decide
  have hmem : (5, 0, 7) ∈ w.handedOut := show (5, 0, 7) ∈ [(5 % 2 ^ 64, 0, 7)] by decide
  refine ⟨w, h, hb, ?_⟩
  rw [(responses_reach_their_client h hb 5 ()).1 0 7 hmem]
  rfl

end CombinatorWorld

end FreenetCore.ClientEvents
