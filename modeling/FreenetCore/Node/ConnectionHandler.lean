import FreenetCore.Node.OpManager
import FreenetCore.Lib.Vec

/-!
The connection handler of the libp2p transport (`node/network_bridge/p2p_protoc.rs`).

The swarm gives each connection to a peer a `Handler`. The node's outbound
messages reach it through the behaviour (`on_behaviour_event`): a message goes
to a free substream if there is one, and otherwise waits in a new
`OutPendingOpen`. The swarm reports negotiated substreams
(`on_connection_event`): an inbound one takes the place of a substream
awaiting its first outbound negotiation if there is one, an outbound one
must find such a place (`unreachable!()` otherwise). Between those calls the
swarm polls the handler (`poll`), which walks its substreams from the last to
the first, `swap_remove`-ing each and running it as far as it goes: an
`OutPendingOpen` asks for an outbound substream and leaves its message on the
`pending` stack, a free substream takes the top of that stack and sends it,
and a substream waiting for a message hands what it reads to the behaviour.

Around each send and each message read the handler takes the transaction's
operation out of the node's `OpManager` and pushes it back (`pop`,
`record_transfer`, `push`). `pop` files the transaction under progress
whether or not it finds an operation, and the handler pushes back only what
it found: a message of a transaction the node does not hold leaves that
transaction under progress, where the collector never learns of it, so the
event loop's task for the message finds it running until it times out
(`inbound_unknown_never_popped`). A `push` whose first poll does not complete
returns `Poll::Pending` with the substream it was serving dropped, and with
it the message being sent or read.

What the sinks and streams of the substreams answer, and whether a `push`
completes at once, is the environment's: each poll takes those answers in
the order of its calls (`Answer`). Over any run, whatever the answers, the
handler writes no message twice and none it was not given
(`messages_written_at_most_once`).
-/

namespace FreenetCore.Node

open MachineInt

/-- `ConnectionError`, as the handler reports it: an error of a substream or
of an upgrade (of any type `ε`), or the `UnexpectedEof` of a substream that
ended. -/
inductive ConnectionError (ε : Type)
  | stream (e : ε)
  | unexpectedEof

/-- The `NodeEvent`s the handler tells apart: `ConfirmedInbound`, `Error`,
and the others, which it only passes on. -/
inductive NodeEvent (ε : Type)
  | confirmedInbound
  | error (e : ConnectionError ε)
  | other

/-- `HandlerEvent`. -/
inductive HandlerEvent (μ ε : Type)
  | inbound (msg : μ ⊕ NodeEvent ε)
  | outbound (msg : μ ⊕ NodeEvent ε)

/-- `ProtocolStatus`. -/
inductive ProtocolStatus
  | unconfirmed
  | confirmed
  | reported
  | failed
  deriving DecidableEq

/-- `SubstreamState`, without the substream itself: what its sink and stream
do is the environment's answer. -/
inductive SubstreamState (μ ε : Type)
  | outPendingOpen (msg : μ) (connId : Nat)
  | awaitingFirst (connId : Nat)
  | freeStream (connId : Nat)
  | pendingSend (connId : Nat) (msg : μ ⊕ NodeEvent ε)
  | pendingFlush (connId : Nat) (opId : Option Transaction)
  | waitingMsg (connId : Nat)
  | reportError (error : ConnectionError ε)

namespace SubstreamState

variable {μ ε : Type}

def isFreeStream : SubstreamState μ ε → Bool
  | .freeStream _ => true
  | _ => false

def isAwaitingFirst : SubstreamState μ ε → Bool
  | .awaitingFirst _ => true
  | _ => false

/-- The message a substream holds for sending. -/
def held : SubstreamState μ ε → List μ
  | .outPendingOpen msg _ => [msg]
  | .pendingSend _ (.inl msg) => [msg]
  | _ => []

end SubstreamState

/-- `Handler`, without its `op_manager`, which the node shares. `pending` is
a `Vec` used as a stack, kept here top first. -/
structure Handler (μ ε : Type) where
  substreams : List (SubstreamState μ ε)
  uniqConnId : Nat
  protocolStatus : ProtocolStatus
  pending : List μ

/-- `Handler::new`. -/
def Handler.new {μ ε : Type} : Handler μ ε := ⟨[], 0, .unconfirmed, []⟩

/-- What `poll` returns when it is ready (`ConnectionHandlerEvent`). -/
inductive PollEvent (μ ε : Type)
  | outboundSubstreamRequest
  | notifyBehaviour (ev : HandlerEvent μ ε)

/-- The event that reports a connection error to the behaviour. -/
def PollEvent.error {μ ε : Type} (e : ConnectionError ε) : PollEvent μ ε :=
  .notifyBehaviour (.inbound (.inr (.error e)))

/-- The answer of the environment to one call the handler makes while it
polls: `Sink::poll_ready`, `Sink::start_send`, `Sink::poll_flush` and
`Stream::poll_next` of a substream (`none` is `Poll::Pending`), and whether
the first poll of an op manager `push` completes (its send on
`new_transactions` finds room). -/
inductive Answer (μ ε : Type)
  | ready (r : Option (Except ε Unit))
  | startSend (r : Except ε Unit)
  | flush (r : Option (Except ε Unit))
  | next (r : Option (Option (Except ε μ)))
  | push (completes : Bool)

/-- What the handler reads of a `NetMessage` (`id`, `track_stats`,
`terminal`) and does to an operation (`record_transfer`), with what the op
manager's `push` needs of an operation (its variant and the build). -/
structure Wire (μ ω : Type) where
  id : μ → Transaction
  trackStats : μ → Bool
  terminal : μ → Bool
  recordTransfer : ω → ω
  opType : ω → TransactionType
  profile : Profile

/-- What a poll carries from one substream to the next: the `pending` stack,
the op manager, the answers not used yet, and the messages written so far. -/
structure PollCtx (μ ε ω : Type) where
  pending : List μ
  ops : OpManager ω
  answers : List (Answer μ ε)
  sent : List μ

section Poll

variable {μ ε ω : Type} (w : Wire μ ω) (now : Nat)

/-- The first poll of `op_manager.push(id, op)`, and whether it completed.
Its `under_progress` removal (and the completion of a timed-out id) happens
at once; the send on `new_transactions` and the insertion after it happen
only if the send completes, and a future that does not complete is
dropped. -/
def pushPoll (m : OpManager ω) (id : Transaction) (op : ω) (completes : Bool) :
    Option (OpManager ω × Bool) :=
  if (m.ops.underProgress id && id.timedOut now) || completes then
    (m.push w.opType w.profile id op now).map fun r => (r.1, true)
  else some ({ m with ops := m.ops.setUnderProgress id false }, false)

/-- `if let Ok(Some(mut op)) = op_manager.pop(id)`, then `record_transfer`
and the first poll of `push`; `false` is the `return Poll::Pending` of a
push that did not complete. `none` is a `pop` of an id with no type. -/
def trackTransfer (c : PollCtx μ ε ω) (id : Transaction) : Option (PollCtx μ ε ω × Bool) :=
  match c.ops.pop id now with
  | none => none
  | some (m, .ok (some op)) =>
      match c.answers with
      | .push completes :: rest =>
          (pushPoll w now m id (w.recordTransfer op) completes).map fun r =>
            ({ c with ops := r.1, answers := rest }, r.2)
      | _ => none
  | some (m, _) => some ({ c with ops := m }, true)

/-- `trackTransfer` of the transaction there is one for: the message's when
it `track_stats()`, the `op_id` of a flush. -/
def trackSome : Option Transaction → PollCtx μ ε ω → Option (PollCtx μ ε ω × Bool)
  | some id, c => trackTransfer w now c id
  | none, c => some (c, true)

theorem trackTransfer_answers_le {c c' : PollCtx μ ε ω} {id : Transaction} {b : Bool}
    (h : trackTransfer w now c id = some (c', b)) : c'.answers.length ≤ c.answers.length := by
  unfold trackTransfer at h
  split at h
  · cases h
  · split at h
    · rename_i hc
      obtain ⟨r, -, hr⟩ := Option.map_eq_some_iff.mp h
      cases hr
      simp [hc]
    · cases h
  · cases h
    exact le_refl _

theorem trackSome_answers_le {id? : Option Transaction} {c c' : PollCtx μ ε ω} {b : Bool}
    (h : trackSome w now id? c = some (c', b)) : c'.answers.length ≤ c.answers.length := by
  cases id? with
  | some id => exact trackTransfer_answers_le w now h
  | none =>
      cases h
      exact le_refl _

/-- How the inner `loop` over one swap-removed substream ends. -/
inductive Turn (μ ε : Type)
  /-- `break`, with the substream pushed back in the state given -/
  | keep (st : SubstreamState μ ε)
  /-- `break`, with the substream dropped -/
  | drop
  /-- `return Poll::Ready(ev)`, after pushing back what is given -/
  | ready (back : Option (SubstreamState μ ε)) (ev : PollEvent μ ε)
  /-- `return Poll::Pending` from a push that did not complete; the substream is dropped -/
  | pending

/-- A free substream `continue`s as the `PendingSend` of the top pending
message without waiting for an answer; every other turn of the loop uses one. -/
def SubstreamState.rank : SubstreamState μ ε → Nat
  | .freeStream _ => 1
  | _ => 0

/-- What one pass of the loop body does with a substream: `continue` with it
in a new state, or leave the loop as the turn says. -/
inductive Pass (μ ε ω : Type)
  | next (c : PollCtx μ ε ω) (st : SubstreamState μ ε)
  | done (c : PollCtx μ ε ω) (t : Turn μ ε)

/-- One pass of the body of the inner `loop` of `poll`; `none` is an answer
that does not fit the call (the environment's answers are not a run) or a
`pop` of an id with no type. -/
def loopBody (c : PollCtx μ ε ω) : SubstreamState μ ε → Option (Pass μ ε ω)
  | .outPendingOpen msg connId =>
      some (.done { c with pending := msg :: c.pending }
        (.ready (some (.awaitingFirst connId)) .outboundSubstreamRequest))
  | .awaitingFirst connId => some (.done c (.keep (.awaitingFirst connId)))
  | .freeStream connId =>
      match c.pending with
      | msg :: rest => some (.next { c with pending := rest } (.pendingSend connId (.inl msg)))
      | [] => some (.done c (.keep (.waitingMsg connId)))
  | .pendingSend connId msg =>
      match c.answers with
      | .ready none :: rest => some (.next { c with answers := rest } (.pendingSend connId msg))
      | .ready (some (.error e)) :: rest =>
          some (.done { c with answers := rest } (.ready none (.error (.stream e))))
      | .ready (some (.ok ())) :: rest =>
          match msg with
          | .inr .confirmedInbound => some (.next { c with answers := rest } (.freeStream connId))
          | .inr _ => some (.done { c with answers := rest } .drop)
          | .inl m =>
              match trackSome w now (if w.trackStats m then some (w.id m) else none)
                  { c with answers := rest } with
              | none => none
              | some (c₁, false) => some (.done c₁ .pending)
              | some (c₁, true) =>
                  match c₁.answers with
                  | .startSend (.ok ()) :: rest₁ =>
                      some (.next { c₁ with answers := rest₁, sent := c₁.sent ++ [m] }
                        (.pendingFlush connId (some (w.id m))))
                  | .startSend (.error e) :: rest₁ =>
                      some (.done { c₁ with answers := rest₁ } (.ready none (.error (.stream e))))
                  | _ => none
      | _ => none
  | .pendingFlush connId opId =>
      match c.answers with
      | .flush none :: rest => some (.done { c with answers := rest } (.keep (.pendingFlush connId opId)))
      | .flush (some (.error e)) :: rest =>
          some (.done { c with answers := rest } (.ready none (.error (.stream e))))
      | .flush (some (.ok ())) :: rest =>
          match trackSome w now opId { c with answers := rest } with
          | none => none
          | some (c₁, false) => some (.done c₁ .pending)
          | some (c₁, true) => some (.next c₁ (.waitingMsg connId))
      | _ => none
  | .waitingMsg connId =>
      match c.answers with
      | .next none :: rest => some (.done { c with answers := rest } (.keep (.waitingMsg connId)))
      | .next (some (some (.ok m))) :: rest =>
          match trackTransfer w now { c with answers := rest } (w.id m) with
          | none => none
          | some (c₁, false) => some (.done c₁ .pending)
          | some (c₁, true) =>
              -- a message that is not the last of its exchange leaves the substream free
              some (.done c₁ (.ready (if w.terminal m then none else some (.freeStream connId))
                (.notifyBehaviour (.inbound (.inl m)))))
      | .next (some (some (.error e))) :: rest =>
          some (.done { c with answers := rest } (.ready none (.error (.stream e))))
      | .next (some none) :: rest =>
          some (.done { c with answers := rest } (.ready none (.error .unexpectedEof)))
      | _ => none
  | .reportError error => some (.done c (.ready none (.error error)))

/-- A pass that `continue`s has used an answer, or turned a free substream
into the `PendingSend` of the top pending message. -/
theorem loopBody_next_lt {c c' : PollCtx μ ε ω} {st st' : SubstreamState μ ε}
    (h : loopBody w now c st = some (.next c' st')) :
    Prod.Lex (· < ·) (· < ·) (c'.answers.length, st'.rank) (c.answers.length, st.rank) := by
  cases st with
  | freeStream connId =>
      simp only [loopBody] at h
      split at h <;> cases h
      exact Prod.Lex.right _ (by simp [SubstreamState.rank])
  | pendingSend connId msg =>
      simp only [loopBody] at h
      split at h
      · cases h
        exact Prod.Lex.left _ _ (by simp_all)
      · cases h
      · rename_i rest hc
        split at h
        · cases h
          exact Prod.Lex.left _ _ (by simp_all)
        · cases h
        · split at h
          · cases h
          · cases h
          · rename_i c₁ ht
            have hle := trackSome_answers_le w now ht
            split at h
            · cases h
              rename_i rest₁ hs
              rw [hs] at hle
              exact Prod.Lex.left _ _ (by simp_all; omega)
            · cases h
            · cases h
      · cases h
  | pendingFlush connId opId =>
      simp only [loopBody] at h
      split at h
      · cases h
      · cases h
      · rename_i rest hc
        split at h
        · cases h
        · cases h
        · rename_i c₁ ht
          cases h
          have hle := trackSome_answers_le w now ht
          exact Prod.Lex.left _ _ (by simp_all)
      · cases h
  | waitingMsg connId =>
      simp only [loopBody] at h
      split at h <;> (try split at h) <;> cases h
  | outPendingOpen msg connId => cases h
  | awaitingFirst connId => cases h
  | reportError error => cases h

set_option linter.unusedVariables false in
/-- The inner `loop` of `poll` over one substream: passes of its body until
one leaves it. -/
def streamLoop (c : PollCtx μ ε ω) (st : SubstreamState μ ε) : Option (PollCtx μ ε ω × Turn μ ε) :=
  match h : loopBody w now c st with
  | none => none
  | some (.done c t) => some (c, t)
  | some (.next c' st') => streamLoop c' st'
termination_by (c.answers.length, st.rank)
decreasing_by exact loopBody_next_lt w now h

theorem streamLoop_of_next {c c' : PollCtx μ ε ω} {st st' : SubstreamState μ ε}
    (h : loopBody w now c st = some (.next c' st')) : streamLoop w now c st = streamLoop w now c' st' := by
  rw [streamLoop]
  split <;> simp_all

theorem streamLoop_of_done {c c' : PollCtx μ ε ω} {st : SubstreamState μ ε} {t : Turn μ ε}
    (h : loopBody w now c st = some (.done c' t)) : streamLoop w now c st = some (c', t) := by
  rw [streamLoop]
  split <;> simp_all

/-- The `for n in (0..len).rev()` loop of `poll`, from index `n - 1` down:
each substream is `swap_remove`d and run, and pushed back at the end if its
turn keeps it. What it returns is the event of a `return Poll::Ready`, or
nothing (`Poll::Pending`). -/
def pollStreams : Nat → List (SubstreamState μ ε) × PollCtx μ ε ω →
    Option ((List (SubstreamState μ ε) × PollCtx μ ε ω) × Option (PollEvent μ ε))
  | 0, s => some (s, none)
  | n + 1, (subs, c) =>
      match subs[n]? with
      | none => none
      | some st =>
          let subs := Vec.swapRemove subs n
          match streamLoop w now c st with
          | none => none
          | some (c, .keep st) => pollStreams n (subs ++ [st], c)
          | some (c, .drop) => pollStreams n (subs, c)
          | some (c, .ready back ev) => some ((subs ++ back.toList, c), some ev)
          | some (c, .pending) => some ((subs, c), none)

/-- `poll`: the handler and op manager after it, the messages it wrote, and
the event it returns when ready. -/
def Handler.poll (h : Handler μ ε) (m : OpManager ω) (answers : List (Answer μ ε)) :
    Option (Handler μ ε × OpManager ω × List μ × Option (PollEvent μ ε)) :=
  if h.substreams.isEmpty then some (h, m, [], none)
  else if h.protocolStatus = .confirmed then
    some ({ h with protocolStatus := .reported }, m, [],
      some (.notifyBehaviour (.outbound (.inr .confirmedInbound))))
  else
    (pollStreams w now h.substreams.length (h.substreams, ⟨h.pending, m, answers, []⟩)).map
      fun r => ({ h with substreams := r.1.1, pending := r.1.2.pending }, r.1.2.ops, r.1.2.sent, r.2)

end Poll

section Events

variable {μ ε : Type}

/-- `position` of the first substream `p` picks, `swap_remove` of it, and
the `conn_id` it had; `none` is the `unreachable!()` of a position whose
substream is not the one sought. -/
def takeFirst (p : SubstreamState μ ε → Bool) (get : SubstreamState μ ε → Option Nat)
    (subs : List (SubstreamState μ ε)) : Option (Option (Nat × List (SubstreamState μ ε))) :=
  match subs.findIdx? p with
  | none => some none
  | some pos =>
      match subs[pos]? >>= get with
      | none => none
      | some connId => some (some (connId, Vec.swapRemove subs pos))

def SubstreamState.freeStreamId? : SubstreamState μ ε → Option Nat
  | .freeStream connId => some connId
  | _ => none

def SubstreamState.awaitingFirstId? : SubstreamState μ ε → Option Nat
  | .awaitingFirst connId => some connId
  | _ => none

/-- `send_to_free_substream`: the message goes to the first free substream,
as its `PendingSend`, or is given back. -/
def Handler.sendToFreeSubstream (h : Handler μ ε) (msg : μ) : Option (Handler μ ε × Option μ) :=
  (takeFirst SubstreamState.isFreeStream SubstreamState.freeStreamId? h.substreams).map fun
    | some (connId, subs) => ({ h with substreams := subs ++ [.pendingSend connId (.inl msg)] }, none)
    | none => (h, some msg)

/-- `on_behaviour_event`; `none` is the `unreachable!()` of an inbound event. -/
def Handler.onBehaviourEvent (h : Handler μ ε) : HandlerEvent μ ε → Option (Handler μ ε)
  | .outbound (.inl msg) =>
      (h.sendToFreeSubstream msg).map fun
        | (h, some msg) =>
            -- no free substream: open a new one
            { h with substreams := h.substreams ++ [.outPendingOpen msg h.uniqConnId],
                     uniqConnId := h.uniqConnId + 1 }
        | (h, none) => h
  | .outbound (.inr _) => some h
  | .inbound _ => none

/-- The `ConnectionEvent`s of the swarm. -/
inductive ConnectionEvent (ε : Type)
  | fullyNegotiatedInbound
  | fullyNegotiatedOutbound
  | addressChange
  | dialUpgradeError (error : ε)
  | listenUpgradeError (error : ε)
  | localProtocolsChange
  | remoteProtocolsChange

/-- `on_connection_event`; `none` is an `unreachable!()`. -/
def Handler.onConnectionEvent (h : Handler μ ε) : ConnectionEvent ε → Option (Handler μ ε)
  | .fullyNegotiatedInbound =>
      (takeFirst SubstreamState.isAwaitingFirst SubstreamState.awaitingFirstId? h.substreams).map fun r =>
        let h := match r with
          | some (connId, subs) => { h with substreams := subs ++ [.freeStream connId] }
          | none => { h with substreams := h.substreams ++ [.waitingMsg h.uniqConnId],
                             uniqConnId := h.uniqConnId + 1 }
        if h.protocolStatus = .unconfirmed then { h with protocolStatus := .confirmed } else h
  | .fullyNegotiatedOutbound =>
      match takeFirst SubstreamState.isAwaitingFirst SubstreamState.awaitingFirstId? h.substreams with
      | some (some (connId, subs)) => some { h with substreams := subs ++ [.freeStream connId] }
      | _ => none
  | .addressChange => some h
  | .dialUpgradeError error =>
      some { h with protocolStatus := .failed, substreams := h.substreams ++ [.reportError (.stream error)],
                    uniqConnId := h.uniqConnId + 1 }
  | .listenUpgradeError error =>
      some { h with protocolStatus := .failed, substreams := h.substreams ++ [.reportError (.stream error)],
                    uniqConnId := h.uniqConnId + 1 }
  | .localProtocolsChange => some h
  | .remoteProtocolsChange => some h

end Events

/-! ### Runs -/

/-- What the swarm does to a handler: an event of the behaviour, an event of
the connection, or a poll at the time `now` with the environment's answers. -/
inductive Input (μ ε : Type)
  | behaviour (ev : HandlerEvent μ ε)
  | connection (ev : ConnectionEvent ε)
  | poll (now : Nat) (answers : List (Answer μ ε))

/-- The message an input gives the handler to send. -/
def Input.given {μ ε : Type} : Input μ ε → List μ
  | .behaviour (.outbound (.inl msg)) => [msg]
  | _ => []

section Runs

variable {μ ε ω : Type} (w : Wire μ ω)

/-- One input: the handler and op manager after it, the messages written and
the event returned. `none` is a panic. -/
def step (s : Handler μ ε × OpManager ω) :
    Input μ ε → Option (Handler μ ε × OpManager ω × List μ × Option (PollEvent μ ε))
  | .behaviour ev => (s.1.onBehaviourEvent ev).map fun h => (h, s.2, [], none)
  | .connection ev => (s.1.onConnectionEvent ev).map fun h => (h, s.2, [], none)
  | .poll now answers => s.1.poll w now s.2 answers

/-- A run: the handler and op manager at its end, every message written and
every event returned, in order. -/
def run : Handler μ ε × OpManager ω → List (Input μ ε) →
    Option (Handler μ ε × OpManager ω × List μ × List (PollEvent μ ε))
  | s, [] => some (s.1, s.2, [], [])
  | s, i :: is =>
      (step w s i).bind fun r =>
        (run (r.1, r.2.1) is).map fun t => (t.1, t.2.1, r.2.2.1 ++ t.2.2.1, r.2.2.2.toList ++ t.2.2.2)

end Runs


/-! ### What the handler holds -/

section Held

variable {μ ε ω : Type} (w : Wire μ ω) (now : Nat)

/-- The message a turn leaves in the substream it pushes back. -/
def Turn.held : Turn μ ε → List μ
  | .keep st => st.held
  | .drop => []
  | .ready back _ => back.toList.flatMap SubstreamState.held
  | .pending => []

/-- The messages written, stacked and held for sending after a pass. -/
def Pass.held : Pass μ ε ω → List μ
  | .next c st => c.sent ++ c.pending ++ st.held
  | .done c t => c.sent ++ c.pending ++ t.held

theorem trackTransfer_keeps {c c' : PollCtx μ ε ω} {id : Transaction} {b : Bool}
    (h : trackTransfer w now c id = some (c', b)) : c'.pending = c.pending ∧ c'.sent = c.sent := by
  unfold trackTransfer at h
  split at h
  · cases h
  · split at h
    · obtain ⟨r, -, hr⟩ := Option.map_eq_some_iff.mp h
      cases hr
      exact ⟨rfl, rfl⟩
    · cases h
  · cases h
    exact ⟨rfl, rfl⟩

theorem trackSome_keeps {id? : Option Transaction} {c c' : PollCtx μ ε ω} {b : Bool}
    (h : trackSome w now id? c = some (c', b)) : c'.pending = c.pending ∧ c'.sent = c.sent := by
  cases id? with
  | some id => exact trackTransfer_keeps w now h
  | none =>
      cases h
      exact ⟨rfl, rfl⟩

/-- Dropping what a substream held. -/
theorem subperm_held_drop (l₁ l₂ l₃ : List μ) : (l₁ ++ l₂).Subperm (l₁ ++ (l₂ ++ l₃)) := by
  rw [← List.append_assoc]
  exact (List.sublist_append_left _ _).subperm

/-- Moving a held message onto the stack, or from it into a send. -/
theorem subperm_held_move (l₁ l₂ : List μ) (a : μ) : (l₁ ++ a :: l₂).Subperm (l₁ ++ (l₂ ++ [a])) :=
  ((List.perm_append_singleton a l₂).symm.append_left l₁).subperm

/-- A pass writes a message only out of what the substream held, and stacks
or keeps only what it had. -/
theorem loopBody_held {c : PollCtx μ ε ω} {st : SubstreamState μ ε} {p : Pass μ ε ω}
    (h : loopBody w now c st = some p) : p.held.Subperm (c.sent ++ c.pending ++ st.held) := by
  cases st with
  | outPendingOpen msg connId =>
      cases h
      simpa [Pass.held, Turn.held, SubstreamState.held] using subperm_held_move c.sent c.pending msg
  | awaitingFirst connId =>
      cases h
      exact List.Subperm.refl _
  | freeStream connId =>
      simp only [loopBody] at h
      split at h <;> cases h
      · rename_i msg rest hp
        simpa [Pass.held, SubstreamState.held, hp] using
          ((List.perm_append_singleton msg rest).append_left c.sent).subperm
      · exact List.Subperm.refl _
  | pendingSend connId msg =>
      simp only [loopBody] at h
      split at h
      · cases h
        exact List.Subperm.refl _
      · cases h
        simpa [Pass.held, Turn.held] using subperm_held_drop c.sent c.pending _
      · split at h
        · cases h
          exact List.Subperm.refl _
        · cases h
          simpa [Pass.held, Turn.held] using subperm_held_drop c.sent c.pending _
        · split at h
          · cases h
          · rename_i m _ c₁ ht
            cases h
            obtain ⟨hp, hs⟩ := trackSome_keeps w now ht
            simpa [Pass.held, Turn.held, SubstreamState.held, hp, hs] using
              subperm_held_drop c.sent c.pending [m]
          · rename_i m _ c₁ ht
            obtain ⟨hp, hs⟩ := trackSome_keeps w now ht
            split at h
            · cases h
              simpa [Pass.held, SubstreamState.held, hp, hs] using subperm_held_move c.sent c.pending m
            · cases h
              simpa [Pass.held, Turn.held, SubstreamState.held, hp, hs] using
                subperm_held_drop c.sent c.pending [m]
            · cases h
      · cases h
  | pendingFlush connId opId =>
      simp only [loopBody] at h
      split at h
      · cases h
        exact List.Subperm.refl _
      · cases h
        exact List.Subperm.refl _
      · split at h
        · cases h
        · rename_i c₁ ht
          cases h
          obtain ⟨hp, hs⟩ := trackSome_keeps w now ht
          simpa [Pass.held, Turn.held, SubstreamState.held, hp, hs] using List.Subperm.refl _
        · rename_i c₁ ht
          cases h
          obtain ⟨hp, hs⟩ := trackSome_keeps w now ht
          simpa [Pass.held, SubstreamState.held, hp, hs] using List.Subperm.refl _
      · cases h
  | waitingMsg connId =>
      simp only [loopBody] at h
      split at h
      · cases h
        exact List.Subperm.refl _
      · split at h
        · cases h
        · rename_i c₁ ht
          cases h
          obtain ⟨hp, hs⟩ := trackTransfer_keeps w now ht
          simpa [Pass.held, Turn.held, SubstreamState.held, hp, hs] using List.Subperm.refl _
        · rename_i c₁ ht
          cases h
          obtain ⟨hp, hs⟩ := trackTransfer_keeps w now ht
          split <;> simpa [Pass.held, Turn.held, SubstreamState.held, hp, hs] using List.Subperm.refl _
      · cases h
        exact List.Subperm.refl _
      · cases h
        exact List.Subperm.refl _
      · cases h
  | reportError error =>
      cases h
      exact List.Subperm.refl _

/-- The inner loop, by the passes it makes. -/
theorem streamLoop_held {c c' : PollCtx μ ε ω} {st : SubstreamState μ ε} {t : Turn μ ε}
    (h : streamLoop w now c st = some (c', t)) :
    (c'.sent ++ c'.pending ++ t.held).Subperm (c.sent ++ c.pending ++ st.held) := by
  induction c, st using streamLoop.induct w now with
  | case1 c st hb =>
      rw [streamLoop, hb] at h
      cases h
  | case2 c st c₁ t₁ hb =>
      rw [streamLoop, hb] at h
      cases h
      exact loopBody_held w now hb
  | case3 c st c₁ st₁ hb ih =>
      rw [streamLoop, hb] at h
      exact (ih h).trans (loopBody_held w now hb)

open List in
/-- What a turn of one swap-removed substream leaves, with the substreams
that stay, against what the whole vector held before it. -/
theorem turn_held {c c₁ : PollCtx μ ε ω} {subs : List (SubstreamState μ ε)} {n : Nat}
    {st : SubstreamState μ ε} {t : Turn μ ε} (hst : subs[n]? = some st)
    (h : streamLoop w now c st = some (c₁, t)) :
    (c₁.sent ++ c₁.pending ++ ((Vec.swapRemove subs n).flatMap SubstreamState.held ++ t.held)).Subperm
      (c.sent ++ c.pending ++ subs.flatMap SubstreamState.held) := by
  have hperm := Vec.flatMap_swapRemove_perm hst SubstreamState.held
  -- the turn's own accounting, beside the substreams that were not touched
  have hturn := (streamLoop_held w now h).append
    (List.Subperm.refl ((Vec.swapRemove subs n).flatMap SubstreamState.held))
  have hl : (c₁.sent ++ c₁.pending ++ ((Vec.swapRemove subs n).flatMap SubstreamState.held ++ t.held)) ~
      c₁.sent ++ c₁.pending ++ t.held ++ (Vec.swapRemove subs n).flatMap SubstreamState.held := by
    rw [List.append_assoc _ t.held]
    exact perm_append_comm.append_left _
  have hr : (c.sent ++ c.pending ++ st.held ++ (Vec.swapRemove subs n).flatMap SubstreamState.held) ~
      c.sent ++ c.pending ++ subs.flatMap SubstreamState.held := by
    rw [List.append_assoc _ st.held]
    exact hperm.append_left _
  exact hl.subperm.trans (hturn.trans hr.subperm)

/-- The walk over the substreams. -/
theorem pollStreams_held {n : Nat} {subs subs' : List (SubstreamState μ ε)} {c c' : PollCtx μ ε ω}
    {ev : Option (PollEvent μ ε)} (h : pollStreams w now n (subs, c) = some ((subs', c'), ev)) :
    (c'.sent ++ c'.pending ++ subs'.flatMap SubstreamState.held).Subperm
      (c.sent ++ c.pending ++ subs.flatMap SubstreamState.held) := by
  -- on the index of the substream the walk takes next, down to the first
  induction n generalizing subs c with
  | zero =>
      cases h
      exact List.Subperm.refl _
  | succ n ih =>
      simp only [pollStreams] at h
      split at h
      · cases h
      · rename_i st hst
        split at h
        · cases h
        · rename_i c₁ st₁ hl
          refine (ih h).trans ?_
          simpa [Turn.held] using turn_held w now hst hl
        · rename_i c₁ hl
          refine (ih h).trans ?_
          simpa [Turn.held] using turn_held w now hst hl
        · rename_i c₁ back ev hl
          cases h
          simpa [Turn.held] using turn_held w now hst hl
        · rename_i c₁ hl
          cases h
          simpa [Turn.held] using turn_held w now hst hl

/-- The messages a handler holds for sending: its `pending` stack and what
its substreams hold. -/
def Handler.held (h : Handler μ ε) : List μ := h.pending ++ h.substreams.flatMap SubstreamState.held

/-- A poll writes only what the handler held, and keeps the rest. -/
theorem poll_held {h h' : Handler μ ε} {m m' : OpManager ω} {answers : List (Answer μ ε)}
    {sent : List μ} {ev : Option (PollEvent μ ε)}
    (hp : h.poll w now m answers = some (h', m', sent, ev)) : (sent ++ h'.held).Subperm h.held := by
  unfold Handler.poll at hp
  split_ifs at hp
  · cases hp
    exact List.Subperm.refl _
  · cases hp
    exact List.Subperm.refl _
  · obtain ⟨⟨⟨subs', c'⟩, ev'⟩, hs, hr⟩ := Option.map_eq_some_iff.mp hp
    cases hr
    simpa [Handler.held] using pollStreams_held w now hs

end Held

section HeldEvents

variable {μ ε : Type}

/-- What `takeFirst` finds: the substream at a position, which `get` reads,
and the vector with it `swap_remove`d. -/
theorem takeFirst_some {p : SubstreamState μ ε → Bool} {get : SubstreamState μ ε → Option Nat}
    {subs subs' : List (SubstreamState μ ε)} {connId : Nat}
    (h : takeFirst p get subs = some (some (connId, subs'))) :
    ∃ n st, subs[n]? = some st ∧ get st = some connId ∧ subs' = Vec.swapRemove subs n := by
  unfold takeFirst at h
  split at h
  · cases h
  · rename_i pos _
    split at h
    · cases h
    · rename_i connId' hget
      cases h
      obtain ⟨st, hst, hg⟩ := Option.bind_eq_some_iff.mp hget
      exact ⟨pos, st, hst, hg, rfl⟩

/-- A substream taken by `takeFirst` for what `get` reads holds nothing when
`get` reads only substreams that hold nothing: the vector left holds what
the whole one did. -/
theorem takeFirst_held {p : SubstreamState μ ε → Bool} {get : SubstreamState μ ε → Option Nat}
    (hget : ∀ st connId, get st = some connId → st.held = [])
    {subs subs' : List (SubstreamState μ ε)} {connId : Nat}
    (h : takeFirst p get subs = some (some (connId, subs'))) :
    (subs'.flatMap SubstreamState.held).Perm (subs.flatMap SubstreamState.held) := by
  obtain ⟨n, st, hst, hg, rfl⟩ := takeFirst_some h
  simpa [hget st connId hg] using Vec.flatMap_swapRemove_perm hst SubstreamState.held

theorem freeStreamId?_held (st : SubstreamState μ ε) (connId : Nat)
    (h : st.freeStreamId? = some connId) : st.held = [] := by
  cases st <;> simp_all [SubstreamState.freeStreamId?, SubstreamState.held]

theorem awaitingFirstId?_held (st : SubstreamState μ ε) (connId : Nat)
    (h : st.awaitingFirstId? = some connId) : st.held = [] := by
  cases st <;> simp_all [SubstreamState.awaitingFirstId?, SubstreamState.held]

/-- A message given to the handler is held, in a `PendingSend` or an
`OutPendingOpen`, and nothing else changes what it holds. -/
theorem onBehaviourEvent_held {h h' : Handler μ ε} {ev : HandlerEvent μ ε}
    (hb : h.onBehaviourEvent ev = some h') : h'.held.Perm (h.held ++ (Input.behaviour ev).given) := by
  match ev, hb with
  | .outbound (.inl msg), hb =>
      obtain ⟨r, hr, rfl⟩ := Option.map_eq_some_iff.mp hb
      unfold Handler.sendToFreeSubstream at hr
      obtain ⟨found, hf, rfl⟩ := Option.map_eq_some_iff.mp hr
      match found, hf with
      | some (connId, subs), hf =>
          have hp := takeFirst_held freeStreamId?_held hf
          simpa [Handler.held, Input.given, SubstreamState.held] using (hp.append_right [msg]).append_left h.pending
      | none, _ =>
          simp [Handler.held, Input.given, SubstreamState.held]
  | .outbound (.inr _), hb =>
      cases hb
      simp [Input.given]
  | .inbound _, hb => cases hb

/-- The connection's events change only substreams that hold nothing. -/
theorem onConnectionEvent_held {h h' : Handler μ ε} {ev : ConnectionEvent ε}
    (hc : h.onConnectionEvent ev = some h') : h'.held.Perm h.held := by
  cases ev with
  | fullyNegotiatedInbound =>
      obtain ⟨r, hr, rfl⟩ := Option.map_eq_some_iff.mp hc
      have hsame : ∀ h₁ : Handler μ ε,
          (if h₁.protocolStatus = .unconfirmed then { h₁ with protocolStatus := .confirmed } else h₁).held =
            h₁.held := by
        intro h₁
        split <;> rfl
      rw [hsame]
      match r, hr with
      | some (connId, subs), hr =>
          have hp := takeFirst_held awaitingFirstId?_held hr
          simpa [Handler.held, SubstreamState.held] using hp.append_left h.pending
      | none, _ => simp [Handler.held, SubstreamState.held]
  | fullyNegotiatedOutbound =>
      simp only [Handler.onConnectionEvent] at hc
      split at hc
      · rename_i connId subs hr
        cases hc
        have hp := takeFirst_held awaitingFirstId?_held hr
        simpa [Handler.held, SubstreamState.held] using hp.append_left h.pending
      · cases hc
  | addressChange => cases hc; exact List.Perm.refl _
  | dialUpgradeError e => cases hc; simp [Handler.held, SubstreamState.held]
  | listenUpgradeError e => cases hc; simp [Handler.held, SubstreamState.held]
  | localProtocolsChange => cases hc; exact List.Perm.refl _
  | remoteProtocolsChange => cases hc; exact List.Perm.refl _

end HeldEvents

section HeldRuns

variable {μ ε ω : Type} (w : Wire μ ω)

/-- One input writes only what the handler held or was given by it. -/
theorem step_held {s : Handler μ ε × OpManager ω} {i : Input μ ε} {h' : Handler μ ε} {m' : OpManager ω}
    {sent : List μ} {ev : Option (PollEvent μ ε)} (hs : step w s i = some (h', m', sent, ev)) :
    (sent ++ h'.held).Subperm (s.1.held ++ i.given) := by
  cases i with
  | behaviour e =>
      obtain ⟨h₁, hb, hr⟩ := Option.map_eq_some_iff.mp hs
      cases hr
      exact (onBehaviourEvent_held hb).subperm
  | connection e =>
      obtain ⟨h₁, hc, hr⟩ := Option.map_eq_some_iff.mp hs
      cases hr
      simpa [Input.given] using (onConnectionEvent_held hc).subperm
  | poll now answers =>
      simpa [Input.given] using poll_held w now hs

/-- A run, by induction on the inputs: each step's writes and holdings come
out of what it had and was given. -/
theorem run_held {s : Handler μ ε × OpManager ω} {is : List (Input μ ε)} {h' : Handler μ ε}
    {m' : OpManager ω} {sent : List μ} {evs : List (PollEvent μ ε)}
    (hr : run w s is = some (h', m', sent, evs)) :
    (sent ++ h'.held).Subperm (s.1.held ++ is.flatMap Input.given) := by
  induction is generalizing s sent evs with
  | nil =>
      cases hr
      simpa using List.Subperm.refl _
  | cons i is ih =>
      obtain ⟨⟨h₁, m₁, sent₁, ev₁⟩, hs, hrest⟩ := Option.bind_eq_some_iff.mp hr
      obtain ⟨⟨h₂, m₂, sent₂, evs₂⟩, hrun, ht⟩ := Option.map_eq_some_iff.mp hrest
      cases ht
      -- the rest of the run out of what the step left, the step out of what it had
      have hlater := (List.Subperm.refl sent₁).append (ih hrun)
      have hfirst := (step_held w hs).append (List.Subperm.refl (is.flatMap Input.given))
      simp only [List.append_assoc] at hlater hfirst
      simpa only [List.append_assoc, List.flatMap_cons] using hlater.trans hfirst

/-- Over any run of a handler from its creation, whatever the environment
answers and however the swarm orders its calls, the messages the handler
writes, with those it still holds, are a sub-multiset of those it was given:
it writes no message more often than it was given it, none it was not given,
and none it still holds for sending. -/
theorem messages_written_at_most_once (m : OpManager ω) (is : List (Input μ ε)) {h' : Handler μ ε}
    {m' : OpManager ω} {sent : List μ} {evs : List (PollEvent μ ε)}
    (hr : run w (Handler.new, m) is = some (h', m', sent, evs)) :
    (sent ++ h'.held).Subperm (is.flatMap Input.given) := by
  simpa [Handler.new, Handler.held] using run_held w hr

/-- A handler given one message opens a substream for it; once the swarm has
negotiated the substream, a poll writes the message and waits on the flush. -/
theorem messages_written_at_most_once_flush :
    let w : Wire Nat Unit := ⟨fun _ => Transaction.new .get 0, fun _ => false, fun _ => true, id,
      fun _ => .get, .release⟩
    let is : List (Input Nat Unit) := [.behaviour (.outbound (.inl 1)), .poll 0 [],
      .connection .fullyNegotiatedOutbound, .poll 0 [.ready (some (.ok ())), .startSend (.ok ()), .flush none]]
    ∃ r, run w (Handler.new, OpManager.new) is = some r ∧ r.2.2.1 = [1] ∧
      (r.2.2.1 ++ r.1.held).Subperm (is.flatMap Input.given) := by
  intro w is
  -- the first poll asks for a substream, the message going on the stack
  have hopen : streamLoop w 0 (⟨[], OpManager.new, [], []⟩ : PollCtx Nat Unit Unit) (.outPendingOpen 1 0) =
      some (⟨[1], OpManager.new, [], []⟩, .ready (some (.awaitingFirst 0)) .outboundSubstreamRequest) :=
    streamLoop_of_done w 0 rfl
  -- the second takes the message off the stack, sends it and waits on the flush
  have hsend : streamLoop w 0 (⟨[1], OpManager.new, [.ready (some (.ok ())), .startSend (.ok ()), .flush none],
      []⟩ : PollCtx Nat Unit Unit) (.freeStream 0) = some (⟨[], OpManager.new, [], [1]⟩, .keep (.pendingFlush 0 (some (Transaction.new .get 0)))) := by
    rw [streamLoop_of_next w 0 rfl, streamLoop_of_next w 0 rfl, streamLoop_of_done w 0 rfl]
    rfl
  have hrun : run w (Handler.new, OpManager.new) is = some (⟨[.pendingFlush 0 (some (Transaction.new .get 0))], 1,
      .unconfirmed, []⟩, OpManager.new, [1], [.outboundSubstreamRequest]) := by
    simp [is, run, step, Handler.new, Handler.onBehaviourEvent, Handler.sendToFreeSubstream, takeFirst,
      Handler.poll, pollStreams, hopen, hsend, Handler.onConnectionEvent, Vec.swapRemove,
      SubstreamState.isAwaitingFirst, SubstreamState.awaitingFirstId?]
  exact ⟨_, hrun, rfl, messages_written_at_most_once w OpManager.new is hrun⟩

end HeldRuns


/-! ### Messages of transactions the node does not hold -/

section Unknown

variable {μ ε ω : Type} (w : Wire μ ω) (now : Nat)

/-- A `pop` of a transaction under progress gives an error, never the
operation. -/
theorem pop_of_underProgress {m : OpManager ω} {tx : Transaction} (h : m.ops.underProgress tx = true)
    (now : Nat) : ∃ m' e, m.pop tx now = some (m', .error e) := by
  unfold OpManager.pop
  split
  · exact ⟨_, _, rfl⟩
  · split <;> exact ⟨_, _, rfl⟩

/-- A message the handler reads for a transaction the node holds nothing of
(neither completed nor under progress, with no operation filed under its
type), and that the collector has not been told of, such as the first
message of a request from another peer: the poll hands it to the behaviour
after its `pop` has filed the transaction under progress, and pushes
nothing back. From then on, along any run of the op manager that does not
push the transaction, it stays under progress, and every `pop` of it (the
one `load_or_init` makes for the message, which `handle_op_not_available!`
retries) answers `Running`, or `Completed` once it has timed out: never the
operation, so no task processes the message. -/
theorem inbound_unknown_never_popped (h : Handler μ ε) (subs : List (SubstreamState μ ε)) (connId : Nat)
    (hsubs : h.substreams = subs ++ [.waitingMsg connId]) (hstatus : h.protocolStatus ≠ .confirmed)
    (m : OpManager ω) (msg : μ) (rest : List (Answer μ ε)) {ty : TransactionType}
    (hty : (w.id msg).transactionType = some ty) (hcompleted : m.ops.completed (w.id msg) = false)
    (hprogress : m.ops.underProgress (w.id msg) = false) (hnone : m.ops.ops ty (w.id msg) = none)
    (hcoll : w.id msg ∉ m.newTransactions ∧ w.id msg ∉ m.ttlSet ∧ w.id msg ∉ m.delayed) :
    ∃ m₁, h.poll w now m (.next (some (some (.ok msg))) :: rest) =
        some ({ h with substreams := subs ++ (if w.terminal msg then [] else [.freeStream connId]) }, m₁, [],
          some (.notifyBehaviour (.inbound (.inl msg)))) ∧
      ∀ es m', m₁.run w.opType w.profile es = some m' → (∀ e ∈ es, e.pushes (w.id msg) = false) →
        m'.ops.underProgress (w.id msg) = true ∧ ∀ now', ∃ m'' e, m'.pop (w.id msg) now' = some (m'', .error e) := by
  set tx := w.id msg
  -- the handler's `pop` files the transaction under progress and finds no operation
  set m₁ : OpManager ω := { m with ops := (m.ops.remove ty tx).setUnderProgress tx true }
  have hpop : m.pop tx now = some (m₁, .ok none) := by
    simp [OpManager.pop, hcompleted, hprogress, hty, hnone, m₁]
  have hunseen : Unseen tx m₁ := ⟨by simp [m₁, Ops.setUnderProgress], hcoll.1, hcoll.2.1, hcoll.2.2⟩
  have hloop : streamLoop w now ⟨h.pending, m, .next (some (some (.ok msg))) :: rest, []⟩ (.waitingMsg connId) =
      some (⟨h.pending, m₁, rest, []⟩, .ready (if w.terminal msg then none else some (.freeStream connId))
        (.notifyBehaviour (.inbound (.inl msg)))) :=
    streamLoop_of_done w now (by simp [loopBody, trackTransfer, tx, hpop])
  refine ⟨m₁, ?_, fun es m' hrun hes => ?_⟩
  · have hne : (subs ++ [SubstreamState.waitingMsg connId]).isEmpty = false := by simp
    simp only [Handler.poll, hsubs, hne, Bool.false_eq_true, if_false, hstatus, List.length_append,
      List.length_singleton, pollStreams, List.getElem?_concat_length, Vec.swapRemove_concat_length, hloop]
    split <;> rfl
  · -- nothing the op manager does without a push of it tells the collector of it
    have hu := run_unseen hrun hes hunseen
    exact ⟨hu.underProgress, pop_of_underProgress hu.underProgress⟩

/-- A handler waiting on one substream reads the first message of a `Get`
the node has never seen. -/
theorem inbound_unknown_never_popped_get :
    let w : Wire Nat Unit := ⟨fun _ => Transaction.new .get 0, fun _ => false, fun _ => true, id,
      fun _ => .get, .release⟩
    let h : Handler Nat Unit := ⟨[.waitingMsg 0], 1, .unconfirmed, []⟩
    (w.id 1).transactionType = some .get ∧
      ∃ m₁, h.poll w 0 OpManager.new [.next (some (some (.ok 1)))] =
          some ({ h with substreams := [] ++ (if w.terminal 1 then [] else [.freeStream 0]) }, m₁, [],
            some (.notifyBehaviour (.inbound (.inl 1)))) ∧
        ∀ es m', m₁.run w.opType w.profile es = some m' → (∀ e ∈ es, e.pushes (w.id 1) = false) →
          m'.ops.underProgress (w.id 1) = true ∧
            ∀ now', ∃ m'' e, m'.pop (w.id 1) now' = some (m'', .error e) := by
  intro w h
  have hty : (w.id 1).transactionType = some .get := Transaction.transactionType_update .get 0
  exact ⟨hty, inbound_unknown_never_popped w 0 h [] 0 rfl (by decide) OpManager.new 1 [] hty rfl rfl rfl
    ⟨List.not_mem_nil, List.not_mem_nil, List.not_mem_nil⟩⟩

end Unknown

end FreenetCore.Node
