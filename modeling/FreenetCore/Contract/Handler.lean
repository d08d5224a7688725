import FreenetCore.Lib.Since

/-!
The channel between the node and its contract handler
(`contract/handler.rs`, and `contract_handling` in `contract.rs`).

A requester's `send_to_handler` takes the next id from the process-wide
counter `EV_ID`, puts its event with a fresh oneshot sender on the handler's
unbounded queue, and waits up to `CH_EV_RESPONSE_TIME_OUT` for the answer on
the oneshot's receiver. `contract_handling` loops: `recv_from_sender` takes
the next event and files its oneshot sender under the id in
`waiting_response`, the event is run against the executor, and
`send_to_sender` takes the sender out of the map and sends the response.
Each error of the loop is returned with `?`, which ends `contract_handling`
and drops the handler's half of the channel.

The system is one state of all parties: the counter, the queue, the keys of
`waiting_response`, the event the handler is running, how
`contract_handling` ended if it did, whether every `SenderHalve` is gone,
and each request by its id. A oneshot is known by its id, and its receiver
is alive exactly while its request is `waiting`. The executor is the
function `respond`: the response to an event, or `none` for the events that
`contract_handling` has no arm for (`unreachable!()`). The timers and the
scheduler are the order of the actions: any action may come whenever it is
enabled.
-/

namespace FreenetCore.Contract.Handler

/-- The variants of `ContractError` the channel returns. -/
inductive ChannelError (Ev : Type)
  | channelDropped (ev : Ev)
  | noEvHandlerResponse

/-- How `contract_handling` ended: with an error, or at `unreachable!()`. -/
inductive HandlerExit (Ev : Type)
  | error (e : ChannelError Ev)
  | panic

/-- What has become of a `send_to_handler` call: still waiting on its
receiver, returned, or dropped by its caller (an outer timeout). -/
inductive Outcome (Ev Resp : Type)
  | waiting
  | returned (r : Except (ChannelError Ev) Resp)
  | cancelled

/-- A `send_to_handler` call: its event and what became of it. -/
structure Request (Ev Resp : Type) where
  ev : Ev
  outcome : Outcome Ev Resp

variable {Ev Resp : Type}

/-- A request whose oneshot sender is dropped: a caller still waiting gets
`NoEvHandlerResponse`. -/
def Request.senderDropped (req : Request Ev Resp) : Request Ev Resp :=
  match req.outcome with
  | .waiting => ⟨req.ev, .returned (.error .noEvHandlerResponse)⟩
  | _ => req

/-- The requesters, the channel and `contract_handling`. -/
structure World (Ev Resp : Type) where
  evId : Nat
  requests : Nat → Option (Request Ev Resp)
  queue : List (Nat × Ev)
  waitingResponse : List Nat
  handling : Option (Nat × Ev)
  exit : Option (HandlerExit Ev)
  sendersDropped : Bool

/-- What a party does next. -/
inductive Action (Ev : Type)
  | sendToHandler (ev : Ev)
  | recvFromSender
  | handleEvent
  | timeOut (id : Nat)
  | cancel (id : Nat)
  | dropSenders

/-- A caller that gives up waiting: its timer fires, or its future is
dropped. -/
def Action.givesUp : Action Ev → Bool
  | .timeOut _ | .cancel _ => true
  | _ => false

namespace World

/-- The channel as `contract_handler_channel` makes it, with the counter at
`evId`. -/
def init (evId : Nat) : World Ev Resp := ⟨evId, fun _ => none, [], [], none, none, false⟩

/-- A waiting request ends with the outcome `o`: its receiver gets the
response, times out, or is dropped. -/
def finish (s : World Ev Resp) (id : Nat) (o : Outcome Ev Resp) : Option (World Ev Resp) :=
  match s.requests id with
  | some ⟨ev, .waiting⟩ => some { s with requests := Function.update s.requests id (some ⟨ev, o⟩) }
  | _ => none

/-- `send_to_handler` up to its wait: the id is taken whether or not the
queue's receiver is still there. -/
def sendToHandler (s : World Ev Resp) (ev : Ev) : Option (World Ev Resp) :=
  if s.sendersDropped then none
  else
    match s.exit with
    | none =>
        some { s with
          evId := s.evId + 1
          queue := s.queue ++ [(s.evId, ev)]
          requests := Function.update s.requests s.evId (some ⟨ev, .waiting⟩) }
    | some _ =>
        some { s with
          evId := s.evId + 1
          requests := Function.update s.requests s.evId
            (some ⟨ev, .returned (.error (.channelDropped ev))⟩) }

/-- `contract_handling` returns: its half of the channel is dropped with the
queue and `waiting_response`, and each caller still waiting sees its oneshot
sender gone. -/
def stop (s : World Ev Resp) (exit : HandlerExit Ev) : World Ev Resp :=
  { s with
    exit := some exit
    queue := []
    waitingResponse := []
    handling := none
    requests := fun id => (s.requests id).map Request.senderDropped }

/-- `recv_from_sender`, when the handler is idle: the next event, or the
end of the loop once the queue is empty and every sender is gone. -/
def recvFromSender (s : World Ev Resp) : Option (World Ev Resp) :=
  match s.exit, s.handling, s.queue with
  | none, none, (id, ev) :: rest =>
      some { s with queue := rest, waitingResponse := s.waitingResponse.insert id, handling := some (id, ev) }
  | none, none, [] => if s.sendersDropped then some (s.stop (.error .noEvHandlerResponse)) else none
  | _, _, _ => none

/-- `send_to_sender`: the response goes through the oneshot filed under the
id when its receiver is alive; otherwise the error ends the loop. -/
def sendToSender (s : World Ev Resp) (id : Nat) (resp : Resp) : World Ev Resp :=
  if id ∈ s.waitingResponse then
    let s' := { s with waitingResponse := s.waitingResponse.erase id, handling := none }
    match s'.finish id (.returned (.ok resp)) with
    | some s'' => s''
    | none => s'.stop (.error .noEvHandlerResponse)
  else s.stop (.error .noEvHandlerResponse)

/-- The arm of `contract_handling` for the event it handles. -/
def handleEvent (respond : Ev → Option Resp) (s : World Ev Resp) : Option (World Ev Resp) :=
  match s.exit, s.handling with
  | none, some (id, ev) =>
      match respond ev with
      | some resp => some (s.sendToSender id resp)
      | none => some (s.stop .panic)
  | _, _ => none

/-- One action. -/
def step (respond : Ev → Option Resp) (s : World Ev Resp) : Action Ev → Option (World Ev Resp)
  | .sendToHandler ev => s.sendToHandler ev
  | .recvFromSender => s.recvFromSender
  | .handleEvent => s.handleEvent respond
  | .timeOut id => s.finish id (.returned (.error .noEvHandlerResponse))
  | .cancel id => s.finish id .cancelled
  | .dropSenders => some { s with sendersDropped := true }

/-- A run of actions, each enabled where it comes. -/
def run (respond : Ev → Option Resp) (s : World Ev Resp) (acts : List (Action Ev)) :
    Option (World Ev Resp) :=
  acts.foldlM (step respond) s

end World

/-- What a returned call should have returned: the response to its own
event, or its own event back when the handler's queue was gone. -/
def Outcome.Sound (respond : Ev → Option Resp) (ev : Ev) : Outcome Ev Resp → Prop
  | .returned (.ok r) => respond ev = some r
  | .returned (.error (.channelDropped e)) => e = ev
  | _ => True

theorem Request.sound_senderDropped {respond : Ev → Option Resp} {req : Request Ev Resp}
    (h : req.outcome.Sound respond req.ev) : req.senderDropped.outcome.Sound respond req.senderDropped.ev := by
  rcases req with ⟨ev, _ | _ | _⟩
  · trivial
  · exact h
  · trivial

namespace World

variable {respond : Ev → Option Resp} {s s' : World Ev Resp}

/-! ### What each action does -/

@[simp] theorem stop_exit (s : World Ev Resp) (x : HandlerExit Ev) : (s.stop x).exit = some x := rfl

@[simp] theorem stop_evId (s : World Ev Resp) (x : HandlerExit Ev) : (s.stop x).evId = s.evId := rfl

@[simp] theorem stop_queue (s : World Ev Resp) (x : HandlerExit Ev) : (s.stop x).queue = [] := rfl

@[simp] theorem stop_handling (s : World Ev Resp) (x : HandlerExit Ev) : (s.stop x).handling = none := rfl

@[simp] theorem stop_sendersDropped (s : World Ev Resp) (x : HandlerExit Ev) :
    (s.stop x).sendersDropped = s.sendersDropped := rfl

theorem stop_requests (s : World Ev Resp) (x : HandlerExit Ev) (id : Nat) :
    (s.stop x).requests id = (s.requests id).map Request.senderDropped := rfl

theorem finish_eq_some {id : Nat} {o : Outcome Ev Resp} :
    s.finish id o = some s' ↔ ∃ ev, s.requests id = some ⟨ev, .waiting⟩ ∧
      s' = { s with requests := Function.update s.requests id (some ⟨ev, o⟩) } := by
  unfold finish
  split
  · next ev h => simp [h, eq_comm]
  · next hne =>
      simp only [reduceCtorEq, false_iff, not_exists, not_and]
      exact fun ev h => absurd h (hne ev)

theorem sendToHandler_cases {ev : Ev} (h : s.sendToHandler ev = some s') :
    s.sendersDropped = false ∧
      ((s.exit = none ∧ s' = { s with
          evId := s.evId + 1
          queue := s.queue ++ [(s.evId, ev)]
          requests := Function.update s.requests s.evId (some ⟨ev, .waiting⟩) }) ∨
        (s.exit.isSome ∧ s' = { s with
          evId := s.evId + 1
          requests := Function.update s.requests s.evId (some ⟨ev, .returned (.error (.channelDropped ev))⟩) })) := by
  unfold sendToHandler at h
  split at h
  · cases h
  · next hsd =>
      refine ⟨by simpa using hsd, ?_⟩
      split at h
      · next hx => exact .inl ⟨hx, (Option.some.inj h).symm⟩
      · next x hx => exact .inr ⟨by simp [hx], (Option.some.inj h).symm⟩

theorem recvFromSender_cases (h : s.recvFromSender = some s') :
    s.exit = none ∧ s.handling = none ∧
      ((∃ id ev rest, s.queue = (id, ev) :: rest ∧ s' = { s with
          queue := rest
          waitingResponse := s.waitingResponse.insert id
          handling := some (id, ev) }) ∨
        (s.queue = [] ∧ s.sendersDropped = true ∧ s' = s.stop (.error .noEvHandlerResponse))) := by
  unfold recvFromSender at h
  split at h
  · next id ev rest hx hh hq => exact ⟨hx, hh, .inl ⟨id, ev, rest, hq, (Option.some.inj h).symm⟩⟩
  · next hx hh hq =>
      split at h
      · next hsd => exact ⟨hx, hh, .inr ⟨hq, hsd, (Option.some.inj h).symm⟩⟩
      · cases h
  · cases h

theorem handleEvent_cases (h : s.handleEvent respond = some s') :
    s.exit = none ∧ ∃ id ev, s.handling = some (id, ev) ∧
      ((∃ resp, respond ev = some resp ∧ s' = s.sendToSender id resp) ∨
        (respond ev = none ∧ s' = s.stop .panic)) := by
  unfold handleEvent at h
  split at h
  · next id ev hx hh =>
      refine ⟨hx, id, ev, hh, ?_⟩
      split at h
      · next resp hr => exact .inl ⟨resp, hr, (Option.some.inj h).symm⟩
      · next hr => exact .inr ⟨hr, (Option.some.inj h).symm⟩
  · cases h

/-- `send_to_sender` to a waiting caller filed in the map delivers the
response. -/
theorem sendToSender_of_waiting {id : Nat} {ev : Ev} (hmem : id ∈ s.waitingResponse)
    (hreq : s.requests id = some ⟨ev, .waiting⟩) (resp : Resp) :
    s.sendToSender id resp = { s with
      waitingResponse := s.waitingResponse.erase id
      handling := none
      requests := Function.update s.requests id (some ⟨ev, .returned (.ok resp)⟩) } := by
  have hfin : ({ s with waitingResponse := s.waitingResponse.erase id, handling := none } :
      World Ev Resp).finish id (.returned (.ok resp)) = some { s with
        waitingResponse := s.waitingResponse.erase id
        handling := none
        requests := Function.update s.requests id (some ⟨ev, .returned (.ok resp)⟩) } :=
    finish_eq_some.mpr ⟨ev, hreq, rfl⟩
  rw [sendToSender, if_pos hmem]
  dsimp only
  rw [hfin]

/-- `send_to_sender` delivers to a waiting caller filed in the map, and
otherwise ends the loop. -/
theorem sendToSender_cases (id : Nat) (resp : Resp) :
    (∃ ev, id ∈ s.waitingResponse ∧ s.requests id = some ⟨ev, .waiting⟩ ∧
      s.sendToSender id resp = { s with
        waitingResponse := s.waitingResponse.erase id
        handling := none
        requests := Function.update s.requests id (some ⟨ev, .returned (.ok resp)⟩) }) ∨
    (s.sendToSender id resp =
        { s with waitingResponse := s.waitingResponse.erase id, handling := none }.stop
          (.error .noEvHandlerResponse) ∨
      s.sendToSender id resp = s.stop (.error .noEvHandlerResponse)) := by
  unfold sendToSender
  split
  · next hmem =>
      dsimp only
      split
      · next s'' hfin =>
          obtain ⟨ev, hreq, rfl⟩ := finish_eq_some.mp hfin
          exact .inl ⟨ev, hmem, hreq, rfl⟩
      · exact .inr (.inl rfl)
  · exact .inr (.inr rfl)

/-! ### Every call is answered about its own event -/

/-- What every state of a run keeps: the ids from the counter on are
unused, each event queued or handled is its request's, and each call that
returned returned what `Outcome.Sound` asks. -/
structure Inv (respond : Ev → Option Resp) (s : World Ev Resp) : Prop where
  fresh : ∀ id, s.evId ≤ id → s.requests id = none
  queued : ∀ id ev, (id, ev) ∈ s.queue → (s.requests id).map (·.ev) = some ev
  handled : ∀ id ev, s.handling = some (id, ev) → (s.requests id).map (·.ev) = some ev
  sound : ∀ id req, s.requests id = some req → req.outcome.Sound respond req.ev

theorem inv_init (respond : Ev → Option Resp) (n : Nat) : Inv respond (init n : World Ev Resp) where
  fresh _ _ := rfl
  queued _ _ h := (List.not_mem_nil h).elim
  handled _ _ h := by cases h
  sound _ _ h := by cases h

/-- A new outcome of a request keeps the events of all requests. -/
theorem map_ev_update {r : Nat → Option (Request Ev Resp)} {id : Nat} {ev : Ev}
    (h : (r id).map (·.ev) = some ev) (o : Outcome Ev Resp) (i : Nat) :
    (Function.update r id (some ⟨ev, o⟩) i).map (·.ev) = (r i).map (·.ev) := by
  by_cases hi : i = id
  · subst hi
    rw [Function.update_self, h]
    rfl
  · rw [Function.update_of_ne hi]

/-- A fact about every filed request holds once a request that has it is
filed, if it held of the others. -/
theorem forall_update_some {r : Nat → Option (Request Ev Resp)} {id : Nat} {req : Request Ev Resp}
    {P : Nat → Request Ev Resp → Prop} (hnew : P id req) (hold : ∀ i q, i ≠ id → r i = some q → P i q)
    (i : Nat) (q : Request Ev Resp) (h : Function.update r id (some req) i = some q) : P i q := by
  by_cases hi : i = id
  · subst hi
    rw [Function.update_self, Option.some.injEq] at h
    subst h
    exact hnew
  · rw [Function.update_of_ne hi] at h
    exact hold i q hi h

theorem Inv.lt_evId (hi : Inv respond s) {id : Nat} {req : Request Ev Resp}
    (h : s.requests id = some req) : id < s.evId := by
  by_contra hle
  rw [hi.fresh id (Nat.le_of_not_lt hle)] at h
  cases h

theorem Inv.finish (hi : Inv respond s) {id : Nat} {o : Outcome Ev Resp} (h : s.finish id o = some s')
    (ho : ∀ ev, s.requests id = some ⟨ev, .waiting⟩ → o.Sound respond ev) : Inv respond s' := by
  obtain ⟨ev, hreq, rfl⟩ := finish_eq_some.mp h
  have hev : (s.requests id).map (·.ev) = some ev := by rw [hreq]; rfl
  have hlt := hi.lt_evId hreq
  refine ⟨fun i hle => ?_, fun i e hq => ?_, fun i e hh => ?_, fun i req hreq' => ?_⟩
  · dsimp only at hle ⊢
    rw [Function.update_of_ne (by omega)]
    exact hi.fresh i hle
  · dsimp only
    rw [map_ev_update hev]
    exact hi.queued i e hq
  · dsimp only
    rw [map_ev_update hev]
    exact hi.handled i e hh
  · exact forall_update_some (P := fun _ q => q.outcome.Sound respond q.ev) (ho ev hreq)
      (fun i q _ hq => hi.sound i q hq) i req hreq'

theorem Inv.stop (hi : Inv respond s) (x : HandlerExit Ev) : Inv respond (s.stop x) where
  fresh id hle := by rw [stop_requests, hi.fresh id hle, Option.map_none]
  queued _ _ h := (List.not_mem_nil h).elim
  handled _ _ h := by cases h
  sound id req h := by
    rw [stop_requests] at h
    obtain ⟨req₀, h₀, rfl⟩ := Option.map_eq_some_iff.mp h
    exact Request.sound_senderDropped (hi.sound id req₀ h₀)

/-- A call of `send_to_handler` files a request under the counter's id. -/
theorem Inv.newRequest (hi : Inv respond s) {req : Request Ev Resp}
    (hsound : req.outcome.Sound respond req.ev) {q : List (Nat × Ev)}
    (hq : ∀ i e, (i, e) ∈ q → (i, e) ∈ s.queue ∨ (i = s.evId ∧ e = req.ev)) :
    Inv respond { s with
      evId := s.evId + 1
      queue := q
      requests := Function.update s.requests s.evId (some req) } := by
  -- the ids in use all lie below the counter
  have hold : ∀ i, (s.requests i).isSome → Function.update s.requests s.evId (some req) i = s.requests i :=
    fun i hsome => Function.update_of_ne (by
      obtain ⟨r, hr⟩ := Option.isSome_iff_exists.mp hsome
      exact Nat.ne_of_lt (hi.lt_evId hr)) _ _
  refine ⟨fun i hle => ?_, fun i e hmem => ?_, fun i e hh => ?_, fun i r hr => ?_⟩
  · dsimp only at hle ⊢
    rw [Function.update_of_ne (by omega)]
    exact hi.fresh i (by omega)
  · rcases hq i e hmem with hold' | ⟨rfl, rfl⟩
    · have hmap := hi.queued i e hold'
      dsimp only
      rw [hold i (by cases h : s.requests i <;> simp_all), hmap]
    · dsimp only
      rw [Function.update_self]
      rfl
  · have hmap := hi.handled i e hh
    dsimp only
    rw [hold i (by cases h : s.requests i <;> simp_all), hmap]
  · exact forall_update_some (P := fun _ q => q.outcome.Sound respond q.ev) hsound
      (fun i q _ hq => hi.sound i q hq) i r hr

theorem Inv.sendToHandler (hi : Inv respond s) {ev : Ev} (h : s.sendToHandler ev = some s') :
    Inv respond s' := by
  obtain ⟨-, ⟨-, rfl⟩ | ⟨-, rfl⟩⟩ := sendToHandler_cases h
  · refine hi.newRequest ?_ ?_
    · trivial
    intro i e hmem
    rcases List.mem_append.mp hmem with hmem | hmem
    · exact .inl hmem
    · rw [List.mem_singleton, Prod.mk.injEq] at hmem
      exact .inr hmem
  · refine hi.newRequest ?_ fun i e hmem => .inl hmem
    rfl

theorem Inv.recvFromSender (hi : Inv respond s) (h : s.recvFromSender = some s') : Inv respond s' := by
  obtain ⟨-, -, ⟨id, ev, rest, hq, rfl⟩ | ⟨-, -, rfl⟩⟩ := recvFromSender_cases h
  · refine ⟨hi.fresh, fun i e hmem => hi.queued i e ?_, fun i e hh => ?_, hi.sound⟩
    · rw [hq]
      exact List.mem_cons_of_mem _ hmem
    · -- the event handled is the head of the queue
      simp only [Option.some.injEq, Prod.mk.injEq] at hh
      obtain ⟨rfl, rfl⟩ := hh
      exact hi.queued id ev (by rw [hq]; exact List.mem_cons_self)
  · exact hi.stop _

theorem Inv.sendToSender (hi : Inv respond s) {id : Nat} {ev : Ev} {resp : Resp}
    (hh : s.handling = some (id, ev)) (hresp : respond ev = some resp) :
    Inv respond (s.sendToSender id resp) := by
  -- the map's changes leave the requests as they are
  have hi' : Inv respond { s with waitingResponse := s.waitingResponse.erase id, handling := none } :=
    ⟨hi.fresh, hi.queued, fun _ _ h => (Option.some_ne_none _ h.symm).elim, hi.sound⟩
  rcases sendToSender_cases (s := s) id resp with ⟨ev', -, hreq, heq⟩ | heq | heq
  · rw [heq]
    have hfin : ({ s with waitingResponse := s.waitingResponse.erase id, handling := none } :
        World Ev Resp).finish id (.returned (.ok resp)) = some { s with
          waitingResponse := s.waitingResponse.erase id
          handling := none
          requests := Function.update s.requests id (some ⟨ev', .returned (.ok resp)⟩) } :=
      finish_eq_some.mpr ⟨ev', hreq, rfl⟩
    apply hi'.finish hfin
    intro e he
    -- the caller waiting under the id sent the event handled
    have hev := hi.handled id ev hh
    rw [show s.requests id = some ⟨e, .waiting⟩ from he] at hev
    cases hev
    exact hresp
  · rw [heq]
    exact hi'.stop _
  · rw [heq]
    exact hi.stop _

theorem Inv.handleEvent (hi : Inv respond s) (h : s.handleEvent respond = some s') : Inv respond s' := by
  obtain ⟨-, id, ev, hh, ⟨resp, hresp, rfl⟩ | ⟨-, rfl⟩⟩ := handleEvent_cases h
  · exact hi.sendToSender hh hresp
  · exact hi.stop _

theorem Inv.step (hi : Inv respond s) {a : Action Ev} (h : s.step respond a = some s') : Inv respond s' := by
  cases a with
  | sendToHandler ev => exact hi.sendToHandler h
  | recvFromSender => exact hi.recvFromSender h
  | handleEvent => exact hi.handleEvent h
  | timeOut id => exact hi.finish h fun _ _ => trivial
  | cancel id => exact hi.finish h fun _ _ => trivial
  | dropSenders =>
      cases h
      exact ⟨hi.fresh, hi.queued, hi.handled, hi.sound⟩

theorem Inv.run (hi : Inv respond s) {acts : List (Action Ev)} (h : s.run respond acts = some s') :
    Inv respond s' :=
  History.foldlM_invariant (Inv respond) (fun _ _ _ _ hi h => hi.step h) hi h

theorem run_nil (s : World Ev Resp) : s.run respond [] = some s := rfl

theorem run_cons (s : World Ev Resp) (a : Action Ev) (acts : List (Action Ev)) :
    s.run respond (a :: acts) = (s.step respond a).bind fun s₁ => s₁.run respond acts := rfl

theorem run_append (s : World Ev Resp) (acts acts' : List (Action Ev)) :
    s.run respond (acts ++ acts') = (s.run respond acts).bind fun s₁ => s₁.run respond acts' := by
  simp only [run, List.foldlM_append, Option.bind_eq_bind]

/-- Whatever the requesters, their timeouts and the handler do, a call of
`send_to_handler` that returns a response returns the response to its own
event, and one that returns `ChannelDropped` returns its own event. -/
theorem run_sound {n : Nat} {acts : List (Action Ev)} (h : (init n).run respond acts = some s)
    {id : Nat} {req : Request Ev Resp} (hreq : s.requests id = some req) :
    req.outcome.Sound respond req.ev :=
  ((inv_init respond n).run h).sound id req hreq

/-- A call answered by an executor that adds one to its event. -/
theorem run_sound_answered :
    let respond : Nat → Option Nat := fun e => some (e + 1)
    ∃ s, (init 0 : World Nat Nat).run respond [.sendToHandler 7, .recvFromSender, .handleEvent] = some s ∧
      s.requests 0 = some ⟨7, .returned (.ok 8)⟩ ∧ Outcome.Sound respond 7 (.returned (.ok 8)) := by
  intro respond
  let s := ((init 0 : World Nat Nat).run respond [.sendToHandler 7, .recvFromSender, .handleEvent]).get rfl
  have h : (init 0 : World Nat Nat).run respond [.sendToHandler 7, .recvFromSender, .handleEvent] = some s :=
    (Option.some_get _).symm
  have hreq : s.requests 0 = some ⟨7, .returned (.ok 8)⟩ := rfl
  exact ⟨s, h, hreq, run_sound h hreq⟩

/-! ### A caller that times out while its event is handled -/

/-- `contract_handling` has ended with `x`, and every call from the id `n`
on has found the queue's receiver gone. -/
structure Stopped (x : HandlerExit Ev) (n : Nat) (s : World Ev Resp) : Prop where
  exit : s.exit = some x
  refused : ∀ id, n ≤ id → ∀ req, s.requests id = some req →
    req.outcome = .returned (.error (.channelDropped req.ev))

theorem stopped_stop (x : HandlerExit Ev) (hfresh : ∀ id, s.evId ≤ id → s.requests id = none) :
    Stopped x s.evId (s.stop x) := by
  refine ⟨rfl, fun id hle req h => ?_⟩
  rw [stop_requests, hfresh id hle, Option.map_none] at h
  cases h

theorem Stopped.finish {x : HandlerExit Ev} {n : Nat} (hs : Stopped x n s) {id : Nat}
    {o : Outcome Ev Resp} (h : s.finish id o = some s') : Stopped x n s' := by
  obtain ⟨ev, hreq, rfl⟩ := finish_eq_some.mp h
  refine ⟨hs.exit, fun i hle req hreq' => ?_⟩
  -- a refused call is not waiting, so the call that ends is an earlier one
  have hne : i ≠ id := by
    rintro rfl
    have hrefused := hs.refused i hle _ hreq
    cases hrefused
  dsimp only at hreq'
  rw [Function.update_of_ne hne] at hreq'
  exact hs.refused i hle req hreq'

theorem Stopped.step {x : HandlerExit Ev} {n : Nat} (hs : Stopped x n s) {a : Action Ev}
    (h : s.step respond a = some s') : Stopped x n s' := by
  cases a with
  | sendToHandler ev =>
      obtain ⟨-, ⟨hx, -⟩ | ⟨-, rfl⟩⟩ := sendToHandler_cases h
      · rw [hs.exit] at hx
        cases hx
      · -- the new call is refused
        refine ⟨hs.exit, fun id hle req hreq => ?_⟩
        exact forall_update_some
          (P := fun id req => n ≤ id → req.outcome = .returned (.error (.channelDropped req.ev)))
          (fun _ => rfl) (fun i q _ hq hle => hs.refused i hle q hq) id req hreq hle
  | recvFromSender =>
      obtain ⟨hx, -⟩ := recvFromSender_cases h
      rw [hs.exit] at hx
      cases hx
  | handleEvent =>
      obtain ⟨hx, -⟩ := handleEvent_cases h
      rw [hs.exit] at hx
      cases hx
  | timeOut id => exact hs.finish h
  | cancel id => exact hs.finish h
  | dropSenders =>
      cases h
      exact ⟨hs.exit, hs.refused⟩

theorem Stopped.run {x : HandlerExit Ev} {n : Nat} (hs : Stopped x n s) {acts : List (Action Ev)}
    (h : s.run respond acts = some s') : Stopped x n s' :=
  History.foldlM_invariant (Stopped x n) (fun _ _ _ _ hs h => hs.step h) hs h

/-- The handler answers a caller that has already returned: the send fails,
and `contract_handling` returns the error. -/
theorem handleEvent_of_returned {id : Nat} {ev : Ev} {resp : Resp} {r : Except (ChannelError Ev) Resp}
    (hx : s.exit = none) (hh : s.handling = some (id, ev)) (hresp : respond ev = some resp)
    (hmem : id ∈ s.waitingResponse) (hreq : s.requests id = some ⟨ev, .returned r⟩) :
    s.handleEvent respond = some ({ s with waitingResponse := s.waitingResponse.erase id, handling := none }.stop
      (.error .noEvHandlerResponse)) := by
  rcases s with ⟨evId, requests, queue, waitingResponse, handling, exit, sendersDropped⟩
  dsimp only at hx hh hmem hreq
  subst hx hh
  have hfin : (⟨evId, requests, queue, waitingResponse.erase id, none, none, sendersDropped⟩ :
      World Ev Resp).finish id (.returned (.ok resp)) = none := by
    simp only [finish, hreq]
  simp only [handleEvent, hresp, sendToSender, if_pos hmem, hfin]

/-- A caller that times out while the handler runs its event ends
`contract_handling` with `NoEvHandlerResponse`, whether or not any sender is
gone, and every later call is refused. -/
theorem stopped_of_timeOut (hi : Inv respond s) {id : Nat} {ev : Ev} {resp : Resp}
    (hx : s.exit = none) (hh : s.handling = some (id, ev)) (hresp : respond ev = some resp)
    (hmem : id ∈ s.waitingResponse) (hreq : s.requests id = some ⟨ev, .waiting⟩) :
    ∃ s', s.run respond [.timeOut id, .handleEvent] = some s' ∧
      Stopped (.error .noEvHandlerResponse) s.evId s' ∧ s'.sendersDropped = s.sendersDropped ∧
      s'.requests id = some ⟨ev, .returned (.error .noEvHandlerResponse)⟩ := by
  set s₁ : World Ev Resp := { s with
    requests := Function.update s.requests id (some ⟨ev, .returned (.error .noEvHandlerResponse)⟩) } with hs₁
  have h₁ : s.step respond (.timeOut id) = some s₁ := finish_eq_some.mpr ⟨ev, hreq, rfl⟩
  have h₂ : s₁.step respond .handleEvent = some ({ s₁ with
      waitingResponse := s₁.waitingResponse.erase id, handling := none }.stop (.error .noEvHandlerResponse)) :=
    handleEvent_of_returned hx hh hresp hmem (Function.update_self _ _ _)
  have hlt := hi.lt_evId hreq
  refine ⟨{ s₁ with waitingResponse := s₁.waitingResponse.erase id, handling := none }.stop
    (.error .noEvHandlerResponse), ?_, ?_, rfl, ?_⟩
  · rw [run_cons, h₁, Option.bind_some, run_cons, h₂, Option.bind_some, run_nil]
  · -- the ids from the counter on are still unused when the loop ends
    refine stopped_stop (s := { s₁ with waitingResponse := s₁.waitingResponse.erase id, handling := none }) _ ?_
    intro i hle
    rw [hs₁] at hle ⊢
    dsimp only at hle ⊢
    rw [Function.update_of_ne (by omega)]
    exact hi.fresh i hle
  · rw [stop_requests, hs₁]
    dsimp only
    rw [Function.update_self]
    rfl

/-! ### Callers that wait for their answers -/

/-- What a run in which no caller gives up keeps: each event queued or
handled has its caller waiting, the handled one filed in the map and gone
from the queue, the queue's ids are distinct, and the loop has ended only
once every sender was gone. -/
structure Live (s : World Ev Resp) : Prop where
  queued : ∀ id ev, (id, ev) ∈ s.queue → s.requests id = some ⟨ev, .waiting⟩
  nodup : (s.queue.map Prod.fst).Nodup
  handled : ∀ id ev, s.handling = some (id, ev) →
    id ∈ s.waitingResponse ∧ s.requests id = some ⟨ev, .waiting⟩ ∧ id ∉ s.queue.map Prod.fst
  exit : ∀ x, s.exit = some x → x = .error .noEvHandlerResponse ∧ s.sendersDropped = true

theorem live_init (n : Nat) : Live (init n : World Ev Resp) where
  queued _ _ h := (List.not_mem_nil h).elim
  nodup := List.nodup_nil
  handled _ _ h := by cases h
  exit _ h := by cases h

theorem Live.sendToHandler (hl : Live s) (hi : Inv respond s) {ev : Ev} (h : s.sendToHandler ev = some s') :
    Live s' := by
  obtain ⟨hsd, ⟨hx, rfl⟩ | ⟨hx, -⟩⟩ := sendToHandler_cases h
  · -- the requests in use keep their ids, all below the counter
    have hne : ∀ i, (s.requests i).isSome → i ≠ s.evId := fun i hsome => by
      obtain ⟨r, hr⟩ := Option.isSome_iff_exists.mp hsome
      exact Nat.ne_of_lt (hi.lt_evId hr)
    have hqne : s.evId ∉ s.queue.map Prod.fst := by
      intro hmem
      obtain ⟨⟨i, e⟩, hq, hi⟩ := List.mem_map.mp hmem
      exact hne i (by rw [hl.queued i e hq]; rfl) hi
    refine ⟨fun i e hmem => ?_, ?_, fun i e hh => ?_, fun x h => by rw [hx] at h; cases h⟩
    · dsimp only at hmem ⊢
      rcases List.mem_append.mp hmem with hq | hq
      · rw [Function.update_of_ne (hne i (by rw [hl.queued i e hq]; rfl))]
        exact hl.queued i e hq
      · rw [List.mem_singleton, Prod.mk.injEq] at hq
        obtain ⟨rfl, rfl⟩ := hq
        exact Function.update_self _ _ _
    · dsimp only
      rw [List.map_append, List.nodup_append]
      refine ⟨hl.nodup, by simp, ?_⟩
      intro a ha b hb
      rw [List.map_singleton, List.mem_singleton] at hb
      rw [hb]
      rintro rfl
      exact hqne ha
    · obtain ⟨hmem, hreq, hnq⟩ := hl.handled i e hh
      have hi' := hne i (by rw [hreq]; rfl)
      refine ⟨hmem, ?_, ?_⟩
      · dsimp only
        rw [Function.update_of_ne hi']
        exact hreq
      · dsimp only
        rw [List.map_append, List.mem_append, not_or]
        refine ⟨hnq, ?_⟩
        rw [List.map_singleton, List.mem_singleton]
        exact hi'
  · -- a stopped loop has seen every sender go, so no call is made
    obtain ⟨x, hxs⟩ := Option.isSome_iff_exists.mp hx
    rw [(hl.exit x hxs).2] at hsd
    cases hsd

theorem live_stop (hsd : s.sendersDropped = true) :
    Live (s.stop (.error .noEvHandlerResponse)) where
  queued _ _ h := (List.not_mem_nil h).elim
  nodup := List.nodup_nil
  handled _ _ h := by cases h
  exit x h := by
    rw [stop_exit, Option.some.injEq] at h
    exact ⟨h.symm, hsd⟩

theorem Live.recvFromSender (hl : Live s) (h : s.recvFromSender = some s') : Live s' := by
  obtain ⟨hx, -, ⟨id, ev, rest, hq, rfl⟩ | ⟨-, hsd, rfl⟩⟩ := recvFromSender_cases h
  · have hnodup := hl.nodup
    rw [hq, List.map_cons, List.nodup_cons] at hnodup
    refine ⟨fun i e hmem => hl.queued i e (by rw [hq]; exact List.mem_cons_of_mem _ hmem), hnodup.2,
      fun i e hh => ?_, fun x h => by rw [hx] at h; cases h⟩
    -- the event taken is the head of the queue
    simp only [Option.some.injEq, Prod.mk.injEq] at hh
    obtain ⟨hid, hev⟩ := hh
    subst hid hev
    exact ⟨List.mem_insert_self, hl.queued id ev (by rw [hq]; exact List.mem_cons_self), hnodup.1⟩
  · exact live_stop hsd

theorem Live.handleEvent (hl : Live s) (htotal : ∀ ev, (respond ev).isSome)
    (h : s.handleEvent respond = some s') : Live s' := by
  obtain ⟨hx, id, ev, hh, ⟨resp, -, rfl⟩ | ⟨hnone, -⟩⟩ := handleEvent_cases h
  · obtain ⟨hmem, hreq, hnq⟩ := hl.handled id ev hh
    rw [sendToSender_of_waiting hmem hreq]
    -- the caller answered is not one of those queued
    have hne : ∀ i e, (i, e) ∈ s.queue → i ≠ id := fun i e hq heq =>
      hnq (List.mem_map.mpr ⟨(i, e), hq, heq⟩)
    refine ⟨fun i e hq => ?_, hl.nodup, (fun _ _ h => by cases h), fun x h => by rw [hx] at h; cases h⟩
    dsimp only at hq ⊢
    rw [Function.update_of_ne (hne i e hq)]
    exact hl.queued i e hq
  · have hsome := htotal ev
    rw [hnone] at hsome
    cases hsome

theorem Live.step (hl : Live s) (hi : Inv respond s) (htotal : ∀ ev, (respond ev).isSome)
    {a : Action Ev} (ha : a.givesUp = false) (h : s.step respond a = some s') : Live s' := by
  cases a with
  | sendToHandler ev => exact hl.sendToHandler hi h
  | recvFromSender => exact hl.recvFromSender h
  | handleEvent => exact hl.handleEvent htotal h
  | timeOut id => cases ha
  | cancel id => cases ha
  | dropSenders =>
      cases h
      refine ⟨hl.queued, hl.nodup, hl.handled, fun x hx => ⟨(hl.exit x hx).1, rfl⟩⟩

theorem Live.run (hl : Live s) (hi : Inv respond s) (htotal : ∀ ev, (respond ev).isSome)
    {acts : List (Action Ev)} (hacts : ∀ a ∈ acts, a.givesUp = false) (h : s.run respond acts = some s') :
    Live s' :=
  -- `Live` is kept together with `Inv`, which its step needs
  (History.foldlM_invariant (fun s => Live s ∧ Inv respond s)
    (fun _ a _ ha hs h => ⟨hs.1.step hs.2 htotal (hacts a ha) h, hs.2.step h⟩) ⟨hl, hi⟩ h).1

/-- While no caller gives up and the executor answers every event,
`contract_handling` ends only once every sender is gone, and then with
`NoEvHandlerResponse`. -/
theorem run_exit_of_waiting (htotal : ∀ ev, (respond ev).isSome) {n : Nat} {acts : List (Action Ev)}
    (hacts : ∀ a ∈ acts, a.givesUp = false) (h : (init n).run respond acts = some s)
    {x : HandlerExit Ev} (hx : s.exit = some x) :
    x = .error .noEvHandlerResponse ∧ s.sendersDropped = true :=
  ((live_init n).run (inv_init respond n) htotal hacts h).exit x hx

/-- The handler answers a call, every sender goes, and the loop ends. -/
theorem run_exit_of_waiting_dropped :
    let respond : Nat → Option Nat := fun e => some (e + 1)
    let acts : List (Action Nat) :=
      [.sendToHandler 7, .recvFromSender, .handleEvent, .dropSenders, .recvFromSender]
    ∃ s, (init 0 : World Nat Nat).run respond acts = some s ∧
      s.exit = some (.error .noEvHandlerResponse) ∧ s.sendersDropped = true := by
  intro respond acts
  let s := ((init 0 : World Nat Nat).run respond acts).get rfl
  have h : (init 0 : World Nat Nat).run respond acts = some s := (Option.some_get _).symm
  have hx : s.exit = some (.error .noEvHandlerResponse) := rfl
  exact ⟨s, h, hx, (run_exit_of_waiting (fun _ => rfl) (by decide) h hx).2⟩

end World

section Timeouts

open World

/-- A call that times out while the handler runs its event ends
`contract_handling` with `NoEvHandlerResponse`, though no sender is gone:
every later call is refused with `ChannelDropped`, and no event is handled
again. -/
theorem timed_out_call_stops_handler (respond : Ev → Option Resp) {ev : Ev} {resp : Resp}
    (hresp : respond ev = some resp) (n : Nat) :
    ∃ s, (init n).run respond [.sendToHandler ev, .recvFromSender, .timeOut n, .handleEvent] = some s ∧
      s.requests n = some ⟨ev, .returned (.error .noEvHandlerResponse)⟩ ∧
      s.exit = some (.error .noEvHandlerResponse) ∧ s.sendersDropped = false ∧
      ∀ acts s', s.run respond acts = some s' →
        s'.exit = some (.error .noEvHandlerResponse) ∧
          ∀ id, n < id → ∀ req, s'.requests id = some req →
            req.outcome = .returned (.error (.channelDropped req.ev)) := by
  -- the call is queued and the handler takes it
  have h₂ : (init n).run respond [.sendToHandler ev, .recvFromSender] = some ⟨n + 1, Function.update (fun _ => none) n (some ⟨ev, .waiting⟩), [], [n], some (n, ev), none,
        false⟩ := rfl
  obtain ⟨s, hrun, hstop, hsd, hreq⟩ := stopped_of_timeOut ((inv_init respond n).run h₂) rfl rfl hresp
    (List.mem_singleton_self n) (Function.update_self n (some (⟨ev, .waiting⟩ : Request Ev Resp)) fun _ => none)
  have hall : (init n).run respond ([.sendToHandler ev, .recvFromSender] ++ [.timeOut n, .handleEvent]) =
      some s := by
    rw [run_append, h₂, Option.bind_some, hrun]
  refine ⟨s, hall, hreq, hstop.exit, hsd, fun acts s' h => ?_⟩
  have hs' := hstop.run h
  exact ⟨hs'.exit, fun id hlt => hs'.refused id hlt⟩

/-- The executor answers each event with itself; the call takes the id
`0`. -/
theorem timed_out_call_stops_handler_seven :
    ∃ s, (init 0 : World Nat Nat).run some [.sendToHandler 7, .recvFromSender, .timeOut 0, .handleEvent] =
        some s ∧
      s.requests 0 = some ⟨7, .returned (.error .noEvHandlerResponse)⟩ ∧
      s.exit = some (.error .noEvHandlerResponse) ∧ s.sendersDropped = false ∧
      ∀ acts s', s.run some acts = some s' →
        s'.exit = some (.error .noEvHandlerResponse) ∧
          ∀ id, 0 < id → ∀ req, s'.requests id = some req →
            req.outcome = .returned (.error (.channelDropped req.ev)) :=
  timed_out_call_stops_handler some rfl 0

end Timeouts

end FreenetCore.Contract.Handler
