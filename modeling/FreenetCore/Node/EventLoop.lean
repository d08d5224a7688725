import FreenetCore.Node.OpManager
import FreenetCore.Operations.Common

/-!
The callback from the event loop to the executor (`p2p_protoc.rs`,
`node.rs`, `contract/executor.rs`).

An executor that needs the network for a contract (`op_request`) announces
the operation's transaction on `waiting_for_op` and starts the operation,
which sends its first message to the event loop (`notify_op_change`). The
loop, in a `select!` over its channels, files announced transactions in
`pending_from_executor`; for each message it takes it spawns a
`process_message` task, and hands the task the executor's callback when the
message's transaction is pending, removing it from the set. So the callback
goes with the first message of the transaction that the loop takes after
the announcement, whichever message that is. `report_result` sends a result
through the callback only when the operation finished at that task
(`Ok(Some(op))`); the task drops the callback otherwise.

The executor waits on `response_for_rx` (`receive_op_result`), filing the
results of other transactions in its `completed` map and sleeping between
tries (`CallbackError::MissingResult`).

`select!` picks among its ready branches in any order: at each step the loop
takes the next announcement or any waiting message, and any running task may
end.
-/

namespace FreenetCore.Node

open FreenetCore.Operations

/-- What `handle_op_request` gives `process_message`: `load_or_init` found
the transaction running or completed (`OpError::OpNotAvailable`), or the
result of `handle_op_result`. -/
inductive RequestOutcome (ω : Type)
  | notAvailable (s : OpNotAvailable)
  | handled (r : Except OpError (Option ω))

/-- A spawned `process_message` task: the transaction of its message, and
whether it holds the executor's callback. -/
structure Task where
  tx : Transaction
  callback : Bool

/-- The event loop's `pending_from_executor`, the messages it has not taken
yet, the tasks it spawned, and the two channels to the executor with the
executor's `completed` map. Results are operations of type `ω`, with the
transaction they are for. -/
structure EventLoop (ω : Type) where
  pendingFromExecutor : Transaction → Bool
  waitingForOp : List Transaction
  messages : List Transaction
  tasks : List Task
  responseFor : List (Transaction × ω)
  completed : Transaction → Option ω

/-- What happens at a node: an `op_request` of the executor, a message
arriving from the network, the loop's `select!` taking an announcement or
the `i`-th waiting message, the `i`-th task ending, and one
`receive_op_result` of the executor. -/
inductive LoopEvent (ω : Type)
  | opRequest (tx : Transaction)
  | arrive (tx : Transaction)
  | fromExecutor
  | message (i : Nat)
  | finish (i : Nat) (r : RequestOutcome ω)
  | receive (tx : Transaction)

/-- Whether an event announces `tx`: `op_request` starts a fresh transaction
each time, so no later event announces it again. -/
def LoopEvent.announces {ω : Type} (tx : Transaction) : LoopEvent ω → Bool
  | .opRequest id => id == tx
  | _ => false

/-- What `receive_op_result` gives: the executor waits on `response_for_rx`,
or it gets its result, or it got another transaction's and tries again. -/
inductive Received (ω : Type)
  | waiting
  | result (op : ω)
  | missingResult

def Received.isResult {ω : Type} : Received ω → Bool
  | .result _ => true
  | _ => false

namespace EventLoop

variable {ω : Type}

/-- A node with nothing announced, waiting or running. -/
def new : EventLoop ω :=
  ⟨fun _ => false, [], [], [], [], fun _ => none⟩

/-- What `report_result` sends the executor when the task ends with `r`:
the operation, when it finished here and the task holds the callback. An
error marks the transaction completed in the op manager, which this model
leaves out. -/
def reportResult (task : Task) : RequestOutcome ω → List (Transaction × ω)
  | .handled (.ok (some op)) => if task.callback then [(task.tx, op)] else []
  | _ => []

/-- `receive_op_result` for the transaction `tx`. -/
def receiveOpResult (n : EventLoop ω) (tx : Transaction) : EventLoop ω × Received ω :=
  match n.completed tx with
  | some op => ({ n with completed := Function.update n.completed tx none }, .result op)
  | none =>
      match n.responseFor with
      | [] => (n, .waiting)
      | (id, op) :: rest =>
          if id = tx then ({ n with responseFor := rest }, .result op)
          else
            ({ n with responseFor := rest, completed := Function.update n.completed id (some op) },
              .missingResult)

/-- One event; `none` is an event that cannot happen in this state (a branch
of `select!` that is not ready, a task that does not exist). -/
def step (n : EventLoop ω) : LoopEvent ω → Option (EventLoop ω)
  | .opRequest tx =>
      -- `send_to_event_loop`: the announcement, then the first message
      some { n with waitingForOp := n.waitingForOp ++ [tx], messages := n.messages ++ [tx] }
  | .arrive tx => some { n with messages := n.messages ++ [tx] }
  | .fromExecutor =>
      match n.waitingForOp with
      | [] => none
      | tx :: rest =>
          some { n with waitingForOp := rest,
                        pendingFromExecutor := Function.update n.pendingFromExecutor tx true }
  | .message i =>
      match n.messages[i]? with
      | none => none
      | some tx =>
          some { n with messages := n.messages.eraseIdx i,
                        pendingFromExecutor := Function.update n.pendingFromExecutor tx false,
                        tasks := n.tasks ++ [⟨tx, n.pendingFromExecutor tx⟩] }
  | .finish i r =>
      match n.tasks[i]? with
      | none => none
      | some task =>
          match r with
          -- `handle_op_not_available!`: sleep and try the message again
          | .notAvailable .running => some n
          | r => some { n with tasks := n.tasks.eraseIdx i,
                               responseFor := n.responseFor ++ reportResult task r }
  | .receive tx => some (n.receiveOpResult tx).1

/-- A run of events. -/
def run (n : EventLoop ω) (es : List (LoopEvent ω)) : Option (EventLoop ω) :=
  es.foldlM step n

@[simp] theorem run_nil (n : EventLoop ω) : n.run [] = some n := rfl

@[simp] theorem run_cons (n : EventLoop ω) (e : LoopEvent ω) (es : List (LoopEvent ω)) :
    n.run (e :: es) = (n.step e).bind fun n' => n'.run es := rfl

theorem run_append (n : EventLoop ω) (es fs : List (LoopEvent ω)) :
    n.run (es ++ fs) = (n.run es).bind fun n' => n'.run fs := by
  simp [run, List.foldlM_append]

end EventLoop

/-! ### A dropped callback -/

section Unanswered

variable {ω : Type} {tx : Transaction}

/-- Nothing can answer `tx` any more: it is neither announced nor pending, no
task holds its callback, and no result of it waits for the executor. -/
structure Unanswered (tx : Transaction) (n : EventLoop ω) : Prop where
  notPending : n.pendingFromExecutor tx = false
  notAnnounced : tx ∉ n.waitingForOp
  noCallback : ∀ t ∈ n.tasks, t.tx = tx → t.callback = false
  noResponse : ∀ p ∈ n.responseFor, p.1 ≠ tx
  notCompleted : n.completed tx = none

theorem reportResult_ne {task : Task} {r : RequestOutcome ω}
    (h : task.tx = tx → task.callback = false) : ∀ p ∈ EventLoop.reportResult task r, p.1 ≠ tx := by
  intro p hp
  unfold EventLoop.reportResult at hp
  split at hp
  · split at hp
    · rename_i hcb
      obtain rfl := List.mem_singleton.mp hp
      intro heq
      simp [h heq] at hcb
    · cases hp
  · cases hp

/-- The executor's own receive never finds a result for `tx`. -/
theorem receiveOpResult_unanswered {n : EventLoop ω} (t : Transaction) (hu : Unanswered tx n) :
    Unanswered tx (n.receiveOpResult t).1 ∧
      (t = tx → (n.receiveOpResult t).2.isResult = false) := by
  unfold EventLoop.receiveOpResult
  split
  · rename_i op hop
    have hne : t ≠ tx := by
      rintro rfl
      simp [hu.notCompleted] at hop
    refine ⟨⟨hu.1, hu.2, hu.3, hu.4, ?_⟩, fun h => absurd h hne⟩
    simp [Function.update_of_ne hne.symm, hu.notCompleted]
  · split
    · exact ⟨hu, fun _ => rfl⟩
    · rename_i id op rest hq
      have hid : id ≠ tx := hu.noResponse (id, op) (by simp [hq])
      have hrest : ∀ p ∈ rest, p.1 ≠ tx := fun p hp => hu.noResponse p (by simp [hq, hp])
      split
      · rename_i heq
        exact ⟨⟨hu.1, hu.2, hu.3, hrest, hu.5⟩, fun h => absurd (heq.trans h) hid⟩
      · refine ⟨⟨hu.1, hu.2, hu.3, hrest, ?_⟩, fun _ => rfl⟩
        simp [Function.update_of_ne hid.symm, hu.notCompleted]

theorem step_unanswered {n n' : EventLoop ω} {e : LoopEvent ω} (h : n.step e = some n')
    (he : e.announces tx = false) (hu : Unanswered tx n) : Unanswered tx n' := by
  cases e with
  | opRequest id =>
      cases h
      have hne : id ≠ tx := by simpa [LoopEvent.announces] using he
      exact ⟨hu.1, by simp [hu.2, hne.symm], hu.3, hu.4, hu.5⟩
  | arrive id => cases h; exact ⟨hu.1, hu.2, hu.3, hu.4, hu.5⟩
  | fromExecutor =>
      simp only [EventLoop.step] at h
      split at h
      · cases h
      · rename_i id rest hw
        cases h
        have hne : id ≠ tx := fun heq => hu.2 (by simp [hw, heq])
        refine ⟨by simp [Function.update_of_ne hne.symm, hu.1], fun hm => hu.2 (by simp [hw, hm]),
          hu.3, hu.4, hu.5⟩
  | message i =>
      simp only [EventLoop.step] at h
      split at h
      · cases h
      · rename_i id _
        cases h
        -- the new task takes the callback only if `id` was pending, and `tx` is not
        refine ⟨?_, hu.2, ?_, hu.4, hu.5⟩
        · by_cases hid : id = tx
          · subst hid; simp
          · simp [Function.update_of_ne (Ne.symm hid), hu.1]
        · intro t ht htx
          rcases List.mem_append.mp ht with ht | ht
          · exact hu.3 t ht htx
          · obtain rfl := List.mem_singleton.mp ht
            simp only at htx
            subst htx
            exact hu.1
  | finish i r =>
      simp only [EventLoop.step] at h
      split at h
      · cases h
      · rename_i task htask
        have hcb := hu.3 task (List.mem_of_getElem? htask)
        split at h
        · cases h; exact hu
        · cases h
          refine ⟨hu.1, hu.2, fun t ht => hu.3 t (List.mem_of_mem_eraseIdx ht), ?_, hu.5⟩
          intro p hp
          rcases List.mem_append.mp hp with hp | hp
          · exact hu.4 p hp
          · exact reportResult_ne hcb p hp
  | receive t =>
      cases h
      exact (receiveOpResult_unanswered t hu).1

theorem run_unanswered {n n' : EventLoop ω} {es : List (LoopEvent ω)} (h : n.run es = some n')
    (hes : ∀ e ∈ es, e.announces tx = false) (hu : Unanswered tx n) : Unanswered tx n' :=
  History.foldlM_invariant (Unanswered tx) (fun _ e _ he hu h => step_unanswered h (hes e he) hu) hu h

/-- A task that ends, other than to try again, leaves the task list and
sends what `report_result` sends. -/
theorem step_finish {n : EventLoop ω} {i : Nat} {task : Task} {r : RequestOutcome ω}
    (htask : n.tasks[i]? = some task) (hr : r ≠ .notAvailable .running) :
    n.step (.finish i r) =
      some { n with
        tasks := n.tasks.eraseIdx i
        responseFor := n.responseFor ++ EventLoop.reportResult task r } := by
  -- the arm for any other outcome applies once `hr`, from the context, rules out the first
  simp only [EventLoop.step, htask]

/-- The loop takes the announcement of an `op_request` before its first
message, which then takes the callback. When handling that message does not
finish the operation here (the originator's own first message pushes its
operation on and gives `Ok(None)`) or fails, the callback is dropped: after
any events that follow, the executor's `receive_op_result` never gets a
result for the transaction, and `op_request` waits for ever. -/
theorem opRequest_never_answered (tx : Transaction) (r : RequestOutcome ω)
    (hrun : r ≠ .notAvailable .running) (hfinal : ∀ op, r ≠ .handled (.ok (some op)))
    (es : List (LoopEvent ω)) (hes : ∀ e ∈ es, e.announces tx = false) (n : EventLoop ω)
    (h : EventLoop.new.run ([.opRequest tx, .fromExecutor, .message 0, .finish 0 r] ++ es) = some n) :
    (n.receiveOpResult tx).2.isResult = false := by
  have htaken : (EventLoop.new : EventLoop ω).run [.opRequest tx, .fromExecutor, .message 0] =
      some ⟨Function.update (Function.update (fun _ => false) tx true) tx false, [], [],
        [⟨tx, true⟩], [], fun _ => none⟩ := by
    simp [EventLoop.new, EventLoop.step]
  have hsent : EventLoop.reportResult (ω := ω) ⟨tx, true⟩ r = [] := by
    unfold EventLoop.reportResult
    split
    · rename_i op; exact absurd rfl (hfinal op)
    · rfl
  -- the task holding the callback ends and sends nothing
  have hdropped : (EventLoop.new : EventLoop ω).run
      [.opRequest tx, .fromExecutor, .message 0, .finish 0 r] =
      some ⟨Function.update (Function.update (fun _ => false) tx true) tx false, [], [], [], [],
        fun _ => none⟩ := by
    rw [show [.opRequest tx, .fromExecutor, .message 0, .finish 0 r] =
        [.opRequest tx, .fromExecutor, .message 0] ++ [LoopEvent.finish 0 r] from rfl,
      EventLoop.run_append, htaken, Option.bind_some, EventLoop.run_cons, step_finish rfl hrun]
    simp [hsent]
  rw [EventLoop.run_append, hdropped, Option.bind_some] at h
  have hu : Unanswered tx n :=
    run_unanswered h hes ⟨by simp, by simp, by simp, by simp, rfl⟩
  exact (receiveOpResult_unanswered tx hu).2 rfl

theorem opRequest_never_answered_get :
    let tx := Transaction.new .get 0
    let first : RequestOutcome Unit := .handled (.ok none)
    let es : List (LoopEvent Unit) :=
      [.arrive tx, .message 0, .finish 0 (.handled (.ok (some ()))), .receive tx]
    first ≠ .notAvailable .running ∧ (∀ op, first ≠ .handled (.ok (some op))) ∧
      (∀ e ∈ es, e.announces tx = false) ∧
      ∃ n, EventLoop.new.run ([.opRequest tx, .fromExecutor, .message 0, .finish 0 first] ++ es) =
          some n ∧ (n.receiveOpResult tx).2.isResult = false := by
  intro tx first es
  have hes : ∀ e ∈ es, e.announces tx = false := by
    intro e he
    simp only [es, List.mem_cons, List.not_mem_nil, or_false] at he
    rcases he with rfl | rfl | rfl | rfl <;> rfl
  have hfirst : first ≠ .notAvailable .running := by simp [first]
  have hfinal : ∀ op, first ≠ .handled (.ok (some op)) := by simp [first]
  exact ⟨hfirst, hfinal, hes, _, rfl, opRequest_never_answered tx first hfirst hfinal es hes _ rfl⟩

end Unanswered

end FreenetCore.Node
