import FreenetCore.Message
import FreenetCore.Lib.MachineInt
import FreenetCore.Lib.Since

/-!
The operation manager and its garbage collector (`node/op_state_manager.rs`).

A node keeps the operations it is running in five maps, one per transaction
type, with two sets beside them: `completed` (transactions that must not be
picked up again) and `under_progress` (transactions whose operation a task has
taken out of its map). A task processing a message of a transaction takes
the operation out with `pop`, and puts it back with `push` or marks the
transaction `completed` (`handle_op_result`, `report_result`).

`push` also sends the id to the garbage collector, which files it in its
`ttl_set` and, at each tick, takes out the ids older than `OPERATION_TTL`:
an id still under progress is set aside in `delayed` and looked at again at
the next tick. The collector learns only of pushed ids.

Each call is atomic here; the maps and sets are `DashMap`s and `DashSet`s, so
it is their individual operations that are, and `pop` is four of them in a
row (`PopStage`).
-/

namespace FreenetCore.Node

open MachineInt

/-- `OpNotAvailable`. -/
inductive OpNotAvailable
  | running
  | completed
  deriving DecidableEq, Repr

/-- The error of a `push` in a debug build (`OpError::IncorrectTxType`). -/
inductive PushError
  | incorrectTxType (expected actual : TransactionType)
  deriving DecidableEq

/-- `Ops`: the five maps, as one per transaction type, and the two sets, as
their indicators. An operation is of any type `ω`. -/
structure Ops (ω : Type) where
  ops : TransactionType → Transaction → Option ω
  completed : Transaction → Bool
  underProgress : Transaction → Bool

namespace Ops

variable {ω : Type}

/-- `insert` into the map of a type. -/
def insert (o : Ops ω) (ty : TransactionType) (id : Transaction) (op : ω) : Ops ω :=
  { o with ops := Function.update o.ops ty (Function.update (o.ops ty) id (some op)) }

/-- `remove` from the map of a type. -/
def remove (o : Ops ω) (ty : TransactionType) (id : Transaction) : Ops ω :=
  { o with ops := Function.update o.ops ty (Function.update (o.ops ty) id none) }

def setCompleted (o : Ops ω) (id : Transaction) (b : Bool) : Ops ω :=
  { o with completed := Function.update o.completed id b }

def setUnderProgress (o : Ops ω) (id : Transaction) (b : Bool) : Ops ω :=
  { o with underProgress := Function.update o.underProgress id b }

@[simp] theorem insert_completed (o : Ops ω) (ty id op) : (o.insert ty id op).completed = o.completed := rfl
@[simp] theorem insert_underProgress (o : Ops ω) (ty id op) :
    (o.insert ty id op).underProgress = o.underProgress := rfl
@[simp] theorem remove_completed (o : Ops ω) (ty id) : (o.remove ty id).completed = o.completed := rfl
@[simp] theorem remove_underProgress (o : Ops ω) (ty id) :
    (o.remove ty id).underProgress = o.underProgress := rfl
@[simp] theorem setCompleted_underProgress (o : Ops ω) (id b) :
    (o.setCompleted id b).underProgress = o.underProgress := rfl
@[simp] theorem setUnderProgress_completed (o : Ops ω) (id b) :
    (o.setUnderProgress id b).completed = o.completed := rfl
@[simp] theorem setCompleted_ops (o : Ops ω) (id b) : (o.setCompleted id b).ops = o.ops := rfl
@[simp] theorem setUnderProgress_ops (o : Ops ω) (id b) : (o.setUnderProgress id b).ops = o.ops := rfl
@[simp] theorem remove_ops_self (o : Ops ω) (ty id) : (o.remove ty id).ops ty id = none := by
  simp [remove]

end Ops

/-- The operation manager with its collector: the operations, the channel
`new_transactions`, and the collector's `ttl_set` and `delayed` list. The
channel is taken to be read before it fills up (a full channel makes `push`
wait, not fail). -/
structure OpManager (ω : Type) where
  ops : Ops ω
  newTransactions : List Transaction
  ttlSet : List Transaction
  delayed : List Transaction

namespace OpManager

variable {ω : Type}

/-- `OpManager::new` with its collector: nothing stored. -/
def new : OpManager ω :=
  ⟨⟨fun _ _ => none, fun _ => false, fun _ => false⟩, [], [], []⟩

/-- `pop`; `none` is the `unreachable_unchecked` of `transaction_type` on an id
with no type. -/
def pop (m : OpManager ω) (id : Transaction) (now : Nat) :
    Option (OpManager ω × Except OpNotAvailable (Option ω)) :=
  if m.ops.completed id then some (m, .error .completed)
  else if m.ops.underProgress id then
    if id.timedOut now then some ({ m with ops := m.ops.setCompleted id true }, .error .completed)
    else some (m, .error .running)
  else
    match id.transactionType with
    | none => none
    | some ty =>
        some ({ m with ops := (m.ops.remove ty id).setUnderProgress id true }, .ok (m.ops.ops ty id))

/-- `push` of an operation whose `OpEnum` variant is `opType op`. A debug
build checks that variant against the id's type. -/
def push (opType : ω → TransactionType) (profile : Profile) (m : OpManager ω)
    (id : Transaction) (op : ω) (now : Nat) : Option (OpManager ω × Except PushError Unit) :=
  let removed := m.ops.underProgress id
  let m := { m with ops := m.ops.setUnderProgress id false }
  if removed && id.timedOut now then some ({ m with ops := m.ops.setCompleted id true }, .ok ())
  else
    let m := { m with newTransactions := m.newTransactions ++ [id] }
    match profile with
    | .release => some ({ m with ops := m.ops.insert (opType op) id op }, .ok ())
    | .debug =>
        match id.transactionType with
        | none => none
        | some ty =>
            if ty = opType op then some ({ m with ops := m.ops.insert ty id op }, .ok ())
            else some (m, .error (.incorrectTxType (opType op) ty))

/-- `completed`. -/
def completed (m : OpManager ω) (id : Transaction) : OpManager ω :=
  { m with ops := m.ops.setCompleted id true }

/-- The collector takes the next id off its channel into `ttl_set`. -/
def receive (m : OpManager ω) : OpManager ω :=
  match m.newTransactions with
  | [] => m
  | tx :: rest => { m with newTransactions := rest, ttlSet := m.ttlSet.insert tx }

/-- The first loop of `remove_old`, over the ids delayed at the last tick. -/
def retryDelayed (now : Nat) : OpManager ω → List Transaction → Option (OpManager ω)
  | m, [] => some m
  | m, tx :: rest =>
      if m.ops.completed tx then
        -- dropped from `completed`; its `under_progress` entry stays
        retryDelayed now { m with ops := m.ops.setCompleted tx false } rest
      else
        match tx.transactionType with
        | none => none
        | some ty =>
            let stillWaiting := (m.ops.ops ty tx).isNone
            let m := { m with ops := m.ops.remove ty tx }
            if stillWaiting && !tx.timedOut now then
              retryDelayed now { m with delayed := m.delayed ++ [tx] } rest
            else if stillWaiting && tx.timedOut now then
              retryDelayed now
                { m with ops := (m.ops.setUnderProgress tx false).setCompleted tx false } rest
            else retryDelayed now m rest

/-- The second loop of `remove_old`, over the ids split off `ttl_set`. -/
def collectOld (now : Nat) : OpManager ω → List Transaction → Option (OpManager ω)
  | m, [] => some m
  | m, tx :: rest =>
      if m.ops.underProgress tx then collectOld now { m with delayed := m.delayed ++ [tx] } rest
      else if m.ops.completed tx then
        collectOld now { m with ops := m.ops.setCompleted tx false } rest
      else
        match tx.transactionType with
        | none => none
        | some ty => collectOld now { m with ops := m.ops.remove ty tx } rest

/-- `remove_old` at a tick at the time `now`; `rand` are the bits of the ULID
`ttl_transaction` starts from. The ids at or below the cutoff are split off
`ttl_set` for good. -/
def removeOld (now : Nat) (rand : BitVec 128) (m : OpManager ω) : Option (OpManager ω) :=
  (retryDelayed now { m with delayed := [] } m.delayed).bind fun m =>
    let olderThan := Transaction.ttlTransaction now rand
    collectOld now { m with ttlSet := m.ttlSet.filter (fun tx => olderThan.id < tx.id) }
      (m.ttlSet.filter (fun tx => tx.id ≤ olderThan.id))

end OpManager

/-! ### Runs -/

/-- What happens to an op manager: the calls of the tasks that process
messages, and the collector's receptions and ticks. -/
inductive OpEvent (ω : Type)
  | pop (id : Transaction) (now : Nat)
  | push (id : Transaction) (op : ω) (now : Nat)
  | completed (id : Transaction)
  | receive
  | tick (now : Nat) (rand : BitVec 128)

/-- Whether an event pushes `tx`. -/
def OpEvent.pushes {ω : Type} (tx : Transaction) : OpEvent ω → Bool
  | .push id _ _ => id == tx
  | _ => false

namespace OpManager

variable {ω : Type} (opType : ω → TransactionType) (profile : Profile)

/-- One event; `none` is undefined behaviour. -/
def step (m : OpManager ω) : OpEvent ω → Option (OpManager ω)
  | .pop id now => (m.pop id now).map Prod.fst
  | .push id op now => (m.push opType profile id op now).map Prod.fst
  | .completed id => some (m.completed id)
  | .receive => some m.receive
  | .tick now rand => m.removeOld now rand

/-- A run of events. -/
def run (m : OpManager ω) (es : List (OpEvent ω)) : Option (OpManager ω) :=
  es.foldlM (step opType profile) m

end OpManager

/-! ### Ids from the wire -/

section Wire

variable {ω : Type}

/-- `Transaction` derives `Deserialize` with no check of its id, so the low
byte of an id a peer sends is the peer's choice. `update` (and so `new`)
writes the type there and keeps the rest of the id; an id with a low byte of
5 or more is none of those, `transaction_type` has no arm for it, and the
node reaches `unreachable_unchecked` at the first `pop` of it, and at every
`push` of it in a debug build that the timeout does not end. -/
theorem peer_id_reaches_unreachable (tx : Transaction) (hbyte : 5 ≤ tx.idByte.toNat) :
    (∀ ty u, (Transaction.update ty u).transactionType = some ty ∧
        (Transaction.update ty u).id.extractLsb' 8 120 = u.extractLsb' 8 120 ∧
        Transaction.update ty u ≠ tx) ∧
      tx.transactionType = none ∧
      ∀ (m : OpManager ω) (now : Nat), m.ops.completed tx = false → m.ops.underProgress tx = false →
        m.pop tx now = none ∧ ∀ opType op, m.push opType .debug tx op now = none := by
  -- the arms of `transaction_type` are the bytes below 5
  have hnone : tx.transactionType = none := by
    have hiff := (Transaction.transactionType_of_update_or_wire .get 0 tx).2.2.2
    exact Option.not_isSome_iff_eq_none.mp fun hs => absurd (hiff.mp hs) (by omega)
  refine ⟨fun ty u => ?_, hnone, fun m now hc hu => ⟨?_, fun opType op => ?_⟩⟩
  · obtain ⟨-, hty, hhigh, -⟩ := Transaction.transactionType_of_update_or_wire ty u tx
    refine ⟨hty, hhigh, fun h => ?_⟩
    rw [h, hnone] at hty
    cases hty
  · simp [OpManager.pop, hc, hu, hnone]
  · simp [OpManager.push, hu, hnone]

/-- The id 5, as a peer may send it, popped from a new op manager. -/
theorem peer_id_reaches_unreachable_five :
    5 ≤ (⟨5#128⟩ : Transaction).idByte.toNat ∧ (⟨5#128⟩ : Transaction).transactionType = none ∧
      (OpManager.new : OpManager Unit).pop ⟨5#128⟩ 0 = none :=
  have h := peer_id_reaches_unreachable (ω := Unit) ⟨5#128⟩ (by decide)
  ⟨by decide, Transaction.transactionType_wire_unreachable.1, (h.2.2 OpManager.new 0 rfl rfl).1⟩

end Wire

/-! ### Ids the collector never learns of -/

section Collection

variable {ω : Type} {opType : ω → TransactionType} {profile : Profile} {tx : Transaction}

/-- A transaction under progress that the collector has not been told of:
neither on its channel, nor in `ttl_set`, nor delayed. -/
structure Unseen (tx : Transaction) (m : OpManager ω) : Prop where
  underProgress : m.ops.underProgress tx = true
  notSent : tx ∉ m.newTransactions
  notFiled : tx ∉ m.ttlSet
  notDelayed : tx ∉ m.delayed

theorem Unseen.ne {m : OpManager ω} {id : Transaction} (h : Unseen tx m)
    (hid : m.ops.underProgress id = false) : id ≠ tx := by
  rintro rfl
  simp [h.underProgress] at hid

theorem pop_unseen {m m' : OpManager ω} {id : Transaction} {now : Nat}
    {r : Except OpNotAvailable (Option ω)} (h : m.pop id now = some (m', r)) (hu : Unseen tx m) :
    Unseen tx m' := by
  simp only [OpManager.pop] at h
  split at h
  · cases h; exact hu
  · split at h
    · split at h <;> cases h
      · exact ⟨hu.1, hu.2, hu.3, hu.4⟩
      · exact hu
    · rename_i hnot
      have hne : id ≠ tx := hu.ne (by simpa using hnot)
      split at h
      · cases h
      · cases h
        exact ⟨by simp [Ops.setUnderProgress, Function.update_of_ne hne.symm, hu.1], hu.2, hu.3, hu.4⟩

theorem push_unseen {m m' : OpManager ω} {id : Transaction} {op : ω} {now : Nat}
    {r : Except PushError Unit} (h : m.push opType profile id op now = some (m', r))
    (hne : id ≠ tx) (hu : Unseen tx m) : Unseen tx m' := by
  have hup : (m.ops.setUnderProgress id false).underProgress tx = true := by
    simp [Ops.setUnderProgress, Function.update_of_ne hne.symm, hu.1]
  have hsent : tx ∉ m.newTransactions ++ [id] := by simp [hu.2, hne.symm]
  simp only [OpManager.push] at h
  split at h
  · cases h; exact ⟨hup, hu.2, hu.3, hu.4⟩
  · split at h
    · cases h; exact ⟨hup, hsent, hu.3, hu.4⟩
    · split at h
      · cases h
      · split at h <;> cases h
        · exact ⟨hup, hsent, hu.3, hu.4⟩
        · exact ⟨hup, hsent, hu.3, hu.4⟩

theorem receive_unseen {m : OpManager ω} (hu : Unseen tx m) : Unseen tx m.receive := by
  unfold OpManager.receive
  split
  · exact hu
  · rename_i tx' rest hq
    have hne : tx' ≠ tx := by
      rintro rfl
      exact hu.2 (by simp [hq])
    exact ⟨hu.1, fun hm => hu.2 (by simp [hq, hm]), by simp [List.mem_insert_iff, hu.3, hne.symm],
      hu.4⟩

/-- The first loop of a tick touches only the delayed ids it looks at. -/
theorem retryDelayed_unseen {now : Nat} {l : List Transaction} {m m' : OpManager ω}
    (h : OpManager.retryDelayed now m l = some m') (hl : tx ∉ l) (hu : Unseen tx m) :
    Unseen tx m' := by
  induction l generalizing m with
  | nil => cases h; exact hu
  | cons tx' rest ih =>
      have hne : tx' ≠ tx := fun heq => hl (heq ▸ List.mem_cons_self)
      have hrest : tx ∉ rest := fun hm => hl (List.mem_cons_of_mem _ hm)
      simp only [OpManager.retryDelayed] at h
      split at h
      · exact ih h hrest ⟨hu.1, hu.2, hu.3, hu.4⟩
      · split at h
        · cases h
        · split at h
          · exact ih h hrest ⟨hu.1, hu.2, hu.3, by simp [hu.4, hne.symm]⟩
          · split at h
            · refine ih h hrest ⟨?_, hu.2, hu.3, hu.4⟩
              simp [Ops.setUnderProgress, Function.update_of_ne hne.symm, hu.1]
            · exact ih h hrest ⟨hu.1, hu.2, hu.3, hu.4⟩

/-- The second loop of a tick touches only the ids split off `ttl_set`. -/
theorem collectOld_unseen {now : Nat} {l : List Transaction} {m m' : OpManager ω}
    (h : OpManager.collectOld now m l = some m') (hl : tx ∉ l) (hu : Unseen tx m) :
    Unseen tx m' := by
  induction l generalizing m with
  | nil => cases h; exact hu
  | cons tx' rest ih =>
      have hne : tx' ≠ tx := fun heq => hl (heq ▸ List.mem_cons_self)
      have hrest : tx ∉ rest := fun hm => hl (List.mem_cons_of_mem _ hm)
      simp only [OpManager.collectOld] at h
      split at h
      · exact ih h hrest ⟨hu.1, hu.2, hu.3, by simp [hu.4, hne.symm]⟩
      · split at h
        · exact ih h hrest ⟨hu.1, hu.2, hu.3, hu.4⟩
        · split at h
          · cases h
          · exact ih h hrest ⟨hu.1, hu.2, hu.3, hu.4⟩

theorem removeOld_unseen {now : Nat} {rand : BitVec 128} {m m' : OpManager ω}
    (h : m.removeOld now rand = some m') (hu : Unseen tx m) : Unseen tx m' := by
  obtain ⟨m₁, h₁, h₂⟩ := Option.bind_eq_some_iff.mp h
  have hu₁ := retryDelayed_unseen h₁ hu.4 ⟨hu.1, hu.2, hu.3, List.not_mem_nil⟩
  exact collectOld_unseen h₂ (by simp [hu₁.3])
    ⟨hu₁.1, hu₁.2, by simp [hu₁.3], hu₁.4⟩

theorem step_unseen {m m' : OpManager ω} {e : OpEvent ω}
    (h : m.step opType profile e = some m') (he : e.pushes tx = false) (hu : Unseen tx m) :
    Unseen tx m' := by
  cases e with
  | pop id now =>
      obtain ⟨⟨m₁, r⟩, hpop, rfl⟩ := Option.map_eq_some_iff.mp h
      exact pop_unseen hpop hu
  | push id op now =>
      obtain ⟨⟨m₁, r⟩, hpush, rfl⟩ := Option.map_eq_some_iff.mp h
      exact push_unseen hpush (by simpa [OpEvent.pushes] using he) hu
  | completed id => cases h; exact ⟨hu.1, hu.2, hu.3, hu.4⟩
  | receive => cases h; exact receive_unseen hu
  | tick now rand => exact removeOld_unseen h hu

theorem run_unseen {m m' : OpManager ω} {es : List (OpEvent ω)}
    (h : m.run opType profile es = some m') (hes : ∀ e ∈ es, e.pushes tx = false)
    (hu : Unseen tx m) : Unseen tx m' :=
  History.foldlM_invariant (Unseen tx) (fun _ e _ he hu h => step_unseen h (hes e he) hu) hu h

/-- A transaction whose first message a node pops as a new request, and
which the node never pushes (its operation ends in that one step, with
`completed`, as it does at a node that answers and is done), stays in
`under_progress` whatever happens after: the collector only learns of pushed
ids, so no tick, however late, removes it. -/
theorem unpushed_never_collected (now : Nat) (es : List (OpEvent ω))
    (hes : ∀ e ∈ es, e.pushes tx = false) :
    ((OpManager.new : OpManager ω).run opType profile (.pop tx now :: es)).all
      (·.ops.underProgress tx) = true := by
  cases hrun : (OpManager.new : OpManager ω).run opType profile (.pop tx now :: es) with
  | none => rfl
  | some m' =>
      obtain ⟨m₁, h₁, hrest⟩ := Option.bind_eq_some_iff.mp hrun
      have hu₁ : Unseen tx m₁ := by
        simp only [OpManager.step, OpManager.pop, OpManager.new, Bool.false_eq_true, if_false]
          at h₁
        split at h₁
        · cases h₁
        · cases h₁
          exact ⟨by simp [Ops.setUnderProgress], List.not_mem_nil, List.not_mem_nil,
            List.not_mem_nil⟩
      simpa using (run_unseen hrest hes hu₁).1

theorem unpushed_never_collected_get :
    let tx := Transaction.new .get 0
    let es : List (OpEvent Unit) := [.completed tx, .tick 1000000 0]
    (∀ e ∈ es, e.pushes tx = false) ∧
      ((OpManager.new : OpManager Unit).run (fun _ => .get) .release (.pop tx 0 :: es)).isSome ∧
      ((OpManager.new : OpManager Unit).run (fun _ => .get) .release (.pop tx 0 :: es)).all
        (·.ops.underProgress tx) = true :=
  ⟨by decide, by decide +kernel, unpushed_never_collected 0 _ (by decide)⟩

end Collection

/-! ### `pop` as the calls it makes -/

section Stages

variable {ω : Type}

/-- Where a task is in `pop`. Each stage ends with one call on a `DashMap` or
`DashSet`; the `completed.insert` of a timed-out id stays with the
`under_progress.contains` before it, since nothing another task does in
between changes what this task returns. -/
inductive PopStage (ω : Type)
  | start
  | notCompleted
  | notRunning
  | removed (op : Option ω)
  | returned (r : Except OpNotAvailable (Option ω))

/-- The next call of a task in `pop(id)`; a task that has returned stays. -/
def popStep (id : Transaction) (now : Nat) (o : Ops ω) : PopStage ω → Option (Ops ω × PopStage ω)
  | .start => some (o, if o.completed id then .returned (.error .completed) else .notCompleted)
  | .notCompleted =>
      if o.underProgress id then
        if id.timedOut now then some (o.setCompleted id true, .returned (.error .completed))
        else some (o, .returned (.error .running))
      else some (o, .notRunning)
  | .notRunning =>
      match id.transactionType with
      | none => none
      | some ty => some (o.remove ty id, .removed (o.ops ty id))
  | .removed op => some (o.setUnderProgress id true, .returned (.ok op))
  | .returned r => some (o, .returned r)

theorem popStep_start {id : Transaction} {now : Nat} {o : Ops ω} (hc : o.completed id = false) :
    popStep id now o .start = some (o, .notCompleted) := by
  simp [popStep, hc]

theorem popStep_notCompleted {id : Transaction} {now : Nat} {o : Ops ω} (hu : o.underProgress id = false) :
    popStep id now o .notCompleted = some (o, .notRunning) := by
  simp [popStep, hu]

theorem popStep_notRunning {id : Transaction} {now : Nat} {o : Ops ω} {ty : TransactionType}
    (hty : id.transactionType = some ty) :
    popStep id now o .notRunning = some (o.remove ty id, .removed (o.ops ty id)) := by
  simp [popStep, hty]

/-- `n` calls of one task with no other task between them. -/
def popSteps (id : Transaction) (now : Nat) : Nat → Ops ω → PopStage ω → Option (Ops ω × PopStage ω)
  | 0, o, s => some (o, s)
  | n + 1, o, s => (popStep id now o s).bind fun p => popSteps id now n p.1 p.2

/-- Tasks in `pop(id)` at the time `now`, each taking its next call when the
schedule names it; a name out of range is a step of no task. -/
def interleave (id : Transaction) (now : Nat) :
    Ops ω → List (PopStage ω) → List Nat → Option (Ops ω × List (PopStage ω))
  | o, ts, [] => some (o, ts)
  | o, ts, i :: sched =>
      match ts[i]? with
      | none => interleave id now o ts sched
      | some s => (popStep id now o s).bind fun p => interleave id now p.1 (ts.set i p.2) sched

/-- Two tasks that pop a stored operation at the same time, their calls
alternating, both pass the checks before either marks the id under
progress: the first takes the operation, the second gets `Ok(None)` and
starts the transaction afresh, and both now hold it. -/
theorem pop_race_both_own (o : Ops ω) (id : Transaction) (now : Nat) (ty : TransactionType)
    (op : ω) (hc : o.completed id = false) (hu : o.underProgress id = false)
    (hty : id.transactionType = some ty) (hop : o.ops ty id = some op) :
    ∃ o', interleave id now o [.start, .start] [0, 1, 0, 1, 0, 1, 0, 1] =
        some (o', [.returned (.ok (some op)), .returned (.ok none)]) ∧
      o'.ops ty id = none ∧ o'.underProgress id = true := by
  -- both tasks pass both checks on `o`, then each removes from the map in turn
  refine ⟨(((o.remove ty id).remove ty id).setUnderProgress id true).setUnderProgress id true, ?_, ?_, ?_⟩
  · simp only [interleave, List.getElem?_cons_zero, List.getElem?_cons_succ, List.set_cons_zero,
      List.set_cons_succ, popStep_start hc, popStep_notCompleted hu, popStep_notRunning hty, hop,
      Ops.remove_ops_self, Option.bind_some]
    rfl
  · simp
  · simp [Ops.setUnderProgress]

/-- The state a `push` of a get operation leaves. -/
theorem pop_race_both_own_pushed :
    let id := Transaction.new .get 0
    let o : Ops Unit := ((OpManager.new.push (fun _ => .get) .debug id () 0).map
      (·.1.ops)).getD OpManager.new.ops
    o.completed id = false ∧ o.underProgress id = false ∧ id.transactionType = some .get ∧
      o.ops .get id = some () ∧
      ∃ o', interleave id 0 o [.start, .start] [0, 1, 0, 1, 0, 1, 0, 1] =
          some (o', [.returned (.ok (some ())), .returned (.ok none)]) ∧
        o'.ops .get id = none ∧ o'.underProgress id = true :=
  ⟨by decide, by decide, by decide, by decide,
    pop_race_both_own _ _ 0 .get () (by decide) (by decide) (by decide) (by decide)⟩

end Stages

end FreenetCore.Node
