import FreenetCore.Lib.MachineInt
import Mathlib.Logic.Function.Basic
import Mathlib.Data.List.Nodup

/-!
The host imports of the WASM runtime (`native_api.rs`) and the process-global
table they read (`MEM_ADDR`), with the part of `runtime.rs` that fills and
empties it.

A host import receives an instance id, an offset and a length from the
guest. It looks the id up in `MEM_ADDR`, adds the offset to the start address
recorded there, and reads or writes that many bytes. The table is keyed by the
id the guest passes, it is filled by `RunningInstance::new` with the data
pointer the memory has at that moment, and it is emptied by `Drop`.

The state of this file is the table, the id counter and the memories, as the
whole process sees them; an `Event` is one of the things that change it. Host
calls change the bytes of a memory but none of this state, so they are not
events: `hostCall` is evaluated in whatever state a run has reached.

The ghost field `Running.startPtr` records what an instance registered. The
code keeps that value only in `MEM_ADDR`; the invariant `Registered` says the
two agree, and that is what every statement about a host call rests on.
-/

namespace FreenetCore.WasmRuntime

open MachineInt

/-- The entry `MEM_ADDR` holds for an instance. The source also stores the
instance's key there, which only `info` reads to tag its log line. -/
structure InstanceInfo where
  startPtr : Int64
  deriving DecidableEq, Repr

/-- A linear memory as the host sees it: the address of its first byte
(`data_ptr`) and its size in bytes (`data_size`). A memory lies inside the
64-bit address space. -/
structure LinearMemory where
  base : UInt64
  size : Nat
  fits : base.toNat + size < 2 ^ 64

/-- A live `RunningInstance`: its id and the memory it runs on, with the start
pointer it registered (ghost). -/
structure Running where
  id : Int64
  memory : Nat
  startPtr : Int64
  deriving DecidableEq, Repr

/-- The process-wide state the host imports depend on. -/
structure World where
  /-- `MEM_ADDR`. -/
  memAddr : Int64 → Option InstanceInfo
  /-- `INSTANCE_ID`, the next id to hand out. -/
  instanceId : Int64
  /-- The linear memories, by handle; instances may share one (`host_memory`). -/
  memories : Nat → LinearMemory
  /-- The `RunningInstance` values alive, oldest first. -/
  running : List Running

/-- The state at process start: nothing registered, the counter at zero. -/
def World.init (memories : Nat → LinearMemory) : World :=
  { memAddr := fun _ => none, instanceId := 0, memories := memories, running := [] }

/-- What changes the state. -/
inductive Event
  /-- `RunningInstance::new` for an instance whose memory is `memory`. -/
  | create (memory : Nat)
  /-- `Drop` of the `RunningInstance` with this id. -/
  | drop (id : Int64)
  /-- The guest grows a memory; growing may move it, so the grown memory
  `next` may start anywhere. -/
  | grow (memory : Nat) (next : LinearMemory)

/-- `RunningInstance::new`: take the next id from `INSTANCE_ID` and record
under it the data pointer of the instance's memory, as it is now. -/
def runningInstanceNew (w : World) (memory : Nat) : World :=
  let id := w.instanceId
  let ptr := (w.memories memory).base.toInt64
  { w with
    memAddr := Function.update w.memAddr id (some ⟨ptr⟩)
    instanceId := id + 1
    running := w.running ++ [⟨id, memory, ptr⟩] }

/-- `Drop for RunningInstance`: remove its id from `MEM_ADDR`. Only a live
instance can be dropped. -/
def runningInstanceDrop (w : World) (id : Int64) : World :=
  if w.running.any (·.id == id) then
    { w with
      memAddr := Function.update w.memAddr id none
      running := w.running.filter (·.id != id) }
  else w

/-- `memory.grow`: a memory never shrinks, and may be moved. -/
def growMemory (w : World) (memory : Nat) (next : LinearMemory) : World :=
  if (w.memories memory).size ≤ next.size then
    { w with memories := Function.update w.memories memory next }
  else w

/-- One event. -/
def step (w : World) : Event → World
  | .create memory => runningInstanceNew w memory
  | .drop id => runningInstanceDrop w id
  | .grow memory next => growMemory w memory next

/-- The state after a sequence of events. -/
def run (w : World) (evs : List Event) : World :=
  evs.foldl step w

/-- Whether an event creates an instance (and so advances `INSTANCE_ID`). -/
def Event.isCreate : Event → Bool
  | .create _ => true
  | _ => false

/-! ### The host imports -/

/-- A call of one of the three host imports, with the arguments the guest
passes: `__frnt__logger__info(id, ptr, len)`, `__frnt__rand__rand_bytes(id,
ptr, len)` and `__frnt__time__utc_now(id, ptr)`. -/
inductive HostCall
  | info (id ptr : Int64) (len : Int32)
  | randBytes (id ptr : Int64) (len : UInt32)
  | utcNow (id ptr : Int64)
  deriving DecidableEq, Repr

/-- What a host import does to memory: panic, or read or write `len` bytes
starting at address `addr`. -/
inductive Access
  | panic (msg : String)
  | read (addr len : Nat)
  | write (addr len : Nat)
  deriving DecidableEq, Repr

/-- `compute_ptr`: the start address plus the guest's offset, on `i64`. -/
def computePtr (p : Profile) (ptr startPtr : Int64) : Option Int64 :=
  addI64 p startPtr ptr

/-- The part the three imports share: the check of the unset id, the
`MEM_ADDR` lookup (`expect`) and `compute_ptr`, giving the address the import
goes on to read or write. -/
def hostAddress (p : Profile) (w : World) (id ptr : Int64) : Except String Nat :=
  if id = -1 then .error "unset module id"
  else
    match w.memAddr id with
    | none => .error "instance mem space not recorded"
    | some info =>
        match computePtr p ptr info.startPtr with
        | none => .error "attempt to add with overflow"
        | some a => .ok (addrOfI64 a)

/-- `size_of::<DateTime<Utc>>()`: the 4-byte date and 8-byte time of chrono's
`NaiveDateTime`; `Utc` itself is zero-sized. -/
def dateTimeSize : Nat := 12

/-- `log::info`: `from_raw_parts(ptr, len as _)` reads `len` bytes, the
`i32` length sign-extended to `usize`. -/
def info (p : Profile) (w : World) (id ptr : Int64) (len : Int32) : Access :=
  match hostAddress p w id ptr with
  | .error msg => .panic msg
  | .ok a => .read a (usizeOfI32 len)

/-- `rand::rand_bytes`: fills `len` bytes with random data. -/
def randBytes (p : Profile) (w : World) (id ptr : Int64) (len : UInt32) : Access :=
  match hostAddress p w id ptr with
  | .error msg => .panic msg
  | .ok a => .write a len.toNat

/-- `time::utc_now`: writes one `DateTime<Utc>`. -/
def utcNow (p : Profile) (w : World) (id ptr : Int64) : Access :=
  match hostAddress p w id ptr with
  | .error msg => .panic msg
  | .ok a => .write a dateTimeSize

/-- A host call, dispatched to its import. -/
def hostCall (p : Profile) (w : World) : HostCall → Access
  | .info id ptr len => info p w id ptr len
  | .randBytes id ptr len => randBytes p w id ptr len
  | .utcNow id ptr => utcNow p w id ptr

/-- The id a call passes. -/
def HostCall.id : HostCall → Int64
  | .info id _ _ | .randBytes id _ _ | .utcNow id _ => id

/-- The offset a call passes. -/
def HostCall.ptr : HostCall → Int64
  | .info _ ptr _ | .randBytes _ ptr _ | .utcNow _ ptr => ptr

/-- How many bytes a call touches. -/
def HostCall.len : HostCall → Nat
  | .info _ _ len => usizeOfI32 len
  | .randBytes _ _ len => len.toNat
  | .utcNow _ _ => dateTimeSize

/-- An access stays inside a memory: it panics, or all its bytes lie in
`[base, base + size)`. -/
def Access.Within (m : LinearMemory) : Access → Prop
  | .panic _ => True
  | .read addr len | .write addr len => m.base.toNat ≤ addr ∧ addr + len ≤ m.base.toNat + m.size

instance (m : LinearMemory) : (a : Access) → Decidable (a.Within m)
  | .panic _ => isTrue trivial
  | .read _ _ | .write _ _ => inferInstanceAs (Decidable (_ ∧ _))

/-! ### What `MEM_ADDR` holds over a run

`INSTANCE_ID` only counts up, so as long as it has not wrapped every id it
hands out is fresh: no live instance has it, and inserting it into
`MEM_ADDR` overwrites nothing. `Drop` removes exactly the dropped instance's
entry. Growing a memory moves its data but not the recorded start pointers. -/

/-- The entry `MEM_ADDR` should hold for `id`: the one its live instance
registered, if there is one. -/
def registered (running : List Running) (id : Int64) : Option InstanceInfo :=
  (running.find? (·.id == id)).map fun r => ⟨r.startPtr⟩

/-- The invariant of `MEM_ADDR` and `INSTANCE_ID`. -/
structure Registered (w : World) : Prop where
  /-- The counter has not wrapped. -/
  counter_nonneg : 0 ≤ w.instanceId.toInt
  /-- Every live id was handed out, and is non-negative. -/
  id_lt : ∀ r ∈ w.running, 0 ≤ r.id.toInt ∧ r.id.toInt < w.instanceId.toInt
  /-- No two live instances share an id. -/
  nodup : (w.running.map Running.id).Nodup
  /-- `MEM_ADDR` holds exactly what the live instances registered. -/
  memAddr_eq : ∀ id, w.memAddr id = registered w.running id

theorem registered_init (memories : Nat → LinearMemory) :
    Registered (World.init memories) where
  counter_nonneg := by simp [World.init]
  id_lt := by simp [World.init]
  nodup := by simp [World.init]
  memAddr_eq := by simp [World.init, registered]

theorem registered_append_fresh {running : List Running} {r : Running} {id : Int64}
    (hfresh : ∀ q ∈ running, q.id ≠ r.id) :
    registered (running ++ [r]) id = Function.update (registered running) r.id
      (some ⟨r.startPtr⟩) id := by
  by_cases hid : id = r.id
  · subst hid
    have hnone : running.find? (·.id == r.id) = none := by
      rw [List.find?_eq_none]
      intro q hq
      simpa using hfresh q hq
    simp [registered, List.find?_append, hnone]
  · rw [Function.update_of_ne hid]
    simp [registered, List.find?_append, Ne.symm hid]

theorem registered_filter (running : List Running) (id x : Int64) :
    registered (running.filter (·.id != id)) x =
      Function.update (registered running) id none x := by
  by_cases hx : x = id
  · subst hx
    simp [registered, List.find?_eq_none]
  · rw [Function.update_of_ne hx]
    simp only [registered]
    congr 1
    induction running with
    | nil => rfl
    | cons q qs ih =>
        by_cases hq : q.id = id
        · subst hq
          simp [Ne.symm hx, ih]
        · simp [hq, List.find?_cons, ih]

theorem registered_create {w : World} {memory : Nat} (hw : Registered w)
    (hroom : w.instanceId.toInt < 2 ^ 63 - 1) :
    Registered (runningInstanceNew w memory) := by
  have h0 := hw.counter_nonneg
  have hnext := MachineInt.toInt_add_one h0 hroom
  have hfresh : ∀ q ∈ w.running, q.id ≠ w.instanceId := by
    intro q hq heq
    have := (hw.id_lt q hq).2
    rw [heq] at this
    exact lt_irrefl _ this
  refine ⟨?_, ?_, ?_, ?_⟩
  · show 0 ≤ (w.instanceId + 1).toInt
    rw [hnext]
    omega
  · intro r hr
    simp only [runningInstanceNew, List.mem_append, List.mem_singleton] at hr
    show 0 ≤ r.id.toInt ∧ r.id.toInt < (w.instanceId + 1).toInt
    rw [hnext]
    rcases hr with hr | rfl
    · have := hw.id_lt r hr
      omega
    · exact ⟨h0, by simp only; omega⟩
  · simp only [runningInstanceNew, List.map_append, List.map_cons, List.map_nil]
    rw [List.nodup_append]
    refine ⟨hw.nodup, List.nodup_singleton _, ?_⟩
    simp only [List.mem_map, List.mem_singleton]
    rintro _ ⟨q, hq, rfl⟩ _ rfl
    exact hfresh q hq
  · intro id
    simp only [runningInstanceNew]
    rw [registered_append_fresh hfresh]
    by_cases hid : id = w.instanceId
    · subst hid
      simp
    · rw [Function.update_of_ne hid, Function.update_of_ne hid, hw.memAddr_eq]

theorem registered_drop {w : World} {id : Int64} (hw : Registered w) :
    Registered (runningInstanceDrop w id) := by
  unfold runningInstanceDrop
  split
  · refine ⟨hw.counter_nonneg, ?_, ?_, ?_⟩
    · intro r hr
      exact hw.id_lt r (List.mem_of_mem_filter hr)
    · exact hw.nodup.sublist (List.Sublist.map _ List.filter_sublist)
    · intro x
      simp only
      rw [registered_filter]
      by_cases hx : x = id
      · subst hx; simp
      · rw [Function.update_of_ne hx, Function.update_of_ne hx, hw.memAddr_eq]
  · exact hw

theorem registered_grow {w : World} {memory : Nat} {next : LinearMemory}
    (hw : Registered w) : Registered (growMemory w memory next) := by
  unfold growMemory
  split
  · exact ⟨hw.counter_nonneg, hw.id_lt, hw.nodup, hw.memAddr_eq⟩
  · exact hw

theorem registered_step {w : World} {e : Event} (hw : Registered w)
    (hroom : e.isCreate → w.instanceId.toInt < 2 ^ 63 - 1) : Registered (step w e) := by
  cases e with
  | create memory => exact registered_create hw (hroom rfl)
  | drop id => exact registered_drop hw
  | grow memory next => exact registered_grow hw

/-- Only a creation advances `INSTANCE_ID`, by one. -/
theorem step_instanceId {w : World} {e : Event} (hw : Registered w)
    (hroom : e.isCreate → w.instanceId.toInt < 2 ^ 63 - 1) :
    (step w e).instanceId.toInt = w.instanceId.toInt + if e.isCreate then 1 else 0 := by
  cases e with
  | create memory => exact MachineInt.toInt_add_one hw.counter_nonneg (hroom rfl)
  | drop id =>
      simp only [step, runningInstanceDrop, Event.isCreate]
      split <;> simp
  | grow memory next =>
      simp only [step, growMemory, Event.isCreate]
      split <;> simp

/-- The invariant holds after any run in which `INSTANCE_ID` does not wrap. The
induction is on the events; the counter grows by one per creation. -/
theorem registered_run {w : World} (hw : Registered w) (evs : List Event)
    (hroom : w.instanceId.toInt + evs.countP Event.isCreate < 2 ^ 63) :
    Registered (run w evs) := by
  induction evs generalizing w with
  | nil => exact hw
  | cons e es ih =>
      rw [List.countP_cons] at hroom
      have hroom' : e.isCreate → w.instanceId.toInt < 2 ^ 63 - 1 := by
        intro he
        simp only [he, if_true] at hroom
        omega
      apply ih (registered_step hw hroom')
      rw [step_instanceId hw hroom']
      by_cases he : e.isCreate
      · simp only [he, if_true] at hroom ⊢
        omega
      · simp only [he] at hroom ⊢
        simp only [Bool.false_eq_true, if_false] at hroom ⊢
        omega

/-! ### The host imports over a run -/

/-- What a call does once its address is known. -/
def HostCall.access (call : HostCall) (addr : Nat) : Access :=
  match call with
  | .info .. => .read addr call.len
  | .randBytes .. | .utcNow .. => .write addr call.len

theorem hostCall_eq (p : Profile) (w : World) (call : HostCall) :
    hostCall p w call =
      match hostAddress p w call.id call.ptr with
      | .error msg => .panic msg
      | .ok a => call.access a := by
  cases call <;> rfl

theorem access_within (call : HostCall) (addr : Nat) (m : LinearMemory) :
    (call.access addr).Within m ↔
      m.base.toNat ≤ addr ∧ addr + call.len ≤ m.base.toNat + m.size := by
  cases call <;> rfl

/-- With distinct ids, looking up a live instance's id finds that instance. -/
theorem find?_of_mem {running : List Running} (hnodup : (running.map Running.id).Nodup)
    {r : Running} (hr : r ∈ running) : running.find? (·.id == r.id) = some r := by
  induction running with
  | nil => cases hr
  | cons q qs ih =>
      simp only [List.map_cons, List.nodup_cons] at hnodup
      rcases List.mem_cons.mp hr with rfl | hr
      · simp
      · have hne : q.id ≠ r.id := fun h => hnodup.1 (h ▸ List.mem_map_of_mem hr)
        simp [hne, ih hnodup.2 hr]

/-- No live id is the sentinel `-1`. -/
theorem registered_ne_unset {w : World} (hw : Registered w) {r : Running}
    (hr : r ∈ w.running) : r.id ≠ -1 := by
  intro h
  have := (hw.id_lt r hr).1
  rw [h] at this
  exact absurd this (by decide)

/-- Where a host import goes in a reachable state: it panics on the unset id
and on an id no live instance has, and otherwise accesses `len` bytes at the
start pointer registered by the instance whose id was passed, plus the
offset. Nothing compares the offset or the length with a memory; the access
stays in the current memory of that instance exactly when the arithmetic
says so, which it does when the memory has not moved since the instance was
created and the offset and length fit in its size. -/
theorem hostCall_reachable (p : Profile) (memories : Nat → LinearMemory)
    (evs : List Event) (hcount : evs.countP Event.isCreate < 2 ^ 63) (call : HostCall) :
    let w := run (World.init memories) evs
    (hostCall p w call =
      if call.id = -1 then .panic "unset module id"
      else
        match w.running.find? (·.id == call.id) with
        | none => .panic "instance mem space not recorded"
        | some r =>
            match computePtr p call.ptr r.startPtr with
            | none => .panic "attempt to add with overflow"
            | some a => call.access (addrOfI64 a)) ∧
    ∀ r ∈ w.running, r.id = call.id →
      r.startPtr = (w.memories r.memory).base.toInt64 →
      0 ≤ call.ptr.toInt → call.ptr.toInt.toNat + call.len ≤ (w.memories r.memory).size →
      (hostCall p w call).Within (w.memories r.memory) := by
  intro w
  have hw : Registered w :=
    registered_run (registered_init memories) evs (by simpa [World.init] using hcount)
  refine ⟨?_, ?_⟩
  · rw [hostCall_eq]
    by_cases hid : call.id = -1
    · simp [hostAddress, hid]
    · simp only [hostAddress, hid, if_false, hw.memAddr_eq, registered]
      cases w.running.find? (·.id == call.id) with
      | none => rfl
      | some r =>
          simp only [Option.map_some]
          cases computePtr p call.ptr r.startPtr <;> rfl
  · intro r hr hid hbase h0 hfit
    have hfind : w.running.find? (·.id == call.id) = some r := by
      rw [← hid]
      exact find?_of_mem hw.nodup hr
    have hr1 : call.id ≠ -1 := hid ▸ registered_ne_unset hw hr
    have hfits := (w.memories r.memory).fits
    rw [hostCall_eq]
    simp only [hostAddress, hr1, if_false, hw.memAddr_eq, registered, hfind, Option.map_some]
    cases hsum : computePtr p call.ptr r.startPtr with
    | none => trivial
    | some a =>
        -- the sum is the plain one: the offset is non-negative and stays in the memory
        have haddr : addrOfI64 a =
            (w.memories r.memory).base.toNat + call.ptr.toInt.toNat := by
          rw [eq_add_of_addI64 hsum, hbase]
          exact addrOfI64_add _ _ h0 (by omega)
        simp only [haddr, access_within]
        omega

/-- A 64 KiB memory at address 4096, as every memory handle of the run
below. -/
def pageAt4096 : LinearMemory := ⟨4096, 65536, by decide⟩

/-- One instance runs on a memory that has not moved, and `rand_bytes` with an
offset equal to the memory's size writes the byte just past its end, in
either build. -/
theorem randBytes_past_memory_end :
    let w := run (World.init fun _ => pageAt4096) [.create 0]
    (∃ r ∈ w.running, r.id = 0 ∧ r.memory = 0) ∧
    ∀ p, hostCall p w (.randBytes 0 65536 1) = .write 69632 1 ∧
      ¬ (hostCall p w (.randBytes 0 65536 1)).Within (w.memories 0) := by
  intro w
  refine ⟨by decide, fun p => ?_⟩
  cases p <;> decide

/-- The same instance writing sixteen bytes at offset zero: the call lands at
the memory's base and stays inside it. -/
theorem randBytes_at_base :
    hostCall .release (run (World.init fun _ => pageAt4096) [.create 0])
        (.randBytes 0 0 16) = .write 4096 16 ∧
      (hostCall .release (run (World.init fun _ => pageAt4096) [.create 0])
        (.randBytes 0 0 16)).Within pageAt4096 := by
  have h := hostCall_reachable .release (fun _ => pageAt4096) [.create 0] (by decide)
    (.randBytes 0 0 16)
  refine ⟨?_, ?_⟩
  · rw [h.1]
    decide
  · exact h.2 ⟨0, 0, (4096 : UInt64).toInt64⟩ (by decide) rfl rfl (by decide) (by decide)

end FreenetCore.WasmRuntime
