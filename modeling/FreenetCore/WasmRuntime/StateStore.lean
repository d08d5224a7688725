import FreenetCore.Lib.Cache
import FreenetCore.Contract.Executor

/-!
The state store (`wasm_runtime/state_store.rs`): the contracts' states and
parameters in a `StateStorage`, with an in-memory cache of states
(`stretto::AsyncCache`) in front.

`update` replaces the state of a contract the store already has: it looks
for the contract in the cache, and on a miss in the storage, before it
writes. `store` writes a state and then its parameters. Both write the state
to the storage before they offer it to the cache. `get` reads through the
cache; `get_params` always reads the storage.

The storage is its two maps, by the contract's instance id (which
`ContractKey`'s equality and hash compare). Each of its calls may fail
(`StateStorage::Error`, which the store returns as `StateStoreError::Any`),
and a failed call changes nothing; which calls fail is told per call
(`StorageCalls`). `stretto` is not part of the sources: its cache is a
parameter, known by what it has been offered (`Cache.offer`), and what it
answers a lookup is told per call too, under the one assumption that it
answers nothing or a state it was offered for that key (`Cache.Answers`).
That allows its buffered admission and its evictions, and a stale hit.

Over every run of these calls from an empty cache, every key the cache was
offered is one the storage holds (`Backed.run`). So an `update` whose
lookup hits finds a stored contract, and `update` and `store` do to the
storage what the executor's `updateState` and `storeState` do to its maps
(`run_refines_executor`).
-/

namespace FreenetCore.WasmRuntime

open FreenetCore.Contract

/-- `StateStoreError`. -/
inductive StateStoreError
  | any
  | missingContract (key : ContractKey)
  deriving DecidableEq

/-- What a `StateStorage` holds: states and parameters by contract instance id. -/
structure StateStorage where
  states : Bytes32 → Option (List UInt8)
  params : Bytes32 → Option (List UInt8)

/-- How the calls a state store call makes turn out: which storage calls
fail, and what the cache answers the call's lookup of its key. -/
structure StorageCalls where
  getFails : Bool
  storeFails : Bool
  storeParamsFails : Bool
  cached : Option (List UInt8)
  deriving DecidableEq

/-- The storage calls of a state store call all succeed. -/
def StorageCalls.reliable (calls : StorageCalls) : Bool :=
  !calls.getFails && !calls.storeFails && !calls.storeParamsFails

/-- `StateStore`; its field `store` is `storage` here, beside the method.
The cache is the states it has been offered, per contract. -/
structure StateStore where
  stateMemCache : Bytes32 → List (List UInt8)
  storage : StateStorage

namespace StateStore

/-- `StateStore::new`: an empty cache over the storage. -/
def new (store : StateStorage) : StateStore := ⟨fun _ => [], store⟩

/-- The storage's `get`. -/
def storageGet (s : StateStore) (key : ContractKey) (fails : Bool) :
    Except StateStoreError (Option (List UInt8)) :=
  if fails then .error .any else .ok (s.storage.states key.id)

/-- The storage's `store` of a state, then the cache's `insert`. -/
def writeState (s : StateStore) (key : ContractKey) (state : List UInt8) (calls : StorageCalls) :
    StateStore × Except StateStoreError Unit :=
  if calls.storeFails then (s, .error .any)
  else
    ({ stateMemCache := Cache.offer s.stateMemCache key.id state
       storage := { s.storage with states := Function.update s.storage.states key.id (some state) } },
      .ok ())

/-- `StateStore::update`. -/
def update (s : StateStore) (key : ContractKey) (state : List UInt8) (calls : StorageCalls) :
    StateStore × Except StateStoreError Unit :=
  -- only allow updates for existing contracts
  match calls.cached with
  | some _ => s.writeState key state calls
  | none =>
      match s.storageGet key calls.getFails with
      | .error e => (s, .error e)
      | .ok none => (s, .error (.missingContract key))
      | .ok (some _) => s.writeState key state calls

/-- `StateStore::store`: the state, then the parameters. -/
def store (s : StateStore) (key : ContractKey) (state params : List UInt8) (calls : StorageCalls) :
    StateStore × Except StateStoreError Unit :=
  match s.writeState key state calls with
  | (s, .error e) => (s, .error e)
  | (s, .ok ()) =>
      if calls.storeParamsFails then (s, .error .any)
      else ({ s with storage := { s.storage with params := Function.update s.storage.params key.id (some params) } },
        .ok ())

/-- `StateStore::get`, with what the cache answers its lookup. -/
def get (s : StateStore) (key : ContractKey) (cached : Option (List UInt8)) (getFails : Bool) :
    Except StateStoreError (List UInt8) :=
  match cached with
  | some v => .ok v
  | none =>
      match s.storageGet key getFails with
      | .error e => .error e
      | .ok r => r.elim (.error (.missingContract key)) .ok

/-- `StateStore::get_params`. -/
def getParams (s : StateStore) (key : ContractKey) (getFails : Bool) :
    Except StateStoreError (Option (List UInt8)) :=
  if getFails then .error .any else .ok (s.storage.params key.id)

end StateStore

/-- The calls that change a state store. -/
inductive StateStoreCall
  | update (key : ContractKey) (state : List UInt8) (calls : StorageCalls)
  | store (key : ContractKey) (state params : List UInt8) (calls : StorageCalls)

/-- The storage calls of a call all succeed. -/
def StateStoreCall.reliable : StateStoreCall → Bool
  | .update _ _ calls => calls.reliable
  | .store _ _ _ calls => calls.reliable

namespace StateStore

def step (s : StateStore) : StateStoreCall → StateStore
  | .update key state calls => (s.update key state calls).1
  | .store key state params calls => (s.store key state params calls).1

def run (s : StateStore) (calls : List StateStoreCall) : StateStore :=
  calls.foldl step s

@[simp] theorem run_nil (s : StateStore) : s.run [] = s := rfl

@[simp] theorem run_cons (s : StateStore) (c : StateStoreCall) (cs : List StateStoreCall) :
    s.run (c :: cs) = (s.step c).run cs := rfl

/-- The cache answers a call's lookup as a cache may: nothing, or a state
it was offered for the key (`store` makes no lookup). -/
def Answered (s : StateStore) : StateStoreCall → Prop
  | .update key _ calls => Cache.Answers s.stateMemCache key.id calls.cached
  | .store .. => True

instance (s : StateStore) : (c : StateStoreCall) → Decidable (s.Answered c)
  | .update key _ calls => inferInstanceAs (Decidable (Cache.Answers s.stateMemCache key.id calls.cached))
  | .store .. => isTrue trivial

/-- Every lookup of a run is answered as a cache may, at the point it is
made. -/
def AnsweredRun : StateStore → List StateStoreCall → Prop
  | _, [] => True
  | s, c :: cs => s.Answered c ∧ AnsweredRun (s.step c) cs

instance instDecidableAnsweredRun : (s : StateStore) → (cs : List StateStoreCall) → Decidable (AnsweredRun s cs)
  | _, [] => isTrue trivial
  | s, c :: cs =>
      have := instDecidableAnsweredRun (s.step c) cs
      inferInstanceAs (Decidable (s.Answered c ∧ AnsweredRun (s.step c) cs))

/-! ### The cache is backed by the storage -/

/-- Every key the cache was offered a state for is one the storage holds. -/
def Backed (s : StateStore) : Prop :=
  Cache.Backed s.stateMemCache s.storage.states

variable {s : StateStore} {key : ContractKey} {state : List UInt8} {calls : StorageCalls}

theorem backed_new (store : StateStorage) : (new store).Backed :=
  Cache.backed_empty _

/-- A write either fails and changes nothing, or stores the state and offers
it to the cache. -/
theorem writeState_cases (s : StateStore) (key : ContractKey) (state : List UInt8)
    (calls : StorageCalls) :
    (calls.storeFails = true ∧ s.writeState key state calls = (s, .error .any)) ∨
      (calls.storeFails = false ∧ s.writeState key state calls =
        (⟨Cache.offer s.stateMemCache key.id state,
          { s.storage with states := Function.update s.storage.states key.id (some state) }⟩, .ok ())) := by
  cases h : calls.storeFails
  · exact .inr ⟨rfl, by simp [writeState, h]⟩
  · exact .inl ⟨rfl, by simp [writeState, h]⟩

theorem Backed.writeState (hc : s.Backed) : (s.writeState key state calls).1.Backed := by
  rcases writeState_cases s key state calls with
    ⟨-, h⟩ | ⟨-, h⟩
  · rw [h]
    exact hc
  · rw [h]
    exact Cache.Backed.offer hc key.id state

/-- What `update` leaves: the store as it was, or its write. -/
theorem update_eq (s : StateStore) (key : ContractKey) (state : List UInt8) (calls : StorageCalls) :
    s.update key state calls = (s, (s.update key state calls).2) ∨
      s.update key state calls = s.writeState key state calls := by
  unfold update
  split
  · exact .inr rfl
  · split
    · exact .inl rfl
    · exact .inl rfl
    · exact .inr rfl

theorem Backed.update (hc : s.Backed) : (s.update key state calls).1.Backed := by
  rcases update_eq s key state calls with h | h <;> rw [h]
  · exact hc
  · exact hc.writeState

theorem Backed.store (hc : s.Backed) {params : List UInt8} :
    (s.store key state params calls).1.Backed := by
  unfold StateStore.store
  rcases writeState_cases s key state calls with
    ⟨-, h⟩ | ⟨-, h⟩ <;> rw [h]
  · exact hc
  · -- the parameters are another map: the states are those of the write
    have hw : Cache.Backed (Cache.offer s.stateMemCache key.id state)
        (Function.update s.storage.states key.id (some state)) :=
      Cache.Backed.offer hc key.id state
    dsimp only
    split <;> exact hw

theorem Backed.step (hc : s.Backed) (c : StateStoreCall) : (s.step c).Backed := by
  cases c with
  | update key state calls => exact hc.update
  | store key state params calls => exact hc.store

/-- The invariant over runs: by induction on the calls, each keeping it. -/
theorem Backed.run (hc : s.Backed) (cs : List StateStoreCall) : (s.run cs).Backed := by
  induction cs generalizing s with
  | nil => exact hc
  | cons c cs ih => exact ih (hc.step c)

/-! ### The executor's maps -/

/-- The executor whose maps of states and parameters are the storage's. -/
def withStore (ex : Executor) (s : StateStore) : Executor :=
  { ex with states := s.storage.states, params := s.storage.params }

/-- A failed `update` leaves the store as it was. -/
theorem update_error {s' : StateStore} {e : StateStoreError}
    (h : s.update key state calls = (s', .error e)) : s' = s := by
  rcases update_eq s key state calls with h' | h' <;> rw [h'] at h
  · exact (Prod.mk.inj h).1.symm
  · rcases writeState_cases s key state calls with ⟨-, hw⟩ | ⟨-, hw⟩ <;> rw [hw] at h
    · exact (Prod.mk.inj h).1.symm
    · cases h

/-- Over a backed cache that answers as a cache may, an `update` whose
storage calls do not fail is the executor's `updateState`: it replaces the
state of a stored contract, and refuses (`MissingContract`) one the storage
does not hold, whatever the cache answers. -/
theorem Backed.update_refines (hc : s.Backed) (ex : Executor) (hget : calls.getFails = false)
    (hstore : calls.storeFails = false) (hans : Cache.Answers s.stateMemCache key.id calls.cached) :
    (withStore ex s).updateState key state =
      match s.update key state calls with
      | (s', .ok ()) => some (withStore ex s')
      | (_, .error _) => none := by
  have hw : s.writeState key state calls =
      (⟨Cache.offer s.stateMemCache key.id state,
        { s.storage with states := Function.update s.storage.states key.id (some state) }⟩, .ok ()) := by
    rcases writeState_cases s key state calls with ⟨h, -⟩ | ⟨-, hw⟩
    · rw [hstore] at h
      cases h
    · exact hw
  unfold StateStore.update
  cases hcache : calls.cached with
  | some v =>
      -- a hit: the storage holds the contract too
      obtain ⟨w, hs⟩ := Option.isSome_iff_exists.mp (hc.hit hans hcache)
      simp [Executor.updateState, withStore, hs, hw]
  | none =>
      cases hs : s.storage.states key.id with
      | none => simp [Executor.updateState, withStore, storageGet, hget, hs]
      | some v => simp [Executor.updateState, withStore, storageGet, hget, hs, hw]

/-- What `store` leaves: nothing changed when the state's write fails; the
state written and the parameters not when theirs fails; both written
otherwise. -/
theorem store_cases (s : StateStore) (key : ContractKey) (state params : List UInt8)
    (calls : StorageCalls) :
    (calls.storeFails = true ∧ s.store key state params calls = (s, .error .any)) ∨
      (calls.storeFails = false ∧ calls.storeParamsFails = true ∧
        s.store key state params calls = ((s.writeState key state calls).1, .error .any)) ∨
      (calls.storeFails = false ∧ calls.storeParamsFails = false ∧
        s.store key state params calls =
          (⟨Cache.offer s.stateMemCache key.id state,
            ⟨Function.update s.storage.states key.id (some state),
              Function.update s.storage.params key.id (some params)⟩⟩, .ok ())) := by
  unfold StateStore.store
  rcases writeState_cases s key state calls with ⟨h, hw⟩ | ⟨h, hw⟩ <;> rw [hw]
  · exact .inl ⟨h, rfl⟩
  · cases hp : calls.storeParamsFails
    · exact .inr (.inr ⟨h, rfl, by simp⟩)
    · exact .inr (.inl ⟨h, rfl, by simp⟩)

/-- A `store` whose storage calls do not fail is the executor's `storeState`. -/
theorem store_refines (ex : Executor) (hstore : calls.storeFails = false)
    (hparams : calls.storeParamsFails = false) {params : List UInt8} :
    (s.store key state params calls).2 = .ok () ∧
      withStore ex (s.store key state params calls).1 = (withStore ex s).storeState key state params := by
  rcases store_cases s key state params calls with ⟨h, -⟩ | ⟨h, h', -⟩ | ⟨-, -, hs⟩
  · rw [hstore] at h
    cases h
  · rw [hparams] at h'
    cases h'
  · rw [hs]
    exact ⟨rfl, rfl⟩

/-- What a call does to the executor's maps: `updateState`, which leaves
them when it refuses, and `storeState`. -/
def execStep (ex : Executor) : StateStoreCall → Executor
  | .update key state _ => (ex.updateState key state).getD ex
  | .store key state params _ => ex.storeState key state params

/-- One call of a backed store whose storage does not fail, its lookup
answered as a cache may, is one step of the executor's maps. -/
theorem Backed.step_refines (hc : s.Backed) (ex : Executor) {c : StateStoreCall}
    (hrel : c.reliable) (hans : s.Answered c) :
    withStore ex (s.step c) = execStep (withStore ex s) c := by
  cases c with
  | update key state calls =>
      simp only [StateStoreCall.reliable, StorageCalls.reliable, Bool.and_eq_true,
        Bool.not_eq_eq_eq_not, Bool.not_true] at hrel
      obtain ⟨⟨hget, hstore⟩, -⟩ := hrel
      show withStore ex (s.update key state calls).1 =
        ((withStore ex s).updateState key state).getD (withStore ex s)
      rw [hc.update_refines ex hget hstore hans]
      rcases hu : s.update key state calls with ⟨s', _ | _⟩
      · -- a refused update leaves the store, so the executor's maps, as they were
        rw [update_error hu]
        rfl
      · rfl
  | store key state params calls =>
      simp only [StateStoreCall.reliable, StorageCalls.reliable, Bool.and_eq_true,
        Bool.not_eq_eq_eq_not, Bool.not_true] at hrel
      obtain ⟨⟨-, hstore⟩, hparams⟩ := hrel
      exact (store_refines ex hstore hparams).2

/-- Runs of a backed store whose storage does not fail, their lookups
answered as a cache may, are runs of the executor's maps: by induction on
the calls, one step at a time. -/
theorem Backed.run_refines (hc : s.Backed) (ex : Executor) (cs : List StateStoreCall)
    (hrel : ∀ c ∈ cs, c.reliable) (hans : AnsweredRun s cs) :
    withStore ex (s.run cs) = cs.foldl execStep (withStore ex s) := by
  induction cs generalizing s with
  | nil => rfl
  | cons c cs ih =>
      have hstep := hc.step_refines ex (hrel c List.mem_cons_self) hans.1
      rw [run_cons, List.foldl_cons, ← hstep]
      exact ih (hc.step c) (fun c' hc' => hrel c' (List.mem_cons_of_mem c hc')) hans.2

/-! ### Every run from an empty cache -/

/-- Over any run of a state store from an empty cache in which no storage
call fails, whatever the cache answered (nothing, or a state it was offered
for the key, however old), the storage's states and parameters are those
the executor's `updateState` and `storeState` make of them; and at every
point an `update` answers as `updateState` does. -/
theorem run_refines_executor (store : StateStorage) (ex : Executor) (cs : List StateStoreCall)
    (hrel : ∀ c ∈ cs, c.reliable) (hans : AnsweredRun (new store) cs) :
    withStore ex ((new store).run cs) = cs.foldl execStep (withStore ex (new store)) ∧
      ∀ key state calls, calls.reliable →
        Cache.Answers ((new store).run cs).stateMemCache key.id calls.cached →
        (withStore ex ((new store).run cs)).updateState key state =
          match ((new store).run cs).update key state calls with
          | (s', .ok ()) => some (withStore ex s')
          | (_, .error _) => none := by
  have hc : ((new store).run cs).Backed := (backed_new store).run cs
  refine ⟨(backed_new store).run_refines ex cs hrel hans, fun key state calls hr ha => ?_⟩
  simp only [StorageCalls.reliable, Bool.and_eq_true, Bool.not_eq_eq_eq_not, Bool.not_true] at hr
  exact hc.update_refines ex hr.1.1 hr.1.2 ha

/-- A contract stored, then updated twice: first with the cache answering
the state it was offered, then with a miss. -/
theorem run_refines_executor_put_update :
    let key : ContractKey := ⟨.replicate 1, none⟩
    let hit : StorageCalls := ⟨false, false, false, some [1]⟩
    let miss : StorageCalls := ⟨false, false, false, none⟩
    let cs : List StateStoreCall := [.store key [1] [0] miss, .update key [2] hit, .update key [3] miss]
    (∀ c ∈ cs, c.reliable) ∧ StateStore.AnsweredRun (new ⟨fun _ => none, fun _ => none⟩) cs ∧
      withStore (Executor.init .local) ((new ⟨fun _ => none, fun _ => none⟩).run cs) =
        cs.foldl execStep (withStore (Executor.init .local) (new ⟨fun _ => none, fun _ => none⟩)) ∧
      ∀ k state calls, calls.reliable →
        Cache.Answers ((new ⟨fun _ => none, fun _ => none⟩).run cs).stateMemCache k.id calls.cached →
        (withStore (Executor.init .local) ((new ⟨fun _ => none, fun _ => none⟩).run cs)).updateState
            k state =
          match ((new ⟨fun _ => none, fun _ => none⟩).run cs).update k state calls with
          | (s', .ok ()) => some (withStore (Executor.init .local) s')
          | (_, .error _) => none := by
  intro key hit miss cs
  have hrel : ∀ c ∈ cs, c.reliable := by
    simp [cs, hit, miss, StateStoreCall.reliable, StorageCalls.reliable]
  have hans : StateStore.AnsweredRun (new ⟨fun _ => none, fun _ => none⟩) cs := by
    decide
  exact ⟨hrel, hans, run_refines_executor _ _ cs hrel hans⟩

end StateStore

end FreenetCore.WasmRuntime
