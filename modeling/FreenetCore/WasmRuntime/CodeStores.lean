import FreenetCore.WasmRuntime.Compaction

/-!
The contract and delegate stores (`contract_store.rs`, `delegate_store.rs`).

Both keep a code file per code hash, a cache of codes, and an index from keys
to the offset of their record in `KEY_DATA` and their code hash
(`key_to_code_part`), written through a `SafeWriter` the store opens once.
Their `// Update index` blocks are the same code over different keys:
`CodeStore.updateIndex`. Around the calls of the store, the compaction thread
of `watch_changes` runs `compact_index_file` and the watcher reloads the index
with `load_from_file`; a run interleaves all four (`CodeEvent`).

`ContractCode::load_versioned_from_path`, `to_bytes_versioned` and
`CodeHash::try_from` belong to `freenet_stdlib`, which is not part of the
sources: whether a code file loads is a parameter `loads`, the versioned
bytes of a code are part of the stored item, and the conversion of a record's
value is a parameter `hashOf`. The code cache is a `stretto::Cache`, also not
part of the sources: it is known by the code hashes it has been given and
not told to remove (`cache`), and whether its lookup in a `store` call hits
is told with the call. A cache hits only for a code it holds, so a lawful
answer is a hit only for a hash in that list.
-/

namespace FreenetCore.WasmRuntime

open FileSys Bytes

/-- The files of a code store's directory: `KEY_DATA`, its `.tmp` and `.lock`
files, and one `.wasm` file per base58 name. -/
inductive CodeFile
  | keyData
  | keyDataTmp
  | keyDataLock
  | wasm (name : Bytes32)
  deriving DecidableEq

/-- The index file names of a code store's directory. -/
def CodeFile.paths : IndexPaths CodeFile := ⟨.keyData, .keyDataTmp, .keyDataLock⟩

/-- The errors of the store calls. -/
inductive RuntimeError
  | unwrapContract
  | fault (f : Fault)
  deriving DecidableEq

/-- The fields of `ContractStore` and `DelegateStore` the modelled calls read
and write. -/
structure CodeStore (K : Type) where
  cache : List Bytes32
  keyToCodePart : K → Option (Nat × Bytes32)
  indexFile : SafeWriter CodeFile

variable {K : Type} [DecidableEq K]

/-- The `StoreFsManagement` of both stores: a record's key is converted by
`keyOf` and its value by `hashOf`, and `insert_in_container` inserts. -/
def codeStoreFs (keyOf : StoreKey → Except Fault K) (hashOf : List UInt8 → Except Fault Bytes32) :
    StoreFsManagement (K → Option (Nat × Bytes32)) K Bytes32 where
  insertInContainer c keyAndOffset v :=
    .ok (Function.update c keyAndOffset.1 (some (keyAndOffset.2, v)))
  keyOf := keyOf
  valueOf := hashOf

/-- `ContractStore::new` and `DelegateStore::new`: create `KEY_DATA` when it
is absent, load it otherwise, and open the index writer. -/
def CodeStore.new (S : StoreFsManagement (K → Option (Nat × Bytes32)) K Bytes32)
    (fs : Fs CodeFile) : Fs CodeFile × Except RuntimeError (CodeStore K) :=
  let loaded : Fs CodeFile × Except Fault (K → Option (Nat × Bytes32)) :=
    if !fs.exists? .keyData then
      match fs.openFile { create := true, truncate := true } .keyData with
      | .error e => (fs, .error (.io e))
      | .ok (fs, _) => (fs, .ok fun _ => none)
    else
      match loadFromFile S fs .keyData (fun _ => none) with
      | (_, .error f) => (fs, .error f)
      | (c, .ok ()) => (fs, .ok c)
  match loaded with
  | (fs, .error f) => (fs, .error (.fault f))
  | (fs, .ok keyToCodePart) =>
      match SafeWriter.new fs .keyData .keyDataLock false with
      | .error e => (fs, .error (.fault (.io e)))
      | .ok (fs, indexFile) => (fs, .ok ⟨[], keyToCodePart, indexFile⟩)

/-- The `// Update index` block of `store_contract` and `store_delegate`: an
existing record of the key is tombstoned first, then the new record is
appended and its offset recorded. -/
def CodeStore.updateIndex (toStoreKey : K → StoreKey) (fs : Fs CodeFile) (st : CodeStore K) (key : K)
    (codeHash : Bytes32) : Fs CodeFile × CodeStore K × Except RuntimeError Unit :=
  match st.keyToCodePart key with
  | some (currentVersionOffset, _) =>
      match remove fs .keyData currentVersionOffset with
      | .error f => (fs, st, .error (.fault f))
      | .ok fs =>
          match st.indexFile.insertRecord fs (toStoreKey key) codeHash.val with
          | .error f => (fs, st, .error (.fault f))
          | .ok (fs, w, newOffset) =>
              (fs, { st with indexFile := w, keyToCodePart :=
                Function.update st.keyToCodePart key (some (newOffset, codeHash)) }, .ok ())
  | none =>
      match st.indexFile.insertRecord fs (toStoreKey key) codeHash.val with
      | .error f => (fs, st, .error (.fault f))
      | .ok (fs, w, offset) =>
          (fs, { st with indexFile := w, keyToCodePart :=
            Function.update st.keyToCodePart key (some (offset, codeHash)) }, .ok ())

/-- The part of `store_contract` and `store_delegate` from the cache lookup
on, with whether it hits: nothing to do when the code is cached or its file
loads; otherwise the code is given to the cache, its versioned bytes
written to its file, and the index updated. -/
def CodeStore.storeCode (cached : Bool) (loads : List UInt8 → Bool) (toStoreKey : K → StoreKey)
    (fs : Fs CodeFile) (st : CodeStore K) (key : K) (codeHash : Bytes32) (output : List UInt8) :
    Fs CodeFile × CodeStore K × Except RuntimeError Unit :=
  if cached then (fs, st, .ok ())
  else if (fs.contents (.wasm codeHash)).any loads then
    (fs, { st with cache := codeHash :: st.cache }, .ok ())
  else
    let st := { st with cache := codeHash :: st.cache }
    match fs.openFile { create := true, truncate := true } (.wasm codeHash) with
    | .error e => (fs, st, .error (.fault (.io e)))
    | .ok (fs, file) =>
        let (fs, _) := fs.write file output
        st.updateIndex toStoreKey fs key codeHash

/-! ### The contract store -/

/-- A `ContractKey`: the instance id, and the code hash when it is known. -/
structure ContractKey where
  id : Bytes32
  codeHash : Option Bytes32
  deriving DecidableEq

/-- A `ContractContainer`: its key, its parameters, and the bytes
`to_bytes_versioned` gives for its code. -/
structure ContractContainer where
  key : ContractKey
  params : List UInt8
  versioned : List UInt8
  deriving DecidableEq

/-- `From<StoreKey> for ContractInstanceId`. -/
def contractInstanceIdOf : StoreKey → Except Fault Bytes32
  | .contractKey k => .ok k
  | .delegateKey .. => .error .panic

/-- `store_contract`, with whether the cache lookup hits. -/
def storeContract (cached : Bool) (loads : List UInt8 → Bool) (fs : Fs CodeFile) (st : CodeStore Bytes32)
    (contract : ContractContainer) : Fs CodeFile × CodeStore Bytes32 × Except RuntimeError Unit :=
  match contract.key.codeHash with
  | none => (fs, st, .error .unwrapContract)
  | some codeHash =>
      st.storeCode cached loads StoreKey.contractKey fs contract.key.id codeHash contract.versioned

/-- `remove_contract`: the entry goes first, then its record is tombstoned,
then the code file is removed. -/
def removeContract (fs : Fs CodeFile) (st : CodeStore Bytes32) (key : ContractKey) :
    Fs CodeFile × CodeStore Bytes32 × Except RuntimeError Unit :=
  let contractHash := match key.codeHash with
    | some k => some k
    | none => (st.keyToCodePart key.id).map (·.2)
  match contractHash with
  | none => (fs, st, .error .unwrapContract)
  | some contractHash =>
      let entry := st.keyToCodePart key.id
      let st := { st with keyToCodePart := Function.update st.keyToCodePart key.id none }
      let tombstoned := match entry with
        | some (offset, _) => remove fs .keyData offset
        | none => .ok fs
      match tombstoned with
      | .error f => (fs, st, .error (.fault f))
      | .ok fs =>
          match fs.removeFile (.wasm contractHash) with
          | .error e => (fs, st, .error (.fault (.io e)))
          | .ok fs => (fs, st, .ok ())

/-! ### The delegate store -/

/-- A `DelegateKey`: the key and the code hash. -/
abbrev DelegateKey := Bytes32 × Bytes32

/-- A `DelegateContainer`: its key, and the bytes `to_bytes_versioned` gives
for its code. -/
structure DelegateContainer where
  key : DelegateKey
  versioned : List UInt8
  deriving DecidableEq

/-- `From<StoreKey> for DelegateKey`. -/
def delegateKeyOf : StoreKey → Except Fault DelegateKey
  | .delegateKey k h => .ok (k, h)
  | .contractKey _ => .error .panic

/-- `store_delegate`, with whether the cache lookup hits. -/
def storeDelegate (cached : Bool) (loads : List UInt8 → Bool) (fs : Fs CodeFile) (st : CodeStore DelegateKey)
    (delegate : DelegateContainer) : Fs CodeFile × CodeStore DelegateKey × Except RuntimeError Unit :=
  st.storeCode cached loads (fun k => .delegateKey k.1 k.2) fs delegate.key delegate.key.2 delegate.versioned

/-- `remove_delegate`: the code hash leaves the cache, the entry goes, its
record is tombstoned, and the `.wasm` file named after the delegate key (not
after its code hash, as `store_delegate` names it) is removed when it
exists. -/
def removeDelegate (fs : Fs CodeFile) (st : CodeStore DelegateKey) (key : DelegateKey) :
    Fs CodeFile × CodeStore DelegateKey × Except RuntimeError Unit :=
  let st := { st with cache := st.cache.filter (· ≠ key.2) }
  let entry := st.keyToCodePart key
  let st := { st with keyToCodePart := Function.update st.keyToCodePart key none }
  let tombstoned := match entry with
    | some (offset, _) => remove fs .keyData offset
    | none => .ok fs
  match tombstoned with
  | .error f => (fs, st, .error (.fault f))
  | .ok fs =>
      match fs.removeFile (.wasm key.1) with
      | .error .notFound => (fs, st, .ok ())
      | .error e => (fs, st, .error (.fault (.io e)))
      | .ok fs => (fs, st, .ok ())

/-! ### Runs -/

/-- What can happen to a code store: a call of the store (with whether its
cache lookup hits), a run of the compaction thread, or a reload by the
watcher. -/
inductive CodeEvent (C K : Type)
  | store (item : C) (cached : Bool)
  | remove (key : K)
  | compact
  | reload

/-- The watcher's reload: `load_from_file` into the live container, which
keeps what it inserted when it fails. -/
def CodeStore.reload (S : StoreFsManagement (K → Option (Nat × Bytes32)) K Bytes32)
    (fs : Fs CodeFile) (st : CodeStore K) : CodeStore K :=
  { st with keyToCodePart := (loadFromFile S fs .keyData st.keyToCodePart).1 }

/-- One event of a contract store's run. A call that fails keeps what it did
before failing, as the store does. -/
def contractStep (loads : List UInt8 → Bool) (hashOf : List UInt8 → Except Fault Bytes32)
    (s : Fs CodeFile × CodeStore Bytes32) :
    CodeEvent ContractContainer ContractKey → Fs CodeFile × CodeStore Bytes32
  | .store c cached => let (fs, st, _) := storeContract cached loads s.1 s.2 c; (fs, st)
  | .remove key => let (fs, st, _) := removeContract s.1 s.2 key; (fs, st)
  | .compact => ((compactIndexFile s.1 CodeFile.paths).1, s.2)
  | .reload => (s.1, s.2.reload (codeStoreFs contractInstanceIdOf hashOf) s.1)

/-- A run of a contract store. -/
def contractRun (loads : List UInt8 → Bool) (hashOf : List UInt8 → Except Fault Bytes32)
    (s : Fs CodeFile × CodeStore Bytes32) (evs : List (CodeEvent ContractContainer ContractKey)) :
    Fs CodeFile × CodeStore Bytes32 :=
  evs.foldl (contractStep loads hashOf) s

/-- The in-memory index agrees with `KEY_DATA`: its live records are exactly
the entries, each at the offset the entry records. -/
def CodeStore.IndexAgrees (toStoreKey : K → StoreKey) (fs : Fs CodeFile) (st : CodeStore K) :
    Prop :=
  ∃ data, fs.contents .keyData = some data ∧
    ∀ off r, (off, some r) ∈ (decodeIndex data).1 ↔
      ∃ k h, r = (toStoreKey k, h.val) ∧ st.keyToCodePart k = some (off, h)

/-- The empty index file decodes to no record. -/
theorem decodeIndex_nil : decodeIndex [] = ([], .io .unexpectedEof) := rfl

/-- A contract stored, removed, the index compacted, and another contract
stored: the store's writer still appends to the index file the compaction
replaced, so the second contract has an entry and no record in `KEY_DATA`.
Neither code was given to the cache before it is stored, so both lookups
miss. This holds whatever the `freenet_stdlib` functions do, none of which
the run reaches. -/
theorem contract_store_entry_without_record (loads : List UInt8 → Bool)
    (hashOf : List UInt8 → Except Fault Bytes32) :
    ∃ fs st, CodeStore.new (codeStoreFs contractInstanceIdOf hashOf) (Fs.ofList []) = (fs, .ok st) ∧
      ¬ (contractRun loads hashOf (fs, st)
          [.store ⟨⟨.replicate 1, some (.replicate 2)⟩, [], [9]⟩ false, .remove ⟨.replicate 1, some (.replicate 2)⟩,
            .compact, .store ⟨⟨.replicate 3, some (.replicate 4)⟩, [], [8]⟩ false]).2.IndexAgrees
          StoreKey.contractKey
          (contractRun loads hashOf (fs, st)
            [.store ⟨⟨.replicate 1, some (.replicate 2)⟩, [], [9]⟩ false, .remove ⟨.replicate 1, some (.replicate 2)⟩,
              .compact, .store ⟨⟨.replicate 3, some (.replicate 4)⟩, [], [8]⟩ false]).1 := by
  refine ⟨_, _, rfl, ?_⟩
  generalize hs : contractRun loads hashOf _ _ = s
  -- evaluating the run: `KEY_DATA` is empty, and the second contract has an entry
  have hkey : s.1.contents .keyData = some [] := by rw [← hs]; rfl
  obtain ⟨off, h, hentry⟩ : ∃ off h, s.2.keyToCodePart (.replicate 3) = some (off, h) := by
    rw [← hs]
    exact ⟨_, _, rfl⟩
  rintro ⟨data, hdata, hagree⟩
  rw [hkey, Option.some.injEq] at hdata
  subst hdata
  have hmem := (hagree off (.contractKey (.replicate 3), h.val)).mpr ⟨_, h, rfl, hentry⟩
  simp [decodeIndex_nil] at hmem

end FreenetCore.WasmRuntime
