import FreenetCore.WasmRuntime.CodeStores

/-!
The secrets store (`secrets_store.rs`).

A delegate's secrets are files under its directory; the index `KEY_DATA`
holds one live record per delegate whose value is the concatenation of the
hashes of its secret ids, and `key_to_secret_part` keeps, per delegate, the
offset of that record and the set of hashes. `store_secret` rewrites the
delegate's record on every call; `load_from_file` rebuilds the sets from the
records, 32 bytes at a time.

The cipher (`XChaCha20Poly1305` with the delegate's or the default key) is a
parameter `encrypt`, already mapping its failure to the error `store_secret`
returns. A `HashSet` is a list without duplicates, in the order its
iteration would give.
-/

namespace FreenetCore.WasmRuntime

open FileSys Bytes

/-- A `SecretsId`: the id's bytes and their hash. -/
structure SecretsId where
  key : List UInt8
  hash : Bytes32
  deriving DecidableEq

/-- The files of the secrets directory: `KEY_DATA`, its `.tmp` and `.lock`
files, and a file per delegate and secret id. -/
inductive SecretsFile
  | keyData
  | keyDataTmp
  | keyDataLock
  | secret (delegate : DelegateKey) (secretId : SecretsId)
  deriving DecidableEq

/-- `SecretStoreError`. -/
inductive SecretStoreError
  | encryption
  | io (f : Fault)
  | missingCipher
  | missingSecret (id : SecretsId)
  deriving DecidableEq

/-- The fields of `SecretsStore` the modelled calls read and write. -/
structure SecretsStore where
  keyToSecretPart : DelegateKey → Option (Nat × List Bytes32)
  indexFile : SafeWriter SecretsFile

/-- `HashSet::extend`. -/
def extendSet (hashes new : List Bytes32) : List Bytes32 :=
  new.foldl (fun s h => s.insert h) hashes

/-- `value.chunks(32)`, each chunk copied into a `[u8; 32]` by
`copy_from_slice`, which panics on a shorter last chunk. -/
def splitSecrets (value : List UInt8) : Except Fault (List Bytes32) :=
  (value.toChunks 32).mapM fun chunk =>
    if h : chunk.length = internalKey then .ok ⟨chunk, h⟩ else .error .panic

/-- The `StoreFsManagement` of `SecretsStore`: `insert_in_container` splits
the value into hashes and adds them to the delegate's set, moving its offset
to the record's. -/
def secretsStoreFs :
    StoreFsManagement (DelegateKey → Option (Nat × List Bytes32)) DelegateKey (List UInt8) where
  insertInContainer c keyAndOffset value :=
    match splitSecrets value with
    | .error f => .error f
    | .ok split =>
        let hashes := match c keyAndOffset.1 with
          | some (_, secretHashes) => extendSet secretHashes split
          | none => extendSet [] split
        .ok (Function.update c keyAndOffset.1 (some (keyAndOffset.2, hashes)))
  keyOf := delegateKeyOf
  valueOf value := .ok value

/-- `SecretsStore::new`: create `KEY_DATA` when it is absent, load it
otherwise, and open the index writer. -/
def SecretsStore.new (fs : Fs SecretsFile) : Fs SecretsFile × Except Fault SecretsStore :=
  let loaded : Fs SecretsFile × Except Fault (DelegateKey → Option (Nat × List Bytes32)) :=
    if !fs.exists? .keyData then
      match fs.openFile { create := true, truncate := true } .keyData with
      | .error e => (fs, .error (.io e))
      | .ok (fs, _) => (fs, .ok fun _ => none)
    else
      match loadFromFile secretsStoreFs fs .keyData (fun _ => none) with
      | (_, .error f) => (fs, .error f)
      | (c, .ok ()) => (fs, .ok c)
  match loaded with
  | (fs, .error f) => (fs, .error f)
  | (fs, .ok keyToSecretPart) =>
      match SafeWriter.new fs .keyData .keyDataLock false with
      | .error e => (fs, .error (.io e))
      | .ok (fs, indexFile) => (fs, .ok ⟨keyToSecretPart, indexFile⟩)

/-- The `// Update index` block of `store_secret`: an existing record of the
delegate is tombstoned and replaced by one holding the hashes the delegate
had, and the new hash is added to the set in memory afterwards. -/
def SecretsStore.updateIndex (fs : Fs SecretsFile) (st : SecretsStore) (delegate : DelegateKey)
    (secretKey : Bytes32) : Fs SecretsFile × SecretsStore × Except SecretStoreError Unit :=
  match st.keyToSecretPart delegate with
  | some (currentVersionOffset, secretHashes) =>
      let value := secretHashes.flatMap (·.val)
      match remove fs .keyData currentVersionOffset with
      | .error f => (fs, st, .error (.io f))
      | .ok fs =>
          match st.indexFile.insertRecord fs (.delegateKey delegate.1 delegate.2) value with
          | .error f => (fs, st, .error (.io f))
          | .ok (fs, w, newOffset) =>
              let keyToSecretPart := Function.update st.keyToSecretPart delegate
                (some (newOffset, secretHashes.insert secretKey))
              (fs, ⟨keyToSecretPart, w⟩, .ok ())
  | none =>
      match st.indexFile.insertRecord fs (.delegateKey delegate.1 delegate.2) secretKey.val with
      | .error f => (fs, st, .error (.io f))
      | .ok (fs, w, offset) =>
          let keyToSecretPart := Function.update st.keyToSecretPart delegate (some (offset, [secretKey]))
          (fs, ⟨keyToSecretPart, w⟩, .ok ())

/-- `store_secret` once the plaintext is encrypted: the index update, then
the secret's file (`create_dir_all` of the delegate's directory always
succeeds here: directories are not modelled). -/
def SecretsStore.storeCiphertext (fs : Fs SecretsFile) (st : SecretsStore) (delegate : DelegateKey)
    (key : SecretsId) (ciphertext : List UInt8) :
    Fs SecretsFile × SecretsStore × Except SecretStoreError Unit :=
  match st.updateIndex fs delegate key.hash with
  | (fs, st, .error e) => (fs, st, .error e)
  | (fs, st, .ok ()) =>
      match fs.openFile { create := true, truncate := true } (.secret delegate key) with
      | .error e => (fs, st, .error (.io (.io e)))
      | .ok (fs, file) => ((fs.write file ciphertext).1, st, .ok ())

/-- `store_secret`. -/
def storeSecret (encrypt : DelegateKey → List UInt8 → Except SecretStoreError (List UInt8))
    (fs : Fs SecretsFile) (st : SecretsStore) (delegate : DelegateKey) (key : SecretsId)
    (plaintext : List UInt8) : Fs SecretsFile × SecretsStore × Except SecretStoreError Unit :=
  match encrypt delegate plaintext with
  | .error e => (fs, st, .error e)
  | .ok ciphertext => st.storeCiphertext fs delegate key ciphertext

set_option maxRecDepth 2000 in
/-- Two secrets stored for one delegate in a new store: the store holds both
hashes, but the delegate's live record in `KEY_DATA` is the one the second
call wrote from the set before adding the second hash, so reloading the index
gives only the first. -/
theorem secrets_reload_loses_second_hash
    (encrypt : DelegateKey → List UInt8 → Except SecretStoreError (List UInt8)) (c₁ c₂ : List UInt8)
    (h₁ : encrypt (.replicate 5, .replicate 6) [1] = .ok c₁)
    (h₂ : encrypt (.replicate 5, .replicate 6) [2] = .ok c₂) :
    ∃ fs₀ st₀ fs₁ st₁ fs₂ st₂, SecretsStore.new (Fs.ofList []) = (fs₀, .ok st₀) ∧
      storeSecret encrypt fs₀ st₀ (.replicate 5, .replicate 6) ⟨[1], .replicate 7⟩ [1] =
        (fs₁, st₁, .ok ()) ∧
      storeSecret encrypt fs₁ st₁ (.replicate 5, .replicate 6) ⟨[2], .replicate 8⟩ [2] =
        (fs₂, st₂, .ok ()) ∧
      (st₂.keyToSecretPart (.replicate 5, .replicate 6)).map (·.2) =
        some [.replicate 8, .replicate 7] ∧
      ((loadFromFile secretsStoreFs fs₂ .keyData fun _ => none).1
        (.replicate 5, .replicate 6)).map (·.2) = some [.replicate 7] := by
  refine ⟨_, _, _, _, _, _, rfl, by rw [storeSecret, h₁]; rfl, by rw [storeSecret, h₂]; rfl, rfl, ?_⟩
  -- the index holds the first record tombstoned and the second, with the first hash only
  rw [loadFromFile_eq_of_contents secretsStoreFs (fun _ => none)
    (indexWith (fun c => if c = 0 then 1 else 0) 0
      [(.delegateKey (.replicate 5) (.replicate 6), (Bytes32.replicate 7).val),
        (.delegateKey (.replicate 5) (.replicate 6), (Bytes32.replicate 7).val)]) ?hdata]
  · decide +kernel
  · rfl

/-- The same two calls with a cipher that hands the plaintext back. -/
theorem secrets_reload_loses_second_hash_plain :
    ∃ fs₀ st₀ fs₁ st₁ fs₂ st₂, SecretsStore.new (Fs.ofList []) = (fs₀, .ok st₀) ∧
      storeSecret (fun _ p => .ok p) fs₀ st₀ (.replicate 5, .replicate 6) ⟨[1], .replicate 7⟩ [1] =
        (fs₁, st₁, .ok ()) ∧
      storeSecret (fun _ p => .ok p) fs₁ st₁ (.replicate 5, .replicate 6) ⟨[2], .replicate 8⟩ [2] =
        (fs₂, st₂, .ok ()) ∧
      (st₂.keyToSecretPart (.replicate 5, .replicate 6)).map (·.2) =
        some [.replicate 8, .replicate 7] ∧
      ((loadFromFile secretsStoreFs fs₂ .keyData fun _ => none).1
        (.replicate 5, .replicate 6)).map (·.2) = some [.replicate 7] :=
  secrets_reload_loses_second_hash (fun _ p => .ok p) [1] [2] rfl rfl

end FreenetCore.WasmRuntime
