import FreenetCore.Lib.FileSys

/-!
The index files of the runtime's stores (`store.rs`).

An index file is a sequence of records. A record is a tombstone byte (zero
while the record is live), a key-type byte, the key (32 bytes for a
contract, 32 more for a delegate's code hash), the value's length as a
big-endian `u32`, and the value. `SafeWriter::insert_record` appends a record
and returns the offset where it starts; `StoreFsManagement::remove` sets the
tombstone byte at an offset; `process_record` decodes the record at the
reader's position, and `load_from_file` runs it from the start of the file
until it fails. `compact_index_file` rewrites the live records into the
`.tmp` file beside the index and renames it over the index.

`BufWriter` is modelled by its effect: `insert_record` flushes at its end, so
the record's bytes reach the file in one write at the handle's position.
-/

namespace FreenetCore.WasmRuntime

open FileSys Bytes

/-- `INTERNAL_KEY`: the length of a key and of a code hash. -/
def internalKey : Nat := 32

/-- `TOMBSTONE_MARKER`: the length of the tombstone byte. -/
def tombstoneMarker : Nat := 1

/-- A `[u8; 32]`. -/
abbrev Bytes32 := { b : List UInt8 // b.length = internalKey }

/-- The `[u8; 32]` of one repeated byte. -/
def Bytes32.replicate (b : UInt8) : Bytes32 := ⟨List.replicate internalKey b, List.length_replicate⟩

/-- `StoreKey`. -/
inductive StoreKey
  | contractKey (key : Bytes32)
  | delegateKey (key codeHash : Bytes32)
  deriving DecidableEq

/-- `KeyType`. -/
inductive KeyType
  | contract
  | delegate
  deriving DecidableEq, Repr

/-- The `repr(u8)` value of a key type. -/
def KeyType.toU8 : KeyType → UInt8
  | .contract => 0
  | .delegate => 1

/-- The value `process_record` returns: `Either<[u8; 32], Vec<u8>>`. -/
abbrev RecordValue := Sum Bytes32 (List UInt8)

/-- The bytes of a value, whichever side it came back on. -/
def RecordValue.bytes : RecordValue → List UInt8
  | .inl v => v.val
  | .inr v => v

/-- The names of one store's index files: `KEY_DATA`, and the `.tmp` and
`.lock` names `with_extension` derives from it. The `.lock` name derived from
the `.tmp` name is the same `.lock`. -/
structure IndexPaths (ν : Type) where
  keyFile : ν
  tmpFile : ν
  lockFile : ν

/-! ### Writing records -/

/-- `SafeWriter`: the open index file, the lock file it waits on, and whether
it is the writer of a compaction. -/
structure SafeWriter (ν : Type) where
  file : Handle
  lockFilePath : ν
  compact : Bool

variable {ν : Type} [DecidableEq ν]

/-- `SafeWriter::new`: a compaction's writer writes from the start of the
file (create, write); any other appends (create, read, append). Neither
truncates. -/
def SafeWriter.new (fs : Fs ν) (path lockFilePath : ν) (compact : Bool) :
    Except ErrorKind (Fs ν × SafeWriter ν) :=
  let opts : OpenOptions := if compact then { create := true } else { create := true, append := true }
  match fs.openFile opts path with
  | .error e => .error e
  | .ok (fs, h) => .ok (fs, ⟨h, lockFilePath, compact⟩)

/-- `check_lock`: a writer other than a compaction's waits while the lock
file exists. Nothing else runs while it waits, so it waits for ever. -/
def SafeWriter.checkLock (w : SafeWriter ν) (fs : Fs ν) : Except Fault Unit :=
  if !w.compact && fs.exists? w.lockFilePath then .error .hang else .ok ()

/-- The bytes of the successive writes of `insert_record`: the tombstone byte
`false as u8`, the key type, the key, a delegate's code hash, the value's
length (`len() as u32`, big-endian) and the value. -/
def recordBytes (key : StoreKey) (value : List UInt8) : List UInt8 :=
  match key with
  | .contractKey k => [0, KeyType.contract.toU8] ++ k.val ++ u32be value.length ++ value
  | .delegateKey k h => [0, KeyType.delegate.toU8] ++ k.val ++ h.val ++ u32be value.length ++ value

/-- The `traversed` count of `insert_record`: the tombstone byte, the code
hash of a delegate key, the key and its type, the length, the value. -/
def traversed (key : StoreKey) (value : List UInt8) : Nat :=
  let t := 1
  let t := match key with
    | .contractKey _ => t
    | .delegateKey .. => t + 32
  let t := t + (1 + 32)
  let t := t + 4
  t + value.length

/-- `SafeWriter::insert_record`: write the record, flush, and return the
stream position minus `traversed`. -/
def SafeWriter.insertRecord (fs : Fs ν) (w : SafeWriter ν) (key : StoreKey)
    (value : List UInt8) : Except Fault (Fs ν × SafeWriter ν × Nat) :=
  match w.checkLock fs with
  | .error f => .error f
  | .ok () =>
      let (fs, file) := fs.write w.file (recordBytes key value)
      let currentOffset := file.pos
      .ok (fs, { w with file := file }, currentOffset - traversed key value)

/-- `StoreFsManagement::remove`: open the index (read, write) and set the
tombstone byte at `keyOffset`. -/
def remove (fs : Fs ν) (keyFilePath : ν) (keyOffset : Nat) : Except Fault (Fs ν) :=
  match fs.openFile {} keyFilePath with
  | .error e => .error (.io e)
  | .ok (fs, h) => .ok (fs.write { h with pos := keyOffset } [1]).1

/-! ### Reading records -/

/-- `read_exact` of `n` bytes at `pos`. -/
def readBytes (data : List UInt8) (pos n : Nat) : Except Fault (List UInt8 × Nat) :=
  match readExact data pos n with
  | some bs => .ok (bs, pos + n)
  | none => .error (.io .unexpectedEof)

/-- `read_exact` into a `[u8; 32]`. -/
def readBytes32 (data : List UInt8) (pos : Nat) : Except Fault (Bytes32 × Nat) :=
  if h : pos + internalKey ≤ data.length then
    .ok (⟨(data.drop pos).take internalKey, by simp only [List.length_take, List.length_drop]; omega⟩,
      pos + internalKey)
  else .error (.io .unexpectedEof)

/-- `read_u32::<BigEndian>`. -/
def readU32 (data : List UInt8) (pos : Nat) : Except Fault (Nat × Nat) :=
  match readBytes data pos 4 with
  | .ok (bs, pos) => .ok (readU32be bs, pos)
  | .error f => .error f

/-- The key type byte: `unreachable!()` past `1`. -/
def keyTypeOf (b : UInt8) : Except Fault KeyType :=
  if b = 0 then .ok .contract
  else if b = 1 then .ok .delegate
  else .error .panic

/-- The key of a live record. -/
def readStoreKey (data : List UInt8) (pos : Nat) : KeyType → Except Fault (StoreKey × Nat)
  | .contract => do
      let (key, pos) ← readBytes32 data pos
      pure (.contractKey key, pos)
  | .delegate => do
      let (key, pos) ← readBytes32 data pos
      let (codeHash, pos) ← readBytes32 data pos
      pure (.delegateKey key codeHash, pos)

/-- The value of a live record: a `[u8; 32]` when its length is 32, a vector
otherwise. -/
def readValue (data : List UInt8) (pos valueLen : Nat) : Except Fault (RecordValue × Nat) :=
  if valueLen = 32 then do
    let (v, pos) ← readBytes32 data pos
    pure (.inl v, pos)
  else do
    let (v, pos) ← readBytes data pos valueLen
    pure (.inr v, pos)

/-- `process_record`: the record at `pos` and the position after it; `none`
for a deleted record, whose key and value are skipped with `seek_relative`. -/
def processRecord (data : List UInt8) (pos : Nat) :
    Except Fault (Option (StoreKey × RecordValue) × Nat) := do
  let (keyPart, pos) ← readBytes data pos (tombstoneMarker + 1)
  let deleted := keyPart[0]! != 0
  let keyType ← keyTypeOf keyPart[1]!
  if !deleted then
    let (storeKey, pos) ← readStoreKey data pos keyType
    let (valueLen, pos) ← readU32 data pos
    let (value, pos) ← readValue data pos valueLen
    pure (some (storeKey, value), pos)
  else
    let pos := match keyType with
      | .contract => pos + 32
      | .delegate => pos + 32 + 32
    let (valueLen, pos) ← readU32 data pos
    pure (none, pos + valueLen)

/-- The records the decoding loop of `load_from_file` reads, each with the
position it starts at (the loop's `key_cursor`), and the failure that ends the
loop. `fuel` bounds the iterations (see `readRecords`). -/
def readRecordsFrom (data : List UInt8) :
    Nat → Nat → List (Nat × Option (StoreKey × RecordValue)) × Fault
  | 0, _ => ([], .hang)
  | fuel + 1, pos =>
      match processRecord data pos with
      | .error f => ([], f)
      | .ok (record, pos') =>
          let (rest, stop) := readRecordsFrom data fuel pos'
          ((pos, record) :: rest, stop)

/-- The decoding loop from the start of a file. A record read without error
takes at least two bytes, so the loop stops within `data.length + 1`
iterations. -/
def readRecords (data : List UInt8) : List (Nat × Option (StoreKey × RecordValue)) × Fault :=
  readRecordsFrom data (data.length + 1) 0

/-- The store-specific part of `StoreFsManagement`: how a record enters the
in-memory container (which may panic), and the conversions of its key
(`From<StoreKey>`, which is `unreachable!()` on the other kind of key) and
value (`TryFrom<&[u8]>`). -/
structure StoreFsManagement (C K V : Type) where
  insertInContainer : C → K × Nat → V → Except Fault C
  keyOf : StoreKey → Except Fault K
  valueOf : List UInt8 → Except Fault V

/-- The body of the loop of `load_from_file` over the records read: each live
record's key and value converted and inserted with its cursor. A failed
conversion ends the call (the `?`), with what was inserted so far left in the
container. -/
def insertRecords {C K V : Type} (S : StoreFsManagement C K V) :
    C → List (Nat × Option (StoreKey × RecordValue)) → C × Except Fault Unit
  | c, [] => (c, .ok ())
  | c, (_, none) :: rest => insertRecords S c rest
  | c, (cursor, some (storeKey, value)) :: rest =>
      match S.keyOf storeKey with
      | .error f => (c, .error f)
      | .ok key =>
          match S.valueOf value.bytes with
          | .error f => (c, .error f)
          | .ok v =>
              match S.insertInContainer c (key, cursor) v with
              | .error f => (c, .error f)
              | .ok c => insertRecords S c rest

/-- `load_from_file`: the container after the call, and what the call
returns. The loop ends at the first record `process_record` cannot read; a
panic inside `process_record` is a panic of the whole call. -/
def loadFromFile {C K V : Type} (S : StoreFsManagement C K V) (fs : Fs ν) (keyFilePath : ν)
    (container : C) : C × Except Fault Unit :=
  match fs.contents keyFilePath with
  | none => (container, .error (.io .notFound))
  | some data =>
      let (records, stop) := readRecords data
      match insertRecords S container records, stop with
      | (c, .error f), _ => (c, .error f)
      | (c, .ok ()), .io _ => (c, .ok ())
      | (c, .ok ()), f => (c, .error f)

/-- `load_from_file` reads nothing of the file system but the index file. -/
theorem loadFromFile_eq_of_contents {C K V : Type} (S : StoreFsManagement C K V) (container : C)
    (data : List UInt8) {fs : Fs ν} {keyFilePath : ν} (h : fs.contents keyFilePath = some data) :
    loadFromFile S fs keyFilePath container =
      loadFromFile S (Fs.ofList [(keyFilePath, data)]) keyFilePath container := by
  have hone : (Fs.ofList [(keyFilePath, data)]).contents keyFilePath = some data := by
    simp [Fs.contents, Fs.ofList]
  simp only [loadFromFile, h, hone]

/-! ### Sequences of calls -/

/-- Successive `insert` calls through one writer, with the offsets they
return; the first failure ends the sequence. -/
def insertAll (fs : Fs ν) (w : SafeWriter ν) :
    List (StoreKey × List UInt8) → Except Fault (Fs ν × SafeWriter ν × List Nat)
  | [] => .ok (fs, w, [])
  | (key, value) :: rest =>
      match w.insertRecord fs key value with
      | .error f => .error f
      | .ok (fs, w, offset) =>
          match insertAll fs w rest with
          | .error f => .error f
          | .ok (fs, w, offsets) => .ok (fs, w, offset :: offsets)

/-- Successive `remove` calls on one index file. -/
def removeAll (fs : Fs ν) (keyFilePath : ν) : List Nat → Except Fault (Fs ν)
  | [] => .ok fs
  | offset :: rest =>
      match remove fs keyFilePath offset with
      | .error f => .error f
      | .ok fs => removeAll fs keyFilePath rest

/-! ### Compaction -/

/-- The loop of `compact_index_file`: copy every live record of `data` into the
temporary writer, note whether a deleted record was seen, stop at the end of
the data. `fuel` bounds the iterations as in `readRecordsFrom`. -/
def compactLoop (data : List UInt8) (fs : Fs ν) (w : SafeWriter ν) (anyDeleted : Bool) :
    Nat → Nat → Fs ν × Except Fault (SafeWriter ν × Bool)
  | 0, _ => (fs, .error .hang)
  | fuel + 1, pos =>
      match processRecord data pos with
      | .ok (some (storeKey, value), pos') =>
          match w.insertRecord fs storeKey value.bytes with
          | .error f => (fs, .error f)
          | .ok (fs, w, _) => compactLoop data fs w anyDeleted fuel pos'
      | .ok (none, pos') => compactLoop data fs w true fuel pos'
      | .error (.io .unexpectedEof) => (fs, .ok (w, anyDeleted))
      | .error f => (fs, .error f)

/-- Remove the lock file, ignoring a failure (the `if let Err(e) =
fs::remove_file(..) { eprintln!(..) }` of every early return). -/
def dropLock (fs : Fs ν) (paths : IndexPaths ν) : Fs ν :=
  match fs.removeFile paths.lockFile with
  | .ok fs => fs
  | .error _ => fs

/-- The end of `compact_index_file`, from what its loop left: a panic leaves
the lock file behind; an error, or a file with nothing deleted, removes the
lock and returns; otherwise the temporary file is renamed over the index and
the lock removed. -/
def finishCompaction (paths : IndexPaths ν) :
    Fs ν × Except Fault (SafeWriter ν × Bool) → Fs ν × Except Fault Unit
  | (fs, .error .panic) => (fs, .error .panic)
  | (fs, .error f) => (dropLock fs paths, .error f)
  | (fs, .ok (_, false)) => (dropLock fs paths, .ok ())
  | (fs, .ok (_, true)) =>
      match fs.rename paths.tmpFile paths.keyFile with
      | .error e => (dropLock fs paths, .error (.io e))
      | .ok fs =>
          match fs.removeFile paths.lockFile with
          | .error e => (fs, .error (.io e))
          | .ok fs => (fs, .ok ())

/-- `compact_index_file`, with the state of the file system it leaves
behind whatever it returns. -/
def compactIndexFile (fs : Fs ν) (paths : IndexPaths ν) : Fs ν × Except Fault Unit :=
  match fs.openFile { createNew := true } paths.lockFile with
  | .error .alreadyExists => (fs, .ok ())
  | .error e => (fs, .error (.io e))
  | .ok (fs, _) =>
      match fs.openFile {} paths.keyFile with
      | .error e => (fs, .error (.io e))
      | .ok (fs, original) =>
          let data := fs.data original.inode
          match SafeWriter.new fs paths.tmpFile paths.lockFile true with
          | .error e => (dropLock fs paths, .error (.io e))
          | .ok (fs, tempWriter) =>
              finishCompaction paths (compactLoop data fs tempWriter false (data.length + 1) 0)

end FreenetCore.WasmRuntime
