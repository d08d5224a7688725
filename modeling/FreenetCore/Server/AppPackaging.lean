import FreenetCore.Lib.Bytes
import FreenetCore.Lib.Json

/-!
The packages of web applications served by HTTP-gateway contracts
(`server/app_packaging.rs`), as `fdev build` makes them (`build.rs`).

A package holds the application's metadata and its web sources, a tar
archive compressed with xz. `pack` writes each part as its length, a
big-endian `u64`, followed by its bytes; `try_from` reads them back and
refuses metadata over 1 KiB and a web part over 100 MiB. `fdev` reads the
metadata from a file of any length and packs it unchecked.

The archive's bytes are what the tar builder gives, and `xz` is the encoder
at level 6. `get_file` walks the entries that the tar reader yields over the
xz decoder, `entries`, each of which may fail. `unpack`, which writes the
archive to disk, is left out.
-/

namespace FreenetCore.Server

open Bytes SerdeJson

/-- The `DynError` of an unpacking error: the end of the data, or a
message. -/
inductive UnpackingError
  | unexpectedEof
  | message (s : String)
  deriving DecidableEq

/-- `WebContractError`, without the `StoringError` of `unpack`. -/
inductive WebContractError
  | unpackingError (e : UnpackingError)
  | fileNotFound (path : String)
  deriving DecidableEq

/-- `WebApp`. -/
structure WebApp where
  metadata : List UInt8
  web : List UInt8
  deriving DecidableEq

namespace WebApp

/-- `WebApp::from_data`: the archive compressed. -/
def fromData (xz : List UInt8 → List UInt8) (metadata archive : List UInt8) : WebApp :=
  ⟨metadata, xz archive⟩

/-- `WebApp::pack`; each length is cast `as u64`. -/
def pack (app : WebApp) : List UInt8 :=
  u64be app.metadata.length ++ app.metadata ++ u64be app.web.length ++ app.web

/-- `read_u64::<BigEndian>` on the cursor: the word and what follows it. -/
def readU64 (state : List UInt8) : Except UnpackingError (Nat × List UInt8) :=
  if 8 ≤ state.length then .ok (readU64be (state.take 8), state.drop 8) else .error .unexpectedEof

/-- `read_exact` of `n` bytes on the cursor. -/
def readExact (n : Nat) (state : List UInt8) : Except UnpackingError (List UInt8 × List UInt8) :=
  if n ≤ state.length then .ok (state.take n, state.drop n) else .error .unexpectedEof

/-- One part of a package, as `try_from` reads it: the length, refused over
`max` with the message `exceeded`, then the bytes. -/
def readPart (max : Nat) (exceeded : Nat → String) (state : List UInt8) :
    Except UnpackingError (List UInt8 × List UInt8) := do
  let (size, state) ← readU64 state
  if size > max then throw (.message (exceeded size))
  readExact size state

/-- `MAX_METADATA_SIZE`. -/
def maxMetadataSize : Nat := 1024

/-- `MAX_WEB_SIZE`. -/
def maxWebSize : Nat := 1024 * 1024 * 100

/-- `TryFrom<&[u8]> for WebApp`. -/
def tryFrom (state : List UInt8) : Except WebContractError WebApp :=
  Except.mapError .unpackingError do
    let (metadata, state) ← readPart maxMetadataSize
      (fun size => s!"Exceeded metadata size of 1kB: {size} bytes") state
    let (web, _) ← readPart maxWebSize (fun size => s!"Exceeded packed web size of 100MB: {size} bytes") state
    pure ⟨metadata, web⟩

/-- The loop of `get_file` over the archive's entries. -/
def getFileFrom (path : String) :
    List (Except UnpackingError (String × List UInt8)) → Except WebContractError (List UInt8)
  | [] => .error (.fileNotFound path)
  | .error e :: _ => .error (.unpackingError e)
  | .ok (p, bytes) :: rest => if p = path then .ok bytes else getFileFrom path rest

/-- `WebApp::get_file`: the bytes of the first entry at the path. -/
def getFile (entries : List UInt8 → List (Except UnpackingError (String × List UInt8))) (app : WebApp)
    (path : String) : Except WebContractError (List UInt8) :=
  getFileFrom path (entries app.web)

/-! ### Reading a package back -/

section Reading

variable {max : Nat} {exceeded : Nat → String}

theorem readU64_append {n : Nat} (hn : n < 2 ^ 64) (rest : List UInt8) :
    readU64 (u64be n ++ rest) = .ok (n, rest) := by
  have hlen : 8 ≤ (u64be n ++ rest).length := by
    rw [List.length_append, u64be_length]
    omega
  rw [readU64, if_pos hlen, List.take_left' (u64be_length n), List.drop_left' (u64be_length n),
    readU64be_u64be, Nat.mod_eq_of_lt hn]

theorem readExact_append (xs rest : List UInt8) : readExact xs.length (xs ++ rest) = .ok (xs, rest) := by
  simp [readExact]

/-- A part within its bound is read back. -/
theorem readPart_append {xs : List UInt8} (hmax : xs.length ≤ max) (hlen : xs.length < 2 ^ 64)
    (rest : List UInt8) :
    readPart max exceeded (u64be xs.length ++ xs ++ rest) = .ok (xs, rest) := by
  have hle : ¬ xs.length > max := by omega
  rw [readPart, List.append_assoc, readU64_append hlen, ok_bind]
  dsimp only
  rw [if_neg hle]
  exact readExact_append xs rest

/-- A part over its bound is refused with its message, whatever follows
its length. -/
theorem readPart_of_gt {n : Nat} (hmax : max < n) (hn : n < 2 ^ 64) (rest : List UInt8) :
    readPart max exceeded (u64be n ++ rest) = .error (.message (exceeded n)) := by
  rw [readPart, readU64_append hn rest, ok_bind]
  dsimp only
  rw [if_pos hmax]
  rfl

/-- A package whose parts are within their bounds is read back as it was
packed. -/
theorem tryFrom_pack {app : WebApp} (hmeta : app.metadata.length ≤ maxMetadataSize)
    (hweb : app.web.length ≤ maxWebSize) : tryFrom app.pack = .ok app := by
  have hmeta' : app.metadata.length < 2 ^ 64 := by
    rw [maxMetadataSize] at hmeta
    omega
  have hweb' : app.web.length < 2 ^ 64 := by
    rw [maxWebSize] at hweb
    omega
  have hpack : app.pack = u64be app.metadata.length ++ app.metadata ++
      (u64be app.web.length ++ app.web ++ []) := by
    simp [pack]
  rw [tryFrom, hpack, readPart_append hmeta hmeta', ok_bind]
  dsimp only
  rw [readPart_append hweb hweb', ok_bind]
  rfl

/-- A package whose web part is over 100 MiB is refused, its metadata
within bounds. -/
theorem tryFrom_pack_of_large_web {app : WebApp} (hmeta : app.metadata.length ≤ maxMetadataSize)
    (hweb : maxWebSize < app.web.length) (hweb' : app.web.length < 2 ^ 64) :
    tryFrom app.pack =
      .error (.unpackingError (.message s!"Exceeded packed web size of 100MB: {app.web.length} bytes")) := by
  have hmeta' : app.metadata.length < 2 ^ 64 := by
    rw [maxMetadataSize] at hmeta
    omega
  have hpack : app.pack = u64be app.metadata.length ++ app.metadata ++ (u64be app.web.length ++ app.web) := by
    simp [pack]
  rw [tryFrom, hpack, readPart_append hmeta hmeta', ok_bind]
  dsimp only
  rw [readPart_of_gt hweb hweb', error_bind]
  rfl

/-- A package whose metadata is over 1 KiB is refused, whatever its web
part. -/
theorem tryFrom_pack_of_large_metadata {app : WebApp} (hmeta : maxMetadataSize < app.metadata.length)
    (hmeta' : app.metadata.length < 2 ^ 64) :
    tryFrom app.pack =
      .error (.unpackingError (.message s!"Exceeded metadata size of 1kB: {app.metadata.length} bytes")) := by
  have hpack : app.pack = u64be app.metadata.length ++ (app.metadata ++ u64be app.web.length ++ app.web) := by
    simp [pack]
  rw [tryFrom, hpack, readPart_of_gt hmeta hmeta', error_bind]
  rfl

/-- The round trip holds exactly for the packages within both bounds. -/
theorem tryFrom_pack_eq_ok_iff {app : WebApp} (hmeta : app.metadata.length < 2 ^ 64)
    (hweb : app.web.length < 2 ^ 64) :
    tryFrom app.pack = .ok app ↔ app.metadata.length ≤ maxMetadataSize ∧ app.web.length ≤ maxWebSize := by
  constructor
  · intro h
    by_contra hout
    rcases not_and_or.mp hout with hm | hw
    · rw [tryFrom_pack_of_large_metadata (Nat.lt_of_not_le hm) hmeta] at h
      cases h
    · by_cases hm : app.metadata.length ≤ maxMetadataSize
      · rw [tryFrom_pack_of_large_web hm (Nat.lt_of_not_le hw) hweb] at h
        cases h
      · rw [tryFrom_pack_of_large_metadata (Nat.lt_of_not_le hm) hmeta] at h
        cases h
  · rintro ⟨hm, hw⟩
    exact tryFrom_pack hm hw

end Reading

/-- Over entries that the reader yields without error, `get_file` gives the
bytes of the first entry at the path. -/
theorem getFileFrom_append {path : String} {pre : List (String × List UInt8)} (hpre : ∀ e ∈ pre, e.1 ≠ path)
    (bytes : List UInt8) (post : List (Except UnpackingError (String × List UInt8))) :
    getFileFrom path (pre.map .ok ++ .ok (path, bytes) :: post) = .ok bytes := by
  induction pre with
  | nil => simp [getFileFrom]
  | cons e pre ih =>
      rw [List.map_cons, List.cons_append, getFileFrom, if_neg (hpre e List.mem_cons_self)]
      exact ih fun e' he' => hpre e' (List.mem_cons_of_mem e he')

/-- A package `fdev` builds reads back exactly when it is within both
bounds, and `get_file` on it gives, for a path, the bytes of the first entry
the archive's reader yields at that path. -/
theorem fromData_pack_read_back (xz : List UInt8 → List UInt8)
    (entries : List UInt8 → List (Except UnpackingError (String × List UInt8)))
    {metadata archive : List UInt8} (hmeta : metadata.length < 2 ^ 64) (hweb : (xz archive).length < 2 ^ 64) :
    (tryFrom (fromData xz metadata archive).pack = .ok (fromData xz metadata archive) ↔
      metadata.length ≤ maxMetadataSize ∧ (xz archive).length ≤ maxWebSize) ∧
    ∀ path (pre : List (String × List UInt8)) bytes post, (∀ e ∈ pre, e.1 ≠ path) →
      entries (xz archive) = pre.map .ok ++ .ok (path, bytes) :: post →
      getFile entries (fromData xz metadata archive) path = .ok bytes := by
  refine ⟨@tryFrom_pack_eq_ok_iff (fromData xz metadata archive) hmeta hweb, ?_⟩
  intro path pre bytes post hpre hentries
  rw [getFile, fromData, hentries]
  exact getFileFrom_append hpre bytes post

theorem fromData_pack_read_back_index :
    let entries : List UInt8 → List (Except UnpackingError (String × List UInt8)) :=
      fun _ => [.ok ("style.css", [1]), .ok ("index.html", [2])]
    let app := fromData id [1] [2, 3]
    ([1] : List UInt8).length < 2 ^ 64 ∧ (id [2, 3] : List UInt8).length < 2 ^ 64 ∧
      (tryFrom app.pack = .ok app ↔
        ([1] : List UInt8).length ≤ maxMetadataSize ∧ (id [2, 3] : List UInt8).length ≤ maxWebSize) ∧
      getFile entries app "index.html" = .ok [2] := by
  intro entries app
  have h := @fromData_pack_read_back id entries [1] [2, 3] (by decide) (by decide)
  exact ⟨by decide, by decide, h.1, h.2 "index.html" [("style.css", [1])] [2] [] (by simp) rfl⟩

section MetadataSize

/-- `fdev` packs metadata read from a file of any length, and `try_from`
refuses metadata over 1 KiB: a package built from a larger file is never
read back. -/
theorem large_metadata_package_refused (xz : List UInt8 → List UInt8) {metadata : List UInt8}
    (hmeta : maxMetadataSize < metadata.length) (hlen : metadata.length < 2 ^ 64) (archive : List UInt8) :
    tryFrom (fromData xz metadata archive).pack =
      .error (.unpackingError (.message s!"Exceeded metadata size of 1kB: {metadata.length} bytes")) :=
  tryFrom_pack_of_large_metadata hmeta hlen

/-- Metadata of 1025 zero bytes, an empty archive left uncompressed. -/
theorem large_metadata_package_refused_kib :
    maxMetadataSize < (List.replicate 1025 (0 : UInt8)).length ∧
      tryFrom (fromData id (List.replicate 1025 0) []).pack =
        .error (.unpackingError (.message
          s!"Exceeded metadata size of 1kB: {(List.replicate 1025 (0 : UInt8)).length} bytes")) := by
  have hmeta : maxMetadataSize < (List.replicate 1025 (0 : UInt8)).length := by
    rw [List.length_replicate, maxMetadataSize]
    omega
  exact ⟨hmeta, large_metadata_package_refused id hmeta (by rw [List.length_replicate]; omega) []⟩

end MetadataSize

end WebApp

end FreenetCore.Server
