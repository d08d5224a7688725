import FreenetCore.WasmRuntime.StoreCodec

/-!
Compaction of an index file (`compact_index_file`).

The loop copies every live record of the index into the `.tmp` file through
a compaction writer, which writes from the start of that file and does not
truncate it; the file is renamed over the index only when a deleted record
was seen, and is otherwise left where it is. So after a compaction the index
holds the live records followed by whatever of the old `.tmp` file lay past
them (`compactIndexFile_spec`): exactly the live records when there was no
`.tmp` file, and the tail of an earlier compaction's copy otherwise.
-/

namespace FreenetCore.WasmRuntime

open FileSys Bytes

/-- The records of `rs` whose tombstone byte is zero, from offset `pos` on. -/
def liveRecords (mark : Nat → UInt8) : Nat → List (StoreKey × List UInt8) →
    List (StoreKey × List UInt8)
  | _, [] => []
  | pos, (key, value) :: rest =>
      if mark pos = 0 then (key, value) :: liveRecords mark (pos + traversed key value) rest
      else liveRecords mark (pos + traversed key value) rest

/-- The bytes of records written one after the other. -/
def recordsBytes (rs : List (StoreKey × List UInt8)) : List UInt8 :=
  rs.flatMap fun (key, value) => recordBytes key value

@[simp] theorem recordsBytes_nil : recordsBytes [] = [] := rfl

@[simp] theorem recordsBytes_cons (key : StoreKey) (value : List UInt8)
    (rs : List (StoreKey × List UInt8)) :
    recordsBytes ((key, value) :: rs) = recordBytes key value ++ recordsBytes rs := rfl

/-- Records all live are the bytes their writes put one after the other. -/
theorem indexWith_zero (pos : Nat) (rs : List (StoreKey × List UInt8)) :
    indexWith (fun _ => 0) pos rs = recordsBytes rs := by
  induction rs generalizing pos with
  | nil => rfl
  | cons r rs ih =>
      obtain ⟨key, value⟩ := r
      simp [indexWith, ih, recordBytes_eq]

theorem liveRecords_sublist (mark : Nat → UInt8) (pos : Nat) (rs : List (StoreKey × List UInt8)) :
    (liveRecords mark pos rs).Sublist rs := by
  induction rs generalizing pos with
  | nil => exact List.Sublist.slnil
  | cons r rs ih =>
      obtain ⟨key, value⟩ := r
      simp only [liveRecords]
      split
      · exact (ih _).cons_cons _
      · exact (ih _).cons _

/-- With no record deleted, every record is live. -/
theorem liveRecords_of_all_zero (mark : Nat → UInt8) (pos : Nat) (rs : List (StoreKey × List UInt8))
    (h : ((recordOffsets pos rs).any fun c => mark c != 0) = false) :
    liveRecords mark pos rs = rs := by
  induction rs generalizing pos with
  | nil => rfl
  | cons r rs ih =>
      obtain ⟨key, value⟩ := r
      simp only [recordOffsets, List.any_cons, Bool.or_eq_false_iff, bne_eq_false_iff_eq] at h
      simp [liveRecords, h.1, ih _ h.2]

/-! ### The loop -/

section Loop

variable {ν : Type}

/-- `insert_record` through a compaction writer writes at its cursor. -/
theorem insertRecord_of_compact (fs : Fs ν) (w : SafeWriter ν) (key : StoreKey)
    (value : List UInt8) (hc : w.compact = true) (happ : w.file.append = false) :
    w.insertRecord fs key value =
      .ok (fs.setData w.file.inode (writeAt (fs.data w.file.inode) w.file.pos (recordBytes key value)),
        { w with file := { w.file with pos := w.file.pos + traversed key value } }, w.file.pos) := by
  simp [SafeWriter.insertRecord, SafeWriter.checkLock, hc, Fs.write_of_not_append _ _ _ happ,
    length_recordBytes]

/-- The loop of `compact_index_file` over an index file: the live records are
written one after the other over the temporary file's old bytes `stale`, and
the loop notes whether a record was deleted. The induction is on the records,
with the bytes before the current one as `pre` and the bytes written so far
as `W`. -/
theorem compactLoop_indexWith (mark : Nat → UInt8) (rs : List (StoreKey × List UInt8))
    (hrs : ∀ r ∈ rs, r.2.length < 2 ^ 32) (stale : List UInt8) :
    ∀ (pre : List UInt8) (fuel : Nat) (fs : Fs ν) (w : SafeWriter ν) (W : List UInt8)
      (deleted : Bool), rs.length < fuel → w.compact = true → w.file.append = false →
      w.file.pos = W.length → fs.data w.file.inode = writeAt stale 0 W →
      ∃ w', compactLoop (pre ++ indexWith mark pre.length rs) fs w deleted fuel pre.length =
        (fs.setData w.file.inode
            (writeAt stale 0 (W ++ recordsBytes (liveRecords mark pre.length rs))),
          .ok (w', deleted || (recordOffsets pre.length rs).any fun c => mark c != 0)) := by
  induction rs with
  | nil =>
      intro pre fuel fs w W deleted hfuel _ _ _ hdata
      obtain ⟨fuel, rfl⟩ : ∃ f, fuel = f + 1 := ⟨fuel - 1, by simp at hfuel; omega⟩
      refine ⟨w, ?_⟩
      simp [compactLoop, indexWith, processRecord_length, liveRecords, recordOffsets, ← hdata]
  | cons r rs ih =>
      obtain ⟨key, value⟩ := r
      intro pre fuel fs w W deleted hfuel hc happ hpos hdata
      obtain ⟨fuel, rfl⟩ : ∃ f, fuel = f + 1 := ⟨fuel - 1, by simp at hfuel; omega⟩
      have hrs' : ∀ r ∈ rs, r.2.length < 2 ^ 32 := fun r hr => hrs r (List.mem_cons_of_mem _ hr)
      have hrec := processRecord_append_indexWith mark pre key value rs
        (hrs _ (List.mem_cons_self ..))
      -- the records after the first, as the loop sees them next
      have hnext := append_indexWith_cons mark pre key value rs
      rw [length_append_record] at hnext
      have hlen := length_append_record pre (mark pre.length) key value
      by_cases hm : mark pre.length = 0
      · -- a live record is copied, and the writer moves past it
        obtain ⟨w', hloop⟩ := ih hrs' (pre ++ mark pre.length :: recordBody key value) fuel
          (fs.setData w.file.inode (writeAt stale 0 (W ++ recordBytes key value)))
          ⟨⟨w.file.inode, W.length + traversed key value, w.file.append⟩, w.lockFilePath, w.compact⟩
          (W ++ recordBytes key value) deleted (by simpa using hfuel) hc happ
          (by simp [length_recordBytes]) (by simp)
        rw [hlen, ← hnext] at hloop
        refine ⟨w', ?_⟩
        simp only [compactLoop, hrec, hm, if_true, RecordValue.bytes_ofBytes,
          insertRecord_of_compact fs w key value hc happ, hdata, hpos, writeAt_zero_writeAt]
        rw [hloop]
        simp [liveRecords, recordOffsets, hm]
      · -- a deleted record is skipped, and noted
        obtain ⟨w', hloop⟩ := ih hrs' (pre ++ mark pre.length :: recordBody key value) fuel fs w W
          true (by simpa using hfuel) hc happ hpos hdata
        rw [hlen, ← hnext] at hloop
        refine ⟨w', ?_⟩
        simp only [compactLoop, hrec, hm, if_false, hloop]
        simp [liveRecords, recordOffsets, hm]

end Loop

/-! ### The whole compaction -/

section Compaction

variable {ν : Type} [DecidableEq ν]

/-- `SafeWriter::new` for a compaction: a writer at the start of the named
file, which keeps its bytes, on a fresh inode when the name resolved to
nothing. No other name and no older inode changes. -/
theorem new_compact (fs : Fs ν) (tmpFile lockFile : ν) :
    ∃ fs' w, SafeWriter.new fs tmpFile lockFile true = .ok (fs', w) ∧
      w.compact = true ∧ w.file.append = false ∧ w.file.pos = 0 ∧
      fs'.dir tmpFile = some w.file.inode ∧
      fs'.data w.file.inode = (fs.contents tmpFile).getD [] ∧
      (fs.dir tmpFile = some w.file.inode ∨ w.file.inode = fs.fresh) ∧
      (∀ n, n ≠ tmpFile → fs'.dir n = fs.dir n) ∧
      (∀ i, i < fs.fresh → fs'.data i = fs.data i) := by
  cases hdir : fs.dir tmpFile with
  | some t =>
      have hopen := Fs.openFile_of_dir fs { create := true } hdir rfl rfl
      exact ⟨fs, ⟨⟨t, 0, false⟩, lockFile, true⟩, by simp [SafeWriter.new, hopen], rfl, rfl, rfl,
        hdir, by simp [Fs.contents, hdir], .inl rfl, fun _ _ => rfl, fun _ _ => rfl⟩
  | none =>
      obtain ⟨fs', hopen, hdir', hdata', -⟩ := Fs.openFile_of_none fs { create := true } hdir rfl
      exact ⟨fs', ⟨⟨fs.fresh, 0, false⟩, lockFile, true⟩, by simp [SafeWriter.new, hopen], rfl, rfl,
        rfl, by simp [hdir'], by simp [hdata', Fs.contents, hdir], .inr rfl,
        fun n hn => by simp [hdir', hn], fun i hi => by simp [hdata', Nat.ne_of_lt hi]⟩

theorem dropLock_of_dir (fs : Fs ν) (paths : IndexPaths ν) {l : Nat}
    (h : fs.dir paths.lockFile = some l) :
    (dropLock fs paths).dir = Function.update fs.dir paths.lockFile none ∧
      (dropLock fs paths).data = fs.data := by
  obtain ⟨fs', hrm, hdir, hdata⟩ := Fs.removeFile_of_dir fs h
  simp [dropLock, hrm, hdir, hdata]

/-- The end of a compaction that saw no deleted record: the lock goes. -/
theorem finishCompaction_keep (paths : IndexPaths ν) (fs : Fs ν) (w : SafeWriter ν) {l : Nat}
    (hl : fs.dir paths.lockFile = some l) :
    (finishCompaction paths (fs, .ok (w, false))).2 = .ok () ∧
      (finishCompaction paths (fs, .ok (w, false))).1.dir =
        Function.update fs.dir paths.lockFile none ∧
      (finishCompaction paths (fs, .ok (w, false))).1.data = fs.data := by
  simpa [finishCompaction] using dropLock_of_dir fs paths hl

/-- The end of a compaction that saw a deleted record: the temporary file
replaces the index, and the lock goes. -/
theorem finishCompaction_rename (paths : IndexPaths ν) (fs : Fs ν) (w : SafeWriter ν) {t l : Nat}
    (hkt : paths.keyFile ≠ paths.tmpFile) (hkl : paths.keyFile ≠ paths.lockFile)
    (htl : paths.tmpFile ≠ paths.lockFile) (ht : fs.dir paths.tmpFile = some t)
    (hl : fs.dir paths.lockFile = some l) :
    (finishCompaction paths (fs, .ok (w, true))).2 = .ok () ∧
      (finishCompaction paths (fs, .ok (w, true))).1.dir =
        Function.update (Function.update (Function.update fs.dir paths.keyFile (some t))
          paths.tmpFile none) paths.lockFile none ∧
      (finishCompaction paths (fs, .ok (w, true))).1.data = fs.data := by
  obtain ⟨fs₁, hmv, hdir₁, hdata₁⟩ := Fs.rename_of_dir fs ht (Ne.symm hkt)
  have hl₁ : fs₁.dir paths.lockFile = some l := by
    simp [hdir₁, Function.update_of_ne (Ne.symm htl), Function.update_of_ne (Ne.symm hkl), hl]
  obtain ⟨fs₂, hrm, hdir₂, hdata₂⟩ := Fs.removeFile_of_dir fs₁ hl₁
  simp [finishCompaction, hmv, hrm, hdir₂, hdata₂, hdir₁, hdata₁]

/-- What `compact_index_file` does to an index file of well-formed records
when no compaction holds the lock: it returns `Ok` and removes the lock. When
a record was deleted, the `.tmp` file, holding the live records written from
its start over its old bytes, replaces the index; otherwise the index is
untouched and the `.tmp` file stays, holding every record written over its
old bytes. -/
theorem compactIndexFile_spec (fs : Fs ν) (paths : IndexPaths ν) (mark : Nat → UInt8)
    (rs : List (StoreKey × List UInt8)) (hrs : ∀ r ∈ rs, r.2.length < 2 ^ 32) {k : Nat}
    (hkt : paths.keyFile ≠ paths.tmpFile) (hkl : paths.keyFile ≠ paths.lockFile)
    (htl : paths.tmpFile ≠ paths.lockFile) (hlock : fs.dir paths.lockFile = none)
    (hkey : fs.dir paths.keyFile = some k) (hdata : fs.data k = indexWith mark 0 rs) :
    (compactIndexFile fs paths).2 = .ok () ∧
    (compactIndexFile fs paths).1.dir paths.lockFile = none ∧
    if (recordOffsets 0 rs).any (fun c => mark c != 0) then
      (compactIndexFile fs paths).1.contents paths.keyFile =
        some (writeAt ((fs.contents paths.tmpFile).getD []) 0
          (recordsBytes (liveRecords mark 0 rs))) ∧
      (compactIndexFile fs paths).1.dir paths.tmpFile = none
    else
      (compactIndexFile fs paths).1.contents paths.keyFile = some (indexWith mark 0 rs) ∧
      (compactIndexFile fs paths).1.contents paths.tmpFile =
        some (writeAt ((fs.contents paths.tmpFile).getD []) 0 (recordsBytes rs)) := by
  have htmp : fs.dir paths.tmpFile ≠ some k := fun h => hkt (fs.dir_inj _ _ _ hkey h)
  -- the lock file is created on a fresh inode, and the index opened
  obtain ⟨fs₁, hopen₁, hdir₁, hdata₁, hfresh₁⟩ :=
    Fs.openFile_of_none fs { createNew := true } hlock rfl
  have hk : k < fs.fresh := fs.dir_lt _ _ hkey
  have hkey₁ : fs₁.dir paths.keyFile = some k := by simp [hdir₁, hkl, hkey]
  have hdata₁k : fs₁.data k = indexWith mark 0 rs := by simp [hdata₁, Nat.ne_of_lt hk, hdata]
  have hopen₂ := Fs.openFile_of_dir fs₁ {} hkey₁ rfl rfl
  -- the temporary file is opened, kept or created
  obtain ⟨fs₂, w, hnew, hc, happ, hpos, hdirT, hdataT, horigin, hdir₂, hdata₂⟩ :=
    new_compact fs₁ paths.tmpFile paths.lockFile
  have htmp₁ : fs₁.dir paths.tmpFile = fs.dir paths.tmpFile := by simp [hdir₁, htl]
  have hstale : (fs₁.contents paths.tmpFile).getD [] = (fs.contents paths.tmpFile).getD [] := by
    cases ht : fs.dir paths.tmpFile with
    | none => simp [Fs.contents, htmp₁, ht]
    | some t =>
        have : t < fs.fresh := fs.dir_lt _ _ ht
        simp [Fs.contents, htmp₁, ht, hdata₁, Nat.ne_of_lt this]
  have htk : w.file.inode ≠ k := by
    rcases horigin with h | h
    · intro heq
      exact htmp (by rw [← htmp₁, h, heq])
    · rw [h, hfresh₁]
      omega
  have hdata₂k : fs₂.data k = indexWith mark 0 rs := by
    rw [hdata₂ k (by omega), hdata₁k]
  -- the loop copies the live records
  obtain ⟨w', hloop⟩ := compactLoop_indexWith mark rs hrs ((fs.contents paths.tmpFile).getD [])
    [] ((indexWith mark 0 rs).length + 1) fs₂ w [] false
    (Nat.lt_succ_of_le (length_le_indexWith mark 0 rs)) hc happ (by simp [hpos])
    (by simp [hdataT, hstale, writeAt_zero])
  simp only [List.nil_append, List.length_nil, Bool.false_or] at hloop
  have hcompact : compactIndexFile fs paths =
      finishCompaction paths
        (fs₂.setData w.file.inode (writeAt ((fs.contents paths.tmpFile).getD []) 0
          (recordsBytes (liveRecords mark 0 rs))),
          .ok (w', (recordOffsets 0 rs).any fun c => mark c != 0)) := by
    simp only [compactIndexFile, hopen₁, hopen₂, hnew, hdata₁k, hloop]
  have hlock₂ : fs₂.dir paths.lockFile = some fs.fresh := by
    rw [hdir₂ _ (Ne.symm htl)]
    simp [hdir₁]
  have hkey₂ : fs₂.dir paths.keyFile = some k := by rw [hdir₂ _ hkt, hkey₁]
  rw [hcompact]
  cases hany : (recordOffsets 0 rs).any fun c => mark c != 0 with
  | false =>
      -- nothing deleted: the index stays, and so does the temporary file
      obtain ⟨hok, hdir₃, hdata₃⟩ := finishCompaction_keep paths
        (fs₂.setData w.file.inode (writeAt ((fs.contents paths.tmpFile).getD []) 0
          (recordsBytes (liveRecords mark 0 rs)))) w' (by simpa using hlock₂)
      generalize finishCompaction paths _ = res at hok hdir₃ hdata₃ ⊢
      have hkey₃ : res.1.dir paths.keyFile = some k := by
        simp [hdir₃, Function.update_of_ne hkl, hkey₂]
      have htmp₃ : res.1.dir paths.tmpFile = some w.file.inode := by
        simp [hdir₃, Function.update_of_ne htl, hdirT]
      refine ⟨hok, by simp [hdir₃], ?_⟩
      rw [if_neg Bool.false_ne_true, Fs.contents_of_dir _ hkey₃, Fs.contents_of_dir _ htmp₃, hdata₃,
        liveRecords_of_all_zero mark 0 rs hany]
      simp [Fs.setData_data_ne _ _ (Ne.symm htk), hdata₂k]
  | true =>
      -- a record deleted: the temporary file replaces the index
      obtain ⟨hok, hdir₃, hdata₃⟩ := finishCompaction_rename paths
        (fs₂.setData w.file.inode (writeAt ((fs.contents paths.tmpFile).getD []) 0
          (recordsBytes (liveRecords mark 0 rs)))) w' hkt hkl htl (by simpa using hdirT)
        (by simpa using hlock₂)
      generalize finishCompaction paths _ = res at hok hdir₃ hdata₃ ⊢
      have hkey₃ : res.1.dir paths.keyFile = some w.file.inode := by
        simp [hdir₃, Function.update_of_ne hkl, Function.update_of_ne hkt]
      refine ⟨hok, by simp [hdir₃], ?_⟩
      rw [if_pos rfl, Fs.contents_of_dir _ hkey₃, hdata₃]
      simp [hdir₃, Function.update_of_ne htl]

/-- Without a `.tmp` file, a compaction that finds a deleted record leaves an
index that decodes to exactly the live records, in order, and ends there. -/
theorem compactIndexFile_decode_live (fs : Fs ν) (paths : IndexPaths ν) (mark : Nat → UInt8)
    (rs : List (StoreKey × List UInt8)) (hrs : ∀ r ∈ rs, r.2.length < 2 ^ 32) {k : Nat}
    (hkt : paths.keyFile ≠ paths.tmpFile) (hkl : paths.keyFile ≠ paths.lockFile)
    (htl : paths.tmpFile ≠ paths.lockFile) (hlock : fs.dir paths.lockFile = none)
    (hkey : fs.dir paths.keyFile = some k) (hdata : fs.data k = indexWith mark 0 rs)
    (htmp : fs.dir paths.tmpFile = none)
    (hdel : ((recordOffsets 0 rs).any fun c => mark c != 0) = true) :
    (compactIndexFile fs paths).2 = .ok () ∧
      ∃ data, (compactIndexFile fs paths).1.contents paths.keyFile = some data ∧
        decodeIndex data =
          (((recordOffsets 0 (liveRecords mark 0 rs)).zip (liveRecords mark 0 rs)).map
            fun (c, r) => (c, some r), .io .unexpectedEof) := by
  obtain ⟨hok, -, hspec⟩ := compactIndexFile_spec fs paths mark rs hrs hkt hkl htl hlock hkey hdata
  rw [if_pos hdel] at hspec
  refine ⟨hok, _, hspec.1, ?_⟩
  have hlive : ∀ r ∈ liveRecords mark 0 rs, r.2.length < 2 ^ 32 :=
    fun r hr => hrs r ((liveRecords_sublist mark 0 rs).subset hr)
  rw [Fs.contents, htmp, Option.map_none, Option.getD_none, writeAt_zero, List.drop_nil,
    List.append_nil, ← indexWith_zero 0, decodeIndex_indexWith _ _ hlive]
  simp

/-- Two records, the second marked deleted, in a store with no `.tmp`
file. -/
theorem compactIndexFile_decode_live_second :
    let rs : List (StoreKey × List UInt8) :=
      [(.contractKey ⟨List.replicate 32 0, rfl⟩, [1]), (.contractKey ⟨List.replicate 32 1, rfl⟩, [2])]
    let mark : Nat → UInt8 := fun c => if c = 39 then 1 else 0
    let fs := Fs.ofList [(0, indexWith mark 0 rs)]
    (∀ r ∈ rs, r.2.length < 2 ^ 32) ∧ ((recordOffsets 0 rs).any fun c => mark c != 0) = true ∧
      (compactIndexFile fs ⟨0, 1, 2⟩).2 = .ok () ∧
      ∃ data, (compactIndexFile fs ⟨0, 1, 2⟩).1.contents 0 = some data ∧
        decodeIndex data =
          (((recordOffsets 0 (liveRecords mark 0 rs)).zip (liveRecords mark 0 rs)).map
            fun (c, r) => (c, some r), .io .unexpectedEof) := by
  intro rs mark fs
  have hrs : ∀ r ∈ rs, r.2.length < 2 ^ 32 := by simp [rs]
  have hdel : ((recordOffsets 0 rs).any fun c => mark c != 0) = true := by decide
  exact ⟨hrs, hdel, compactIndexFile_decode_live fs ⟨0, 1, 2⟩ mark rs hrs (by decide) (by decide) (by decide)
    rfl rfl rfl rfl hdel⟩

/-- A compaction that finds nothing to delete leaves its copy of the index in
the `.tmp` file. When records are removed afterwards, the next compaction
writes the live records over that copy without truncating it, and the index
it leaves holds the live records followed by the rest of the old copy. -/
theorem compact_remove_compact (fs : Fs ν) (paths : IndexPaths ν)
    (rs : List (StoreKey × List UInt8)) (hrs : ∀ r ∈ rs, r.2.length < 2 ^ 32)
    (hkt : paths.keyFile ≠ paths.tmpFile) (hkl : paths.keyFile ≠ paths.lockFile)
    (htl : paths.tmpFile ≠ paths.lockFile) (hlock : fs.dir paths.lockFile = none)
    (htmp : fs.dir paths.tmpFile = none) (hkey : fs.contents paths.keyFile = some (recordsBytes rs))
    (dels : List Nat) (hdels : ∀ c ∈ dels, c ∈ recordOffsets 0 rs) (hne : dels ≠ []) :
    ∃ fs₁ fs₂ fs₃, compactIndexFile fs paths = (fs₁, .ok ()) ∧
      removeAll fs₁ paths.keyFile dels = .ok fs₂ ∧ compactIndexFile fs₂ paths = (fs₃, .ok ()) ∧
      fs₃.contents paths.keyFile = some (writeAt (recordsBytes rs) 0
        (recordsBytes (liveRecords (fun c => if c ∈ dels then 1 else 0) 0 rs))) := by
  obtain ⟨k, hk, hdata⟩ := Option.map_eq_some_iff.mp hkey
  -- the first compaction: every record is live, so the index stays and the copy is left
  obtain ⟨hok₁, hlock₁, hspec₁⟩ := compactIndexFile_spec fs paths (fun _ => 0) rs hrs hkt hkl htl
    hlock hk (by rw [hdata, indexWith_zero])
  rw [if_neg (by simp)] at hspec₁
  generalize hfs₁ : compactIndexFile fs paths = res₁ at hok₁ hlock₁ hspec₁
  obtain ⟨fs₁, r₁⟩ := res₁
  simp only at hok₁ hlock₁ hspec₁
  subst hok₁
  obtain ⟨hkey₁, htmp₁⟩ := hspec₁
  obtain ⟨k₁, hk₁, hdata₁⟩ := Option.map_eq_some_iff.mp hkey₁
  obtain ⟨t₁, ht₁, hdatat₁⟩ := Option.map_eq_some_iff.mp htmp₁
  -- the removals mark the removed records in the index
  have hrem := removeAll_indexWith rs dels hdels fs₁ (fun _ => 0) hk₁ hdata₁
  -- the second compaction finds them
  have hdel : ((recordOffsets 0 rs).any fun c => (if c ∈ dels then (1 : UInt8) else 0) != 0) =
      true := by
    obtain ⟨d, hd⟩ := List.exists_mem_of_ne_nil dels hne
    exact List.any_eq_true.mpr ⟨d, hdels d hd, by simp [hd]⟩
  have ht₁k₁ : t₁ ≠ k₁ := fun h => hkt (fs₁.dir_inj _ _ _ hk₁ (h ▸ ht₁))
  obtain ⟨hok₃, -, hspec₃⟩ := compactIndexFile_spec
    (fs₁.setData k₁ (indexWith (fun c => if c ∈ dels then 1 else 0) 0 rs)) paths
    (fun c => if c ∈ dels then 1 else 0) rs hrs hkt hkl htl (by simpa using hlock₁) (by simpa using hk₁) (by simp)
  rw [if_pos hdel] at hspec₃
  refine ⟨fs₁, _, _, rfl, hrem, Prod.ext rfl hok₃, ?_⟩
  rw [hspec₃.1, Fs.contents_of_dir _ (by simpa using ht₁), Fs.setData_data_ne _ _ ht₁k₁,
    hdatat₁, Option.getD_some]
  simp [Fs.contents, htmp, writeAt_zero]

/-- A compaction whose index starts with a record that `process_record`
panics on panics too, before anything is renamed. -/
theorem compactIndexFile_of_panic (fs : Fs ν) (paths : IndexPaths ν) {k : Nat}
    (hkl : paths.keyFile ≠ paths.lockFile) (hlock : fs.dir paths.lockFile = none)
    (hkey : fs.dir paths.keyFile = some k) (hpanic : processRecord (fs.data k) 0 = .error .panic) :
    (compactIndexFile fs paths).2 = .error .panic := by
  -- the lock file is created, the index opened and the temporary writer made
  obtain ⟨fs₁, hopen₁, hdir₁, hdata₁, -⟩ := Fs.openFile_of_none fs { createNew := true } hlock rfl
  have hk : k < fs.fresh := fs.dir_lt _ _ hkey
  have hkey₁ : fs₁.dir paths.keyFile = some k := by simp [hdir₁, hkl, hkey]
  have hdata₁k : fs₁.data k = fs.data k := by simp [hdata₁, Nat.ne_of_lt hk]
  have hopen₂ := Fs.openFile_of_dir fs₁ {} hkey₁ rfl rfl
  obtain ⟨fs₂, w, hnew, -⟩ := new_compact fs₁ paths.tmpFile paths.lockFile
  simp only [compactIndexFile, hopen₁, hopen₂, hnew, hdata₁k, compactLoop, hpanic, finishCompaction]

/-- An index file whose first record has a key-type byte other than `0` and
`1`, whatever follows it, makes `load_from_file` and `compact_index_file`
panic. -/
theorem key_type_byte_panics {C K V : Type} (S : StoreFsManagement C K V) (container : C)
    (fs : Fs ν) (paths : IndexPaths ν) {k : Nat}
    (hkl : paths.keyFile ≠ paths.lockFile) (hlock : fs.dir paths.lockFile = none)
    (hkey : fs.dir paths.keyFile = some k) {m b : UInt8} {rest : List UInt8}
    (hdata : fs.data k = m :: b :: rest) (hb0 : b ≠ 0) (hb1 : b ≠ 1) :
    loadFromFile S fs paths.keyFile container = (container, .error .panic) ∧
      (compactIndexFile fs paths).2 = .error .panic := by
  have hdrop : (fs.data k).drop 0 = m :: b :: rest := by rw [List.drop_zero, hdata]
  have hpanic : processRecord (fs.data k) 0 = .error .panic := processRecord_of_keyType hdrop hb0 hb1
  refine ⟨?_, compactIndexFile_of_panic fs paths hkl hlock hkey hpanic⟩
  simp only [loadFromFile, Fs.contents_of_dir fs hkey, readRecords, readRecordsFrom, hpanic,
    insertRecords]

end Compaction

/-- An index file of two bytes, a live tombstone and the key type `2`. -/
theorem key_type_byte_panics_two :
    loadFromFile (⟨fun c _ _ => .ok c, fun _ => .ok (), fun _ => .ok ()⟩ : StoreFsManagement Unit Unit Unit)
        (Fs.ofList [(0, [0, 2])]) 0 () = ((), .error .panic) ∧
      (compactIndexFile (Fs.ofList [(0, [0, 2])]) ⟨0, 1, 2⟩).2 = .error .panic :=
  key_type_byte_panics _ () (Fs.ofList [(0, [0, 2])]) ⟨0, 1, 2⟩ (by decide) rfl rfl rfl
    (by decide) (by decide)

/-- Two records, compacted with nothing to delete, the second then removed at
the offset its insert returned, and compacted again: the index decodes to
both records, the removed one live again. -/
theorem compaction_revives_removed_record :
    ∃ fs₁ fs₂ fs₃,
      compactIndexFile (Fs.ofList [(0, recordsBytes
          [(.contractKey ⟨List.replicate 32 0, rfl⟩, [1]), (.contractKey ⟨List.replicate 32 1, rfl⟩, [2])])])
        ⟨0, 1, 2⟩ = (fs₁, .ok ()) ∧
      removeAll fs₁ 0 [39] = .ok fs₂ ∧
      compactIndexFile fs₂ ⟨0, 1, 2⟩ = (fs₃, .ok ()) ∧
      (fs₃.contents 0).map decodeIndex =
        some ([(0, some (.contractKey ⟨List.replicate 32 0, rfl⟩, [1])),
          (39, some (.contractKey ⟨List.replicate 32 1, rfl⟩, [2]))], .io .unexpectedEof) := by
  have hrs : ∀ r ∈ [(StoreKey.contractKey ⟨List.replicate 32 0, rfl⟩, [(1 : UInt8)]),
      (.contractKey ⟨List.replicate 32 1, rfl⟩, [2])], r.2.length < 2 ^ 32 := by simp
  obtain ⟨fs₁, fs₂, fs₃, h₁, h₂, h₃, hkey⟩ := compact_remove_compact
    (Fs.ofList [(0, recordsBytes [(.contractKey ⟨List.replicate 32 0, rfl⟩, [1]),
      (.contractKey ⟨List.replicate 32 1, rfl⟩, [2])])]) ⟨0, 1, 2⟩ _ hrs
    (by decide) (by decide) (by decide) rfl rfl rfl [39] (by decide) (by simp)
  refine ⟨fs₁, fs₂, fs₃, h₁, h₂, h₃, ?_⟩
  -- only the first record is live, and its bytes are those the old copy starts with
  have hlive : liveRecords (fun c => if c ∈ [39] then 1 else 0) 0
      [(.contractKey ⟨List.replicate 32 0, rfl⟩, [1]), (.contractKey ⟨List.replicate 32 1, rfl⟩, [2])] =
      [(.contractKey ⟨List.replicate 32 0, rfl⟩, [1])] := by decide
  rw [hkey, hlive, writeAt_zero, recordsBytes_cons, recordsBytes_cons, recordsBytes_nil,
    List.append_nil, List.drop_left, ← recordsBytes_cons, ← indexWith_zero 0, Option.map_some,
    decodeIndex_indexWith _ _ hrs]
  simp [recordOffsets, traversed]

end FreenetCore.WasmRuntime
