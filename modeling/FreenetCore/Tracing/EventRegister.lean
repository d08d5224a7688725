import FreenetCore.Lib.Bytes

/-!
The node's event log (`tracing.rs`, `EventRegister`).

Each node session runs `record_logs` on the log file: it opens the file for
reading and writing, not appending, counts its records with `num_lines`,
and then takes each log through `persist_log`. A log is stored as a frame:
the length of its serialization as a big-endian `u32`, then the
serialization. `persist_log` collects logs in a batch, writes a full batch
of `BATCH_SIZE` frames at the file's cursor, and once more than
`MAX_LOG_RECORDS` records are counted drops the first `REMOVE_RECS` of
them with `truncate_records`. When the channel closes, the batch left is
written at the cursor. `get_router_events` reads the frames back from the
start of the file.

The cursor of a file opened without `append` starts at the beginning, so a
session's first write lands over what the sessions before it wrote; and
`num_lines` reads each length little-endian.

A log is its serialization (`bincode`, which is not modelled); the file is
its bytes. The event log exists (the node's configuration creates it
empty), and the file system's calls succeed.
-/

namespace FreenetCore.Tracing

open Bytes

/-- `EVENT_REGISTER_BATCH_SIZE`. -/
def batchSize : Nat := 100

/-- `EventRegister::MAX_LOG_RECORDS` outside tests. -/
def maxLogRecords : Nat := 100000

/-- `REMOVE_RECS` of `persist_log`. -/
def removeRecs : Nat := 1000 + batchSize

/-- `MAX_EVENT_HISTORY` of `get_router_events`. -/
def maxEventHistory : Nat := 10000

/-- The frame of one serialized log: its length as a big-endian `u32`
(`serialized.len() as u32`), then its bytes. -/
def frame (log : List UInt8) : List UInt8 := u32be log.length ++ log

/-- The frames of a batch, one after the other. -/
def frames (logs : List (List UInt8)) : List UInt8 := (logs.map frame).flatten

@[simp] theorem frames_nil : frames [] = [] := rfl

@[simp] theorem frames_cons (l : List UInt8) (ls : List (List UInt8)) :
    frames (l :: ls) = frame l ++ frames ls := rfl

@[simp] theorem frames_append (ls ls' : List (List UInt8)) :
    frames (ls ++ ls') = frames ls ++ frames ls' := by
  simp [frames]

theorem length_frame (l : List UInt8) : (frame l).length = 4 + l.length := by
  simp [frame]

theorem length_le_length_frames (ls : List (List UInt8)) : ls.length ≤ (frames ls).length := by
  induction ls with
  | nil => simp
  | cons l ls ih =>
      simp only [frames_cons, List.length_append, length_frame, List.length_cons]
      omega

/-! ### Reading the log -/

/-- The loop of `num_lines` from `pos`: a record for every four bytes it
can read, after which it seeks forward by their little-endian value. The
`read_exact` fails exactly when fewer than four bytes are left. -/
def numLinesFrom (file : List UInt8) (pos : Nat) : Nat :=
  if h : pos + 4 ≤ file.length then numLinesFrom file (pos + 4 + readU32le ((file.drop pos).take 4)) + 1
  else 0
termination_by file.length - pos

/-- `num_lines`. -/
def numLines (file : List UInt8) : Nat := numLinesFrom file 0

/-- Each record `num_lines` counts takes four bytes at least. -/
theorem numLinesFrom_le (file : List UInt8) (pos : Nat) : numLinesFrom file pos ≤ file.length - pos := by
  induction pos using numLinesFrom.induct file with
  | case1 pos h ih =>
      rw [numLinesFrom, dif_pos h]
      omega
  | case2 pos h =>
      rw [numLinesFrom, dif_neg h]
      omega

theorem numLines_le (file : List UInt8) : numLines file ≤ file.length :=
  numLinesFrom_le file 0

/-- A log whose length is not a multiple of 256 sends `num_lines` past the
end of any file under 16 MiB: it counts one record, whatever follows. -/
theorem numLines_frame {a : List UInt8} {rest : List UInt8} (ha : a.length % 2 ^ 8 ≠ 0)
    (hsize : (frame a ++ rest).length ≤ 2 ^ 24) : numLines (frame a ++ rest) = 1 := by
  have hprefix : ((frame a ++ rest).drop 0).take 4 = u32be a.length := by
    rw [List.drop_zero, frame, List.append_assoc]
    exact List.take_left' rfl
  have hjump := readU32le_u32be a.length
  have hpos : 4 ≤ (frame a ++ rest).length := by simp [frame]
  rw [numLines, numLinesFrom, dif_pos (by omega), hprefix, numLinesFrom, dif_neg]
  omega

/-- The framing loop of `get_router_events` from `pos`, for at most `n`
more records: the length is read big-endian (`read_u32`), and a file that
ends within a length ends the loop; `error` is the `?` on a record cut
short. -/
def readRecordsFrom (file : List UInt8) : Nat → Nat → Except Unit (List (List UInt8))
  | 0, _ => .ok []
  | n + 1, pos =>
      match readExact file pos 4 with
      | none => .ok []
      | some lenBytes =>
          match readExact file (pos + 4) (readU32be lenBytes) with
          | none => .error ()
          | some buf => (readRecordsFrom file n (pos + 4 + readU32be lenBytes)).map (buf :: ·)

/-- The records `get_router_events` reads, before deserializing them. -/
def getRouterFrames (maxEventNumber : Nat) (file : List UInt8) : Except Unit (List (List UInt8)) :=
  readRecordsFrom file (min maxEventNumber maxEventHistory) 0

/-- One record read: its length, then its bytes. -/
theorem readRecordsFrom_succ {file lenBytes buf : List UInt8} {pos n : Nat}
    (h₁ : readExact file pos 4 = some lenBytes)
    (h₂ : readExact file (pos + 4) (readU32be lenBytes) = some buf) :
    readRecordsFrom file (n + 1) pos =
      (readRecordsFrom file n (pos + 4 + readU32be lenBytes)).map (buf :: ·) := by
  simp only [readRecordsFrom, h₁, h₂]

/-- Reading a frame at the cursor gives its log, and moves past it. -/
theorem readRecordsFrom_frame {file rest l : List UInt8} {pos n : Nat}
    (hdrop : file.drop pos = frame l ++ rest) (hpos : pos ≤ file.length) (hl : l.length < 2 ^ 32) :
    readRecordsFrom file (n + 1) pos =
      (readRecordsFrom file n (pos + (frame l).length)).map (l :: ·) := by
  have hlen : readU32be (u32be l.length) = l.length := by
    rw [readU32be_u32be, Nat.mod_eq_of_lt hl]
  have h₁ : file.drop pos = u32be l.length ++ (l ++ rest) := by simpa [frame] using hdrop
  have h₂ : file.drop (pos + 4) = l ++ rest := by
    simpa using drop_add_of_drop h₁
  have hpos₂ : pos + 4 ≤ file.length := by
    have := add_length_le_of_drop h₁ hpos
    simpa using this
  have hr₁ : readExact file pos 4 = some (u32be l.length) := readExact_of_drop h₁ hpos
  have hr₂ : readExact file (pos + 4) l.length = some l := readExact_of_drop h₂ hpos₂
  -- stated for the word read, so that the kernel never unfolds `u32be`
  rw [readRecordsFrom_succ hr₁ (by rw [hlen]; exact hr₂), hlen, length_frame, Nat.add_assoc]

/-- A file whose first frame is `l`'s reads, if at all, with `l` first. -/
theorem readRecordsFrom_head {file rest l : List UInt8} {n : Nat}
    (hfile : file = frame l ++ rest) (hl : l.length < 2 ^ 32) {rs : List (List UInt8)}
    (h : readRecordsFrom file (n + 1) 0 = .ok rs) : rs.head? = some l := by
  rw [readRecordsFrom_frame (by simpa using hfile) (Nat.zero_le _) hl] at h
  cases hr : readRecordsFrom file n (0 + (frame l).length) with
  | error e => rw [hr] at h; cases h
  | ok rs' =>
      rw [hr] at h
      cases h
      rfl

/-! ### Writing the log -/

/-- The skipping loop of `truncate_records`: the position after `n` frames,
their lengths read big-endian, or where the file ends. -/
def skipFrames (file : List UInt8) : Nat → Nat → Nat
  | 0, pos => pos
  | n + 1, pos =>
      if pos + 4 ≤ file.length then skipFrames file n (pos + 4 + readU32be ((file.drop pos).take 4))
      else pos

/-- `truncate_records`: what lies after the first `remove` frames is
written back from the start, the file cut to its length, and the cursor
set at its end. -/
def truncateRecords (file : List UInt8) (remove : Nat) : List UInt8 :=
  file.drop (skipFrames file remove 0)

/-- The state of `record_logs`: the file, its cursor, the batch of logs
not yet written, and the counters `num_written` and `num_recs`. -/
structure Recorder where
  file : List UInt8
  pos : Nat
  logBatch : List (List UInt8)
  numWritten : Nat
  numRecs : Nat

namespace Recorder

/-- `record_logs` opening the log: for reading and writing, so the cursor
is at the start; `num_recs` from `num_lines`. -/
def «open» (file : List UInt8) : Recorder := ⟨file, 0, [], 0, numLines file⟩

/-- `persist_log`. -/
def persistLog (s : Recorder) (log : List UInt8) : Recorder :=
  let logBatch := s.logBatch ++ [log]
  -- a full batch is serialized into `batch_buf`
  let full := decide (batchSize ≤ logBatch.length)
  let batchBuf := if full then frames logBatch else []
  let s := if full then { s with logBatch := [], numWritten := s.numWritten + logBatch.length }
    else { s with logBatch := logBatch }
  let s := if batchSize ≤ s.numWritten then
      { s with file := writeAt s.file s.pos batchBuf, pos := s.pos + batchBuf.length,
               numRecs := s.numRecs + s.numWritten, numWritten := 0 }
    else s
  if maxLogRecords < s.numRecs then
    let file := truncateRecords s.file removeRecs
    { s with file := file, pos := file.length, numRecs := s.numRecs - removeRecs }
  else s

/-- The end of `record_logs`: the batch left is written at the cursor. -/
def flush (s : Recorder) : Recorder :=
  let data := frames s.logBatch
  if data.isEmpty then s
  else { s with file := writeAt s.file s.pos data, pos := s.pos + data.length, logBatch := [] }

end Recorder

/-- A node session on the log file: `record_logs` with the given logs, to
the end. -/
def session (file : List UInt8) (logs : List (List UInt8)) : List UInt8 :=
  ((logs.foldl Recorder.persistLog (Recorder.open file)).flush).file

/-- What a session from the file `F` has done while it truncated nothing:
the logs `W` are written from the start of `F`, the cursor is after them,
and the batch holds the rest. -/
structure Recorder.Written (F : List UInt8) (s : Recorder) (W : List (List UInt8)) : Prop where
  file : s.file = writeAt F 0 (frames W)
  pos : s.pos = (frames W).length
  numWritten : s.numWritten = 0
  batch : s.logBatch.length < batchSize
  numRecs : s.numRecs = numLines F + W.length

namespace Recorder

variable {F : List UInt8} {s : Recorder} {W : List (List UInt8)}

theorem written_open : (Recorder.open F).Written F [] :=
  ⟨by simp [Recorder.open, writeAt_zero], rfl, rfl, by simp [Recorder.open, batchSize], by
    simp [Recorder.open]⟩

/-- `persist_log` with room left in the batch only adds the log to it. -/
theorem persistLog_of_lt {log : List UInt8} (hw : s.numWritten = 0)
    (hlt : (s.logBatch ++ [log]).length < batchSize) (hr : s.numRecs ≤ maxLogRecords) :
    s.persistLog log = { s with logBatch := s.logBatch ++ [log] } := by
  have hfull : ¬ batchSize ≤ (s.logBatch ++ [log]).length := Nat.not_le.mpr hlt
  have hnw : ¬ batchSize ≤ s.numWritten := by rw [hw]; simp [batchSize]
  simp only [persistLog, hfull, decide_false, Bool.false_eq_true, if_false, hnw,
    Nat.not_lt.mpr hr]

/-- `persist_log` filling the batch writes its frames at the cursor. -/
theorem persistLog_of_full {log : List UInt8} (hw : s.numWritten = 0)
    (hfull : (s.logBatch ++ [log]).length = batchSize)
    (hr : s.numRecs + batchSize ≤ maxLogRecords) :
    s.persistLog log =
      { s with file := writeAt s.file s.pos (frames (s.logBatch ++ [log])),
               pos := s.pos + (frames (s.logBatch ++ [log])).length, logBatch := [],
               numWritten := 0, numRecs := s.numRecs + batchSize } := by
  simp only [persistLog, hfull, Nat.le_refl, decide_true, if_true, hw, Nat.zero_add,
    Nat.not_lt.mpr hr, if_false]

/-- `persist_log` below the truncation: the log joins the batch, and a full
batch is written at the cursor, which the written logs' frames end at. -/
theorem persistLog_written (hw : s.Written F W) (log : List UInt8)
    (hfit : numLines F + (W ++ s.logBatch ++ [log]).length ≤ maxLogRecords) :
    ∃ W', (s.persistLog log).Written F W' ∧
      W' ++ (s.persistLog log).logBatch = W ++ s.logBatch ++ [log] := by
  have hlen : (s.logBatch ++ [log]).length = s.logBatch.length + 1 := by simp
  have hsize : numLines F + W.length + (s.logBatch.length + 1) ≤ maxLogRecords := by
    simp only [List.length_append, List.length_singleton] at hfit; omega
  rcases Nat.lt_or_ge (s.logBatch ++ [log]).length batchSize with hlt | hge
  · -- room left in the batch: nothing is written
    rw [persistLog_of_lt hw.numWritten hlt (by rw [hw.numRecs]; omega)]
    exact ⟨W, ⟨hw.file, hw.pos, hw.numWritten, hlt, hw.numRecs⟩, by simp⟩
  · -- the batch is full: its frames go after the ones written
    have hb : (s.logBatch ++ [log]).length = batchSize := by have := hw.batch; omega
    rw [persistLog_of_full hw.numWritten hb (by rw [hw.numRecs]; omega)]
    refine ⟨W ++ (s.logBatch ++ [log]), ⟨?_, ?_, rfl, by simp [batchSize], ?_⟩, by simp⟩
    · show writeAt s.file s.pos _ = _
      rw [hw.file, hw.pos, writeAt_zero_writeAt, ← frames_append]
    · simp [hw.pos]
    · rw [hw.numRecs, List.length_append, hb, Nat.add_assoc]

/-- A run of `persist_log` below the truncation writes every full batch in
order from the start of `F`. -/
theorem foldl_written (hw : s.Written F W) (logs : List (List UInt8))
    (hfit : numLines F + (W ++ s.logBatch ++ logs).length ≤ maxLogRecords) :
    ∃ W', (logs.foldl persistLog s).Written F W' ∧
      W' ++ (logs.foldl persistLog s).logBatch = W ++ s.logBatch ++ logs := by
  induction logs generalizing s W with
  | nil => exact ⟨W, hw, by simp⟩
  | cons log logs ih =>
      obtain ⟨W₁, hw₁, he₁⟩ := persistLog_written hw log (by
        simp only [List.length_append, List.length_cons, List.length_nil] at hfit ⊢; omega)
      obtain ⟨W', hw', he'⟩ := ih hw₁ (by
        rw [he₁]; simpa using hfit)
      exact ⟨W', hw', by rw [List.foldl_cons, he', he₁]; simp⟩

theorem flush_file (hw : s.Written F W) : s.flush.file = writeAt F 0 (frames (W ++ s.logBatch)) := by
  unfold flush
  dsimp only
  split
  · rename_i hempty
    have hnil : frames s.logBatch = [] := List.isEmpty_iff.mp hempty
    rw [hw.file, frames_append, hnil, List.append_nil]
  · simp only
    rw [hw.file, hw.pos, writeAt_zero_writeAt, frames_append]

end Recorder

/-- A session that truncates nothing writes its logs' frames from the start
of the file, over what was there. -/
theorem session_eq (F : List UInt8) (logs : List (List UInt8))
    (hfit : numLines F + logs.length ≤ maxLogRecords) :
    session F logs = writeAt F 0 (frames logs) := by
  obtain ⟨W', hw', he'⟩ := Recorder.foldl_written Recorder.written_open logs (by simpa [Recorder.open] using hfit)
  rw [session, Recorder.flush_file hw', he']
  simp [Recorder.open]

/-- Sessions do not keep the log's framing. Take a first session on the
new, empty log that persists the logs `a :: as`, and a second one that
persists `b :: bs`, with `b` another log than `a`, all without truncating.
The first writes its frames (and `num_lines` then counts one record for
them all, when `a`'s length is not a multiple of 256 and the file is under
16 MiB); the second writes its own from the start of the file, over them,
so `get_router_events` never reads the two sessions' records in order. -/
theorem sessions_overwrite_log (a b : List UInt8) (as bs : List (List UInt8)) (hab : a ≠ b)
    (hsmall : ∀ l ∈ a :: as ++ b :: bs, l.length < 2 ^ 32)
    (hfit : (frames (a :: as)).length + (b :: bs).length ≤ maxLogRecords) :
    session [] (a :: as) = frames (a :: as) ∧
      (as ≠ [] → a.length % 2 ^ 8 ≠ 0 → (frames (a :: as)).length ≤ 2 ^ 24 →
        numLines (session [] (a :: as)) = 1) ∧
      ∀ m, 0 < m → getRouterFrames m (session (session [] (a :: as)) (b :: bs)) ≠
        .ok (a :: as ++ b :: bs) := by
  have hF₁ : session [] (a :: as) = frames (a :: as) := by
    rw [session_eq [] (a :: as) (by
      have h₀ := numLines_le ([] : List UInt8)
      have h₁ := length_le_length_frames (a :: as)
      simp only [List.length_nil, Nat.le_zero] at h₀
      omega)]
    simp [writeAt_zero]
  -- the second session writes from the start of the first one's frames
  have hF₂ : session (session [] (a :: as)) (b :: bs) =
      frame b ++ (frames bs ++ (frames (a :: as)).drop (frames (b :: bs)).length) := by
    rw [hF₁, session_eq _ _ (by have := numLines_le (frames (a :: as)); omega), writeAt_zero]
    simp
  refine ⟨hF₁, fun _ ha hsize => ?_, fun m hm hread => ?_⟩
  · rw [hF₁, frames_cons]
    exact numLines_frame ha (by simpa using hsize)
  · obtain ⟨n, hn⟩ : ∃ n, min m maxEventHistory = n + 1 :=
      ⟨min m maxEventHistory - 1, by simp [maxEventHistory]; omega⟩
    rw [getRouterFrames, hn] at hread
    have hhead := readRecordsFrom_head hF₂ (hsmall b (by simp)) hread
    exact hab (Option.some.inj hhead)

theorem sessions_overwrite_log_two :
    let a : List UInt8 := [1]
    let b : List UInt8 := [2]
    let as : List (List UInt8) := [[3]]
    let bs : List (List UInt8) := []
    a ≠ b ∧ (∀ l ∈ a :: as ++ b :: bs, l.length < 2 ^ 32) ∧
      (frames (a :: as)).length + (b :: bs).length ≤ maxLogRecords ∧
      (session [] (a :: as) = frames (a :: as) ∧
        (as ≠ [] → a.length % 2 ^ 8 ≠ 0 → (frames (a :: as)).length ≤ 2 ^ 24 →
          numLines (session [] (a :: as)) = 1) ∧
        ∀ m, 0 < m → getRouterFrames m (session (session [] (a :: as)) (b :: bs)) ≠
          .ok (a :: as ++ b :: bs)) :=
  ⟨by decide, by simp, by simp [frames, frame, maxLogRecords],
    sessions_overwrite_log _ _ _ _ (by decide) (by simp) (by simp [frames, frame, maxLogRecords])⟩

end FreenetCore.Tracing
