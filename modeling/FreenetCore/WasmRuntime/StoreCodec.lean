import FreenetCore.WasmRuntime.Store

/-!
The layout of the store index files, and the round trip of their codec.

`recordBody` is what `insert_record` writes after the tombstone byte, and
`indexWith mark pos rs` is an index file holding the records `rs` from byte
`pos` on, each with the tombstone byte `mark` gives at its offset. Records
written through an appending `SafeWriter` build `indexWith (fun _ => 0)`, and
each `insert_record` returns the offset of its record; `remove` at such an
offset changes that record's mark and nothing else; `process_record` reads
every record back, live or deleted, at the offset it was written at, and
stops at the end of the data.
-/

namespace FreenetCore.WasmRuntime

open FileSys Bytes

/-! ### The layout -/

/-- The key type a key is written with. -/
def StoreKey.keyType : StoreKey → KeyType
  | .contractKey _ => .contract
  | .delegateKey .. => .delegate

/-- The key bytes written after the key type. -/
def StoreKey.bytes : StoreKey → List UInt8
  | .contractKey k => k.val
  | .delegateKey k h => k.val ++ h.val

/-- A record after its tombstone byte. -/
def recordBody (key : StoreKey) (value : List UInt8) : List UInt8 :=
  key.keyType.toU8 :: (key.bytes ++ u32be value.length ++ value)

/-- A value as `process_record` hands it back: in an array when it is 32
bytes long. -/
def RecordValue.ofBytes (v : List UInt8) : RecordValue :=
  if h : v.length = internalKey then .inl ⟨v, h⟩ else .inr v

/-- The bytes of an index file from byte `pos` on, holding the records `rs`,
each with the tombstone byte `mark` gives at the offset it starts at. -/
def indexWith (mark : Nat → UInt8) : Nat → List (StoreKey × List UInt8) → List UInt8
  | _, [] => []
  | pos, (key, value) :: rest =>
      mark pos :: (recordBody key value ++ indexWith mark (pos + traversed key value) rest)

/-- The offsets the records `rs` start at, from byte `pos` on. -/
def recordOffsets : Nat → List (StoreKey × List UInt8) → List Nat
  | _, [] => []
  | pos, (key, value) :: rest => pos :: recordOffsets (pos + traversed key value) rest

/-- The records of an index file with their cursors, each value as its
bytes, and the failure that stops the decoding loop. -/
def decodeIndex (data : List UInt8) : List (Nat × Option (StoreKey × List UInt8)) × Fault :=
  let (records, stop) := readRecords data
  (records.map fun (cursor, record) => (cursor, record.map fun (key, value) => (key, value.bytes)),
    stop)

theorem recordBytes_eq (key : StoreKey) (value : List UInt8) :
    recordBytes key value = 0 :: recordBody key value := by
  cases key <;> simp [recordBytes, recordBody, StoreKey.keyType, StoreKey.bytes, KeyType.toU8]

theorem length_keyBytes (key : StoreKey) :
    key.bytes.length = if key.keyType = .contract then 32 else 64 := by
  cases key with
  | contractKey k => simpa [StoreKey.bytes, StoreKey.keyType, internalKey] using k.2
  | delegateKey k h =>
      have hk := k.2
      have hh := h.2
      simp only [StoreKey.bytes, StoreKey.keyType, List.length_append, hk, hh, internalKey]
      rfl

/-- `traversed` is the length of the record `insert_record` writes. -/
theorem length_recordBody (key : StoreKey) (value : List UInt8) :
    (recordBody key value).length + 1 = traversed key value := by
  have hk := length_keyBytes key
  cases key <;>
    simp only [recordBody, traversed, List.length_cons, List.length_append, u32be_length,
      StoreKey.keyType] at hk ⊢ <;> simp at hk <;> omega

theorem length_recordBytes (key : StoreKey) (value : List UInt8) :
    (recordBytes key value).length = traversed key value := by
  rw [recordBytes_eq, List.length_cons, length_recordBody]

@[simp] theorem RecordValue.bytes_ofBytes (v : List UInt8) : (RecordValue.ofBytes v).bytes = v := by
  unfold RecordValue.ofBytes
  split <;> rfl

theorem keyTypeOf_toU8 (t : KeyType) : keyTypeOf t.toU8 = .ok t := by
  cases t <;> rfl

theorem length_le_indexWith (mark : Nat → UInt8) (pos : Nat) (rs : List (StoreKey × List UInt8)) :
    rs.length ≤ (indexWith mark pos rs).length := by
  induction rs generalizing pos with
  | nil => simp [indexWith]
  | cons r rs ih =>
      obtain ⟨key, value⟩ := r
      have := ih (pos + traversed key value)
      simp only [indexWith, List.length_cons, List.length_append]
      omega

/-- Marks that agree at the offsets of the records give the same bytes. -/
theorem indexWith_congr {mark mark' : Nat → UInt8} (pos : Nat) (rs : List (StoreKey × List UInt8))
    (h : ∀ c ∈ recordOffsets pos rs, mark c = mark' c) :
    indexWith mark pos rs = indexWith mark' pos rs := by
  induction rs generalizing pos with
  | nil => rfl
  | cons r rs ih =>
      obtain ⟨key, value⟩ := r
      simp only [recordOffsets, List.mem_cons, forall_eq_or_imp] at h
      simp only [indexWith, h.1, ih _ h.2]

theorem length_recordOffsets (pos : Nat) (rs : List (StoreKey × List UInt8)) :
    (recordOffsets pos rs).length = rs.length := by
  induction rs generalizing pos with
  | nil => rfl
  | cons r rs ih =>
      obtain ⟨key, value⟩ := r
      simp [recordOffsets, ih]

theorem lt_of_mem_recordOffsets {c pos : Nat} {rs : List (StoreKey × List UInt8)}
    (h : c ∈ recordOffsets pos rs) : pos ≤ c := by
  induction rs generalizing pos with
  | nil => simp [recordOffsets] at h
  | cons r rs ih =>
      obtain ⟨key, value⟩ := r
      simp only [recordOffsets, List.mem_cons] at h
      rcases h with rfl | h
      · exact le_refl _
      · have := ih h
        omega

theorem length_append_record (pre : List UInt8) (m : UInt8) (key : StoreKey) (value : List UInt8) :
    (pre ++ m :: recordBody key value).length = pre.length + traversed key value := by
  rw [← length_recordBody]
  simp only [List.length_append, List.length_cons]

/-- The records after the first start where the first one ends. -/
theorem append_indexWith_cons (mark : Nat → UInt8) (pre : List UInt8) (key : StoreKey)
    (value : List UInt8) (rs : List (StoreKey × List UInt8)) :
    pre ++ indexWith mark pre.length ((key, value) :: rs) =
      (pre ++ mark pre.length :: recordBody key value) ++
        indexWith mark (pre ++ mark pre.length :: recordBody key value).length rs := by
  rw [length_append_record]
  simp [indexWith]

/-! ### Reading one record -/

section Reading

variable {data rest : List UInt8} {pos : Nat}

theorem readBytes_of_drop {xs : List UInt8} (h : data.drop pos = xs ++ rest)
    (hpos : pos ≤ data.length) : readBytes data pos xs.length = .ok (xs, pos + xs.length) := by
  simp [readBytes, readExact_of_drop h hpos]

theorem readBytes32_of_drop (k : Bytes32) (h : data.drop pos = k.val ++ rest)
    (hpos : pos ≤ data.length) : readBytes32 data pos = .ok (k, pos + internalKey) := by
  have hk := k.2
  have hle := add_length_le_of_drop h hpos
  rw [readBytes32, dif_pos (by omega)]
  congr
  simp only [h]
  exact List.take_left' hk

theorem readU32_of_drop {n : Nat} (hn : n < 2 ^ 32) (h : data.drop pos = u32be n ++ rest)
    (hpos : pos ≤ data.length) : readU32 data pos = .ok (n, pos + 4) := by
  have hread := readBytes_of_drop h hpos
  simp only [u32be_length] at hread
  simp [readU32, hread, readU32be_u32be]
  omega

theorem readStoreKey_of_drop (key : StoreKey) (h : data.drop pos = key.bytes ++ rest)
    (hpos : pos ≤ data.length) :
    readStoreKey data pos key.keyType = .ok (key, pos + key.bytes.length) := by
  cases key with
  | contractKey k =>
      simp only [StoreKey.keyType, StoreKey.bytes] at h ⊢
      simp [readStoreKey, readBytes32_of_drop k h hpos, bind, Except.bind, pure, Except.pure,
        k.2]
  | delegateKey k c =>
      simp only [StoreKey.keyType, StoreKey.bytes, List.append_assoc] at h ⊢
      have hk := k.2
      -- the code hash starts where the key ends
      have h' : data.drop (pos + internalKey) = c.val ++ rest := by
        have := drop_add_of_drop h
        rwa [hk] at this
      have hpos' : pos + internalKey ≤ data.length := hk ▸ add_length_le_of_drop h hpos
      simp [readStoreKey, readBytes32_of_drop k h hpos, readBytes32_of_drop c h' hpos', bind,
        Except.bind, pure, Except.pure, hk, c.2]
      omega

theorem readValue_of_drop {v : List UInt8} (h : data.drop pos = v ++ rest)
    (hpos : pos ≤ data.length) :
    readValue data pos v.length = .ok (.ofBytes v, pos + v.length) := by
  unfold readValue RecordValue.ofBytes
  by_cases hv : v.length = 32
  · have h32 : v.length = internalKey := hv
    rw [if_pos hv, dif_pos h32, readBytes32_of_drop ⟨v, h32⟩ h hpos]
    simp [bind, Except.bind, pure, Except.pure, internalKey, hv]
  · have h32 : ¬ v.length = internalKey := hv
    rw [if_neg hv, dif_neg h32, readBytes_of_drop h hpos]
    rfl

/-- `process_record` reads a whole record, live or deleted, and stops right
after it. -/
theorem processRecord_of_drop (mark : UInt8) (key : StoreKey) (value : List UInt8)
    (hv : value.length < 2 ^ 32) (h : data.drop pos = mark :: recordBody key value ++ rest) :
    processRecord data pos =
      .ok (if mark = 0 then some (key, .ofBytes value) else none, pos + traversed key value) := by
  have hsize := length_recordBody key value
  have hpos : pos ≤ data.length := by
    have := congrArg List.length h
    simp only [List.length_drop, List.length_cons, List.length_append] at this
    omega
  -- the cursor after the two header bytes, after the key, and after the length
  have h₁ : data.drop pos =
      [mark, key.keyType.toU8] ++ (key.bytes ++ (u32be value.length ++ (value ++ rest))) := by
    simp [h, recordBody]
  have hpos₁ : pos + 2 ≤ data.length := add_length_le_of_drop h₁ hpos
  have h₂ : data.drop (pos + 2) = key.bytes ++ (u32be value.length ++ (value ++ rest)) :=
    drop_add_of_drop h₁
  have hpos₂ := add_length_le_of_drop h₂ hpos₁
  have h₃ : data.drop (pos + 2 + key.bytes.length) = u32be value.length ++ (value ++ rest) :=
    drop_add_of_drop h₂
  have hpos₃ : pos + 2 + key.bytes.length + 4 ≤ data.length := add_length_le_of_drop h₃ hpos₂
  have h₄ : data.drop (pos + 2 + key.bytes.length + 4) = value ++ rest := drop_add_of_drop h₃
  have hlen : (recordBody key value).length = 1 + key.bytes.length + 4 + value.length := by
    simp only [recordBody, List.length_cons, List.length_append, u32be_length]
    omega
  have hhead : readBytes data pos (tombstoneMarker + 1) = .ok ([mark, key.keyType.toU8], pos + 2) :=
    readBytes_of_drop h₁ hpos
  have hkey := readStoreKey_of_drop key h₂ hpos₁
  have hu32 := readU32_of_drop hv h₃ hpos₂
  have hval := readValue_of_drop h₄ hpos₃
  by_cases hm : mark = 0
  · -- a live record: the key, the length and the value are read
    simp only [processRecord, hhead, bind, Except.bind, pure, Except.pure, List.getElem!_cons_zero,
      List.getElem!_cons_succ, keyTypeOf_toU8, hm, bne_self_eq_false, Bool.not_false, if_true,
      hkey, hu32, hval]
    congr 2
    omega
  · -- a deleted record: the key is skipped by its size, then the value by its length
    have hb : (mark != 0) = true := bne_iff_ne.mpr hm
    have hk := length_keyBytes key
    cases hkt : key.keyType with
    | contract =>
        simp only [hkt, if_true] at hk
        rw [hk] at hu32
        simp only [processRecord, hhead, bind, Except.bind, pure, Except.pure,
          List.getElem!_cons_zero, List.getElem!_cons_succ, hkt, keyTypeOf_toU8, hb,
          Bool.not_true, Bool.false_eq_true, if_false, hu32, hm]
        congr 2
        omega
    | delegate =>
        simp only [hkt, reduceCtorEq, if_false] at hk
        rw [hk] at hu32
        simp only [processRecord, hhead, bind, Except.bind, pure, Except.pure,
          List.getElem!_cons_zero, List.getElem!_cons_succ, hkt, keyTypeOf_toU8, hb,
          Bool.not_true, Bool.false_eq_true, if_false, hu32, hm]
        congr 2
        omega

/-- At the end of the data `process_record` fails with `UnexpectedEof`. -/
theorem processRecord_length (data : List UInt8) :
    processRecord data data.length = .error (.io .unexpectedEof) := by
  simp [processRecord, readBytes, readExact_length, bind, Except.bind, tombstoneMarker]

end Reading

/-! ### Reading arbitrary bytes

What `process_record` does on any data, not only on records `insert_record`
wrote: how far a record read without error takes the reader, that no read
hangs, and that a key-type byte past `1` is the `unreachable!()`. -/

section Arbitrary

variable {data : List UInt8} {pos p : Nat}

theorem readBytes_advance {n : Nat} {bs : List UInt8} (h : readBytes data pos n = .ok (bs, p)) :
    p = pos + n ∧ pos + n ≤ data.length := by
  unfold readBytes readExact at h
  split_ifs at h with hle
  simp only [Except.ok.injEq, Prod.mk.injEq] at h
  exact ⟨h.2.symm, hle⟩

theorem readBytes32_advance {k : Bytes32} (h : readBytes32 data pos = .ok (k, p)) :
    p = pos + internalKey := by
  unfold readBytes32 at h
  split_ifs at h
  simp only [Except.ok.injEq, Prod.mk.injEq] at h
  exact h.2.symm

theorem readU32_advance {v : Nat} (h : readU32 data pos = .ok (v, p)) : p = pos + 4 := by
  unfold readU32 at h
  split at h
  · next bs p' hread =>
      simp only [Except.ok.injEq, Prod.mk.injEq] at h
      rw [← h.2]
      exact (readBytes_advance hread).1
  · cases h

theorem readStoreKey_advance {kt : KeyType} {key : StoreKey}
    (h : readStoreKey data pos kt = .ok (key, p)) : pos + internalKey ≤ p := by
  cases kt with
  | contract =>
      simp only [readStoreKey, bind, Except.bind] at h
      split at h
      · cases h
      · next r hr =>
          simp only [pure, Except.pure, Except.ok.injEq, Prod.mk.injEq] at h
          rw [← h.2, readBytes32_advance hr]
  | delegate =>
      -- the key, then the code hash
      simp only [readStoreKey, bind, Except.bind] at h
      split at h
      · cases h
      · next r hr =>
          split at h
          · cases h
          · next r' hr' =>
              simp only [pure, Except.pure, Except.ok.injEq, Prod.mk.injEq] at h
              rw [← h.2, readBytes32_advance hr', readBytes32_advance hr]
              omega

theorem readValue_advance {len : Nat} {v : RecordValue} (h : readValue data pos len = .ok (v, p)) :
    pos ≤ p := by
  unfold readValue at h
  split_ifs at h
  · simp only [bind, Except.bind] at h
    split at h
    · cases h
    · next r hr =>
        simp only [pure, Except.pure, Except.ok.injEq, Prod.mk.injEq] at h
        rw [← h.2, readBytes32_advance hr]
        omega
  · simp only [bind, Except.bind] at h
    split at h
    · cases h
    · next r hr =>
        simp only [pure, Except.pure, Except.ok.injEq, Prod.mk.injEq] at h
        rw [← h.2, (readBytes_advance hr).1]
        omega

/-- A record read without error takes at least its tombstone byte, its
key-type byte, a key and a length: 38 bytes. -/
theorem processRecord_advance {r : Option (StoreKey × RecordValue)}
    (h : processRecord data pos = .ok (r, p)) : pos + 38 ≤ p := by
  simp only [processRecord, bind, Except.bind] at h
  split at h
  · cases h
  · next r₁ hr₁ =>
      have h₁ : r₁.2 = pos + 2 := (readBytes_advance hr₁).1
      split at h
      · cases h
      · next kt hkt =>
          split_ifs at h
          · -- a live record: its key, its length, its value
            split at h
            · cases h
            · next r₂ hr₂ =>
                split at h
                · cases h
                · next r₃ hr₃ =>
                    split at h
                    · cases h
                    · next r₄ hr₄ =>
                        simp only [pure, Except.pure, Except.ok.injEq, Prod.mk.injEq] at h
                        have h₂ := readStoreKey_advance hr₂
                        have h₃ := readU32_advance hr₃
                        have h₄ := readValue_advance hr₄
                        simp only [internalKey] at h₂
                        omega
          · -- a deleted record: the key is skipped, the length read
            split at h
            · cases h
            · next r₃ hr₃ =>
                simp only [pure, Except.pure, Except.ok.injEq, Prod.mk.injEq] at h
                have h₃ := readU32_advance hr₃
                cases kt <;> simp only at h₃ <;> omega

/-- Fewer than two bytes from the position on: the key part cannot be read. -/
theorem processRecord_past_end (h : data.length < pos + 2) :
    processRecord data pos = .error (.io .unexpectedEof) := by
  have hread : readBytes data pos 2 = .error (.io .unexpectedEof) := by
    simp only [readBytes, readExact]
    rw [if_neg (by omega)]
  simp only [processRecord, tombstoneMarker, hread, bind, Except.bind]

theorem readBytes_ne_hang (n : Nat) : readBytes data pos n ≠ .error .hang := by
  unfold readBytes
  split <;> simp

theorem readBytes32_ne_hang : readBytes32 data pos ≠ .error .hang := by
  unfold readBytes32
  split <;> simp

theorem readU32_ne_hang : readU32 data pos ≠ .error .hang := by
  unfold readU32
  split
  · simp
  · next f hf =>
      intro h
      cases h
      exact readBytes_ne_hang 4 hf

theorem keyTypeOf_ne_hang (b : UInt8) : keyTypeOf b ≠ .error .hang := by
  unfold keyTypeOf
  split_ifs <;> simp

theorem readStoreKey_ne_hang (kt : KeyType) : readStoreKey data pos kt ≠ .error .hang := by
  intro h
  cases kt <;> simp only [readStoreKey, bind, Except.bind] at h <;>
    repeat' (first | split at h | cases h)
  all_goals simp_all [readBytes32_ne_hang]

theorem readValue_ne_hang (len : Nat) : readValue data pos len ≠ .error .hang := by
  intro h
  simp only [readValue, bind, Except.bind] at h
  repeat' (first | split at h | split_ifs at h | cases h)
  all_goals simp_all [readBytes32_ne_hang, readBytes_ne_hang]

/-- `process_record` fails with an I/O error or panics; it never hangs. -/
theorem processRecord_ne_hang : processRecord data pos ≠ .error .hang := by
  intro h
  simp only [processRecord, bind, Except.bind] at h
  repeat' (first | split at h | split_ifs at h)
  -- each failure is one reader's, and none of them hangs
  all_goals (try cases h)
  all_goals simp_all [readBytes_ne_hang, keyTypeOf_ne_hang, readStoreKey_ne_hang, readU32_ne_hang,
    readValue_ne_hang]

/-- The decoding loop stops on `process_record`'s own failure before its fuel
runs out: each record read takes 38 bytes, and only a position two bytes
short of the end can start one. -/
theorem readRecordsFrom_ne_hang (fuel : Nat) (hfuel : 0 < fuel)
    (hbound : data.length + 38 ≤ pos + 38 * fuel) : (readRecordsFrom data fuel pos).2 ≠ .hang := by
  induction fuel generalizing pos with
  | zero => omega
  | succ fuel ih =>
      simp only [readRecordsFrom]
      cases h : processRecord data pos with
      | error f =>
          intro hf
          subst hf
          exact processRecord_ne_hang h
      | ok rp =>
          obtain ⟨r, p⟩ := rp
          have hadv := processRecord_advance h
          have hstart : pos + 2 ≤ data.length := by
            by_contra hlt
            rw [processRecord_past_end (by omega)] at h
            cases h
          have hfuel' : 0 < fuel := by omega
          exact ih hfuel' (by omega)

/-- The loop of `load_from_file` ends on a failure of `process_record`, within
the fuel the model gives it. -/
theorem readRecords_ne_hang (data : List UInt8) : (readRecords data).2 ≠ .hang :=
  readRecordsFrom_ne_hang _ (Nat.succ_pos _) (by omega)

/-- A record whose key-type byte is neither `0` nor `1` is the
`unreachable!()`, whatever its tombstone byte. -/
theorem processRecord_of_keyType {m b : UInt8} {rest : List UInt8}
    (h : data.drop pos = m :: b :: rest) (hb0 : b ≠ 0) (hb1 : b ≠ 1) :
    processRecord data pos = .error .panic := by
  have hpos : pos ≤ data.length := by
    by_contra hlt
    rw [List.drop_eq_nil_of_le (by omega)] at h
    cases h
  have hread : readBytes data pos [m, b].length = .ok ([m, b], pos + [m, b].length) :=
    readBytes_of_drop (show data.drop pos = [m, b] ++ rest from h) hpos
  have hkt : keyTypeOf b = .error .panic := by simp [keyTypeOf, hb0, hb1]
  simp only [List.length_cons, List.length_nil] at hread
  simp only [processRecord, tombstoneMarker, hread, bind, Except.bind, List.getElem!_cons_succ,
    List.getElem!_cons_zero, hkt]

end Arbitrary


/-! ### Reading an index file -/

/-- `process_record` at the first record of an index file's tail. -/
theorem processRecord_append_indexWith (mark : Nat → UInt8) (pre : List UInt8) (key : StoreKey)
    (value : List UInt8) (rs : List (StoreKey × List UInt8)) (hv : value.length < 2 ^ 32) :
    processRecord (pre ++ indexWith mark pre.length ((key, value) :: rs)) pre.length =
      .ok (if mark pre.length = 0 then some (key, .ofBytes value) else none,
        pre.length + traversed key value) := by
  have hdrop : (pre ++ indexWith mark pre.length ((key, value) :: rs)).drop pre.length =
      mark pre.length :: recordBody key value ++
        indexWith mark (pre.length + traversed key value) rs := by
    simp [indexWith]
  exact processRecord_of_drop _ key value hv hdrop

/-- The decoding loop reads back every record of an index file at the offset
it starts at, and stops at its end. The induction is on the records, with the
bytes before the current one as `pre`. -/
theorem readRecordsFrom_indexWith (mark : Nat → UInt8) (rs : List (StoreKey × List UInt8))
    (hrs : ∀ r ∈ rs, r.2.length < 2 ^ 32) (pre : List UInt8) (fuel : Nat) (hfuel : rs.length < fuel) :
    readRecordsFrom (pre ++ indexWith mark pre.length rs) fuel pre.length =
      (((recordOffsets pre.length rs).zip rs).map fun (c, key, value) =>
          (c, if mark c = 0 then some (key, RecordValue.ofBytes value) else none),
        .io .unexpectedEof) := by
  induction rs generalizing pre fuel with
  | nil =>
      obtain ⟨fuel, rfl⟩ : ∃ f, fuel = f + 1 := ⟨fuel - 1, by simp at hfuel; omega⟩
      simp [readRecordsFrom, indexWith, recordOffsets, processRecord_length]
  | cons r rs ih =>
      obtain ⟨key, value⟩ := r
      obtain ⟨fuel, rfl⟩ : ∃ f, fuel = f + 1 := ⟨fuel - 1, by simp at hfuel; omega⟩
      have hv : value.length < 2 ^ 32 := hrs _ (List.mem_cons_self ..)
      have hrec := processRecord_append_indexWith mark pre key value rs hv
      have ih' := ih (fun r hr => hrs r (List.mem_cons_of_mem _ hr))
        (pre ++ mark pre.length :: recordBody key value) fuel (by simpa using hfuel)
      rw [← append_indexWith_cons, length_append_record] at ih'
      simp only [readRecordsFrom, hrec, ih', recordOffsets, List.zip_cons_cons,
        List.map_cons]

/-- The records and the end of an index file, as `decodeIndex` shows them. -/
theorem decodeIndex_indexWith (mark : Nat → UInt8) (rs : List (StoreKey × List UInt8))
    (hrs : ∀ r ∈ rs, r.2.length < 2 ^ 32) :
    decodeIndex (indexWith mark 0 rs) =
      (((recordOffsets 0 rs).zip rs).map fun (c, r) => (c, if mark c = 0 then some r else none),
        .io .unexpectedEof) := by
  have hfuel : rs.length < (indexWith mark 0 rs).length + 1 :=
    Nat.lt_succ_of_le (length_le_indexWith mark 0 rs)
  have hread := readRecordsFrom_indexWith mark rs hrs [] _ hfuel
  simp only [List.nil_append, List.length_nil] at hread
  simp only [decodeIndex, readRecords, hread, List.map_map]
  congr 1
  apply List.map_congr_left
  rintro ⟨c, key, value⟩ -
  by_cases hc : mark c = 0 <;> simp [hc]

/-! ### Writing and removing records -/

section Writing

variable {ν : Type}

/-- `SafeWriter::new` outside a compaction on an empty or absent index file
gives an appending writer on an empty inode the name resolves to. -/
theorem new_of_empty [DecidableEq ν] (fs : Fs ν) {keyFile lockFile : ν}
    (hempty : (fs.contents keyFile).getD [] = []) (hne : keyFile ≠ lockFile) :
    ∃ fs₀ w, SafeWriter.new fs keyFile lockFile false = .ok (fs₀, w) ∧ w.file.append = true ∧
      w.lockFilePath = lockFile ∧ fs₀.dir keyFile = some w.file.inode ∧
      fs₀.data w.file.inode = [] ∧ fs₀.exists? lockFile = fs.exists? lockFile := by
  cases hdir : fs.dir keyFile with
  | some i =>
      have hopen := Fs.openFile_of_dir fs { create := true, append := true } hdir rfl rfl
      simp only [Fs.contents, hdir, Option.map_some, Option.getD_some] at hempty
      exact ⟨fs, ⟨⟨i, 0, true⟩, lockFile, false⟩, by simp [SafeWriter.new, hopen], rfl, rfl, hdir,
        hempty, rfl⟩
  | none =>
      -- the index is created on a fresh inode
      obtain ⟨fs₀, hopen, hdir₀, hdata₀, -⟩ :=
        Fs.openFile_of_none fs { create := true, append := true } hdir rfl
      refine ⟨fs₀, ⟨⟨fs.fresh, 0, true⟩, lockFile, false⟩, by simp [SafeWriter.new, hopen], rfl, rfl,
        by simp [hdir₀], by simp [hdata₀], ?_⟩
      simp [Fs.exists?, hdir₀, Function.update_of_ne (Ne.symm hne)]

/-- `insert_record` through an appending writer, with no lock file, appends
the record and returns the offset it starts at. -/
theorem insertRecord_of_append (fs : Fs ν) (w : SafeWriter ν) (key : StoreKey)
    (value : List UInt8) (happ : w.file.append = true) (hlock : fs.exists? w.lockFilePath = false) :
    w.insertRecord fs key value =
      .ok (fs.setData w.file.inode (fs.data w.file.inode ++ recordBytes key value),
        { w with file := { w.file with pos := (fs.data w.file.inode).length + traversed key value } },
        (fs.data w.file.inode).length) := by
  simp [SafeWriter.insertRecord, SafeWriter.checkLock, hlock, Fs.write_of_append _ _ _ happ,
    length_recordBytes]

/-- Inserting records one after the other through an appending writer
appends their bytes and returns their offsets. -/
theorem insertAll_of_append (rs : List (StoreKey × List UInt8)) :
    ∀ (fs : Fs ν) (w : SafeWriter ν), w.file.append = true → fs.exists? w.lockFilePath = false →
      ∃ w', insertAll fs w rs =
        .ok (fs.setData w.file.inode (fs.data w.file.inode ++
              indexWith (fun _ => 0) (fs.data w.file.inode).length rs),
          w', recordOffsets (fs.data w.file.inode).length rs) := by
  induction rs with
  | nil =>
      intro fs w _ _
      exact ⟨w, by simp [insertAll, indexWith, recordOffsets]⟩
  | cons r rs ih =>
      obtain ⟨key, value⟩ := r
      intro fs w happ hlock
      -- the writer after the first record appends to the same inode
      obtain ⟨w', hrest⟩ := ih (fs.setData w.file.inode (fs.data w.file.inode ++ recordBytes key value))
        { w with file := { w.file with pos := (fs.data w.file.inode).length + traversed key value } }
        happ (by simpa using hlock)
      simp only [Fs.setData_data_self, Fs.setData_setData, List.length_append,
        length_recordBytes] at hrest
      refine ⟨w', ?_⟩
      simp only [insertAll, insertRecord_of_append fs w key value happ hlock, hrest]
      simp [indexWith, recordOffsets, recordBytes_eq]

/-- `remove` writes the tombstone byte at the offset, in the inode the index
name resolves to. -/
theorem remove_eq [DecidableEq ν] (fs : Fs ν) {keyFile : ν} {i : Nat} (h : fs.dir keyFile = some i) (offset : Nat) :
    remove fs keyFile offset = .ok (fs.setData i (writeAt (fs.data i) offset [1])) := by
  simp [remove, Fs.openFile_of_dir fs {} h rfl rfl, Fs.write_of_not_append]

/-- The tombstone byte written at a record's offset marks that record and
changes nothing else. -/
theorem writeAt_indexWith (mark : Nat → UInt8) (rs : List (StoreKey × List UInt8)) (pre : List UInt8)
    {c : Nat} (hc : c ∈ recordOffsets pre.length rs) :
    writeAt (pre ++ indexWith mark pre.length rs) c [1] =
      pre ++ indexWith (Function.update mark c 1) pre.length rs := by
  induction rs generalizing pre with
  | nil => simp [recordOffsets] at hc
  | cons r rs ih =>
      obtain ⟨key, value⟩ := r
      have hsize := length_recordBody key value
      simp only [recordOffsets, List.mem_cons] at hc
      rcases hc with rfl | hc
      · -- the first record: its tombstone byte is overwritten
        have hrest : indexWith (Function.update mark pre.length 1) (pre.length + traversed key value) rs =
            indexWith mark (pre.length + traversed key value) rs := by
          apply indexWith_congr
          intro c hc
          have := lt_of_mem_recordOffsets hc
          rw [Function.update_of_ne (by omega)]
        simp only [indexWith]
        rw [writeAt_cons, hrest, Function.update_self]
      · -- a later record: the write lands after the first one
        have hlt := lt_of_mem_recordOffsets hc
        rw [← length_append_record pre (mark pre.length)] at hc
        rw [append_indexWith_cons, ih _ hc, append_indexWith_cons,
          Function.update_of_ne (by omega), length_append_record]

/-- Removing records one after the other marks exactly the removed ones. -/
theorem removeAll_indexWith [DecidableEq ν] (rs : List (StoreKey × List UInt8)) {keyFile : ν} {i : Nat}
    (dels : List Nat) (hdels : ∀ c ∈ dels, c ∈ recordOffsets 0 rs) :
    ∀ (fs : Fs ν) (mark : Nat → UInt8), fs.dir keyFile = some i → fs.data i = indexWith mark 0 rs →
      removeAll fs keyFile dels =
        .ok (fs.setData i (indexWith (fun c => if c ∈ dels then 1 else mark c) 0 rs)) := by
  induction dels with
  | nil =>
      intro fs mark _ hdata
      simp [removeAll, ← hdata]
  | cons d dels ih =>
      intro fs mark hdir hdata
      have hd : writeAt (indexWith mark 0 rs) d [1] = indexWith (Function.update mark d 1) 0 rs := by
        simpa using writeAt_indexWith mark rs [] (hdels d (List.mem_cons_self ..))
      have hrest := ih (fun c hc => hdels c (List.mem_cons_of_mem _ hc))
        (fs.setData i (indexWith (Function.update mark d 1) 0 rs)) (Function.update mark d 1)
        (by simpa using hdir) (by simp)
      -- removing `d` first, then `dels`, marks `d :: dels`
      have hmark : (fun c => if c ∈ dels then (1 : UInt8) else Function.update mark d 1 c) =
          fun c => if c ∈ d :: dels then 1 else mark c := by
        funext c
        by_cases h₁ : c ∈ dels <;> by_cases h₂ : c = d <;> simp [h₁, h₂]
      simp only [removeAll, remove_eq fs hdir, hdata, hd, hrest, hmark, Fs.setData_setData]

end Writing

/-! ### The round trip -/

/-- Records written through `SafeWriter::insert_record` into an empty index
file decode back in order, each at the offset its insert returned, and the
decoding then stops at the end of the file. After `remove` at any of those
offsets, the removed records decode as deleted and every other one
unchanged. -/
theorem insert_remove_decode [DecidableEq ν] (fs : Fs ν) (paths : IndexPaths ν)
    (records : List (StoreKey × List UInt8)) (hvalues : ∀ r ∈ records, r.2.length < 2 ^ 32)
    (hempty : (fs.contents paths.keyFile).getD [] = []) (hlock : fs.exists? paths.lockFile = false)
    (hne : paths.keyFile ≠ paths.lockFile) :
    ∃ fs₀ w₀, SafeWriter.new fs paths.keyFile paths.lockFile false = .ok (fs₀, w₀) ∧
      ∃ fs₁ w₁ offsets, insertAll fs₀ w₀ records = .ok (fs₁, w₁, offsets) ∧
        offsets.length = records.length ∧
        (∃ data, fs₁.contents paths.keyFile = some data ∧
          decodeIndex data =
            ((offsets.zip records).map fun (c, r) => (c, some r), .io .unexpectedEof)) ∧
        ∀ dels : List Nat, (∀ c ∈ dels, c ∈ offsets) →
          ∃ fs₂, removeAll fs₁ paths.keyFile dels = .ok fs₂ ∧
            ∃ data, fs₂.contents paths.keyFile = some data ∧
              decodeIndex data =
                ((offsets.zip records).map fun (c, r) => (c, if c ∈ dels then none else some r),
                  .io .unexpectedEof) := by
  obtain ⟨fs₀, w₀, hnew, happ, hpath, hdir, hdata, hex⟩ := new_of_empty fs hempty hne
  obtain ⟨w₁, hins⟩ := insertAll_of_append records fs₀ w₀ happ (by rw [hpath, hex, hlock])
  rw [hdata] at hins
  simp only [List.nil_append, List.length_nil] at hins
  refine ⟨fs₀, w₀, hnew, _, w₁, _, hins, length_recordOffsets 0 records,
    ⟨_, Fs.contents_setData _ _ hdir, ?_⟩, ?_⟩
  · rw [decodeIndex_indexWith _ _ hvalues]
    simp
  · -- the removals start from the file the inserts left, every record live
    intro dels hdels
    have hrem := removeAll_indexWith records dels hdels
      (fs₀.setData w₀.file.inode (indexWith (fun _ => 0) 0 records)) (fun _ => 0)
      (by simpa using hdir) (by simp)
    refine ⟨_, hrem, _, Fs.contents_setData _ _ (by simpa using hdir), ?_⟩
    rw [decodeIndex_indexWith _ _ hvalues]
    congr 1
    apply List.map_congr_left
    rintro ⟨c, r⟩ -
    by_cases hc : c ∈ dels <;> simp [hc]

/-- A contract record and a delegate record with a 32-byte value in a new
index file, written, read back, and removed. -/
theorem insert_remove_decode_two :
    let records : List (StoreKey × List UInt8) :=
      [(.contractKey ⟨List.replicate 32 0, rfl⟩, [7]),
        (.delegateKey ⟨List.replicate 32 1, rfl⟩ ⟨List.replicate 32 2, rfl⟩, List.replicate 32 5)]
    ∃ fs₀ w₀, SafeWriter.new (Fs.ofList ([] : List (Nat × List UInt8))) 0 2 false = .ok (fs₀, w₀) ∧
      ∃ fs₁ w₁ offsets, insertAll fs₀ w₀ records = .ok (fs₁, w₁, offsets) ∧
        offsets.length = records.length ∧
        (∃ data, fs₁.contents 0 = some data ∧
          decodeIndex data = ((offsets.zip records).map fun (c, r) => (c, some r), .io .unexpectedEof)) ∧
        ∀ dels : List Nat, (∀ c ∈ dels, c ∈ offsets) →
          ∃ fs₂, removeAll fs₁ 0 dels = .ok fs₂ ∧
            ∃ data, fs₂.contents 0 = some data ∧
              decodeIndex data =
                ((offsets.zip records).map fun (c, r) => (c, if c ∈ dels then none else some r),
                  .io .unexpectedEof) :=
  insert_remove_decode (Fs.ofList []) ⟨0, 1, 2⟩ _ (by simp) rfl rfl (by decide)

end FreenetCore.WasmRuntime
