import FreenetCore.Antiflood.Interfaces
import FreenetCore.Lib.BinarySearch

/-!
The token allocation record contract (`contracts/token-allocation-record`).

Its state is a generator's `TokenAllocationRecord` and its parameter the
generator's public key. `validate_state` checks every assignment with
`is_valid`. `update_state` takes a list of updates: a delta is one
assignment, appended with `append`; a state is a whole record, whose
assignments are appended one by one (`merge`). `append` refuses an
assignment whose slot its tier's list already holds, found by binary
search, and one that is not valid; to a tier the record does not hold yet it
adds the assignment with neither check.

The record, the assignment and the parameters are the values the contract
decodes from its JSON (`serde_json`, which decodes what it encodes), so the
decoding errors are not modelled; a map's iteration is in the order of
`Tier.all`. `update_state` on a related contract's update is `unreachable!()`,
the `none` of `updateState`.
-/

namespace FreenetCore.Antiflood

open Civil Crypto FreenetCore.WasmRuntime FreenetCore.Contract FreenetCore.Stdlib BinarySearch

variable (rsa : SignatureScheme RsaPrivateKey RsaPublicKey)

namespace TokenAllocationRecord

/-- `TokenAllocationRecordExt::append`. -/
def append (r : TokenAllocationRecord) (assignment : TokenAssignment) (key : RsaPublicKey) :
    Except AllocationError TokenAllocationRecord :=
  match r.getTier assignment.tier with
  | some list =>
      match binarySearchBy (fun (t : TokenAssignment) => compare t.timeSlot assignment.timeSlot) list with
      | .error _ =>
          match assignment.isValid rsa key with
          | .ok () => .ok (r.insert assignment.tier (sortUnstable (list ++ [assignment])))
          | .error err => .error (.invalidAssignment assignment err)
      | .ok _ => .error (.allocatedSlot assignment.tier assignment.timeSlot)
  | none => .ok (r.insert assignment.tier [assignment])

/-- `TokenAllocationRecordExt::merge`: every assignment of `other`,
appended in turn; the first refusal is the result. -/
def merge (r other : TokenAllocationRecord) (key : RsaPublicKey) :
    Except AllocationError TokenAllocationRecord :=
  other.assignments.foldlM (fun r a => r.append rsa a key) r

end TokenAllocationRecord

/-- `TokenAllocContract::validate_state`. -/
def validateState (params : TokenDelegateParameters) (assignedTokens : TokenAllocationRecord) :
    ValidateResult :=
  if assignedTokens.entries.all fun (_, assignments) =>
      assignments.all fun a => (a.isValid rsa params.generatorPublicKey).isOk then .valid
  else .invalid

/-- `TokenAllocContract::validate_delta`. -/
def validateDelta (params : TokenDelegateParameters) (assignedToken : TokenAssignment) : Bool :=
  (assignedToken.isValid rsa params.generatorPublicKey).isOk

/-- An update the contract is given. -/
abbrev TokenUpdate := UpdateData TokenAllocationRecord TokenAssignment (List UInt8)

/-- One update of `update_state`'s loop; an error of `merge` or `append`
becomes `InvalidUpdateWithInfo`. -/
def updateOne (key : RsaPublicKey) (r : TokenAllocationRecord) :
    TokenUpdate → Option (Except (ContractError AllocationError) TokenAllocationRecord)
  | .state s => some ((r.merge rsa s key).mapError .invalidUpdateWithInfo)
  | .delta d => some ((r.append rsa d key).mapError .invalidUpdateWithInfo)
  | .stateAndDelta s d => some do
      let r ← (r.merge rsa s key).mapError .invalidUpdateWithInfo
      (r.append rsa d key).mapError .invalidUpdateWithInfo
  | .relatedState .. | .relatedDelta .. | .relatedStateAndDelta .. => none

/-- `TokenAllocContract::update_state`: the updates in turn, stopping at
the first error. -/
def updateState (params : TokenDelegateParameters) :
    TokenAllocationRecord → List TokenUpdate →
      Option (Except (ContractError AllocationError) TokenAllocationRecord)
  | r, [] => some (.ok r)
  | r, u :: us =>
      match updateOne rsa params.generatorPublicKey r u with
      | some (.ok r') => updateState params r' us
      | res => res

/-- `TokenAllocContract::summarize_state`. -/
def summarizeState (state : TokenAllocationRecord) : TokenAllocationRecord.TokenAllocationSummary :=
  state.summarize

/-- `TokenAllocContract::get_state_delta`: the whole state, whatever the
summary (the delta against it is commented out in the source). -/
def getStateDelta (state : TokenAllocationRecord) (_summary : TokenAllocationRecord.TokenAllocationSummary) :
    TokenAllocationRecord :=
  state

/-- What a record should keep under the contract: every assignment valid
under the key, and every tier's list strictly increasing in time slot, so
that no slot is held twice. -/
def SlotsUnique (key : RsaPublicKey) (S : TokenAllocationRecord) : Prop :=
  ∀ tier l, S.getTier tier = some l →
    (∀ a ∈ l, a.isValid rsa key = .ok ()) ∧ l.Pairwise (fun a b => a.timeSlot < b.timeSlot)

section Lemmas

variable {rsa}

/-- `validate_state` accepts exactly the records whose assignments are all
valid. -/
theorem validateState_eq_valid {params : TokenDelegateParameters} {S : TokenAllocationRecord} :
    validateState rsa params S = .valid ↔
      ∀ a ∈ S.assignments, (a.isValid rsa params.generatorPublicKey).isOk := by
  simp only [validateState, TokenAllocationRecord.assignments, List.mem_flatMap, Prod.exists]
  split
  · next h =>
      simp only [List.all_eq_true, Prod.forall] at h
      simpa using fun a tier l hl ha => h tier l hl a ha
  · next h =>
      simp only [List.all_eq_true, Prod.forall, not_forall] at h
      obtain ⟨tier, l, hl, a, ha, hbad⟩ := h
      simp only [reduceCtorEq, false_iff, not_forall]
      exact ⟨a, ⟨tier, l, hl, ha⟩, by simpa using hbad⟩

/-- A record that keeps `SlotsUnique` is accepted by `validate_state`. -/
theorem validateState_of_slotsUnique {key : RsaPublicKey} {S : TokenAllocationRecord}
    (hS : SlotsUnique rsa key S) : validateState rsa ⟨key⟩ S = .valid := by
  refine validateState_eq_valid.mpr fun a ha => ?_
  obtain ⟨tier, l, hl, hal⟩ := TokenAllocationRecord.mem_assignments.mp ha
  rw [(hS tier l hl).1 a hal]
  rfl

/-- A record holding an assignment that is not valid is refused. -/
theorem validateState_of_not_isOk {params : TokenDelegateParameters} {S : TokenAllocationRecord}
    {a : TokenAssignment} (ha : a ∈ S.assignments)
    (hbad : (a.isValid rsa params.generatorPublicKey).isOk = false) :
    validateState rsa params S = .invalid := by
  obtain ⟨tier, l, hl, hal⟩ := TokenAllocationRecord.mem_assignments.mp ha
  simp only [validateState]
  rw [if_neg]
  simp only [List.all_eq_true, Prod.forall, not_forall]
  exact ⟨tier, l, TokenAllocationRecord.mem_entries.mpr hl, a, hal, by simp [hbad]⟩

/-- `append` to a tier the record does not hold adds the assignment
unchecked. -/
theorem append_of_getTier_none {r : TokenAllocationRecord} {a : TokenAssignment}
    (h : r.getTier a.tier = none) (key : RsaPublicKey) :
    r.append rsa a key = .ok (r.insert a.tier [a]) := by
  simp [TokenAllocationRecord.append, h]

/-- The search `append` makes hits, on a list strictly increasing in slot,
every slot the list holds. -/
theorem search_ok_of_slot {l : List TokenAssignment}
    (hsorted : l.Pairwise (fun x y => x.timeSlot < y.timeSlot)) {a b : TokenAssignment} (hb : b ∈ l)
    (hslot : b.timeSlot = a.timeSlot) :
    ∃ j, binarySearchBy (fun (t : TokenAssignment) => compare t.timeSlot a.timeSlot) l = .ok j := by
  have hle : l.Pairwise (fun x y => x.timeSlot.nanos ≤ y.timeSlot.nanos) :=
    hsorted.imp fun h => le_of_lt h
  rw [← hslot]
  exact binarySearchBy_ok_of_mem (fun x : TokenAssignment => x.timeSlot.nanos) hle hb

/-- A record whose list of a tier is sorted holds every assignment whose
slot the list holds. -/
theorem assignmentExists_of_slot {r : TokenAllocationRecord} {a b : TokenAssignment}
    {l : List TokenAssignment} (hl : r.getTier a.tier = some l)
    (hsorted : l.Pairwise (fun x y => x.timeSlot < y.timeSlot)) (hb : b ∈ l)
    (hslot : b.timeSlot = a.timeSlot) : r.assignmentExists a = true := by
  obtain ⟨j, hsearch⟩ := search_ok_of_slot hsorted hb hslot
  simp only [TokenAllocationRecord.assignmentExists, hl, hsearch]
  rfl

/-- `append` refuses an assignment whose slot the sorted list of its tier
already holds. -/
theorem append_of_slot_taken {r : TokenAllocationRecord} {a b : TokenAssignment}
    {l : List TokenAssignment} (hl : r.getTier a.tier = some l)
    (hsorted : l.Pairwise (fun x y => x.timeSlot < y.timeSlot)) (hb : b ∈ l)
    (hslot : b.timeSlot = a.timeSlot) (key : RsaPublicKey) :
    r.append rsa a key = .error (.allocatedSlot a.tier a.timeSlot) := by
  obtain ⟨j, hsearch⟩ := search_ok_of_slot hsorted hb hslot
  simp [TokenAllocationRecord.append, hl, hsearch]

/-- On a tier the record holds, `append` keeps the slots unique and valid:
on the sorted list the search misses only a slot the list does not hold,
and the assignment is checked before it is added. -/
theorem append_slotsUnique {key : RsaPublicKey} {r r' : TokenAllocationRecord}
    {a : TokenAssignment} {l : List TokenAssignment} (hr : SlotsUnique rsa key r)
    (hl : r.getTier a.tier = some l) (h : r.append rsa a key = .ok r') : SlotsUnique rsa key r' := by
  obtain ⟨hvalid, hsorted⟩ := hr a.tier l hl
  simp only [TokenAllocationRecord.append, hl] at h
  split at h
  · next i hmiss =>
      split at h
      · next ha =>
          cases h
          -- the search missed, so the list does not hold the slot
          have hfree : ∀ b ∈ l, b.timeSlot.nanos ≠ a.timeSlot.nanos := by
            intro b hb hslot
            obtain ⟨j, hj⟩ := search_ok_of_slot hsorted hb (DateTime.ext hslot)
            rw [hj] at hmiss
            cases hmiss
          have hnodup : ((l ++ [a]).map (·.timeSlot.nanos)).Nodup := by
            have hl' : (l.map (·.timeSlot.nanos)).Nodup :=
              List.pairwise_map.mpr (hsorted.imp fun h => ne_of_lt h)
            simpa [List.nodup_append, hl'] using hfree
          intro tier l' hl'
          by_cases ht : tier = a.tier
          · subst ht
            rw [TokenAllocationRecord.getTier_insert_self] at hl'
            cases hl'
            refine ⟨fun x hx => ?_, sortUnstable_pairwise_lt hnodup⟩
            rcases List.mem_append.mp (mem_sortUnstable.mp hx) with hx | hx
            · exact hvalid x hx
            · rw [List.mem_singleton.mp hx]
              exact ha
          · rw [TokenAllocationRecord.getTier_insert_of_ne _ _ ht] at hl'
            exact hr tier l' hl'
      · cases h
  · cases h

/-- A single update is `updateOne`'s answer. -/
theorem updateState_singleton (params : TokenDelegateParameters) (r : TokenAllocationRecord)
    (u : TokenUpdate) : updateState rsa params r [u] = updateOne rsa params.generatorPublicKey r u := by
  simp only [updateState]
  split <;> simp_all

/-- A delta of a tier the record does not hold is added unchecked. -/
theorem updateState_delta_of_getTier_none {key : RsaPublicKey} {r : TokenAllocationRecord}
    {a : TokenAssignment} (h : r.getTier a.tier = none) :
    updateState rsa ⟨key⟩ r [.delta a] = some (.ok (r.insert a.tier [a])) := by
  rw [updateState_singleton]
  simp only [updateOne, append_of_getTier_none h]
  rfl

end Lemmas

/-- An assignment of the one-minute tier at the epoch, signed under
`echoScheme` with the key `[7]`. -/
def epochAssignment : TokenAssignment :=
  let hash := Bytes32.replicate 0
  ⟨.min1, ⟨0⟩, [7], echoScheme.sign [7] (TokenAssignment.signatureContent ⟨0⟩ .min1 hash), hash, hash⟩

/-- An assignment one nanosecond after the epoch, on no slot of the
one-minute tier. -/
def offSlotAssignment : TokenAssignment :=
  ⟨.min1, ⟨1⟩, [7], [], Bytes32.replicate 0, Bytes32.replicate 0⟩

theorem epochAssignment_isValid : epochAssignment.isValid echoScheme [7] = .ok () :=
  @TokenAssignment.isValid_of_sign echoScheme epochAssignment [7] (by decide) rfl

theorem append_slotsUnique_epoch :
    let r := TokenAllocationRecord.empty.insert epochAssignment.tier []
    SlotsUnique echoScheme [7] r ∧ r.getTier epochAssignment.tier = some [] ∧
      ∃ r', r.append echoScheme epochAssignment [7] = .ok r' ∧ SlotsUnique echoScheme [7] r' := by
  intro r
  have hr : SlotsUnique echoScheme [7] r := fun tier l hl => by
    obtain ⟨-, rfl⟩ := TokenAllocationRecord.eq_of_getTier_empty_insert hl
    simp
  have hl : r.getTier epochAssignment.tier = some [] := TokenAllocationRecord.getTier_insert_self _ _ _
  have happ : r.append echoScheme epochAssignment [7] =
      .ok (r.insert epochAssignment.tier (sortUnstable [epochAssignment])) := by
    simp only [TokenAllocationRecord.append, hl, epochAssignment_isValid, binarySearchBy]
    rw [searchFrom]
    rfl
  exact ⟨hr, hl, _, happ, append_slotsUnique hr hl happ⟩

section StateChecks

variable {rsa}

/-- `validate_state` accepts a record that holds one valid assignment twice,
and `update_state` adds an assignment that is not valid to a tier the
record does not hold: neither result keeps the slots unique and valid. -/
theorem slotsUnique_not_kept (key : RsaPublicKey) {a b : TokenAssignment}
    (ha : a.isValid rsa key = .ok ()) {S : TokenAllocationRecord} (hb : S.getTier b.tier = none)
    (hbad : b.isValid rsa key ≠ .ok ()) :
    (validateState rsa ⟨key⟩ (TokenAllocationRecord.empty.insert a.tier [a, a]) = .valid ∧
      ¬ SlotsUnique rsa key (TokenAllocationRecord.empty.insert a.tier [a, a])) ∧
    ∃ S', updateState rsa ⟨key⟩ S [.delta b] = some (.ok S') ∧ ¬ SlotsUnique rsa key S' := by
  refine ⟨⟨?_, ?_⟩, ?_⟩
  · refine validateState_eq_valid.mpr fun x hx => ?_
    obtain ⟨tier, l, hl, hxl⟩ := TokenAllocationRecord.mem_assignments.mp hx
    obtain ⟨-, rfl⟩ := TokenAllocationRecord.eq_of_getTier_empty_insert hl
    have hxa : x = a := by simpa using hxl
    rw [hxa, ha]
    rfl
  · -- the doubled assignment is not strictly after itself
    intro h
    have hpair := (h a.tier [a, a] (TokenAllocationRecord.getTier_insert_self _ _ _)).2
    exact lt_irrefl a.timeSlot.nanos (List.pairwise_cons.mp hpair |>.1 a (List.mem_singleton_self a))
  · refine ⟨S.insert b.tier [b], updateState_delta_of_getTier_none hb, fun h => ?_⟩
    exact hbad ((h b.tier [b] (TokenAllocationRecord.getTier_insert_self _ _ _)).1 b
      (List.mem_singleton_self b))

theorem slotsUnique_not_kept_epoch :
    SlotsUnique echoScheme [7] TokenAllocationRecord.empty ∧
    (validateState echoScheme ⟨[7]⟩
        (TokenAllocationRecord.empty.insert epochAssignment.tier [epochAssignment, epochAssignment]) =
          .valid ∧
      ¬ SlotsUnique echoScheme [7]
        (TokenAllocationRecord.empty.insert epochAssignment.tier [epochAssignment, epochAssignment])) ∧
    ∃ S', updateState echoScheme ⟨[7]⟩ TokenAllocationRecord.empty [.delta offSlotAssignment] =
      some (.ok S') ∧ ¬ SlotsUnique echoScheme [7] S' :=
  ⟨fun _ _ h => by simp at h,
    slotsUnique_not_kept [7] epochAssignment_isValid rfl
      (by rw [TokenAssignment.isValid_of_invalidSlot (by decide)]; simp)⟩

/-- Merging a record that keeps its slots unique with itself is refused: the
first assignment `merge` appends is found in its own tier's list. -/
theorem merge_with_itself_refused (key : RsaPublicKey) {A : TokenAllocationRecord}
    (hA : SlotsUnique rsa key A) (htier : ∀ tier l, A.getTier tier = some l → ∀ a ∈ l, a.tier = tier)
    (hne : A.assignments ≠ []) :
    validateState rsa ⟨key⟩ A = .valid ∧
      ∃ b ∈ A.assignments, updateState rsa ⟨key⟩ A [.state A] =
        some (.error (.invalidUpdateWithInfo (.allocatedSlot b.tier b.timeSlot))) := by
  refine ⟨validateState_of_slotsUnique hA, ?_⟩
  obtain ⟨b, rest, hbs⟩ := List.exists_cons_of_ne_nil hne
  have hb : b ∈ A.assignments := by
    rw [hbs]
    exact List.mem_cons_self
  obtain ⟨tier, l, hl, hbl⟩ := TokenAllocationRecord.mem_assignments.mp hb
  have hbtier : b.tier = tier := htier tier l hl b hbl
  have happend : A.append rsa b key = .error (.allocatedSlot b.tier b.timeSlot) :=
    append_of_slot_taken (by rw [hbtier]; exact hl) (hA tier l hl).2 hbl rfl key
  refine ⟨b, hb, ?_⟩
  rw [updateState_singleton]
  simp only [updateOne, TokenAllocationRecord.merge, hbs, List.foldlM_cons, happend]
  rfl

theorem merge_with_itself_refused_epoch :
    SlotsUnique echoScheme [7] (TokenAllocationRecord.empty.insert .min1 [epochAssignment]) ∧
    validateState echoScheme ⟨[7]⟩ (TokenAllocationRecord.empty.insert .min1 [epochAssignment]) = .valid ∧
      ∃ b ∈ (TokenAllocationRecord.empty.insert .min1 [epochAssignment]).assignments,
        updateState echoScheme ⟨[7]⟩ (TokenAllocationRecord.empty.insert .min1 [epochAssignment])
          [.state (TokenAllocationRecord.empty.insert .min1 [epochAssignment])] =
        some (.error (.invalidUpdateWithInfo (.allocatedSlot b.tier b.timeSlot))) := by
  have hA : SlotsUnique echoScheme [7] (TokenAllocationRecord.empty.insert .min1 [epochAssignment]) := by
    intro tier l hl
    obtain ⟨-, rfl⟩ := TokenAllocationRecord.eq_of_getTier_empty_insert hl
    exact ⟨by simpa using epochAssignment_isValid, List.pairwise_singleton _ _⟩
  have htier : ∀ tier l, (TokenAllocationRecord.empty.insert .min1 [epochAssignment]).getTier tier = some l →
      ∀ a ∈ l, a.tier = tier := by
    intro tier l hl a ha
    obtain ⟨rfl, rfl⟩ := TokenAllocationRecord.eq_of_getTier_empty_insert hl
    rw [List.mem_singleton.mp ha]
    rfl
  exact ⟨hA, merge_with_itself_refused [7] hA htier (by decide)⟩

end StateChecks

end FreenetCore.Antiflood
