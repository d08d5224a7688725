import FreenetCore.Antiflood.Codec
import FreenetCore.Antiflood.AllocationContract
import FreenetCore.Lib.KeyedList

/-!
The email application's inbox contract (`freenet-email-app/contracts/inbox`).

An inbox holds messages, each carrying an anti-flood token assignment; the
owner signs `STATE_UPDATE` once, and every update checks that signature
against the parameters' key. `update_state` takes a list of updates: a full
state is merged (`merge`), a delta is an `UpdateInbox` command, and a
related state is the allocation record of a token contract. Messages added
by a delta must have their token in the record supplied for them
(`add_messages`); messages taken from a merged state are only checked with
`is_valid` (`add_message`).

States, deltas, summaries and parameters are JSON (`SerdeJson.Value`), as
the contract reads and writes them with `serde_json`; the codecs of its
types are the derived ones. A `HashMap` of records is a function, a
`HashSet` of hashes a list. `serde_json::to_vec`, whose bytes the owner
signs for a change of settings, is the writer `write`; `unreachable!()` is
the `none` of `updateState`.
-/

namespace FreenetCore.EmailApp

open SerdeJson Civil Crypto FreenetCore.Antiflood FreenetCore.Stdlib FreenetCore.Contract
  FreenetCore.WasmRuntime

/-- `STATE_UPDATE`: the bytes the inbox's owner signs. -/
def stateUpdate : List UInt8 := [168, 7, 13, 64, 168, 123, 142, 215]

/-- `InboxParams`. -/
structure InboxParams where
  pubKey : RsaPublicKey

/-- `InboxSettings`; `privateData` is the field `private`. -/
structure InboxSettings where
  minimumTier : Tier
  privateData : List UInt8

/-- `Message`: encrypted content and the token paying for it. -/
structure Message where
  content : List UInt8
  tokenAssignment : TokenAssignment

/-- `Inbox`. -/
structure Inbox where
  messages : List Message
  lastUpdate : DateTime
  settings : InboxSettings
  inboxSignature : List UInt8

/-- `UpdateInbox`, the delta's commands. -/
inductive UpdateInbox
  | addMessages (messages : List Message)
  | removeMessages (signature : List UInt8) (ids : List Bytes32)
  | modifySettings (signature : List UInt8) (settings : InboxSettings)

/-- `VerificationError`. -/
inductive VerificationError
  | missingContracts (ids : List Bytes32)
  | tokenAssignmentMismatch
  | invalidToken (reason : InvalidReason)
  | wrongSignature

section Codecs

variable (leaf : LeafCodecs)

def inboxParamsCodec : Codec InboxParams where
  encode p := .object [("pub_key", leaf.publicKey.encode p.pubKey)]
  decode := decodeObject fun members => do
    let pubKey ← field members "pub_key" leaf.publicKey
    pure ⟨pubKey⟩
  decode_encode p := by simp

/-- `private` is left out when it is empty, and is empty when it is left
out. -/
def inboxSettingsCodec : Codec InboxSettings where
  encode s := .object <| ("minimum_tier", tierCodec.encode s.minimumTier) ::
    if s.privateData.isEmpty then [] else [("private", Codec.bytes.encode s.privateData)]
  decode := decodeObject fun members => do
    let minimumTier ← field members "minimum_tier" tierCodec
    let privateData ← fieldOr members "private" Codec.bytes []
    pure ⟨minimumTier, privateData⟩
  decode_encode s := by
    obtain ⟨minimumTier, privateData⟩ := s
    cases privateData with
    | nil => simp [fieldOr, List.lookup_cons]
    | cons b bs => simp [fieldOr, List.lookup_cons]

def messageCodec : Codec Message where
  encode m := .object
    [("content", Codec.bytes.encode m.content),
      ("token_assignment", (tokenAssignmentCodec leaf).encode m.tokenAssignment)]
  decode := decodeObject fun members => do
    let content ← field members "content" Codec.bytes
    let tokenAssignment ← field members "token_assignment" (tokenAssignmentCodec leaf)
    pure ⟨content, tokenAssignment⟩
  decode_encode m := by simp [field, List.lookup_cons]

def inboxCodec : Codec Inbox where
  encode i := .object
    [("messages", (Codec.list (messageCodec leaf)).encode i.messages),
      ("last_update", leaf.dateTime.encode i.lastUpdate),
      ("settings", inboxSettingsCodec.encode i.settings),
      ("inbox_signature", Codec.bytes.encode i.inboxSignature)]
  decode := decodeObject fun members => do
    let messages ← field members "messages" (Codec.list (messageCodec leaf))
    let lastUpdate ← field members "last_update" leaf.dateTime
    let settings ← field members "settings" inboxSettingsCodec
    let inboxSignature ← field members "inbox_signature" Codec.bytes
    pure ⟨messages, lastUpdate, settings, inboxSignature⟩
  decode_encode i := by simp [field, List.lookup_cons]

/-- The variants of `UpdateInbox`, by name. -/
def updateInboxVariant : String → Option (Value → Except Error UpdateInbox)
  | "AddMessages" => some <| decodeObject fun members => do
      let messages ← field members "messages" (Codec.list (messageCodec leaf))
      pure (.addMessages messages)
  | "RemoveMessages" => some <| decodeObject fun members => do
      let signature ← field members "signature" Codec.bytes
      let ids ← field members "ids" (Codec.list bytes32Codec)
      pure (.removeMessages signature ids)
  | "ModifySettings" => some <| decodeObject fun members => do
      let signature ← field members "signature" Codec.bytes
      let settings ← field members "settings" inboxSettingsCodec
      pure (.modifySettings signature settings)
  | _ => none

def updateInboxCodec : Codec UpdateInbox where
  encode
    | .addMessages messages =>
        .object [("AddMessages", .object [("messages", (Codec.list (messageCodec leaf)).encode messages)])]
    | .removeMessages signature ids =>
        .object [("RemoveMessages", .object
          [("signature", Codec.bytes.encode signature), ("ids", (Codec.list bytes32Codec).encode ids)])]
    | .modifySettings signature settings =>
        .object [("ModifySettings", .object
          [("signature", Codec.bytes.encode signature), ("settings", inboxSettingsCodec.encode settings)])]
  decode := decodeEnum (updateInboxVariant leaf)
  decode_encode u := by
    cases u <;> simp [decodeEnum_variant, updateInboxVariant, field, List.lookup_cons]

/-- `InboxSummary`, the set of the messages' assignment hashes. -/
def inboxSummaryCodec : Codec (List Bytes32) := Codec.list bytes32Codec

end Codecs

variable (rsa : SignatureScheme RsaPrivateKey RsaPublicKey)

namespace Inbox

/-- `Inbox::sign`. -/
def sign (key : RsaPrivateKey) : List UInt8 := rsa.sign key stateUpdate

/-- `Inbox::verify`. -/
def verify (params : InboxParams) (inbox : Inbox) : Except VerificationError Unit :=
  if rsa.verify params.pubKey stateUpdate inbox.inboxSignature then .ok () else .error .wrongSignature

/-- `Inbox::add_message`: a message whose token is valid under its own
generator's key. -/
def addMessage (inbox : Inbox) (message : Message) : Except VerificationError Inbox :=
  match message.tokenAssignment.isValid rsa message.tokenAssignment.generator with
  | .ok () => .ok { inbox with messages := inbox.messages ++ [message] }
  | .error e => .error (.invalidToken e)

/-- `Inbox::add_messages`: each message's token must be in the record of
its token contract. -/
def addMessages (inbox : Inbox) (allocationRecords : Bytes32 → Option TokenAllocationRecord)
    (messages : List Message) : Except VerificationError Inbox :=
  messages.foldlM
    (fun inbox message =>
      match allocationRecords message.tokenAssignment.tokenRecord with
      | none => .error (.missingContracts [message.tokenAssignment.tokenRecord])
      | some records =>
          if records.assignmentExists message.tokenAssignment then inbox.addMessage rsa message
          else .error .tokenAssignmentMismatch)
    inbox

/-- The loop of `Inbox::verify_messages`: once a record is missing, the
later messages are only searched for missing records. -/
def verifyMessagesFrom (allocationRecords : Bytes32 → Option TokenAllocationRecord) :
    Bool → List Bytes32 → List Message → Except VerificationError Unit
  | _, missing, [] => if missing.isEmpty then .ok () else .error (.missingContracts missing)
  | someMissing, missing, message :: rest =>
      match allocationRecords message.tokenAssignment.tokenRecord with
      | none => verifyMessagesFrom allocationRecords true (missing ++ [message.tokenAssignment.tokenRecord]) rest
      | some records =>
          if someMissing then verifyMessagesFrom allocationRecords someMissing missing rest
          else if !records.assignmentExists message.tokenAssignment then .error .tokenAssignmentMismatch
          else match message.tokenAssignment.isValid rsa message.tokenAssignment.generator with
            | .error e => .error (.invalidToken e)
            | .ok () => verifyMessagesFrom allocationRecords someMissing missing rest

/-- `Inbox::verify_messages`. -/
def verifyMessages (inbox : Inbox) (allocationRecords : Bytes32 → Option TokenAllocationRecord) :
    Except VerificationError Unit :=
  verifyMessagesFrom rsa allocationRecords false [] inbox.messages

/-- `Inbox::remove_messages`. -/
def removeMessages (inbox : Inbox) (ids : List Bytes32) : Inbox :=
  { inbox with messages := inbox.messages.filter fun m => !ids.contains m.tokenAssignment.assignmentHash }

/-- `Inbox::summarize`: the set of the messages' assignment hashes. -/
def summarize (inbox : Inbox) : List Bytes32 :=
  (inbox.messages.map (·.tokenAssignment.assignmentHash)).dedup

/-- `Inbox::merge`: the other inbox's messages are taken only into an empty
inbox older than it. -/
def merge (inbox other : Inbox) : Except VerificationError Inbox :=
  if inbox.messages.isEmpty && decide (inbox.lastUpdate < other.lastUpdate) then
    other.messages.foldlM (addMessage rsa) inbox
  else .ok inbox

/-- `Inbox::delta`: the messages whose hash the summary lacks. -/
def delta (inbox : Inbox) (summary : List Bytes32) : Inbox :=
  { inbox with messages := inbox.messages.filter fun m => !summary.contains m.tokenAssignment.assignmentHash }

end Inbox

section Contract

variable (leaf : LeafCodecs) (write : Value → List UInt8)

/-- `can_reemove_messages`: the owner's signature over the hashes. -/
def canRemoveMessages (params : InboxParams) (signature : List UInt8) (hashes : List Bytes32) :
    Except (ContractError VerificationError) Unit :=
  if rsa.verify params.pubKey (hashes.flatMap (·.val)) signature then .ok () else .error .invalidUpdate

/-- `can_update_settings`: the owner's signature over the settings' JSON. -/
def canUpdateSettings (params : InboxParams) (signature : List UInt8) (settings : InboxSettings) :
    Except (ContractError VerificationError) Unit :=
  if rsa.verify params.pubKey (write (inboxSettingsCodec.encode settings)) signature then .ok ()
  else .error .invalidUpdate

/-- An update the contract is given: its state, delta and related state
as JSON. -/
abbrev InboxUpdate := UpdateData Value Value Value

/-- The variables of `update_state`'s loop. -/
structure UpdateAcc where
  inbox : Inbox
  missingRelated : List Bytes32
  newMessages : List Message
  rmMessages : List Bytes32
  allocationRecords : Bytes32 → Option TokenAllocationRecord

/-- One update of `update_state`'s loop. A merge's error is a
`VerificationError` turned into `InvalidUpdate`. -/
def updateStep (params : InboxParams) (acc : UpdateAcc) :
    InboxUpdate → Option (Except (ContractError VerificationError) UpdateAcc)
  | .state state => some do
      let fullInbox ← ((inboxCodec leaf).decode state).mapError .deser
      let inbox ← (acc.inbox.merge rsa fullInbox).mapError fun _ => .invalidUpdate
      pure { acc with inbox := inbox }
  | .delta d => some do
      match ← ((updateInboxCodec leaf).decode d).mapError .deser with
      | .addMessages messages =>
          pure { acc with
            missingRelated := acc.missingRelated ++ messages.map (·.tokenAssignment.tokenRecord)
            newMessages := acc.newMessages ++ messages }
      | .removeMessages signature ids => do
          canRemoveMessages rsa params signature ids
          pure { acc with rmMessages := acc.rmMessages ++ ids }
      | .modifySettings signature settings => do
          canUpdateSettings rsa write params signature settings
          pure { acc with inbox := { acc.inbox with settings := settings } }
  | .relatedState relatedTo state => some do
      let tokenRecord ← ((tokenAllocationRecordCodec leaf).decode state).mapError .deser
      pure { acc with allocationRecords := Function.update acc.allocationRecords relatedTo (some tokenRecord) }
  | .stateAndDelta .. | .relatedDelta .. | .relatedStateAndDelta .. => none

/-- `update_state`'s loop over the updates, stopping at the first error. -/
def updateLoop (params : InboxParams) :
    UpdateAcc → List InboxUpdate → Option (Except (ContractError VerificationError) UpdateAcc)
  | acc, [] => some (.ok acc)
  | acc, u :: us =>
      match updateStep rsa leaf write params acc u with
      | some (.ok acc') => updateLoop params acc' us
      | res => res

/-- The end of `update_state`: the new messages are added once every record
they need was supplied, and the inbox is written back. -/
def finishUpdate (acc : UpdateAcc) :
    Except (ContractError VerificationError) (UpdateModification Value) :=
  let missingRelated := acc.missingRelated.filter fun missing => (acc.allocationRecords missing).isNone
  if missingRelated.isEmpty then do
    let inbox ← (acc.inbox.addMessages rsa acc.allocationRecords acc.newMessages).mapError .other
    let inbox := inbox.removeMessages acc.rmMessages
    pure (.valid ((inboxCodec leaf).encode inbox))
  else pure (.requires (missingRelated.map (·, .stateOnce)))

/-- The start of `update_state` and `validate_state`: the inbox and the
parameters decoded, and the owner's signature checked. -/
def openInbox (params state : Value) : Except (ContractError VerificationError) (Inbox × InboxParams) := do
  let inbox ← ((inboxCodec leaf).decode state).mapError .deser
  let params ← ((inboxParamsCodec leaf).decode params).mapError .deser
  (inbox.verify rsa params).mapError fun _ => .invalidUpdate
  pure (inbox, params)

/-- `Inbox::update_state`. -/
def updateState (params state : Value) (updates : List InboxUpdate) :
    Option (Except (ContractError VerificationError) (UpdateModification Value)) :=
  match openInbox rsa leaf params state with
  | .error e => some (.error e)
  | .ok (inbox, params) =>
      match updateLoop rsa leaf write params ⟨inbox, [], [], [], fun _ => none⟩ updates with
      | some (.ok acc) => some (finishUpdate rsa leaf acc)
      | some (.error e) => some (.error e)
      | none => none

/-- The related states `validate_state` is given (`none` for a contract
the node does not have): the contracts missing, and the records of the
others. -/
def relatedRecords (related : List (Bytes32 × Option Value)) :
    Except (ContractError VerificationError) (List Bytes32 × (Bytes32 → Option TokenAllocationRecord)) :=
  related.foldlM
    (fun (acc : List Bytes32 × (Bytes32 → Option TokenAllocationRecord)) (entry : Bytes32 × Option Value) =>
      match entry.2 with
      | none => pure (acc.1 ++ [entry.1], acc.2)
      | some state => do
          let tokenRecord ← ((tokenAllocationRecordCodec leaf).decode state).mapError .deser
          pure (acc.1, Function.update acc.2 entry.1 (some tokenRecord)))
    ([], fun _ => none)

/-- `Inbox::validate_state`. -/
def validateState (params state : Value) (related : List (Bytes32 × Option Value)) :
    Except (ContractError VerificationError) ValidateResult := do
  let (inbox, _) ← openInbox rsa leaf params state
  let (missingRelated, allocationRecords) ← relatedRecords leaf related
  if !missingRelated.isEmpty then pure (.requestRelated missingRelated)
  else
    match inbox.verifyMessages rsa allocationRecords with
    | .ok () => pure .valid
    | .error (.missingContracts ids) => pure (.requestRelated ids)
    | .error _ => pure .invalid

/-- `Inbox::validate_delta`: whether the delta is an `UpdateInbox`. -/
def validateDelta (delta : Value) : Bool := ((updateInboxCodec leaf).decode delta).isOk

/-- `Inbox::summarize_state`. -/
def summarizeState (state : Value) : Except (ContractError VerificationError) Value := do
  let inbox ← ((inboxCodec leaf).decode state).mapError .deser
  pure (inboxSummaryCodec.encode inbox.summarize)

/-- `Inbox::get_state_delta`: the state's messages the summary lacks, as
an `Inbox`. -/
def getStateDelta (state summary : Value) : Except (ContractError VerificationError) Value := do
  let inbox ← ((inboxCodec leaf).decode state).mapError .deser
  let summary ← (inboxSummaryCodec.decode summary).mapError .deser
  pure ((inboxCodec leaf).encode (inbox.delta summary))

end Contract

section Lemmas

variable {rsa} {leaf : LeafCodecs} {write : Value → List UInt8}

theorem openInbox_encode {params : InboxParams} {inbox : Inbox} (hsig : inbox.verify rsa params = .ok ()) :
    openInbox rsa leaf ((inboxParamsCodec leaf).encode params) ((inboxCodec leaf).encode inbox) =
      .ok (inbox, params) := by
  simp [openInbox, hsig]

/-- `update_state` on an inbox whose owner's signature checks out: the loop
from the empty accumulator, finished where it stops. -/
theorem updateState_encode {params : InboxParams} {inbox : Inbox} (hsig : inbox.verify rsa params = .ok ())
    (updates : List InboxUpdate) :
    updateState rsa leaf write ((inboxParamsCodec leaf).encode params) ((inboxCodec leaf).encode inbox) updates =
      (updateLoop rsa leaf write params ⟨inbox, [], [], [], fun _ => none⟩ updates).map
        (· >>= finishUpdate rsa leaf) := by
  simp only [updateState, openInbox_encode hsig]
  cases updateLoop rsa leaf write params ⟨inbox, [], [], [], fun _ => none⟩ updates with
  | none => rfl
  | some r => cases r <;> rfl

theorem updateLoop_cons_of_ok {params : InboxParams} {acc acc' : UpdateAcc} {u : InboxUpdate}
    (h : updateStep rsa leaf write params acc u = some (.ok acc')) (us : List InboxUpdate) :
    updateLoop rsa leaf write params acc (u :: us) = updateLoop rsa leaf write params acc' us := by
  simp only [updateLoop, h]

theorem updateLoop_cons_of_error {params : InboxParams} {acc : UpdateAcc} {u : InboxUpdate}
    {e : ContractError VerificationError} (h : updateStep rsa leaf write params acc u = some (.error e))
    (us : List InboxUpdate) :
    updateLoop rsa leaf write params acc (u :: us) = some (.error e) := by
  simp only [updateLoop, h]

theorem updateStep_relatedState (params : InboxParams) (acc : UpdateAcc) (relatedTo : Bytes32)
    (r : TokenAllocationRecord) :
    updateStep rsa leaf write params acc (.relatedState relatedTo ((tokenAllocationRecordCodec leaf).encode r)) =
      some (.ok { acc with allocationRecords := Function.update acc.allocationRecords relatedTo (some r) }) := by
  simp [updateStep]

theorem updateStep_addMessages (params : InboxParams) (acc : UpdateAcc) (messages : List Message) :
    updateStep rsa leaf write params acc (.delta ((updateInboxCodec leaf).encode (.addMessages messages))) =
      some (.ok { acc with
        missingRelated := acc.missingRelated ++ messages.map (·.tokenAssignment.tokenRecord)
        newMessages := acc.newMessages ++ messages }) := by
  simp [updateStep]
  rfl

/-- A removal signed by the owner over the hashes is recorded, to be
applied after the additions. -/
theorem updateStep_removeMessages {params : InboxParams} (acc : UpdateAcc) {signature : List UInt8}
    {ids : List Bytes32} (h : rsa.verify params.pubKey (ids.flatMap (·.val)) signature = true) :
    updateStep rsa leaf write params acc (.delta ((updateInboxCodec leaf).encode (.removeMessages signature ids))) =
      some (.ok { acc with rmMessages := acc.rmMessages ++ ids }) := by
  have hcan : canRemoveMessages rsa params signature ids = .ok () := by
    rw [canRemoveMessages, if_pos h]
  simp [updateStep, hcan]

/-- Messages whose tokens are all valid are appended in order. -/
theorem foldlM_addMessage_of_valid {ms : List Message}
    (hvalid : ∀ m ∈ ms, m.tokenAssignment.isValid rsa m.tokenAssignment.generator = .ok ()) (inbox : Inbox) :
    ms.foldlM (Inbox.addMessage rsa) inbox = .ok { inbox with messages := inbox.messages ++ ms } := by
  induction ms generalizing inbox with
  | nil =>
      simp only [List.foldlM_nil, List.append_nil]
      rfl
  | cons m ms ih =>
      have hm := hvalid m List.mem_cons_self
      have hrest := ih (fun m' hm' => hvalid m' (List.mem_cons_of_mem m hm'))
      simp [List.foldlM_cons, Inbox.addMessage, hm, hrest]

/-- A non-empty inbox takes nothing from a merged state. -/
theorem merge_of_ne_nil {inbox : Inbox} (h : inbox.messages ≠ []) (other : Inbox) :
    inbox.merge rsa other = .ok inbox := by
  simp [Inbox.merge, h]

theorem updateStep_state_of_ne_nil (params : InboxParams) {acc : UpdateAcc}
    (h : acc.inbox.messages ≠ []) (other : Inbox) :
    updateStep rsa leaf write params acc (.state ((inboxCodec leaf).encode other)) = some (.ok acc) := by
  simp [updateStep, merge_of_ne_nil h]

/-- An inbox read as an `UpdateInbox` is refused: its first member,
`messages`, names no variant. -/
theorem decode_inbox_as_update (inbox : Inbox) :
    (updateInboxCodec leaf).decode ((inboxCodec leaf).encode inbox) = .error "unknown variant messages" := by
  dsimp only [updateInboxCodec, inboxCodec]
  rw [decodeEnum_unknown rfl]
  rfl

/-- A delta that is an inbox stops the loop with that error. -/
theorem updateStep_delta_inbox (params : InboxParams) (acc : UpdateAcc) (inbox : Inbox) :
    updateStep rsa leaf write params acc (.delta ((inboxCodec leaf).encode inbox)) =
      some (.error (.deser "unknown variant messages")) := by
  simp only [updateStep, decode_inbox_as_update, mapError_error, error_bind]

/-- A message whose token the supplied record holds and which is valid is
added. -/
theorem addMessages_singleton {inbox : Inbox} {records : Bytes32 → Option TokenAllocationRecord}
    {m : Message} {r : TokenAllocationRecord} (hr : records m.tokenAssignment.tokenRecord = some r)
    (hexists : r.assignmentExists m.tokenAssignment = true)
    (hvalid : m.tokenAssignment.isValid rsa m.tokenAssignment.generator = .ok ()) :
    inbox.addMessages rsa records [m] = .ok { inbox with messages := inbox.messages ++ [m] } := by
  simp [Inbox.addMessages, hr, hexists, Inbox.addMessage, hvalid]

@[simp] theorem removeMessages_nil (inbox : Inbox) : inbox.removeMessages [] = inbox := by
  simp [Inbox.removeMessages]

/-- Removing messages keeps the owner's signature. -/
@[simp] theorem verify_removeMessages (params : InboxParams) (inbox : Inbox) (ids : List Bytes32) :
    (inbox.removeMessages ids).verify rsa params = inbox.verify rsa params := rfl

/-- Once every record the new messages need is supplied, `update_state`
writes back the inbox with them added. -/
theorem finishUpdate_of_supplied {acc : UpdateAcc}
    (hsupplied : ∀ id ∈ acc.missingRelated, (acc.allocationRecords id).isSome) {inbox : Inbox}
    (hadd : acc.inbox.addMessages rsa acc.allocationRecords acc.newMessages = .ok inbox) :
    finishUpdate rsa leaf acc = .ok (.valid ((inboxCodec leaf).encode (inbox.removeMessages acc.rmMessages))) := by
  have hnone : acc.missingRelated.filter (fun missing => (acc.allocationRecords missing).isNone) = [] := by
    rw [List.filter_eq_nil_iff]
    intro id hid
    have hsome := hsupplied id hid
    rw [Option.isSome_iff_ne_none] at hsome
    simpa using hsome
  simp [finishUpdate, hnone, hadd]

/-- A message whose token record is supplied before it, its token in the
record and valid, is added by `update_state`. -/
theorem updateState_addMessage_supplied (params : InboxParams) {S : Inbox}
    (hsig : S.verify rsa params = .ok ()) {m : Message} {r : TokenAllocationRecord}
    (hexists : r.assignmentExists m.tokenAssignment = true)
    (hvalid : m.tokenAssignment.isValid rsa m.tokenAssignment.generator = .ok ()) :
    updateState rsa leaf write ((inboxParamsCodec leaf).encode params) ((inboxCodec leaf).encode S)
        [.relatedState m.tokenAssignment.tokenRecord ((tokenAllocationRecordCodec leaf).encode r),
          .delta ((updateInboxCodec leaf).encode (.addMessages [m]))] =
      some (.ok (.valid ((inboxCodec leaf).encode { S with messages := S.messages ++ [m] }))) := by
  have hadd : S.addMessages rsa (Function.update (fun _ => none) m.tokenAssignment.tokenRecord (some r)) [m] =
      .ok { S with messages := S.messages ++ [m] } :=
    addMessages_singleton (by simp) hexists hvalid
  have hfinish : finishUpdate rsa leaf ⟨S, [m.tokenAssignment.tokenRecord], [m], [],
        Function.update (fun _ => none) m.tokenAssignment.tokenRecord (some r)⟩ =
      .ok (.valid ((inboxCodec leaf).encode ({ S with messages := S.messages ++ [m] }.removeMessages []))) :=
    finishUpdate_of_supplied (by simp) hadd
  rw [updateState_encode hsig, updateLoop_cons_of_ok (updateStep_relatedState params _ _ r),
    updateLoop_cons_of_ok (updateStep_addMessages params _ [m])]
  simp only [updateLoop, Option.map_some, ok_bind, List.nil_append, List.map_cons, List.map_nil]
  rw [hfinish, removeMessages_nil]

theorem summarizeState_encode (inbox : Inbox) :
    summarizeState leaf ((inboxCodec leaf).encode inbox) = .ok (inboxSummaryCodec.encode inbox.summarize) := by
  simp [summarizeState]

theorem getStateDelta_encode (inbox : Inbox) (summary : List Bytes32) :
    getStateDelta leaf ((inboxCodec leaf).encode inbox) (inboxSummaryCodec.encode summary) =
      .ok ((inboxCodec leaf).encode (inbox.delta summary)) := by
  simp [getStateDelta]

/-- A merged state goes through `merge`, and the inbox it leaves is written
back; a failed merge is an `InvalidUpdate`. -/
theorem updateState_state (params : InboxParams) {A : Inbox} (hsig : A.verify rsa params = .ok ())
    (B : Inbox) :
    updateState rsa leaf write ((inboxParamsCodec leaf).encode params) ((inboxCodec leaf).encode A)
        [.state ((inboxCodec leaf).encode B)] =
      some (((A.merge rsa B).mapError fun _ => .invalidUpdate).map
        fun inbox => .valid ((inboxCodec leaf).encode inbox)) := by
  rw [updateState_encode hsig]
  cases hm : A.merge rsa B with
  | error e => simp [updateLoop, updateStep, hm, Except.map]
  | ok inbox =>
      have hfinish : finishUpdate rsa leaf ⟨inbox, [], [], [], fun _ => none⟩ =
          .ok (.valid ((inboxCodec leaf).encode (inbox.removeMessages []))) :=
        finishUpdate_of_supplied (by simp) rfl
      simp [updateLoop, updateStep, hm, hfinish, Except.map]

/-- A state merged into a non-empty inbox leaves it as it is. -/
theorem updateState_state_of_ne_nil (params : InboxParams) {A : Inbox}
    (hsig : A.verify rsa params = .ok ()) (hne : A.messages ≠ []) (B : Inbox) :
    updateState rsa leaf write ((inboxParamsCodec leaf).encode params) ((inboxCodec leaf).encode A)
        [.state ((inboxCodec leaf).encode B)] =
      some (.ok (.valid ((inboxCodec leaf).encode A))) := by
  have hstep : updateStep rsa leaf write params ⟨A, [], [], [], fun _ => none⟩
      (.state ((inboxCodec leaf).encode B)) = some (.ok ⟨A, [], [], [], fun _ => none⟩) :=
    updateStep_state_of_ne_nil params hne B
  have hfinish : finishUpdate rsa leaf ⟨A, [], [], [], fun _ => none⟩ =
      .ok (.valid ((inboxCodec leaf).encode (A.removeMessages []))) :=
    finishUpdate_of_supplied (by simp) rfl
  rw [updateState_encode hsig, updateLoop_cons_of_ok hstep]
  simp only [updateLoop, Option.map_some, ok_bind, hfinish, removeMessages_nil]

/-! ### Batches of changes -/

/-- A change an update list carries, before its encoding: a delta command,
or the allocation record of a token contract. -/
inductive InboxChange
  | delta (command : UpdateInbox)
  | related (relatedTo : Bytes32) (record : TokenAllocationRecord)

namespace InboxChange

/-- The update `update_state` is given for a change. -/
def toUpdate (leaf : LeafCodecs) : InboxChange → InboxUpdate
  | .delta command => .delta ((updateInboxCodec leaf).encode command)
  | .related relatedTo record => .relatedState relatedTo ((tokenAllocationRecordCodec leaf).encode record)

/-- The messages a change adds. -/
def added : InboxChange → List Message
  | .delta (.addMessages messages) => messages
  | _ => []

/-- The hashes a change removes. -/
def removed : InboxChange → List Bytes32
  | .delta (.removeMessages _ ids) => ids
  | _ => []

/-- The settings after a change. -/
def settingsAfter (settings : InboxSettings) : InboxChange → InboxSettings
  | .delta (.modifySettings _ settings') => settings'
  | _ => settings

end InboxChange

/-- What one change does to the loop's variables: settings at once, the
messages to add and the hashes to remove only noted. -/
theorem updateStep_change {params : InboxParams} {acc acc' : UpdateAcc} {c : InboxChange}
    (h : updateStep rsa leaf write params acc (c.toUpdate leaf) = some (.ok acc')) :
    acc'.inbox = { acc.inbox with settings := c.settingsAfter acc.inbox.settings } ∧
      acc'.newMessages = acc.newMessages ++ c.added ∧ acc'.rmMessages = acc.rmMessages ++ c.removed := by
  cases c with
  | related relatedTo record =>
      rw [InboxChange.toUpdate, updateStep_relatedState] at h
      cases h
      simp [InboxChange.settingsAfter, InboxChange.added, InboxChange.removed]
  | delta command =>
      cases command with
      | addMessages messages =>
          rw [InboxChange.toUpdate, updateStep_addMessages] at h
          cases h
          simp [InboxChange.settingsAfter, InboxChange.added, InboxChange.removed]
      | removeMessages signature ids =>
          simp only [InboxChange.toUpdate, updateStep, Codec.decode_encode, mapError_ok, ok_bind] at h
          cases hcan : canRemoveMessages rsa params signature ids with
          | error e => simp [hcan] at h
          | ok _ =>
              simp only [hcan, ok_bind] at h
              cases h
              simp [InboxChange.settingsAfter, InboxChange.added, InboxChange.removed]
      | modifySettings signature settings =>
          simp only [InboxChange.toUpdate, updateStep, Codec.decode_encode, mapError_ok, ok_bind] at h
          cases hcan : canUpdateSettings rsa write params signature settings with
          | error e => simp [hcan] at h
          | ok _ =>
              simp only [hcan, ok_bind] at h
              cases h
              simp [InboxChange.settingsAfter, InboxChange.added, InboxChange.removed]

/-- The loop over changes, by induction on them: the settings of the last
change that sets them, the messages of every addition, the hashes of every
removal, in order. -/
theorem updateLoop_changes {params : InboxParams} (cs : List InboxChange) :
    ∀ {acc acc' : UpdateAcc}, updateLoop rsa leaf write params acc (cs.map (·.toUpdate leaf)) = some (.ok acc') →
      acc'.inbox = { acc.inbox with settings := cs.foldl InboxChange.settingsAfter acc.inbox.settings } ∧
        acc'.newMessages = acc.newMessages ++ cs.flatMap InboxChange.added ∧
        acc'.rmMessages = acc.rmMessages ++ cs.flatMap InboxChange.removed := by
  induction cs with
  | nil =>
      intro acc acc' h
      cases h
      simp
  | cons c cs ih =>
      intro acc acc' h
      simp only [List.map_cons, updateLoop] at h
      split at h
      · rename_i acc₁ hstep
        obtain ⟨hinbox, hnew, hrm⟩ := updateStep_change hstep
        obtain ⟨hinbox', hnew', hrm'⟩ := ih h
        refine ⟨?_, ?_, ?_⟩
        · rw [hinbox', hinbox]
          rfl
        · rw [hnew', hnew, List.flatMap_cons, List.append_assoc]
        · rw [hrm', hrm, List.flatMap_cons, List.append_assoc]
      · rename_i hother
        exact absurd h (hother acc')

/-- Messages added one after the other are appended in order. -/
theorem addMessages_of_ok {inbox inbox' : Inbox} {records : Bytes32 → Option TokenAllocationRecord}
    {messages : List Message} (h : inbox.addMessages rsa records messages = .ok inbox') :
    inbox' = { inbox with messages := inbox.messages ++ messages } := by
  induction messages generalizing inbox with
  | nil =>
      cases h
      simp
  | cons m ms ih =>
      simp only [Inbox.addMessages, List.foldlM_cons] at h ih
      cases hm : (match records m.tokenAssignment.tokenRecord with
          | none => Except.error (VerificationError.missingContracts [m.tokenAssignment.tokenRecord])
          | some records =>
              if records.assignmentExists m.tokenAssignment then inbox.addMessage rsa m
              else .error .tokenAssignmentMismatch) with
      | error e => simp [hm] at h
      | ok inbox₁ =>
          rw [hm] at h
          -- the one message was appended
          have h₁ : inbox₁ = { inbox with messages := inbox.messages ++ [m] } := by
            split at hm
            · cases hm
            · split at hm
              · simp only [Inbox.addMessage] at hm
                split at hm <;> cases hm
                rfl
              · cases hm
          rw [ih h, h₁]
          simp

/-- A written-back inbox is the loop's inbox with the new messages added,
then the removals applied. -/
theorem finishUpdate_valid {acc : UpdateAcc} {v : Value} (h : finishUpdate rsa leaf acc = .ok (.valid v)) :
    v = (inboxCodec leaf).encode
      ({ acc.inbox with messages := acc.inbox.messages ++ acc.newMessages }.removeMessages acc.rmMessages) := by
  dsimp only [finishUpdate] at h
  split at h
  · cases hadd : acc.inbox.addMessages rsa acc.allocationRecords acc.newMessages with
    | error e => simp [hadd] at h
    | ok inbox =>
        simp only [hadd, mapError_ok, ok_bind] at h
        cases h
        rw [addMessages_of_ok hadd]
  · cases h

/-- A batch of changes that `update_state` accepts and writes back: the
inbox with the settings of the last change to them, every added message,
and then every removed hash taken out. -/
theorem updateState_changes_valid (params : InboxParams) {S : Inbox} (hsig : S.verify rsa params = .ok ())
    (cs : List InboxChange) {v : Value}
    (h : updateState rsa leaf write ((inboxParamsCodec leaf).encode params) ((inboxCodec leaf).encode S)
      (cs.map (·.toUpdate leaf)) = some (.ok (.valid v))) :
    v = (inboxCodec leaf).encode
      { S with settings := cs.foldl InboxChange.settingsAfter S.settings
               messages := (S.messages ++ cs.flatMap InboxChange.added).filter
                 fun m => !(cs.flatMap InboxChange.removed).contains m.tokenAssignment.assignmentHash } := by
  rw [updateState_encode hsig] at h
  cases hloop : updateLoop rsa leaf write params ⟨S, [], [], [], fun _ => none⟩ (cs.map (·.toUpdate leaf)) with
  | none => simp [hloop] at h
  | some r =>
      cases r with
      | error e => simp [hloop] at h
      | ok acc =>
          simp only [hloop, Option.map_some, ok_bind, Option.some.injEq] at h
          obtain ⟨hinbox, hnew, hrm⟩ := updateLoop_changes cs hloop
          rw [finishUpdate_valid h, hinbox, hnew, hrm]
          rfl

end Lemmas

/-- What the inbox should keep: every message carries a token that the
record of its token contract holds, that is valid, and whose assignment hash
is the hash of the message's content; and no two messages carry the same
token (the same record, tier and slot). -/
def MessagesBacked (hash : List UInt8 → Bytes32) (records : Bytes32 → Option TokenAllocationRecord)
    (S : Inbox) : Prop :=
  (∀ m ∈ S.messages, ∃ r, records m.tokenAssignment.tokenRecord = some r ∧
      r.assignmentExists m.tokenAssignment = true ∧
      m.tokenAssignment.isValid rsa m.tokenAssignment.generator = .ok () ∧
      m.tokenAssignment.assignmentHash = hash m.content) ∧
  S.messages.Pairwise fun m m' =>
    ¬ (m.tokenAssignment.tokenRecord = m'.tokenAssignment.tokenRecord ∧
      m.tokenAssignment.tier = m'.tokenAssignment.tier ∧
      m.tokenAssignment.timeSlot = m'.tokenAssignment.timeSlot)

/-- Codecs to evaluate the contract on: a time as its nanoseconds, a key as
its bytes. -/
def plainLeafCodecs : LeafCodecs where
  dateTime :=
    { encode := fun t => .number t.nanos
      decode := fun
        | .number n => .ok ⟨n⟩
        | _ => .error "invalid type: expected a time"
      decode_encode := fun _ => rfl }
  publicKey := Codec.bytes
  contractInstanceId := bytes32Codec

/-- A message paid for with `epochAssignment`. -/
def epochMessage : Message := ⟨[1], epochAssignment⟩

/-- An inbox of the owner with the key `[9]`, holding `epochMessage`. -/
def epochInbox : Inbox := ⟨[epochMessage], ⟨0⟩, ⟨.min30, []⟩, Inbox.sign echoScheme [9]⟩

/-- The records of the token contract of `epochAssignment`. -/
def epochRecords : Bytes32 → Option TokenAllocationRecord :=
  Function.update (fun _ => none) epochAssignment.tokenRecord
    (some (TokenAllocationRecord.empty.insert .min1 [epochAssignment]))

/-- An assignment of the one-minute tier a minute after the epoch, signed
like `epochAssignment`, with another hash. -/
def minuteAssignment : TokenAssignment :=
  let hash := Bytes32.replicate 1
  ⟨.min1, ⟨60 * nanosPerSec⟩, [7],
    echoScheme.sign [7] (TokenAssignment.signatureContent ⟨60 * nanosPerSec⟩ .min1 hash), hash,
    Bytes32.replicate 0⟩

/-- An inbox of the same owner, holding a message paid for with
`minuteAssignment`. -/
def minuteInbox : Inbox := ⟨[⟨[2], minuteAssignment⟩], ⟨0⟩, ⟨.min30, []⟩, Inbox.sign echoScheme [9]⟩

section Updates

variable {rsa} {leaf : LeafCodecs} {write : Value → List UInt8}

/-- A message already in the inbox is added again by a delta, with its
record supplied: nothing compares a new message's token with those the
inbox holds. -/
theorem token_reused_in_inbox (hash : List UInt8 → Bytes32) (params : InboxParams)
    {S : Inbox} {records : Bytes32 → Option TokenAllocationRecord}
    (hsig : S.verify rsa params = .ok ()) (hinv : MessagesBacked rsa hash records S)
    {m : Message} (hm : m ∈ S.messages) :
    ∃ r, records m.tokenAssignment.tokenRecord = some r ∧
      updateState rsa leaf write ((inboxParamsCodec leaf).encode params) ((inboxCodec leaf).encode S)
          [.relatedState m.tokenAssignment.tokenRecord ((tokenAllocationRecordCodec leaf).encode r),
            .delta ((updateInboxCodec leaf).encode (.addMessages [m]))] =
        some (.ok (.valid ((inboxCodec leaf).encode { S with messages := S.messages ++ [m] }))) ∧
      ¬ MessagesBacked rsa hash records { S with messages := S.messages ++ [m] } := by
  obtain ⟨r, hr, hexists, hvalid, -⟩ := hinv.1 m hm
  -- the record is supplied for `m`, so `add_messages` takes it again
  refine ⟨r, hr, updateState_addMessage_supplied params hsig hexists hvalid, ?_⟩
  -- `m` is in the inbox twice
  intro h
  obtain ⟨-, -, hdup⟩ := List.pairwise_append.mp h.2
  exact hdup m hm m (List.mem_singleton_self m) ⟨rfl, rfl, rfl⟩

theorem token_reused_in_inbox_epoch :
    MessagesBacked echoScheme (fun _ => Bytes32.replicate 0) epochRecords epochInbox ∧
    ∃ r, epochRecords epochMessage.tokenAssignment.tokenRecord = some r ∧
      updateState echoScheme plainLeafCodecs (fun _ => [])
          ((inboxParamsCodec plainLeafCodecs).encode ⟨[9]⟩) ((inboxCodec plainLeafCodecs).encode epochInbox)
          [.relatedState epochMessage.tokenAssignment.tokenRecord
              ((tokenAllocationRecordCodec plainLeafCodecs).encode r),
            .delta ((updateInboxCodec plainLeafCodecs).encode (.addMessages [epochMessage]))] =
        some (.ok (.valid ((inboxCodec plainLeafCodecs).encode
          { epochInbox with messages := epochInbox.messages ++ [epochMessage] }))) ∧
      ¬ MessagesBacked echoScheme (fun _ => Bytes32.replicate 0) epochRecords
        { epochInbox with messages := epochInbox.messages ++ [epochMessage] } := by
  have hinv : MessagesBacked echoScheme (fun _ => Bytes32.replicate 0) epochRecords epochInbox := by
    refine ⟨fun m hm => ?_, List.pairwise_singleton _ _⟩
    rw [List.mem_singleton.mp hm]
    exact ⟨_, Function.update_self _ _ _,
      assignmentExists_of_slot (TokenAllocationRecord.getTier_insert_self _ _ _)
        (List.pairwise_singleton _ _) (List.mem_singleton_self _) rfl,
      epochAssignment_isValid, rfl⟩
  exact ⟨hinv, token_reused_in_inbox _ ⟨[9]⟩ rfl hinv (List.mem_singleton_self epochMessage)⟩

/-- The delta that `get_state_delta` makes of another inbox for this
inbox's summary is an `Inbox`, and `update_state` reads a delta as an
`UpdateInbox`: it refuses the delta, so the synchronisation never applies. -/
theorem inbox_sync_delta_refused (params : InboxParams) {A : Inbox} (hsig : A.verify rsa params = .ok ())
    (B : Inbox) (rest : List InboxUpdate) :
    ∃ summary delta, summarizeState leaf ((inboxCodec leaf).encode A) = .ok summary ∧
      getStateDelta leaf ((inboxCodec leaf).encode B) summary = .ok delta ∧
      updateState rsa leaf write ((inboxParamsCodec leaf).encode params) ((inboxCodec leaf).encode A)
          (.delta delta :: rest) =
        some (.error (.deser "unknown variant messages")) := by
  refine ⟨_, _, summarizeState_encode A, getStateDelta_encode B A.summarize, ?_⟩
  rw [updateState_encode hsig, updateLoop_cons_of_error (updateStep_delta_inbox params _ (B.delta A.summarize)) rest]
  rfl

theorem inbox_sync_delta_refused_epoch :
    ∃ summary delta, summarizeState plainLeafCodecs ((inboxCodec plainLeafCodecs).encode epochInbox) =
        .ok summary ∧
      getStateDelta plainLeafCodecs ((inboxCodec plainLeafCodecs).encode minuteInbox) summary = .ok delta ∧
      updateState echoScheme plainLeafCodecs (fun _ => []) ((inboxParamsCodec plainLeafCodecs).encode ⟨[9]⟩)
          ((inboxCodec plainLeafCodecs).encode epochInbox) [.delta delta] =
        some (.error (.deser "unknown variant messages")) :=
  inbox_sync_delta_refused ⟨[9]⟩ rfl minuteInbox []

/-- Two non-empty inboxes merged each with the other's state keep each its
own messages, whatever their times of last update. -/
theorem merge_keeps_own_messages (params : InboxParams) {A B : Inbox}
    (hA : A.verify rsa params = .ok ()) (hB : B.verify rsa params = .ok ())
    (hAne : A.messages ≠ []) (hBne : B.messages ≠ []) :
    updateState rsa leaf write ((inboxParamsCodec leaf).encode params) ((inboxCodec leaf).encode A)
        [.state ((inboxCodec leaf).encode B)] = some (.ok (.valid ((inboxCodec leaf).encode A))) ∧
    updateState rsa leaf write ((inboxParamsCodec leaf).encode params) ((inboxCodec leaf).encode B)
        [.state ((inboxCodec leaf).encode A)] = some (.ok (.valid ((inboxCodec leaf).encode B))) :=
  ⟨updateState_state_of_ne_nil params hA hAne B, updateState_state_of_ne_nil params hB hBne A⟩

theorem merge_keeps_own_messages_epoch :
    epochInbox.summarize ≠ minuteInbox.summarize ∧
    updateState echoScheme plainLeafCodecs (fun _ => []) ((inboxParamsCodec plainLeafCodecs).encode ⟨[9]⟩)
        ((inboxCodec plainLeafCodecs).encode epochInbox) [.state ((inboxCodec plainLeafCodecs).encode minuteInbox)] =
      some (.ok (.valid ((inboxCodec plainLeafCodecs).encode epochInbox))) ∧
    updateState echoScheme plainLeafCodecs (fun _ => []) ((inboxParamsCodec plainLeafCodecs).encode ⟨[9]⟩)
        ((inboxCodec plainLeafCodecs).encode minuteInbox) [.state ((inboxCodec plainLeafCodecs).encode epochInbox)] =
      some (.ok (.valid ((inboxCodec plainLeafCodecs).encode minuteInbox))) :=
  ⟨by decide, merge_keeps_own_messages ⟨[9]⟩ rfl rfl (List.cons_ne_nil _ _) (List.cons_ne_nil _ _)⟩

/-- A merged state's messages are taken only into an inbox that has none
and is older: each goes through `add_message`, and the inbox then holds
exactly them when every token is valid. Any other inbox is written back as
it is, so merging an inbox with its own state leaves it unchanged. -/
theorem updateState_merge_bootstrap (params : InboxParams) {A : Inbox}
    (hsig : A.verify rsa params = .ok ()) (B : Inbox) :
    updateState rsa leaf write ((inboxParamsCodec leaf).encode params) ((inboxCodec leaf).encode A)
        [.state ((inboxCodec leaf).encode B)] =
      (if A.messages = [] ∧ A.lastUpdate < B.lastUpdate then
        some (((B.messages.foldlM (Inbox.addMessage rsa) A).mapError fun _ => .invalidUpdate).map
          fun inbox => .valid ((inboxCodec leaf).encode inbox))
      else some (.ok (.valid ((inboxCodec leaf).encode A)))) ∧
    (A.messages = [] → A.lastUpdate < B.lastUpdate →
      (∀ m ∈ B.messages, m.tokenAssignment.isValid rsa m.tokenAssignment.generator = .ok ()) →
      updateState rsa leaf write ((inboxParamsCodec leaf).encode params) ((inboxCodec leaf).encode A)
          [.state ((inboxCodec leaf).encode B)] =
        some (.ok (.valid ((inboxCodec leaf).encode { A with messages := B.messages })))) ∧
    updateState rsa leaf write ((inboxParamsCodec leaf).encode params) ((inboxCodec leaf).encode A)
        [.state ((inboxCodec leaf).encode A)] = some (.ok (.valid ((inboxCodec leaf).encode A))) := by
  have hmerge := @updateState_state rsa leaf write params A hsig
  refine ⟨?_, fun hempty hlt hvalid => ?_, ?_⟩
  · rw [hmerge B]
    by_cases h : A.messages = [] ∧ A.lastUpdate < B.lastUpdate
    · simp [Inbox.merge, h]
    · -- `merge` keeps the inbox: it is not empty, or not older
      have hkeep : A.merge rsa B = .ok A := by
        simp only [Inbox.merge, List.isEmpty_iff, Bool.and_eq_true, decide_eq_true_eq]
        rw [if_neg h]
      rw [if_neg h, hkeep]
      rfl
  · have hkeep : A.merge rsa B = .ok { A with messages := B.messages } := by
      simp [Inbox.merge, hempty, hlt, foldlM_addMessage_of_valid hvalid]
    rw [hmerge B, hkeep]
    rfl
  · -- an inbox is not older than itself
    have hself : A.merge rsa A = .ok A := by
      simp [Inbox.merge]
    rw [hmerge A, hself]
    rfl

theorem updateState_merge_bootstrap_epoch :
    epochInbox.verify echoScheme ⟨[9]⟩ = .ok () ∧
    updateState echoScheme plainLeafCodecs (fun _ => []) ((inboxParamsCodec plainLeafCodecs).encode ⟨[9]⟩)
        ((inboxCodec plainLeafCodecs).encode epochInbox) [.state ((inboxCodec plainLeafCodecs).encode minuteInbox)] =
      some (.ok (.valid ((inboxCodec plainLeafCodecs).encode epochInbox))) :=
  have h := @updateState_merge_bootstrap echoScheme plainLeafCodecs (fun _ => []) ⟨[9]⟩ epochInbox rfl
    minuteInbox
  ⟨rfl, h.1.trans (by simp [epochInbox, epochMessage])⟩

/-- A removal of a message's hash followed by the message's addition, its
record supplied: in one batch the removal is applied after the addition and
takes the message out again, one call after the other the message stays.
Both succeed and give different inboxes. -/
theorem remove_then_add_batch_differs (params : InboxParams) {S : Inbox}
    (hsig : S.verify rsa params = .ok ()) {m : Message} {r : TokenAllocationRecord}
    (hexists : r.assignmentExists m.tokenAssignment = true)
    (hvalid : m.tokenAssignment.isValid rsa m.tokenAssignment.generator = .ok ()) {signature : List UInt8}
    (hrm : rsa.verify params.pubKey m.tokenAssignment.assignmentHash.val signature = true) :
    let u₁ : List InboxUpdate :=
      [.delta ((updateInboxCodec leaf).encode (.removeMessages signature [m.tokenAssignment.assignmentHash]))]
    let u₂ : List InboxUpdate :=
      [.relatedState m.tokenAssignment.tokenRecord ((tokenAllocationRecordCodec leaf).encode r),
        .delta ((updateInboxCodec leaf).encode (.addMessages [m]))]
    let S₁ := S.removeMessages [m.tokenAssignment.assignmentHash]
    updateState rsa leaf write ((inboxParamsCodec leaf).encode params) ((inboxCodec leaf).encode S) (u₁ ++ u₂) =
        some (.ok (.valid ((inboxCodec leaf).encode
          ({ S with messages := S.messages ++ [m] }.removeMessages [m.tokenAssignment.assignmentHash])))) ∧
      updateState rsa leaf write ((inboxParamsCodec leaf).encode params) ((inboxCodec leaf).encode S) u₁ =
        some (.ok (.valid ((inboxCodec leaf).encode S₁))) ∧
      updateState rsa leaf write ((inboxParamsCodec leaf).encode params) ((inboxCodec leaf).encode S₁) u₂ =
        some (.ok (.valid ((inboxCodec leaf).encode { S₁ with messages := S₁.messages ++ [m] }))) ∧
      (inboxCodec leaf).encode ({ S with messages := S.messages ++ [m] }.removeMessages
          [m.tokenAssignment.assignmentHash]) ≠
        (inboxCodec leaf).encode { S₁ with messages := S₁.messages ++ [m] } := by
  have hrm' : rsa.verify params.pubKey ([m.tokenAssignment.assignmentHash].flatMap (·.val)) signature = true := by
    simpa using hrm
  have hsig₁ : (S.removeMessages [m.tokenAssignment.assignmentHash]).verify rsa params = .ok () := by
    rw [verify_removeMessages, hsig]
  refine ⟨?_, ?_, updateState_addMessage_supplied params hsig₁ hexists hvalid, ?_⟩
  · -- the batch: the removal recorded, the record supplied, the message added, then removed
    have hadd : S.addMessages rsa (Function.update (fun _ => none) m.tokenAssignment.tokenRecord (some r)) [m] =
        .ok { S with messages := S.messages ++ [m] } :=
      addMessages_singleton (by simp) hexists hvalid
    have hfinish : finishUpdate rsa leaf ⟨S, [m.tokenAssignment.tokenRecord], [m],
          [m.tokenAssignment.assignmentHash],
          Function.update (fun _ => none) m.tokenAssignment.tokenRecord (some r)⟩ =
        .ok (.valid ((inboxCodec leaf).encode
          ({ S with messages := S.messages ++ [m] }.removeMessages [m.tokenAssignment.assignmentHash]))) :=
      finishUpdate_of_supplied (by simp) hadd
    rw [updateState_encode hsig]
    simp only [List.cons_append, List.nil_append]
    rw [updateLoop_cons_of_ok (updateStep_removeMessages _ hrm'),
      updateLoop_cons_of_ok (updateStep_relatedState params _ _ r),
      updateLoop_cons_of_ok (updateStep_addMessages params _ [m])]
    simp only [updateLoop, Option.map_some, ok_bind, List.nil_append, List.map_cons, List.map_nil]
    rw [hfinish]
  · -- the removal alone
    have hfinish : finishUpdate rsa leaf ⟨S, [], [], [m.tokenAssignment.assignmentHash], fun _ => none⟩ =
        .ok (.valid ((inboxCodec leaf).encode (S.removeMessages [m.tokenAssignment.assignmentHash]))) :=
      finishUpdate_of_supplied (by simp) rfl
    rw [updateState_encode hsig, updateLoop_cons_of_ok (updateStep_removeMessages _ hrm')]
    simp only [updateLoop, Option.map_some, ok_bind, List.nil_append]
    rw [hfinish]
  · -- the batch has lost the message that the two calls keep
    intro heq
    have hmsgs := congrArg Inbox.messages ((inboxCodec leaf).encode_injective heq)
    simp [Inbox.removeMessages] at hmsgs

end Updates

end FreenetCore.EmailApp
