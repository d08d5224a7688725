import FreenetCore.EmailApp.Inbox

/-!
The email application's web client (`freenet-email-app/web`): how it sends
a message (`inbox.rs`, with the token bookkeeping of `aft.rs`), and how it
writes its inbox to the contract's state and reads it back.

A message goes out in two stages. `start_sending` builds the message's
envelope, hashes it, asks the token generator for a token assigned to the
hash (`assign_token`, which files the hash under the recipient's inbox in
`PENDING_INBOXES_UPDATES`), and queues the message under the inbox in
`PENDING_INBOXES_UPDATE`. When a token arrives, `allocated_assignment` finds
its inbox by its hash and files it under its token record; when the record
confirms the token's slot, `confirm_allocation` takes it out and hands it to
`finish_sending`, which takes the first message queued for the inbox,
builds its envelope again, and sends it with the token.

The envelope (`assignment_hash_and_signed_content`) is a nonce, a key
encrypted with RSA under the first recipient's key, and the message's JSON
encrypted with XChaCha20Poly1305 under the key and the nonce; its hash is
BLAKE3's. `from_stored` reads a 24-byte nonce and a 512-byte key block back.
The inbox's own copy of its messages (`to_state`) is their JSON encrypted
with RSA alone.

Each call that draws randomness takes its draws as an argument. RSA
encryption is an `EncryptionScheme` `enc`, the symmetric cipher an `Aead`
`aead`, and BLAKE3 and the JSON writer and reader of `DecryptedMessage` are
functions. The thread-local maps are fields of `Client`. Contract keys are
of a type `Key`, the inbox's made from the recipient's key by `inboxKey`;
every `unwrap` that can fail makes its function return an `Option`, `none`
being the panic.
-/

namespace FreenetCore.EmailApp

open Crypto Civil FreenetCore.Antiflood FreenetCore.Stdlib FreenetCore.WasmRuntime

/-- `DecryptedMessage`; `fromAlias` and `recipients` are the fields `from`
and `to`. -/
structure DecryptedMessage where
  title : String
  content : String
  fromAlias : String
  recipients : List RsaPublicKey
  cc : List String
  time : DateTime

/-- The randomness of one envelope: the XChaCha20Poly1305 key and nonce, and
the RSA encryption's draw. -/
structure Draw (R : Type) where
  chachaKey : List UInt8
  nonce : List UInt8
  rsaRand : R

/-- `MessageModel`. -/
structure MessageModel where
  id : Nat
  content : DecryptedMessage
  tokenAssignment : TokenAssignment

/-- `InternalSettings`. -/
structure InternalSettings where
  nextMsgId : Nat
  privateKey : RsaPrivateKey
  minimumTier : Tier

/-- `InboxModel`. -/
structure InboxModel (Key : Type) where
  messages : List MessageModel
  settings : InternalSettings
  key : Key

/-- `PendingAssignmentRegister`, without its start time, which nothing
reads. -/
structure PendingAssignmentRegister (Key : Type) where
  record : TokenAssignment
  inbox : Key

/-- The client's thread-local maps, and the messages it has sent to
inboxes. -/
structure Client (Key : Type) where
  /-- `PENDING_INBOXES_UPDATE` of `inbox.rs`: the messages waiting for a
  token, by inbox. -/
  pendingInboxUpdate : Key → List DecryptedMessage
  /-- `PENDING_INBOXES_UPDATES` of `aft.rs`: the hashes tokens were asked
  for, with their inboxes. -/
  pendingInboxesUpdates : List (Key × Bytes32)
  /-- `PENDING_CONFIRMED_ASSIGNMENTS`, by token record. -/
  pendingConfirmedAssignments : Bytes32 → List (PendingAssignmentRegister Key)
  /-- The `AddMessages` deltas sent, with their inboxes. -/
  sent : List (Key × Message)

variable {R Key : Type} [DecidableEq Key]
  (enc : EncryptionScheme RsaPrivateKey RsaPublicKey R) (aead : Aead) (blake3 : List UInt8 → Bytes32)
  (toVec : DecryptedMessage → List UInt8) (fromSlice : List UInt8 → Option DecryptedMessage)

namespace DecryptedMessage

/-- `assignment_hash_and_signed_content`: the envelope and its hash. -/
def assignmentHashAndSignedContent (d : DecryptedMessage) (draw : Draw R) :
    Except String (Bytes32 × List UInt8) := do
  let decryptedContent := toVec d
  let encryptedData := aead.encrypt draw.chachaKey draw.nonce decryptedContent
  let receiverPubKey ← match d.recipients.head? with
    | some key => pure key
    | none => throw "receiver key not found"
  let encryptedKey ← enc.encrypt receiverPubKey draw.rsaRand draw.chachaKey
  let content := draw.nonce ++ encryptedKey ++ encryptedData
  pure (blake3 content, content)

/-- `DecryptedMessage::to_stored`: a new envelope, with the token. -/
def toStored (d : DecryptedMessage) (tokenAssignment : TokenAssignment) (draw : Draw R) :
    Except String Message := do
  let (_, content) ← assignmentHashAndSignedContent enc aead blake3 toVec d draw
  pure ⟨content, tokenAssignment⟩

/-- `DecryptedMessage::from_stored`: the nonce, the key block and the rest,
each read, decryption and parse unwrapped. -/
def fromStored (privateKey : RsaPrivateKey) (msgContent : List UInt8) : Option DecryptedMessage :=
  if msgContent.length < 24 then none
  else
    let nonce := msgContent.take 24
    let rest := msgContent.drop 24
    if rest.length < 512 then none
    else do
      let encryptedChachaKey := rest.take 512
      let content := rest.drop 512
      let chachaKey ← (enc.decrypt privateKey encryptedChachaKey).toOption
      let decryptedContent ← aead.decrypt chachaKey nonce content
      fromSlice decryptedContent

end DecryptedMessage

/-- `MessageModel::to_stored`: the JSON encrypted with RSA alone. -/
def MessageModel.toStored (m : MessageModel) (key : RsaPrivateKey) (r : R) : Except String Message := do
  let decryptedContent := toVec m.content
  let content ← enc.encrypt (enc.toPublicKey key) r decryptedContent
  pure ⟨content, m.tokenAssignment⟩

/-- `InternalSettings::to_stored`. -/
def InternalSettings.toStored (settings : InternalSettings) : InboxSettings := ⟨settings.minimumTier, []⟩

namespace InboxModel

/-- The `StoredInbox` of `to_state`, signed with the owner's key at the time
`now`; each message encrypted with its own draw. -/
def toStoredInbox (rsa : SignatureScheme RsaPrivateKey RsaPublicKey) (m : InboxModel Key) (draws : Nat → R)
    (now : DateTime) : Except String Inbox := do
  let settings := m.settings.toStored
  let messages ← m.messages.zipIdx.mapM fun p =>
    p.1.toStored enc toVec m.settings.privateKey (draws p.2)
  pure ⟨messages, now, settings, Inbox.sign rsa m.settings.privateKey⟩

/-- `InboxModel::to_state`. -/
def toState (leaf : LeafCodecs) (rsa : SignatureScheme RsaPrivateKey RsaPublicKey) (m : InboxModel Key)
    (draws : Nat → R) (now : DateTime) : Except String SerdeJson.Value :=
  (toStoredInbox enc toVec rsa m draws now).map (inboxCodec leaf).encode

/-- `InboxModel::from_state`: each message read with `from_stored`, its id
its position. -/
def fromState (privateKey : RsaPrivateKey) (state : Inbox) (key : Key) : Option (InboxModel Key) := do
  let messages ← state.messages.zipIdx.mapM fun p =>
    (DecryptedMessage.fromStored enc aead fromSlice privateKey p.1.content).map fun content =>
      (⟨p.2, content, p.1.tokenAssignment⟩ : MessageModel)
  pure ⟨messages, ⟨messages.length, privateKey, state.settings.minimumTier⟩, key⟩

end InboxModel

namespace Client

/-- The client before any message is sent. -/
def init : Client Key := ⟨fun _ => [], [], fun _ => [], []⟩

/-- `AftRecords::assign_token` as far as the client's state goes: the
generator's record must be loaded, and the hash is filed under the inbox. -/
def assignToken (c : Client Key) (inbox : Key) (assignmentHash : Bytes32)
    (records : Option TokenAllocationRecord) : Except String (Client Key) :=
  match records with
  | none => .error "failed to get token record"
  | some _ => .ok { c with pendingInboxesUpdates := c.pendingInboxesUpdates ++ [(inbox, assignmentHash)] }

/-- `DecryptedMessage::start_sending` to the inbox of `recipientKey`, with
the generator's record `records`. -/
def startSending (inboxKey : RsaPublicKey → Key) (c : Client Key) (d : DecryptedMessage)
    (recipientKey : RsaPublicKey) (records : Option TokenAllocationRecord) (draw : Draw R) :
    Except String (Client Key) := do
  let (hash, _) ← d.assignmentHashAndSignedContent enc aead blake3 toVec draw
  let c ← c.assignToken (inboxKey recipientKey) hash records
  pure { c with
    pendingInboxUpdate := Function.update c.pendingInboxUpdate (inboxKey recipientKey)
      (c.pendingInboxUpdate (inboxKey recipientKey) ++ [d]) }

/-- `AftRecords::allocated_assignment`: a token whose hash was asked for is
filed under its token record with the inbox the hash was asked for. -/
def allocatedAssignment (c : Client Key) (record : TokenAssignment) : Client Key :=
  match c.pendingInboxesUpdates.find? (·.2 == record.assignmentHash) with
  | none => c
  | some (inbox, _) =>
      { c with
        pendingConfirmedAssignments := Function.update c.pendingConfirmedAssignments record.tokenRecord
          (c.pendingConfirmedAssignments record.tokenRecord ++ [⟨record, inbox⟩]) }

/-- `MessageModel::finish_sending`: the first message queued for the inbox
is taken out, then sent with the token in a new envelope. -/
def finishSending (c : Client Key) (assignment : TokenAssignment) (inbox : Key) (draw : Draw R) :
    Client Key × Except String Unit :=
  match c.pendingInboxUpdate inbox with
  | [] => (c, .ok ())
  | d :: rest =>
      let c := { c with pendingInboxUpdate := Function.update c.pendingInboxUpdate inbox rest }
      match d.toStored enc aead blake3 toVec assignment draw with
      | .ok stored => ({ c with sent := c.sent ++ [(inbox, stored)] }, .ok ())
      | .error e => (c, .error e)

/-- `AftRecords::confirm_allocation`: the first token filed under the
record whose slot the summary holds is taken out and its message sent. -/
def confirmAllocation (c : Client Key) (aftRecord : Bytes32)
    (summary : TokenAllocationRecord.TokenAllocationSummary) (draw : Draw R) :
    Client Key × Except String Unit :=
  let registers := c.pendingConfirmedAssignments aftRecord
  let confirms := fun (r : PendingAssignmentRegister Key) => summary.containsAlloc r.record.tier r.record.timeSlot
  match registers.find? confirms with
  | none => (c, .ok ())
  | some confirmed =>
      let c := { c with
        pendingConfirmedAssignments := Function.update c.pendingConfirmedAssignments aftRecord
          (registers.eraseP confirms) }
      c.finishSending enc aead blake3 toVec confirmed.record confirmed.inbox draw

end Client

/-! ### The envelope -/

namespace DecryptedMessage

variable {d : DecryptedMessage} {draw : Draw R} {hash : Bytes32} {content : List UInt8}

/-- What an envelope is made of: the nonce, the key encrypted under the first
recipient's key, and the message encrypted under the key and the nonce. -/
theorem assignmentHashAndSignedContent_ok
    (h : d.assignmentHashAndSignedContent enc aead blake3 toVec draw = .ok (hash, content)) :
    ∃ pk encryptedKey, d.recipients.head? = some pk ∧ enc.encrypt pk draw.rsaRand draw.chachaKey = .ok encryptedKey ∧
      content = draw.nonce ++ encryptedKey ++ aead.encrypt draw.chachaKey draw.nonce (toVec d) ∧
      hash = blake3 content := by
  rw [assignmentHashAndSignedContent] at h
  dsimp only at h
  cases hpk : d.recipients.head? with
  | none =>
      rw [hpk] at h
      cases h
  | some pk =>
      rw [hpk] at h
      dsimp only at h
      rw [pure_bind] at h
      obtain ⟨encryptedKey, hk, h⟩ := SerdeJson.bind_eq_ok h
      cases h
      exact ⟨pk, encryptedKey, rfl, hk, rfl, rfl⟩

/-- An envelope built for a recipient whose key block is 512 bytes long,
with a 24-byte nonce, is read back by the recipient. -/
theorem fromStored_of_assignmentHashAndSignedContent {sk : RsaPrivateKey}
    (h : d.assignmentHashAndSignedContent enc aead blake3 toVec draw = .ok (hash, content))
    (hto : d.recipients.head? = some (enc.toPublicKey sk)) (hsize : enc.size (enc.toPublicKey sk) = 512)
    (hnonce : draw.nonce.length = 24) (hjson : fromSlice (toVec d) = some d) :
    fromStored enc aead fromSlice sk content = some d := by
  obtain ⟨pk, encryptedKey, hpk, hk, rfl, -⟩ := assignmentHashAndSignedContent_ok enc aead blake3 toVec h
  rw [hto, Option.some.injEq] at hpk
  subst hpk
  have hlen : encryptedKey.length = 512 := by rw [enc.length_encrypt _ _ _ _ hk, hsize]
  -- the cursor reads the nonce, then the key block, then the rest
  have hrest : (draw.nonce ++ encryptedKey ++ aead.encrypt draw.chachaKey draw.nonce (toVec d)).drop 24 =
      encryptedKey ++ aead.encrypt draw.chachaKey draw.nonce (toVec d) := by
    rw [List.append_assoc, List.drop_left' hnonce]
  have hnonce' : (draw.nonce ++ encryptedKey ++ aead.encrypt draw.chachaKey draw.nonce (toVec d)).take 24 =
      draw.nonce := by
    rw [List.append_assoc, List.take_left' hnonce]
  have h24 : ¬ (draw.nonce ++ encryptedKey ++ aead.encrypt draw.chachaKey draw.nonce (toVec d)).length < 24 := by
    simp only [List.length_append, hnonce]
    omega
  have h512 : ¬ (encryptedKey ++ aead.encrypt draw.chachaKey draw.nonce (toVec d)).length < 512 := by
    simp only [List.length_append, hlen]
    omega
  rw [fromStored, if_neg h24]
  dsimp only
  rw [hrest, hnonce', if_neg h512, List.take_left' hlen, List.drop_left' hlen,
    enc.decrypt_encrypt _ _ _ _ hk]
  simp [Except.toOption, hjson]

theorem fromStored_of_assignmentHashAndSignedContent_pad :
    let d : DecryptedMessage := ⟨"", "", "", [[1]], [], ⟨0⟩⟩
    let draw : Draw Unit := ⟨[], List.replicate 24 0, ()⟩
    let content := draw.nonce ++ padTo 512 [] ++ draw.nonce
    d.assignmentHashAndSignedContent padScheme echoAead (fun _ => Bytes32.replicate 0) (fun _ => []) draw =
        .ok (Bytes32.replicate 0, content) ∧
      d.recipients.head? = some (padScheme.toPublicKey [1]) ∧ padScheme.size (padScheme.toPublicKey [1]) = 512 ∧
      draw.nonce.length = 24 ∧ fromStored padScheme echoAead (fun _ => some d) [1] content = some d := by
  intro d draw content
  have h : d.assignmentHashAndSignedContent padScheme echoAead (fun _ => Bytes32.replicate 0) (fun _ => []) draw =
      .ok (Bytes32.replicate 0, content) := rfl
  exact ⟨h, rfl, rfl, rfl, fromStored_of_assignmentHashAndSignedContent padScheme echoAead _ _ (fun _ => some d)
    h rfl rfl rfl rfl⟩

/-- A message of fewer than 536 bytes is not a nonce, a 512-byte key block
and a ciphertext: reading it panics. -/
theorem fromStored_of_length_lt (sk : RsaPrivateKey) {c : List UInt8} (hc : c.length < 536) :
    fromStored enc aead fromSlice sk c = none := by
  rw [fromStored]
  by_cases h24 : c.length < 24
  · rw [if_pos h24]
  · have hrest : (c.drop 24).length < 512 := by
      rw [List.length_drop]
      omega
    rw [if_neg h24]
    dsimp only
    rw [if_pos hrest]

/-- The envelope sent is built anew: it differs from the one whose hash the
token was asked for whenever the two nonces drawn differ. -/
theorem toStored_content_ne {a : TokenAssignment} {draw' : Draw R} {stored : Message}
    (h : d.assignmentHashAndSignedContent enc aead blake3 toVec draw = .ok (hash, content))
    (h' : d.toStored enc aead blake3 toVec a draw' = .ok stored) (hlen : draw.nonce.length = draw'.nonce.length)
    (hne : draw.nonce ≠ draw'.nonce) : stored.content ≠ content := by
  rw [toStored] at h'
  obtain ⟨⟨_, c'⟩, he, h'⟩ := SerdeJson.bind_eq_ok h'
  cases h'
  obtain ⟨-, k, -, -, rfl, -⟩ := assignmentHashAndSignedContent_ok enc aead blake3 toVec h
  obtain ⟨-, k', -, -, hc', -⟩ := assignmentHashAndSignedContent_ok enc aead blake3 toVec he
  -- the two envelopes start with their nonces, which have one length
  intro heq
  rw [hc', List.append_assoc, List.append_assoc] at heq
  exact hne (List.append_inj heq hlen.symm).1.symm

/-- The message built by `to_stored` carries the token it is given. -/
theorem toStored_tokenAssignment {a : TokenAssignment} {stored : Message}
    (h : d.toStored enc aead blake3 toVec a draw = .ok stored) : stored.tokenAssignment = a := by
  rw [toStored] at h
  obtain ⟨⟨_, content⟩, -, h⟩ := SerdeJson.bind_eq_ok h
  cases h
  rfl

end DecryptedMessage

/-! ### Sending -/

namespace Client

variable {inboxKey : RsaPublicKey → Key} {c : Client Key}

/-- `start_sending` of a message whose envelope is built queues the message
for its inbox and files the envelope's hash under the inbox. -/
theorem startSending_of_ok {d : DecryptedMessage} {draw : Draw R} {hash : Bytes32} {content : List UInt8}
    (he : d.assignmentHashAndSignedContent enc aead blake3 toVec draw = .ok (hash, content))
    (recipientKey : RsaPublicKey) (records : TokenAllocationRecord) :
    c.startSending enc aead blake3 toVec inboxKey d recipientKey (some records) draw =
      .ok { c with
        pendingInboxesUpdates := c.pendingInboxesUpdates ++ [(inboxKey recipientKey, hash)]
        pendingInboxUpdate := Function.update c.pendingInboxUpdate (inboxKey recipientKey)
          (c.pendingInboxUpdate (inboxKey recipientKey) ++ [d]) } := by
  rw [startSending, he, SerdeJson.ok_bind]
  rfl

omit [DecidableEq Key] in
/-- A token whose hash is filed is filed under its token record, with the
inbox of the first entry for its hash. -/
theorem allocatedAssignment_of_find {record : TokenAssignment} {inbox : Key} {hash : Bytes32}
    (h : c.pendingInboxesUpdates.find? (·.2 == record.assignmentHash) = some (inbox, hash)) :
    c.allocatedAssignment record = { c with
      pendingConfirmedAssignments := Function.update c.pendingConfirmedAssignments record.tokenRecord
        (c.pendingConfirmedAssignments record.tokenRecord ++ [⟨record, inbox⟩]) } := by
  rw [allocatedAssignment, h]

/-- `finish_sending` sends the first message queued for the inbox, in a new
envelope, with the token it is given. -/
theorem finishSending_of_cons {assignment : TokenAssignment} {inbox : Key} {draw : Draw R}
    {d : DecryptedMessage} {rest : List DecryptedMessage} (hq : c.pendingInboxUpdate inbox = d :: rest)
    {stored : Message} (hs : d.toStored enc aead blake3 toVec assignment draw = .ok stored) :
    c.finishSending enc aead blake3 toVec assignment inbox draw =
      ({ c with
        pendingInboxUpdate := Function.update c.pendingInboxUpdate inbox rest
        sent := c.sent ++ [(inbox, stored)] }, .ok ()) := by
  rw [finishSending, hq]
  dsimp only
  rw [hs]

/-- `confirm_allocation` takes out the first register under the record whose
slot the summary holds, and finishes sending to its inbox with its token. -/
theorem confirmAllocation_of_find {aftRecord : Bytes32}
    {summary : TokenAllocationRecord.TokenAllocationSummary} {draw : Draw R}
    {confirmed : PendingAssignmentRegister Key}
    (h : (c.pendingConfirmedAssignments aftRecord).find?
      (fun r => summary.containsAlloc r.record.tier r.record.timeSlot) = some confirmed) :
    c.confirmAllocation enc aead blake3 toVec aftRecord summary draw =
      Client.finishSending enc aead blake3 toVec { c with
        pendingConfirmedAssignments := Function.update c.pendingConfirmedAssignments aftRecord
          ((c.pendingConfirmedAssignments aftRecord).eraseP
            fun r => summary.containsAlloc r.record.tier r.record.timeSlot) }
        confirmed.record confirmed.inbox draw := by
  rw [confirmAllocation]
  dsimp only
  rw [h]

/-- A token that arrives for a filed hash, and is confirmed before any other
token of its record, goes out with the message at the head of the queue of
the hash's inbox, whichever message the hash was built from. -/
theorem confirmAllocation_allocatedAssignment {a : TokenAssignment} {inbox : Key} {hash : Bytes32}
    (hfind : c.pendingInboxesUpdates.find? (·.2 == a.assignmentHash) = some (inbox, hash))
    (hreg : c.pendingConfirmedAssignments a.tokenRecord = [])
    {summary : TokenAllocationRecord.TokenAllocationSummary} (hs : summary.containsAlloc a.tier a.timeSlot = true)
    {d : DecryptedMessage} {rest : List DecryptedMessage} (hq : c.pendingInboxUpdate inbox = d :: rest)
    {draw : Draw R} {stored : Message} (hst : d.toStored enc aead blake3 toVec a draw = .ok stored) :
    (c.allocatedAssignment a).confirmAllocation enc aead blake3 toVec a.tokenRecord summary draw =
      ({ c with
        pendingInboxUpdate := Function.update c.pendingInboxUpdate inbox rest
        sent := c.sent ++ [(inbox, stored)] }, .ok ()) := by
  rw [allocatedAssignment_of_find hfind, confirmAllocation_of_find enc aead blake3 toVec ?hconf]
  -- the register just filed is the one the summary confirms
  case hconf =>
    simp only [Function.update_self, hreg, List.nil_append, List.find?_singleton, hs, if_true]
    rfl
  rw [finishSending_of_cons enc aead blake3 toVec ?hq hst]
  case hq => exact hq
  -- the register is taken out again, which leaves the record's list as it was
  have hregs : Function.update c.pendingConfirmedAssignments a.tokenRecord [] = c.pendingConfirmedAssignments :=
    Function.update_eq_self_iff.mpr hreg.symm
  simp [hreg, hs, hregs]

end Client

/-! ### The inbox's own state -/

/-- A message written with RSA alone is as long as one of the key's
ciphertexts. -/
theorem MessageModel.length_toStored {m : MessageModel} {key : RsaPrivateKey} {r : R} {msg : Message}
    (h : m.toStored enc toVec key r = .ok msg) : msg.content.length = enc.size (enc.toPublicKey key) := by
  rw [MessageModel.toStored] at h
  obtain ⟨c, hc, h⟩ := SerdeJson.bind_eq_ok h
  cases h
  exact enc.length_encrypt _ _ _ _ hc

namespace InboxModel

variable {rsa : SignatureScheme RsaPrivateKey RsaPublicKey}

omit [DecidableEq Key] in
/-- The first message that `to_state` writes is the inbox's first message
encrypted with RSA alone. -/
theorem toStoredInbox_head {m : InboxModel Key} {mm : MessageModel} {rest : List MessageModel}
    (hm : m.messages = mm :: rest) {draws : Nat → R} {now : DateTime} {inbox : Inbox}
    (h : m.toStoredInbox enc toVec rsa draws now = .ok inbox) :
    ∃ msg msgs, inbox.messages = msg :: msgs ∧
      msg.content.length = enc.size (enc.toPublicKey m.settings.privateKey) := by
  rw [toStoredInbox] at h
  obtain ⟨msgs, hms, h⟩ := SerdeJson.bind_eq_ok h
  cases h
  rw [hm, List.zipIdx_cons] at hms
  obtain ⟨msg, msgs', hmsg, -, rfl⟩ := SerdeJson.mapM_cons_eq_ok hms
  exact ⟨msg, msgs', rfl, MessageModel.length_toStored enc toVec hmsg⟩

omit [DecidableEq Key] in
/-- `from_state` panics as soon as the first message cannot be read. -/
theorem fromState_of_head {sk : RsaPrivateKey} {inbox : Inbox} {msg : Message} {msgs : List Message}
    (hmsgs : inbox.messages = msg :: msgs)
    (hmsg : DecryptedMessage.fromStored enc aead fromSlice sk msg.content = none) (key : Key) :
    fromState enc aead fromSlice sk inbox key = none := by
  simp [fromState, hmsgs, List.zipIdx_cons, hmsg]

omit [DecidableEq Key] in
/-- `to_state` writes each message encrypted with RSA alone, and `from_state`
reads each as a nonce, a 512-byte key block and a ciphertext. Under a key
whose ciphertexts are shorter than the 536 bytes these take (the
application's 4096-bit keys give 512), the state that an inbox with a
message writes panics when it is read back. -/
theorem fromState_toState_panics (leaf : LeafCodecs) (m : InboxModel Key) (draws : Nat → R) (now : DateTime)
    (hsize : enc.size (enc.toPublicKey m.settings.privateKey) < 536) (hne : m.messages ≠ [])
    {v : SerdeJson.Value} (hv : m.toState enc toVec leaf rsa draws now = .ok v)
    {inbox : Inbox} (hdec : (inboxCodec leaf).decode v = .ok inbox) (key : Key) :
    fromState enc aead fromSlice m.settings.privateKey inbox key = none := by
  -- the state decodes to the inbox that was written
  obtain ⟨stored, hstored, rfl⟩ := SerdeJson.map_eq_ok hv
  rw [SerdeJson.Codec.decode_encode, Except.ok.injEq] at hdec
  subst hdec
  obtain ⟨mm, rest, hm⟩ := List.exists_cons_of_ne_nil hne
  obtain ⟨msg, msgs, hmsgs, hlen⟩ := toStoredInbox_head enc toVec hm hstored
  have hshort : msg.content.length < 536 := by
    rw [hlen]
    exact hsize
  exact fromState_of_head enc aead fromSlice hmsgs
    (DecryptedMessage.fromStored_of_length_lt enc aead fromSlice _ hshort) key

/-- An inbox model with one message, its key the bytes [1]. -/
def oneMessageModel : InboxModel Unit :=
  ⟨[⟨0, ⟨"", "", "", [[1]], [], ⟨0⟩⟩, default⟩], ⟨1, [1], .min1⟩, ()⟩

/-- What its state holds under the padding scheme, its message written as
no bytes. -/
def oneMessageStored : Inbox := ⟨[⟨padTo 512 [], default⟩], ⟨0⟩, ⟨.min1, []⟩, Inbox.sign echoScheme [1]⟩

/-- The padding scheme's ciphertexts are 512 bytes long, as a 4096-bit key's. -/
theorem fromState_toState_panics_one :
    padScheme.size (padScheme.toPublicKey oneMessageModel.settings.privateKey) < 536 ∧
      oneMessageModel.messages ≠ [] ∧
      oneMessageModel.toState padScheme (fun _ => []) plainLeafCodecs echoScheme (fun _ => ()) ⟨0⟩ =
        .ok ((inboxCodec plainLeafCodecs).encode oneMessageStored) ∧
      (inboxCodec plainLeafCodecs).decode ((inboxCodec plainLeafCodecs).encode oneMessageStored) =
        .ok oneMessageStored ∧
      fromState padScheme echoAead (fun _ => none) oneMessageModel.settings.privateKey oneMessageStored () =
        none := by
  have hsize : padScheme.size (padScheme.toPublicKey oneMessageModel.settings.privateKey) < 536 := by decide
  have hne : oneMessageModel.messages ≠ [] := by decide
  have hv : oneMessageModel.toState padScheme (fun _ => []) plainLeafCodecs echoScheme (fun _ => ()) ⟨0⟩ =
      .ok ((inboxCodec plainLeafCodecs).encode oneMessageStored) := rfl
  have hdec := (inboxCodec plainLeafCodecs).decode_encode oneMessageStored
  exact ⟨hsize, hne, hv, hdec, fromState_toState_panics padScheme echoAead (fun _ => []) (fun _ => none)
    plainLeafCodecs oneMessageModel (fun _ => ()) ⟨0⟩ hsize hne hv hdec ()⟩

end InboxModel

end FreenetCore.EmailApp
