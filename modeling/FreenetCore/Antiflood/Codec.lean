import FreenetCore.Antiflood.Interfaces
import FreenetCore.Lib.Json

/-!
The JSON of the anti-flood types, as their derived `Serialize` and
`Deserialize` write and read it: a tier is its variant's name, an
assignment an object of its six fields, and an allocation record an object
whose one field `tokens_by_tier` maps each tier's name to its list.

The types of the crates outside the repository have codecs of their own,
taken as given (`LeafCodecs`): `chrono`'s `DateTime<Utc>`, `rsa`'s
`RsaPublicKey`, and `freenet_stdlib`'s `ContractInstanceId`. A signature is
written by `token_sig_ser` as its bytes, and a `[u8; 32]` as an array of
its 32 numbers.
-/

namespace FreenetCore.Antiflood

open SerdeJson Civil FreenetCore.WasmRuntime

/-- The codecs of the types from outside the repository. -/
structure LeafCodecs where
  dateTime : Codec DateTime
  publicKey : Codec RsaPublicKey
  contractInstanceId : Codec Bytes32

/-- A `[u8; 32]`: an array of exactly 32 numbers. -/
def bytes32Codec : Codec Bytes32 :=
  Codec.bytes.subtype (fun b => b.length = internalKey) "invalid length, expected an array of length 32"

namespace Tier

/-- The variant's name, as `serde` writes it. -/
def name : Tier → String
  | min1 => "Min1" | min5 => "Min5" | min10 => "Min10" | min30 => "Min30"
  | hour1 => "Hour1" | hour3 => "Hour3" | hour6 => "Hour6" | hour12 => "Hour12"
  | day1 => "Day1" | day7 => "Day7" | day15 => "Day15" | day30 => "Day30"
  | day90 => "Day90" | day180 => "Day180" | day365 => "Day365"

/-- The tier of a variant's name. -/
def ofName? (s : String) : Option Tier := all.find? (·.name == s)

theorem ofName?_name (t : Tier) : ofName? t.name = some t := by
  cases t <;> rfl

theorem nodup_all : all.Nodup := by
  decide

end Tier

/-- A tier: its variant's name. -/
def tierCodec : Codec Tier where
  encode t := .string t.name
  decode
    | .string s =>
        match Tier.ofName? s with
        | some t => .ok t
        | none => .error ("unknown variant " ++ s)
    | _ => .error "invalid type: expected a unit variant"
  decode_encode t := by
    simp [Tier.ofName?_name]

/-- A `TokenAssignment`, its fields in order. -/
def tokenAssignmentCodec (leaf : LeafCodecs) : Codec TokenAssignment where
  encode a := .object
    [("tier", tierCodec.encode a.tier), ("time_slot", leaf.dateTime.encode a.timeSlot),
      ("generator", leaf.publicKey.encode a.generator), ("signature", Codec.bytes.encode a.signature),
      ("assignment_hash", bytes32Codec.encode a.assignmentHash),
      ("token_record", leaf.contractInstanceId.encode a.tokenRecord)]
  decode := decodeObject fun members => do
    let tier ← field members "tier" tierCodec
    let timeSlot ← field members "time_slot" leaf.dateTime
    let generator ← field members "generator" leaf.publicKey
    let signature ← field members "signature" Codec.bytes
    let assignmentHash ← field members "assignment_hash" bytes32Codec
    let tokenRecord ← field members "token_record" leaf.contractInstanceId
    pure ⟨tier, timeSlot, generator, signature, assignmentHash, tokenRecord⟩
  decode_encode a := by
    simp [field, List.lookup_cons]

/-- The decoding of a map keyed by tier: each member's name is read as a
tier and its value with `c`, and a later member of a tier replaces an
earlier one, as inserting into a `HashMap` does. -/
def decodeTierMap {α : Type} (c : Codec α) (members : List (String × Value)) :
    Except Error (Tier → Option α) :=
  members.foldlM
    (fun m (name, v) => do
      let t ← tierCodec.decode (.string name)
      let a ← c.decode v
      pure (Function.update m t (some a)))
    (fun _ => none)

/-- The members of a map keyed by tier, for the tiers `ts`. -/
def tierMapMembers {α : Type} (c : Codec α) (r : Tier → Option α) (ts : List Tier) :
    List (String × Value) :=
  ts.filterMap fun t => (r t).map fun a => (t.name, c.encode a)

/-- The tiers read from `t :: ts`, once `t`'s member has been read into
`m'`: `m'` differs from `m` at `t` alone. -/
theorem readTiers_cons {α : Type} (r m m' : Tier → Option α) {t : Tier} {ts : List Tier}
    (htn : t ∉ ts) (hself : m' t = (r t).or (m t)) (hother : ∀ t', t' ≠ t → m' t' = m t') :
    (fun t' => if t' ∈ ts then (r t').or (m' t') else m' t') =
      fun t' => if t' ∈ t :: ts then (r t').or (m t') else m t' := by
  funext t'
  by_cases ht : t' = t
  · subst ht
    simp [htn, hself]
  · simp [ht, hother t' ht]

/-- Reading the members of the tiers `ts` into `m` sets each tier of `ts`
that `r` has. -/
theorem foldlM_tierMapMembers {α : Type} (c : Codec α) (r : Tier → Option α) {ts : List Tier}
    (hts : ts.Nodup) (m : Tier → Option α) :
    (tierMapMembers c r ts).foldlM
        (fun m (name, v) => do
          let t ← tierCodec.decode (.string name)
          let a ← c.decode v
          pure (Function.update m t (some a))) m =
      .ok (fun t => if t ∈ ts then (r t).or (m t) else m t) := by
  induction ts generalizing m with
  | nil => rfl
  | cons t ts ih =>
      obtain ⟨htn, hts'⟩ := List.nodup_cons.mp hts
      cases hr : r t with
      | none =>
          -- `t` has no member: `m` is read on unchanged
          simp only [tierMapMembers, List.filterMap_cons, hr, Option.map_none] at ih ⊢
          rw [ih hts' m]
          congr 1
          exact readTiers_cons r m m htn (by rw [hr, Option.none_or]) fun _ _ => rfl
      | some a =>
          simp only [tierMapMembers, List.filterMap_cons, hr, Option.map_some, List.foldlM_cons] at ih ⊢
          have hstep : tierCodec.decode (.string t.name) = .ok t := tierCodec.decode_encode t
          simp only [hstep, c.decode_encode, ok_bind, pure_bind]
          rw [ih hts']
          congr 1
          exact readTiers_cons r m _ htn (by rw [hr, Function.update_self, Option.some_or])
            fun t' ht => Function.update_of_ne ht _ _

/-- A `TokenAllocationRecord`: its one field, `tokens_by_tier`. -/
def tokenAllocationRecordCodec (leaf : LeafCodecs) : Codec TokenAllocationRecord where
  encode r := .object
    [("tokens_by_tier",
      .object (tierMapMembers (Codec.list (tokenAssignmentCodec leaf)) r.tokensByTier Tier.all))]
  decode := decodeObject fun members =>
    match members.lookup "tokens_by_tier" with
    | some (.object byTier) =>
        (decodeTierMap (Codec.list (tokenAssignmentCodec leaf)) byTier).map TokenAllocationRecord.mk
    | some _ => .error "invalid type: expected a map"
    | none => .error "missing field tokens_by_tier"
  decode_encode r := by
    simp only [decodeObject_object, List.lookup_cons, beq_self_eq_true, decodeTierMap,
      foldlM_tierMapMembers _ _ Tier.nodup_all, Tier.mem_all, if_true, Option.or_none]
    rfl

end FreenetCore.Antiflood
