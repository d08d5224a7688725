import Mathlib

/-!
Transaction ids (`message.rs`).

A `Transaction` is a ULID, a 128-bit integer whose low byte `Transaction::new`
overwrites with the type of the operation; `transaction_type` reads the type
back from that byte, and treats any other value as unreachable
(`unreachable_unchecked`, undefined behaviour). The struct derives
`Deserialize`, and the id of a message received from a peer is whatever 128
bits the peer sent.
-/

namespace FreenetCore

/-- `TransactionType`, a `#[repr(u8)]` enumeration. -/
inductive TransactionType
  | connect
  | put
  | get
  | subscribe
  | update
  deriving DecidableEq, Repr

/-- `ty as u8`. -/
def TransactionType.toU8 : TransactionType → UInt8
  | .connect => 0
  | .put => 1
  | .get => 2
  | .subscribe => 3
  | .update => 4

/-- The `match id_byte` of `transaction_type`; `none` is the arm that
calls `unreachable_unchecked`. -/
def TransactionType.ofU8? (b : UInt8) : Option TransactionType :=
  match b.toNat with
  | 0 => some .connect
  | 1 => some .put
  | 2 => some .get
  | 3 => some .subscribe
  | 4 => some .update
  | _ => none

@[simp] theorem TransactionType.ofU8?_toU8 (ty : TransactionType) : ofU8? ty.toU8 = some ty := by
  cases ty <;> rfl

/-- The arms of `transaction_type` are the bytes below 5. -/
theorem TransactionType.isSome_ofU8? (b : UInt8) : (ofU8? b).isSome ↔ b.toNat < 5 := by
  unfold ofU8?
  -- the five arms are read off; the last one is every other byte
  split <;> simp_all
  omega

/-- `Transaction`: its `Ulid`, a `u128`. -/
structure Transaction where
  id : BitVec 128
  deriving DecidableEq

namespace Transaction

/-- `TYPE_MASK` of `update`. -/
def typeMask : BitVec 128 := 0xFFFFFFFFFFFFFFFFFFFFFFFFFFFFFF00#128

/-- `update`: clear the low byte of the id and put the type there. -/
def update (ty : TransactionType) (id : BitVec 128) : Transaction :=
  let cleared := id &&& typeMask
  ⟨cleared ||| ty.toU8.toBitVec.setWidth 128⟩

/-- `Transaction::new`, for the type of `T` and the fresh `Ulid::new()`. -/
def new (ty : TransactionType) (ulid : BitVec 128) : Transaction :=
  update ty ulid

/-- `(self.id.0 & 0xFF) as u8`. -/
def idByte (tx : Transaction) : UInt8 :=
  UInt8.ofBitVec ((tx.id &&& 0xFF#128).setWidth 8)

/-- `transaction_type`. -/
def transactionType (tx : Transaction) : Option TransactionType :=
  TransactionType.ofU8? tx.idByte

theorem typeMask_eq : typeMask = BitVec.allOnes 128 <<< 8 := by decide

/-- `update` writes the type into the low byte. -/
theorem idByte_update (ty : TransactionType) (id : BitVec 128) :
    (update ty id).idByte = ty.toU8 := by
  have hlow : (0xFF#128) = (BitVec.allOnes 8).setWidth 128 := by decide
  apply UInt8.toBitVec_inj.mp
  simp only [idByte, update, UInt8.toBitVec_ofBitVec, typeMask_eq, hlow]
  ext i hi
  simp only [BitVec.getElem_setWidth, BitVec.getLsbD_and, BitVec.getLsbD_or,
    BitVec.getLsbD_shiftLeft, BitVec.getLsbD_allOnes, BitVec.getLsbD_setWidth]
  simp [hi, show i < 128 by omega]

/-- `update` keeps the upper 120 bits of the id. -/
theorem update_high (ty : TransactionType) (id : BitVec 128) :
    (update ty id).id.extractLsb' 8 120 = id.extractLsb' 8 120 := by
  simp only [update, typeMask_eq]
  ext i hi
  simp only [BitVec.getElem_extractLsb', BitVec.getLsbD_and, BitVec.getLsbD_or,
    BitVec.getLsbD_shiftLeft, BitVec.getLsbD_allOnes, BitVec.getLsbD_setWidth]
  -- the type's bits stop at 8, the mask's start there
  simp [show 8 + i < 128 by omega, show i < 128 by omega]

theorem transactionType_update (ty : TransactionType) (id : BitVec 128) :
    (update ty id).transactionType = some ty := by
  simp [transactionType, idByte_update]

/-- What `transaction_type` gives, over every id: the type `update` wrote,
with the rest of the id kept, for every id built by `update` (and so by
`new`); and for any other id, such as one received from a peer, one of the
five types exactly when its low byte is below 5. -/
theorem transactionType_of_update_or_wire (ty : TransactionType) (u : BitVec 128)
    (tx : Transaction) :
    (new ty u).transactionType = some ty ∧
      (update ty u).transactionType = some ty ∧
      (update ty u).id.extractLsb' 8 120 = u.extractLsb' 8 120 ∧
      (tx.transactionType.isSome ↔ tx.idByte.toNat < 5) :=
  ⟨transactionType_update ty u, transactionType_update ty u, update_high ty u,
    TransactionType.isSome_ofU8? tx.idByte⟩

/-- An id whose low byte is 5, as a peer may send it: no `update` builds it,
and `transaction_type` reaches `unreachable_unchecked` on it. -/
theorem transactionType_wire_unreachable :
    (⟨5#128⟩ : Transaction).transactionType = none ∧
      ∀ ty u, update ty u ≠ ⟨5#128⟩ := by
  have h5 : (⟨5#128⟩ : Transaction).transactionType = none := by decide
  refine ⟨h5, fun ty u h => ?_⟩
  have := transactionType_update ty u
  rw [h, h5] at this
  cases this

/-! ### Age -/

/-- `config::OPERATION_TTL`, in milliseconds. -/
def operationTtl : Nat := 60000

/-- `Ulid::timestamp_ms`: the upper 48 bits of the id, the creation time in
milliseconds since the epoch. -/
def timestampMs (tx : Transaction) : Nat := (tx.id >>> 80).toNat

/-- `elapsed` at the time `now` (milliseconds since the epoch): zero for an
id from the future. -/
def elapsed (tx : Transaction) (now : Nat) : Nat :=
  if now < tx.timestampMs then 0 else now - tx.timestampMs

/-- `timed_out` at the time `now`. -/
def timedOut (tx : Transaction) (now : Nat) : Bool :=
  operationTtl ≤ tx.elapsed now

/-- `ttl_transaction` at the time `now`, from the bits `rand` of the fresh
ULID it starts from: the low 64 of them are kept and the timestamp is set to
`now - OPERATION_TTL` (the clock is taken to be past the first minute of
1970, where the `u64` subtraction would overflow). -/
def ttlTransaction (now : Nat) (rand : BitVec 128) : Transaction :=
  ⟨(rand &&& 0xFFFFFFFFFFFFFFFF#128) ||| (BitVec.ofNat 128 (now - operationTtl) <<< 80)⟩

end Transaction

end FreenetCore
