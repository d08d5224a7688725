import FreenetCore.Lib.MachineInt
import FreenetCore.Message
import FreenetCore.WasmRuntime.CodeStores

/-!
What the network operations share (`operations.rs`): peers, the contract
handler's store answers, the operations' errors, and what `handle_op_result`
does with the result of one `process_message`.

One node's operation is a state machine driven by the messages of its
transaction. Each step reads the node's ring and asks its contract handler;
both change while the operation runs (other operations seed, subscribe and
store), so a step is given a view of them as they stand when it runs, and a
run of an operation is a sequence of (view, message) pairs. Routing itself
(`closest_potentially_caching`, `should_seed`) is a parameter of the view.
-/

namespace FreenetCore.Operations

open FreenetCore.WasmRuntime MachineInt

/-- A peer's id (`PeerId`). -/
abbrev PeerId := Nat

/-- A location on the ring (`Location`, an `f64` in `[0, 1]`), as the
rational it is. Its `PartialEq` compares up to `f64::EPSILON`; here two
locations are equal when they are the same number. -/
abbrev Location := ℚ

/-- `Location::from_contract_key`: the bytes as the digits of a fraction in
base 256. The `f64` sum rounds; here it is exact. -/
def Location.fromContractKey (bytes : List UInt8) : Location :=
  (bytes.foldl (fun (acc : ℚ × ℚ) b => (acc.1 + b.toNat / acc.2, acc.2 * 256)) (0, 256)).1

/-- `Location::distance`: the distance the short way around the ring. -/
def Location.distance (a b : Location) : ℚ :=
  let d := |a - b|
  if d < 1 / 2 then d else 1 - d

/-- `PeerKeyLocation`: a peer and its location on the ring, if it has been
given one. The order is the derived one, by peer and then by location. -/
structure PeerKeyLocation where
  peer : PeerId
  location : Option Location
  deriving DecidableEq, Repr, Ord, Inhabited

/-- `StoreResponse`: a contract's state and code, as far as a node has them. -/
structure StoreResponse where
  state : Option (List UInt8)
  contract : Option ContractContainer
  deriving DecidableEq

/-- `RingError`. -/
inductive RingError
  | emptyRing
  | noCachingPeers (key : ContractKey)
  deriving DecidableEq

/-- `OpError`, with the variants the modelled operations return.
`contractHandler` is an error of the contract handler's channel. -/
inductive OpError
  | unexpectedOpState
  | invalidTransition (id : Transaction)
  | ringError (e : RingError)
  | maxRetriesExceeded (id : Transaction) (ty : TransactionType)
  | statePushed
  | executorError
  | contractNotFound (key : ContractKey)
  | contractHandler
  deriving DecidableEq

/-- What the contract handler answers to a `PutQuery`: `PutResponse` with
`Ok`, `PutResponse` with `Err`, or an error of its channel. -/
inductive PutQueryResponse
  | ok
  | executorError
  | handlerError
  deriving DecidableEq

/-- `OperationResult`, for an operation's own message and state types. -/
structure OperationResult (μ ω : Type) where
  returnMsg : Option μ
  state : Option ω

/-- What a node fixes for all its operations: `max_hops_to_live`, its own
location, and the build profile, which decides what an arithmetic overflow
does. -/
structure NodeConfig where
  maxHopsToLive : Nat
  ownLocation : PeerKeyLocation
  profile : Profile

/-- What `handle_op_result` does with the result of `process_message`: the
operation is kept (`push`) with the message sent, or it is completed (its
final state returned when it is finalized), or it was pushed already
(`StatePushed`), or it failed. -/
inductive Handled (μ ω : Type)
  | pushed (op : ω) (sent : Option μ)
  | completed (final : Option ω) (sent : Option μ)
  | statePushed
  | failed (e : OpError)

/-- `handle_op_result`, for operations whose finality is `finalized`.
Sending and pushing are taken to succeed. -/
def handleOpResult {μ ω : Type} (finalized : ω → Bool) :
    Except OpError (OperationResult μ ω) → Handled μ ω
  | .error .statePushed => .statePushed
  | .error e => .failed e
  | .ok ⟨some msg, some op⟩ => .pushed op (some msg)
  | .ok ⟨none, some op⟩ => if finalized op then .completed (some op) none else .pushed op none
  | .ok ⟨some msg, none⟩ => .completed none (some msg)
  | .ok ⟨none, none⟩ => .completed none none

section HandleOpResult

variable {μ ω : Type} {finalized : ω → Bool} {res : Except OpError (OperationResult μ ω)}

/-- An operation kept by the op manager is the one the step returned. -/
theorem handleOpResult_pushed {op : ω} {sent : Option μ}
    (h : handleOpResult finalized res = .pushed op sent) : ∃ msg, res = .ok ⟨msg, some op⟩ := by
  unfold handleOpResult at h
  split at h <;> try cases h
  · exact ⟨_, rfl⟩
  · split at h
    · cases h
    · cases h
      exact ⟨_, rfl⟩

/-- An operation completes with its final state only from a step that
returned it with no message, finalized. -/
theorem handleOpResult_completed_some {op : ω} {sent : Option μ}
    (h : handleOpResult finalized res = .completed (some op) sent) :
    res = .ok ⟨none, some op⟩ ∧ finalized op = true := by
  unfold handleOpResult at h
  split at h <;> try cases h
  split at h
  · cases h
    exact ⟨rfl, by assumption⟩
  · cases h

end HandleOpResult

end FreenetCore.Operations
