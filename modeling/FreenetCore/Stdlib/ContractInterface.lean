import FreenetCore.Contract.Executor

/-!
The contract interface of `freenet_stdlib` (`ContractInterface`) as a
contract sees it: the updates `update_state` is given, what it answers, and
its errors.

The executor hands a contract byte strings (`Contract.UpdateData`); a
contract decodes them into its own types. Here the state, the delta and a
related contract's state of an update are given as the types a contract
reads them as: the decoded values, or the JSON a contract decodes itself
where the decoding is what is modelled.
-/

namespace FreenetCore.Stdlib

open FreenetCore.WasmRuntime FreenetCore.Contract

/-- `UpdateData`: the contract's own state and delta types `σ` and `δ`,
and `ρ` for what a related contract sends. -/
inductive UpdateData (σ δ ρ : Type)
  | state (state : σ)
  | delta (delta : δ)
  | stateAndDelta (state : σ) (delta : δ)
  | relatedState (relatedTo : Bytes32) (state : ρ)
  | relatedDelta (relatedTo : Bytes32) (delta : ρ)
  | relatedStateAndDelta (relatedTo : Bytes32) (state delta : ρ)

/-- `UpdateModification`: the new state, or the related contracts still
needed. -/
structure UpdateModification (σ : Type) where
  newState : Option σ
  related : List (Bytes32 × RelatedMode)

/-- `UpdateModification::valid`. -/
def UpdateModification.valid {σ : Type} (newState : σ) : UpdateModification σ := ⟨some newState, []⟩

/-- `UpdateModification::requires`. -/
def UpdateModification.requires {σ : Type} (related : List (Bytes32 × RelatedMode)) :
    UpdateModification σ := ⟨none, related⟩

/-- `ContractError`. A contract that reports one of its own errors formats
it into the message; `ε` is that error, whose text the message is. -/
inductive ContractError (ε : Type)
  | deser (msg : String)
  | invalidState
  | invalidDelta
  | invalidUpdate
  | invalidUpdateWithInfo (reason : ε)
  | other (reason : ε)

end FreenetCore.Stdlib
