import FreenetCore.Node.Ring
import FreenetCore.Lib.Since

/-!
The contracts a node seeds (`ring.rs`): `seeding_contract`, a map from a
contract to its `Score`, with the two calls the put operation makes on it,
`should_seed` and `seed_contract`.

`Score` has a hand-written `PartialOrd` whose `partial_cmp` calls `cmp`, and
an `Ord` whose `cmp` calls `partial_cmp`: neither ever returns. Each call is
modelled with the stack left as its fuel, and `none` is the overflow; so
`min_by_key` over two scores or more never returns, and over none it gives
the `None` that `unwrap` panics on.

`seed_contract` evicts the lowest-scored contract when the map is *below*
`MAX_SEEDING_CONTRACTS`, and inserts with no eviction when it is at the cap
or above. Nothing else inserts into the map, and a new ring starts with it
empty.

The map is a `DashMap`, iterated in an order of its own: here a list of
entries, one per contract, keyed by the contract's instance id as
`ContractKey`'s `Eq` and `Hash` compare.
-/

namespace FreenetCore.Node

open FreenetCore.Operations FreenetCore.WasmRuntime

/-- `Ring::MAX_SEEDING_CONTRACTS`. -/
def maxSeedingContracts : Nat := 100

/-- `Ring::MIN_SEEDING_CONTRACTS`. -/
def minSeedingContracts : Nat := maxSeedingContracts / 4

/-- `CACHING_DISTANCE` of `should_seed`. -/
def cachingDistance : ℚ := 5 / 100

/-- `Score`, an `f64`, as the rational it is. -/
structure Score where
  val : ℚ
  deriving DecidableEq

mutual

/-- `<Score as PartialOrd>::partial_cmp`, which is `Some(self.cmp(other))`;
`depth` is the stack left, and `none` is its overflow. -/
def Score.partialCmp : Nat → Score → Score → Option (Option Ordering)
  | 0, _, _ => none
  | depth + 1, a, b => (Score.cmp depth a b).map some

/-- `<Score as Ord>::cmp`, which is
`self.partial_cmp(other).unwrap_or(Ordering::Equal)`. -/
def Score.cmp : Nat → Score → Score → Option Ordering
  | 0, _, _ => none
  | depth + 1, a, b => (Score.partialCmp depth a b).map (·.getD .eq)

end

/-- Neither comparison of scores returns, whatever the stack. The two
functions are proved together, by induction on the stack they have. -/
theorem Score.cmp_partialCmp_none (depth : Nat) (a b : Score) :
    Score.cmp depth a b = none ∧ Score.partialCmp depth a b = none := by
  induction depth with
  | zero => exact ⟨rfl, rfl⟩
  | succ depth ih => simp [Score.cmp, Score.partialCmp, ih.1, ih.2]

@[simp] theorem Score.cmp_none (depth : Nat) (a b : Score) : Score.cmp depth a b = none :=
  (Score.cmp_partialCmp_none depth a b).1

@[simp] theorem Score.partialCmp_none (depth : Nat) (a b : Score) :
    Score.partialCmp depth a b = none :=
  (Score.cmp_partialCmp_none depth a b).2

/-- `iter().min_by_key(|v| *v.value())` over the map's entries: `reduce`
with `cmp::min_by`, which keeps the earlier entry unless it compares
greater. The outer `none` is a comparison that never returns, the inner one
an empty map. -/
def minByScore (depth : Nat) : List (ContractKey × Score) → Option (Option (ContractKey × Score))
  | [] => some none
  | e :: es =>
      (es.foldlM (fun m e' => (Score.cmp depth m.2 e'.2).map fun o => if o = .gt then e' else m)
        e).map some

@[simp] theorem minByScore_nil (depth : Nat) : minByScore depth [] = some none := rfl

@[simp] theorem minByScore_singleton (depth : Nat) (e : ContractKey × Score) :
    minByScore depth [e] = some (some e) := rfl

/-- Over two entries or more the first comparison is made, and never returns. -/
theorem minByScore_of_two (depth : Nat) (e e' : ContractKey × Score) (es : List _) :
    minByScore depth (e :: e' :: es) = none := by
  simp [minByScore, List.foldlM_cons]

/-- `DashMap::remove` of a contract's entry. -/
def removeSeed (m : List (ContractKey × Score)) (key : ContractKey) : List (ContractKey × Score) :=
  m.filter (·.1.id != key.id)

/-- `DashMap::insert`: the score of an entry already there is replaced, and
its key kept; a new contract is added. -/
def insertSeed (m : List (ContractKey × Score)) (key : ContractKey) (score : Score) :
    List (ContractKey × Score) :=
  if m.any (·.1.id == key.id) then m.map fun e => if e.1.id = key.id then (e.1, score) else e
  else m ++ [(key, score)]

/-- The fields of `Ring` its connection and subscriber calls use, with
`seeding_contract`. -/
structure SeedingRing extends Ring where
  seedingContract : List (ContractKey × Score)

/-- `Ring::new`: no contract seeded. -/
def SeedingRing.new (maxConnections minConnections : Nat) (ownLocation : Option Location) :
    SeedingRing :=
  { Ring.new maxConnections minConnections ownLocation with seedingContract := [] }

namespace SeedingRing

/-- `calculate_seed_score`: half the ring less the contract's distance;
`none` is the `expect` on a node with no location. -/
def calculateSeedScore (s : SeedingRing) (key : ContractKey) : Option Score :=
  s.ownLocation.map fun location =>
    ⟨1 / 2 - Location.distance (Location.fromContractKey key.id.val) location⟩

/-- `is_seeding_contract`. -/
def isSeedingContract (s : SeedingRing) (key : ContractKey) : Bool :=
  s.seedingContract.any (·.1.id == key.id)

/-- `should_seed`; `none` is the `expect` on a node with no location, or a
comparison of scores that never returns. -/
def shouldSeed (depth : Nat) (s : SeedingRing) (key : ContractKey) : Option Bool :=
  if s.seedingContract.length < minSeedingContracts then some true
  else
    let keyLoc := Location.fromContractKey key.id.val
    match s.ownLocation with
    | none => none
    | some ownLoc =>
        if s.seedingContract.length < maxSeedingContracts then
          some (decide (Location.distance ownLoc keyLoc ≤ cachingDistance))
        else do
          let contractScore ← s.calculateSeedScore key
          let r ← (← minByScore depth s.seedingContract)
          -- `contract_score > min_score` is `partial_cmp`, which calls `cmp`
          let o ← Score.partialCmp depth contractScore r.2
          pure (o = some .gt)

/-- `seed_contract`: the new ring, the contract dropped and its
subscribers. `none` is the `expect` on a node with no location, the `unwrap`
of `min_by_key` on an empty map, or a comparison that never returns. -/
def seedContract (depth : Nat) (s : SeedingRing) (key : ContractKey) :
    Option (SeedingRing × Option ContractKey × List PeerKeyLocation) := do
  let seedScore ← s.calculateSeedScore key
  if s.seedingContract.length < maxSeedingContracts then
    let dropped ← (← minByScore depth s.seedingContract)
    let oldSubscribers := (s.subscribers dropped.1.id).getD []
    let s' := { s with
      seedingContract := insertSeed (removeSeed s.seedingContract dropped.1) key seedScore
      subscribers := Function.update s.subscribers dropped.1.id none }
    pure (s', some dropped.1, oldSubscribers)
  else
    pure ({ s with seedingContract := insertSeed s.seedingContract key seedScore }, none, [])

end SeedingRing

/-! ### Runs of calls -/

/-- The calls on a node's ring: its connection and subscriber calls, and the
put operation's `should_seed` and `seed_contract`. -/
inductive SeedingCall
  | ring (c : RingCall)
  | shouldSeed (key : ContractKey)
  | seedContract (key : ContractKey)

namespace SeedingRing

/-- One call, with `depth` the stack a comparison of scores has; `none` is a
panic or a call that never returns. -/
def step (depth : Nat) (s : SeedingRing) : SeedingCall → Option SeedingRing
  | .ring c => (s.toRing.step c).map fun r => { s with toRing := r }
  | .shouldSeed key => (s.shouldSeed depth key).map fun _ => s
  | .seedContract key => (s.seedContract depth key).map Prod.fst

/-- A run of calls, stopped by the first panic. -/
def run (depth : Nat) (s : SeedingRing) (calls : List SeedingCall) : Option SeedingRing :=
  calls.foldlM (step depth) s

@[simp] theorem run_nil (depth : Nat) (s : SeedingRing) : s.run depth [] = some s := rfl

@[simp] theorem run_cons (depth : Nat) (s : SeedingRing) (c : SeedingCall) (cs : List SeedingCall) :
    s.run depth (c :: cs) = (s.step depth c).bind (·.run depth cs) := rfl

variable {depth : Nat} {s s' : SeedingRing} {key : ContractKey}

/-- Below `MIN_SEEDING_CONTRACTS` every contract is to be seeded. -/
theorem shouldSeed_of_lt_min (h : s.seedingContract.length < minSeedingContracts) :
    s.shouldSeed depth key = some true := by
  simp [shouldSeed, h]

/-- On an empty map `seed_contract` reaches the `unwrap` of `min_by_key`. -/
theorem seedContract_of_nil (h : s.seedingContract = []) : s.seedContract depth key = none := by
  cases hs : s.calculateSeedScore key with
  | none => simp [seedContract, hs]
  | some score => simp [seedContract, hs, h, maxSeedingContracts]

/-- With two contracts or more below the cap, the eviction compares scores,
and never returns. -/
theorem seedContract_of_two {e e' : ContractKey × Score} {es : List (ContractKey × Score)}
    (h : s.seedingContract = e :: e' :: es) (hlt : s.seedingContract.length < maxSeedingContracts) :
    s.seedContract depth key = none := by
  cases hs : s.calculateSeedScore key with
  | none => simp [seedContract, hs]
  | some score =>
      simp only [seedContract, hs, hlt, Option.bind_eq_bind, Option.bind_some, if_true]
      rw [h, minByScore_of_two]
      rfl

/-- With one contract, below the cap, it is dropped for the new one. -/
theorem seedContract_of_singleton {e : ContractKey × Score} {score : Score}
    (h : s.seedingContract = [e]) (hs : s.calculateSeedScore key = some score) :
    (s.seedContract depth key).map (fun r => (r.1.seedingContract, r.2.1)) =
      some (insertSeed (removeSeed [e] e.1) key score, some e.1) := by
  have hlt : s.seedingContract.length < maxSeedingContracts := by
    simp [h, maxSeedingContracts]
  simp only [seedContract, hs, hlt, Option.bind_eq_bind, Option.bind_some, if_true]
  rw [h]
  rfl

/-- At the cap or above nothing is dropped, and a new contract is added: the
map grows past `MAX_SEEDING_CONTRACTS`. -/
theorem seedContract_of_full {score : Score} (hfull : maxSeedingContracts ≤ s.seedingContract.length)
    (hs : s.calculateSeedScore key = some score) (hnew : s.isSeedingContract key = false) :
    (s.seedContract depth key).map (fun r => (r.1.seedingContract, r.2.1)) =
      some (s.seedingContract ++ [(key, score)], none) := by
  have hge : ¬ s.seedingContract.length < maxSeedingContracts := Nat.not_lt.mpr hfull
  have hins : insertSeed s.seedingContract key score = s.seedingContract ++ [(key, score)] := by
    simp only [insertSeed]
    rw [if_neg (by simpa [isSeedingContract] using hnew)]
  simp only [seedContract, hs, hge, Option.bind_eq_bind, Option.bind_some, if_false, hins]
  rfl

/-- One call keeps the map empty: the ring's own calls and `should_seed`
leave it alone, and `seed_contract` on an empty map panics. -/
theorem step_seeding_nil {c : SeedingCall} (h : s.seedingContract = [])
    (hs : s.step depth c = some s') : s'.seedingContract = [] := by
  cases c with
  | ring c =>
      obtain ⟨r, -, rfl⟩ := Option.map_eq_some_iff.mp hs
      exact h
  | shouldSeed key =>
      obtain ⟨b, -, rfl⟩ := Option.map_eq_some_iff.mp hs
      exact h
  | seedContract key =>
      simp [step, seedContract_of_nil h] at hs

/-- A whole run keeps the map empty. -/
theorem run_seeding_nil {cs : List SeedingCall} (h : s.seedingContract = [])
    (hs : s.run depth cs = some s') : s'.seedingContract = [] :=
  History.foldlM_invariant (fun s => s.seedingContract = []) (fun _ _ _ _ h₀ h₁ => step_seeding_nil h₀ h₁) h hs

/-- The put operation never gets a contract seeded. From a new ring with its
location set, after any run of calls, the map is still empty: `should_seed`
says every contract is to be seeded, none is, and `seed_contract`, which the
put operation then calls, panics in the `unwrap` of `min_by_key`. -/
theorem seeding_never_starts (maxC minC : Nat) (own : Location) (calls : List SeedingCall)
    (hrun : (SeedingRing.new maxC minC (some own)).run depth calls = some s) (key : ContractKey) :
    s.seedingContract = [] ∧ s.shouldSeed depth key = some true ∧
      s.isSeedingContract key = false ∧ s.seedContract depth key = none := by
  have hnil : s.seedingContract = [] := run_seeding_nil rfl hrun
  refine ⟨hnil, shouldSeed_of_lt_min ?_, by simp [isSeedingContract, hnil], seedContract_of_nil hnil⟩
  simp [hnil, minSeedingContracts, maxSeedingContracts]

theorem seeding_never_starts_new :
    let s := SeedingRing.new 200 5 (some 0)
    let key : ContractKey := ⟨.replicate 1, none⟩
    s.run 1000 [] = some s ∧
      (s.seedingContract = [] ∧ s.shouldSeed 1000 key = some true ∧
        s.isSeedingContract key = false ∧ s.seedContract 1000 key = none) :=
  ⟨rfl, seeding_never_starts 200 5 0 [] rfl _⟩

end SeedingRing

end FreenetCore.Node
