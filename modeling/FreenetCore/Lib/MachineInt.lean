import Mathlib.Data.Int.Basic
import Mathlib.Tactic.Ring

/-!
Fixed-width integer arithmetic as Rust performs it. An arithmetic overflow
panics in a build with overflow checks (the debug profile) and wraps in one
without (the release profile), so the operations that can overflow take the
profile and return `none` for the panic.

Only the operations the modelled code performs are here: a signed 64-bit
addition, a `u64` addition, a `usize` subtraction, a `u32` shift by a
`usize`, and the casts of narrower integers to `usize`.
-/

namespace MachineInt

/-- The build profile, as far as it decides what an overflow does. -/
inductive Profile
  | debug
  | release
  deriving DecidableEq, Repr

/-- `a + b` on `i64`: `none` is the overflow panic of a debug build. -/
def addI64 (p : Profile) (a b : Int64) : Option Int64 :=
  match p with
  | .debug =>
      if -2 ^ 63 ≤ a.toInt + b.toInt ∧ a.toInt + b.toInt < 2 ^ 63 then some (a + b) else none
  | .release => some (a + b)

/-- `a - b` on `usize` (64 bits): `none` is the overflow panic of a debug
build; a release build wraps below zero. -/
def subUsize (p : Profile) (a b : Nat) : Option Nat :=
  if b ≤ a then some (a - b)
  else
    match p with
    | .debug => none
    | .release => some ((a + 2 ^ 64 - b) % 2 ^ 64)

/-- A `usize` subtraction that does not go below zero is exact. -/
theorem subUsize_of_le {p : Profile} {a b : Nat} (h : b ≤ a) : subUsize p a b = some (a - b) := by
  simp [subUsize, h]

/-- `a + b` on `u64`: `none` is the overflow panic of a debug build. -/
def addU64 (p : Profile) (a b : UInt64) : Option UInt64 :=
  if a.toNat + b.toNat < 2 ^ 64 then some (a + b)
  else
    match p with
    | .debug => none
    | .release => some (a + b)

theorem addU64_of_lt {p : Profile} {a b : UInt64} (h : a.toNat + b.toNat < 2 ^ 64) :
    addU64 p a b = some (a + b) := by
  unfold addU64
  rw [if_pos h]

/-- `a << shift` on `u32` by a `usize`: `none` is the overflow panic of a
debug build for a shift of 32 or more; a release build shifts by the
amount's low five bits. -/
def shlU32 (p : Profile) (a : UInt32) (shift : Nat) : Option UInt32 :=
  if shift < 32 then some (a <<< shift.toUInt32)
  else
    match p with
    | .debug => none
    | .release => some (a <<< (shift % 32).toUInt32)

/-- Whatever the profile, a shift of one that returns is a power of two:
by the amount, below 32, and by its low five bits in a release build. -/
theorem toNat_one_shiftLeft (k : Nat) : ((1 : UInt32) <<< (k % 32).toUInt32).toNat = 2 ^ (k % 32) := by
  have hk : k % 32 < 32 := Nat.mod_lt _ (by decide)
  have hpow : 2 ^ (k % 32) < 2 ^ 32 := Nat.pow_lt_pow_right (by decide) hk
  rw [UInt32.toNat_shiftLeft, Nat.toUInt32_eq, UInt32.toNat_ofNat', Nat.mod_eq_of_lt
    (lt_trans hk (by decide)), Nat.mod_eq_of_lt hk, Nat.shiftLeft_eq, UInt32.toNat_one, one_mul,
    Nat.mod_eq_of_lt hpow]

theorem shlU32_release_one (k : Nat) :
    (shlU32 .release 1 k).map UInt32.toNat = some (2 ^ (k % 32)) := by
  unfold shlU32
  split
  · rename_i hk
    have hmod : k % 32 = k := Nat.mod_eq_of_lt hk
    rw [Option.map_some, ← toNat_one_shiftLeft k, hmod]
  · rw [Option.map_some, toNat_one_shiftLeft]

theorem shlU32_one_of_lt {p : Profile} {k : Nat} (hk : k < 32) :
    (shlU32 p 1 k).map UInt32.toNat = some (2 ^ k) := by
  have hmod : k % 32 = k := Nat.mod_eq_of_lt hk
  unfold shlU32
  rw [if_pos hk, Option.map_some]
  conv_lhs => rw [← hmod]
  rw [toNat_one_shiftLeft, hmod]

theorem shlU32_debug_of_le {a : UInt32} {k : Nat} (hk : 32 ≤ k) : shlU32 .debug a k = none := by
  simp [shlU32, Nat.not_lt.mpr hk]

/-- `x as usize` for an `i32`: sign extension to 64 bits. -/
def usizeOfI32 (x : Int32) : Nat :=
  (x.toInt % 2 ^ 64).toNat

/-- The address an `i64` denotes when it is cast to a pointer. -/
def addrOfI64 (x : Int64) : Nat :=
  x.toUInt64.toNat

/-- Whatever the profile, an addition that returns gives the wrapped sum. -/
theorem eq_add_of_addI64 {p : Profile} {a b c : Int64} (h : addI64 p a b = some c) :
    c = a + b := by
  cases p with
  | debug =>
      simp only [addI64] at h
      split at h
      · exact (Option.some.inj h).symm
      · cases h
  | release => exact (Option.some.inj h).symm

/-- An `i64` that counts up from zero by one stays the mathematical count
as long as it stays below `2 ^ 63 - 1`. -/
theorem toInt_add_one {x : Int64} (h0 : 0 ≤ x.toInt) (h : x.toInt < 2 ^ 63 - 1) :
    (x + 1).toInt = x.toInt + 1 := by
  rw [Int64.toInt_add]
  have h1 : (1 : Int64).toInt = 1 := by decide
  rw [h1]
  exact Int.bmod_eq_of_le (by omega) (by omega)

/-- An unsigned start address plus a non-negative `i64` offset, cast back to
an address, is the plain sum when that sum does not leave the address space. -/
theorem addrOfI64_add (base : UInt64) (ptr : Int64) (h0 : 0 ≤ ptr.toInt)
    (h : base.toNat + ptr.toInt.toNat < 2 ^ 64) :
    addrOfI64 (base.toInt64 + ptr) = base.toNat + ptr.toInt.toNat := by
  have hptr : ptr.toUInt64.toNat = ptr.toInt.toNat :=
    Int64.toNat_toUInt64_of_le (Int64.le_iff_toInt_le.mpr (by simpa using h0))
  rw [addrOfI64, Int64.toUInt64_add, UInt64.toUInt64_toInt64, UInt64.toNat_add, hptr]
  exact Nat.mod_eq_of_lt h

end MachineInt
