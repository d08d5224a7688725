import Mathlib.Data.List.Basic
import Mathlib.Tactic.Ring

/-!
Byte strings as lists of `UInt8`: the fixed-width big-endian word codec, a
write at a position (what a seekable file does), and an exact read at a
position (what a reader does when it fills a buffer).

Positions are byte offsets. A write past the end of the data extends it and
fills the gap with zeros, so every write is total; a read is partial and
fails exactly when the data ends before the requested bytes do.
-/

namespace Bytes

/-- The four bytes of `n` as a big-endian 32-bit word; `n` is taken modulo
`2 ^ 32`, as a cast to a 32-bit word does. -/
def u32be (n : Nat) : List UInt8 :=
  [UInt8.ofNat (n / 2 ^ 24 % 2 ^ 8), UInt8.ofNat (n / 2 ^ 16 % 2 ^ 8),
    UInt8.ofNat (n / 2 ^ 8 % 2 ^ 8), UInt8.ofNat (n % 2 ^ 8)]

/-- The big-endian value of four bytes. -/
def readU32be : List UInt8 → Nat
  | [b₀, b₁, b₂, b₃] =>
      b₀.toNat * 2 ^ 24 + b₁.toNat * 2 ^ 16 + b₂.toNat * 2 ^ 8 + b₃.toNat
  | _ => 0

/-- The little-endian value of four bytes (`u32::from_le_bytes`). -/
def readU32le (bs : List UInt8) : Nat := readU32be bs.reverse

@[simp] theorem u32be_length (n : Nat) : (u32be n).length = 4 := rfl

/-- Decoding a word that was encoded gives the value back modulo `2 ^ 32`. -/
theorem readU32be_u32be (n : Nat) : readU32be (u32be n) = n % 2 ^ 32 := by
  simp only [u32be, readU32be, UInt8.toNat_ofNat']
  omega

/-- A big-endian word read little-endian puts its low byte on top. -/
theorem readU32le_u32be (n : Nat) : (n % 2 ^ 8) * 2 ^ 24 ≤ readU32le (u32be n) := by
  simp only [readU32le, u32be, List.reverse_cons, List.reverse_nil, List.nil_append,
    List.cons_append, readU32be, UInt8.toNat_ofNat']
  omega

/-- The eight bytes of `n` as a little-endian 64-bit word (`u64::to_le_bytes`),
`n` taken modulo `2 ^ 64`. -/
def u64le (n : Nat) : List UInt8 :=
  (List.range 8).map fun i => UInt8.ofNat (n / 2 ^ (8 * i) % 2 ^ 8)

/-- The eight bytes of `n` as a big-endian 64-bit word
(`write_u64::<BigEndian>`), `n` taken modulo `2 ^ 64`: the high word, then
the low one. -/
def u64be (n : Nat) : List UInt8 := u32be (n / 2 ^ 32) ++ u32be n

/-- The big-endian value of eight bytes. -/
def readU64be (bs : List UInt8) : Nat := readU32be (bs.take 4) * 2 ^ 32 + readU32be (bs.drop 4)

@[simp] theorem u64be_length (n : Nat) : (u64be n).length = 8 := rfl

theorem readU64be_u64be (n : Nat) : readU64be (u64be n) = n % 2 ^ 64 := by
  rw [readU64be, u64be, List.take_left' (u32be_length _), List.drop_left' (u32be_length _),
    readU32be_u32be, readU32be_u32be]
  omega

/-- `i64::to_le_bytes`: the two's complement word of `t`. -/
def i64le (t : Int) : List UInt8 := u64le (t % 2 ^ 64).toNat

@[simp] theorem u64le_length (n : Nat) : (u64le n).length = 8 := by
  simp [u64le]

/-- Writing `bytes` at `pos`: what lies before `pos` is kept (padded with
zeros up to `pos`), the bytes replace what was there, and what lies after
them is kept. -/
def writeAt (data : List UInt8) (pos : Nat) (bytes : List UInt8) : List UInt8 :=
  data.take pos ++ List.replicate (pos - data.length) 0 ++ bytes ++
    data.drop (pos + bytes.length)

/-- The `n` bytes at `pos`, when the data holds them. -/
def readExact (data : List UInt8) (pos n : Nat) : Option (List UInt8) :=
  if pos + n ≤ data.length then some ((data.drop pos).take n) else none

/-- A write at the end of the data appends. -/
@[simp] theorem writeAt_length (data bytes : List UInt8) :
    writeAt data data.length bytes = data ++ bytes := by
  simp [writeAt]

/-! ### Reading at a cursor

A reader's position `pos` in `data` is described by what lies from it on:
`data.drop pos = xs ++ rest`. -/

theorem add_length_le_of_drop {data xs rest : List UInt8} {pos : Nat}
    (h : data.drop pos = xs ++ rest) (hpos : pos ≤ data.length) :
    pos + xs.length ≤ data.length := by
  have := congrArg List.length h
  simp only [List.length_drop, List.length_append] at this
  omega

theorem readExact_of_drop {data xs rest : List UInt8} {pos : Nat}
    (h : data.drop pos = xs ++ rest) (hpos : pos ≤ data.length) :
    readExact data pos xs.length = some xs := by
  simp [readExact, add_length_le_of_drop h hpos, h]

theorem drop_add_of_drop {data xs rest : List UInt8} {pos : Nat}
    (h : data.drop pos = xs ++ rest) : data.drop (pos + xs.length) = rest := by
  rw [← List.drop_drop, h, List.drop_left]

/-- No byte can be read at the end of the data. -/
theorem readExact_length (data : List UInt8) {n : Nat} (hn : 0 < n) :
    readExact data data.length n = none := by
  simp only [readExact]
  rw [if_neg (by omega)]

/-- A write at the start keeps what lies past the written bytes. -/
theorem writeAt_zero (data bytes : List UInt8) :
    writeAt data 0 bytes = bytes ++ data.drop bytes.length := by
  simp [writeAt]

/-- A write where the data's known prefix `a` ends. -/
theorem writeAt_append_length (a rest bytes : List UInt8) :
    writeAt (a ++ rest) a.length bytes = a ++ bytes ++ rest.drop bytes.length := by
  simp [writeAt, List.drop_append]

/-- Two writes from the start, one after the other, are one write. -/
theorem writeAt_zero_writeAt (data a b : List UInt8) :
    writeAt (writeAt data 0 a) a.length b = writeAt data 0 (a ++ b) := by
  rw [writeAt_zero, writeAt_append_length, writeAt_zero, List.drop_drop, List.length_append,
    List.append_assoc]

/-- Overwriting one byte. -/
theorem writeAt_cons (pre tail : List UInt8) (b x : UInt8) :
    writeAt (pre ++ b :: tail) pre.length [x] = pre ++ x :: tail := by
  simp [writeAt, List.drop_append]

end Bytes
