import Mathlib.Data.List.Basic
import Mathlib.Logic.Encodable.Basic

/-!
JSON values, and codecs between them and a program's data, as `serde_json`
writes and reads a type with a derived `Serialize` and `Deserialize`.

A value is a tree whose objects keep their members in the order they were
written. A derived struct is an object with a member for each field, in the
order of the fields; its decoder looks each field up by name, ignores
members it does not know, and fails on a missing field unless the field has
a default. A derived enum with data is written externally tagged: an object
whose one member is named after the variant. Its decoder reads the first
member's name as the variant and fails when no variant has that name, or
when a second member follows. A unit variant is written as its name.

A `Codec` is an encoder with its decoder, and carries the round trip: what
is decoded from an encoding is the value encoded. Bytes are not modelled: a
value stands for its text, and reading back the text `serde_json` wrote
gives the value again. Where a member is written twice the decoder here
reads the first, where `serde_json` refuses the object; no encoder here
writes one twice.
-/

namespace SerdeJson

/-- A JSON value. -/
inductive Value
  | null
  | bool (b : Bool)
  | number (n : Int)
  | string (s : String)
  | array (elems : List Value)
  | object (members : List (String × Value))

/-- The error of a decoding: `serde_json::Error`'s message. -/
abbrev Error := String

/-- An encoder, its decoder, and the round trip. -/
structure Codec (α : Type) where
  encode : α → Value
  decode : Value → Except Error α
  decode_encode : ∀ a, decode (encode a) = .ok a

attribute [simp] Codec.decode_encode

/-- What decodes back is never encoded from two values. -/
theorem Codec.encode_injective {α : Type} (c : Codec α) : Function.Injective c.encode := by
  intro a b h
  have hb : c.decode (c.encode a) = .ok b := by rw [h, c.decode_encode]
  rw [c.decode_encode, Except.ok.injEq] at hb
  exact hb

/-- The decoder of a struct: an object, read by `read` from its members. -/
def decodeObject {α : Type} (read : List (String × Value) → Except Error α) : Value → Except Error α
  | .object members => read members
  | _ => .error "invalid type: expected a map"

/-- A field of a struct, read from the object's members. -/
def field {α : Type} (members : List (String × Value)) (name : String) (c : Codec α) :
    Except Error α :=
  match members.lookup name with
  | some v => c.decode v
  | none => .error ("missing field " ++ name)

/-- A field with `#[serde(default)]`: `default` when the member is absent. -/
def fieldOr {α : Type} (members : List (String × Value)) (name : String) (c : Codec α) (default : α) :
    Except Error α :=
  match members.lookup name with
  | some v => c.decode v
  | none => .ok default

/-- The decoder of an externally tagged enum: the first member names the
variant, whose decoder reads the member's value, and no member may follow. -/
def decodeEnum {α : Type} (variant : String → Option (Value → Except Error α)) :
    Value → Except Error α
  | .object ((name, v) :: rest) =>
      match variant name with
      | none => .error ("unknown variant " ++ name)
      | some dec => do
          let a ← dec v
          if rest.isEmpty then pure a else .error "expected end of map"
  | _ => .error "invalid type: expected an enum"

/-- A decoding that succeeds goes on with what it decoded. -/
@[simp] theorem ok_bind {α β ε : Type} (a : α) (f : α → Except ε β) :
    (Except.ok a >>= f) = f a := rfl

@[simp] theorem error_bind {α β ε : Type} (e : ε) (f : α → Except ε β) :
    (Except.error e >>= f) = .error e := rfl

/-- A computation that goes on with its result, and succeeds, succeeded
first. -/
theorem bind_eq_ok {α β ε : Type} {x : Except ε α} {f : α → Except ε β} {b : β} (h : (x >>= f) = .ok b) :
    ∃ a, x = .ok a ∧ f a = .ok b := by
  cases x with
  | error e => cases h
  | ok a => exact ⟨a, rfl, h⟩

/-- A computation whose result is mapped succeeded with what was mapped. -/
theorem map_eq_ok {α β ε : Type} {f : α → β} {x : Except ε α} {b : β} (h : x.map f = .ok b) :
    ∃ a, x = .ok a ∧ f a = b := by
  cases x with
  | error e => cases h
  | ok a => exact ⟨a, rfl, Except.ok.inj h⟩

/-- A traversal that succeeds on a list with a head succeeded on the head,
then on the rest. -/
theorem mapM_cons_eq_ok {α β ε : Type} {f : α → Except ε β} {a : α} {l : List α} {l' : List β}
    (h : (a :: l).mapM f = .ok l') : ∃ b bs, f a = .ok b ∧ l.mapM f = .ok bs ∧ l' = b :: bs := by
  rw [List.mapM_cons] at h
  obtain ⟨b, hb, h⟩ := bind_eq_ok h
  obtain ⟨bs, hbs, h⟩ := bind_eq_ok h
  exact ⟨b, bs, hb, hbs, (Except.ok.inj h).symm⟩

/-- A decoding's error becomes the program's own. -/
@[simp] theorem mapError_ok {α ε ε' : Type} (a : α) (f : ε → ε') :
    (Except.ok a : Except ε α).mapError f = .ok a := rfl

@[simp] theorem mapError_error {α ε ε' : Type} (e : ε) (f : ε → ε') :
    (Except.error e : Except ε α).mapError f = .error (f e) := rfl

@[simp] theorem decodeObject_object {α : Type} (read : List (String × Value) → Except Error α)
    (members : List (String × Value)) : decodeObject read (.object members) = read members := rfl

/-- A field is read from the first member of its name. -/
@[simp] theorem field_cons_self {α : Type} (name : String) (v : Value)
    (members : List (String × Value)) (c : Codec α) :
    field ((name, v) :: members) name c = c.decode v := by
  simp [field]

/-- The decoder of an enum refuses an object whose first member names no
variant, whatever follows it. -/
theorem decodeEnum_unknown {α : Type} {variant : String → Option (Value → Except Error α)}
    {name : String} (h : variant name = none) (v : Value) (rest : List (String × Value)) :
    decodeEnum variant (.object ((name, v) :: rest)) = .error ("unknown variant " ++ name) := by
  simp [decodeEnum, h]

/-- The decoder of an enum reads a variant written alone. -/
theorem decodeEnum_variant {α : Type} {variant : String → Option (Value → Except Error α)}
    {name : String} {dec : Value → Except Error α} (h : variant name = some dec) (v : Value) :
    decodeEnum variant (.object [(name, v)]) = dec v := by
  cases hv : dec v <;> simp [decodeEnum, h, hv]

namespace Codec

/-- `u8`: a number from `0` to `255`. -/
def u8 : Codec UInt8 where
  encode b := .number b.toNat
  decode
    | .number n => if 0 ≤ n ∧ n < 256 then .ok n.toNat.toUInt8 else .error "invalid value: expected u8"
    | _ => .error "invalid type: expected u8"
  decode_encode b := by
    have hb := b.toNat_lt
    simp only [Int.natCast_nonneg, true_and, Int.toNat_natCast]
    rw [if_pos (by omega)]
    simp

/-- A sequence (`Vec<T>`, a slice, a set written as its elements): an array
of the elements. -/
def list {α : Type} (c : Codec α) : Codec (List α) where
  encode xs := .array (xs.map c.encode)
  decode
    | .array vs => vs.mapM c.decode
    | _ => .error "invalid type: expected a sequence"
  decode_encode xs := by
    induction xs with
    | nil => rfl
    | cons x xs ih =>
        simp only [List.map_cons, List.mapM_cons, c.decode_encode] at ih ⊢
        rw [ih]
        rfl

/-- The values of a codec that a check accepts, the check made after
decoding (an array of a fixed length). -/
def subtype {α : Type} (c : Codec α) (p : α → Prop) [DecidablePred p] (msg : Error) :
    Codec { a // p a } where
  encode a := c.encode a.val
  decode v := do
    let a ← c.decode v
    if h : p a then pure ⟨a, h⟩ else .error msg
  decode_encode a := by
    simp only [c.decode_encode]
    show (if h : p a.val then (pure ⟨a.val, h⟩ : Except Error { a // p a }) else .error msg) = .ok a
    rw [dif_pos a.property]
    rfl

/-- A byte string (`Vec<u8>`, `Box<[u8]>`). -/
def bytes : Codec (List UInt8) := list u8

end Codec

/-- A type's bytes (`serde_json::to_vec`, `serde_json::from_slice`): reading
back what was written gives the value again, and no value is written as no
bytes at all. -/
structure ByteCodec (α : Type) where
  encode : α → List UInt8
  decode : List UInt8 → Except Error α
  decode_encode : ∀ a, decode (encode a) = .ok a
  encode_ne_nil : ∀ a, encode a ≠ []

attribute [simp] ByteCodec.decode_encode

/-- Every countable type has byte codecs; one writes a value's code in unary. -/
def ByteCodec.ofEncodable (α : Type) [Encodable α] : ByteCodec α where
  encode a := List.replicate (Encodable.encode a) 0 ++ [1]
  decode bytes :=
    match Encodable.decode (bytes.length - 1) with
    | some a => .ok a
    | none => .error "invalid code"
  decode_encode a := by simp [Encodable.encodek]
  encode_ne_nil a := by simp

end SerdeJson
