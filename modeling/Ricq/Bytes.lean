import Mathlib

/-!
# Byte buffers

The `bytes::Buf` reads, the `BufMut` writes and the `BinaryReader`/`BinaryWriter`
short-prefixed fields that the login decoder and `t546_to_t547` are built from, over
`List UInt8`. A read that `bytes` would abort on (`get_u16` on fewer than two bytes,
`copy_to_bytes` or `advance` past the end) returns `none`, so a `none` result of any
function built from them is a panic of the code. Big integers (`BigUint`) are `Nat`.

The round trips (`getU16_putU16`, `readBytesShort_writeBytesShort`) and their converses
(`eq_of_getU16`, `eq_of_readBytesShort`) are what the `t546_to_t547` theorems use.
-/

namespace Ricq

/-- `Bytes`, `Vec<u8>`, `&[u8]`: a byte string. -/
abbrev Bytes := List UInt8

/-! ## Reads (`bytes::Buf`) -/

/-- `get_u8`. -/
def getU8 : Bytes → Option (UInt8 × Bytes)
  | b :: rest => some (b, rest)
  | [] => none

/-- `get_u16`, big-endian. -/
def getU16 : Bytes → Option (UInt16 × Bytes)
  | b0 :: b1 :: rest => some (UInt16.ofNat (b0.toNat * 256 + b1.toNat), rest)
  | _ => none

/-- `get_u32`, big-endian. -/
def getU32 : Bytes → Option (UInt32 × Bytes)
  | b0 :: b1 :: b2 :: b3 :: rest =>
    some (UInt32.ofNat (((b0.toNat * 256 + b1.toNat) * 256 + b2.toNat) * 256 + b3.toNat), rest)
  | _ => none

/-- `copy_to_bytes(n)`. -/
def copyToBytes (n : Nat) (b : Bytes) : Option (Bytes × Bytes) :=
  if n ≤ b.length then some (b.take n, b.drop n) else none

/-- `advance(n)`. -/
def advance (n : Nat) (b : Bytes) : Option Bytes :=
  if n ≤ b.length then some (b.drop n) else none

/-- Modelled from the spec: `BinaryReader::read_bytes_short` is outside `src/`; a field
is "length-prefixed" by a `u16`, read with `get_u16` and then `copy_to_bytes`. -/
def readBytesShort (b : Bytes) : Option (Bytes × Bytes) := do
  let (len, b) ← getU16 b
  copyToBytes len.toNat b

/-! ## Writes (`bytes::BufMut`) -/

/-- `put_u16`, big-endian. -/
def putU16 (v : UInt16) : Bytes :=
  [UInt8.ofNat (v.toNat / 256), UInt8.ofNat v.toNat]

/-- `put_u32`, big-endian. -/
def putU32 (v : UInt32) : Bytes :=
  [UInt8.ofNat (v.toNat / 16777216), UInt8.ofNat (v.toNat / 65536),
    UInt8.ofNat (v.toNat / 256), UInt8.ofNat v.toNat]

/-- Modelled from the spec: `BinaryWriter::write_bytes_short` is outside `src/`; the
length as a `u16` (`len() as u16`), then the bytes. -/
def writeBytesShort (b : Bytes) : Bytes :=
  putU16 (UInt16.ofNat b.length) ++ b

/-! ## Big integers (`BigUint`) -/

/-- `BigUint::from_bytes_be`. -/
def fromBytesBE (b : Bytes) : Nat :=
  b.foldl (fun acc x => acc * 256 + x.toNat) 0

/-- `BigUint::to_bytes_be`: the big-endian digits in base 256, `[0]` for zero. -/
def toBytesBE (n : Nat) : Bytes :=
  if n = 0 then [0] else ((Nat.digits 256 n).map UInt8.ofNat).reverse

/-! ## Arithmetic of the fixed-width casts -/

@[simp] theorem uint8_toNat_ofNat (n : Nat) : (UInt8.ofNat n).toNat = n % 256 := by
  simp [UInt8.ofNat, UInt8.toNat, BitVec.toNat_ofNat]

@[simp] theorem uint16_toNat_ofNat (n : Nat) : (UInt16.ofNat n).toNat = n % 65536 := by
  simp [UInt16.ofNat, UInt16.toNat, BitVec.toNat_ofNat]

@[simp] theorem uint32_toNat_ofNat (n : Nat) : (UInt32.ofNat n).toNat = n % 4294967296 := by
  simp [UInt32.ofNat, UInt32.toNat, BitVec.toNat_ofNat]

/-! ## Stepping through reads

The model's reads bind with `>>=` in `Option`, `none` being a panic. Stated on `>>=`, these
let `simp` step through a chain of reads without first rewriting it to `Option.bind`. -/

@[simp] theorem option_some_bind {α β : Type} (a : α) (f : α → Option β) :
    (some a >>= f) = f a := rfl

theorem option_bind_eq_some {α β : Type} {x : Option α} {f : α → Option β} {b : β} :
    (x >>= f) = some b ↔ ∃ a, x = some a ∧ f a = some b :=
  Option.bind_eq_some

/-! ## Round trips -/

@[simp] theorem getU8_cons (b : UInt8) (rest : Bytes) : getU8 (b :: rest) = some (b, rest) := rfl

theorem eq_of_getU8 {b rest : Bytes} {v : UInt8} (h : getU8 b = some (v, rest)) :
    b = v :: rest := by
  match b, h with
  | _ :: _, rfl => rfl

@[simp] theorem length_putU16 (v : UInt16) : (putU16 v).length = 2 := rfl

@[simp] theorem length_putU32 (v : UInt32) : (putU32 v).length = 4 := rfl

theorem getU16_putU16 (v : UInt16) (rest : Bytes) : getU16 (putU16 v ++ rest) = some (v, rest) := by
  have hv : v.toNat < 65536 := v.toNat_lt_size
  simp only [putU16, List.cons_append, List.nil_append, getU16, Option.some.injEq,
    Prod.mk.injEq, and_true]
  apply UInt16.toNat.inj
  simp only [uint16_toNat_ofNat, uint8_toNat_ofNat]
  omega

theorem getU32_putU32 (v : UInt32) (rest : Bytes) :
    getU32 (putU32 v ++ rest) = some (v, rest) := by
  have hv : v.toNat < 4294967296 := v.toNat_lt_size
  simp only [putU32, List.cons_append, List.nil_append, getU32, Option.some.injEq,
    Prod.mk.injEq, and_true]
  apply UInt32.toNat.inj
  simp only [uint32_toNat_ofNat, uint8_toNat_ofNat]
  omega

theorem eq_of_getU16 {b rest : Bytes} {v : UInt16} (h : getU16 b = some (v, rest)) :
    b = putU16 v ++ rest := by
  match b, h with
  | b0 :: b1 :: rest', h =>
    simp only [getU16, Option.some.injEq, Prod.mk.injEq] at h
    obtain ⟨rfl, rfl⟩ := h
    have h0 : b0.toNat < 256 := b0.toNat_lt_size
    have h1 : b1.toNat < 256 := b1.toNat_lt_size
    simp only [putU16, uint16_toNat_ofNat, List.cons_append, List.nil_append, List.cons.injEq,
      and_true]
    constructor <;> apply UInt8.toNat.inj <;> simp only [uint8_toNat_ofNat] <;> omega

theorem eq_of_getU32 {b rest : Bytes} {v : UInt32} (h : getU32 b = some (v, rest)) :
    b = putU32 v ++ rest := by
  match b, h with
  | b0 :: b1 :: b2 :: b3 :: rest', h =>
    simp only [getU32, Option.some.injEq, Prod.mk.injEq] at h
    obtain ⟨rfl, rfl⟩ := h
    have h0 : b0.toNat < 256 := b0.toNat_lt_size
    have h1 : b1.toNat < 256 := b1.toNat_lt_size
    have h2 : b2.toNat < 256 := b2.toNat_lt_size
    have h3 : b3.toNat < 256 := b3.toNat_lt_size
    simp only [putU32, uint32_toNat_ofNat, List.cons_append, List.nil_append, List.cons.injEq,
      and_true]
    refine ⟨?_, ?_, ?_, ?_⟩ <;> apply UInt8.toNat.inj <;> simp only [uint8_toNat_ofNat] <;> omega

theorem copyToBytes_append (x rest : Bytes) :
    copyToBytes x.length (x ++ rest) = some (x, rest) := by
  simp [copyToBytes]

theorem eq_of_copyToBytes {n : Nat} {b x rest : Bytes} (h : copyToBytes n b = some (x, rest)) :
    x.length = n ∧ b = x ++ rest := by
  unfold copyToBytes at h
  split at h
  · simp only [Option.some.injEq, Prod.mk.injEq] at h
    obtain ⟨rfl, rfl⟩ := h
    exact ⟨List.length_take_of_le ‹_›, (List.take_append_drop n b).symm⟩
  · cases h

@[simp] theorem length_writeBytesShort (b : Bytes) : (writeBytesShort b).length = b.length + 2 := by
  simp [writeBytesShort, Nat.add_comm]

theorem readBytesShort_writeBytesShort (x rest : Bytes) (hx : x.length < 65536) :
    readBytesShort (writeBytesShort x ++ rest) = some (x, rest) := by
  simp only [readBytesShort, writeBytesShort, List.append_assoc, getU16_putU16,
    option_some_bind, uint16_toNat_ofNat, Nat.mod_eq_of_lt hx,
    copyToBytes_append]

/-- A field `read_bytes_short` accepts is shorter than `2^16` and is written back by
`write_bytes_short` exactly as it was read. -/
theorem eq_of_readBytesShort {b x rest : Bytes} (h : readBytesShort b = some (x, rest)) :
    x.length < 65536 ∧ b = writeBytesShort x ++ rest := by
  simp only [readBytesShort, option_bind_eq_some, Prod.exists] at h
  obtain ⟨len, b', h16, hcopy⟩ := h
  obtain ⟨hlen, rfl⟩ := eq_of_copyToBytes hcopy
  have hlt : len.toNat < 65536 := len.toNat_lt_size
  refine ⟨by omega, ?_⟩
  rw [eq_of_getU16 h16, writeBytesShort, List.append_assoc]
  congr
  apply UInt16.toNat.inj
  simp only [uint16_toNat_ofNat]
  omega

/-- Fewer than two bytes hold no length prefix: `read_bytes_short` panics. -/
theorem readBytesShort_eq_none_of_length_lt {b : Bytes} (hb : b.length < 2) :
    readBytesShort b = none := by
  cases h : readBytesShort b with
  | none => rfl
  | some r =>
    have := congrArg List.length (eq_of_readBytesShort h).2
    simp only [List.length_append, length_writeBytesShort] at this
    omega

end Ricq
