import Ricq.Bytes

/-!
# The proof-of-work transform `t546_to_t547`

`t546_to_t547` (`ricq-core/src/command/wtlogin/mod.rs:222-265`) reads a `0x546`
challenge, and when its type is 2 and its target is 32 bytes long searches upward from the
big-endian integer `src` for a preimage of the target under SHA-256; it writes the
challenge's fields back, followed by the solution when the flag is set.

SHA-256 is any function `sha256 : Bytes → Bytes`, the elapsed milliseconds are the clock's
value `elapsed`, and the unbounded `while` loop runs on `fuel` (`none` when the fuel runs
out: the loop has not ended). The count `cnt` is the `u32` of the source, wrapping.

* `powSearch_sound`: the loop invariant. Every integer from the start up to the result
  misses the target, and the count is the distance travelled.
* `powSearch_complete`: with a least preimage `n` at or above the start, enough fuel
  reaches it.
* `readT546_writeT546`, `eq_writeT546_of_readT546`: the reader and the writer of the
  challenge layout are inverse.
-/

namespace Ricq.Wtlogin

/-- The fields of a `0x546` challenge in the order `t546_to_t547` reads them; `flag` is
the raw byte that `ok = data.get_u8() != 0` tests. -/
structure T546 where
  a : UInt8
  typ : UInt8
  c : UInt8
  flag : UInt8
  e : UInt16
  f : UInt16
  src : Bytes
  tgt : Bytes
  cpy : Bytes
  deriving DecidableEq, Repr

/-- The reads of lines 223-231. -/
def readT546 (data : Bytes) : Option (T546 × Bytes) := do
  let (a, data) ← getU8 data
  let (typ, data) ← getU8 data
  let (c, data) ← getU8 data
  let (flag, data) ← getU8 data
  let (e, data) ← getU16 data
  let (f, data) ← getU16 data
  let (src, data) ← readBytesShort data
  let (tgt, data) ← readBytesShort data
  let (cpy, data) ← readBytesShort data
  pure (⟨a, typ, c, flag, e, f, src, tgt, cpy⟩, data)

/-- The writes of lines 250-258, with the flag byte as given. -/
def writeT546 (ch : T546) : Bytes :=
  [ch.a, ch.typ, ch.c, ch.flag] ++ putU16 ch.e ++ putU16 ch.f ++
    writeBytesShort ch.src ++ writeBytesShort ch.tgt ++ writeBytesShort ch.cpy

/-- The output of lines 249-264: the challenge with flag byte `ok`, then, when `ok`, the
solution `dst`, the elapsed time and the count. -/
def writeT547 (ch : T546) (ok : Bool) (dst : Bytes) (elp cnt : UInt32) : Bytes :=
  writeT546 { ch with flag := if ok then 1 else 0 } ++
    if ok then writeBytesShort dst ++ putU32 elp ++ putU32 cnt else []

/-- The search loop of lines 237-244, run for at most `fuel` digests: hash
`tmp.to_bytes_be()` until the digest is `tgt`, incrementing `tmp` and `cnt`. -/
def powSearch (sha256 : Bytes → Bytes) (tgt : Bytes) : Nat → Nat → UInt32 → Option (Nat × UInt32)
  | 0, _, _ => none
  | fuel + 1, tmp, cnt =>
    if sha256 (toBytesBE tmp) = tgt then some (tmp, cnt)
    else powSearch sha256 tgt fuel (tmp + 1) (cnt + 1)

/-- `t546_to_t547`. -/
def t546ToT547 (sha256 : Bytes → Bytes) (elapsed : UInt32) (fuel : Nat) (data : Bytes) :
    Option Bytes := do
  let (ch, _) ← readT546 data
  if ch.typ = 2 ∧ ch.tgt.length = 32 then
    let (tmp, cnt) ← powSearch sha256 ch.tgt fuel (fromBytesBE ch.src) 0
    pure (writeT547 ch true (toBytesBE tmp) elapsed cnt)
  else
    pure (writeT547 ch (ch.flag != 0) [] 0 0)

/-- `n` is the least integer at or above `start` whose big-endian bytes hash to `tgt`. -/
def LeastPreimage (sha256 : Bytes → Bytes) (tgt : Bytes) (start n : Nat) : Prop :=
  start ≤ n ∧ sha256 (toBytesBE n) = tgt ∧ ∀ m, start ≤ m → m < n → sha256 (toBytesBE m) ≠ tgt

/-! ## The search loop -/

section Search

variable {sha256 : Bytes → Bytes} {tgt : Bytes}

theorem add_one_add_ofNat (cnt : UInt32) (d : Nat) :
    cnt + 1 + UInt32.ofNat d = cnt + UInt32.ofNat (d + 1) := by
  apply UInt32.toNat.inj
  simp only [UInt32.toNat_add, uint32_toNat_ofNat, UInt32.toNat_ofNat, UInt32.size]
  omega

theorem ofNat_zero_add (cnt : UInt32) : cnt + UInt32.ofNat 0 = cnt := by
  apply UInt32.toNat.inj
  simp [UInt32.toNat_add]

/-- The loop invariant: a result is a preimage, every integer passed over misses the
target, and the count grew by the number of increments. -/
theorem powSearch_sound {fuel tmp n : Nat} {cnt k : UInt32}
    (h : powSearch sha256 tgt fuel tmp cnt = some (n, k)) :
    LeastPreimage sha256 tgt tmp n ∧ k = cnt + UInt32.ofNat (n - tmp) := by
  induction fuel generalizing tmp cnt with
  | zero => cases h
  | succ fuel ih =>
    unfold powSearch at h
    split at h
    · next hhit =>
      simp only [Option.some.injEq, Prod.mk.injEq] at h
      obtain ⟨rfl, rfl⟩ := h
      exact ⟨⟨le_refl _, hhit, fun m h1 h2 => absurd h2 (by omega)⟩, by rw [Nat.sub_self,
        ofNat_zero_add]⟩
    · next hmiss =>
      obtain ⟨⟨hle, hn, hbelow⟩, rfl⟩ := ih h
      refine ⟨⟨by omega, hn, fun m h1 h2 => ?_⟩, ?_⟩
      · rcases Nat.eq_or_lt_of_le h1 with rfl | h1
        · exact hmiss
        · exact hbelow m h1 h2
      · rw [add_one_add_ofNat, show n - (tmp + 1) + 1 = n - tmp by omega]

/-- With `n` the least preimage at or above `tmp`, every fuel past `n - tmp` ends the
loop at `n`. -/
theorem powSearch_complete {tmp n : Nat} (cnt : UInt32) (hn : LeastPreimage sha256 tgt tmp n) :
    ∀ fuel, n - tmp < fuel →
      powSearch sha256 tgt fuel tmp cnt = some (n, cnt + UInt32.ofNat (n - tmp)) := by
  obtain ⟨hle, hn, hleast⟩ := hn
  intro fuel hfuel
  induction fuel generalizing tmp cnt with
  | zero => omega
  | succ fuel ih =>
    unfold powSearch
    rcases Nat.eq_or_lt_of_le hle with rfl | hlt
    · rw [if_pos hn, Nat.sub_self, ofNat_zero_add]
    · rw [if_neg (hleast tmp le_rfl hlt), ih (cnt + 1) hlt (fun m h1 h2 => hleast m (by omega) h2)
        (by omega), add_one_add_ofNat, show n - (tmp + 1) + 1 = n - tmp by omega]

end Search

/-! ## The challenge layout -/

theorem readT546_writeT546 (ch : T546) (rest : Bytes) (hsrc : ch.src.length < 65536)
    (htgt : ch.tgt.length < 65536) (hcpy : ch.cpy.length < 65536) :
    readT546 (writeT546 ch ++ rest) = some (ch, rest) := by
  simp only [readT546, writeT546, List.append_assoc, List.cons_append, List.nil_append, getU8_cons,
    getU16_putU16, readBytesShort_writeBytesShort _ _ hsrc, readBytesShort_writeBytesShort _ _ htgt,
    readBytesShort_writeBytesShort _ _ hcpy, option_some_bind]
  rfl

/-- A challenge that `t546_to_t547` reads is its fields written back, then whatever
follows `cpy`. -/
theorem eq_writeT546_of_readT546 {data rest : Bytes} {ch : T546}
    (h : readT546 data = some (ch, rest)) :
    ch.src.length < 65536 ∧ ch.tgt.length < 65536 ∧ ch.cpy.length < 65536 ∧
      data = writeT546 ch ++ rest := by
  simp only [readT546, option_bind_eq_some, Prod.exists] at h
  obtain ⟨a, d1, h1, typ, d2, h2, c, d3, h3, flag, d4, h4, e, d5, h5, f, d6, h6, src, d7, h7,
    tgt, d8, h8, cpy, d9, h9, h⟩ := h
  obtain ⟨rfl, rfl⟩ := Prod.mk.inj (Option.some.inj h)
  obtain ⟨hs, rfl⟩ := eq_of_readBytesShort h7
  obtain ⟨ht, rfl⟩ := eq_of_readBytesShort h8
  obtain ⟨hc, rfl⟩ := eq_of_readBytesShort h9
  refine ⟨hs, ht, hc, ?_⟩
  rw [eq_of_getU8 h1, eq_of_getU8 h2, eq_of_getU8 h3, eq_of_getU8 h4, eq_of_getU16 h5,
    eq_of_getU16 h6]
  simp [writeT546]

@[simp] theorem length_writeT546 (ch : T546) :
    (writeT546 ch).length = ch.src.length + ch.tgt.length + ch.cpy.length + 14 := by
  simp only [writeT546, List.length_append, length_putU16, length_writeBytesShort]
  simp only [List.length_cons, List.length_nil]
  omega

/-- The fixed fields and the three length prefixes take 14 bytes: on anything shorter the
reads of `t546_to_t547` panic. -/
theorem readT546_eq_none_of_length_lt {data : Bytes} (hd : data.length < 14) :
    readT546 data = none := by
  cases h : readT546 data with
  | none => rfl
  | some r =>
    have := congrArg List.length (eq_writeT546_of_readT546 h).2.2.2
    simp only [List.length_append, length_writeT546] at this
    omega

theorem readT546_writeT547 (ch : T546) (ok : Bool) (dst : Bytes) (elp cnt : UInt32)
    (hsrc : ch.src.length < 65536) (htgt : ch.tgt.length < 65536) (hcpy : ch.cpy.length < 65536) :
    readT546 (writeT547 ch ok dst elp cnt) = some ({ ch with flag := if ok then 1 else 0 },
      if ok then writeBytesShort dst ++ putU32 elp ++ putU32 cnt else []) :=
  readT546_writeT546 { ch with flag := _ } _ hsrc htgt hcpy

/-! ## `t546_to_t547` -/

section Transform

variable {sha256 : Bytes → Bytes} {elapsed : UInt32} {fuel : Nat}

/-- `t546_to_t547` on a challenge it reads: the search when the type is 2 and the target
32 bytes long, the passthrough otherwise. -/
theorem t546ToT547_eq {data rest : Bytes} {ch : T546} (h : readT546 data = some (ch, rest)) :
    t546ToT547 sha256 elapsed fuel data =
      if ch.typ = 2 ∧ ch.tgt.length = 32 then
        (powSearch sha256 ch.tgt fuel (fromBytesBE ch.src) 0).map
          fun r => writeT547 ch true (toBytesBE r.1) elapsed r.2
      else some (writeT547 ch (ch.flag != 0) [] 0 0) := by
  simp only [t546ToT547, h, option_some_bind]
  split
  · cases powSearch sha256 ch.tgt fuel (fromBytesBE ch.src) 0 <;> rfl
  · rfl

/-- Reading the output with the reader of the input gives the input's fields back; the flag
byte is 1 when the solver ran or the input's flag byte was nonzero, and 0 otherwise; the
solution, the elapsed time and the count follow `cpy` exactly when the flag byte is 1, and
with the flag byte 0 the output is the input cut off after `cpy`. -/
theorem readT546_t546ToT547 {x y rest : Bytes} {ch : T546} (hx : readT546 x = some (ch, rest))
    (hy : t546ToT547 sha256 elapsed fuel x = some y) :
    ∃ ext, readT546 y = some ({ ch with
        flag := if (ch.typ = 2 ∧ ch.tgt.length = 32) ∨ ch.flag ≠ 0 then 1 else 0 }, ext) ∧
      ((ch.typ = 2 ∧ ch.tgt.length = 32) ∨ ch.flag ≠ 0 →
        ∃ dst elp cnt, ext = writeBytesShort dst ++ putU32 elp ++ putU32 cnt) ∧
      (¬((ch.typ = 2 ∧ ch.tgt.length = 32) ∨ ch.flag ≠ 0) → ext = [] ∧ y ++ rest = x) := by
  obtain ⟨hsrc, htgt, hcpy, rfl⟩ := eq_writeT546_of_readT546 hx
  rw [t546ToT547_eq hx] at hy
  split at hy
  · next hsolve =>
    obtain ⟨⟨tmp, cnt⟩, -, rfl⟩ := Option.map_eq_some'.mp hy
    refine ⟨_, by rw [readT546_writeT547 _ _ _ _ _ hsrc htgt hcpy, if_pos (Or.inl hsolve)]; rfl,
      fun _ => ⟨_, _, _, rfl⟩, fun h => absurd (Or.inl hsolve) h⟩
  · next hsolve =>
    cases Option.some.inj hy
    by_cases hflag : ch.flag = 0
    · refine ⟨[], ?_, fun h => absurd (h.resolve_left hsolve) (not_not.mpr hflag), fun _ => ⟨rfl, ?_⟩⟩
      · rw [readT546_writeT547 _ _ _ _ _ hsrc htgt hcpy]
        simp [hflag, hsolve]
      · simp only [writeT547, hflag, bne_self_eq_false, Bool.false_eq_true, ↓reduceIte,
          List.append_nil]
        rw [← hflag]
    · refine ⟨_, ?_, fun _ => ⟨[], 0, 0, rfl⟩, fun h => absurd (Or.inr hflag) h⟩
      rw [readT546_writeT547 _ _ _ _ _ hsrc htgt hcpy]
      simp [hflag, hsolve]

theorem readT546_t546ToT547_passthrough :
    let x : Bytes := [1, 0, 3, 0, 0, 5, 0, 6, 0, 1, 7, 0, 0, 0, 0]
    let ch : T546 := ⟨1, 0, 3, 0, 5, 6, [7], [], []⟩
    readT546 x = some (ch, []) ∧ t546ToT547 id 0 0 x = some x ∧
      ∃ ext, readT546 x = some ({ ch with
          flag := if (ch.typ = 2 ∧ ch.tgt.length = 32) ∨ ch.flag ≠ 0 then 1 else 0 }, ext) ∧
        ((ch.typ = 2 ∧ ch.tgt.length = 32) ∨ ch.flag ≠ 0 →
          ∃ dst elp cnt, ext = writeBytesShort dst ++ putU32 elp ++ putU32 cnt) ∧
        (¬((ch.typ = 2 ∧ ch.tgt.length = 32) ∨ ch.flag ≠ 0) → ext = [] ∧ x ++ [] = x) :=
  ⟨rfl, rfl, @readT546_t546ToT547 id 0 0 _ _ _ _ rfl rfl⟩

/-- With a preimage of the target at or above `src`, the search ends at the least one,
`nstar`: the output carries flag byte 1, `nstar.to_bytes_be()` and the count `nstar - src`
as a `u32`, which is `nstar - src` itself below `2^32`. -/
theorem t546ToT547_least_preimage {x rest : Bytes} {ch : T546}
    (hx : readT546 x = some (ch, rest)) (htyp : ch.typ = 2) (htgt : ch.tgt.length = 32)
    (hpre : ∃ n, fromBytesBE ch.src ≤ n ∧ sha256 (toBytesBE n) = ch.tgt) :
    ∃ nstar, LeastPreimage sha256 ch.tgt (fromBytesBE ch.src) nstar ∧
      (∀ fuel, nstar - fromBytesBE ch.src < fuel →
        t546ToT547 sha256 elapsed fuel x = some (writeT547 ch true (toBytesBE nstar) elapsed
          (UInt32.ofNat (nstar - fromBytesBE ch.src)))) ∧
      (nstar - fromBytesBE ch.src < 2 ^ 32 →
        (UInt32.ofNat (nstar - fromBytesBE ch.src)).toNat = nstar - fromBytesBE ch.src) := by
  classical
  have hleast : LeastPreimage sha256 ch.tgt (fromBytesBE ch.src) (Nat.find hpre) :=
    ⟨(Nat.find_spec hpre).1, (Nat.find_spec hpre).2, fun m h1 h2 h3 => Nat.find_min hpre h2 ⟨h1, h3⟩⟩
  refine ⟨Nat.find hpre, hleast, fun fuel hfuel => ?_, fun h => ?_⟩
  · rw [t546ToT547_eq hx, if_pos ⟨htyp, htgt⟩, powSearch_complete 0 hleast fuel hfuel]
    simp
  · simp only [uint32_toNat_ofNat]
    omega

/-- A hash whose only preimage of the target is 2, searched from `src = []`: the search tries
0 and 1 before it finds 2. -/
theorem t546ToT547_least_preimage_two :
    let tgt : Bytes := List.replicate 32 0
    let sha256 : Bytes → Bytes := fun b => if b = [2] then tgt else []
    let x : Bytes := [0, 2, 0, 0, 0, 0, 0, 0, 0, 0, 0, 32] ++ tgt ++ [0, 0]
    let ch : T546 := ⟨0, 2, 0, 0, 0, 0, [], tgt, []⟩
    readT546 x = some (ch, []) ∧ ch.typ = 2 ∧ ch.tgt.length = 32 ∧
      (∃ n, fromBytesBE ch.src ≤ n ∧ sha256 (toBytesBE n) = ch.tgt) ∧
      ∃ nstar, LeastPreimage sha256 ch.tgt (fromBytesBE ch.src) nstar ∧
        (∀ fuel, nstar - fromBytesBE ch.src < fuel →
          t546ToT547 sha256 0 fuel x = some (writeT547 ch true (toBytesBE nstar) 0
            (UInt32.ofNat (nstar - fromBytesBE ch.src)))) ∧
        (nstar - fromBytesBE ch.src < 2 ^ 32 →
          (UInt32.ofNat (nstar - fromBytesBE ch.src)).toNat = nstar - fromBytesBE ch.src) :=
  have hpre : ∃ n, fromBytesBE [] ≤ n ∧
      (fun b => if b = [2] then List.replicate 32 (0 : UInt8) else []) (toBytesBE n) =
        List.replicate 32 0 :=
    ⟨2, Nat.zero_le _, by simp [toBytesBE, Nat.digits_of_lt]⟩
  ⟨rfl, rfl, rfl, hpre, t546ToT547_least_preimage rfl rfl rfl hpre⟩

end Transform

end Ricq.Wtlogin
