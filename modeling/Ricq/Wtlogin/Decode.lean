import Ricq.Wtlogin.T547

/-!
# Decoding a login reply

`LoginResponse::decode` (`ricq-core/src/command/wtlogin/mod.rs:120-219`) builds one
variant of `LoginResponse` from the status byte of a login reply and its TLV map. Each arm
takes its fields out of the map with `remove`, in the order the struct literal lists them,
and parses some of them with fixed-width `bytes::Buf` reads, which panic on a buffer too
short for them.

The model returns `Option (Except RQError LoginResponse)`: `none` is a panic, `some (.error
e)` the `Err` of a missing `0x119`, `some (.ok r)` the response. What `decode` calls outside
`src/` (the readers of `tlv_reader.rs`, `String::from_utf8_lossy`, the clock, SHA-256 and the
proof-of-work fuel of `t546_to_t547`) is a `DecodeEnv`.

* `decode_spec`: the variant of a returned response is fixed by the status, each field holds
  the value of its own tag (no field reads a tag an earlier one removed), the image captcha
  splits its layout, and `UnknownStatus` keeps the map without `0x146`.
* `decode_needCaptcha_eq_none_of_short_captcha`, `decode_needCaptcha_eq_none_of_short_t546`,
  `decode_deviceLocked_eq_none_of_short_t178`, `decode_unknownStatus_eq_none_of_short_t146`:
  a value too short for the reads of its arm makes `decode` panic, whatever the rest of
  the map, the key and the collaborators.
-/

namespace Ricq.Wtlogin

/-- A TLV map, `HashMap<u16, Bytes>`. Tags are `u16`, so a function from tags is a finite
map. -/
abbrev TlvMap := UInt16 → Option Bytes

/-- `tlv_map.remove(&tag)`: the value under `tag`, and the map without it. -/
def TlvMap.remove (m : TlvMap) (tag : UInt16) : Option Bytes × TlvMap :=
  (m tag, fun t => if t = tag then none else m t)

/-- The map holding the listed entries, the first entry of a tag winning. -/
def TlvMap.ofList (entries : List (UInt16 × Bytes)) : TlvMap :=
  fun t => entries.lookup t

@[simp] theorem TlvMap.remove_fst (m : TlvMap) (tag : UInt16) : (m.remove tag).1 = m tag := rfl

@[simp] theorem TlvMap.remove_snd (m : TlvMap) (tag t : UInt16) :
    (m.remove tag).2 t = if t = tag then none else m t := rfl

/-- Modelled from the spec: `RQError` is declared outside `src/`; `decode` raises only its
`Decode` variant, with a message. -/
inductive RQError where
  | decode (message : String)
  deriving DecidableEq, Repr

/-- What `decode` calls outside `src/`. The readers of `tlv_reader.rs` may panic (`none`);
`unixSecs` is `UNIX_EPOCH.elapsed().unwrap().as_secs() as i64`, the clock reading after the
epoch; `sha256`, `elapsed` and `fuel` are those of `t546ToT547`. -/
structure DecodeEnv (T161 T11A T512 : Type) where
  decodeT119 : Bytes → Bytes → Option TlvMap
  decodeT161 : Bytes → Option T161
  readT11a : Bytes → Option T11A
  readT512 : Bytes → Option T512
  fromUtf8Lossy : Bytes → String
  unixSecs : Int
  sha256 : Bytes → Bytes
  elapsed : UInt32
  fuel : Nat

/-! ## The response types (lines 42-118) -/

/-- `ImageCaptcha`. -/
structure ImageCaptcha where
  sign : Bytes
  image : Bytes
  deriving DecidableEq, Repr

/-- `LoginSuccess`. -/
structure LoginSuccess (T161 T11A T512 : Type) where
  rollbackSig : Option T161
  randSeed : Option Bytes
  ksid : Option Bytes
  accountInfo : Option T11A
  t512 : Option T512
  t402 : Option Bytes
  wtSessionTicketKey : Option Bytes
  srmToken : Option Bytes
  t133 : Option Bytes
  encryptA1 : Option Bytes
  tgt : Option Bytes
  tgtKey : Option Bytes
  userStKey : Option Bytes
  userStWebSig : Option Bytes
  sKey : Option Bytes
  sKeyExpiredTime : Int
  d2 : Option Bytes
  d2key : Option Bytes
  deviceToken : Option Bytes

/-- `LoginNeedCaptcha`. -/
structure LoginNeedCaptcha where
  t104 : Option Bytes
  verifyUrl : Option String
  imageCaptcha : Option ImageCaptcha
  t547 : Option Bytes
  deriving DecidableEq, Repr

/-- `LoginDeviceLocked`. -/
structure LoginDeviceLocked where
  t104 : Option Bytes
  t174 : Option Bytes
  t402 : Option Bytes
  smsPhone : Option String
  verifyUrl : Option String
  message : Option String
  randSeed : Option Bytes
  deriving DecidableEq, Repr

/-- `LoginDeviceLockLogin`. -/
structure LoginDeviceLockLogin where
  t104 : Option Bytes
  t402 : Option Bytes
  randSeed : Option Bytes
  deriving DecidableEq, Repr

/-- `LoginUnknownStatus`. -/
structure LoginUnknownStatus where
  status : UInt8
  tlvMap : TlvMap
  message : String

/-- `LoginResponse`. -/
inductive LoginResponse (T161 T11A T512 : Type) where
  | success (s : LoginSuccess T161 T11A T512)
  | needCaptcha (c : LoginNeedCaptcha)
  | accountFrozen
  | deviceLocked (d : LoginDeviceLocked)
  | tooManySMSRequest
  | deviceLockLogin (d : LoginDeviceLockLogin)
  | unknownStatus (u : LoginUnknownStatus)

/-! ## The arms of `decode` -/

section Arms

variable {T161 T11A T512 : Type} (env : DecodeEnv T161 T11A T512)

/-- `o.map(f)` for a reader `f` that may panic. -/
@[simp] theorem option_mapM_none {α β : Type} (f : α → Option β) :
    Option.mapM f none = some none := rfl

@[simp] theorem option_mapM_some {α β : Type} (f : α → Option β) (a : α) :
    Option.mapM f (some a) = (f a).map some := by
  simp only [Option.mapM]
  cases f a <;> rfl

/-- A reader that returned keeps the presence of its input. -/
theorem option_isSome_of_mapM_eq_some {α β : Type} {f : α → Option β} {o : Option α}
    {r : Option β} (h : o.mapM f = some r) : r.isSome = o.isSome := by
  cases o <;> simp at h <;> [subst h; obtain ⟨b, -, rfl⟩ := h] <;> rfl

/-- Modelled from the spec: `BinaryReader::read_string_short` is outside `src/`; it reads a
length-prefixed field and decodes it lossily as UTF-8. -/
def readStringShort (fromUtf8Lossy : Bytes → String) (b : Bytes) : Option (String × Bytes) := do
  let (v, b) ← readBytesShort b
  pure (fromUtf8Lossy v, b)

/-- The closure of lines 158-166 on the `0x165` value: the sign's length, two skipped bytes,
the sign, and the image as the rest. -/
def readImageCaptcha (imgData : Bytes) : Option ImageCaptcha := do
  let (signLen, imgData) ← getU16 imgData
  let (_, imgData) ← getU16 imgData
  let (imageSign, imgData) ← copyToBytes signLen.toNat imgData
  pure ⟨imageSign, imgData⟩

/-- The `0x165` closure splits the layout it reads. -/
theorem readImageCaptcha_layout (sign skipped image : Bytes) (hs : sign.length < 2 ^ 16)
    (hk : skipped.length = 2) :
    readImageCaptcha (putU16 (.ofNat sign.length) ++ skipped ++ sign ++ image) =
      some ⟨sign, image⟩ := by
  match skipped, hk with
  | [a, b], _ =>
    have hlen : sign.length % 65536 = sign.length := Nat.mod_eq_of_lt hs
    simp only [readImageCaptcha, List.append_assoc, List.cons_append, List.nil_append,
      getU16_putU16]
    simp [getU16, hlen, copyToBytes_append]

/-- The closure of lines 174-178 on the `0x178` value: `format!("+{} {}", country_code,
phone_number)`. -/
def readSmsPhone (fromUtf8Lossy : Bytes → String) (v : Bytes) : Option String := do
  let (countryCode, v) ← readStringShort fromUtf8Lossy v
  let (phoneNumber, _) ← readStringShort fromUtf8Lossy v
  pure ("+" ++ countryCode ++ " " ++ phoneNumber)

/-- The struct literal of the `0 =>` arm (lines 131-151), once `0x119` has been taken out
of `tlvMap` and decrypted into `t119`. -/
def decodeSuccess (tlvMap t119 : TlvMap) : Option (LoginSuccess T161 T11A T512) := do
  let (rollbackSig, tlvMap) := tlvMap.remove 0x161
  let rollbackSig ← rollbackSig.mapM env.decodeT161
  let (randSeed, tlvMap) := tlvMap.remove 0x403
  let (ksid, t119) := t119.remove 0x108
  let (accountInfo, t119) := t119.remove 0x11a
  let accountInfo ← accountInfo.mapM env.readT11a
  let (t512, t119) := t119.remove 0x512
  let t512 ← t512.mapM env.readT512
  let (t402, _) := tlvMap.remove 0x402
  let (wtSessionTicketKey, t119) := t119.remove 0x134
  let (srmToken, t119) := t119.remove 0x16a
  let (t133, t119) := t119.remove 0x133
  let (encryptA1, t119) := t119.remove 0x106
  let (tgt, t119) := t119.remove 0x10a
  let (tgtKey, t119) := t119.remove 0x10d
  let (userStKey, t119) := t119.remove 0x10e
  let (userStWebSig, t119) := t119.remove 0x103
  let (sKey, t119) := t119.remove 0x120
  let (d2, t119) := t119.remove 0x143
  let (d2key, t119) := t119.remove 0x305
  let (deviceToken, _) := t119.remove 0x322
  pure ⟨rollbackSig, randSeed, ksid, accountInfo, t512, t402, wtSessionTicketKey, srmToken,
    t133, encryptA1, tgt, tgtKey, userStKey, userStWebSig, sKey, env.unixSecs + 21600, d2,
    d2key, deviceToken⟩

/-- Each field of the success arm is its tag of the map it was given: the tags it removes
are distinct. -/
theorem decodeSuccess_eq (m t119 : TlvMap) :
    decodeSuccess env m t119 = (do
      let rollbackSig ← (m 0x161).mapM env.decodeT161
      let accountInfo ← (t119 0x11a).mapM env.readT11a
      let t512 ← (t119 0x512).mapM env.readT512
      pure ⟨rollbackSig, m 0x403, t119 0x108, accountInfo, t512, m 0x402, t119 0x134, t119 0x16a,
        t119 0x133, t119 0x106, t119 0x10a, t119 0x10d, t119 0x10e, t119 0x103, t119 0x120,
        env.unixSecs + 21600, t119 0x143, t119 0x305, t119 0x322⟩) := rfl

/-- The `2 =>` arm (lines 153-168). -/
def decodeNeedCaptcha (tlvMap : TlvMap) : Option LoginNeedCaptcha := do
  let (t104, tlvMap) := tlvMap.remove 0x104
  let (verifyUrl, tlvMap) := tlvMap.remove 0x192
  let (imageCaptcha, tlvMap) := tlvMap.remove 0x165
  let imageCaptcha ← imageCaptcha.mapM readImageCaptcha
  let (t547, _) := tlvMap.remove 0x546
  let t547 ← t547.mapM (t546ToT547 env.sha256 env.elapsed env.fuel)
  pure ⟨t104, verifyUrl.map env.fromUtf8Lossy, imageCaptcha, t547⟩

theorem decodeNeedCaptcha_eq (m : TlvMap) :
    decodeNeedCaptcha env m = (do
      let imageCaptcha ← (m 0x165).mapM readImageCaptcha
      let t547 ← (m 0x546).mapM (t546ToT547 env.sha256 env.elapsed env.fuel)
      pure ⟨m 0x104, (m 0x192).map env.fromUtf8Lossy, imageCaptcha, t547⟩) := rfl

/-- The `160 | 239 =>` arm (lines 170-195): the phone is read only when `0x174` is there. -/
def decodeDeviceLocked (tlvMap : TlvMap) : Option LoginDeviceLocked := do
  let (t174, tlvMap) := tlvMap.remove 0x174
  let (t178, tlvMap) := tlvMap.remove 0x178
  let smsPhone ← if t174.isSome then t178.mapM (readSmsPhone env.fromUtf8Lossy) else pure none
  let (verifyUrl, tlvMap) := tlvMap.remove 0x204
  let (message, tlvMap) := tlvMap.remove 0x17e
  let (randSeed, tlvMap) := tlvMap.remove 0x403
  let (t104, tlvMap) := tlvMap.remove 0x104
  let (t402, _) := tlvMap.remove 0x402
  pure ⟨t104, t174, t402, smsPhone, verifyUrl.map env.fromUtf8Lossy,
    message.map env.fromUtf8Lossy, randSeed⟩

theorem decodeDeviceLocked_eq (m : TlvMap) :
    decodeDeviceLocked env m = (do
      let smsPhone ← if (m 0x174).isSome then (m 0x178).mapM (readSmsPhone env.fromUtf8Lossy)
        else pure none
      pure ⟨m 0x104, m 0x174, m 0x402, smsPhone, (m 0x204).map env.fromUtf8Lossy,
        (m 0x17e).map env.fromUtf8Lossy, m 0x403⟩) := rfl

/-- The `204 =>` arm (lines 197-201). -/
def decodeDeviceLockLogin (tlvMap : TlvMap) : LoginDeviceLockLogin :=
  let (t104, tlvMap) := tlvMap.remove 0x104
  let (t402, tlvMap) := tlvMap.remove 0x402
  let (randSeed, _) := tlvMap.remove 0x403
  ⟨t104, t402, randSeed⟩

/-- The catch-all arm (lines 202-216): the message of `0x146`, after four skipped bytes and
a title, and the map without `0x146`. -/
def decodeUnknownStatus (status : UInt8) (tlvMap : TlvMap) : Option LoginUnknownStatus := do
  let (t146, tlvMap) := tlvMap.remove 0x146
  let message ← match t146 with
    | none => pure ""
    | some v => do
      let v ← advance 4 v
      let (_, v) ← readStringShort env.fromUtf8Lossy v
      let (message, _) ← readStringShort env.fromUtf8Lossy v
      pure message
  pure ⟨status, tlvMap, message⟩

/-- `LoginResponse::decode`. -/
def decode (status : UInt8) (tlvMap : TlvMap) (encryptKey : Bytes) :
    Option (Except RQError (LoginResponse T161 T11A T512)) :=
  match status with
  | 0 =>
    match tlvMap.remove 0x119 with
    | (none, _) => pure (.error (.decode "missing 0x119"))
    | (some v, tlvMap) => do
      let t119 ← env.decodeT119 v encryptKey
      let s ← decodeSuccess env tlvMap t119
      pure (.ok (.success s))
  | 2 => (fun c => .ok (.needCaptcha c)) <$> decodeNeedCaptcha env tlvMap
  | 40 => pure (.ok .accountFrozen)
  | 160 | 239 => (fun d => .ok (.deviceLocked d)) <$> decodeDeviceLocked env tlvMap
  | 162 => pure (.ok .tooManySMSRequest)
  | 204 => pure (.ok (.deviceLockLogin (decodeDeviceLockLogin tlvMap)))
  | _ => (fun u => .ok (.unknownStatus u)) <$> decodeUnknownStatus env status tlvMap

end Arms

/-! ## Panics on short values -/

section Panics

variable {T161 T11A T512 : Type} {env : DecodeEnv T161 T11A T512} {m : TlvMap} {v : Bytes}

/-- Fewer than four bytes hold no sign length and skipped field. -/
theorem readImageCaptcha_eq_none_of_length_lt (hv : v.length < 4) : readImageCaptcha v = none := by
  match v, hv with
  | [], _ | [_], _ | [_, _], _ | [_, _, _], _ => rfl

theorem readStringShort_eq_none_of_length_lt (f : Bytes → String) (hv : v.length < 2) :
    readStringShort f v = none := by
  simp [readStringShort, readBytesShort_eq_none_of_length_lt hv]

/-- Every status outside the listed arms takes the catch-all arm. -/
theorem decode_of_unknown {status : UInt8} (key : Bytes)
    (hs : status ∉ [0, 2, 40, 160, 239, 162, 204]) :
    decode env status m key =
      (fun u => .ok (.unknownStatus u)) <$> decodeUnknownStatus env status m := by
  unfold decode
  split <;> simp_all

theorem decode_needCaptcha_eq_none_of_short_captcha (key : Bytes) (h : m 0x165 = some v)
    (hv : v.length < 4) : decode env 2 m key = none := by
  simp [decode, decodeNeedCaptcha, h, readImageCaptcha_eq_none_of_length_lt hv]

theorem decode_needCaptcha_eq_none_of_short_t546 (key : Bytes) (h : m 0x546 = some v)
    (hv : v.length < 14) : decode env 2 m key = none := by
  simp [decode, decodeNeedCaptcha, h, t546ToT547, readT546_eq_none_of_length_lt hv]

theorem decode_deviceLocked_eq_none_of_short_t178 {status : UInt8} (key : Bytes)
    (hs : status = 160 ∨ status = 239) (h174 : (m 0x174).isSome) (h : m 0x178 = some v)
    (hv : v.length < 2) : decode env status m key = none := by
  have hphone : readSmsPhone env.fromUtf8Lossy v = none := by
    simp [readSmsPhone, readStringShort_eq_none_of_length_lt _ hv]
  rcases hs with rfl | rfl <;> simp [decode, decodeDeviceLocked, h174, h, hphone]

theorem decode_unknownStatus_eq_none_of_short_t146 {status : UInt8} (key : Bytes)
    (hs : status ∉ [0, 2, 40, 160, 239, 162, 204]) (h : m 0x146 = some v) (hv : v.length < 6) :
    decode env status m key = none := by
  rw [decode_of_unknown key hs]
  by_cases h4 : 4 ≤ v.length
  · have : (v.drop 4).length < 2 := by simp; omega
    simp [decodeUnknownStatus, h, advance, h4, readStringShort_eq_none_of_length_lt _ this]
  · simp [decodeUnknownStatus, h, advance, h4]

/-- A value that an arm parses, truncated to nothing, makes `decode` panic: `0x165` and
`0x546` on status 2, `0x178` beside `0x174` on status 160, `0x146` on status 1. -/
theorem decode_truncated_panics (env : DecodeEnv T161 T11A T512) (key : Bytes) :
    decode env 2 (.ofList [(0x165, [])]) key = none ∧
      decode env 2 (.ofList [(0x546, [])]) key = none ∧
      decode env 160 (.ofList [(0x174, []), (0x178, [])]) key = none ∧
      decode env 1 (.ofList [(0x146, [])]) key = none :=
  ⟨decode_needCaptcha_eq_none_of_short_captcha key rfl (by decide),
    decode_needCaptcha_eq_none_of_short_t546 key rfl (by decide),
    decode_deviceLocked_eq_none_of_short_t178 key (.inl rfl) rfl rfl (by decide),
    decode_unknownStatus_eq_none_of_short_t146 key (by decide) rfl (by decide)⟩

end Panics

/-! ## What each field holds -/

section Fields

variable {T161 T11A T512 : Type} (env : DecodeEnv T161 T11A T512)

/-- What a `LoginSuccess` decoded from the map `m` and the decrypted `0x119` block `t119`
holds: each copied field the value of its tag, each parsed field what its reader returned. -/
structure SuccessFields (m t119 : TlvMap) (s : LoginSuccess T161 T11A T512) : Prop where
  rollbackSig : (m 0x161).mapM env.decodeT161 = some s.rollbackSig
  randSeed : s.randSeed = m 0x403
  ksid : s.ksid = t119 0x108
  accountInfo : (t119 0x11a).mapM env.readT11a = some s.accountInfo
  t512 : (t119 0x512).mapM env.readT512 = some s.t512
  t402 : s.t402 = m 0x402
  wtSessionTicketKey : s.wtSessionTicketKey = t119 0x134
  srmToken : s.srmToken = t119 0x16a
  t133 : s.t133 = t119 0x133
  encryptA1 : s.encryptA1 = t119 0x106
  tgt : s.tgt = t119 0x10a
  tgtKey : s.tgtKey = t119 0x10d
  userStKey : s.userStKey = t119 0x10e
  userStWebSig : s.userStWebSig = t119 0x103
  sKey : s.sKey = t119 0x120
  sKeyExpiredTime : s.sKeyExpiredTime = env.unixSecs + 21600
  d2 : s.d2 = t119 0x143
  d2key : s.d2key = t119 0x305
  deviceToken : s.deviceToken = t119 0x322

/-- What a `LoginNeedCaptcha` decoded from `m` holds. The image captcha is there exactly when
`0x165` is, and splits a value laid out as the sign's length, two bytes, the sign and the
image back into the sign and the image. -/
structure NeedCaptchaFields (m : TlvMap) (c : LoginNeedCaptcha) : Prop where
  t104 : c.t104 = m 0x104
  verifyUrl : c.verifyUrl = (m 0x192).map env.fromUtf8Lossy
  imageCaptcha_isSome : c.imageCaptcha.isSome = (m 0x165).isSome
  imageCaptcha_layout : ∀ sign skipped image : Bytes, sign.length < 2 ^ 16 →
    skipped.length = 2 → m 0x165 = some (putU16 (.ofNat sign.length) ++ skipped ++ sign ++ image) →
    c.imageCaptcha = some ⟨sign, image⟩
  t547 : (m 0x546).mapM (t546ToT547 env.sha256 env.elapsed env.fuel) = some c.t547

/-- What a `LoginDeviceLocked` decoded from `m` holds: the phone is there exactly when both
`0x174` and `0x178` are. -/
structure DeviceLockedFields (m : TlvMap) (d : LoginDeviceLocked) : Prop where
  t104 : d.t104 = m 0x104
  t174 : d.t174 = m 0x174
  t402 : d.t402 = m 0x402
  smsPhone_isSome : d.smsPhone.isSome = ((m 0x174).isSome && (m 0x178).isSome)
  verifyUrl : d.verifyUrl = (m 0x204).map env.fromUtf8Lossy
  message : d.message = (m 0x17e).map env.fromUtf8Lossy
  randSeed : d.randSeed = m 0x403

/-- What a result of `decode env status m key` says about `status` and `m`: the variant
is fixed by the status, and each field is what its tag of `m` holds. -/
def DecodeSpec (status : UInt8) (m : TlvMap) (key : Bytes) :
    Except RQError (LoginResponse T161 T11A T512) → Prop
  | .error e => status = 0 ∧ m 0x119 = none ∧ e = .decode "missing 0x119"
  | .ok (.success s) => status = 0 ∧
    ∃ v t119, m 0x119 = some v ∧ env.decodeT119 v key = some t119 ∧ SuccessFields env m t119 s
  | .ok (.needCaptcha c) => status = 2 ∧ NeedCaptchaFields env m c
  | .ok .accountFrozen => status = 40
  | .ok (.deviceLocked d) => (status = 160 ∨ status = 239) ∧ DeviceLockedFields env m d
  | .ok .tooManySMSRequest => status = 162
  | .ok (.deviceLockLogin d) => status = 204 ∧ d = ⟨m 0x104, m 0x402, m 0x403⟩
  | .ok (.unknownStatus u) =>
    status ∉ [0, 2, 40, 160, 239, 162, 204] ∧ u.status = status ∧ u.tlvMap = (m.remove 0x146).2

end Fields

section FieldsProofs

variable {T161 T11A T512 : Type} {env : DecodeEnv T161 T11A T512} {m : TlvMap}

theorem successFields_of_decodeSuccess {t119 : TlvMap} {s : LoginSuccess T161 T11A T512}
    (h : decodeSuccess env (m.remove 0x119).2 t119 = some s) : SuccessFields env m t119 s := by
  simp only [decodeSuccess_eq, option_bind_eq_some, Option.pure_def, Option.some.injEq] at h
  obtain ⟨r, hr, a, ha, t, ht, rfl⟩ := h
  exact ⟨hr, rfl, rfl, ha, ht, rfl, rfl, rfl, rfl, rfl, rfl, rfl, rfl, rfl, rfl, rfl, rfl, rfl, rfl⟩

theorem needCaptchaFields_of_decodeNeedCaptcha {c : LoginNeedCaptcha}
    (h : decodeNeedCaptcha env m = some c) : NeedCaptchaFields env m c := by
  simp only [decodeNeedCaptcha_eq, option_bind_eq_some, Option.pure_def, Option.some.injEq] at h
  obtain ⟨i, hi, t, ht, rfl⟩ := h
  refine ⟨rfl, rfl, option_isSome_of_mapM_eq_some hi, fun sign skipped image hs hk h165 => ?_, ht⟩
  rw [h165, option_mapM_some, readImageCaptcha_layout sign skipped image hs hk] at hi
  simpa [eq_comm] using hi

theorem deviceLockedFields_of_decodeDeviceLocked {d : LoginDeviceLocked}
    (h : decodeDeviceLocked env m = some d) : DeviceLockedFields env m d := by
  rw [decodeDeviceLocked_eq] at h
  split at h <;>
    simp only [option_bind_eq_some, option_some_bind, Option.pure_def, Option.some.injEq] at h
  next h174 =>
    obtain ⟨p, hp, rfl⟩ := h
    exact ⟨rfl, rfl, rfl, by simp [h174, option_isSome_of_mapM_eq_some hp], rfl, rfl, rfl⟩
  next h174 =>
    subst h
    exact ⟨rfl, rfl, rfl, by simp [h174], rfl, rfl, rfl⟩

theorem decodeUnknownStatus_eq_some {status : UInt8} {u : LoginUnknownStatus}
    (h : decodeUnknownStatus env status m = some u) :
    u.status = status ∧ u.tlvMap = (m.remove 0x146).2 := by
  simp only [decodeUnknownStatus, TlvMap.remove] at h
  split at h <;>
    simp only [option_bind_eq_some, option_some_bind, Option.pure_def, Option.some.injEq] at h
  · subst h; exact ⟨rfl, rfl⟩
  · obtain ⟨_, -, _, -, _, -, rfl⟩ := h; exact ⟨rfl, rfl⟩

/-- The variant of a result fixes the status, so only status 0 can fail. -/
theorem DecodeSpec.isOk_eq_false_iff {status : UInt8} {key : Bytes}
    {r : Except RQError (LoginResponse T161 T11A T512)} (hs : DecodeSpec env status m key r) :
    r.isOk = false ↔ status = 0 ∧ m 0x119 = none := by
  rcases r with _ | ⟨_ | _ | _ | _ | _ | _ | _⟩ <;> simp only [DecodeSpec] at hs
  · simp [Except.isOk, Except.toBool, hs.1, hs.2.1]
  · obtain ⟨rfl, v, -, h119, -⟩ := hs
    simp [Except.isOk, Except.toBool, h119]
  all_goals
    simp only [Except.isOk, Except.toBool, Bool.true_eq_false, false_iff, not_and]
    rintro rfl
    simp at hs

/-- Whatever the status and the map, a `decode` that returns gives the variant of its status
with every field read from its own tag, and fails only on status 0 without `0x119`. -/
theorem decode_spec {status : UInt8} {key : Bytes}
    {r : Except RQError (LoginResponse T161 T11A T512)} (h : decode env status m key = some r) :
    DecodeSpec env status m key r ∧ (r.isOk = false ↔ status = 0 ∧ m 0x119 = none) := by
  have hs : DecodeSpec env status m key r := by
    unfold decode at h
    split at h
    · cases h119 : m 0x119 with
      | none =>
        simp only [TlvMap.remove, h119, Option.pure_def, Option.some.injEq] at h
        subst h
        exact ⟨rfl, h119, rfl⟩
      | some v =>
        simp only [TlvMap.remove, h119, option_bind_eq_some, Option.pure_def,
          Option.some.injEq] at h
        obtain ⟨t119, ht, s, hsucc, rfl⟩ := h
        exact ⟨rfl, v, t119, h119, ht, successFields_of_decodeSuccess hsucc⟩
    all_goals simp only [Option.map_eq_map, Option.map_eq_some', Option.pure_def,
      Option.some.injEq] at h
    · -- status 2
      obtain ⟨c, hc, rfl⟩ := h
      exact ⟨rfl, needCaptchaFields_of_decodeNeedCaptcha hc⟩
    · subst h; exact rfl
    · -- status 160
      obtain ⟨d, hd, rfl⟩ := h
      exact ⟨.inl rfl, deviceLockedFields_of_decodeDeviceLocked hd⟩
    · -- status 239
      obtain ⟨d, hd, rfl⟩ := h
      exact ⟨.inr rfl, deviceLockedFields_of_decodeDeviceLocked hd⟩
    · subst h; exact rfl
    · subst h; exact ⟨rfl, rfl⟩
    · -- the catch-all
      obtain ⟨u, hu, rfl⟩ := h
      exact ⟨by simp_all, decodeUnknownStatus_eq_some hu⟩
  exact ⟨hs, hs.isOk_eq_false_iff⟩

/-- A captcha reply whose `0x165` holds a one-byte sign and a one-byte image, and a success
reply whose `0x119` decrypts to a block holding the ticket `0x10a`. -/
theorem decode_spec_captcha_success :
    let env : DecodeEnv Unit Unit Unit := ⟨fun _ _ => some (.ofList [(0x10a, [5])]),
      fun _ => none, fun _ => none, fun _ => none, fun _ => "", 0, id, 0, 0⟩
    let captcha : TlvMap := .ofList [(0x165, putU16 1 ++ [0, 0, 7, 8])]
    let success : TlvMap := .ofList [(0x119, [1])]
    (decode env 2 captcha [] = some (.ok (.needCaptcha ⟨none, none, some ⟨[7], [8]⟩, none⟩)) ∧
      DecodeSpec env 2 captcha [] (.ok (.needCaptcha ⟨none, none, some ⟨[7], [8]⟩, none⟩)) ∧
        (Except.isOk (.ok (.needCaptcha ⟨none, none, some ⟨[7], [8]⟩, none⟩) :
            Except RQError (LoginResponse Unit Unit Unit)) = false ↔
          (2 : UInt8) = 0 ∧ captcha 0x119 = none)) ∧
    ∃ s, decode env 0 success [] = some (.ok (.success s)) ∧ s.tgt = some [5] ∧
      DecodeSpec env 0 success [] (.ok (.success s)) ∧
        (Except.isOk (.ok (.success s) : Except RQError (LoginResponse Unit Unit Unit)) = false ↔
          (0 : UInt8) = 0 ∧ success 0x119 = none) :=
  ⟨⟨rfl, decode_spec rfl⟩, _, rfl, rfl, decode_spec rfl⟩

end FieldsProofs

end Ricq.Wtlogin
