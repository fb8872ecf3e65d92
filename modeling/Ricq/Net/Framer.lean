import Ricq.Bytes

/-!
# The transport framer

`net_loop` (`client/net.rs:54-58`) wraps the stream in tokio-util's `LengthDelimitedCodec`
with a 4-byte length field and `length_adjustment(-4)`: a frame is a big-endian `u32` that
counts the payload and itself, then the payload. The codec is outside `src/`, so it is modelled
from the spec's frame format: `[u32 total_length][payload]`, `payload.len() == total_length -
4`, a length below 4 rejected. The codec's `max_frame_length` (8 MiB by default, a longer frame
being an error on both sides) is left out: here any length that fits the field is a frame.

* `framesOf_of_decodeFrame`: the frames of a byte string are its first frame, then the frames of
  the bytes after it; a decoded frame is its payload's encoding (`eq_of_decodeFrame`).
* `framesOf_flatten_encodeFrame`: the round trip: the encoded payloads, sent one after another
  and followed by any bytes, are read back as the payloads, then the frames of those bytes.
* `framesOf_well_formed`: what the reader accepts is well formed: any byte string is the
  encodings of the frames it reads, then an unfinished frame or a rejected length.
* `framesOf_putU32_of_lt_four`: a length field below 4 ends the stream with an error.
-/

namespace Ricq.Net

/-- Modelled from the spec: the codec's encoder: the frame's length, field included, as a
big-endian `u32`, then the payload; `none`, a failed write, when that length does not fit the
field. -/
def encodeFrame (payload : Bytes) : Option Bytes :=
  if payload.length + 4 < 2 ^ 32 then some (putU32 (.ofNat (payload.length + 4)) ++ payload)
  else none

/-- Modelled from the spec: the codec's decoder on the bytes buffered so far: the first frame's
payload and the bytes after it, `.ok none` while no whole frame is buffered, and an error on a
length below the four bytes of the field. -/
def decodeFrame (buf : Bytes) : Except Unit (Option (Bytes × Bytes)) :=
  match getU32 buf with
  | none => .ok none
  | some (n, rest) => if n.toNat < 4 then .error () else .ok (copyToBytes (n.toNat - 4) rest)

/-- A payload's frame: the length field, then the payload, when the length fits. -/
theorem eq_of_encodeFrame {payload frame : Bytes} (h : encodeFrame payload = some frame) :
    payload.length + 4 < 2 ^ 32 ∧ frame = putU32 (.ofNat (payload.length + 4)) ++ payload := by
  unfold encodeFrame at h
  split at h
  · exact ⟨‹_›, (Option.some.inj h).symm⟩
  · cases h

theorem decodeFrame_encodeFrame {payload frame : Bytes} (h : encodeFrame payload = some frame)
    (x : Bytes) : decodeFrame (frame ++ x) = .ok (some (payload, x)) := by
  obtain ⟨hfit, rfl⟩ := eq_of_encodeFrame h
  have hn : (UInt32.ofNat (payload.length + 4)).toNat = payload.length + 4 := by simp; omega
  simp only [decodeFrame, List.append_assoc, getU32_putU32, hn, Nat.add_sub_cancel,
    copyToBytes_append]
  simp

/-- A decoded frame is the encoding of its payload, followed by the rest of the bytes. -/
theorem eq_of_decodeFrame {buf payload rest : Bytes}
    (h : decodeFrame buf = .ok (some (payload, rest))) :
    ∃ frame, encodeFrame payload = some frame ∧ buf = frame ++ rest := by
  unfold decodeFrame at h
  split at h
  · cases h
  · next n r hn =>
    split at h
    · cases h
    · obtain ⟨hp, rfl⟩ := eq_of_copyToBytes (Except.ok.inj h)
      have hlen : payload.length + 4 = n.toNat := by omega
      have hn' : UInt32.ofNat n.toNat = n :=
        UInt32.toNat.inj (by simpa using Nat.mod_eq_of_lt n.toNat_lt_size)
      refine ⟨_, if_pos (hlen ▸ n.toNat_lt_size), ?_⟩
      rw [eq_of_getU32 hn, hlen, hn', List.append_assoc]

theorem length_lt_of_decodeFrame {buf payload rest : Bytes}
    (h : decodeFrame buf = .ok (some (payload, rest))) : rest.length < buf.length := by
  obtain ⟨frame, hf, rfl⟩ := eq_of_decodeFrame h
  rw [(eq_of_encodeFrame hf).2]
  simp
  omega

/-- The frames at the front of a byte string, in order, and what ends them: the bytes of an
unfinished frame, or the error of a malformed length. -/
def framesOf (buf : Bytes) : List Bytes × Except Unit Bytes :=
  match h : decodeFrame buf with
  | .error e => ([], .error e)
  | .ok none => ([], .ok buf)
  | .ok (some (payload, rest)) =>
    have := length_lt_of_decodeFrame h
    let r := framesOf rest
    (payload :: r.1, r.2)
termination_by buf.length

theorem framesOf_of_decodeFrame {buf payload rest : Bytes}
    (h : decodeFrame buf = .ok (some (payload, rest))) :
    framesOf buf = (payload :: (framesOf rest).1, (framesOf rest).2) := by
  rw [framesOf]
  split <;> simp_all

theorem framesOf_of_decodeFrame_error {buf : Bytes} {e : Unit} (h : decodeFrame buf = .error e) :
    framesOf buf = ([], .error e) := by
  rw [framesOf]
  split <;> simp_all

theorem framesOf_of_decodeFrame_none {buf : Bytes} (h : decodeFrame buf = .ok none) :
    framesOf buf = ([], .ok buf) := by
  rw [framesOf]
  split <;> simp_all

theorem framesOf_nil : framesOf [] = ([], .ok []) :=
  framesOf_of_decodeFrame_none rfl

/-- The round trip: payloads whose frames fit, encoded and sent one after another, are read
back in order, and the bytes after them are framed as on their own. -/
theorem framesOf_flatten_encodeFrame {payloads frames : List Bytes}
    (h : payloads.mapM encodeFrame = some frames) (x : Bytes) :
    framesOf (frames.flatten ++ x) = (payloads ++ (framesOf x).1, (framesOf x).2) := by
  induction payloads generalizing frames with
  | nil =>
    obtain rfl : frames = [] := (Option.some.inj h).symm
    rfl
  | cons p ps ih =>
    simp only [List.mapM_cons, option_bind_eq_some, Option.pure_def, Option.some.injEq] at h
    obtain ⟨f, hf, fs, hfs, rfl⟩ := h
    rw [List.flatten_cons, List.append_assoc,
      framesOf_of_decodeFrame (decodeFrame_encodeFrame hf _), ih hfs]
    rfl

/-- A one-byte payload and an empty one, then two bytes of an unfinished frame. -/
theorem framesOf_flatten_encodeFrame_two :
    [[7], []].mapM encodeFrame = some [[0, 0, 0, 5, 7], [0, 0, 0, 4]] ∧
      framesOf ([[0, 0, 0, 5, 7], [0, 0, 0, 4]].flatten ++ [0, 0]) =
        ([[7], []] ++ (framesOf [0, 0]).1, (framesOf [0, 0]).2) :=
  ⟨by decide, framesOf_flatten_encodeFrame (by decide) [0, 0]⟩

theorem framesOf_putU32_of_lt_four {n : UInt32} (hn : n.toNat < 4) (x : Bytes) :
    framesOf (putU32 n ++ x) = ([], .error ()) :=
  framesOf_of_decodeFrame_error (by simp [decodeFrame, getU32_putU32, hn])

/-- What the reader accepts is well formed: a byte string is the frames of the payloads it
reads, then the bytes they stop at: an unfinished frame, which it returns, or a length
below 4, which it rejects. -/
theorem framesOf_well_formed (buf : Bytes) :
    ∃ frames, (framesOf buf).1.mapM encodeFrame = some frames ∧
      ∃ tail, buf = frames.flatten ++ tail ∧
        ((framesOf buf).2 = .ok tail ∧ decodeFrame tail = .ok none ∨
          (framesOf buf).2 = .error () ∧ decodeFrame tail = .error ()) := by
  induction buf using framesOf.induct with
  | case1 buf e hd =>
    rw [framesOf_of_decodeFrame_error hd]
    exact ⟨[], rfl, buf, rfl, .inr ⟨rfl, hd⟩⟩
  | case2 buf hd =>
    rw [framesOf_of_decodeFrame_none hd]
    exact ⟨[], rfl, buf, rfl, .inl ⟨rfl, hd⟩⟩
  | case3 buf payload rest hd _ ih =>
    obtain ⟨frames, hframes, tail, hrest, htail⟩ := ih
    obtain ⟨frame, hframe, rfl⟩ := eq_of_decodeFrame hd
    rw [framesOf_of_decodeFrame hd]
    exact ⟨frame :: frames, by rw [List.mapM_cons, hframe, hframes]; rfl, tail, by simp [hrest],
      htail⟩

end Ricq.Net
