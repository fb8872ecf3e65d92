import Ricq.Net.Framer

/-!
# The inbound branch of `net_loop`

Each iteration of `net_loop` (`client/net.rs:63-87`) may take the branch `input =
read_half.next()`: a frame's payload goes through `decode_packet` and, if it decodes, to
`process_income_packet`; an undecodable payload, the end of the stream or an error of the
framer ends the loop. `read_half` keeps the bytes that no frame has taken yet across
iterations, so bytes may arrive in any split while other branches run.

A run interleaves the socket's deliveries (`bytes`, `close`), iterations taking this branch
(`inbound`) and the loop's exit through another branch (`exit`: a failed write, the disconnect
signal), as `Ricq.Net.Loop` interleaves the outbound side. `decode_packet` is outside `src/`;
it is the parameter `decodePacket`, `none` being an error.

* `InboundState.Inv.run`: along every run the frames taken are the first frames of the bytes
  delivered, and the packets processed are those frames decoded, up to the one that failed.
* `run_processed_eq_frames`: so the packets processed are the first frames of the stream,
  decoded, in order: none is skipped, repeated or reordered, however the bytes were split.
* `run_processes_all`: and while the loop runs, as many iterations as there are frames
  delivered process every one of them.
-/

namespace Ricq.Net

/-- `read_half`: the bytes delivered that no frame has taken yet, and whether the socket has
ended. -/
structure FramedRead where
  buf : Bytes
  eof : Bool
  deriving DecidableEq, Repr

/-- `read_half.next()` once it is ready: `some payload` for a frame, `none` for the end of the
stream or an error (a malformed length, or the end inside a frame); not ready (`none` outside)
while a whole frame is still to come. -/
def FramedRead.next (r : FramedRead) : Option (Option Bytes × FramedRead) :=
  match decodeFrame r.buf with
  | .error _ => some (none, r)
  | .ok (some (payload, rest)) => some (some payload, ⟨rest, r.eof⟩)
  | .ok none => if r.eof then some (none, r) else none

/-- The end of the stream leaves the reader as it is. -/
theorem FramedRead.next_eq_none_result {r r' : FramedRead} (h : r.next = some (none, r')) :
    r' = r := by
  unfold FramedRead.next at h
  split at h
  · exact (Prod.mk.inj (Option.some.inj h)).2.symm
  · cases h
  · split at h
    · exact (Prod.mk.inj (Option.some.inj h)).2.symm
    · cases h

/-- A frame is the one `decodeFrame` finds at the front of the buffered bytes. -/
theorem FramedRead.next_eq_some_result {r r' : FramedRead} {payload : Bytes}
    (h : r.next = some (some payload, r')) :
    decodeFrame r.buf = .ok (some (payload, r'.buf)) ∧ r'.eof = r.eof := by
  unfold FramedRead.next at h
  split at h
  · cases h
  · next payload' rest hd =>
    obtain ⟨hp, rfl⟩ := Prod.mk.inj (Option.some.inj h)
    cases hp
    exact ⟨hd, rfl⟩
  · split at h <;> cases h

/-- What happens next: the socket delivers bytes, which `read_half` buffers; the socket ends or
fails; an iteration takes the `read_half.next()` branch; or the loop breaks in another branch. -/
inductive InboundEvent where
  | bytes (chunk : Bytes)
  | close
  | inbound
  | exit
  deriving DecidableEq, Repr

/-- The inbound side of the loop: the reader, the packets handed to `process_income_packet`, in
order, and whether the loop still runs. -/
structure InboundState (Packet : Type) where
  read : FramedRead
  processed : List Packet
  running : Bool

/-- Just after `new_framed(stream).split()`. -/
def InboundState.init {Packet : Type} : InboundState Packet := ⟨⟨[], false⟩, [], true⟩

section Inbound

variable {Packet : Type} (decodePacket : Bytes → Option Packet)

/-- One event; the branch body is lines 65-75. -/
def InboundState.step (s : InboundState Packet) : InboundEvent → InboundState Packet
  | .bytes chunk => if s.read.eof then s else { s with read := ⟨s.read.buf ++ chunk, false⟩ }
  | .close => { s with read := ⟨s.read.buf, true⟩ }
  | .exit => { s with running := false }
  | .inbound =>
    if s.running then
      match s.read.next with
      | none => s
      | some (none, read) => { s with read := read, running := false }
      | some (some input, read) =>
        match decodePacket input with
        | none => { s with read := read, running := false }
        | some pkt => { s with read := read, processed := s.processed ++ [pkt] }
    else s

/-- Run an interleaving. -/
def InboundState.run (s : InboundState Packet) : List InboundEvent → InboundState Packet
  | [] => s
  | e :: es => (s.step decodePacket e).run es

theorem InboundState.run_append (s : InboundState Packet) (es es' : List InboundEvent) :
    s.run decodePacket (es ++ es') = (s.run decodePacket es).run decodePacket es' := by
  induction es generalizing s with
  | nil => rfl
  | cons e es ih => exact ih _

/-- The bytes the socket delivers in a run: the chunks before it ends. -/
def received : List InboundEvent → Bytes
  | [] => []
  | .bytes chunk :: es => chunk ++ received es
  | .close :: _ => []
  | _ :: es => received es

/-- What holds after the socket has delivered `R`: `R` is the bytes of the frames taken, `pre`,
then the buffered bytes; those frames are `read`, the first frames of `R`; and the packets
processed are the first `k` of them decoded, all of them while the loop runs. -/
def InboundState.Inv (R : Bytes) (s : InboundState Packet) : Prop :=
  ∃ pre read, R = pre ++ s.read.buf ∧
    (∀ x, framesOf (pre ++ x) = (read ++ (framesOf x).1, (framesOf x).2)) ∧
    ∃ k ≤ read.length, (read.take k).mapM decodePacket = some s.processed ∧
      (s.running = true → k = read.length)

theorem InboundState.inv_init : InboundState.init.Inv decodePacket [] :=
  ⟨[], [], rfl, fun _ => rfl, 0, le_refl 0, rfl, fun _ => rfl⟩

variable {decodePacket}

/-- An event that takes no frame keeps the invariant. -/
theorem InboundState.Inv.mono {R : Bytes} {s s' : InboundState Packet} (h : s.Inv decodePacket R)
    (hbuf : s'.read.buf = s.read.buf) (hproc : s'.processed = s.processed)
    (hrun : s'.running = true → s.running = true) : s'.Inv decodePacket R := by
  obtain ⟨pre, read, hR, hpre, k, hk, hk', hr⟩ := h
  exact ⟨pre, read, hbuf ▸ hR, hpre, k, hk, hproc ▸ hk', fun h => hr (hrun h)⟩

/-- One event keeps the invariant, with the bytes it delivers added. -/
theorem InboundState.Inv.step {R : Bytes} {s : InboundState Packet} (h : s.Inv decodePacket R)
    (e : InboundEvent) :
    (s.step decodePacket e).Inv decodePacket
      (R ++ match e with
        | .bytes chunk => if s.read.eof then [] else chunk
        | _ => []) := by
  cases e with
  | bytes chunk =>
    by_cases heof : s.read.eof
    · simpa [InboundState.step, heof] using h
    · obtain ⟨pre, read, hR, hpre, hk⟩ := h
      simp only [InboundState.step, heof]
      exact ⟨pre, read, by simp [hR], hpre, hk⟩
  | close => exact (List.append_nil R).symm ▸ h.mono rfl rfl id
  | exit => exact (List.append_nil R).symm ▸ h.mono rfl rfl (by simp [InboundState.step])
  | inbound =>
    rw [List.append_nil]
    by_cases hr : s.running
    · cases hn : s.read.next with
      | none => simpa [InboundState.step, hr, hn] using h
      | some res =>
        obtain ⟨out, read'⟩ := res
        cases out with
        | none =>
          obtain rfl := FramedRead.next_eq_none_result hn
          simp only [InboundState.step, hr, hn, if_true]
          exact h.mono rfl rfl fun h => by cases h
        | some input =>
          -- the frame `input` is taken: it joins the frames read, and is processed or ends the loop
          obtain ⟨pre, read, hR, hpre, k, -, hproc, hrun⟩ := h
          obtain ⟨hd, -⟩ := FramedRead.next_eq_some_result hn
          obtain ⟨frame, hframe, hbuf⟩ := eq_of_decodeFrame hd
          obtain rfl := hrun hr
          have hpre' : ∀ x, framesOf (pre ++ frame ++ x) =
              (read ++ [input] ++ (framesOf x).1, (framesOf x).2) := fun x => by
            rw [List.append_assoc, hpre, framesOf_of_decodeFrame (decodeFrame_encodeFrame hframe x)]
            simp
          rw [List.take_length] at hproc
          cases hpkt : decodePacket input with
          | none =>
            simp only [InboundState.step, hr, hn, hpkt, if_true]
            exact ⟨pre ++ frame, read ++ [input], by simp [hR, hbuf], hpre', read.length,
              by simp, by simpa using hproc, fun h => by cases h⟩
          | some pkt =>
            simp only [InboundState.step, hr, hn, hpkt, if_true]
            refine ⟨pre ++ frame, read ++ [input], by simp [hR, hbuf], hpre',
              (read ++ [input]).length, le_refl _, ?_, fun _ => rfl⟩
            rw [List.take_length, List.mapM_append, hproc, List.mapM_cons, hpkt]
            rfl
    · simpa [InboundState.step, hr] using h

/-- Only `close` ends the socket, and nothing reopens it. -/
theorem InboundState.eof_step (s : InboundState Packet) (e : InboundEvent) :
    (s.step decodePacket e).read.eof = match e with
      | .close => true
      | _ => s.read.eof := by
  cases e with
  | bytes chunk => by_cases h : s.read.eof <;> simp [InboundState.step, h]
  | close => rfl
  | exit => rfl
  | inbound =>
    simp only [InboundState.step]
    split
    · split
      · rfl
      · next read hn => rw [FramedRead.next_eq_none_result hn]
      · next input read hn =>
        have := (FramedRead.next_eq_some_result hn).2
        split <;> exact this
    · rfl

/-- A run keeps the invariant, with the bytes it delivers added. -/
theorem InboundState.Inv.run {R : Bytes} {s : InboundState Packet} (h : s.Inv decodePacket R)
    (es : List InboundEvent) :
    (s.run decodePacket es).Inv decodePacket (R ++ if s.read.eof then [] else received es) := by
  induction es generalizing R s with
  | nil => simpa [InboundState.run, received] using h
  | cons e es ih =>
    have hstep := ih (h.step e)
    rw [InboundState.eof_step] at hstep
    rw [InboundState.run]
    convert hstep using 1
    cases e <;> by_cases heof : s.read.eof <;> simp [heof, received]

/-- Whatever the run, the packets `net_loop` hands to `process_income_packet` are the first
frames of the bytes the socket delivered, each decoded, in order: none is skipped, repeated or
reordered, however the bytes were split into reads and whatever the other branches did. -/
theorem run_processed_eq_frames (es : List InboundEvent) :
    ∃ k, ((framesOf (received es)).1.take k).mapM decodePacket =
      some (InboundState.init.run decodePacket es).processed := by
  obtain ⟨pre, read, hR, hpre, k, hk, hproc, -⟩ := (InboundState.inv_init decodePacket).run es
  refine ⟨k, ?_⟩
  have hrecv : received es = pre ++ (InboundState.init.run decodePacket es).read.buf := by
    simpa [InboundState.init] using hR
  rw [hrecv, hpre, List.take_append_of_le_length hk, hproc]

/-! ## Progress -/

/-- An iteration on a buffer that holds no whole frame takes nothing. -/
theorem InboundState.step_inbound_of_no_frame {s : InboundState Packet}
    (h : ∀ payload rest, decodeFrame s.read.buf ≠ .ok (some (payload, rest))) :
    (s.step decodePacket .inbound).read = s.read ∧
      (s.step decodePacket .inbound).processed = s.processed := by
  simp only [InboundState.step]
  split
  · split
    · exact ⟨rfl, rfl⟩
    · next read hn => exact ⟨FramedRead.next_eq_none_result hn, rfl⟩
    · next input read hn => exact absurd (FramedRead.next_eq_some_result hn).1 (h _ _)
  · exact ⟨rfl, rfl⟩

theorem InboundState.run_inbound_of_no_frame (n : Nat) {s : InboundState Packet}
    (h : ∀ payload rest, decodeFrame s.read.buf ≠ .ok (some (payload, rest))) :
    (s.run decodePacket (List.replicate n .inbound)).processed = s.processed := by
  induction n generalizing s with
  | zero => rfl
  | succ n ih =>
    obtain ⟨hread, hproc⟩ := @InboundState.step_inbound_of_no_frame _ decodePacket _ h
    rw [List.replicate_succ, InboundState.run, ih (by rw [hread]; exact h), hproc]

/-- While the loop runs, iterations of the inbound branch process the buffered frames, one an
iteration, when each decodes. -/
theorem InboundState.run_inbound_drain (n : Nat) {s : InboundState Packet}
    (hrun : s.running = true) {pkts : List Packet}
    (hdec : (framesOf s.read.buf).1.mapM decodePacket = some pkts)
    (hn : (framesOf s.read.buf).1.length ≤ n) :
    (s.run decodePacket (List.replicate n .inbound)).processed = s.processed ++ pkts := by
  induction n generalizing s pkts with
  | zero =>
    rw [List.length_eq_zero.mp (Nat.le_zero.mp hn)] at hdec
    obtain rfl : pkts = [] := (Option.some.inj hdec).symm
    simp [InboundState.run]
  | succ n ih =>
    by_cases hframe : ∃ payload rest, decodeFrame s.read.buf = .ok (some (payload, rest))
    · obtain ⟨payload, rest, hd⟩ := hframe
      rw [framesOf_of_decodeFrame hd] at hdec hn
      simp only [List.mapM_cons, option_bind_eq_some, Option.pure_def, Option.some.injEq] at hdec
      obtain ⟨pkt, hpkt, pkts', hpkts', rfl⟩ := hdec
      have hstep : s.step decodePacket .inbound =
          { s with read := ⟨rest, s.read.eof⟩, processed := s.processed ++ [pkt] } := by
        simp [InboundState.step, hrun, FramedRead.next, hd, hpkt]
      rw [List.replicate_succ, InboundState.run, hstep,
        @ih { s with read := ⟨rest, s.read.eof⟩, processed := s.processed ++ [pkt] } hrun _ hpkts'
          (by simpa using hn)]
      simp
    · push_neg at hframe
      have hnil : (framesOf s.read.buf).1 = [] := by
        rw [framesOf]
        split
        · rfl
        · rfl
        · exact absurd ‹_› (hframe _ _)
      rw [hnil] at hdec
      obtain rfl : pkts = [] := (Option.some.inj hdec).symm
      rw [InboundState.run_inbound_of_no_frame _ hframe, List.append_nil]

/-- Progress: while the loop runs and every frame delivered decodes, as many iterations of the
inbound branch as the bytes delivered hold frames process all of them, in order. -/
theorem run_processes_all (es : List InboundEvent) {pkts : List Packet}
    (hdec : (framesOf (received es)).1.mapM decodePacket = some pkts)
    (hrun : (InboundState.init.run decodePacket es).running = true) :
    (InboundState.init.run decodePacket
      (es ++ List.replicate (framesOf (received es)).1.length .inbound)).processed = pkts := by
  obtain ⟨pre, read, hR, hpre, k, -, hproc, hk⟩ := (InboundState.inv_init decodePacket).run es
  obtain rfl := hk hrun
  rw [List.take_length] at hproc
  have hrecv : received es = pre ++ (InboundState.init.run decodePacket es).read.buf := by
    simpa [InboundState.init] using hR
  rw [hrecv, hpre] at hdec ⊢
  simp only [List.mapM_append, option_bind_eq_some, Option.pure_def, Option.some.injEq] at hdec
  obtain ⟨pr, hpr, pf, hpf, rfl⟩ := hdec
  rw [InboundState.run_append, InboundState.run_inbound_drain _ hrun hpf (by simp),
    Option.some.inj (hproc.symm.trans hpr)]

/-- Two frames delivered in two reads, the second frame's length field split between them. -/
theorem run_processes_all_two_reads :
    let es : List InboundEvent := [.bytes [0, 0, 0, 5, 7, 0, 0], .bytes [0, 6, 8, 9]]
    (framesOf (received es)).1.mapM (some : Bytes → Option Bytes) = some [[7], [8, 9]] ∧
      (InboundState.init.run some es).running = true ∧
      (InboundState.init.run some (es ++ List.replicate
        (framesOf (received es)).1.length .inbound)).processed = [[7], [8, 9]] :=
  have hrecv : received [.bytes [0, 0, 0, 5, 7, 0, 0], .bytes [0, 6, 8, 9]] =
      [0, 0, 0, 5, 7, 0, 0, 0, 6, 8, 9] := rfl
  have hdec : (framesOf (received [.bytes [0, 0, 0, 5, 7, 0, 0], .bytes [0, 6, 8, 9]])).1.mapM
      (some : Bytes → Option Bytes) = some [[7], [8, 9]] := by
    rw [hrecv, framesOf_of_decodeFrame (show decodeFrame [0, 0, 0, 5, 7, 0, 0, 0, 6, 8, 9] =
        .ok (some ([7], [0, 0, 0, 6, 8, 9])) from rfl),
      framesOf_of_decodeFrame
        (show decodeFrame [0, 0, 0, 6, 8, 9] = .ok (some ([8, 9], [])) from rfl),
      framesOf_nil]
    rfl
  ⟨hdec, rfl, run_processes_all _ hdec rfl⟩

end Inbound

end Ricq.Net
