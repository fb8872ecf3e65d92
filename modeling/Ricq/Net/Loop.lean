import Ricq.Bytes

/-!
# The outbound branch of `net_loop`

`net_loop` (`ricq/src/client/net.rs:53-88`) subscribes a receiver `rx` to the broadcast
channel `out_pkt_sender`, then loops over a `select!` of an inbound frame, `rx.recv()` and
the disconnect signal. Producers publish on the channel at any time, also while an
iteration awaits `process_income_packet` or a write, so the loop may fall behind.

A tokio broadcast channel keeps its last `cap` values: `cap` is the capacity given to
`broadcast::channel`, rounded up to a power of two (the channel is made outside `src/`).
A receiver more than `cap` values behind gets `Err(Lagged(n))` and is moved to the oldest
value kept. The branch `if let Ok(output) = output` (lines 76-82) drops that error and
loops on.

Frames are named by their position in the channel since `subscribe`; the stream receives
the frames at the positions `written`.

* `LoopState.Inv.run`: along every interleaving, the positions written are increasing
  positions the receiver has passed, and while the loop runs they number the positions
  passed less the `n`s of the dropped `Lagged(n)`.
* `run_stream_eq_take`: while the loop runs and no `Lagged` has been dropped, the stream
  is every frame received, once each and in publication order.
* `run_stream_sublist`: whatever the capacity, the stream holds frames published, in order,
  none twice, and while the loop runs each frame passed was written or lost to a `Lagged`.
* `run_written_ge`: a frame is written only at or after the receiver's position, so a frame
  the receiver has passed without writing is never written.
* `run_lagged_skips`: one frame more than the channel keeps, published while the loop is
  busy, makes it skip the first of them for good.
-/

namespace Ricq.Net

/-- What happens next: a producer's `out_pkt_sender.send(frame)`; an iteration taking the
`rx.recv()` branch, with whether `write_half.send` succeeds; or the loop's `break` on a
closed or undecodable inbound stream or on the disconnect signal. An inbound frame that
decodes leaves the outbound side as it is. -/
inductive LoopEvent where
  | publish (frame : Bytes)
  | outbound (writeOk : Bool)
  | exit
  deriving DecidableEq, Repr

/-- The channel since `subscribe` and the loop's outbound side: the frames published, the
receiver's position, the positions written to the stream, the sum of the `n`s of the
dropped `Err(Lagged(n))`, and whether the loop still runs. -/
structure LoopState where
  sent : List Bytes
  next : Nat
  written : List Nat
  missed : Nat
  running : Bool
  deriving DecidableEq, Repr

/-- Just after `subscribe`. -/
def LoopState.init : LoopState := ⟨[], 0, [], 0, true⟩

/-- The frames on the stream, in the order written. -/
def LoopState.stream (s : LoopState) : List Bytes := s.written.map (s.sent.getD · [])

/-- `rx.recv()` when it is ready, with the receiver's new position: `Err(Lagged(n))` when
the receiver is more than `cap` values behind, else the value at its position. `none`:
nothing to receive, the branch waits. -/
def recv (cap : Nat) (sent : List Bytes) (next : Nat) : Option (Except Nat Bytes × Nat) :=
  if cap < sent.length - next then some (.error (sent.length - cap - next), sent.length - cap)
  else sent[next]?.map fun frame => (.ok frame, next + 1)

/-- One event on a channel keeping `cap` values. -/
def LoopState.step (cap : Nat) (s : LoopState) : LoopEvent → LoopState
  | .publish frame => { s with sent := s.sent ++ [frame] }
  | .exit => { s with running := false }
  | .outbound writeOk =>
    if s.running then
      match recv cap s.sent s.next with
      | none => s
      | some (.error n, next) => { s with next := next, missed := s.missed + n }
      | some (.ok _, next) =>
        if writeOk then { s with next := next, written := s.written ++ [s.next] }
        else { s with next := next, running := false }
    else s

@[simp] theorem LoopState.step_publish (cap : Nat) (s : LoopState) (frame : Bytes) :
    s.step cap (.publish frame) = { s with sent := s.sent ++ [frame] } := rfl

@[simp] theorem LoopState.step_exit (cap : Nat) (s : LoopState) :
    s.step cap .exit = { s with running := false } := rfl

/-- Run an interleaving. -/
def LoopState.run (cap : Nat) (s : LoopState) : List LoopEvent → LoopState
  | [] => s
  | e :: es => (s.step cap e).run cap es

/-! ## One step -/

section Step

variable {cap : Nat} {s : LoopState}

/-- `rx.recv()` moves the receiver forward within the channel: past one value it returns,
or past the `n` values of a `Lagged(n)`. -/
theorem recv_cases {sent : List Bytes} {next next' : Nat} {r : Except Nat Bytes}
    (h : recv cap sent next = some (r, next')) :
    next' ≤ sent.length ∧
      ((∃ n, r = .error n ∧ next' = next + n) ∨ (∃ frame, r = .ok frame ∧ next' = next + 1)) := by
  unfold recv at h
  split at h
  · obtain ⟨rfl, rfl⟩ := Prod.mk.inj (Option.some.inj h)
    exact ⟨by omega, .inl ⟨_, rfl, by omega⟩⟩
  · obtain ⟨frame, hframe, hr⟩ := Option.map_eq_some'.mp h
    obtain ⟨rfl, rfl⟩ := Prod.mk.inj hr
    exact ⟨(List.getElem?_eq_some_iff.mp hframe).1, .inr ⟨frame, rfl, rfl⟩⟩

/-- What an `outbound` event can do: nothing; drop a `Lagged(n)`; write the frame at the
receiver's position; or fail the write and leave the loop. -/
theorem step_outbound_cases (writeOk : Bool) :
    s.step cap (.outbound writeOk) = s ∨
      (∃ n, s.running = true ∧ s.next + n ≤ s.sent.length ∧
        s.step cap (.outbound writeOk) = { s with next := s.next + n, missed := s.missed + n }) ∨
      (s.running = true ∧ s.next + 1 ≤ s.sent.length ∧
        (s.step cap (.outbound writeOk) =
            { s with next := s.next + 1, written := s.written ++ [s.next] } ∨
          s.step cap (.outbound writeOk) = { s with next := s.next + 1, running := false })) := by
  simp only [LoopState.step]
  split
  · next hrun =>
    split
    · exact .inl rfl
    · next n next' h =>
      obtain ⟨hle, ⟨n', hn, rfl⟩ | ⟨frame, hr, -⟩⟩ := recv_cases h
      · cases hn
        exact .inr (.inl ⟨n, hrun, hle, rfl⟩)
      · cases hr
    · next frame next' h =>
      obtain ⟨hle, ⟨n', hn, -⟩ | ⟨-, -, rfl⟩⟩ := recv_cases h
      · cases hn
      · refine .inr (.inr ⟨hrun, hle, ?_⟩)
        split
        · exact .inl rfl
        · exact .inr rfl
  · exact .inl rfl

/-- The receiver never moves back, and a step writes at most the frame at its position. -/
theorem step_mono (e : LoopEvent) :
    s.next ≤ (s.step cap e).next ∧
      ((s.step cap e).written = s.written ∨ (s.step cap e).written = s.written ++ [s.next]) := by
  cases e with
  | publish _ | exit => exact ⟨le_rfl, .inl rfl⟩
  | outbound writeOk =>
    obtain h | ⟨n, -, -, h⟩ | ⟨-, -, h | h⟩ := @step_outbound_cases cap s writeOk <;>
      rw [h]
    · exact ⟨le_rfl, .inl rfl⟩
    · exact ⟨by simp, .inl rfl⟩
    · exact ⟨by simp, .inr rfl⟩
    · exact ⟨by simp, .inl rfl⟩

end Step

/-! ## Whole runs -/

section Run

variable {cap : Nat}

@[simp] theorem LoopState.run_nil (s : LoopState) : s.run cap [] = s := rfl

theorem LoopState.run_append (s : LoopState) (pre post : List LoopEvent) :
    s.run cap (pre ++ post) = (s.run cap pre).run cap post := by
  induction pre generalizing s with
  | nil => rfl
  | cons e pre ih => exact ih _

/-- A property kept by every step holds after every interleaving. -/
theorem LoopState.run_induction (P : LoopState → Prop) (hstep : ∀ s e, P s → P (s.step cap e))
    {s : LoopState} (h : P s) (es : List LoopEvent) : P (s.run cap es) := by
  induction es generalizing s with
  | nil => exact h
  | cons e es ih => exact ih (hstep s e h)

/-- What every interleaving keeps: the receiver stays within the channel; the positions
written are increasing positions it has passed; while the loop runs, each position passed
was written or dropped with a `Lagged`. -/
structure LoopState.Inv (s : LoopState) : Prop where
  next_le : s.next ≤ s.sent.length
  written_sublist : s.written.Sublist (List.range s.next)
  length_written : s.running = true → s.written.length + s.missed = s.next

theorem LoopState.inv_init : LoopState.init.Inv :=
  ⟨le_rfl, List.Sublist.slnil, fun _ => rfl⟩

theorem LoopState.Inv.step {s : LoopState} (h : s.Inv) (e : LoopEvent) : (s.step cap e).Inv := by
  obtain ⟨hle, hsub, hlen⟩ := h
  cases e with
  | publish frame => exact ⟨by simp only [LoopState.step_publish, List.length_append]; omega, hsub, hlen⟩
  | exit => exact ⟨hle, hsub, fun h => nomatch h⟩
  | outbound writeOk =>
    obtain h | ⟨n, hrun, hn, h⟩ | ⟨hrun, hn, h | h⟩ := @step_outbound_cases cap s writeOk <;>
      rw [h]
    · exact ⟨hle, hsub, hlen⟩
    · refine ⟨hn, hsub.trans (List.range_sublist.mpr (Nat.le_add_right _ _)), fun _ => ?_⟩
      have := hlen hrun
      simp only
      omega
    · refine ⟨hn, ?_, fun _ => ?_⟩
      · rw [List.range_succ]
        exact hsub.append (List.Sublist.refl _)
      · have := hlen hrun
        simp only [List.length_append, List.length_singleton]
        omega
    · exact ⟨hn, hsub.trans (List.range_sublist.mpr (Nat.le_succ _)), fun h => nomatch h⟩

theorem LoopState.Inv.run {s : LoopState} (h : s.Inv) (es : List LoopEvent) :
    (s.run cap es).Inv :=
  LoopState.run_induction _ (fun _ e h => h.step e) h es

/-- The first `n` frames, read by position. -/
theorem map_range_getD {l : List Bytes} {n : Nat} (hn : n ≤ l.length) :
    (List.range n).map (l.getD · []) = l.take n := by
  induction n with
  | zero => simp
  | succ n ih =>
    rw [List.range_succ, List.map_append, ih (by omega), List.take_succ,
      List.getElem?_eq_getElem (by omega)]
    simp [List.getD_eq_getElem?_getD, List.getElem?_eq_getElem (show n < l.length by omega)]

/-- While the loop runs and no `Lagged` was dropped, the stream holds exactly the frames
received, each once and in publication order. -/
theorem run_stream_eq_take (es : List LoopEvent) (hrun : (LoopState.init.run cap es).running)
    (hmiss : (LoopState.init.run cap es).missed = 0) :
    (LoopState.init.run cap es).stream =
      (LoopState.init.run cap es).sent.take (LoopState.init.run cap es).next := by
  obtain ⟨hle, hsub, hlen⟩ := @LoopState.Inv.run cap _ LoopState.inv_init es
  have hrange := hsub.eq_of_length (by simpa [hmiss] using hlen hrun)
  rw [LoopState.stream, hrange]
  exact map_range_getD hle

/-- Whatever the interleaving and the channel's capacity, the stream holds frames published,
in publication order, none twice; and while the loop runs, each frame the receiver has passed
was written or counted in a dropped `Lagged`. -/
theorem run_stream_sublist (es : List LoopEvent) :
    (LoopState.init.run cap es).stream.Sublist (LoopState.init.run cap es).sent ∧
      ((LoopState.init.run cap es).running = true →
        (LoopState.init.run cap es).stream.length + (LoopState.init.run cap es).missed =
          (LoopState.init.run cap es).next) := by
  obtain ⟨hle, hsub, hlen⟩ := @LoopState.Inv.run cap _ LoopState.inv_init es
  refine ⟨?_, fun h => by simpa [LoopState.stream] using hlen h⟩
  -- the positions written are increasing positions passed, read back in the channel
  have hmap := hsub.map ((LoopState.init.run cap es).sent.getD · [])
  rw [map_range_getD hle] at hmap
  exact hmap.trans (List.take_sublist _ _)

/-- After a run, every position written was written before it or is at or past the
receiver's position at its start. -/
theorem run_written_ge (s : LoopState) (es : List LoopEvent) :
    ∀ i ∈ (s.run cap es).written, i ∈ s.written ∨ s.next ≤ i := by
  induction es generalizing s with
  | nil => exact fun i hi => .inl hi
  | cons e es ih =>
    intro i hi
    obtain ⟨hnext, hw⟩ := @step_mono cap s e
    rcases ih (s.step cap e) i hi with hi | hi
    · rcases hw with hw | hw <;> rw [hw] at hi
      · exact .inl hi
      · simp only [List.mem_append, List.mem_singleton] at hi
        exact hi.imp_right fun h => by omega
    · exact .inr (by omega)

theorem run_publish (s : LoopState) (frames : List Bytes) :
    s.run cap (frames.map .publish) = { s with sent := s.sent ++ frames } := by
  induction frames generalizing s with
  | nil => simp
  | cons frame frames ih => simp [LoopState.run, LoopState.step, ih]

end Run

/-! ## A burst past the capacity -/

/-- On a channel keeping `fs.length + 1` values, the `fs.length + 2` frames `f :: g :: fs`
are published before the loop's next `rx.recv()`: that call drops `Lagged(1)`, the next
writes `g`, and the loop runs on. `f` is never written, whatever follows. -/
theorem run_lagged_skips (f g : Bytes) (fs : List Bytes) (rest : List LoopEvent) :
    LoopState.init.run (fs.length + 1)
        ((f :: g :: fs).map .publish ++ [.outbound true, .outbound true]) =
      ⟨f :: g :: fs, 2, [1], 1, true⟩ ∧
    0 ∉ (LoopState.init.run (fs.length + 1)
        ((f :: g :: fs).map .publish ++ [.outbound true, .outbound true] ++ rest)).written := by
  have hpre : LoopState.init.run (fs.length + 1)
      ((f :: g :: fs).map .publish ++ [.outbound true, .outbound true]) =
        ⟨f :: g :: fs, 2, [1], 1, true⟩ := by
    rw [LoopState.run_append, run_publish]
    simp [LoopState.run, LoopState.step, recv, LoopState.init]
  refine ⟨hpre, fun h => ?_⟩
  rw [LoopState.run_append, hpre] at h
  rcases run_written_ge _ rest 0 h with h | h <;> simp at h

end Ricq.Net
