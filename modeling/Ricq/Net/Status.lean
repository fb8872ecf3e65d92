import Mathlib

/-!
# Connection status: `start` against `stop`

After storing `Running`, `Client::start` (`client/net.rs:30-39`) awaits `net_loop`, sends
the disconnect signal, loads the status and stores `NetworkOffline` if it loaded
`Running`. `Client::stop(r)` (lines 41-45) sends the signal, stores `r` and clears
`online`. Every load and store is a separate atomic (`Ordering::Relaxed`) step, so the
two interleave; a schedule says which of them steps next.

* `run_online_false`: once both have returned, `online` is false, and the status is `r`
  or `NetworkOffline`.
* `run_status_of_keepsStop`: when `start` loads after `stop` has stored, the status
  ends as `r`.
* `run_status_of_losesStop`: once `start` has loaded `Running` and `stop` has stored, the
  status ends as `NetworkOffline`: `stop`'s status is lost.
* `run_start_stop_race`: loading before `stop` stores and storing after it leaves
  `NetworkOffline`.
-/

namespace Ricq.Net

/-- Modelled from the spec: `NetworkStatus` is declared outside `src/`; the spec's session
states are `Idle`, `Running`, `NetworkOffline`, `MsfOffline` and a stopped state. The
status atomic holds `status as u8`, an injective cast, so the model stores the value. -/
inductive NetworkStatus where
  | idle
  | running
  | networkOffline
  | msfOffline
  | stopped
  deriving DecidableEq, Repr

/-- Where `start` stands after storing `Running`: awaiting `net_loop`, about to send the
disconnect signal, about to load the status, about to store `NetworkOffline` having loaded
`seen`, or returned. -/
inductive StartPc where
  | netLoop
  | disconnect
  | load
  | store (seen : NetworkStatus)
  | done
  deriving DecidableEq, Repr

/-- Where `stop` stands. -/
inductive StopPc where
  | disconnect
  | storeStatus
  | storeOnline
  | done
  deriving DecidableEq, Repr

/-- The shared session state and both callers' positions. -/
structure NetState where
  status : NetworkStatus
  online : Bool
  signals : Nat
  start : StartPc
  stop : StopPc
  deriving DecidableEq, Repr

/-- `start` has just stored `Running`; `stop` is about to begin. -/
def NetState.init (online : Bool) : NetState := ⟨.running, online, 0, .netLoop, .disconnect⟩

/-- One atomic step of `start`. `net_loop` may return at any time: on a disconnect signal,
a closed stream or a failed write. -/
def NetState.stepStart (s : NetState) : NetState :=
  match s.start with
  | .netLoop => { s with start := .disconnect }
  | .disconnect => { s with signals := s.signals + 1, start := .load }
  | .load => { s with start := .store s.status }
  | .store seen =>
    if seen = .running then { s with status := .networkOffline, start := .done }
    else { s with start := .done }
  | .done => s

/-- One atomic step of `stop(r)`. -/
def NetState.stepStop (r : NetworkStatus) (s : NetState) : NetState :=
  match s.stop with
  | .disconnect => { s with signals := s.signals + 1, stop := .storeStatus }
  | .storeStatus => { s with status := r, stop := .storeOnline }
  | .storeOnline => { s with online := false, stop := .done }
  | .done => s

/-- Run a schedule: `true` steps `start`, `false` steps `stop(r)`. -/
def NetState.run (r : NetworkStatus) (s : NetState) : List Bool → NetState
  | [] => s
  | true :: sched => (s.stepStart).run r sched
  | false :: sched => (s.stepStop r).run r sched

section Runs

variable {r : NetworkStatus}

@[simp] theorem NetState.run_nil (s : NetState) : s.run r [] = s := rfl

theorem NetState.run_cons (s : NetState) (b : Bool) (sched : List Bool) :
    s.run r (b :: sched) = (if b then s.stepStart else s.stepStop r).run r sched := by
  cases b <;> rfl

theorem NetState.run_append (s : NetState) (pre post : List Bool) :
    s.run r (pre ++ post) = (s.run r pre).run r post := by
  induction pre generalizing s with
  | nil => rfl
  | cons b pre ih => simp only [List.cons_append, NetState.run_cons, ih]

/-- A property kept by both callers' steps holds after every schedule. -/
theorem NetState.run_induction (P : NetState → Prop) (hstart : ∀ s, P s → P s.stepStart)
    (hstop : ∀ s, P s → P (s.stepStop r)) {s : NetState} (h : P s) (sched : List Bool) :
    P (s.run r sched) := by
  induction sched generalizing s with
  | nil => exact h
  | cons b sched ih => rw [NetState.run_cons]; split <;> exact ih (by simp_all)

/-- What holds after `stop` has stored: the status is `r` or `start`'s `NetworkOffline`,
and once `stop` has returned, `online` is false. -/
def StopInv (r : NetworkStatus) (s : NetState) : Prop :=
  (s.stop = .storeOnline ∨ s.stop = .done → s.status = r ∨ s.status = .networkOffline) ∧
    (s.stop = .done → s.online = false)

theorem stopInv_stepStart {s : NetState} (h : StopInv r s) : StopInv r s.stepStart := by
  unfold NetState.stepStart
  split
  any_goals exact h
  split
  · exact ⟨fun _ => .inr rfl, h.2⟩
  · exact h

theorem stopInv_stepStop {s : NetState} (h : StopInv r s) : StopInv r (s.stepStop r) := by
  unfold NetState.stepStop
  split <;> simp_all [StopInv]

/-- Once `stop` has returned, `online` is false and the status is `r` or `NetworkOffline`,
whatever the schedule. -/
theorem run_online_false (online : Bool) (sched : List Bool)
    (h : ((NetState.init online).run r sched).stop = .done) :
    ((NetState.init online).run r sched).online = false ∧
      (((NetState.init online).run r sched).status = r ∨
        ((NetState.init online).run r sched).status = .networkOffline) := by
  have hinv := @NetState.run_induction r (StopInv r) (fun _ => stopInv_stepStart)
    (fun _ => stopInv_stepStop) (NetState.init online)
    ⟨by simp [NetState.init], by simp [NetState.init]⟩ sched
  exact ⟨hinv.2 h, hinv.1 (.inr h)⟩

/-- `stop(MsfOffline)` runs to the end before `net_loop` returns. -/
theorem run_online_false_stop_first :
    ((NetState.init true).run .msfOffline [false, false, false, true]).stop = .done ∧
      ((NetState.init true).run .msfOffline [false, false, false, true]).online = false ∧
        (((NetState.init true).run .msfOffline [false, false, false, true]).status = .msfOffline ∨
          ((NetState.init true).run .msfOffline [false, false, false, true]).status =
            .networkOffline) :=
  have h : ((NetState.init true).run .msfOffline [false, false, false, true]).stop = .done := rfl
  ⟨h, run_online_false true _ h⟩

/-! ## After `stop` has stored -/

/-- `stop` has stored `r`, and `start` is not about to store having loaded `Running`. -/
def KeepsStop (r : NetworkStatus) (s : NetState) : Prop :=
  s.status = r ∧ (∀ seen, s.start = .store seen → seen ≠ .running) ∧
    (s.stop = .storeOnline ∨ s.stop = .done)

/-- `stop` has stored, and `start` is about to store having loaded `Running`, or has. -/
def LosesStop (s : NetState) : Prop :=
  (s.start = .store .running ∨ (s.start = .done ∧ s.status = .networkOffline)) ∧
    (s.stop = .storeOnline ∨ s.stop = .done)

theorem keepsStop_stepStart (hr : r ≠ .running) {s : NetState} (h : KeepsStop r s) :
    KeepsStop r s.stepStart := by
  obtain ⟨hstatus, hseen, hstop⟩ := h
  unfold NetState.stepStart
  split
  · exact ⟨hstatus, by simp, hstop⟩
  · exact ⟨hstatus, by simp, hstop⟩
  · exact ⟨hstatus, by simpa [hstatus] using hr, hstop⟩
  · next seen hpc => simp [hseen seen hpc, hstatus, hstop, KeepsStop]
  · exact ⟨hstatus, hseen, hstop⟩

theorem keepsStop_stepStop {s : NetState} (h : KeepsStop r s) : KeepsStop r (s.stepStop r) := by
  obtain ⟨hstatus, hseen, hstop | hstop⟩ := h
  · simp only [NetState.stepStop, hstop]
    exact ⟨hstatus, hseen, .inr rfl⟩
  · simp only [NetState.stepStop, hstop]
    exact ⟨hstatus, hseen, .inr hstop⟩

theorem losesStop_stepStart {s : NetState} (h : LosesStop s) : LosesStop s.stepStart := by
  obtain ⟨hstart | ⟨hdone, hstatus⟩, hstop⟩ := h
  · simp [NetState.stepStart, hstart, LosesStop, hstop]
  · simp [NetState.stepStart, hdone, LosesStop, hstatus, hstop]

theorem losesStop_stepStop {s : NetState} (h : LosesStop s) : LosesStop (s.stepStop r) := by
  obtain ⟨hstart, hstop | hstop⟩ := h <;> simp [NetState.stepStop, hstop, LosesStop, hstart]

/-- Once `stop` has stored, the status ends as `r` unless `start` has already loaded
`Running` and not yet stored: `start`'s load came after the store, or its store before. -/
theorem run_status_of_keepsStop (hr : r ≠ .running) {s : NetState} (h : KeepsStop r s)
    (sched : List Bool) : (s.run r sched).status = r :=
  (NetState.run_induction (KeepsStop r) (fun _ => keepsStop_stepStart hr)
    (fun _ => keepsStop_stepStop) h sched).1

/-- `stop(MsfOffline)` signals and stores while `net_loop` still runs; `start` then loads
`MsfOffline` and leaves it. -/
theorem run_status_of_keepsStop_store_first :
    KeepsStop .msfOffline ((NetState.init true).run .msfOffline [false, false]) ∧
      (((NetState.init true).run .msfOffline [false, false]).run .msfOffline
        [true, true, true, true, false]).status = .msfOffline :=
  have h : KeepsStop .msfOffline ((NetState.init true).run .msfOffline [false, false]) := by
    simp [KeepsStop, NetState.run, NetState.stepStop, NetState.init]
  ⟨h, run_status_of_keepsStop (by decide) h _⟩

/-- Once `stop` has stored while `start` waits to store having loaded `Running`, the
status ends as `NetworkOffline`. -/
theorem run_status_of_losesStop {s : NetState} (h : LosesStop s) (sched : List Bool)
    (hdone : (s.run r sched).start = .done) : (s.run r sched).status = .networkOffline := by
  have := (@NetState.run_induction r LosesStop (fun _ => losesStop_stepStart)
    (fun _ => losesStop_stepStop) s h sched).1
  simp_all

/-- `stop(MsfOffline)` signals; `net_loop` returns, `start` signals and loads `Running`;
`stop` stores `MsfOffline`; `start` then stores `NetworkOffline` over it. -/
theorem run_status_of_losesStop_race :
    LosesStop ((NetState.init true).run .msfOffline [false, true, true, true, false]) ∧
      (((NetState.init true).run .msfOffline [false, true, true, true, false]).run .msfOffline
        [true, false]).start = .done ∧
      (((NetState.init true).run .msfOffline [false, true, true, true, false]).run .msfOffline
        [true, false]).status = .networkOffline :=
  have h : LosesStop ((NetState.init true).run .msfOffline [false, true, true, true, false]) := by
    simp [LosesStop, NetState.run, NetState.stepStart, NetState.stepStop, NetState.init]
  have hdone : (((NetState.init true).run .msfOffline [false, true, true, true, false]).run
      .msfOffline [true, false]).start = .done := rfl
  ⟨h, hdone, run_status_of_losesStop h _ hdone⟩

/-- `stop(MsfOffline)` sends its signal; `net_loop` returns, `start` signals and loads
`Running`; `stop` stores `MsfOffline` and clears `online`; `start` stores `NetworkOffline`. -/
theorem run_start_stop_race :
    (NetState.init true).run .msfOffline [false, true, true, true, false, false, true] =
      ⟨.networkOffline, false, 2, .done, .done⟩ := by
  decide

end Runs

end Ricq.Net
