import Ricq.Client.GroupSystemMsg

/-!
# Group system messages: concurrent calls

Calls of `process_group_system_messages` may run at once. Each check (time gate and scan
under a read lock), each handler call and the final replacement of the cache (under the
write lock) is an atomic step; a schedule picks which call steps next. The read lock is
released after each check and the cache is written only after every handler call, so two
calls can both check a request before either replaces the cache.

* `SysTask.step_pending`: one step of a call moves at most one pending request to the
  handler and never adds a pending request.
* `SysState.Inv`: handler calls plus pending requests are bounded by the batches; it holds
  initially and after every step, so on every run each occurrence of a request in a batch
  yields at most one handler call (`run_handles_le_batches`).
* `run_handles_twice`: that bound is all there is; one request in two batches is handed
  over twice when both calls check it before either replaces the cache.
* `run_alone_eq_processGroupSystemMessages`: a call with no other interleaved ends in the
  state `processGroupSystemMessages` computes: the step model refines the call run alone.
-/

namespace Ricq.Client

/-- Where a `process_group_system_messages` call stands: about to check the head of the
self-invited or join-group requests still to do, about to hand one to the handler, about
to replace the cache, or returned. -/
inductive SysPc where
  | selfInvited (todo : List GroupRequest)
  | handleSelfInvited (r : GroupRequest) (todo : List GroupRequest)
  | joinGroupRequests (todo : List GroupRequest)
  | handleJoinGroupRequest (r : GroupRequest) (todo : List GroupRequest)
  | replace
  | done
  deriving DecidableEq, Repr

/-- A call in flight: its batch and where it stands. -/
structure SysTask where
  msgs : GroupSystemMessages
  pc : SysPc
  deriving DecidableEq, Repr

/-- A call about to start its first loop. -/
def SysTask.start (msgs : GroupSystemMessages) : SysTask := ⟨msgs, .selfInvited msgs.selfInvited⟩

/-- One atomic step of a call against the shared cache: the call afterwards, the handler
call it makes and the cache it writes. -/
def SysTask.step (startTime : Int) (cache : GroupSystemMessages) (t : SysTask) :
    SysTask × Option SysEvent × Option GroupSystemMessages :=
  match t.pc with
  | .selfInvited [] => (⟨t.msgs, .joinGroupRequests t.msgs.joinGroupRequests⟩, none, none)
  | .selfInvited (r :: todo) =>
    if selfInvitedExists startTime cache r.msgSeq r.msgTime then
      (⟨t.msgs, .selfInvited todo⟩, none, none)
    else (⟨t.msgs, .handleSelfInvited r todo⟩, none, none)
  | .handleSelfInvited r todo => (⟨t.msgs, .selfInvited todo⟩, some (.selfInvited r), none)
  | .joinGroupRequests [] => (⟨t.msgs, .replace⟩, none, none)
  | .joinGroupRequests (r :: todo) =>
    if joinGroupRequestExists startTime cache r.msgSeq r.msgTime then
      (⟨t.msgs, .joinGroupRequests todo⟩, none, none)
    else (⟨t.msgs, .handleJoinGroupRequest r todo⟩, none, none)
  | .handleJoinGroupRequest r todo =>
    (⟨t.msgs, .joinGroupRequests todo⟩, some (.joinGroupRequest r), none)
  | .replace => (⟨t.msgs, .done⟩, none, some t.msgs)
  | .done => (t, none, none)

/-- The shared state: the cache, the calls in flight and the handler calls made so far. -/
structure SysState where
  cache : GroupSystemMessages
  tasks : List SysTask
  log : List SysEvent
  deriving DecidableEq, Repr

/-- Calls on `batches` about to start, with `cache` as the cached batch. -/
def SysState.start (cache : GroupSystemMessages) (batches : List GroupSystemMessages) :
    SysState :=
  ⟨cache, batches.map SysTask.start, []⟩

/-- Call `i` takes one step; an index with no call changes nothing. -/
def SysState.step (startTime : Int) (s : SysState) (i : Nat) : SysState :=
  match s.tasks[i]? with
  | none => s
  | some t =>
    let (t', ev, cache) := t.step startTime s.cache
    ⟨cache.getD s.cache, s.tasks.set i t', s.log ++ ev.toList⟩

/-- The calls step in the order the schedule names them. -/
def SysState.run (startTime : Int) (s : SysState) (sched : List Nat) : SysState :=
  sched.foldl (SysState.step startTime) s

/-! ## Pending requests -/

/-- The self-invited requests a call has still to check or to hand over. -/
def SysTask.pendingSelfInvited (t : SysTask) : List GroupRequest :=
  match t.pc with
  | .selfInvited todo => todo
  | .handleSelfInvited r todo => r :: todo
  | _ => []

/-- The join-group requests a call has still to check or to hand over. -/
def SysTask.pendingJoin (t : SysTask) : List GroupRequest :=
  match t.pc with
  | .selfInvited _ | .handleSelfInvited _ _ => t.msgs.joinGroupRequests
  | .joinGroupRequests todo => todo
  | .handleJoinGroupRequest r todo => r :: todo
  | _ => []

section Step

variable (P : GroupRequest → Bool) (startTime : Int) (cache : GroupSystemMessages)

/-- A step keeps the call's batch; a handler call takes its request from the pending ones,
and a check only drops a pending request. -/
theorem SysTask.step_pending (t : SysTask) :
    (t.step startTime cache).1.msgs = t.msgs ∧
      (t.step startTime cache).1.pendingSelfInvited.countP P +
          ((t.step startTime cache).2.1.toList.filterMap SysEvent.selfInvited?).countP P ≤
        t.pendingSelfInvited.countP P ∧
      (t.step startTime cache).1.pendingJoin.countP P +
          ((t.step startTime cache).2.1.toList.filterMap SysEvent.joinGroupRequest?).countP P ≤
        t.pendingJoin.countP P := by
  obtain ⟨msgs, pc⟩ := t
  cases pc with
  | selfInvited todo | joinGroupRequests todo =>
    cases todo with
    | nil => simp [SysTask.step, SysTask.pendingSelfInvited, SysTask.pendingJoin]
    | cons r todo =>
      simp only [SysTask.step]
      split <;> simp [SysTask.pendingSelfInvited, SysTask.pendingJoin, List.countP_cons]
  | handleSelfInvited r todo | handleJoinGroupRequest r todo =>
    simp [SysTask.step, SysTask.pendingSelfInvited, SysTask.pendingJoin, SysEvent.selfInvited?,
      SysEvent.joinGroupRequest?, List.countP_cons]
  | replace => simp [SysTask.step, SysTask.pendingSelfInvited, SysTask.pendingJoin]
  | done => simp [SysTask.step]

end Step

/-! ## The bound over every run -/

theorem map_set_of_getElem? {α β : Type} {f : α → β} :
    ∀ {l : List α} {i : Nat} {t t' : α}, l[i]? = some t → f t' = f t →
      (l.set i t').map f = l.map f
  | [], _, _, _, h, _ => by simp at h
  | _ :: _, 0, _, _, h, hf => by simp only [List.getElem?_cons_zero, Option.some.injEq] at h; simp [h, hf]
  | _ :: _, _ + 1, _, _, h, hf => by simp at h; simp [map_set_of_getElem? h hf]

theorem sum_map_set_add {α : Type} (f : α → Nat) :
    ∀ {l : List α} {i : Nat} {t t' : α}, l[i]? = some t →
      ((l.set i t').map f).sum + f t = (l.map f).sum + f t'
  | [], _, _, _, h => by simp at h
  | _ :: _, 0, _, _, h => by
    simp only [List.getElem?_cons_zero, Option.some.injEq] at h
    simp only [h, List.set_cons_zero, List.map_cons, List.sum_cons]
    omega
  | _ :: xs, i + 1, t, t', h => by
    simp only [List.getElem?_cons_succ] at h
    have := @sum_map_set_add _ f xs i t t' h
    simp only [List.set_cons_succ, List.map_cons, List.sum_cons]
    omega

/-- Handler calls made plus requests pending never exceed the requests of the batches,
counted by any predicate `P`; the calls keep their batches. -/
structure SysState.Inv (batches : List GroupSystemMessages) (P : GroupRequest → Bool)
    (s : SysState) : Prop where
  msgs_eq : s.tasks.map (·.msgs) = batches
  selfInvited_le : (s.log.filterMap SysEvent.selfInvited?).countP P +
      (s.tasks.map fun t => t.pendingSelfInvited.countP P).sum ≤
    (batches.map fun m => m.selfInvited.countP P).sum
  join_le : (s.log.filterMap SysEvent.joinGroupRequest?).countP P +
      (s.tasks.map fun t => t.pendingJoin.countP P).sum ≤
    (batches.map fun m => m.joinGroupRequests.countP P).sum

theorem SysState.inv_start (cache : GroupSystemMessages) (batches : List GroupSystemMessages)
    (P : GroupRequest → Bool) : (SysState.start cache batches).Inv batches P where
  msgs_eq := by simp [SysState.start, SysTask.start, Function.comp_def]
  selfInvited_le := by
    simp [SysState.start, SysTask.start, SysTask.pendingSelfInvited, Function.comp_def]
  join_le := by simp [SysState.start, SysTask.start, SysTask.pendingJoin, Function.comp_def]

theorem SysState.Inv.step {batches : List GroupSystemMessages} {P : GroupRequest → Bool}
    {s : SysState} (h : s.Inv batches P) (startTime : Int) (i : Nat) :
    (s.step startTime i).Inv batches P := by
  unfold SysState.step
  cases hi : s.tasks[i]? with
  | none => exact h
  | some t =>
    have hstep := SysTask.step_pending P startTime s.cache t
    rcases hst : t.step startTime s.cache with ⟨t', ev, c'⟩
    rw [hst] at hstep
    obtain ⟨hmsgs, hself, hjoin⟩ := hstep
    have hs := @sum_map_set_add _ (fun t => t.pendingSelfInvited.countP P) _ _ _ t' hi
    have hj := @sum_map_set_add _ (fun t => t.pendingJoin.countP P) _ _ _ t' hi
    dsimp only at hs hj hself hjoin
    simp only [hst]
    refine ⟨(map_set_of_getElem? hi hmsgs).trans h.msgs_eq, ?_, ?_⟩
    · have := h.selfInvited_le
      simp only [List.filterMap_append, List.countP_append] at hself ⊢
      omega
    · have := h.join_le
      simp only [List.filterMap_append, List.countP_append] at hjoin ⊢
      omega

theorem SysState.Inv.run {batches : List GroupSystemMessages} {P : GroupRequest → Bool}
    {s : SysState} (h : s.Inv batches P) (startTime : Int) (sched : List Nat) :
    (s.run startTime sched).Inv batches P := by
  induction sched generalizing s with
  | nil => exact h
  | cons i sched ih => exact ih (h.step startTime i)

/-- On every interleaving of any number of calls, the handler calls for requests satisfying
`P` are at most the requests satisfying `P` in the batches: each occurrence of a request
yields at most one handler call. -/
theorem run_handles_le_batches (startTime : Int) (cache : GroupSystemMessages)
    (batches : List GroupSystemMessages) (sched : List Nat) (P : GroupRequest → Bool) :
    (((SysState.start cache batches).run startTime sched).log.filterMap
        SysEvent.selfInvited?).countP P ≤ (batches.map fun m => m.selfInvited.countP P).sum ∧
      (((SysState.start cache batches).run startTime sched).log.filterMap
        SysEvent.joinGroupRequest?).countP P ≤
          (batches.map fun m => m.joinGroupRequests.countP P).sum := by
  have h := (SysState.inv_start cache batches P).run startTime sched
  exact ⟨le_trans (Nat.le_add_right _ _) h.selfInvited_le,
    le_trans (Nat.le_add_right _ _) h.join_le⟩

/-- Two calls holding the same fresh request both check it before either replaces the
cache, and both hand it to the handler. -/
theorem run_handles_twice :
    ((SysState.start ⟨[], []⟩ [⟨[⟨1, 0⟩], []⟩, ⟨[⟨1, 0⟩], []⟩]).run 0 [0, 1, 0, 1]).log.count
      (.selfInvited ⟨1, 0⟩) = 2 := by
  decide

/-! ## One call alone -/

section Alone

variable {startTime : Int} {c : GroupSystemMessages}

theorem SysState.step_alone (t : SysTask) (log : List SysEvent) :
    SysState.step startTime ⟨c, [t], log⟩ 0 =
      ⟨(t.step startTime c).2.2.getD c, [(t.step startTime c).1],
        log ++ (t.step startTime c).2.1.toList⟩ := rfl

theorem SysState.run_succ (s : SysState) (n : Nat) :
    s.run startTime (List.replicate (n + 1) 0) =
      (s.step startTime 0).run startTime (List.replicate n 0) := rfl

/-- A call that has returned takes no more steps. -/
theorem SysState.run_done (msgs : GroupSystemMessages) (log : List SysEvent) (n : Nat) :
    (⟨c, [⟨msgs, .done⟩], log⟩ : SysState).run startTime (List.replicate n 0) =
      ⟨c, [⟨msgs, .done⟩], log⟩ := by
  induction n with
  | zero => rfl
  | succ n ih => simpa [SysState.run_succ, SysState.step_alone, SysTask.step] using ih

/-- The join-group loop of a call running alone hands over the requests its checks admit
against the cache it started with, then replaces the cache. -/
theorem SysState.run_alone_join (msgs : GroupSystemMessages) (todo : List GroupRequest)
    (log : List SysEvent) (n : Nat) (hn : 2 * todo.length + 2 ≤ n) :
    (⟨c, [⟨msgs, .joinGroupRequests todo⟩], log⟩ : SysState).run startTime
        (List.replicate n 0) =
      ⟨msgs, [⟨msgs, .done⟩], log ++ (todo.filter fun r =>
        !joinGroupRequestExists startTime c r.msgSeq r.msgTime).map .joinGroupRequest⟩ := by
  induction todo generalizing log n with
  | nil =>
    obtain ⟨k, rfl⟩ : ∃ k, n = k + 2 := ⟨n - 2, by omega⟩
    simp [SysState.run_succ, SysState.step_alone, SysTask.step, SysState.run_done]
  | cons r todo ih =>
    obtain ⟨k, rfl⟩ : ∃ k, n = k + 1 := ⟨n - 1, by omega⟩
    rw [SysState.run_succ, SysState.step_alone]
    by_cases hr : joinGroupRequestExists startTime c r.msgSeq r.msgTime
    · simp only [SysTask.step, hr, if_true, Option.getD, Option.toList, List.append_nil]
      rw [ih _ _ (by simp at hn; omega)]
      simp [hr]
    · obtain ⟨k, rfl⟩ : ∃ j, k = j + 1 := ⟨k - 1, by simp at hn; omega⟩
      simp only [SysTask.step, hr, Bool.false_eq_true, if_false, Option.getD, Option.toList,
        List.append_nil]
      rw [SysState.run_succ, SysState.step_alone]
      simp only [SysTask.step, Option.getD, Option.toList]
      rw [ih _ _ (by simp at hn; omega)]
      simp [hr]

/-- The self-invited loop of a call running alone, then its join-group loop. -/
theorem SysState.run_alone_selfInvited (msgs : GroupSystemMessages) (todo : List GroupRequest)
    (log : List SysEvent) (n : Nat)
    (hn : 2 * todo.length + 2 * msgs.joinGroupRequests.length + 3 ≤ n) :
    (⟨c, [⟨msgs, .selfInvited todo⟩], log⟩ : SysState).run startTime (List.replicate n 0) =
      ⟨msgs, [⟨msgs, .done⟩], log ++ (todo.filter fun r =>
          !selfInvitedExists startTime c r.msgSeq r.msgTime).map .selfInvited ++
        (msgs.joinGroupRequests.filter fun r =>
          !joinGroupRequestExists startTime c r.msgSeq r.msgTime).map .joinGroupRequest⟩ := by
  induction todo generalizing log n with
  | nil =>
    obtain ⟨k, rfl⟩ : ∃ k, n = k + 1 := ⟨n - 1, by omega⟩
    rw [SysState.run_succ, SysState.step_alone]
    simp only [SysTask.step, Option.getD, Option.toList, List.append_nil]
    rw [SysState.run_alone_join _ _ _ _ (by simp at hn; omega)]
    simp
  | cons r todo ih =>
    obtain ⟨k, rfl⟩ : ∃ k, n = k + 1 := ⟨n - 1, by omega⟩
    rw [SysState.run_succ, SysState.step_alone]
    by_cases hr : selfInvitedExists startTime c r.msgSeq r.msgTime
    · simp only [SysTask.step, hr, if_true, Option.getD, Option.toList, List.append_nil]
      rw [ih _ _ (by simp at hn; omega)]
      simp [hr]
    · obtain ⟨k, rfl⟩ : ∃ j, k = j + 1 := ⟨k - 1, by simp at hn; omega⟩
      simp only [SysTask.step, hr, Bool.false_eq_true, if_false, Option.getD, Option.toList,
        List.append_nil]
      rw [SysState.run_succ, SysState.step_alone]
      simp only [SysTask.step, Option.getD, Option.toList]
      rw [ih _ _ (by simp at hn; omega)]
      simp [hr]

end Alone

/-- A `process_group_system_messages` call with no other call interleaved, one atomic step
at a time, makes the handler calls of `processGroupSystemMessages`, in order, and leaves its
cache: the step model refines the call run alone. -/
theorem run_alone_eq_processGroupSystemMessages (startTime : Int)
    (cache msgs : GroupSystemMessages) (n : Nat)
    (hn : 2 * msgs.selfInvited.length + 2 * msgs.joinGroupRequests.length + 3 ≤ n) :
    (SysState.start cache [msgs]).run startTime (List.replicate n 0) =
      ⟨(processGroupSystemMessages startTime cache msgs).2, [⟨msgs, .done⟩],
        (processGroupSystemMessages startTime cache msgs).1⟩ := by
  rw [show SysState.start cache [msgs] = ⟨cache, [⟨msgs, .selfInvited msgs.selfInvited⟩], []⟩
    from rfl, SysState.run_alone_selfInvited _ _ _ _ hn]
  simp [processGroupSystemMessages]

/-- One fresh self-invited request, alone, in five steps. -/
theorem run_alone_eq_processGroupSystemMessages_one :
    let msgs : GroupSystemMessages := ⟨[⟨1, 0⟩], []⟩
    2 * msgs.selfInvited.length + 2 * msgs.joinGroupRequests.length + 3 ≤ 5 ∧
      (SysState.start ⟨[], []⟩ [msgs]).run 0 (List.replicate 5 0) =
        ⟨(processGroupSystemMessages 0 ⟨[], []⟩ msgs).2, [⟨msgs, .done⟩],
          (processGroupSystemMessages 0 ⟨[], []⟩ msgs).1⟩ :=
  ⟨by decide, run_alone_eq_processGroupSystemMessages 0 _ _ 5 (by decide)⟩

end Ricq.Client
