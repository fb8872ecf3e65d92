import Ricq.Client.DedupEpochs
import Ricq.Client.GroupSystemTasks

/-!
# Online pushes: concurrent calls

Calls of `process_push_req` may run at once. Unlike the group system checks, each
`push_req_exists` holds the cache's write lock from the lookup to the insert and the flush
(`online_push.rs:326-336`), so a check is one atomic step; the handler calls of an admitted
message come after it, and a panic in them ends that call only. A schedule picks which call
steps next.

* `PushPc.step_cache`, `PushPc.step_count`: one step of a call checks a message it had
  still to do, or runs the handlers of a message the lock admitted.
* `PushState.Inv`: the cache is the one the checks made so far leave, taken in the order
  the lock took them; checks and handler calls are bounded by the messages carried and the
  admissions. It holds initially and after every step.
* `run_pushReq_linearizable`: on every interleaving the checks form one sequence, no key is
  admitted twice within a block of 11 admissions, and every admission runs its handlers at
  most once.
* `run_alone_eq_processPushReq`: a call with no other interleaved makes the handler calls of
  the sequential `processPushReq` and leaves its cache: the step model refines it.
-/

namespace Ricq.Client

/-- Where a `process_push_req` call stands: about to check the head of the messages still to
do, about to run the handlers of an admitted message, or returned. -/
inductive PushPc where
  | check (todo : List PushMessageInfo)
  | handle (info : PushMessageInfo) (todo : List PushMessageInfo)
  | done
  deriving DecidableEq, Repr

/-- The messages a call has still to check. -/
def PushPc.todo : PushPc → List PushMessageInfo
  | .check todo | .handle _ todo => todo
  | .done => []

/-- The admitted message whose handlers a call has still to run. -/
def PushPc.pending : PushPc → List PushMessageInfo
  | .handle info _ => [info]
  | _ => []

/-- The shared state: the cache, the calls in flight, the messages checked, in the order the
lock took them, and the messages whose handlers ran. -/
structure PushState where
  cache : DedupCache (Int × Int)
  tasks : List PushPc
  checked : List PushMessageInfo
  handled : List PushMessageInfo

/-- Calls on `calls` about to start, the cache empty. -/
def PushState.start (calls : List (List PushMessageInfo)) : PushState :=
  ⟨.empty, calls.map .check, [], []⟩

section Run

variable (dec : PushDecoders) (uin startTime : Int)

/-- One atomic step of a call against the shared cache: the call afterwards, the cache, the
message it checks under the lock and the message whose handlers it runs. A panic in the
handlers ends the call. -/
def PushPc.step (cache : DedupCache (Int × Int)) :
    PushPc → PushPc × DedupCache (Int × Int) × Option PushMessageInfo × Option PushMessageInfo
  | .done => (.done, cache, none, none)
  | .check [] => (.done, cache, none, none)
  | .check (info :: todo) =>
    let (dup, cache) := pushReqExists startTime cache info
    (if dup then .check todo else .handle info todo, cache, some info, none)
  | .handle info todo =>
    match handlePushInfo dec uin info with
    | none => (.done, cache, none, none)
    | some _ => (.check todo, cache, none, some info)

/-- Call `i` takes one step; an index with no call changes nothing. -/
def PushState.step (s : PushState) (i : Nat) : PushState :=
  match s.tasks[i]? with
  | none => s
  | some t =>
    let (t', cache, chk, hdl) := t.step dec uin startTime s.cache
    ⟨cache, s.tasks.set i t', s.checked ++ chk.toList, s.handled ++ hdl.toList⟩

/-- The calls step in the order the schedule names them. -/
def PushState.run (s : PushState) (sched : List Nat) : PushState :=
  sched.foldl (PushState.step dec uin startTime) s

end Run

/-- Checking one more message moves the cache by that check. -/
theorem pushReqCacheAfter_append_singleton (startTime : Int) (c : DedupCache (Int × Int))
    (infos : List PushMessageInfo) (info : PushMessageInfo) :
    pushReqCacheAfter startTime c (infos ++ [info]) =
      (pushReqExists startTime (pushReqCacheAfter startTime c infos) info).2 := by
  simp [pushReqCacheAfter]

/-- Checking one more message admits it or not, and leaves the earlier admissions. -/
theorem pushReqAdmitted_append_singleton (startTime : Int) (c : DedupCache (Int × Int))
    (infos : List PushMessageInfo) (info : PushMessageInfo) :
    pushReqAdmitted startTime c (infos ++ [info]) = pushReqAdmitted startTime c infos ++
      if (pushReqExists startTime (pushReqCacheAfter startTime c infos) info).1 then []
      else [info] := by
  induction infos generalizing c with
  | nil => simp [pushReqAdmitted, pushReqCacheAfter]
  | cons i infos ih => simp [pushReqAdmitted, ih, pushReqCacheAfter_cons]

/-- The cache is what the checks leave in their order; each message is checked at most as
often as the calls carry it, and handled, or about to be, at most as often as it was
admitted. -/
structure PushState.Inv (startTime : Int) (calls : List (List PushMessageInfo)) (s : PushState) :
    Prop where
  cache_eq : s.cache = pushReqCacheAfter startTime .empty s.checked
  checked_le : ∀ info, s.checked.count info + (s.tasks.map fun t => t.todo.count info).sum ≤
    (calls.map fun c => c.count info).sum
  handled_le : ∀ info, s.handled.count info + (s.tasks.map fun t => t.pending.count info).sum ≤
    (pushReqAdmitted startTime .empty s.checked).count info

theorem PushState.inv_start (startTime : Int) (calls : List (List PushMessageInfo)) :
    (PushState.start calls).Inv startTime calls where
  cache_eq := rfl
  checked_le _ := by simp [PushState.start, PushPc.todo, Function.comp_def]
  handled_le _ := by simp [PushState.start, PushPc.pending, Function.comp_def]

section Step

variable {dec : PushDecoders} {uin startTime : Int}

/-- A step changes the cache only by the check it makes under the lock. -/
theorem PushPc.step_cache (cache : DedupCache (Int × Int)) (t : PushPc) :
    (t.step dec uin startTime cache).2.1 = (t.step dec uin startTime cache).2.2.1.elim cache
      fun info => (pushReqExists startTime cache info).2 := by
  cases t with
  | done => rfl
  | check todo =>
    cases todo with
    | nil => rfl
    | cons info todo => rfl
  | handle info todo =>
    simp only [PushPc.step]
    split <;> rfl

/-- A step checks a message it had still to do, and runs the handlers of a message only
after the lock admitted it. -/
theorem PushPc.step_count (cache : DedupCache (Int × Int)) (t : PushPc) (x : PushMessageInfo) :
    let r := t.step dec uin startTime cache
    r.1.todo.count x + r.2.2.1.toList.count x ≤ t.todo.count x ∧
    r.1.pending.count x + r.2.2.2.toList.count x ≤ t.pending.count x +
      (r.2.2.1.elim [] fun info =>
        if (pushReqExists startTime cache info).1 then [] else [info]).count x := by
  cases t with
  | done => simp [PushPc.step, PushPc.todo, PushPc.pending]
  | check todo =>
    cases todo with
    | nil => simp [PushPc.step, PushPc.todo, PushPc.pending]
    | cons info todo =>
      simp only [PushPc.step]
      split <;> simp_all [PushPc.todo, PushPc.pending, List.count_cons]
  | handle info todo =>
    simp only [PushPc.step]
    split <;> simp [PushPc.todo, PushPc.pending]

/-- One step of any call keeps the invariant. -/
theorem PushState.Inv.step {calls : List (List PushMessageInfo)} {s : PushState}
    (h : s.Inv startTime calls) (i : Nat) : (s.step dec uin startTime i).Inv startTime calls := by
  unfold PushState.step
  cases hi : s.tasks[i]? with
  | none => exact h
  | some t =>
    rcases hst : t.step dec uin startTime s.cache with ⟨t', c', chk, hdl⟩
    have hcache := @PushPc.step_cache dec uin startTime s.cache t
    have hcount := fun x => @PushPc.step_count dec uin startTime s.cache t x
    simp only [hst] at hcache hcount
    have hadm : pushReqAdmitted startTime .empty (s.checked ++ chk.toList) =
        pushReqAdmitted startTime .empty s.checked ++ chk.elim [] fun info =>
          if (pushReqExists startTime s.cache info).1 then [] else [info] := by
      cases chk <;> simp [pushReqAdmitted_append_singleton, h.cache_eq]
    simp only [hst]
    refine ⟨?_, fun x => ?_, fun x => ?_⟩
    · rw [hcache]
      cases chk <;> simp [pushReqCacheAfter_append_singleton, h.cache_eq]
    · have hs := @sum_map_set_add _ (fun t => t.todo.count x) _ _ _ t' hi
      have := h.checked_le x
      have := (hcount x).1
      simp only [List.count_append] at hs ⊢
      omega
    · have hs := @sum_map_set_add _ (fun t => t.pending.count x) _ _ _ t' hi
      have := h.handled_le x
      have := (hcount x).2
      simp only [hadm, List.count_append] at hs ⊢
      omega

theorem PushState.Inv.run {calls : List (List PushMessageInfo)} {s : PushState}
    (h : s.Inv startTime calls) (sched : List Nat) :
    (s.run dec uin startTime sched).Inv startTime calls := by
  induction sched generalizing s with
  | nil => exact h
  | cons i sched ih => exact ih (h.step i)

end Step

/-- On every interleaving of concurrent `process_push_req` calls from the empty cache, the
lock makes the checks one sequence: each message is checked at most as often as the calls
carry it, the cache is the one the checks leave in that order, no key is admitted twice within
a block of 11 admissions, and each admission runs its handlers at most once. -/
theorem run_pushReq_linearizable (dec : PushDecoders) (uin startTime : Int)
    (calls : List (List PushMessageInfo)) (sched : List Nat) :
    let s := (PushState.start calls).run dec uin startTime sched
    (∀ info, s.checked.count info ≤ (calls.map fun c => c.count info).sum) ∧
      s.cache = pushReqCacheAfter startTime .empty s.checked ∧
      BlocksNodup ((pushReqAdmitted startTime .empty s.checked).map PushMessageInfo.key) ∧
      ∀ info, s.handled.count info ≤ (pushReqAdmitted startTime .empty s.checked).count info :=
  have h := @PushState.Inv.run dec uin startTime calls _ (PushState.inv_start startTime calls) sched
  ⟨fun info => le_trans (Nat.le_add_right _ _) (h.checked_le info), h.cache_eq,
    blocksNodup_pushReqAdmitted startTime _,
    fun info => le_trans (Nat.le_add_right _ _) (h.handled_le info)⟩

/-- Two calls carrying one message, both checking before either runs a handler: the lock
admits it once, and its handlers run once. -/
example : ((PushState.start [[⟨1, 0, 1, 1, []⟩], [⟨1, 0, 1, 1, []⟩]]).run
    ⟨fun _ => none, fun _ => none, fun _ => none, fun _ => none, fun _ => none, fun _ => none,
      fun _ => none, fun _ => none, fun _ => ""⟩ 0 0 [0, 1, 0, 1]).handled =
    [⟨1, 0, 1, 1, []⟩] := by
  decide

/-! ## One call alone -/

section Alone

variable {dec : PushDecoders} {uin startTime : Int}

theorem PushState.step_alone (c : DedupCache (Int × Int)) (t : PushPc)
    (ch hd : List PushMessageInfo) :
    PushState.step dec uin startTime ⟨c, [t], ch, hd⟩ 0 =
      ⟨(t.step dec uin startTime c).2.1, [(t.step dec uin startTime c).1],
        ch ++ (t.step dec uin startTime c).2.2.1.toList,
        hd ++ (t.step dec uin startTime c).2.2.2.toList⟩ := rfl

theorem PushState.run_succ (s : PushState) (n : Nat) :
    s.run dec uin startTime (List.replicate (n + 1) 0) =
      (s.step dec uin startTime 0).run dec uin startTime (List.replicate n 0) := rfl

/-- A call that has returned takes no more steps. -/
theorem PushState.run_done (c : DedupCache (Int × Int)) (ch hd : List PushMessageInfo) (n : Nat) :
    (⟨c, [.done], ch, hd⟩ : PushState).run dec uin startTime (List.replicate n 0) =
      ⟨c, [.done], ch, hd⟩ := by
  induction n with
  | zero => rfl
  | succ n ih => simpa [PushState.run_succ, PushState.step_alone, PushPc.step] using ih

/-- A call running alone from any point checks and handles its remaining messages as
`process_push_req` does from the cache it finds, and returns. -/
theorem PushState.run_alone (todo : List PushMessageInfo) (c : DedupCache (Int × Int))
    (ch hd : List PushMessageInfo) (n : Nat) (hn : 2 * todo.length + 1 ≤ n) :
    ∃ H, ((⟨c, [.check todo], ch, hd⟩ : PushState).run dec uin startTime
        (List.replicate n 0)).tasks = [.done] ∧
      ((⟨c, [.check todo], ch, hd⟩ : PushState).run dec uin startTime
        (List.replicate n 0)).handled = hd ++ H ∧
      H.flatMap (fun info => (handlePushInfo dec uin info).getD []) =
        (processPushReq dec uin startTime c todo).1 ∧
      ∀ c', (processPushReq dec uin startTime c todo).2 = some c' →
        ((⟨c, [.check todo], ch, hd⟩ : PushState).run dec uin startTime
          (List.replicate n 0)).cache = c' := by
  induction todo generalizing c ch hd n with
  | nil =>
    obtain ⟨k, rfl⟩ : ∃ k, n = k + 1 := ⟨n - 1, by omega⟩
    rw [PushState.run_succ, PushState.step_alone]
    simp only [PushPc.step, Option.toList, List.append_nil, PushState.run_done]
    exact ⟨[], by simp, by simp, rfl, fun c' h => Option.some.inj h⟩
  | cons info todo ih =>
    obtain ⟨k, rfl⟩ : ∃ k, n = k + 1 := ⟨n - 1, by omega⟩
    rw [PushState.run_succ, PushState.step_alone, processPushReq_cons]
    by_cases hdup : (pushReqExists startTime c info).1
    · simp only [PushPc.step, hdup, if_true, Option.toList, List.append_nil]
      exact ih _ _ _ _ (by simp at hn; omega)
    · obtain ⟨k, rfl⟩ : ∃ j, k = j + 1 := ⟨k - 1, by simp at hn; omega⟩
      simp only [PushPc.step, hdup, Bool.false_eq_true, if_false, Option.toList, List.append_nil]
      rw [PushState.run_succ, PushState.step_alone]
      cases hinfo : handlePushInfo dec uin info with
      | none =>
        simp only [PushPc.step, hinfo, Option.toList, List.append_nil, PushState.run_done]
        exact ⟨[], by simp, by simp, rfl, fun c' h => nomatch h⟩
      | some evs =>
        simp only [PushPc.step, hinfo, Option.toList, List.append_nil]
        obtain ⟨H, hdone, hH, hev, hc⟩ := ih (pushReqExists startTime c info).2 (ch ++ [info])
          (hd ++ [info]) k (by simp at hn; omega)
        exact ⟨info :: H, hdone, by simp [hH], by simp [hinfo, hev], hc⟩

end Alone

/-- A `process_push_req` call with no other call interleaved has returned after
`2 * infos.length + 1` atomic steps, having made the handler calls of the sequential
`process_push_req`, in order, and left its cache when it does not panic: the step model
refines the sequential one. -/
theorem run_alone_eq_processPushReq (dec : PushDecoders) (uin startTime : Int)
    (infos : List PushMessageInfo) (n : Nat) (hn : 2 * infos.length + 1 ≤ n) :
    let s := (PushState.start [infos]).run dec uin startTime (List.replicate n 0)
    s.tasks = [.done] ∧
      s.handled.flatMap (fun info => (handlePushInfo dec uin info).getD []) =
        (processPushReq dec uin startTime .empty infos).1 ∧
      ∀ c, (processPushReq dec uin startTime .empty infos).2 = some c → s.cache = c := by
  have hstart : PushState.start [infos] = ⟨.empty, [.check infos], [], []⟩ := rfl
  obtain ⟨H, hdone, hH, hev, hc⟩ :=
    @PushState.run_alone dec uin startTime infos .empty [] [] n hn
  rw [← hstart] at hdone hH hc
  exact ⟨hdone, by rw [hH, List.nil_append, hev], hc⟩

/-- A group mute pushed once, alone: it is checked, its handler reports the mute, and the
call returns, in three steps. -/
theorem run_alone_eq_processPushReq_mute :
    let mute : PushMessageInfo :=
      ⟨0, 732, 1, 1,
        [0, 0, 0, 1, 0x0c, 0, 0, 0, 0, 2, 0, 0, 0, 0, 0, 0, 0, 0, 0, 3, 0, 0, 0, 60]⟩
    2 * [mute].length + 1 ≤ 3 ∧
      let dec : PushDecoders := ⟨fun _ => none, fun _ => none, fun _ => none, fun _ => none,
        fun _ => none, fun _ => none, fun _ => none, fun _ => none, fun _ => ""⟩
      let s := (PushState.start [[mute]]).run dec 0 0 (List.replicate 3 0)
      s.tasks = [.done] ∧
        s.handled.flatMap (fun info => (handlePushInfo dec 0 info).getD []) =
          (processPushReq dec 0 0 .empty [mute]).1 ∧
        ∀ c, (processPushReq dec 0 0 .empty [mute]).2 = some c → s.cache = c :=
  ⟨by decide, run_alone_eq_processPushReq _ 0 0 _ 3 (by decide)⟩

end Ricq.Client
