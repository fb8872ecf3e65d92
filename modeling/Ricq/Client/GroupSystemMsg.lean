import Ricq.Client.Dedup

/-!
# Group system messages: the rolling batch cache

`process_group_system_messages` (`c2c/group_system_msg.rs:8-33`) hands every self-invited
request and every join-group request of a batch to the handler unless
`self_invited_exists` / `join_group_request_exists` (lines 35-67) find it old: stamped
before the connection's start, or with its `msg_seq` in the same list of the cached batch.
After both loops the cache is replaced by the batch.

This module runs the calls one after another. A call hands over exactly the requests of its
batch that pass the time gate and whose `msg_seq` the same list of the batch before it lacks
(`processGroupSystemMessages_fst`, `processBatches_handles`), so a `msg_seq` handled by one
call is never handled by the next (`processGroupSystemMessages_consecutive`); nothing stops a
`msg_seq` from being handled twice within one batch, or again two batches later
(`processBatches_handles_twice`).

The time gates of these checks and of `push_req_exists` compare the start with
`msg_time as i32`, which is the timestamp only on the `i32` range (`asI32_eq_self_iff`); from
`2^31` on it wraps below any start (`time_gate_wraps`).
-/

namespace Ricq.Client

/-- The fields of a group system request (`SelfInvited`, `JoinGroupRequest`) that the
checks read; the others travel to the handler untouched. -/
structure GroupRequest where
  msgSeq : Int
  msgTime : Int
  deriving DecidableEq, Repr

/-- The two lists of `GroupSystemMessages` that `process_group_system_messages` reads. -/
structure GroupSystemMessages where
  selfInvited : List GroupRequest
  joinGroupRequests : List GroupRequest
  deriving DecidableEq, Repr

/-- A handler call: `handle_self_invited` or `handle_group_request`. -/
inductive SysEvent where
  | selfInvited (r : GroupRequest)
  | joinGroupRequest (r : GroupRequest)
  deriving DecidableEq, Repr

/-- The request of a `handle_self_invited` call. -/
def SysEvent.selfInvited? : SysEvent → Option GroupRequest
  | .selfInvited r => some r
  | .joinGroupRequest _ => none

/-- The request of a `handle_group_request` call. -/
def SysEvent.joinGroupRequest? : SysEvent → Option GroupRequest
  | .selfInvited _ => none
  | .joinGroupRequest r => some r

/-- The shared body of `self_invited_exists` and `join_group_request_exists`: the time
gate, then a scan of one list of the cached batch for `msg_seq`. -/
def requestExists (startTime : Int) (cached : List GroupRequest) (msgSeq msgTime : Int) :
    Bool :=
  if startTime > asI32 msgTime then true
  else match cached.find? (·.msgSeq == msgSeq) with
    | none => false
    | some _ => true

/-- `self_invited_exists`. -/
def selfInvitedExists (startTime : Int) (cache : GroupSystemMessages) (msgSeq msgTime : Int) :
    Bool :=
  requestExists startTime cache.selfInvited msgSeq msgTime

/-- `join_group_request_exists`. -/
def joinGroupRequestExists (startTime : Int) (cache : GroupSystemMessages)
    (msgSeq msgTime : Int) : Bool :=
  requestExists startTime cache.joinGroupRequests msgSeq msgTime

/-- `process_group_system_messages` run alone: the handler calls in order, and the new
cache. With no other call in between, every check of the call reads the cache it started
with. -/
def processGroupSystemMessages (startTime : Int) (cache msgs : GroupSystemMessages) :
    List SysEvent × GroupSystemMessages :=
  let invited := msgs.selfInvited.filter fun r =>
    !selfInvitedExists startTime cache r.msgSeq r.msgTime
  let joins := msgs.joinGroupRequests.filter fun r =>
    !joinGroupRequestExists startTime cache r.msgSeq r.msgTime
  (invited.map .selfInvited ++ joins.map .joinGroupRequest, msgs)

/-- Calls one after another, each finishing before the next starts: the handler calls of
each call, and the final cache. -/
def processBatches (startTime : Int) (cache : GroupSystemMessages) :
    List GroupSystemMessages → List (List SysEvent) × GroupSystemMessages
  | [] => ([], cache)
  | msgs :: rest =>
    let (evs, cache) := processGroupSystemMessages startTime cache msgs
    let (evss, cache) := processBatches startTime cache rest
    (evs :: evss, cache)

/-! ## One call -/

theorem requestExists_eq_false {startTime : Int} {cached : List GroupRequest} {msgSeq msgTime : Int} :
    requestExists startTime cached msgSeq msgTime = false ↔
      ¬startTime > asI32 msgTime ∧ ∀ r ∈ cached, r.msgSeq ≠ msgSeq := by
  unfold requestExists
  split
  · simp_all
  · split
    · simp_all [List.find?_eq_none]
    · next hfind =>
      simp only [Bool.true_eq_false, false_iff, not_and, not_forall, not_not]
      exact fun _ => ⟨_, List.mem_of_find?_eq_some hfind, by simpa using List.find?_some hfind⟩

/-- A request passes a check against a cached list exactly when it passes the time gate and
its `msg_seq` is not in the list. -/
theorem not_requestExists (startTime : Int) (cached : List GroupRequest) (r : GroupRequest) :
    (!requestExists startTime cached r.msgSeq r.msgTime) =
      decide (¬ startTime > asI32 r.msgTime ∧ r.msgSeq ∉ cached.map (·.msgSeq)) := by
  rw [Bool.eq_iff_iff, Bool.not_eq_true', requestExists_eq_false]
  simp

/-- The handler calls of one call: the requests of each list of its batch that pass the time
gate and whose `msg_seq` the cached batch's list lacks, in batch order. -/
theorem processGroupSystemMessages_fst (startTime : Int) (cache msgs : GroupSystemMessages) :
    (processGroupSystemMessages startTime cache msgs).1 =
      (msgs.selfInvited.filter fun r =>
          ¬ startTime > asI32 r.msgTime ∧ r.msgSeq ∉ cache.selfInvited.map (·.msgSeq)).map
        SysEvent.selfInvited ++
      (msgs.joinGroupRequests.filter fun r =>
          ¬ startTime > asI32 r.msgTime ∧ r.msgSeq ∉ cache.joinGroupRequests.map (·.msgSeq)).map
        SysEvent.joinGroupRequest := by
  simp only [processGroupSystemMessages, selfInvitedExists, joinGroupRequestExists,
    not_requestExists]

theorem selfInvited_mem_processGroupSystemMessages {startTime : Int}
    {cache msgs : GroupSystemMessages} {r : GroupRequest} :
    .selfInvited r ∈ (processGroupSystemMessages startTime cache msgs).1 ↔
      r ∈ msgs.selfInvited ∧ ¬startTime > asI32 r.msgTime ∧
        ∀ c ∈ cache.selfInvited, c.msgSeq ≠ r.msgSeq := by
  simp [processGroupSystemMessages, selfInvitedExists, requestExists_eq_false]

theorem joinGroupRequest_mem_processGroupSystemMessages {startTime : Int}
    {cache msgs : GroupSystemMessages} {r : GroupRequest} :
    .joinGroupRequest r ∈ (processGroupSystemMessages startTime cache msgs).1 ↔
      r ∈ msgs.joinGroupRequests ∧ ¬startTime > asI32 r.msgTime ∧
        ∀ c ∈ cache.joinGroupRequests, c.msgSeq ≠ r.msgSeq := by
  simp [processGroupSystemMessages, joinGroupRequestExists, requestExists_eq_false]

/-- A `msg_seq` handled by one call is not handled by the call after it: that call's cache
is the earlier call's batch, which holds the request. -/
theorem processGroupSystemMessages_consecutive (startTime : Int)
    (prev m₁ m₂ : GroupSystemMessages) (r r' : GroupRequest) (hseq : r'.msgSeq = r.msgSeq) :
    (.selfInvited r ∈ (processGroupSystemMessages startTime prev m₁).1 →
      .selfInvited r' ∉ (processGroupSystemMessages startTime m₁ m₂).1) ∧
    (.joinGroupRequest r ∈ (processGroupSystemMessages startTime prev m₁).1 →
      .joinGroupRequest r' ∉ (processGroupSystemMessages startTime m₁ m₂).1) := by
  simp only [selfInvited_mem_processGroupSystemMessages,
    joinGroupRequest_mem_processGroupSystemMessages]
  exact ⟨fun h h' => h'.2.2 r h.1 hseq.symm, fun h h' => h'.2.2 r h.1 hseq.symm⟩

/-! ## Calls in sequence -/

theorem processBatches_cons (startTime : Int) (cache msgs : GroupSystemMessages)
    (rest : List GroupSystemMessages) :
    processBatches startTime cache (msgs :: rest) =
      ((processGroupSystemMessages startTime cache msgs).1 ::
        (processBatches startTime msgs rest).1, (processBatches startTime msgs rest).2) := rfl

/-- Each call's handler calls are those of the call alone, from the batch before it (from
the initial cache for the first call). -/
theorem processBatches_eq_zipWith (startTime : Int) (cache : GroupSystemMessages)
    (batches : List GroupSystemMessages) :
    (processBatches startTime cache batches).1 =
      List.zipWith (fun prev msgs => (processGroupSystemMessages startTime prev msgs).1)
        (cache :: batches) batches := by
  induction batches generalizing cache with
  | nil => rfl
  | cons msgs rest ih => rw [processBatches_cons, ih]; rfl

/-- Calls in sequence: each call hands over, in batch order, exactly the requests of its batch
that pass the time gate and whose `msg_seq` the same list of the batch before it lacks (of the
initial cache, for the first call); so no `msg_seq` is handled by two consecutive calls. -/
theorem processBatches_handles (startTime : Int) (cache : GroupSystemMessages)
    (batches : List GroupSystemMessages) :
    (processBatches startTime cache batches).1 =
        List.zipWith (fun prev msgs =>
          (msgs.selfInvited.filter fun r =>
              ¬ startTime > asI32 r.msgTime ∧ r.msgSeq ∉ prev.selfInvited.map (·.msgSeq)).map
            SysEvent.selfInvited ++
          (msgs.joinGroupRequests.filter fun r =>
              ¬ startTime > asI32 r.msgTime ∧ r.msgSeq ∉ prev.joinGroupRequests.map (·.msgSeq)).map
            SysEvent.joinGroupRequest)
          (cache :: batches) batches ∧
      (processBatches startTime cache batches).1.Chain' fun e₁ e₂ =>
        ∀ r r' : GroupRequest, r'.msgSeq = r.msgSeq →
          (.selfInvited r ∈ e₁ → .selfInvited r' ∉ e₂) ∧
            (.joinGroupRequest r ∈ e₁ → .joinGroupRequest r' ∉ e₂) := by
  refine ⟨by simp only [processBatches_eq_zipWith, processGroupSystemMessages_fst], ?_⟩
  induction batches generalizing cache with
  | nil => exact List.chain'_nil
  | cons m₁ rest ih =>
    cases rest with
    | nil => exact List.chain'_singleton _
    | cons m₂ rest =>
      have h := ih m₁
      simp only [processBatches_cons] at h ⊢
      exact List.Chain'.cons
        (fun r r' hseq =>
          processGroupSystemMessages_consecutive startTime cache m₁ m₂ r r' hseq) h

/-- A request twice in one batch is handled twice, and so is a request that leaves the
batches and comes back. -/
theorem processBatches_handles_twice :
    let r : GroupRequest := ⟨1, 0⟩
    let empty : GroupSystemMessages := ⟨[], []⟩
    (processBatches 0 empty [⟨[r, r], []⟩]).1.flatten.count (.selfInvited r) = 2 ∧
      (processBatches 0 empty [⟨[r], []⟩, empty, ⟨[r], []⟩]).1.flatten.count (.selfInvited r) = 2 := by
  decide

/-! ## The time gates -/

/-- A message stamped `2^31` (2038-01-19), after a start at `1 700 000 000`, wraps to
`-2^31` under `as i32`: the time gates of `push_req_exists`, `self_invited_exists` and
`join_group_request_exists`, whose `msg_time` is an `i64`, take it as stamped before the
start and suppress it, whatever store `push_req_cache` is and whatever the caches hold. The
`msg_time` of a push transaction is an `i32`, which `as i32` keeps (`asI32_toInt`). -/
theorem time_gate_wraps {C : Type} (ops : CachedOps C (Int × Int)) (cache : C)
    (msgs : GroupSystemMessages) (msgType msgSeq msgUid : Int) (vMsg : Bytes) :
    asI32 (2 ^ 31) = -2 ^ 31 ∧ (1700000000 : Int) < 2 ^ 31 ∧
      pushReqExistsOn ops 1700000000 cache ⟨2 ^ 31, msgType, msgSeq, msgUid, vMsg⟩ =
        (true, cache) ∧
      selfInvitedExists 1700000000 msgs msgSeq (2 ^ 31) = true ∧
      joinGroupRequestExists 1700000000 msgs msgSeq (2 ^ 31) = true := by
  have h : asI32 2147483648 = -2147483648 := by decide
  simp [pushReqExistsOn, selfInvitedExists, joinGroupRequestExists, requestExists, h]

end Ricq.Client
