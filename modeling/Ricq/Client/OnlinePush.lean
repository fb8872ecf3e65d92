import Ricq.Client.Dedup

/-!
# Dispatching online pushes

`process_push_req` (`online_push.rs:116-319`) walks a list of `PushMessageInfo`s. Each one
that `push_req_exists` admits is dispatched on its `msg_type`: 732 carries a group event
read from `v_msg` with fixed-width `bytes::Buf` reads, 528 a `jce::MsgType0x210` whose
protobuf payload is decoded by sub-type, and any other type is ignored. The handler is
called once per event. The reads and the `unwrap`s of the decoders panic on malformed
input, which ends the whole call.

The jce and protobuf decoders are outside `src/`; they are `PushDecoders`, `none` being a
decode error.

* `processPushReq_eq_of_handled`: a call that does not panic is the dedup filter followed
  by the handlers of the admitted messages, and leaves the cache `pushReqCacheAfter`
  computes.
* `processPushReq_panics_iff`: a call panics exactly when one of the messages the filter
  admits has a handler that panics.
* `handle732_groupMute`: a well-formed 0x0c body is read back field by field.
* `handle732_eq_none_of_length_lt`: a 732 body shorter than its header panics.
* `processPushReq_truncated_panics`: so an admitted 732 push with an empty body, first in
  the list, ends the call before any message after it is checked.

`process_push_trans` (`processPushTrans`) is the same filter with `push_trans_exists`, then
one handler call per admitted transaction.
-/

namespace Ricq.Client

/-- `x as i64`: the low 64 bits of `x` as a two's-complement integer. -/
def asI64 (x : Int) : Int := (x + 2 ^ 63) % 2 ^ 64 - 2 ^ 63

/-! ## The decoded bodies

The fields `process_push_req` reads of the protobuf and jce messages it decodes. -/

/-- `pb::notify::RecalledMessageMeta`. -/
structure RecalledMessageMeta where
  seq : Int
  time : Int
  msgType : Int
  authorUin : Int
  deriving DecidableEq, Repr

/-- `opt_msg_recall` of `pb::notify::NotifyMsgBody`. -/
structure MessageRecallReminder where
  uin : Int
  recalledMsgList : List RecalledMessageMeta
  deriving DecidableEq, Repr

/-- `pb::notify::NotifyMsgBody`. -/
structure NotifyMsgBody where
  optMsgRecall : Option MessageRecallReminder
  deriving DecidableEq, Repr

/-- `jce::MsgType0x210`. -/
structure MsgType0x210 where
  subMsgType : Int
  vProtobuf : Bytes
  deriving DecidableEq, Repr

/-- An entry of `msg_info` of `pb::Sub8A`. -/
structure Sub8AMsgInfo where
  msgSeq : Int
  fromUin : Int
  msgTime : Int
  deriving DecidableEq, Repr

/-- `msg_add_frd_notify` of `pb::SubB3`. -/
structure AddFrdNotify where
  uin : Int
  nick : String
  deriving DecidableEq, Repr

/-- An entry of `msg_templ_param` of `pb::notify::GeneralGrayTipInfo`. -/
structure TemplParam where
  name : String
  value : String
  deriving DecidableEq, Repr

/-- An entry of `group_profile_infos`; `value` is what `value()` returns. -/
structure GroupProfileInfo where
  field : Option Nat
  value : Bytes
  deriving DecidableEq, Repr

/-- `mod_group_profile` of a `mod_infos` entry. -/
structure ModGroupProfile where
  groupProfileInfos : List GroupProfileInfo
  groupCode : Option Nat
  cmdUin : Option Nat
  deriving DecidableEq, Repr

/-- An entry of `mod_infos` of `pb::msgtype0x210::SubMsg0x27Body`; `delFriend` is the
`uins` of `del_friend`. -/
structure ModInfo where
  modGroupProfile : Option ModGroupProfile
  delFriend : Option (List Nat)
  deriving DecidableEq, Repr

/-- The decoders `process_push_req` unwraps, `jcers::from_buf` and the `from_bytes` of the
protobuf messages, with `str::parse::<i64>` and `String::from_utf8_lossy`. -/
structure PushDecoders where
  notifyMsgBody : Bytes → Option NotifyMsgBody
  msgType0x210 : Bytes → Option MsgType0x210
  sub8A : Bytes → Option (List Sub8AMsgInfo)
  subB3 : Bytes → Option (Option AddFrdNotify)
  subD4 : Bytes → Option Int
  generalGrayTipInfo : Bytes → Option (List TemplParam)
  subMsg0x27Body : Bytes → Option (List ModInfo)
  parseI64 : String → Option Int
  fromUtf8Lossy : Bytes → String

/-- A handler call of `process_push_req`, with the fields of its event. -/
inductive PushEvent where
  | groupMute (groupCode operatorUin targetUin : Int) (duration : Nat)
  | groupMessageRecall (msgSeq groupCode operatorUin authorUin time : Int)
  | friendMessageRecall (msgSeq friendUin time : Int)
  | newFriend (uin : Int) (nick : String)
  | groupLeave (groupCode memberUin : Int)
  | friendPoke (sender receiver : Int)
  | groupNameUpdate (groupCode operatorUin : Int) (groupName : String)
  | deleteFriend (uin : Int)
  deriving DecidableEq, Repr

/-! ## The arms -/

section Arms

variable (dec : PushDecoders) (uin : Int)

/-- The `732 =>` arm (lines 122-181) on `v_msg`: the handler calls, `none` on a panic. An
operator equal to the client's `uin` ends the arm (`continue`). -/
def handle732 (r : Bytes) : Option (List PushEvent) := do
  let (groupCode, r) ← getU32 r
  let (iType, r) ← getU8 r
  let (_, r) ← getU8 r
  match iType with
  | 0x0c =>
    let (operator, r) ← getU32 r
    if (operator.toNat : Int) = uin then pure []
    else
      let r ← advance 6 r
      let (target, r) ← getU32 r
      let (duration, _) ← getU32 r
      pure [.groupMute groupCode.toNat operator.toNat target.toNat duration.toNat]
  | 0x10 | 0x11 | 0x14 | 0x15 =>
    let r ← advance 1 r
    let b ← dec.notifyMsgBody r
    pure <| match b.optMsgRecall with
      | none => []
      | some reminder => (reminder.recalledMsgList.filter (·.msgType != 2)).map fun rm =>
          .groupMessageRecall rm.seq groupCode.toNat reminder.uin rm.authorUin rm.time
  | _ => pure []

/-- The poke's sender and receiver (lines 242-251): the last `uin_str1` and `uin_str2`
parameters, 0 when absent or unparsable. -/
def pokeUins (params : List TemplParam) : Int × Int :=
  params.foldl (fun (sender, receiver) templ =>
    if templ.name = "uin_str1" then ((dec.parseI64 templ.value).getD 0, receiver)
    else if templ.name = "uin_str2" then (sender, (dec.parseI64 templ.value).getD 0)
    else (sender, receiver)) (0, 0)

/-- The handler calls of one `mod_infos` entry (lines 265-307): a name update per profile
entry with field 1, then a friend deletion per `uin`. -/
def modInfoEvents (modInfo : ModInfo) : List PushEvent :=
  (match modInfo.modGroupProfile with
    | none => []
    | some p => (p.groupProfileInfos.filter (·.field.getD 0 = 1)).map fun info =>
        .groupNameUpdate (asI64 (p.groupCode.getD 0)) (asI64 (p.cmdUin.getD 0))
          (dec.fromUtf8Lossy info.value)) ++
  (match modInfo.delFriend with
    | none => []
    | some uins => uins.map fun u => .deleteFriend (asI64 u))

/-- The `528 =>` arm (lines 182-314) on `v_msg`. -/
def handle528 (vMsg : Bytes) : Option (List PushEvent) := do
  let msg ← dec.msgType0x210 vMsg
  match msg.subMsgType with
  | 0x8A | 0x8B =>
    let s8a ← dec.sub8A msg.vProtobuf
    pure (s8a.map fun m => .friendMessageRecall m.msgSeq m.fromUin m.msgTime)
  | 0xB3 =>
    let notify ← dec.subB3 msg.vProtobuf
    pure (notify.toList.map fun f => .newFriend f.uin f.nick)
  | 0xD4 =>
    let d4 ← dec.subD4 msg.vProtobuf
    pure [.groupLeave d4 uin]
  | 0x122 | 0x123 =>
    let t ← dec.generalGrayTipInfo msg.vProtobuf
    let (sender, receiver) := pokeUins dec t
    pure (if sender ≠ 0 then [.friendPoke sender receiver] else [])
  | 0x27 =>
    let s27 ← dec.subMsg0x27Body msg.vProtobuf
    pure (s27.flatMap (modInfoEvents dec))
  | _ => pure []

/-- The `match info.msg_type` of one admitted message. -/
def handlePushInfo (info : PushMessageInfo) : Option (List PushEvent) :=
  if info.msgType = 732 then handle732 dec uin info.vMsg
  else if info.msgType = 528 then handle528 dec uin info.vMsg
  else pure []

end Arms

/-- `process_push_req` for a client with `uin` and `start_time`: the handler calls made, in
order, and the `push_req_cache` after the call, `none` when the call panics. -/
def processPushReq (dec : PushDecoders) (uin startTime : Int) (cache : DedupCache (Int × Int)) :
    List PushMessageInfo → List PushEvent × Option (DedupCache (Int × Int))
  | [] => ([], some cache)
  | info :: infos =>
    let (dup, cache) := pushReqExists startTime cache info
    if dup then processPushReq dec uin startTime cache infos
    else match handlePushInfo dec uin info with
      | none => ([], none)
      | some evs =>
        let (rest, cache) := processPushReq dec uin startTime cache infos
        (evs ++ rest, cache)

/-! ## The dedup filter, then the handlers -/

/-- The messages `push_req_exists` admits, in order, each checked against the cache the
checks before it left. -/
def pushReqAdmitted (startTime : Int) (cache : DedupCache (Int × Int)) :
    List PushMessageInfo → List PushMessageInfo
  | [] => []
  | info :: infos =>
    (if (pushReqExists startTime cache info).1 then [] else [info]) ++
      pushReqAdmitted startTime (pushReqExists startTime cache info).2 infos

section Dispatch

variable {dec : PushDecoders} {uin startTime : Int}

theorem processPushReq_cons (cache : DedupCache (Int × Int)) (info : PushMessageInfo)
    (infos : List PushMessageInfo) :
    processPushReq dec uin startTime cache (info :: infos) =
      if (pushReqExists startTime cache info).1 then
        processPushReq dec uin startTime (pushReqExists startTime cache info).2 infos
      else match handlePushInfo dec uin info with
        | none => ([], none)
        | some evs =>
          (evs ++ (processPushReq dec uin startTime (pushReqExists startTime cache info).2 infos).1,
            (processPushReq dec uin startTime (pushReqExists startTime cache info).2 infos).2) :=
  rfl

/-- With every admitted message handled without a panic, `process_push_req` makes the
handler calls of the admitted messages in order and leaves the cache the checks alone
leave. -/
theorem processPushReq_eq_of_handled (cache : DedupCache (Int × Int))
    (infos : List PushMessageInfo)
    (h : ∀ info ∈ pushReqAdmitted startTime cache infos, (handlePushInfo dec uin info).isSome) :
    processPushReq dec uin startTime cache infos =
      ((pushReqAdmitted startTime cache infos).flatMap fun info =>
          (handlePushInfo dec uin info).getD [],
        some (pushReqCacheAfter startTime cache infos)) := by
  induction infos generalizing cache with
  | nil => rfl
  | cons info infos ih =>
    rw [processPushReq_cons]
    by_cases hdup : (pushReqExists startTime cache info).1
    · simp only [pushReqAdmitted, hdup, if_true, List.nil_append] at h ⊢
      exact ih _ h
    · simp only [pushReqAdmitted, hdup, Bool.false_eq_true, if_false, List.singleton_append,
        List.mem_cons, forall_eq_or_imp] at h ⊢
      obtain ⟨evs, hevs⟩ := Option.isSome_iff_exists.mp h.1
      simp only [hevs, ih _ h.2, List.flatMap_cons, Option.getD_some]
      rfl

/-- `process_push_req` panics exactly when a message the dedup filter admits has a
handler that panics. -/
theorem processPushReq_panics_iff (cache : DedupCache (Int × Int))
    (infos : List PushMessageInfo) :
    (processPushReq dec uin startTime cache infos).2 = none ↔
      ∃ info ∈ pushReqAdmitted startTime cache infos, handlePushInfo dec uin info = none := by
  induction infos generalizing cache with
  | nil => simp [processPushReq, pushReqAdmitted]
  | cons info infos ih =>
    rw [processPushReq_cons]
    by_cases hdup : (pushReqExists startTime cache info).1
    · simp only [pushReqAdmitted, hdup, if_true, List.nil_append]
      exact ih _
    · simp only [pushReqAdmitted, hdup, Bool.false_eq_true, if_false, List.singleton_append,
        List.mem_cons, exists_eq_or_imp]
      cases hinfo : handlePushInfo dec uin info with
      | none => simp
      | some evs => simpa using ih _

end Dispatch

/-! ## The 732 arm -/

section Arm732

variable {dec : PushDecoders} {uin : Int}

/-- A 732 body shorter than the group code and the two type bytes panics. -/
theorem handle732_eq_none_of_length_lt {r : Bytes} (hr : r.length < 6) :
    handle732 dec uin r = none := by
  match r, hr with
  | [], _ | [_], _ | [_, _], _ | [_, _, _], _ | [_, _, _, _], _ | [_, _, _, _, _], _ => rfl

/-- A mute notice: the group code, type 0x0c, a skipped byte, the operator, six skipped
bytes, the target and the duration. With an operator other than the client, the arm
reports exactly these fields. -/
theorem handle732_groupMute (groupCode operator target duration : UInt32) (x : UInt8)
    (skipped rest : Bytes) (hskip : skipped.length = 6) (hop : (operator.toNat : Int) ≠ uin) :
    handle732 dec uin (putU32 groupCode ++ [0x0c, x] ++ putU32 operator ++ skipped ++
        putU32 target ++ putU32 duration ++ rest) =
      some [.groupMute groupCode.toNat operator.toNat target.toNat duration.toNat] := by
  simp only [handle732, List.append_assoc, getU32_putU32, option_some_bind, List.cons_append,
    List.nil_append, getU8_cons, hop, if_false, advance, List.length_append, hskip]
  simp [List.drop_append_of_le_length, hskip, getU32_putU32]

/-- A mute notice by the client itself makes no handler call. -/
theorem handle732_own_mute (groupCode operator : UInt32) (x : UInt8) (rest : Bytes)
    (hop : (operator.toNat : Int) = uin) :
    handle732 dec uin (putU32 groupCode ++ [0x0c, x] ++ putU32 operator ++ rest) = some [] := by
  simp only [handle732, List.append_assoc, getU32_putU32, option_some_bind, List.cons_append,
    List.nil_append, getU8_cons, hop, if_true]
  rfl

/-- A 732 push with an empty body, stamped 0 so that the time gate lets it through, is the
first miss of an empty cache and panics at its first `get_u32`: the call ends with no
handler call, and no message after it is checked or dispatched. -/
theorem processPushReq_truncated_panics (dec : PushDecoders) (uin startTime : Int)
    (rest : List PushMessageInfo) :
    processPushReq dec uin startTime .empty (⟨0, 732, 1, 1, []⟩ :: rest) = ([], none) := by
  have hfirst : (pushReqExists startTime .empty ⟨0, 732, 1, 1, []⟩).1 = false := by
    simp [pushReqExists_eq, asI32, cacheExists_eq, DedupCache.empty]
  rw [processPushReq_cons, if_neg (by simp [hfirst])]
  simp [handlePushInfo, handle732_eq_none_of_length_lt]

end Arm732

/-! ## Push transactions -/

section PushTrans

variable {L P D : Type}

/-- `PushTransInfo` (declared outside `src/`), the payload of an `OnlinePushTrans`; each
variant's payload reaches the handler untouched. -/
inductive PushTransInfo (L P D : Type) where
  | memberLeave (leave : L)
  | memberPermissionChange (change : P)
  | groupDisband (disband : D)
  deriving DecidableEq, Repr

/-- A handler call of `process_push_trans`. -/
inductive TransEvent (L P D : Type) where
  | groupLeave (leave : L)
  | memberPermissionChange (change : P)
  | groupDisband (disband : D)
  deriving DecidableEq, Repr

/-- The event each variant is handed to the handler as (lines 343-370). -/
def PushTransInfo.toEvent : PushTransInfo L P D → TransEvent L P D
  | .memberLeave leave => .groupLeave leave
  | .memberPermissionChange change => .memberPermissionChange change
  | .groupDisband disband => .groupDisband disband

/-- `process_push_trans` (lines 339-371) on `push_trans`, given as the fields
`push_trans_exists` reads and its `info`: the handler call, if any, and the cache after. -/
def processPushTrans (startTime : Int) (cache : DedupCache (Int × Int))
    (pushTrans : OnlinePushTrans) (info : PushTransInfo L P D) :
    Option (TransEvent L P D) × DedupCache (Int × Int) :=
  let (dup, cache) := pushTransExists startTime cache pushTrans
  if dup then (none, cache) else (some info.toEvent, cache)

/-- Consecutive `process_push_trans` calls: the handler calls, in order, and the
`push_trans_cache` after them. -/
def processPushTransAll (startTime : Int) (cache : DedupCache (Int × Int)) :
    List (OnlinePushTrans × PushTransInfo L P D) → List (TransEvent L P D) × DedupCache (Int × Int)
  | [] => ([], cache)
  | (pushTrans, info) :: calls =>
    let (ev, cache) := processPushTrans startTime cache pushTrans info
    let (evs, cache) := processPushTransAll startTime cache calls
    (ev.toList ++ evs, cache)

/-- The transactions `push_trans_exists` admits, in order, each checked against the cache
the checks before it left. -/
def pushTransAdmitted (startTime : Int) (cache : DedupCache (Int × Int)) :
    List (OnlinePushTrans × PushTransInfo L P D) → List (OnlinePushTrans × PushTransInfo L P D)
  | [] => []
  | call :: calls =>
    (if (pushTransExists startTime cache call.1).1 then [] else [call]) ++
      pushTransAdmitted startTime (pushTransExists startTime cache call.1).2 calls

/-- Consecutive `process_push_trans` calls are the dedup filter followed by one handler call
per admitted transaction. -/
theorem processPushTransAll_eq (startTime : Int) (cache : DedupCache (Int × Int))
    (calls : List (OnlinePushTrans × PushTransInfo L P D)) :
    processPushTransAll startTime cache calls =
      ((pushTransAdmitted startTime cache calls).map (·.2.toEvent),
        pushTransCacheAfter startTime cache (calls.map (·.1))) := by
  induction calls generalizing cache with
  | nil => rfl
  | cons call calls ih =>
    obtain ⟨pushTrans, info⟩ := call
    simp only [processPushTransAll, processPushTrans, pushTransAdmitted]
    by_cases hdup : (pushTransExists startTime cache pushTrans).1 <;> simp [hdup, ih] <;> rfl

end PushTrans

end Ricq.Client
