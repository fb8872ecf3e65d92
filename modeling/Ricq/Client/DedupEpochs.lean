import Ricq.Client.OnlinePush

/-!
# Duplicate suppression, said without the cache

The cache behind `push_req_exists` and `push_trans_exists` stands for a simpler object: the
keys admitted since its last flush, oldest first. A miss inserts its key and counts it, and
the eleventh miss since a reset flushes, so from the empty cache these are the last `n % 11`
of the `n` keys admitted (`currentEpoch`), and the cache is their set with one miss each
(`DedupCache.ofEpoch`).

**The refinement.** One check on the cache of an epoch is the check on the epoch
(`cacheExists_ofEpoch`, `check_ofEpoch`). Over a run each filter admits exactly what
`epochAdmitted` admits, a message past its time gate whose key is not in the current epoch
(`pushReqAdmitted_eq_epochAdmitted`); with the handlers, `processPushReq_eq_epochAdmitted`
and `processPushTransAll_eq_epochAdmitted`.

**What follows.** Between two flushes no key is admitted twice: two admissions within one
block of 11 consecutive admissions have different keys (`dedup_blocksNodup`). Every
reachable cache counts exactly one miss per key it holds (`dedup_card_eq_misses`), whatever
the start time of each call.
-/

namespace Ricq.Client

/-! ## Epochs -/

section Epoch

variable {K : Type}

/-- The keys admitted since the last flush, given every key admitted, oldest first: a flush
falls on every eleventh admission. -/
def currentEpoch (hist : List K) : List K := hist.drop (hist.length / 11 * 11)

theorem length_currentEpoch (hist : List K) : (currentEpoch hist).length = hist.length % 11 := by
  simp only [currentEpoch, List.length_drop]
  omega

theorem currentEpoch_append_singleton (hist : List K) (k : K) :
    currentEpoch (hist ++ [k]) =
      if (currentEpoch hist).length < 10 then currentEpoch hist ++ [k] else [] := by
  rw [length_currentEpoch]
  unfold currentEpoch
  split
  · have : (hist ++ [k]).length / 11 * 11 = hist.length / 11 * 11 := by simp; omega
    rw [this, List.drop_append_of_le_length (by omega)]
  · exact List.drop_eq_nil_of_le (by simp; omega)

/-- No key occurs twice within one block of 11 consecutive admissions, the blocks being the
epochs between flushes. -/
def BlocksNodup (hist : List K) : Prop :=
  ∀ i j, (hij : i < j) → (hj : j < hist.length) → i / 11 = j / 11 → hist[i] ≠ hist[j]

theorem BlocksNodup.nil : BlocksNodup ([] : List K) := fun _ _ _ hj => absurd hj (Nat.not_lt_zero _)

/-- Admitting a key outside the current epoch keeps the blocks duplicate-free. -/
theorem BlocksNodup.append_singleton {hist : List K} {k : K} (h : BlocksNodup hist)
    (hk : k ∉ currentEpoch hist) : BlocksNodup (hist ++ [k]) := by
  intro i j hij hj hblk
  rw [List.length_append, List.length_singleton] at hj
  rcases Nat.lt_succ_iff_lt_or_eq.mp hj with hj | rfl
  · rw [List.getElem_append_left (by omega), List.getElem_append_left hj]
    exact h i j hij hj hblk
  · rw [List.getElem_append_left (by omega), List.getElem_append_right (by omega)]
    simp only [Nat.sub_self, List.getElem_singleton]
    intro heq
    apply hk
    rw [← heq]
    unfold currentEpoch
    exact List.mem_iff_getElem.mpr ⟨i - hist.length / 11 * 11, by simp; omega,
      by rw [List.getElem_drop]; congr 1; omega⟩

theorem currentEpoch_nodup_append_singleton {hist : List K} {k : K}
    (h : (currentEpoch hist).Nodup) (hk : k ∉ currentEpoch hist) :
    (currentEpoch (hist ++ [k])).Nodup := by
  rw [currentEpoch_append_singleton]
  split
  · exact h.append (List.nodup_singleton k) (by simpa using hk)
  · exact List.nodup_nil

variable [DecidableEq K]

/-- The cache that stands for an epoch: its keys, and one miss for each. -/
def DedupCache.ofEpoch (epoch : List K) : DedupCache K := ⟨epoch.toFinset, epoch.length⟩

/-- The locked check said on the admissions: a key is a duplicate exactly when it was admitted
since the last flush; otherwise it is admitted. -/
def histExists (hist : List K) (k : K) : Bool × List K :=
  if k ∈ currentEpoch hist then (true, hist) else (false, hist ++ [k])

/-- The locked check on the cache of the current epoch is the check on the admissions. -/
theorem cacheExists_ofEpoch (hist : List K) (k : K) :
    cacheExists (DedupCache.ofEpoch (currentEpoch hist)) k =
      ((histExists hist k).1, DedupCache.ofEpoch (currentEpoch (histExists hist k).2)) := by
  rw [cacheExists_eq]
  by_cases hk : k ∈ currentEpoch hist
  · simp [histExists, hk, DedupCache.ofEpoch]
  · simp only [histExists, hk, if_false, DedupCache.ofEpoch, List.mem_toFinset,
      currentEpoch_append_singleton]
    by_cases h10 : (currentEpoch hist).length < 10
    · have : ¬ 10 < (currentEpoch hist).length + 1 := by omega
      simp [h10, this, List.toFinset_append, Finset.insert_eq, Finset.union_comm]
    · have : 10 < (currentEpoch hist).length + 1 := by omega
      simp [h10, this]
      rfl

theorem DedupCache.ofEpoch_currentEpoch_nil :
    DedupCache.ofEpoch (currentEpoch ([] : List K)) = .empty := by
  simp [DedupCache.ofEpoch, currentEpoch, DedupCache.empty]

/-- The caches that stand for a duplicate-free epoch. -/
def DedupCache.Epochal (c : DedupCache K) : Prop :=
  ∃ hist : List K, (currentEpoch hist).Nodup ∧ c = .ofEpoch (currentEpoch hist)

theorem DedupCache.epochal_empty : (DedupCache.empty : DedupCache K).Epochal :=
  ⟨[], by simp [currentEpoch], DedupCache.ofEpoch_currentEpoch_nil.symm⟩

/-- One locked check keeps a cache epochal. -/
theorem DedupCache.Epochal.cacheExists {c : DedupCache K} (h : c.Epochal) (k : K) :
    (cacheExists c k).2.Epochal := by
  obtain ⟨hist, hnd, rfl⟩ := h
  rw [cacheExists_ofEpoch]
  by_cases hk : k ∈ currentEpoch hist
  · exact ⟨hist, hnd, by simp [histExists, hk]⟩
  · exact ⟨hist ++ [k], currentEpoch_nodup_append_singleton hnd hk, by simp [histExists, hk]⟩

/-- A check that keeps caches epochal keeps them so over every sequence of its calls. -/
theorem DedupCache.Epochal.foldl {α : Type} {check : DedupCache K → α → Bool × DedupCache K}
    (hstep : ∀ c a, c.Epochal → (check c a).2.Epochal) {c : DedupCache K} (h : c.Epochal)
    (calls : List α) : (calls.foldl (fun c a => (check c a).2) c).Epochal := by
  induction calls generalizing c with
  | nil => exact h
  | cons a calls ih => exact ih (hstep c a h)

/-- An epochal cache counts one miss per key it holds. -/
theorem DedupCache.Epochal.card_eq_misses {c : DedupCache K} (h : c.Epochal) :
    c.keys.card = c.misses := by
  obtain ⟨hist, hnd, rfl⟩ := h
  exact List.toFinset_card_of_nodup hnd

end Epoch

/-! ## The filter spec -/

section Gated

variable {α K : Type} [DecidableEq K] (gated : α → Prop) [DecidablePred gated] (key : α → K)

/-- What a dedup filter admits, said without the cache: a message its time gate lets
through, unless its key was admitted since the last flush. `hist` is every key admitted
before, oldest first. -/
def epochAdmitted (hist : List K) : List α → List α
  | [] => []
  | x :: xs =>
    if ¬ gated x ∧ key x ∉ currentEpoch hist then x :: epochAdmitted (hist ++ [key x]) xs
    else epochAdmitted hist xs

variable {gated key}

/-- A check that gates, then looks the key up in the cache, run on the cache that stands for
the current epoch, admits what the epoch admits and leaves the cache of the epoch after. -/
theorem check_ofEpoch {check : DedupCache K → α → Bool × DedupCache K}
    (hcheck : ∀ c x, check c x = if gated x then (true, c) else cacheExists c (key x))
    (hist : List K) (x : α) :
    check (.ofEpoch (currentEpoch hist)) x =
      if ¬ gated x ∧ key x ∉ currentEpoch hist then
        (false, .ofEpoch (currentEpoch (hist ++ [key x])))
      else (true, .ofEpoch (currentEpoch hist)) := by
  rw [hcheck, cacheExists_ofEpoch]
  by_cases hg : gated x <;> by_cases hk : key x ∈ currentEpoch hist <;> simp [hg, hk, histExists]

theorem blocksNodup_epochAdmitted {hist : List K} (h : BlocksNodup hist) (xs : List α) :
    BlocksNodup (hist ++ (epochAdmitted gated key hist xs).map key) := by
  induction xs generalizing hist with
  | nil => simpa [epochAdmitted] using h
  | cons x xs ih =>
    rw [epochAdmitted]
    split
    · next hx => simpa using ih (h.append_singleton hx.2)
    · exact ih h

end Gated

/-! ## The two filters -/

section Filters

/-- The key `push_req_exists` looks up, `(msg_seq, msg_uid)`. -/
def PushMessageInfo.key (info : PushMessageInfo) : Int × Int := (info.msgSeq, info.msgUid)

/-- The key `push_trans_exists` looks up. -/
def OnlinePushTrans.key (info : OnlinePushTrans) : Int × Int := (info.msgSeq, info.msgUid)

/-- The time gate of `push_req_exists` (lines 322-325): a nonzero stamp before the start. -/
def pushReqGated (startTime : Int) (info : PushMessageInfo) : Prop :=
  asI32 info.msgTime ≠ 0 ∧ startTime > asI32 info.msgTime

instance (startTime : Int) : DecidablePred (pushReqGated startTime) :=
  fun _ => inferInstanceAs (Decidable (_ ∧ _))

/-- The time gate of `push_trans_exists` (lines 374-377): a stamp before the start. -/
def pushTransGated (startTime : Int) (info : OnlinePushTrans) : Prop :=
  startTime > asI32 info.msgTime.toInt

instance (startTime : Int) : DecidablePred (pushTransGated startTime) :=
  fun _ => inferInstanceAs (Decidable (_ > _))

theorem pushReqExists_eq_gated (startTime : Int) (c : DedupCache (Int × Int))
    (info : PushMessageInfo) :
    pushReqExists startTime c info =
      if pushReqGated startTime info then (true, c) else cacheExists c info.key := rfl

theorem pushTransExists_eq_gated (startTime : Int) (c : DedupCache (Int × Int))
    (info : OnlinePushTrans) :
    pushTransExists startTime c info =
      if pushTransGated startTime info then (true, c) else cacheExists c info.key := rfl

theorem pushReqCacheAfter_cons (startTime : Int) (c : DedupCache (Int × Int))
    (info : PushMessageInfo) (infos : List PushMessageInfo) :
    pushReqCacheAfter startTime c (info :: infos) =
      pushReqCacheAfter startTime (pushReqExists startTime c info).2 infos := rfl

theorem pushReqAdmitted_ofEpoch (startTime : Int) (hist : List (Int × Int))
    (infos : List PushMessageInfo) :
    pushReqAdmitted startTime (.ofEpoch (currentEpoch hist)) infos =
        epochAdmitted (pushReqGated startTime) PushMessageInfo.key hist infos ∧
      pushReqCacheAfter startTime (.ofEpoch (currentEpoch hist)) infos =
        .ofEpoch (currentEpoch (hist ++
          (epochAdmitted (pushReqGated startTime) PushMessageInfo.key hist infos).map
            PushMessageInfo.key)) := by
  induction infos generalizing hist with
  | nil => simp [pushReqAdmitted, pushReqCacheAfter, epochAdmitted]
  | cons info infos ih =>
    rw [pushReqAdmitted, pushReqCacheAfter_cons,
      check_ofEpoch (pushReqExists_eq_gated startTime) hist info, epochAdmitted]
    by_cases h : ¬ pushReqGated startTime info ∧ info.key ∉ currentEpoch hist <;> simp [h, ih]

theorem pushTransCacheAfter_cons (startTime : Int) (c : DedupCache (Int × Int))
    (info : OnlinePushTrans) (infos : List OnlinePushTrans) :
    pushTransCacheAfter startTime c (info :: infos) =
      pushTransCacheAfter startTime (pushTransExists startTime c info).2 infos := rfl

theorem pushTransAdmitted_ofEpoch {L P D : Type} (startTime : Int) (hist : List (Int × Int))
    (calls : List (OnlinePushTrans × PushTransInfo L P D)) :
    pushTransAdmitted startTime (.ofEpoch (currentEpoch hist)) calls =
        epochAdmitted (fun call => pushTransGated startTime call.1) (·.1.key) hist calls ∧
      pushTransCacheAfter startTime (.ofEpoch (currentEpoch hist)) (calls.map (·.1)) =
        .ofEpoch (currentEpoch (hist ++
          (epochAdmitted (fun call => pushTransGated startTime call.1) (·.1.key) hist calls).map
            (·.1.key))) := by
  induction calls generalizing hist with
  | nil => simp [pushTransAdmitted, pushTransCacheAfter, epochAdmitted]
  | cons call calls ih =>
    rw [pushTransAdmitted, List.map_cons, pushTransCacheAfter_cons,
      check_ofEpoch (fun c call => pushTransExists_eq_gated startTime c call.1) hist call,
      epochAdmitted]
    by_cases h : ¬ pushTransGated startTime call.1 ∧ call.1.key ∉ currentEpoch hist <;>
      simp [h, ih]

/-- From the empty cache, `push_req_exists` admits in turn exactly what the epoch spec
admits, whatever the messages, and leaves the cache of the last, unfinished epoch. -/
theorem pushReqAdmitted_eq_epochAdmitted (startTime : Int) (infos : List PushMessageInfo) :
    pushReqAdmitted startTime .empty infos =
        epochAdmitted (pushReqGated startTime) PushMessageInfo.key [] infos ∧
      pushReqCacheAfter startTime .empty infos =
        .ofEpoch (currentEpoch
          ((pushReqAdmitted startTime .empty infos).map PushMessageInfo.key)) := by
  have h := pushReqAdmitted_ofEpoch startTime [] infos
  rw [DedupCache.ofEpoch_currentEpoch_nil, List.nil_append] at h
  exact ⟨h.1, h.1 ▸ h.2⟩

/-- From the empty cache, `process_push_req` calls the handlers of exactly the messages the
epoch spec admits, in order, unless one of them panics. -/
theorem processPushReq_eq_epochAdmitted (dec : PushDecoders) (uin startTime : Int)
    (infos : List PushMessageInfo)
    (h : ∀ info ∈ epochAdmitted (pushReqGated startTime) PushMessageInfo.key [] infos,
      (handlePushInfo dec uin info).isSome) :
    processPushReq dec uin startTime .empty infos =
      ((epochAdmitted (pushReqGated startTime) PushMessageInfo.key [] infos).flatMap fun info =>
          (handlePushInfo dec uin info).getD [],
        some (.ofEpoch (currentEpoch
          ((epochAdmitted (pushReqGated startTime) PushMessageInfo.key [] infos).map
            PushMessageInfo.key)))) := by
  have hr := pushReqAdmitted_ofEpoch startTime [] infos
  rw [DedupCache.ofEpoch_currentEpoch_nil, List.nil_append] at hr
  rw [processPushReq_eq_of_handled .empty infos (hr.1 ▸ h), hr.1, hr.2]

/-- A group mute delivered twice: the first copy is admitted and its handler reports the
mute, and the second copy is suppressed. -/
theorem processPushReq_eq_epochAdmitted_mute_twice :
    let mute : PushMessageInfo :=
      ⟨0, 732, 1, 1,
        [0, 0, 0, 1, 0x0c, 0, 0, 0, 0, 2, 0, 0, 0, 0, 0, 0, 0, 0, 0, 3, 0, 0, 0, 60]⟩
    let dec : PushDecoders := ⟨fun _ => none, fun _ => none, fun _ => none, fun _ => none,
      fun _ => none, fun _ => none, fun _ => none, fun _ => none, fun _ => ""⟩
    (∀ info ∈ epochAdmitted (pushReqGated 0) PushMessageInfo.key [] [mute, mute],
      (handlePushInfo dec 0 info).isSome) ∧
    processPushReq dec 0 0 .empty [mute, mute] =
      ((epochAdmitted (pushReqGated 0) PushMessageInfo.key [] [mute, mute]).flatMap fun info =>
          (handlePushInfo dec 0 info).getD [],
        some (.ofEpoch (currentEpoch
          ((epochAdmitted (pushReqGated 0) PushMessageInfo.key [] [mute, mute]).map
            PushMessageInfo.key)))) :=
  ⟨by decide, processPushReq_eq_epochAdmitted _ 0 0 _ (by decide)⟩

/-- From the empty cache, consecutive `process_push_trans` calls hand the handler the events
of exactly the transactions the epoch spec admits, in order. -/
theorem processPushTransAll_eq_epochAdmitted {L P D : Type} (startTime : Int)
    (calls : List (OnlinePushTrans × PushTransInfo L P D)) :
    processPushTransAll startTime .empty calls =
      ((epochAdmitted (fun call => pushTransGated startTime call.1) (·.1.key) [] calls).map
          (·.2.toEvent),
        .ofEpoch (currentEpoch
          ((epochAdmitted (fun call => pushTransGated startTime call.1) (·.1.key) [] calls).map
            (·.1.key)))) := by
  have h := pushTransAdmitted_ofEpoch startTime [] calls
  rw [DedupCache.ofEpoch_currentEpoch_nil, List.nil_append] at h
  rw [processPushTransAll_eq, h.1, h.2]

theorem blocksNodup_pushReqAdmitted (startTime : Int) (infos : List PushMessageInfo) :
    BlocksNodup ((pushReqAdmitted startTime .empty infos).map PushMessageInfo.key) := by
  have h := (pushReqAdmitted_ofEpoch startTime [] infos).1
  rw [DedupCache.ofEpoch_currentEpoch_nil] at h
  simpa [h] using blocksNodup_epochAdmitted BlocksNodup.nil infos

theorem blocksNodup_pushTransAdmitted {L P D : Type} (startTime : Int)
    (calls : List (OnlinePushTrans × PushTransInfo L P D)) :
    BlocksNodup ((pushTransAdmitted startTime .empty calls).map (·.1.key)) := by
  have h := (pushTransAdmitted_ofEpoch startTime [] calls).1
  rw [DedupCache.ofEpoch_currentEpoch_nil] at h
  simpa [h] using blocksNodup_epochAdmitted BlocksNodup.nil calls

/-- Between two flushes no key is admitted twice: in the keys either filter admits from the
empty cache, two admissions within one block of 11 have different keys. -/
theorem dedup_blocksNodup {L P D : Type} (startTime : Int) (infos : List PushMessageInfo)
    (calls : List (OnlinePushTrans × PushTransInfo L P D)) :
    BlocksNodup ((pushReqAdmitted startTime .empty infos).map PushMessageInfo.key) ∧
      BlocksNodup ((pushTransAdmitted startTime .empty calls).map (·.1.key)) :=
  ⟨blocksNodup_pushReqAdmitted startTime infos, blocksNodup_pushTransAdmitted startTime calls⟩

/-- From the empty cache, after any sequence of checks, each against the start time of its
own call, either cache holds exactly one key per miss counted. -/
theorem dedup_card_eq_misses (reqCalls : List (Int × PushMessageInfo))
    (transCalls : List (Int × OnlinePushTrans)) :
    let req := reqCalls.foldl (fun c call => (pushReqExists call.1 c call.2).2) .empty
    let trans := transCalls.foldl (fun c call => (pushTransExists call.1 c call.2).2) .empty
    req.keys.card = req.misses ∧ trans.keys.card = trans.misses :=
  have hreq := DedupCache.Epochal.foldl (fun c (call : Int × PushMessageInfo) h => by
    rw [pushReqExists_eq_gated]; split; exacts [h, h.cacheExists _])
    DedupCache.epochal_empty reqCalls
  have htrans := DedupCache.Epochal.foldl (fun c (call : Int × OnlinePushTrans) h => by
    rw [pushTransExists_eq_gated]; split; exacts [h, h.cacheExists _])
    DedupCache.epochal_empty transCalls
  ⟨hreq.card_eq_misses, htrans.card_eq_misses⟩

end Filters

end Ricq.Client
