import Ricq.Bytes

/-!
# Duplicate suppression of online pushes

`push_req_exists` and `push_trans_exists` (`online_push.rs:321-337`, `373-389`) decide
whether an online push or a push transaction was delivered before: a time gate against the
connection's start time, then, under the cache's write lock, a lookup of
`(msg_seq, msg_uid)` in a metrics-driven store that is flushed, and its metrics reset, once
its miss counter passes 10. The two share the locked part (`cacheExistsOn`); their time gates
differ, `push_req_exists` letting a zero timestamp through.

The store's type is outside `src/`, so the locked part and both checks take its operations
(`CachedOps`). `DedupCache` is the store the spec describes, whose flush clears every key;
`Ricq.Client.TimedStore` models the library's `cached::TimedCache`, whose flush drops only
expired entries.

* `cacheExists_eq`: what one locked check does to the spec's store.
* `dedupCache_card_le_ten`: from the empty store, every sequence of checks keeps at most as
  many keys as misses, and at most 10 misses (`DedupCache.Bounded`).
* `asI32_eq_self_iff`: `as i32` changes a timestamp exactly when it lies outside the `i32`
  range, so the time gates compare the plain timestamp only on that range; the `msg_time` of
  an `OnlinePushTrans` is an `i32`, which `as i32` keeps (`asI32_toInt`).
-/

namespace Ricq.Client

/-- The operations of the store behind `push_req_cache` and `push_trans_cache` that the
locked part calls: `cached::Cached`'s `cache_get`, `cache_set`, `cache_misses` and
`cache_reset_metrics`, and the store's own `flush`. -/
structure CachedOps (C K : Type) where
  cacheGet : C → K → Option Unit × C
  cacheSet : C → K → C
  cacheMisses : C → Option Nat
  flush : C → C
  cacheResetMetrics : C → C

/-- Modelled from the spec: the store behind `push_req_cache` and `push_trans_cache` is
outside `src/`. A set of keys and the miss counter: `cache_get` counts a miss on an absent
key, `cache_set` inserts, `flush` empties the cache, as the spec's eviction policy says ("the
entire cache is cleared"), and `cache_reset_metrics` zeroes the counter. The library's store
keeps the entries that have not expired instead (`TimedCache`). -/
structure DedupCache (K : Type) [DecidableEq K] where
  keys : Finset K
  misses : Nat

namespace DedupCache

variable {K : Type} [DecidableEq K]

/-- The cache of a new client: no key, no miss. -/
def empty : DedupCache K := ⟨∅, 0⟩

/-- `cache_get`: `some ()` on a present key, a counted miss otherwise. -/
def cacheGet (c : DedupCache K) (k : K) : Option Unit × DedupCache K :=
  if k ∈ c.keys then (some (), c) else (none, { c with misses := c.misses + 1 })

/-- `cache_set(k, ())`. -/
def cacheSet (c : DedupCache K) (k : K) : DedupCache K := { c with keys := insert k c.keys }

/-- `cache_misses()`. -/
def cacheMisses (c : DedupCache K) : Option Nat := some c.misses

/-- `flush()`. -/
def flush (c : DedupCache K) : DedupCache K := { c with keys := ∅ }

/-- `cache_reset_metrics()`. -/
def cacheResetMetrics (c : DedupCache K) : DedupCache K := { c with misses := 0 }

/-- The spec's store operations. -/
def ops : CachedOps (DedupCache K) K := ⟨cacheGet, cacheSet, cacheMisses, flush, cacheResetMetrics⟩

end DedupCache

/-- `x as i32`: the low 32 bits of `x` as a two's-complement integer. -/
def asI32 (x : Int) : Int := (x + 2 ^ 31) % 2 ^ 32 - 2 ^ 31

theorem asI32_mem_range (x : Int) : -2 ^ 31 ≤ asI32 x ∧ asI32 x < 2 ^ 31 := by
  unfold asI32
  have h1 := Int.emod_nonneg (x + 2 ^ 31) (by norm_num : (2 : Int) ^ 32 ≠ 0)
  have h2 := Int.emod_lt_of_pos (x + 2 ^ 31) (by norm_num : (0 : Int) < 2 ^ 32)
  constructor <;> omega

/-- `as i32` keeps exactly the values of the `i32` range. -/
theorem asI32_eq_self_iff {x : Int} : asI32 x = x ↔ -2 ^ 31 ≤ x ∧ x < 2 ^ 31 := by
  refine ⟨fun h => h ▸ asI32_mem_range x, fun ⟨h1, h2⟩ => ?_⟩
  unfold asI32
  rw [Int.emod_eq_of_lt (by omega) (by omega)]
  omega

/-- On a timestamp of the `i32` range, a time gate `start_time > msg_time as i32` is the
plain comparison. -/
theorem gt_asI32_iff {startTime x : Int} (h1 : -2 ^ 31 ≤ x) (h2 : x < 2 ^ 31) :
    startTime > asI32 x ↔ x < startTime := by
  rw [asI32_eq_self_iff.mpr ⟨h1, h2⟩]

/-- An `i32` value is kept by `as i32`. -/
theorem asI32_toInt (x : BitVec 32) : asI32 x.toInt = x.toInt := by
  have hx := x.isLt
  rw [asI32_eq_self_iff, BitVec.toInt_eq_toNat_cond]
  split <;> omega

/-- The fields of `jce::PushMessageInfo` that `process_push_req` reads. -/
structure PushMessageInfo where
  msgTime : Int
  msgType : Int
  msgSeq : Int
  msgUid : Int
  vMsg : Bytes
  deriving DecidableEq, Repr

/-- The fields of `OnlinePushTrans` that `push_trans_exists` reads; `msg_time` is an `i32`,
its bits read as two's complement by `BitVec.toInt`. -/
structure OnlinePushTrans where
  msgSeq : Int
  msgUid : Int
  msgTime : BitVec 32
  deriving DecidableEq, Repr

section Exists

variable {K : Type} [DecidableEq K]

/-- The locked part of `push_req_exists` and `push_trans_exists` (lines 326-336,
378-388) on a store with operations `ops`: a hit is a duplicate; a miss inserts the key, and
once the misses pass 10 flushes the store and resets its metrics. -/
def cacheExistsOn {C : Type} (ops : CachedOps C K) (cache : C) (key : K) : Bool × C :=
  match ops.cacheGet cache key with
  | (some _, cache) => (true, cache)
  | (none, cache) =>
    let cache := ops.cacheSet cache key
    if (ops.cacheMisses cache).getD 0 > 10 then (false, ops.cacheResetMetrics (ops.flush cache))
    else (false, cache)

/-- `push_req_exists` on a store with operations `ops`: a message stamped before the start
is old, unless its stamp is 0. -/
def pushReqExistsOn {C : Type} (ops : CachedOps C (Int × Int)) (startTime : Int) (cache : C)
    (info : PushMessageInfo) : Bool × C :=
  let msgTime := asI32 info.msgTime
  if msgTime ≠ 0 ∧ startTime > msgTime then (true, cache)
  else cacheExistsOn ops cache (info.msgSeq, info.msgUid)

/-- `push_trans_exists` on a store with operations `ops`. -/
def pushTransExistsOn {C : Type} (ops : CachedOps C (Int × Int)) (startTime : Int) (cache : C)
    (info : OnlinePushTrans) : Bool × C :=
  let msgTime := asI32 info.msgTime.toInt
  if startTime > msgTime then (true, cache)
  else cacheExistsOn ops cache (info.msgSeq, info.msgUid)

/-- The locked part on the spec's store. -/
def cacheExists (cache : DedupCache K) (key : K) : Bool × DedupCache K :=
  cacheExistsOn DedupCache.ops cache key

/-- `push_req_exists` on the spec's store. -/
def pushReqExists (startTime : Int) (cache : DedupCache (Int × Int)) (info : PushMessageInfo) :
    Bool × DedupCache (Int × Int) :=
  pushReqExistsOn DedupCache.ops startTime cache info

/-- `push_trans_exists` on the spec's store. -/
def pushTransExists (startTime : Int) (cache : DedupCache (Int × Int)) (info : OnlinePushTrans) :
    Bool × DedupCache (Int × Int) :=
  pushTransExistsOn DedupCache.ops startTime cache info

theorem pushReqExists_eq (startTime : Int) (c : DedupCache (Int × Int)) (info : PushMessageInfo) :
    pushReqExists startTime c info =
      if asI32 info.msgTime ≠ 0 ∧ startTime > asI32 info.msgTime then (true, c)
      else cacheExists c (info.msgSeq, info.msgUid) := rfl

theorem pushTransExists_eq (startTime : Int) (c : DedupCache (Int × Int))
    (info : OnlinePushTrans) :
    pushTransExists startTime c info =
      if startTime > asI32 info.msgTime.toInt then (true, c)
      else cacheExists c (info.msgSeq, info.msgUid) := rfl

/-- The `push_req_cache` after `push_req_exists` has checked `infos` in order, as
`process_push_req` does, one call after another. -/
def pushReqCacheAfter (startTime : Int) (cache : DedupCache (Int × Int))
    (infos : List PushMessageInfo) : DedupCache (Int × Int) :=
  infos.foldl (fun c info => (pushReqExists startTime c info).2) cache

/-- The `push_trans_cache` after `push_trans_exists` has checked `infos` in order. -/
def pushTransCacheAfter (startTime : Int) (cache : DedupCache (Int × Int))
    (infos : List OnlinePushTrans) : DedupCache (Int × Int) :=
  infos.foldl (fun c info => (pushTransExists startTime c info).2) cache

/-- One locked check: a hit leaves the cache as it is; a miss inserts the key and counts
the miss, and the eleventh miss since the last reset empties the cache instead. -/
theorem cacheExists_eq (c : DedupCache K) (k : K) :
    cacheExists c k =
      if k ∈ c.keys then (true, c)
      else if 10 < c.misses + 1 then (false, DedupCache.empty)
      else (false, ⟨insert k c.keys, c.misses + 1⟩) := by
  unfold cacheExists cacheExistsOn DedupCache.ops DedupCache.cacheGet
  by_cases hk : k ∈ c.keys
  · simp [hk]
  · simp only [hk, ↓reduceIte]
    rfl

/-- A message `push_req_exists` admits passed its time gate, so on any store it reaches the
locked part on every later check too. -/
theorem pushReqExistsOn_gate_passed {C C' : Type} {ops : CachedOps C (Int × Int)}
    {startTime : Int} {c : C} {info : PushMessageInfo}
    (h : (pushReqExistsOn ops startTime c info).1 = false) (ops' : CachedOps C' (Int × Int))
    (c' : C') :
    pushReqExistsOn ops' startTime c' info =
      cacheExistsOn ops' c' (info.msgSeq, info.msgUid) := by
  unfold pushReqExistsOn at h ⊢
  dsimp only at h ⊢
  split at h
  · cases h
  · rw [if_neg ‹_›]

theorem pushTransExistsOn_gate_passed {C C' : Type} {ops : CachedOps C (Int × Int)}
    {startTime : Int} {c : C} {info : OnlinePushTrans}
    (h : (pushTransExistsOn ops startTime c info).1 = false) (ops' : CachedOps C' (Int × Int))
    (c' : C') :
    pushTransExistsOn ops' startTime c' info =
      cacheExistsOn ops' c' (info.msgSeq, info.msgUid) := by
  unfold pushTransExistsOn at h ⊢
  dsimp only at h ⊢
  split at h
  · cases h
  · rw [if_neg ‹_›]

end Exists

/-! ## The size of the cache -/

section Bound

variable {K : Type} [DecidableEq K]

/-- What every reachable cache keeps: no more keys than misses counted since the last
reset, and at most 10 of those. -/
structure DedupCache.Bounded (c : DedupCache K) : Prop where
  card_le_misses : c.keys.card ≤ c.misses
  misses_le : c.misses ≤ 10

theorem DedupCache.bounded_empty : (DedupCache.empty : DedupCache K).Bounded :=
  ⟨by simp [DedupCache.empty], by simp [DedupCache.empty]⟩

theorem DedupCache.Bounded.card_le {c : DedupCache K} (h : c.Bounded) : c.keys.card ≤ 10 :=
  h.card_le_misses.trans h.misses_le

/-- A hit changes nothing; a miss adds at most one key with its count, and the miss that
passes 10 empties the cache. -/
theorem cacheExists_bounded {c : DedupCache K} (h : c.Bounded) (k : K) :
    (cacheExists c k).2.Bounded := by
  rw [cacheExists_eq]
  by_cases hk : k ∈ c.keys
  · simpa [hk] using h
  · by_cases hm : 10 < c.misses + 1
    · simpa [hk, hm] using DedupCache.bounded_empty
    · simp only [hk, hm, if_false]
      have := h.card_le_misses
      exact ⟨(Finset.card_insert_le k c.keys).trans (show c.keys.card + 1 ≤ c.misses + 1 by omega),
        show c.misses + 1 ≤ 10 by omega⟩

theorem pushReqExists_bounded {startTime : Int} {c : DedupCache (Int × Int)} (h : c.Bounded)
    (info : PushMessageInfo) : (pushReqExists startTime c info).2.Bounded := by
  rw [pushReqExists_eq]
  split
  · exact h
  · exact cacheExists_bounded h _

theorem pushTransExists_bounded {startTime : Int} {c : DedupCache (Int × Int)} (h : c.Bounded)
    (info : OnlinePushTrans) : (pushTransExists startTime c info).2.Bounded := by
  rw [pushTransExists_eq]
  split
  · exact h
  · exact cacheExists_bounded h _

/-- A check that keeps the bound keeps it over every sequence of its calls. -/
theorem foldl_bounded {α : Type} {check : DedupCache K → α → Bool × DedupCache K}
    (hstep : ∀ c a, c.Bounded → (check c a).2.Bounded) {c : DedupCache K} (h : c.Bounded)
    (calls : List α) : (calls.foldl (fun c a => (check c a).2) c).Bounded := by
  induction calls generalizing c with
  | nil => exact h
  | cons a calls ih => exact ih (hstep c a h)

/-- From the empty cache, after any sequence of checks, each against the start time of its
own call, either cache holds no more keys than misses counted, at most 10 misses, and so at
most 10 keys. -/
theorem dedupCache_card_le_ten (reqCalls : List (Int × PushMessageInfo))
    (transCalls : List (Int × OnlinePushTrans)) :
    let req := reqCalls.foldl (fun c call => (pushReqExists call.1 c call.2).2) .empty
    let trans := transCalls.foldl (fun c call => (pushTransExists call.1 c call.2).2) .empty
    (req.keys.card ≤ req.misses ∧ req.misses ≤ 10 ∧ req.keys.card ≤ 10) ∧
      (trans.keys.card ≤ trans.misses ∧ trans.misses ≤ 10 ∧ trans.keys.card ≤ 10) :=
  have hreq := foldl_bounded (fun _ call h => pushReqExists_bounded h call.2)
    DedupCache.bounded_empty reqCalls
  have htrans := foldl_bounded (fun _ call h => pushTransExists_bounded h call.2)
    DedupCache.bounded_empty transCalls
  ⟨⟨hreq.1, hreq.2, hreq.card_le⟩, htrans.1, htrans.2, htrans.card_le⟩

end Bound

end Ricq.Client
