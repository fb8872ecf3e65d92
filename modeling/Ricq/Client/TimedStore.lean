import Ricq.Client.Dedup

/-!
# The library's store: `cached::TimedCache`

`push_req_cache` and `push_trans_cache` are `cached::TimedCache`s, built outside `src/` with
lifespans of 30 s and 15 s. Each key keeps the instant of its `cache_set`, and an entry is
live while its age, in whole seconds, is below the lifespan. `cache_get` finds a live entry;
it counts a miss on an absent or expired one, and removes the expired one. The `flush()` that
`push_req_exists` and `push_trans_exists` call once the misses pass 10 is the store's own
method: it removes the expired entries and keeps the live ones, so it never removes the key
the same call has just set.

* `TimedCache.store_cacheExistsOn`: a check that admits a key leaves it set at the instant of
  the check, whether or not the check flushed.
* `pushExists_recheck_suppressed`: a message that `push_req_exists`, or `push_trans_exists`,
  admits is suppressed when checked again at any instant within the lifespan, whatever the
  store held before.
-/

namespace Ricq.Client

/-- Modelled from the library: `cached::TimedCache<K, ()>`, outside `src/`. Instants are
counted in a fixed unit from a fixed origin and the lifespan in the same unit, so that
`instant.elapsed().as_secs() < seconds` is `now - t < lifespan`. `store k` is the instant of
the last `cache_set k` still held; `refresh` says whether a hit renews its entry. The hit
counter is left out: nothing reads it. -/
structure TimedCache (K : Type) where
  store : K → Option Nat
  lifespan : Nat
  refresh : Bool
  misses : Nat

namespace TimedCache

variable {K : Type} [DecidableEq K]

/-- `cache_get` at the instant `now`: a live entry is a hit, renewed when `refresh` is set;
an expired entry is removed and, as an absent one, counted as a miss. -/
def cacheGet (now : Nat) (c : TimedCache K) (k : K) : Option Unit × TimedCache K :=
  match c.store k with
  | some t =>
    if now - t < c.lifespan then
      (some (), if c.refresh then { c with store := Function.update c.store k (some now) } else c)
    else (none, { c with store := Function.update c.store k none, misses := c.misses + 1 })
  | none => (none, { c with misses := c.misses + 1 })

/-- `cache_set(k, ())` at `now`. -/
def cacheSet (now : Nat) (c : TimedCache K) (k : K) : TimedCache K :=
  { c with store := Function.update c.store k (some now) }

/-- `cache_misses()`. -/
def cacheMisses (c : TimedCache K) : Option Nat := some c.misses

/-- `flush()` at `now`: the expired entries are removed, the live ones kept. -/
def flush (now : Nat) (c : TimedCache K) : TimedCache K :=
  { c with store := fun k => (c.store k).filter fun t => now - t < c.lifespan }

/-- `cache_reset_metrics()`. -/
def cacheResetMetrics (c : TimedCache K) : TimedCache K := { c with misses := 0 }

/-- The library store's operations during a call made at the instant `now`. -/
def ops (now : Nat) : CachedOps (TimedCache K) K :=
  ⟨cacheGet now, cacheSet now, cacheMisses, flush now, cacheResetMetrics⟩

omit [DecidableEq K] in
/-- The flush keeps exactly the live entries. -/
theorem flush_store (now : Nat) (c : TimedCache K) (k : K) (t : Nat) :
    (c.flush now).store k = some t ↔ c.store k = some t ∧ now - t < c.lifespan := by
  simp [flush, Option.filter_eq_some]

/-- A check that admits a key leaves it set at the instant of the check, and no check
changes the lifespan. -/
theorem store_cacheExistsOn (now : Nat) (c : TimedCache K) (k : K) (hl : 0 < c.lifespan)
    (h : (cacheExistsOn (ops now) c k).1 = false) :
    (cacheExistsOn (ops now) c k).2.store k = some now ∧
      (cacheExistsOn (ops now) c k).2.lifespan = c.lifespan := by
  -- after a miss, `cache_get` kept the lifespan, and `cache_set` put the key at `now`
  have hget : ((ops now).cacheGet c k).2.lifespan = c.lifespan := by
    simp only [ops, cacheGet]
    split
    · split <;> [split <;> rfl; rfl]
    · rfl
  unfold cacheExistsOn at h ⊢
  split at h
  · cases h
  · next c' hmiss =>
    have hl' : c'.lifespan = c.lifespan := by rw [← hget, hmiss]
    dsimp only
    split
    · -- the flush keeps the entry just set: its age is 0
      exact ⟨(flush_store now _ k now).mpr
          ⟨by simp [ops, cacheSet], by simpa [ops, cacheSet, hl']⟩,
        by simpa [ops, cacheSet, cacheResetMetrics, flush] using hl'⟩
    · simpa [ops, cacheSet] using hl'

/-- A live entry is a hit. -/
theorem cacheExistsOn_of_live {now t : Nat} {c : TimedCache K} {k : K} (h : c.store k = some t)
    (hlive : now - t < c.lifespan) : (cacheExistsOn (ops now) c k).1 = true := by
  simp [cacheExistsOn, ops, cacheGet, h, hlive]

/-- A key admitted at `now` is found by a check at any instant within the lifespan. -/
theorem cacheExistsOn_recheck {now now' : Nat} {c : TimedCache K} {k : K}
    (h : (cacheExistsOn (ops now) c k).1 = false) (hle : now ≤ now')
    (hlt : now' < now + c.lifespan) :
    (cacheExistsOn (ops now') (cacheExistsOn (ops now) c k).2 k).1 = true := by
  obtain ⟨hstore, hlife⟩ := store_cacheExistsOn now c k (by omega) h
  exact cacheExistsOn_of_live hstore (by omega)

end TimedCache

/-- An online push, or a push transaction, admitted at the instant `now` is suppressed when
checked again at any instant within the store's lifespan, whatever the store held: the flush
that may follow its admission keeps its fresh entry. -/
theorem pushExists_recheck_suppressed (startTime : Int) (now now' : Nat)
    (reqCache transCache : TimedCache (Int × Int)) (info : PushMessageInfo)
    (trans : OnlinePushTrans) :
    ((pushReqExistsOn (TimedCache.ops now) startTime reqCache info).1 = false →
      now ≤ now' → now' < now + reqCache.lifespan →
      (pushReqExistsOn (TimedCache.ops now') startTime
        (pushReqExistsOn (TimedCache.ops now) startTime reqCache info).2 info).1 = true) ∧
    ((pushTransExistsOn (TimedCache.ops now) startTime transCache trans).1 = false →
      now ≤ now' → now' < now + transCache.lifespan →
      (pushTransExistsOn (TimedCache.ops now') startTime
        (pushTransExistsOn (TimedCache.ops now) startTime transCache trans).2 trans).1 =
          true) := by
  refine ⟨fun h hle hlt => ?_, fun h hle hlt => ?_⟩
  · have hc := pushReqExistsOn_gate_passed h (TimedCache.ops now) reqCache
    rw [pushReqExistsOn_gate_passed h (TimedCache.ops now'), hc]
    exact TimedCache.cacheExistsOn_recheck (hc ▸ h) hle hlt
  · have hc := pushTransExistsOn_gate_passed h (TimedCache.ops now) transCache
    rw [pushTransExistsOn_gate_passed h (TimedCache.ops now'), hc]
    exact TimedCache.cacheExistsOn_recheck (hc ▸ h) hle hlt

/-- Ten keys set at instant 0 have expired by 100, when an eleventh message is admitted: its
miss passes 10, the call flushes, and the flush keeps the new key, which a check at 110 finds.
The push transaction likewise, on a store with a lifespan of 15. -/
theorem pushExists_recheck_suppressed_after_flush :
    let reqCache : TimedCache (Int × Int) :=
      ⟨fun k => if k.1 < 10 ∧ k.2 = 0 then some 0 else none, 30, false, 10⟩
    let transCache : TimedCache (Int × Int) :=
      ⟨fun k => if k.1 < 10 ∧ k.2 = 0 then some 0 else none, 15, false, 10⟩
    let info : PushMessageInfo := ⟨0, 0, 10, 0, []⟩
    let trans : OnlinePushTrans := ⟨10, 0, 0⟩
    ((pushReqExistsOn (TimedCache.ops 100) 0 reqCache info).1 = false ∧ 100 ≤ 110 ∧
        110 < 100 + reqCache.lifespan ∧
        (pushReqExistsOn (TimedCache.ops 110) 0
          (pushReqExistsOn (TimedCache.ops 100) 0 reqCache info).2 info).1 = true) ∧
      ((pushTransExistsOn (TimedCache.ops 100) 0 transCache trans).1 = false ∧ 100 ≤ 110 ∧
        110 < 100 + transCache.lifespan ∧
        (pushTransExistsOn (TimedCache.ops 110) 0
          (pushTransExistsOn (TimedCache.ops 100) 0 transCache trans).2 trans).1 = true) := by
  dsimp only
  have h := pushExists_recheck_suppressed 0 100 110
    ⟨fun k => if k.1 < 10 ∧ k.2 = 0 then some 0 else none, 30, false, 10⟩
    ⟨fun k => if k.1 < 10 ∧ k.2 = 0 then some 0 else none, 15, false, 10⟩
    ⟨0, 0, 10, 0, []⟩ ⟨10, 0, 0⟩
  exact ⟨⟨by decide, by decide, by decide, h.1 (by decide) (by decide) (by decide)⟩,
    by decide, by decide, by decide, h.2 (by decide) (by decide) (by decide)⟩

end Ricq.Client
