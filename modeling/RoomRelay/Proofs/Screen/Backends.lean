import Mathlib.Data.List.Basic
import RoomRelay.Proofs.Screen.Showing

/-!
`MemoryCache` and `RedisCache` side by side. The memory expires entries to the millisecond, the server
in whole seconds and after at least one. With the same whole seconds as TTL they answer alike; with a
TTL of zero they do not.
-/

namespace RoomRelay

namespace ScreenCache

inductive Op where
  | get (key : String)
  | set (key : String) (value : List UInt8)

inductive Answer where
  | got (r : Except CacheError (Option (List UInt8)))
  | kept (r : Except CacheError Unit)
  deriving DecidableEq

variable {κ : Type} [ScreenCache κ]

def apply (ttl : Nat) (cache : κ) (now : Nat) : Op → Answer × κ
  | .get key => (.got (get cache key now).1, (get cache key now).2)
  | .set key value => (.kept (set cache key value now ttl).1, (set cache key value now ttl).2)

def answers (ttl : Nat) : κ → List (Nat × Op) → List Answer
  | _, [] => []
  | cache, (now, op) :: ops =>
    (apply ttl cache now op).1 :: answers ttl (apply ttl cache now op).2 ops

end ScreenCache

/-- From `now` on both caches show the same, and the server `IsReliable`. -/
structure MemoryCache.Agrees (now : Nat) (m : MemoryCache) (r : RedisCache) : Prop where
  reliable : r.server.IsReliable
  shown : ∀ key later, now ≤ later → m.entries.shown key later = r.server.entries.shown key later

namespace MemoryCache.Agrees

open ScreenCache (Op apply answers)

variable {now : Nat} {m : MemoryCache} {r : RedisCache}

theorem mono (agrees : m.Agrees now r) {later : Nat} (after : now ≤ later) : m.Agrees later r :=
  ⟨agrees.reliable, fun key time beyond => agrees.shown key time (Nat.le_trans after beyond)⟩

theorem connect (settings : RedisSettings) {server : Redis.Server} (reliable : server.IsReliable)
    (empty : server.entries = []) : Agrees 0 {} (RedisCache.connect settings server) := by
  obtain ⟨commands, same⟩ := RedisCache.connect_server settings server
  refine ⟨?_, fun key later _ => ?_⟩
  · rw [same]
    exact reliable
  · rw [same, empty]

/-- One operation is answered alike by a memory with the server's TTL in whole seconds. -/
theorem apply (agrees : m.Agrees now r) (ttl : Nat) (op : Op) :
    (ScreenCache.apply (Redis.seconds ttl * 1000) m now op).1 = (ScreenCache.apply ttl r now op).1 ∧
      (ScreenCache.apply (Redis.seconds ttl * 1000) m now op).2.Agrees now
        (ScreenCache.apply ttl r now op).2 := by
  obtain ⟨reliable, shown⟩ := agrees
  cases op with
  | get key =>
    have server := RedisCache.get_reliable reliable key now
    refine ⟨?answer, ?state⟩
    case answer =>
      have memory := m.get_answer key now
      rw [shown key now (Nat.le_refl now)] at memory
      simp only [ScreenCache.apply, ScreenCache.get, server, Prod.map_fst, memory]
    case state =>
      simp only [ScreenCache.apply, ScreenCache.get, server, Prod.map_snd, id_eq]
      refine ⟨reliable, fun other later beyond => ?_⟩
      rw [m.get_shown key other beyond]
      exact shown other later beyond
  | set key value =>
    obtain ⟨answer, still, entries⟩ := RedisCache.set_reliable reliable key value now ttl
    refine ⟨?answer, still, fun other later beyond => ?_⟩
    case answer => simp only [ScreenCache.apply, ScreenCache.set, answer]
    simp only [ScreenCache.apply, ScreenCache.set]
    rw [entries, MemoryCache.set_shown, Entries.shown_insert, shown other later beyond]

theorem answers (agrees : m.Agrees now r) (ttl : Nat) {ops : List (Nat × Op)}
    (ordered : (now :: ops.map Prod.fst).Pairwise (· ≤ ·)) :
    ScreenCache.answers (Redis.seconds ttl * 1000) m ops = ScreenCache.answers ttl r ops := by
  induction ops generalizing now m r with
  | nil => rfl
  | cons timed ops ih =>
    obtain ⟨time, op⟩ := timed
    obtain ⟨first, rest⟩ := List.pairwise_cons.mp ordered
    obtain ⟨same, after⟩ := (agrees.mono (first time List.mem_cons_self)).apply ttl op
    rw [ScreenCache.answers, ScreenCache.answers, same, ih after rest]

end MemoryCache.Agrees

namespace ScreenCache

/-- With a TTL of zero nothing is ever shown. -/
theorem answers_of_no_ttl {m : MemoryCache} {now : Nat}
    (dark : ∀ key later, now ≤ later → m.entries.shown key later = none) {ops : List (Nat × Op)}
    (ordered : (now :: ops.map Prod.fst).Pairwise (· ≤ ·)) (value : List UInt8) :
    .got (.ok (some value)) ∉ answers 0 m ops := by
  induction ops generalizing now m with
  | nil => exact List.not_mem_nil
  | cons timed ops ih =>
    obtain ⟨time, op⟩ := timed
    obtain ⟨first, rest⟩ := List.pairwise_cons.mp ordered
    have after : now ≤ time := first time List.mem_cons_self
    rw [answers, List.mem_cons, not_or]
    cases op with
    | get key =>
      have nothing : (m.get key time).1 = none := (m.get_answer key time).trans (dark key time after)
      refine ⟨by simp [apply, get, nothing], ih (fun other later beyond => ?_) rest⟩
      exact (m.get_shown key other beyond).trans (dark other later (Nat.le_trans after beyond))
    | set key written =>
      refine ⟨by simp [apply], ih (fun other later beyond => ?_) rest⟩
      have ended : ¬later < time + 0 := Nat.not_lt.mpr beyond
      have shown := m.set_shown key other written time 0 later
      rwa [if_neg ended, dark other later (Nat.le_trans after beyond), ite_self] at shown

theorem seconds_ttlMs (s : CacheSettings) :
    Redis.seconds s.ttlMs = max 1 s.ttlSecs.toNat := by
  rw [Redis.seconds, CacheSettings.ttlMs, Nat.mul_div_cancel _ (by decide)]

/-- `RedisCache` over a reliable server answers as `MemoryCache` with a TTL of at least one second does.
For `ttlSecs ≠ 0` that is the TTL of the settings; for `ttlSecs = 0` a `MemoryCache` shows nothing. -/
theorem backends_answer_alike (s : CacheSettings) {server : Redis.Server}
    (reliable : server.IsReliable) (empty : server.entries = []) {ops : List (Nat × Op)}
    (ordered : (ops.map Prod.fst).Pairwise (· ≤ ·)) :
    answers (max 1 s.ttlSecs.toNat * 1000) ({} : MemoryCache) ops =
        answers s.ttlMs (RedisCache.connect s.redis server) ops ∧
      (s.ttlSecs ≠ 0 → answers s.ttlMs ({} : MemoryCache) ops =
        answers s.ttlMs (RedisCache.connect s.redis server) ops) ∧
      (s.ttlSecs = 0 → ∀ value, .got (.ok (some value)) ∉ answers s.ttlMs ({} : MemoryCache) ops) := by
  have from_zero : (0 :: ops.map Prod.fst).Pairwise (· ≤ ·) :=
    List.pairwise_cons.mpr ⟨fun _ _ => Nat.zero_le _, ordered⟩
  have alike := (MemoryCache.Agrees.connect s.redis reliable empty).answers s.ttlMs from_zero
  rw [seconds_ttlMs] at alike
  refine ⟨alike, ?kept, ?unkept⟩
  case kept =>
    intro kept
    have positive : 1 ≤ s.ttlSecs.toNat :=
      Nat.one_le_iff_ne_zero.mpr fun zero => kept (UInt64.toNat_inj.mp zero)
    rw [Nat.max_eq_right positive] at alike
    exact alike
  case unkept =>
    intro unkept value
    have none : s.ttlMs = 0 := by rw [CacheSettings.ttlMs, unkept]; rfl
    rw [none]
    exact answers_of_no_ttl (fun _ _ _ => rfl) from_zero value

/-- A screen that is overwritten stays for the second of the new one. -/
theorem backends_answer_alike_one_second :
    let s : CacheSettings := { ttlSecs := 1 }
    let ops : List (Nat × Op) :=
      [(0, .set "k" [1]), (600, .set "k" [2]), (1599, .get "k"), (1600, .get "k"), (1600, .get "j")]
    answers s.ttlMs (RedisCache.connect s.redis {}) ops =
      [.kept (.ok ()), .kept (.ok ()), .got (.ok (some [2])), .got (.ok none), .got (.ok none)] := by
  intro s ops
  rw [← (backends_answer_alike s ⟨rfl, rfl⟩ rfl (by decide)).2.1 (by decide)]
  decide

/-- `Settings.validate` accepts a TTL of zero, for which the server still shows a screen. -/
theorem backends_differ_at_zero :
    ¬∀ s : Settings, s.validate = .ok () →
      ∀ server : Redis.Server, server.IsReliable → server.entries = [] →
        ∀ ops : List (Nat × Op), (ops.map Prod.fst).Pairwise (· ≤ ·) →
          answers s.cache.ttlMs ({} : MemoryCache) ops =
            answers s.cache.ttlMs (RedisCache.connect s.cache.redis server) ops := by
  intro alike
  let s : Settings := { cache := { ttlSecs := 0 } }
  have same := alike s (by decide) {} ⟨rfl, rfl⟩ rfl [(0, .set "k" [1]), (0, .get "k")] (by decide)
  revert same
  decide

end ScreenCache
end RoomRelay
