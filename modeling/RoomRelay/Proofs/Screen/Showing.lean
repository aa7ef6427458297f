import RoomRelay.Screen.Redis

/-!
`Entries.shown` is all that can be observed of a cache. `get` answers it and keeps it for all later
times, though it may evict an entry.
-/

namespace RoomRelay

namespace Entries

def shown (es : Entries) (key : String) (now : Nat) : Option (List UInt8) :=
  ((es.lookup key).filter fun e => now < e.expires).map Entry.value

theorem lookup_erase_other (es : Entries) {key other : String} (apart : other ≠ key) :
    (es.erase key).lookup other = es.lookup other := by
  induction es with
  | nil => rfl
  | cons e es ih =>
    obtain ⟨name, entry⟩ := e
    unfold erase at ih ⊢
    by_cases same : name = key
    · subst same
      rw [List.filter_cons_of_neg (by simp), ih, List.lookup_cons, beq_false_of_ne apart]
    · rw [List.filter_cons_of_pos (by simpa using same), List.lookup_cons, List.lookup_cons, ih]

theorem lookup_erase_self (es : Entries) (key : String) : (es.erase key).lookup key = none := by
  apply List.lookup_eq_none_iff.mpr
  intro e member
  have other : e.1 ≠ key := bne_iff_ne.mp (List.mem_filter.mp member).2
  exact bne_iff_ne.mpr (Ne.symm other)

theorem lookup_insert (es : Entries) (key other : String) (e : Entry) :
    (es.insert key e).lookup other = if other = key then some e else es.lookup other := by
  by_cases same : other = key
  · rw [insert, List.lookup_cons, if_pos same, same, beq_self_eq_true]
  · rw [insert, List.lookup_cons, if_neg same, beq_false_of_ne same, lookup_erase_other es same]

theorem shown_of_lookup {es : Entries} {key : String} {e : Entry} (found : es.lookup key = some e)
    (now : Nat) : es.shown key now = if now < e.expires then some e.value else none := by
  rw [shown, found, Option.filter_some]
  by_cases fresh : now < e.expires <;> simp [fresh]

theorem shown_of_missing {es : Entries} {key : String} (missing : es.lookup key = none) (now : Nat) :
    es.shown key now = none := by
  rw [shown, missing]
  rfl

theorem shown_insert (es : Entries) (key other : String) (e : Entry) (now : Nat) :
    (es.insert key e).shown other now =
      if other = key then (if now < e.expires then some e.value else none) else es.shown other now := by
  by_cases same : other = key
  · rw [if_pos same]
    exact shown_of_lookup (by rw [lookup_insert, if_pos same]) now
  · rw [if_neg same, shown, lookup_insert, if_neg same, shown]

/-- Erasing an expired entry changes nothing that is shown. -/
theorem shown_erase_ended {es : Entries} {key : String} {e : Entry} (found : es.lookup key = some e)
    {now : Nat} (ended : e.expires ≤ now) (other : String) :
    (es.erase key).shown other now = es.shown other now := by
  by_cases same : other = key
  · rw [same, shown_of_missing (lookup_erase_self es key), shown_of_lookup found,
      if_neg (Nat.not_lt.mpr ended)]
  · rw [shown, lookup_erase_other es same, shown]

end Entries

namespace MemoryCache

theorem get_answer (m : MemoryCache) (key : String) (now : Nat) :
    (m.get key now).1 = m.entries.shown key now := by
  unfold get look
  cases found : m.entries.lookup key with
  | none => rw [Entries.shown_of_missing found]
  | some e =>
    rw [Entries.shown_of_lookup found]
    by_cases fresh : now < e.expires
    · simp only [if_pos fresh]
    · simp only [if_neg fresh]

/-- `get` may evict, but the cache shows the same from `now` on. -/
theorem get_shown (m : MemoryCache) (key other : String) {now later : Nat} (after : now ≤ later) :
    (m.get key now).2.entries.shown other later = m.entries.shown other later := by
  unfold get
  cases m.look key now with
  | fresh value => rfl
  | nothing => rfl
  | stale =>
    simp only [evict]
    cases found : m.entries.lookup key with
    | none => rfl
    | some e =>
      by_cases ended : e.expires ≤ now
      · simp only [if_pos ended]
        exact Entries.shown_erase_ended found (Nat.le_trans ended after) other
      · simp only [if_neg ended]

theorem set_shown (m : MemoryCache) (key other : String) (value : List UInt8) (now ttl later : Nat) :
    (m.set key value now ttl).entries.shown other later =
      if other = key then (if later < now + ttl then some value else none)
      else m.entries.shown other later :=
  Entries.shown_insert m.entries key other ⟨value, now + ttl⟩ later

end MemoryCache

namespace Redis.Server

/-- No command fails, and expired entries are forgotten. -/
def IsReliable (s : Server) : Prop := s.forgets = true ∧ s.failing = []

theorem IsReliable.fails {s : Server} (reliable : s.IsReliable) (c : Command) : s.fails c = false := by
  rw [Server.fails, reliable.2]
  rfl

theorem IsReliable.find? {s : Server} (reliable : s.IsReliable) (key : String) (now : Nat) :
    s.find? key now = s.entries.shown key now := by
  unfold Server.find? Entries.shown
  rw [reliable.1]
  simp

theorem foldl_record (cs : List Command) (s : Server) :
    cs.foldl record s = { s with commands := s.commands ++ cs } := by
  induction cs generalizing s with
  | nil => rw [List.foldl_nil, List.append_nil]
  | cons c cs ih => rw [List.foldl_cons, ih, record, List.append_assoc, List.singleton_append]

end Redis.Server

namespace RedisCache

/-- `connect` changes only the server's record of commands. -/
theorem connect_server (settings : RedisSettings) (server : Redis.Server) :
    ∃ commands, (connect settings server).server = { server with commands } := by
  rw [connect, Redis.Server.foldl_record]
  exact ⟨_, rfl⟩

variable {r : RedisCache}

theorem get_reliable (reliable : r.server.IsReliable) (key : String) (now : Nat) :
    r.get key now = (.ok (r.server.entries.shown key now), ⟨r.server.record (.get key)⟩) := by
  simp only [get, Redis.Server.answer, reliable.fails, reliable.find?, Bool.false_eq_true, if_false]

theorem set_reliable (reliable : r.server.IsReliable) (key : String) (value : List UInt8)
    (now ttl : Nat) :
    (r.set key value now ttl).1 = .ok () ∧ (r.set key value now ttl).2.server.IsReliable ∧
      (r.set key value now ttl).2.server.entries =
        r.server.entries.insert key ⟨value, now + Redis.seconds ttl * 1000⟩ := by
  simp only [set, Redis.Server.answer, reliable.fails, Bool.false_eq_true, if_false]
  exact ⟨rfl, reliable, trivial⟩

end RedisCache
end RoomRelay
