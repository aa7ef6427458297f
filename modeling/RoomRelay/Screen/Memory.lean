import RoomRelay.Screen

/-!
Screens in memory. A look-up takes three steps that others may come between: it reads the clock, it
looks, and if what it finds has ended it takes that out, unless something newer is there by then.
-/
namespace RoomRelay

/-- Bytes and the moment from which on they count as gone. -/
structure Entry where
  value : List UInt8
  expires : Nat
  deriving DecidableEq, Repr

/-- Entries by key, each key once. -/
abbrev Entries := List (String × Entry)

namespace Entries

def erase (es : Entries) (key : String) : Entries :=
  es.filter fun e => e.1 != key

def insert (es : Entries) (key : String) (e : Entry) : Entries :=
  (key, e) :: es.erase key

end Entries

structure MemoryCache where
  entries : Entries := []
  deriving DecidableEq, Repr, Inhabited

namespace MemoryCache

inductive Found where
  | fresh (value : List UInt8)
  | stale
  | nothing
  deriving DecidableEq, Repr

/-- Looks for a key, judging by a clock that was read before. -/
def look (m : MemoryCache) (key : String) (clock : Nat) : Found :=
  match m.entries.lookup key with
  | some e => if clock < e.expires then .fresh e.value else .stale
  | none => .nothing

def evict (m : MemoryCache) (key : String) (clock : Nat) : MemoryCache :=
  match m.entries.lookup key with
  | some e => if e.expires ≤ clock then { m with entries := m.entries.erase key } else m
  | none => m

def get (m : MemoryCache) (key : String) (now : Nat) : Option (List UInt8) × MemoryCache :=
  match m.look key now with
  | .fresh value => (some value, m)
  | .stale => (none, m.evict key now)
  | .nothing => (none, m)

def set (m : MemoryCache) (key : String) (value : List UInt8) (now ttl : Nat) : MemoryCache :=
  { m with entries := m.entries.insert key ⟨value, now + ttl⟩ }

instance : ScreenCache MemoryCache where
  get m key now := ((m.get key now).map .ok id)
  set m key value now ttl := (.ok (), m.set key value now ttl)

end MemoryCache
end RoomRelay
