import RoomRelay.Call

/-!
The stream of one client: items wait for the client in a buffer of fixed size, and whoever has more
to send waits for room. A client that hung up takes nothing more.
-/
namespace RoomRelay

structure Stream where
  capacity : Nat
  queue : List Item := []
  hungUp : Bool := false

namespace Stream

def serviceCapacity : Nat := 32

/-- Puts an item in. The reply is missing while there is no room. -/
def offer (s : Stream) (item : Item) : Option Reply × Stream :=
  if s.hungUp then (some .peerGone, s)
  else if s.queue.length < s.capacity then (some .taken, { s with queue := s.queue ++ [item] })
  else (none, s)

def read (s : Stream) : Option (Item × Stream) :=
  match s.queue with
  | item :: rest => some (item, { s with queue := rest })
  | [] => none

def hangUp (s : Stream) : Stream :=
  { s with hungUp := true, queue := [] }

end Stream
end RoomRelay
