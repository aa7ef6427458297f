import RoomRelay.Key

/-!
Subscriptions as bounded queues of deliveries. A feed puts deliveries in, a subscription takes them
out in the same order; either half may go first. Once cancelled a queue takes and gives nothing
more.
-/
namespace RoomRelay

structure Delivery where
  topic : String
  payload : List UInt8
  deriving DecidableEq, Repr

def subscriptionCapacity : Nat := 64

structure Feed where
  queue : List Delivery := []
  cancelled : Bool := false
  /-- The feeding half is gone, so nothing more comes in. -/
  ended : Bool := false
  deriving DecidableEq, Repr, Inhabited

inductive Offer where
  | accepted
  | full
  | gone
  deriving DecidableEq, Repr

def Offer.name : Offer → String
  | accepted => "Accepted"
  | full => "Full"
  | gone => "Gone"

inductive Received where
  | delivery (d : Delivery)
  | pending
  | over
  deriving DecidableEq, Repr

namespace Feed

def isFull (f : Feed) : Bool :=
  f.queue.length ≥ subscriptionCapacity

def offer (f : Feed) (d : Delivery) : Offer × Feed :=
  if f.cancelled then (.gone, f)
  else if f.isFull then (.full, f)
  else (.accepted, { f with queue := f.queue ++ [d] })

/-- Puts a delivery in, waiting for room. The answer is whether it went in; there is none while the
queue is full, and then the feed is as before. -/
def send (f : Feed) (d : Delivery) : Option Bool × Feed :=
  match f.offer d with
  | (.accepted, f') => (some true, f')
  | (.gone, f') => (some false, f')
  | (.full, f') => (none, f')

def recv (f : Feed) : Received × Feed :=
  if f.cancelled then (.over, f)
  else
    match f.queue with
    | d :: rest => (.delivery d, { f with queue := rest })
    | [] => (if f.ended then .over else .pending, f)

def cancel (f : Feed) : Feed :=
  { f with cancelled := true }

/-- The feeding half goes away. What is queued can still be taken. -/
def finish (f : Feed) : Feed :=
  { f with ended := true }

end Feed
end RoomRelay
