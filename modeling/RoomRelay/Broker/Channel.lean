import RoomRelay.Broker
import RoomRelay.Total

/-!
The broker inside the process. Every publish is offered at once to each live subscription whose
pattern selects its topic; a subscription that is full misses it, so that nobody waits for it.
-/
namespace RoomRelay

structure Subscription where
  pattern : String
  subscriber : String
  feed : Feed := {}
  /-- Whether the broker still has it in its table. -/
  routed : Bool := true
  deriving DecidableEq, Repr, Inhabited

namespace Subscription

def isLive (s : Subscription) : Bool :=
  s.routed && !s.feed.cancelled

/-- Takes a cancelled subscription out of the table, which ends its feed. -/
def prune (s : Subscription) : Subscription :=
  if s.routed && s.feed.cancelled then { s with routed := false, feed := s.feed.finish } else s

/-- Takes a subscription out of the table, whether cancelled or not. -/
def unroute (s : Subscription) : Subscription :=
  if s.routed then { s with routed := false, feed := s.feed.finish } else s

def isReached (s : Subscription) (topic : String) : Bool :=
  s.isLive && Topic.selects s.pattern topic

def deliver (d : Delivery) (s : Subscription) : Subscription :=
  if s.isReached d.topic then { s with feed := (s.feed.offer d).2 } else s

end Subscription

/-- Subscriptions and sessions by number, and whether the broker is closed. -/
structure Channel where
  closed : Bool := false
  subscriptions : List Subscription := []
  sessions : List Bool := []
  deriving DecidableEq, Repr, Inhabited

namespace Channel

def closedError : BrokerError := .connection "channel broker is closed"

def isOpen (c : Channel) (session : Nat) : Bool :=
  c.sessions.getD session false

def openSession (c : Channel) : Except BrokerError Nat × Channel :=
  if c.closed then (.error closedError, c)
  else (.ok c.sessions.length, { c with sessions := c.sessions ++ [true] })

def closeSession (c : Channel) (session : Nat) : Channel :=
  { c with sessions := c.sessions.set session false }

def subscribe (c : Channel) (session : Nat) (pattern : Key) (subscriber : String) :
    Except BrokerError Nat × Channel :=
  if !c.isOpen session then (.error (.subscribe "session is closed"), c)
  else if c.closed then (.error (.subscribe "channel broker is closed"), c)
  else
    (.ok c.subscriptions.length,
      { c with subscriptions := c.subscriptions ++ [{ pattern := pattern.encode, subscriber }] })

def prune (c : Channel) : Channel :=
  { c with subscriptions := c.subscriptions.map Subscription.prune }

def reached (c : Channel) (topic : String) : List Subscription :=
  c.subscriptions.filter fun s => s.isReached topic

/-- Offers a delivery to all it reaches. The answer is how many take it; each that is full is
noted. -/
def deliver (c : Channel) (d : Delivery) : Except BrokerError Nat × Channel × List Notice :=
  if c.closed then (.error closedError, c, [])
  else
    let targets := c.prune.reached d.topic
    (.ok (targets.countP fun s => !s.feed.isFull),
      { c.prune with subscriptions := c.prune.subscriptions.map (Subscription.deliver d) },
      (targets.filter fun s => s.feed.isFull).map fun _ => .lagging)

def publish (c : Channel) (session : Nat) (key : Key) (payload : List UInt8) :
    Except BrokerError Unit × Channel × List Notice :=
  if !c.isOpen session then (.error (.publish "session is closed"), c, [])
  else
    let (r, c, ns) := c.deliver ⟨key.encode, payload⟩
    (r.map fun _ => (), c, ns)

def liveOn (c : Channel) (pattern : Key) : List Subscription :=
  c.subscriptions.filter fun s => s.isLive && s.pattern == pattern.encode

def count (c : Channel) (pattern : Key) : Nat :=
  (c.liveOn pattern).length

def subscribersOf (c : Channel) (pattern : Key) : List String :=
  (c.liveOn pattern).map Subscription.subscriber

/-- How many subscriptions the table holds once cancelled ones are out of it. -/
def routeCount (c : Channel) : Nat × Channel :=
  (c.prune.subscriptions.countP Subscription.routed, c.prune)

/-- A number that was never given out stands for a cancelled subscription. -/
def feed (c : Channel) (sub : Nat) : Feed :=
  match c.subscriptions[sub]? with
  | some s => s.feed
  | none => { cancelled := true }

def setFeed (c : Channel) (sub : Nat) (f : Feed) : Channel :=
  { c with subscriptions := c.subscriptions.modify sub fun s => { s with feed := f } }

def receive (c : Channel) (sub : Nat) : Received × Channel :=
  ((c.feed sub).recv.1, c.setFeed sub (c.feed sub).recv.2)

def cancel (c : Channel) (sub : Nat) : Channel :=
  c.setFeed sub (c.feed sub).cancel

/-- Empties the table for good, which ends every live subscription. -/
def close (c : Channel) : Channel :=
  { c with closed := true, subscriptions := c.subscriptions.map Subscription.unroute }

def held (c : Channel) : Nat :=
  totalOf (fun s => s.feed.queue.length) c.subscriptions

instance : Broker Channel where
  openSession := openSession
  subscribe := subscribe
  planPublish _ _ := {}
  publish c _ session key payload := c.publish session key payload
  count c pattern := (.ok (some (c.count pattern)), c)
  receive := receive
  isCancelled c sub := (c.feed sub).cancelled
  cancel := cancel
  closeSession := closeSession
  dropSession c _ := c
  close := close
  settle c := c
  held := held

end Channel
end RoomRelay
