import RoomRelay.Feed

/-!
What a server sent for one subscription: deliveries go into the subscription's queue one after the
other, and those for which there is no room yet wait in front of it.
-/
namespace RoomRelay

structure Pump where
  feed : Feed := {}
  waiting : List Delivery := []
  passed : Nat := 0
  attached : Bool := true
  deriving DecidableEq, Repr, Inhabited

namespace Pump

/-- Puts deliveries into the queue while there is room: the queue, what is left, and how many went
in. -/
def pour (feed : Feed) : List Delivery → Feed × List Delivery × Nat
  | [] => (feed, [], 0)
  | d :: rest =>
    match feed.offer d with
    | (.accepted, feed) =>
      let (feed, left, n) := pour feed rest
      (feed, left, n + 1)
    | (_, feed) => (feed, d :: rest, 0)

def flow (p : Pump) : Pump :=
  if p.attached then
    let (feed, waiting, n) := pour p.feed p.waiting
    { p with feed, waiting, passed := p.passed + n }
  else p

/-- How many deliveries were taken from the server: those passed on and one that waits for room. -/
def taken (p : Pump) : Nat :=
  p.passed + min 1 p.waiting.length

def push (p : Pump) (d : Delivery) : Pump :=
  if p.attached then { p with waiting := p.waiting ++ [d] }.flow else p

def receive (p : Pump) : Received × Pump :=
  (p.feed.recv.1, { p with feed := p.feed.recv.2 }.flow)

def held (p : Pump) : Nat :=
  p.feed.queue.length + p.waiting.length

def cancel (p : Pump) : Pump :=
  { p with feed := p.feed.cancel }

/-- Nothing more comes in. What is queued can still be taken. -/
def detach (p : Pump) : Pump :=
  if p.attached then { p with attached := false, waiting := [], feed := p.feed.finish } else p

end Pump
end RoomRelay
