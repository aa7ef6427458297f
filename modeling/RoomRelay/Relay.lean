import RoomRelay.Call
import RoomRelay.Identity

/-!
A relay turns the events of a room into the stream of one client. It subscribes, tells the room that
its user joined, tells the client how many there are, and forwards what others publish. However it
ends, it first cancels its subscription, then tells the room that its user left, then closes its
session.
-/
namespace RoomRelay

inductive Ending where
  /-- The client hung up or the service stops. -/
  | cancelled
  /-- The client was gone when something was to be sent. -/
  | peerGone
  | failed (e : Failure)
  deriving DecidableEq, Repr

inductive Relay.Phase where
  | opening
  | subscribing
  | joining (joined : Event)
  /-- The join could not be published; the subscription is cancelled and the session closed. -/
  | withdrawing (e : Failure)
  | abandoning (e : Failure)
  | refused (e : Failure)
  /-- Open, and not yet taken up by a stream. -/
  | joined
  | counting
  | announcing (occupancy : Event)
  | listening
  | forwarding (e : Wire.Event)
  | cancelling (why : Ending)
  | leaving (why : Ending) (left : Event)
  | closing (why : Ending)
  | reporting (e : Failure)
  | ended (why : Ending)
  deriving DecidableEq

structure Relay where
  user : String
  room : String
  session : Nat := 0
  subscription : Nat := 0
  phase : Relay.Phase := .opening
  relayed : Nat := 0
  excluded : Nat := 0
  skipped : Nat := 0
  deriving DecidableEq

namespace Relay

inductive State where
  | preparing
  | subscribed
  | streaming
  | closing
  | closed
  | failed
  deriving DecidableEq, Repr

def State.name : State → String
  | preparing => "Preparing"
  | subscribed => "Subscribed"
  | streaming => "Streaming"
  | closing => "Closing"
  | closed => "Closed"
  | failed => "Failed"

def state (r : Relay) : State :=
  match r.phase with
  | .opening | .subscribing | .joining _ => .preparing
  | .withdrawing _ | .abandoning _ | .refused _ => .failed
  | .joined => .subscribed
  | .counting | .announcing _ | .listening | .forwarding _ => .streaming
  | .cancelling _ | .leaving .. | .closing _ | .reporting _ => .closing
  | .ended .cancelled => .closed
  | .ended _ => .failed

def start (scope : Scope) (room : String) : Except Failure Relay :=
  match scope.requireUser with
  | .error e => .error (.forbidden e)
  | .ok user => if Topic.isSegment room then .ok { user, room } else .error (.badRequest .badRoom)

def pattern (r : Relay) : Key :=
  Key.roomPattern r.room

def event (r : Relay) (at_ : Int64) (payload : Payload) : Event :=
  ⟨at_, r.user, r.room, payload⟩

inductive Step where
  | forward (e : Wire.Event)
  | exclude
  | skip
  | fail (e : Failure)
  deriving DecidableEq

/-- The event behind the bytes of a delivery, in the form in which it is sent on. -/
def decode (payload : List UInt8) : Except Undecodable Wire.Event :=
  match Wire.Event.decode? payload with
  | none => .error .bytes
  | some wire =>
    match wire.toDomain with
    | .ok e => .ok (Wire.Event.ofDomain e)
    | .error why => .error (.payload why)

/-- The topic is read first, then the user's own deliveries are left out, then the bytes are read. -/
def step (user : String) (d : Delivery) : Step :=
  match Key.decode d.topic with
  | .error e => .fail (.routing e)
  | .ok key =>
    if key.user = user then .exclude
    else
      match decode d.payload with
      | .ok e => .forward e
      | .error _ => .skip

def act (r : Relay) : Act :=
  match r.phase with
  | .opening => .openSession
  | .subscribing => .subscribe r.session r.pattern r.user
  | .joining joined => .publish r.session joined
  | .withdrawing _ => .cancel r.subscription
  | .abandoning _ => .closeSession r.session
  | .refused _ => .rest
  | .joined => .rest
  | .counting => .count r.pattern
  | .announcing occupancy => .offer (.ok (Wire.Event.ofDomain occupancy))
  | .listening => .listen r.subscription
  | .forwarding e => .offer (.ok e)
  | .cancelling _ => .cancel r.subscription
  | .leaving _ left => .publish r.session left
  | .closing _ => .closeSession r.session
  | .reporting e => .offer (.error e.status)
  | .ended _ => .rest

def enter (r : Relay) (phase : Phase) : Relay :=
  { r with phase }

def hear (r : Relay) (d : Delivery) : Relay × List Notice :=
  match step r.user d with
  | .forward e => (r.enter (.forwarding e), [])
  | .exclude => ({ r with excluded := r.excluded + 1 }, [])
  | .skip => ({ r with skipped := r.skipped + 1 }, [.undecodableDelivery])
  | .fail e => (r.enter (.cancelling (.failed e)), [])

def conclude (r : Relay) : Ending → Relay × List Notice
  | .failed e => (r.enter (.reporting e), [.relayFailed])
  | why => (r.enter (.ended why), [])

/-- The relay after a reply; `now` is the time for an event that it makes then. -/
def resume (r : Relay) (now : Int64) (reply : Reply) : Relay × List Notice :=
  match r.phase, reply with
  | .opening, .session (.ok session) => ({ r with session, phase := .subscribing }, [])
  | .opening, .session (.error e) => (r.enter (.refused (.broker e)), [])
  | .subscribing, .subscription (.ok subscription) =>
    ({ r with subscription, phase := .joining (r.event now .userJoined) }, [])
  | .subscribing, .subscription (.error e) => (r.enter (.abandoning (.broker e)), [])
  | .joining _, .published (.ok _) => (r.enter .joined, [])
  | .joining _, .published (.error e) => (r.enter (.withdrawing (.broker e)), [])
  | .withdrawing e, .done => (r.enter (.abandoning e), [])
  | .abandoning e, .done => (r.enter (.refused e), [])
  | .counting, .counted (.ok (some count)) =>
    (r.enter (.announcing (r.event now (.occupancy count.toUInt32))), [])
  | .counting, .counted (.ok none) => (r.enter .listening, [])
  | .counting, .counted (.error _) => (r.enter .listening, [.membershipFailed])
  | .announcing _, .taken => (r.enter .listening, [])
  | .announcing _, .peerGone => (r.enter (.cancelling .peerGone), [])
  | .listening, .peerGone => (r.enter (.cancelling .cancelled), [])
  | .listening, .stopping => (r.enter (.cancelling .cancelled), [])
  | .listening, .delivery d => r.hear d
  | .listening, .feedOver =>
    (r.enter (.cancelling (.failed (.broker (.subscribe "subscription ended")))), [])
  | .forwarding _, .taken => ({ r with relayed := r.relayed + 1, phase := .listening }, [])
  | .forwarding _, .peerGone => (r.enter (.cancelling .peerGone), [])
  | .cancelling why, .done => (r.enter (.leaving why (r.event now .userLeft)), [])
  | .leaving why _, .published (.ok _) => (r.enter (.closing why), [])
  | .leaving why _, .published (.error _) => (r.enter (.closing why), [.leaveFailed])
  | .closing why, .done => r.conclude why
  | .reporting e, .taken => (r.enter (.ended (.failed e)), [])
  | .reporting e, .peerGone => (r.enter (.ended (.failed e)), [])
  | _, _ => (r, [])

def run (r : Relay) : Relay :=
  r.enter .counting

def isOpening (r : Relay) : Bool :=
  match r.phase with
  | .opening | .subscribing | .joining _ | .withdrawing _ | .abandoning _ => true
  | _ => false

/-- The call is dropped while the relay is opening; nobody is told the failure. -/
def abandon (r : Relay) : Relay :=
  r.enter (.refused .deadlineExceeded)

/-- What the broker loses with a relay that is dropped while it `isOpening`. -/
def letGo {β : Type} [Broker β] (r : Relay) (b : β) : β :=
  match r.phase with
  | .subscribing | .abandoning _ => Broker.dropSession b r.session
  | .joining _ | .withdrawing _ => Broker.dropSession (Broker.cancel b r.subscription) r.session
  | _ => b

/-- How many events a relay still publishes at most: its join and its leave. -/
def publishesLeft (r : Relay) : Nat :=
  match r.phase with
  | .opening | .subscribing | .joining _ => 2
  | .joined | .counting | .announcing _ | .listening | .forwarding _ => 1
  | .cancelling _ | .leaving .. => 1
  | _ => 0

/-- A bound on the steps of a relay besides those for deliveries, of which each takes two. -/
def phaseBound : Nat := 16

/-- The status that was sent to the client, if the relay ended with one. -/
def error (r : Relay) : Option Status :=
  match r.phase with
  | .ended (.failed e) => some e.status
  | _ => none

def isEnded (r : Relay) : Bool :=
  match r.phase with
  | .ended _ => true
  | _ => false

end Relay
end RoomRelay
