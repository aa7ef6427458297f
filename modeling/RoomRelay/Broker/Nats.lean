import RoomRelay.Broker
import RoomRelay.Broker.Pump
import RoomRelay.Membership
import RoomRelay.Settings
import RoomRelay.Total

/-!
The broker behind a NATS connection, which all sessions share. Publishes are not confirmed, and how
many subscribe to a room is asked of the server's monitoring endpoint. What the server answers is
told by a script; what reaches it is kept as commands.
-/
namespace RoomRelay
namespace Nats

inductive Command where
  | refused
  | connect (credentials : Option (String × String))
  | publish (message : Delivery)
  | subscribe (subject : String)
  | unsubscribe (subject : String)
  | http (request : String)
  deriving DecidableEq, Repr

structure Script where
  /-- How many connections are closed at once. -/
  refuseConnections : Nat := 0
  maxPayload : Nat := 1048576
  monitorStatus : Nat := 200
  monitorBody : String := ""
  deriving DecidableEq, Repr

structure Subject where
  name : String
  pump : Pump := {}
  deriving DecidableEq, Repr, Inhabited

end Nats

open Nats in
structure Nats where
  settings : NatsSettings
  script : Script := {}
  sessions : List Bool := []
  subjects : List Subject := []
  /-- The subscriptions in the order in which the server ever heard of them. -/
  announced : List Nat := []
  commands : List Command := []
  requests : List Command := []
  cancels : List Command := []
  deriving DecidableEq, Repr

namespace Nats

def send (n : Nats) (c : Command) : Nats :=
  { n with commands := n.commands ++ [c] }

/-- Credentials are given only with a user. -/
def credentials (s : NatsSettings) : Option (String × String) :=
  if s.user = "" then none else some (s.user, s.password)

/-- Connects, trying again as often as the server refuses. -/
def connect (settings : NatsSettings) (script : Script) : Nats :=
  let greeting : List Command :=
    List.replicate script.refuseConnections .refused ++ [.connect (credentials settings)]
  { settings, script, commands := greeting }

def openSession (n : Nats) : Nat × Nats :=
  (n.sessions.length, { n with sessions := n.sessions ++ [true] })

def isOpen (n : Nats) (session : Nat) : Bool :=
  n.sessions.getD session false

def publish (n : Nats) (session : Nat) (key : Key) (payload : List UInt8) :
    Except BrokerError Unit × Nats :=
  if !n.isOpen session then (.error (.publish "session is closed"), n)
  else if n.script.maxPayload < payload.length then (.error (.publish "Failed to publish"), n)
  else (.ok (), n.send (.publish ⟨key.encode, payload⟩))

def subscribe (n : Nats) (session : Nat) (pattern : Key) : Except BrokerError Nat × Nats :=
  if !n.isOpen session then (.error (.subscribe "session is closed"), n)
  else
    let sub := n.subjects.length
    (.ok sub, { n.send (.subscribe pattern.encode) with
      subjects := n.subjects ++ [{ name := pattern.encode }]
      announced := n.announced ++ [sub] })

/-- Whether an answer with a status is a report. Some statuses are none at all, some tell of an
error, and some come without a body. -/
def isReport (status : Nat) : Bool :=
  200 ≤ status && status ≤ 999 && !(400 ≤ status && status < 600) && status ≠ 204 && status ≠ 304

def count (n : Nats) (pattern : Key) : Except BrokerError (Option Nat) × Nats :=
  match n.settings.monitorTarget? with
  | none => (.error (.membership "no such endpoint"), n)
  | some target =>
    let n := { n with requests := n.requests ++ [.http s!"GET {target} HTTP/1.1"] }
    if !isReport n.script.monitorStatus then
      (.error (.membership s!"status {n.script.monitorStatus}"), n)
    else
      match Membership.parse? n.script.monitorBody with
      | some m => (.ok (some (m.count pattern.encode)), n)
      | none => (.error (.membership "malformed report"), n)

def pump (n : Nats) (sub : Nat) : Pump :=
  match n.subjects[sub]? with
  | some s => s.pump
  | none => { feed := { cancelled := true }, attached := false }

def setPump (n : Nats) (sub : Nat) (p : Pump) : Nats :=
  { n with subjects := n.subjects.modify sub fun s => { s with pump := p } }

def receive (n : Nats) (sub : Nat) : Received × Nats :=
  ((n.pump sub).receive.1, n.setPump sub (n.pump sub).receive.2)

/-- A cancelled subscription tells the server so once. -/
def settle (n : Nats) : Nats :=
  { n with
    cancels := n.cancels ++
      (n.subjects.filter fun s => s.pump.attached && s.pump.feed.cancelled).map fun s =>
        .unsubscribe s.name
    subjects := n.subjects.map fun s =>
      if s.pump.feed.cancelled then { s with pump := s.pump.detach } else s }

/-! ### What the server does of its own accord -/

/-- The subscription behind one that the server heard of, counted from zero. -/
def announcedAs (n : Nats) (k : Nat) : Option Nat :=
  n.announced[k]?

/-- Whether a subscription is still the server's latest word of it. -/
def isCurrent (n : Nats) (k sub : Nat) : Bool :=
  !(n.announced.drop (k + 1)).contains sub

def serverDeliver (n : Nats) (k : Nat) (d : Delivery) : Nats :=
  match n.announcedAs k with
  | none => n
  | some sub =>
    if (n.pump sub).feed.cancelled || !n.isCurrent k sub then n
    else n.setPump sub ((n.pump sub).push d)

/-- The subscriptions that are taken up again on a new connection. -/
def lasting (n : Nats) : List Nat :=
  (List.range n.subjects.length).filter fun sub => (n.pump sub).attached

/-- Drops the connection; the client connects again and subscribes again. -/
def serverDisconnect (n : Nats) : Nats :=
  { n with
    commands := n.commands ++ .connect (credentials n.settings) ::
      n.lasting.map fun sub => .subscribe ((n.subjects[sub]?.map Subject.name).getD "")
    announced := n.announced ++ n.lasting }

/-- The commands since the last time: requests behind the others, and those from the background at
the end. -/
def takeCommands (n : Nats) : List Command × Nats :=
  (n.commands ++ n.requests ++ n.cancels, { n with commands := [], requests := [], cancels := [] })

instance : Broker Nats where
  openSession n := (.ok n.openSession.1, n.openSession.2)
  subscribe n session pattern _ := n.subscribe session pattern
  planPublish _ _ := {}
  publish n _ session key payload := ((n.publish session key payload).1,
    (n.publish session key payload).2, [])
  count := count
  receive := receive
  isCancelled n sub := (n.pump sub).feed.cancelled
  cancel n sub := n.setPump sub (n.pump sub).cancel
  closeSession n session := { n with sessions := n.sessions.set session false }
  dropSession n session := { n with sessions := n.sessions.set session false }
  close n := n
  settle := settle
  held n := totalOf (fun s => s.pump.held) n.subjects

end Nats
end RoomRelay
