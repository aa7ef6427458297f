import RoomRelay.Broker.Channel

/-!
A broker for rehearsals. It passes everything on to a broker inside the process, keeps a record of
what is published, and has switches that make single operations fail or take time.
-/
namespace RoomRelay

structure Mock where
  channel : Channel := {}
  failSession : Bool := false
  failPublish : Bool := false
  failSubscribe : Bool := false
  failMembership : Bool := false
  failKinds : List Kind := []
  /-- How long a publish takes, in milliseconds. -/
  publishDelay : Option Nat := none
  published : List Delivery := []
  deriving DecidableEq, Repr, Inhabited

namespace Mock

def openSession (m : Mock) : Except BrokerError Nat × Mock :=
  if m.failSession then (.error (.connection "Mock session failure"), m)
  else
    let (r, channel) := m.channel.openSession
    (r, { m with channel })

def subscribe (m : Mock) (session : Nat) (pattern : Key) (subscriber : String) :
    Except BrokerError Nat × Mock :=
  if m.failSubscribe then (.error (.subscribe "Mock subscribe failure"), m)
  else
    let (r, channel) := m.channel.subscribe session pattern subscriber
    (r, { m with channel })

def failsKind (m : Mock) : KindFilter → Bool
  | .exact kind => m.failKinds.contains kind
  | .any => false

/-- The switches count as they are when a publish begins. -/
def planPublish (m : Mock) (key : Key) : PublishPlan :=
  ⟨m.publishDelay.getD 0, m.failPublish || m.failsKind key.kind⟩

def publish (m : Mock) (plan : PublishPlan) (session : Nat) (key : Key) (payload : List UInt8) :
    Except BrokerError Unit × Mock × List Notice :=
  if plan.refused then (.error (.publish "Mock publish failure"), m, [])
  else
    let (r, channel, ns) := m.channel.publish session key payload
    (r, { m with channel, published := m.published ++ [⟨key.encode, payload⟩] }, ns)

def count (m : Mock) (pattern : Key) : Except BrokerError (Option Nat) :=
  if m.failMembership then .error (.membership "Mock membership failure")
  else .ok (some (m.channel.count pattern))

def onChannel (m : Mock) (f : Channel → Channel) : Mock :=
  { m with channel := f m.channel }

def receive (m : Mock) (sub : Nat) : Received × Mock :=
  ((m.channel.receive sub).1, m.onChannel fun c => (c.receive sub).2)

def takePublished (m : Mock) : List Delivery × Mock :=
  (m.published, { m with published := [] })

instance : Broker Mock where
  openSession := openSession
  subscribe := subscribe
  planPublish := planPublish
  publish := publish
  count m pattern := (m.count pattern, m)
  receive := receive
  isCancelled m sub := (m.channel.feed sub).cancelled
  cancel m sub := m.onChannel fun c => c.cancel sub
  closeSession m session := m.onChannel fun c => c.closeSession session
  dropSession m _ := m
  close m := m.onChannel Channel.close
  settle m := m
  held m := m.channel.held

end Mock
end RoomRelay
