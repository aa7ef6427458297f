import RoomRelay.Broker

/-!
Calls as machines. A call in progress says what it does next and goes on with the reply it gets, so
that calls may be interleaved step by step, over any broker.
-/
namespace RoomRelay

/-- What a client's stream carries: events, and at its end perhaps a failure. -/
abbrev Item := Except Status Wire.Event

inductive Act where
  | openSession
  | subscribe (session : Nat) (pattern : Key) (subscriber : String)
  | publish (session : Nat) (event : Event)
  | count (pattern : Key)
  | cancel (subscription : Nat)
  | closeSession (session : Nat)
  /-- Puts an item into the client's stream, waiting for room. -/
  | offer (item : Item)
  /-- Waits until the client is gone, the service stops or a subscription has something to give. -/
  | listen (subscription : Nat)
  /-- Nothing: the call is over or waits to be taken up again. -/
  | rest

/-- What may end the wait of `Act.listen`. -/
inductive Signal where
  | client
  | service
  | subscription
  deriving DecidableEq, Repr

/-- The order in which signals are polled, from any of them on. -/
def Signal.round : Signal → List Signal
  | client => [client, service, subscription]
  | service => [service, subscription, client]
  | subscription => [subscription, client, service]

inductive Reply where
  | session (r : Except BrokerError Nat)
  | subscription (r : Except BrokerError Nat)
  | published (r : Except BrokerError Unit)
  | counted (r : Except BrokerError (Option Nat))
  | done
  | taken
  | peerGone
  | stopping
  | delivery (d : Delivery)
  | feedOver

def Act.admits : Act → Reply → Bool
  | openSession, .session _ => true
  | subscribe .., .subscription _ => true
  | publish .., .published _ => true
  | count _, .counted _ => true
  | cancel _, .done => true
  | closeSession _, .done => true
  | offer _, .taken => true
  | offer _, .peerGone => true
  | listen _, .peerGone => true
  | listen _, .stopping => true
  | listen _, .delivery _ => true
  | listen _, .feedOver => true
  | _, _ => false

end RoomRelay
