import RoomRelay.Event.Codec
import RoomRelay.Failure
import RoomRelay.Feed
import RoomRelay.Notice

/-!
What calls ask of a broker. Each call opens a session of its own, publishes and subscribes on it and
closes it; sessions and subscriptions are numbered as they are opened.
-/
namespace RoomRelay

/-- How a publish begins: how long it takes, in milliseconds, and whether it is bound to fail. -/
structure PublishPlan where
  delay : Nat := 0
  refused : Bool := false
  deriving DecidableEq, Repr

class Broker (β : Type) where
  openSession : β → Except BrokerError Nat × β
  subscribe : β → Nat → Key → String → Except BrokerError Nat × β
  planPublish : β → Key → PublishPlan
  /-- Ends a publish that was planned before. -/
  publish : β → PublishPlan → Nat → Key → List UInt8 → Except BrokerError Unit × β × List Notice
  /-- Number of live subscriptions on exactly one pattern, if the broker can tell. -/
  count : β → Key → Except BrokerError (Option Nat) × β
  receive : β → Nat → Received × β
  isCancelled : β → Nat → Bool
  cancel : β → Nat → β
  closeSession : β → Nat → β
  /-- Lets go of a session without closing it. -/
  dropSession : β → Nat → β
  close : β → β
  /-- Ends what goes on in the background once nothing else runs. -/
  settle : β → β
  held : β → Nat

def Event.message (e : Event) : Except BrokerError (Key × List UInt8) :=
  match e.key? with
  | some key => .ok (key, e.encode)
  | none => .error .unroutable

def Delivery.createdAt? (d : Delivery) : Option Int64 :=
  (Wire.Event.decode? d.payload).map Wire.Event.createdAt

end RoomRelay
