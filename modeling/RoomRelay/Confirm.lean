import RoomRelay.Failure
import RoomRelay.Notice

/-!
Confirmations of publishes. A session numbers its publishes from one and expects one confirmation
for each, in order and in time. Anything else leaves the session out of step, and it is not used
again.
-/
namespace RoomRelay

inductive Verdict where
  | confirmed (tag : Nat) (ack : Bool)
  | failed (e : BrokerError)
  deriving DecidableEq, Repr

/-- A verdict that arrives after some milliseconds, or none at all. -/
abbrev Confirmation := Option (Nat × Verdict)

structure ConfirmTracker where
  /-- How long to wait for a confirmation, in milliseconds. -/
  wait : Nat
  nextTag : Nat := 1
  poisoned : Bool := false
  deriving DecidableEq, Repr

structure Settled where
  result : Except BrokerError Nat
  tracker : ConfirmTracker
  elapsed : Nat
  notices : List Notice

namespace ConfirmTracker

def outOfSync : BrokerError := .publish "session is out of sync with the broker"

def check (t : ConfirmTracker) : Except BrokerError Unit :=
  if t.poisoned then .error outOfSync else .ok ()

/-- The verdict that arrives in time; one that arrives with the end of the wait does. -/
def inTime (t : ConfirmTracker) (c : Confirmation) : Option (Nat × Verdict) :=
  c.filter fun v => v.1 ≤ t.wait

def settle (t : ConfirmTracker) (c : Confirmation) : Settled :=
  if t.poisoned then ⟨.error outOfSync, t, 0, []⟩
  else
    let expected := t.nextTag
    let next := { t with nextTag := expected + 1 }
    let poisoned := { next with poisoned := true }
    match t.inTime c with
    | none => ⟨.error (.unconfirmed expected), poisoned, t.wait, [.confirmTimeout]⟩
    | some (after, .failed e) => ⟨.error e, poisoned, after, []⟩
    | some (after, .confirmed tag ack) =>
      if tag ≠ expected then
        ⟨.error (.outOfSequence expected tag), poisoned, after, [.confirmOutOfSequence]⟩
      else if ack then ⟨.ok expected, next, after, []⟩
      else ⟨.error (.rejected expected), next, after, [.publishRejected]⟩

end ConfirmTracker
end RoomRelay
