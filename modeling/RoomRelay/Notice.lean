import RoomRelay.Log
import RoomRelay.Text.Elapsed

/-! What the service notes for its operators besides the answers that it gives. -/
namespace RoomRelay

inductive Notice where
  | emptyField
  | unparseableVariable (name value : String)
  | lagging
  | publishRejected
  | confirmTimeout
  | confirmOutOfSequence
  | relayFailed
  | leaveFailed
  | membershipFailed
  | undecodableDelivery
  /-- An attempt failed and another follows after the delay, in nanoseconds. -/
  | retrying (service : String) (attempt attempts : Nat) (reason : String) (delay : Nat)
  | gaveUp (service : String) (attempts : Nat) (reason : String)
  deriving DecidableEq, Repr

namespace Notice

def level : Notice → LogLevel
  | confirmTimeout | confirmOutOfSequence | gaveUp .. => .error
  | _ => .warn

def text : Notice → String
  | emptyField => "empty field in routing key"
  | unparseableVariable _ _ => "Ignoring unparseable environment variable"
  | lagging => "Subscriber lagging, dropped delivery"
  | publishRejected => "broker rejected publish"
  | confirmTimeout => "publish confirmation timed out"
  | confirmOutOfSequence => "publish confirmation out of sequence"
  | relayFailed => "Relay failed"
  | leaveFailed => "Failed to publish leave"
  | membershipFailed => "Membership query failed, skipping count"
  | undecodableDelivery => "Skipping undecodable delivery"
  | retrying service attempt attempts reason delay =>
    s!"Failed to connect to {service} (attempt {attempt}/{attempts}): {reason}. " ++
      s!"Retrying in {Text.elapsed delay}..."
  | gaveUp service attempts reason =>
    s!"Failed to connect to {service} after {attempts} attempts: {reason}"

def line (n : Notice) : String :=
  n.level.name ++ " " ++ n.text

end Notice
end RoomRelay
