import RoomRelay.Event.Wire

/-!
What can go wrong in a call, as causes with one wording each, and the status that a client is told.
A status says less than the failure: names of users and details of the backends stay inside.
-/
namespace RoomRelay

inductive BrokerError where
  | connection (reason : String)
  | publish (reason : String)
  | rejected (tag : Nat)
  | unconfirmed (tag : Nat)
  | outOfSequence (expected got : Nat)
  | unroutable
  | subscribe (reason : String)
  | membership (reason : String)
  deriving DecidableEq, Repr

def BrokerError.message : BrokerError → String
  | connection reason => "Connection failed: " ++ reason
  | publish reason => "Publish failed: " ++ reason
  | rejected tag => s!"Broker nack-ed message #{tag}"
  | unconfirmed tag => s!"No ack for message #{tag} within the confirm wait"
  | outOfSequence expected got => s!"Expected delivery tag {expected}, got {got}"
  | unroutable => "Event has no routing kind"
  | subscribe reason => "Subscribe failed: " ++ reason
  | membership reason => "Membership query failed: " ++ reason

inductive CacheError where
  | connection (reason : String)
  | command (reason : String)
  deriving DecidableEq, Repr

def CacheError.message : CacheError → String
  | connection reason => "Connection failed: " ++ reason
  | command reason => "Redis error: " ++ reason

inductive BadRequest where
  | noEvent
  | createdAtSet
  | byUserSet
  | inRoomSet
  | usersSet
  | noPayload
  | manyPayloads
  | statusEvent
  | noRooms
  | duplicateRoom (room : String)
  | unsafeRoom (room : String)
  | unsafeCaller
  | invisibleColor
  | drawingShape
  | payload (e : Wire.PayloadError)
  /-- The room of a stream or a screen cannot be a segment. -/
  | badRoom
  | emptyScreen
  | other (reason : String)
  deriving DecidableEq, Repr

namespace BadRequest

def roomReason : String := "room id is empty or contains reserved characters"

def reason : BadRequest → String
  | noEvent => "event is required"
  | createdAtSet => "created_at is assigned by the server"
  | byUserSet => "by_user_id is assigned by the server"
  | inRoomSet => "in_room_id is assigned by the server"
  | usersSet => "users_in_the_room is assigned by the server"
  | noPayload => "event carries no payload"
  | manyPayloads => "event carries more than one payload"
  | statusEvent => "join/leave events are emitted by the server"
  | noRooms => "at least one room is required"
  | duplicateRoom room => "room listed more than once: " ++ Text.quoted room
  | unsafeRoom room => roomReason ++ ": " ++ Text.quoted room
  | unsafeCaller => "caller id contains reserved characters"
  | invisibleColor => "drawing color must be visible"
  | drawingShape => "drawing xs, ys, pressures and widths must have the same non-zero length"
  | payload e => e.message
  | badRoom => roomReason
  | emptyScreen => "screen image is empty"
  | other reason => reason

end BadRequest

inductive Forbidden where
  | missing
  | repeated
  | notPrintable
  | empty
  | padded
  | reserved
  | anonymous
  | other (reason : String)
  deriving DecidableEq, Repr

def Forbidden.reason : Forbidden → String
  | missing => "missing identity"
  | repeated => "identity given more than once"
  | notPrintable => "identity is not printable ASCII"
  | empty => "empty identity"
  | padded => "identity has surrounding whitespace"
  | reserved => "identity contains reserved characters"
  | anonymous => "call requires an identity"
  | other reason => reason

inductive Undecodable where
  | bytes
  | payload (e : Wire.PayloadError)
  | other (reason : String)
  deriving DecidableEq, Repr

def Undecodable.reason : Undecodable → String
  | bytes => "malformed record"
  | payload e => e.message
  | other reason => reason

inductive Failure where
  | badRequest (why : BadRequest)
  | forbidden (why : Forbidden)
  | deadlineExceeded
  | broker (e : BrokerError)
  | routing (e : KeyError)
  | undecodable (why : Undecodable)
  | cache (e : CacheError)
  deriving DecidableEq, Repr

def Failure.message : Failure → String
  | badRequest why => "bad request: " ++ why.reason
  | forbidden why => "forbidden: " ++ why.reason
  | deadlineExceeded => "deadline exceeded"
  | broker e => e.message
  | routing e => e.message
  | undecodable why => "payload decode failed: " ++ why.reason
  | cache e => e.message

inductive Code where
  | invalidArgument
  | permissionDenied
  | deadlineExceeded
  | unavailable
  | internal
  | dataLoss
  deriving DecidableEq, Repr

def Code.name : Code → String
  | invalidArgument => "InvalidArgument"
  | permissionDenied => "PermissionDenied"
  | deadlineExceeded => "DeadlineExceeded"
  | unavailable => "Unavailable"
  | internal => "Internal"
  | dataLoss => "DataLoss"

structure Status where
  code : Code
  message : String
  deriving DecidableEq, Repr

/-- The status of a failure. Only a bad request is told its reason. -/
def Failure.status : Failure → Status
  | badRequest why => ⟨.invalidArgument, why.reason⟩
  | forbidden _ => ⟨.permissionDenied, "forbidden"⟩
  | deadlineExceeded => ⟨.deadlineExceeded, "deadline exceeded"⟩
  | broker _ => ⟨.unavailable, "Event broker temporarily unavailable"⟩
  | routing _ => ⟨.internal, "corrupted routing key"⟩
  | undecodable _ => ⟨.dataLoss, "undecodable event"⟩
  | cache _ => ⟨.unavailable, "Screen cache temporarily unavailable"⟩

end RoomRelay
