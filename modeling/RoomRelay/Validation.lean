import RoomRelay.Failure

/-!
Rules for events that clients send. Names end up as segments of topics and payloads reach other
members as they are, so every rule is checked here, in a fixed order, and the first broken one is
told.
-/
namespace RoomRelay

/-- Whether clients may send join and leave events themselves. -/
inductive StatusPolicy where
  | reject
  | allow
  deriving DecidableEq, Repr

structure SendRequest where
  event : Option Wire.Event
  rooms : List String
  deriving DecidableEq, Repr

namespace SendRequest

def firstRepeat : List String → Option String :=
  go []
where
  go (seen : List String) : List String → Option String
    | [] => none
    | room :: rooms => if room ∈ seen then some room else go (room :: seen) rooms

/-- Fields that the server fills in are unset. -/
def checkAssigned (e : Wire.Event) : Except BadRequest Unit :=
  if e.createdAt ≠ 0 then .error .createdAtSet
  else if e.byUser ≠ "" then .error .byUserSet
  else if e.inRoom ≠ "" then .error .inRoomSet
  else if e.users.isSome then .error .usersSet
  else .ok ()

/-- There is exactly one payload, of a kind that the policy lets clients send. -/
def checkPayloads (e : Wire.Event) (policy : StatusPolicy) : Except BadRequest Unit :=
  match e.payloadCount with
  | 0 => .error .noPayload
  | 1 => if (e.joined ∨ e.left) ∧ policy = .reject then .error .statusEvent else .ok ()
  | _ => .error .manyPayloads

/-- There is a room, none twice, and all rooms and the caller can be segments. -/
def checkNames (rooms : List String) (caller : String) : Except BadRequest Unit :=
  if rooms = [] then .error .noRooms
  else
    match firstRepeat rooms with
    | some room => .error (.duplicateRoom room)
    | none =>
      match rooms.find? fun room => !Topic.isSegment room with
      | some room => .error (.unsafeRoom room)
      | none => if Topic.isSegment caller then .ok () else .error .unsafeCaller

/-- A drawing can be seen, and its arrays have one length. -/
def checkDrawing (d : Wire.Drawing) : Except BadRequest Unit :=
  if (Color.ofCode? d.color).isNone then .error .invisibleColor
  else if (commonLength d.xs d.ys d.pressures d.widths).isNone then .error .drawingShape
  else .ok ()

def validate (req : SendRequest) (caller : String) (policy : StatusPolicy) :
    Except BadRequest Payload :=
  match req.event with
  | none => .error .noEvent
  | some e => do
    checkAssigned e
    checkPayloads e policy
    checkNames req.rooms caller
    match e.drawing with
    | some d => checkDrawing d
    | none => .ok ()
    match e.payload with
    | .ok payload => .ok payload
    | .error why => .error (.payload why)

end SendRequest
end RoomRelay
