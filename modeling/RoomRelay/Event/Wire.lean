import RoomRelay.Event

/-!
The record that carries an event between processes. It has a field for each payload, so it may hold
none, one or several; `Wire.Event.payload` is the only place where exactly one is required.
-/
namespace RoomRelay.Wire

structure Drawing where
  xs : List Sample := []
  ys : List Sample := []
  pressures : List Sample := []
  widths : List Sample := []
  color : Int32 := 0
  deriving DecidableEq, Repr, Inhabited

structure Event where
  createdAt : Int64 := 0
  byUser : String := ""
  inRoom : String := ""
  drawing : Option Drawing := none
  joined : Bool := false
  left : Bool := false
  users : Option UInt32 := none
  deriving DecidableEq, Repr, Inhabited

inductive PayloadError where
  | missing
  | ambiguous (count : Nat)
  | invisibleColor
  deriving DecidableEq, Repr

def PayloadError.message : PayloadError → String
  | missing => "event carries no payload"
  | ambiguous count => s!"event carries {count} payloads"
  | invisibleColor => "drawing color is invisible or unknown"

def Drawing.toDomain (d : Drawing) : Except PayloadError RoomRelay.Drawing :=
  match Color.ofCode? d.color with
  | some color => .ok ⟨d.xs, d.ys, d.pressures, d.widths, color⟩
  | none => .error .invisibleColor

def Drawing.ofDomain (d : RoomRelay.Drawing) : Drawing :=
  ⟨d.xs, d.ys, d.pressures, d.widths, d.color.code⟩

namespace Event

def payloadCount (e : Event) : Nat :=
  [e.drawing.isSome, e.joined, e.left, e.users.isSome].count true

def payload (e : Event) : Except PayloadError Payload :=
  match e.payloadCount with
  | 0 => .error .missing
  | 1 =>
    match e.drawing with
    | some d => d.toDomain.map Payload.drawing
    | none =>
      if e.joined then .ok .userJoined
      else if e.left then .ok .userLeft
      else
        match e.users with
        | some count => .ok (.occupancy count)
        | none => .error .missing
  | n => .error (.ambiguous n)

def toDomain (e : Event) : Except PayloadError RoomRelay.Event :=
  e.payload.map fun payload => ⟨e.createdAt, e.byUser, e.inRoom, payload⟩

def ofDomain (e : RoomRelay.Event) : Event :=
  let blank : Event := { createdAt := e.createdAt, byUser := e.byUser, inRoom := e.inRoom }
  match e.payload with
  | .drawing d => { blank with drawing := some (.ofDomain d) }
  | .userJoined => { blank with joined := true }
  | .userLeft => { blank with left := true }
  | .occupancy count => { blank with users := some count }

end Event
end RoomRelay.Wire
