import RoomRelay.Call
import RoomRelay.Identity
import RoomRelay.Validation

/-!
One event on its way to a list of rooms. All copies are published on one session and carry one time;
the first publish that fails ends the call, and the session is closed whatever happened.
-/
namespace RoomRelay

inductive Sending.Phase where
  | opening
  /-- About to publish to the first of the rooms that are left. -/
  | publishing (session : Nat) (createdAt : Int64) (room : String) (rooms : List String)
  | closing (session : Nat) (result : Except Failure Unit)
  | over (result : Except Failure Unit)

structure Sending where
  user : String
  rooms : List String
  payload : Payload
  phase : Sending.Phase := .opening

namespace Sending

def start (headers : Headers) (req : SendRequest) (policy : StatusPolicy) (now limit : Nat) :
    Except Failure (Scope × Sending) :=
  match Scope.prepare headers {} now limit with
  | .error e => .error (.forbidden e)
  | .ok scope =>
    match scope.requireUser with
    | .error e => .error (.forbidden e)
    | .ok user =>
      match req.validate user policy with
      | .error e => .error (.badRequest e)
      | .ok payload => .ok (scope, { user, rooms := req.rooms, payload })

def event (s : Sending) (createdAt : Int64) (room : String) : Event :=
  ⟨createdAt, s.user, room, s.payload⟩

def act (s : Sending) : Act :=
  match s.phase with
  | .opening => .openSession
  | .publishing session createdAt room _ => .publish session (s.event createdAt room)
  | .closing session _ => .closeSession session
  | .over _ => .rest

def enter (s : Sending) (phase : Phase) : Sending :=
  { s with phase }

def proceed (s : Sending) (session : Nat) (createdAt : Int64) : List String → Sending
  | [] => s.enter (.closing session (.ok ()))
  | room :: rooms => s.enter (.publishing session createdAt room rooms)

/-- The sending after a reply; `now` becomes the time of the event when the session is open. -/
def resume (s : Sending) (now : Int64) (reply : Reply) : Sending :=
  match s.phase, reply with
  | .opening, .session (.ok session) => s.proceed session now s.rooms
  | .opening, .session (.error e) => s.enter (.over (.error (.broker e)))
  | .publishing session createdAt _ rooms, .published (.ok _) =>
    s.proceed session createdAt rooms
  | .publishing session _ _ _, .published (.error e) =>
    s.enter (.closing session (.error (.broker e)))
  | .closing _ result, .done => s.enter (.over result)
  | _, _ => s

def publishesLeft (s : Sending) : Nat :=
  match s.phase with
  | .opening => s.rooms.length
  | .publishing _ _ _ rooms => rooms.length + 1
  | _ => 0

/-- A bound on the steps of a sending: two for each publish, and one each to open and to close. -/
def stepBound (s : Sending) : Nat :=
  2 * s.publishesLeft + 4

def session? (s : Sending) : Option Nat :=
  match s.phase with
  | .publishing session _ _ _ | .closing session _ => some session
  | _ => none

def abandon (s : Sending) : Sending :=
  s.enter (.over (.error .deadlineExceeded))

def result? (s : Sending) : Option (Except Failure Unit) :=
  match s.phase with
  | .over r => some r
  | _ => none

end Sending
end RoomRelay
