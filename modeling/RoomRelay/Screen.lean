import RoomRelay.Identity

/-!
Screens: the latest image of each room, kept for a limited time. Everybody may look at a screen; to
send one takes an identity.
-/
namespace RoomRelay

def screenKey (room : String) : String :=
  "ScreenSharing-" ++ room

/-- Bytes by key, each with an end. Times are milliseconds. -/
class ScreenCache (κ : Type) where
  get : κ → String → Nat → Except CacheError (Option (List UInt8)) × κ
  set : κ → String → List UInt8 → Nat → Nat → Except CacheError Unit × κ

structure ScreenService where
  /-- How long a call with one answer may take. -/
  callLimit : Nat := 500
  /-- How long a screen is kept. -/
  ttl : Nat := 86400000
  deriving DecidableEq, Repr

namespace ScreenService

variable {κ : Type} [ScreenCache κ]

def checkRoom (room : String) : Except Failure Unit :=
  if Topic.isSegment room then .ok () else .error (.badRequest .badRoom)

def checkSend (s : ScreenService) (now : Nat) (headers : Headers) (room : String)
    (png : List UInt8) : Except Failure Unit :=
  match Scope.prepare headers {} now s.callLimit with
  | .error e => .error (.forbidden e)
  | .ok scope =>
    match scope.requireUser with
    | .error e => .error (.forbidden e)
    | .ok _ =>
      match checkRoom room with
      | .error e => .error e
      | .ok _ => if png = [] then .error (.badRequest .emptyScreen) else .ok ()

/-- Keeps a screen for its room. Keeping it takes no time, so that the deadline never passes. -/
def sendScreen (s : ScreenService) (cache : κ) (now : Nat) (headers : Headers) (room : String)
    (png : List UInt8) : Except Failure Unit × κ :=
  match s.checkSend now headers room png with
  | .error e => (.error e, cache)
  | .ok _ =>
    let (r, cache) := ScreenCache.set cache (screenKey room) png now s.ttl
    (r.mapError .cache, cache)

/-- The screen of a room, empty if there is none. -/
def recvScreen (cache : κ) (now : Nat) (room : String) : Except Failure (List UInt8) × κ :=
  match checkRoom room with
  | .error e => (.error e, cache)
  | .ok _ =>
    let (r, cache) := ScreenCache.get cache (screenKey room) now
    ((r.map fun v => v.getD []).mapError .cache, cache)

end ScreenService
end RoomRelay
