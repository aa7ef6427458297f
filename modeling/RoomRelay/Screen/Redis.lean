import RoomRelay.Screen.Memory
import RoomRelay.Settings

/-!
Screens on a server that is given commands. A screen is written together with its end, in whole
seconds and at least one.
-/
namespace RoomRelay
namespace Redis

inductive Command where
  | auth (password : String)
  | select (db : Int64)
  | setEx (key : String) (seconds : Nat) (value : List UInt8)
  | get (key : String)
  deriving DecidableEq, Repr

def Command.name : Command → String
  | auth _ => "AUTH"
  | select _ => "SELECT"
  | setEx .. => "SETEX"
  | get _ => "GET"

/-- The server's side: what it keeps, what it fails to do, and what reached it. -/
structure Server where
  entries : Entries := []
  forgets : Bool := true
  failing : List String := []
  commands : List Command := []
  deriving DecidableEq, Repr

namespace Server

def fails (s : Server) (c : Command) : Bool :=
  s.failing.contains c.name

def record (s : Server) (c : Command) : Server :=
  { s with commands := s.commands ++ [c] }

def find? (s : Server) (key : String) (now : Nat) : Option (List UInt8) :=
  ((s.entries.lookup key).filter fun e => !s.forgets || now < e.expires).map Entry.value

/-- The server's answer to a command at a time: bytes for a look-up, nothing for all else. -/
def answer (s : Server) (now : Nat) (c : Command) :
    Except CacheError (Option (List UInt8)) × Server :=
  if s.fails c then (.error (.command s!"{c.name} failed"), s.record c)
  else
    match c with
    | .setEx key seconds value =>
      (.ok none, { s.record c with entries := s.entries.insert key ⟨value, now + seconds * 1000⟩ })
    | .get key => (.ok (s.find? key now), s.record c)
    | _ => (.ok none, s.record c)

end Server

/-- Whole seconds of a time in milliseconds, and at least one. -/
def seconds (ttl : Nat) : Nat :=
  max 1 (ttl / 1000)

end Redis

/-- The client's side, which keeps nothing itself. -/
structure RedisCache where
  server : Redis.Server := {}
  deriving DecidableEq, Repr

namespace RedisCache

/-- Makes itself known to the server as far as that is asked for. -/
def connect (settings : RedisSettings) (server : Redis.Server) : RedisCache :=
  let auth := settings.login?.toList.map Redis.Command.auth
  let select := if settings.db = 0 then [] else [Redis.Command.select settings.db]
  ⟨(auth ++ select).foldl Redis.Server.record server⟩

def get (r : RedisCache) (key : String) (now : Nat) :
    Except CacheError (Option (List UInt8)) × RedisCache :=
  let (answer, server) := r.server.answer now (.get key)
  (answer, ⟨server⟩)

def set (r : RedisCache) (key : String) (value : List UInt8) (now ttl : Nat) :
    Except CacheError Unit × RedisCache :=
  let (answer, server) := r.server.answer now (.setEx key (Redis.seconds ttl) value)
  (answer.map fun _ => (), ⟨server⟩)

instance : ScreenCache RedisCache where
  get := get
  set := set

def takeCommands (r : RedisCache) : List Redis.Command × RedisCache :=
  (r.server.commands, ⟨{ r.server with commands := [] }⟩)

end RedisCache
end RoomRelay
