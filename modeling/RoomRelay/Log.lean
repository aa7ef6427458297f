/-!
Lines of the log: how much a line matters, where it comes from, what it says, and the named values
behind that.
-/
namespace RoomRelay

inductive LogLevel where
  | error
  | warn
  | info
  | debug
  | trace
  deriving DecidableEq, Repr

namespace LogLevel

def name : LogLevel → String
  | error => "ERROR"
  | warn => "WARN"
  | info => "INFO"
  | debug => "DEBUG"
  | trace => "TRACE"

/-- The graver a level, the lower its rank. -/
def rank : LogLevel → Nat
  | error => 1
  | warn => 2
  | info => 3
  | debug => 4
  | trace => 5

end LogLevel

structure LogLine where
  level : LogLevel
  target : String
  text : String
  fields : List (String × String) := []
  deriving DecidableEq, Repr

namespace LogLine

def render (l : LogLine) : String :=
  s!"{l.level.name} {l.target}: {l.text}" ++
    String.join (l.fields.map fun (name, value) => s!" {name}={value}")

/-- Whether a line has a field with a name. The text is a field too. -/
def hasField (l : LogLine) (name : String) : Bool :=
  name == "message" || l.fields.any fun f => f.1 == name

end LogLine
end RoomRelay
