import RoomRelay.Boot

/-!
The command line. Variables are given as arguments, each a name, an equals sign and a value, and the
text of the settings file comes in on standard input; the end of that input is taken for the signal
to go down.
-/
namespace RoomRelay.Boot

def variableOf? (argument : String) : Option (String × String) :=
  let name := argument.toList.takeWhile (· != '=')
  match argument.toList.drop name.length with
  | _ :: value => some (String.ofList name, String.ofList value)
  | [] => none

/-- What the arguments and the input hold. An empty input is no file. -/
def sourcesOf (arguments : List String) (input : String) : Settings.Sources where
  file name := if name = Settings.Sources.serviceFile ∧ input ≠ "" then some input else none
  environment := arguments.filterMap variableOf?

/-- Zero if the service came to listen. -/
def exitCode (b : Boot) : UInt32 :=
  match b.result with
  | .ok _ => 0
  | .error _ => 1

partial def readAll (input : IO.FS.Stream) (text : String) : IO String := do
  let line ← input.getLine
  if line.isEmpty then return text else readAll input (text ++ line)

end RoomRelay.Boot

open RoomRelay in
def main (arguments : List String) : IO UInt32 := do
  let input ← Boot.readAll (← IO.getStdin) ""
  let sources := Boot.sourcesOf arguments input
  for line in Boot.log sources .terminate do
    IO.println line
  return (Boot.start sources).exitCode
