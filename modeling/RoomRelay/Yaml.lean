import RoomRelay.Settings.Value
import RoomRelay.Yaml.Node

/-!
Settings files in YAML. A file holds at most one document, and that is a mapping whose keys are
texts or integers.
-/
namespace RoomRelay.Yaml
open Settings

def Node.name? : Node → Option String
  | .text s => some s
  | .int n => some (toString n)
  | _ => none

mutual

/-- The value of a node. A number has to be spelled as one everywhere, so the names of infinity with
a point are refused. -/
def Node.value? : Node → Option Value
  | .bad => some .null
  | .null => some .null
  | .bool b => some (.bool b)
  | .int n => some (.int n)
  | .real s => (Double.parse? s).map .real
  | .text s => some (.text s)
  | .list items => (values? items).map .list
  | .mapping members => (table? [] members).map .table

def values? : List Node → Option (List Value)
  | [] => some []
  | v :: rest => do return (← v.value?) :: (← values? rest)

/-- Members behind those of a table, where the last of one name counts. -/
def table? (before : Table) : List (Node × Node) → Option Table
  | [] => some before
  | (k, v) :: rest => do table? (before.set (← k.name?) (← v.value?)) rest

end

/-- The table that a whole file holds; an empty file holds an empty one. -/
def parse? (s : String) : Option Table :=
  match (tokens? s).bind Node.ofTokens? with
  | none => none
  | some none => some []
  | some (some (.mapping members)) => table? [] members
  | some (some _) => none

end RoomRelay.Yaml
