import RoomRelay.Settings.Overrides
import RoomRelay.Settings.Path
import RoomRelay.Yaml

/-!
Where settings come from. Two default files, a named file, a file named by a variable, variables
with a common prefix and single variables are laid one over the other, so that the last one to set a
field has its way.
-/
namespace RoomRelay.Settings

structure Sources where
  file : String → Option String
  environment : List (String × String)

namespace Sources

def serviceFile : String := "hypercards.yaml"

def defaultFile : String := "config.yaml"

def fileVariable : String := "HYPERCARDS_CONFIG"

/-- What the names of variables for single fields begin with, in lower case. -/
def variablePrefix : String := "hypercards__"

def lookup (s : Sources) : Lookup :=
  fun name => s.environment.lookup name

/-- The file of a name, or else with an extension behind it. Empty steps and single points in a name
lead nowhere, but at its end they tell that no file is meant. A stroke at the beginning and steps of two
points stay in the name: where they lead is for `file` to know, except that no file is called so. -/
def find? (s : Sources) (name : String) : Option String :=
  let steps := (name.toList.splitOn '/').map String.ofList
  let isNothing := fun step => step = "" || step = "."
  let kept := steps.filter fun step => !isNothing step
  let inner := (if steps.head? = some "" then "/" else "") ++ String.intercalate "/" kept
  if kept.getLast?.all (· == "..") then none
  else
    (if steps.getLast?.any isNothing then none else s.file inner) <|>
      s.file (inner ++ ".yaml") <|> s.file (inner ++ ".yml")

def optional? (s : Sources) (name : String) : Option Table :=
  match s.find? name with
  | none => some []
  | some content => Yaml.parse? content

def required? (s : Sources) (name : String) : Option Table :=
  (s.find? name).bind Yaml.parse?

/-- The table of a file that has to be there if it is named. -/
def named? (s : Sources) : Option String → Option Table
  | none => some []
  | some name => s.required? name

/-- Two underscores become one point. -/
def dotted : List Char → List Char
  | '_' :: '_' :: rest => '.' :: dotted rest
  | c :: rest => c :: dotted rest
  | [] => []

/-- What the value of a variable means: yes or no, an integer, a number or a text. -/
def variableValue (s : String) : Value :=
  if s.toLower = "true" then .bool true
  else if s.toLower = "false" then .bool false
  else
    match Text.smallIntOf? s, Double.parse? s with
    | some n, _ => .int n
    | none, some x => .real x
    | none, none => .text s

def variableMember? (v : String × String) : Option (String × Value) :=
  (variablePrefix.toList.isPrefixOf? (Text.lower v.1).toList).map fun rest =>
    (String.ofList (dotted rest), variableValue v.2)

def variableTable (s : Sources) : Table :=
  s.environment.filterMap variableMember?

/-- The tables of all sources, later ones over earlier ones. -/
def layers? (s : Sources) (path : Option String) : Option (List Table) := do
  let service ← s.optional? serviceFile
  let common ← s.optional? defaultFile
  let given ← s.named? path
  let chosen ← s.named? (s.lookup fileVariable)
  return [service, common, given, chosen, s.variableTable]

/-- The settings before single variables are laid over them. -/
def base? (s : Sources) (path : Option String) : Option Settings :=
  (s.layers? path).bind fun layers =>
    lenientFormat.settings (.table (layers.foldl Value.layer []))

end Sources

/-- Loads settings; a path may name one more file. -/
def load (s : Sources) (path : Option String) : Except SettingsError (Settings × List Notice) :=
  match s.base? path with
  | none => .error .load
  | some base => .ok (base.override s.lookup, overrideNotices s.lookup)

end RoomRelay.Settings
