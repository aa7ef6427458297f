import RoomRelay.Json
import RoomRelay.Settings.Shape

/-!
Settings in JSON, read strictly: a value of another kind, a number out of range or an unknown choice
is refused. A section is an object, or an array of its members in order.
-/
namespace RoomRelay.Settings

namespace Strict

def text : Json → Option String
  | .string s => some s
  | _ => none

def unsigned (bound : Nat) (v : Json) : Option Nat :=
  v.int?.bind fun n => if 0 ≤ n ∧ n < bound then some n.toNat else none

def signed (v : Json) : Option Int64 :=
  v.int?.bind Word.int64?

/-- A choice is its name, or an object with the name as its only member. -/
def choice {α : Type} (names : List (String × α)) : Json → Option α
  | .string s => names.lookup s
  | .object [(s, .null)] => names.lookup s
  | _ => none

def members? (names : List String) : Json → Option (String → Option Json)
  | .object members => some fun name => members.lookup name
  | .array items =>
    if items.length ≤ names.length then some fun name => (names.zip items).lookup name else none
  | _ => none

end Strict

def strictFormat : Format Json :=
  ⟨Strict.text, Strict.unsigned, Strict.signed, Strict.choice,
    Strict.members?⟩

def ofJson? (v : Json) : Option Settings :=
  strictFormat.settings v

end RoomRelay.Settings
