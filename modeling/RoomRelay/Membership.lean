import RoomRelay.Json
import RoomRelay.Total

/-!
Reports of a monitoring endpoint: which connections there are and what each subscribes to.
-/
namespace RoomRelay

structure Connection where
  subjects : List String
  deriving DecidableEq, Repr

structure Membership where
  connections : List Connection
  deriving DecidableEq, Repr

namespace Membership

/-- The only member that matters of a record, which is given as an object or in order as an array.
It may be absent but not repeated. -/
def soleMember (name : String) : Json → Option (Option Json)
  | .object members =>
    match members.filter fun m => m.1 == name with
    | [] => some none
    | [m] => some (some m.2)
    | _ => none
  | .array [] => some none
  | .array [item] => some (some item)
  | _ => none

def ofText? : Json → Option String
  | .string s => some s
  | _ => none

def ofList? {α : Type} (read : Json → Option α) : Json → Option (List α)
  | .array items => items.mapM read
  | _ => none

/-- A list that may be absent and then is empty. -/
def ofAbsentList? {α : Type} (read : Json → Option α) : Option Json → Option (List α)
  | none => some []
  | some value => ofList? read value

def connectionOf? (value : Json) : Option Connection := do
  let subjects ← soleMember "subscriptions_list" value
  return ⟨← ofAbsentList? ofText? subjects⟩

def ofJson? (value : Json) : Option Membership := do
  let connections ← soleMember "connections" value
  return ⟨← ofAbsentList? connectionOf? connections⟩

def parse? (body : String) : Option Membership :=
  (Json.parse? body).bind ofJson?

def count (m : Membership) (subject : String) : Nat :=
  totalOf (fun c => c.subjects.count subject) m.connections

end Membership
end RoomRelay
