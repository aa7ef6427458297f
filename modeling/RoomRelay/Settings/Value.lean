import RoomRelay.Double
import RoomRelay.Settings.Shape
import RoomRelay.Text.Case
import RoomRelay.Word

/-!
Values as the sources of settings give them, and how one source is laid over another: tables are
merged member by member, and anything else replaces what was there. Names differ in more than case.
-/
namespace RoomRelay.Settings

inductive Value where
  | null
  | bool (b : Bool)
  | int (n : Int)
  | real (x : Double)
  | text (s : String)
  | list (items : List Value)
  | table (members : List (String × Value))
  deriving Repr, Inhabited

/-- Members of a table, each name once. -/
abbrev Table := List (String × Value)

namespace Table

/-- Sets a member, in its place if it is there and else at the end. -/
def set (name : String) (v : Value) : Table → Table
  | [] => [(name, v)]
  | (n, old) :: rest => if n = name then (n, v) :: rest else (n, old) :: set name v rest

end Table

namespace Value

def members : Value → Table
  | table ms => ms
  | _ => []

def items : Value → List Value
  | list vs => vs
  | _ => []

mutual

/-- A value laid over the one that was there, if any. An empty table changes nothing. -/
def onto (old : Option Value) : Value → Value
  | table [] => old.getD (table [])
  | table (m :: ms) => table (allOnto (old.elim [] members) (m :: ms))
  | v => v

def allOnto (base : Table) : List (String × Value) → Table
  | [] => base
  | (name, v) :: rest =>
    allOnto (base.set (Text.lower name) (onto (base.lookup (Text.lower name)) v)) rest

end

end Value

/-! ### Reading values leniently -/

namespace Lenient

def text : Value → Option String
  | .text s => some s
  | .int n => some (toString n)
  | .real x => some x.text
  | .bool b => some (toString b)
  | _ => none

def wordValue? (s : String) : Option Nat :=
  if ["true", "on", "yes"].contains (Text.lower s) then some 1
  else if ["false", "off", "no"].contains (Text.lower s) then some 0
  else none

/-- A natural number below a bound of at most 64 bits. A fraction is rounded first. -/
def unsigned (bound : Nat) (v : Value) : Option Nat :=
  let n : Option Int := match v with
    | .int n => some n
    | .real x => some (x.toIntBetween 0 (Word.size64 - 1))
    | .bool b => some b.toNat
    | .text s => (wordValue? s <|> Text.natOf? s).map Int.ofNat
    | _ => none
  n.bind fun n => if 0 ≤ n ∧ n < bound then some n.toNat else none

/-- A signed number. A fraction is rounded first. -/
def signed (v : Value) : Option Int64 :=
  let n : Option Int := match v with
    | .int n => some n
    | .real x => some (x.toIntBetween Word.least64 Word.greatest64)
    | .bool b => some b.toNat
    | .text s => (wordValue? s).map Int.ofNat <|> Text.intOf? s
    | _ => none
  n.bind Word.int64?

/-- A choice is its name in any case, or a table with the name as its only member. -/
def choice {α : Type} (names : List (String × α)) : Value → Option α
  | .text s => names.lookup (Text.lower s)
  | .table [(s, _)] => names.lookup (Text.lower s)
  | _ => none

/-- A list gives the members in order; what it has too many is left out. -/
def members? (names : List String) : Value → Option (String → Option Value)
  | .table ms => some fun name => ms.lookup name
  | .list items => some fun name => (names.zip items).lookup name
  | _ => none

end Lenient

def lenientFormat : Format Value :=
  ⟨Lenient.text, Lenient.unsigned, Lenient.signed, Lenient.choice, Lenient.members?⟩

end RoomRelay.Settings
