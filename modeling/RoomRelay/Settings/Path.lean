import RoomRelay.Settings.Value

/-!
Places inside of settings. The names at the top of a source may spell paths: a name and then further
names behind points and indices between brackets. On the way to its place a path makes the tables
and lists that it needs, in the place of values of another kind.
-/
namespace RoomRelay.Settings

inductive Step where
  | member (name : String)
  /-- An item of a list; below zero it counts from the end. -/
  | item (index : Int)
  deriving DecidableEq, Repr

namespace Step

def isNameChar (c : Char) : Bool :=
  c.isAlphanum || [' ', '_', '-'].contains c

def isBlank (c : Char) : Bool := c == ' ' || c == '\t'

/-- An index between brackets, behind the first: digits, perhaps behind a minus sign, with blanks
around them. -/
def index? (cs : List Char) : Option Int :=
  let inner := (((cs.takeWhile (· != ']')).dropWhile isBlank).reverse.dropWhile isBlank).reverse
  if cs.contains ']' ∧ inner.head? ≠ some '+' then Text.smallIntOf? (String.ofList inner) else none

/-- The steps behind the first name. The last argument bounds their number. -/
def more : List Char → Nat → Option (List Step)
  | _, 0 => none
  | [], _ => some []
  | '.' :: rest, fuel + 1 =>
    let name := rest.takeWhile isNameChar
    if name.isEmpty then none
    else (more (rest.drop name.length) fuel).map (member (String.ofList name) :: ·)
  | '[' :: rest, fuel + 1 => do
    let i ← index? rest
    return item i :: (← more ((rest.dropWhile (· != ']')).drop 1) fuel)
  | _, _ => none

/-- The path that a name spells; one that spells none is a single step. -/
def path (name : String) : List Step :=
  let first := name.toList.takeWhile isNameChar
  let rest := name.toList.drop first.length
  if first.isEmpty then [member name]
  else (more rest (rest.length + 1)).elim [member name] (member (String.ofList first) :: ·)

/-- The place of an item in a list of the given length, unless it lies before its beginning. -/
def position? (length : Nat) (index : Int) : Option Nat :=
  if 0 ≤ index then some index.toNat
  else if (-index).toNat ≤ length then some (length - (-index).toNat)
  else none

/-- Changes an item of a list, which becomes as long as it takes. -/
def change (f : Value → Value) (vs : List Value) (index : Int) : List Value :=
  match position? vs.length index with
  | some i =>
    let vs := vs ++ List.replicate (i + 1 - vs.length) .null
    vs.take i ++ f (vs.getD i .null) :: vs.drop (i + 1)
  | none => vs

end Step

namespace Value

/-- A value with another one set at the end of a path. A member is laid over the one that was there,
and an item replaces it. -/
def setAt (v : Value) : List Step → Value → Value
  | [], old => old
  | [.member name], old =>
    let name := Text.lower name
    table (Table.set name (onto (old.members.lookup name) v) old.members)
  | [.item i], old => list (Step.change (fun _ => v) old.items i)
  | .member name :: next :: steps, old =>
    let name := Text.lower name
    let inner := (old.members.lookup name).getD null
    table (Table.set name (setAt v (next :: steps) inner) old.members)
  | .item i :: next :: steps, old => list (Step.change (setAt v (next :: steps)) old.items i)

def layer (base source : Table) : Table :=
  source.foldl (fun t m => (setAt m.2 (Step.path m.1) (table t)).members) base

end Value
end RoomRelay.Settings
