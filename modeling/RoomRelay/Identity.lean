import RoomRelay.Failure

/-!
Who calls, and for how long. Every call begins by reading one identity from its headers; the scope
made of it is handed to all that needs the caller or the deadline.
-/
namespace RoomRelay

/-- Headers of a call in order, names in lower case. -/
abbrev Headers := List (String × List UInt8)

namespace Headers

def isNameChar (c : Char) : Bool :=
  c.isAlphanum || "!#$%&'*+-.^_`|~".toList.contains c

/-- Ending of the names whose values are not text. -/
def binarySuffix : String := "-bin"

def isName (name : String) : Bool :=
  !name.isEmpty && name.toList.all isNameChar && !name.endsWith binarySuffix

def isValueByte (b : UInt8) : Bool :=
  b == 9 || (32 ≤ b && b != 127)

def ofList? (items : List (String × List UInt8)) : Option Headers :=
  items.mapM fun (name, value) =>
    if isName name.toLower ∧ value.all isValueByte then some (name.toLower, value) else none

def values (h : Headers) (name : String) : List (List UInt8) :=
  (h.filter fun item => item.1 == name).map Prod.snd

end Headers

def identityHeader : String := "x-user"

def isPrintable (b : UInt8) : Bool :=
  b == 9 || (32 ≤ b && b < 127)

def asciiText (bs : List UInt8) : String :=
  String.ofList (bs.map fun b => Char.ofNat b.toNat)

def identityOf (value : List UInt8) : Except Forbidden String :=
  if !value.all isPrintable then .error .notPrintable
  else
    let user := asciiText value
    if user.isEmpty then .error .empty
    else if Text.hasBlankEdge user then .error .padded
    else if !Topic.isSafe user then .error .reserved
    else .ok user

/-- The one identity that the headers of a call carry. -/
def Headers.identity (h : Headers) : Except Forbidden String :=
  match h.values identityHeader with
  | [] => .error .missing
  | [value] => identityOf value
  | _ => .error .repeated

structure ScopeOptions where
  allowAnonymous : Bool := false
  /-- No deadline is set, for streams that live long. -/
  suppressDeadline : Bool := false
  deriving DecidableEq, Repr

namespace ScopeOptions

def streaming : ScopeOptions := { suppressDeadline := true }

def anonymous : ScopeOptions := { allowAnonymous := true }

end ScopeOptions

/-- Identity and deadline of one call. Times are milliseconds on a common clock. -/
structure Scope where
  user : Option String
  deadline : Option Nat
  deriving DecidableEq, Repr

namespace Scope

def anonymous : Scope := ⟨none, none⟩

/-- The scope of a call that begins at `now` and may last `limit`. -/
def prepare (headers : Headers) (options : ScopeOptions) (now limit : Nat) :
    Except Forbidden Scope :=
  if options.allowAnonymous then .ok anonymous
  else
    headers.identity.map fun user =>
      ⟨some user, if options.suppressDeadline then none else some (now + limit)⟩

def requireUser (s : Scope) : Except Forbidden String :=
  match s.user with
  | some user => .ok user
  | none => .error .anonymous

/-- When work is given up that begins at `now` and ends at `due`: never if it is ready at once or
ends by the deadline. -/
def abandonedAt (s : Scope) (now due : Nat) : Option Nat :=
  match s.deadline with
  | none => none
  | some deadline => if due ≤ max now deadline then none else some (max now deadline)

/-- Result and time of work that begins at `now`, takes `duration` and ends in `result`. -/
def bounded {α : Type} (s : Scope) (now duration : Nat) (result : Except Failure α) :
    Except Failure α × Nat :=
  match s.abandonedAt now (now + duration) with
  | none => (result, now + duration)
  | some time => (.error .deadlineExceeded, time)

end Scope
end RoomRelay
