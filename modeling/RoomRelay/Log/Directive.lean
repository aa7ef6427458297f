import RoomRelay.Double
import RoomRelay.Log
import RoomRelay.Text.Blank
import RoomRelay.Text.Letter
import RoomRelay.Text.Pattern

/-!
Directives of a log filter: a target, a span, fields that a line has to have, and a rank, each of
which may be absent. A directive is read from front to back. Blanks around it tell where it begins
and ends, but its parts are cut from the text with its blanks.
-/
namespace RoomRelay

structure LogField where
  name : String
  /-- Whether it has to have a certain value. -/
  hasValue : Bool := false
  deriving DecidableEq, Repr

structure LogDirective where
  target : Option String := none
  span : Option String := none
  fields : List LogField := []
  /-- Zero lets nothing through. -/
  rank : Nat := LogLevel.trace.rank
  deriving DecidableEq, Repr

namespace LogDirective

def rankNames : List (String × Nat) :=
  [("off", 0), ("error", 1), ("warn", 2), ("info", 3), ("debug", 4), ("trace", 5)]

def rank? (cs : List Char) : Option Nat :=
  match Text.natOf? (String.ofList cs) with
  | some n => if n ≤ 5 then some n else none
  | none => rankNames.lookup (String.ofList cs).toLower

/-- A rank behind a target, where nothing stands for everything. -/
def rankAfter? : List Char → Option Nat
  | [] => some LogLevel.trace.rank
  | cs => rank? cs

/-- Whether a text spells a value: a truth value, a number, or a pattern that it has to match. -/
def isValue (cs : List Char) : Bool :=
  let s := String.ofList cs
  s == "true" || s == "false" || (Double.parse? s).isSome || Text.isPattern s

def field? (cs : List Char) : Option LogField :=
  let name := cs.takeWhile (· != '=')
  match cs.drop name.length with
  | _ :: rest =>
    if isValue (rest.takeWhile (· != '=')) then some ⟨String.ofList name, true⟩ else none
  | [] => if name.isEmpty then none else some ⟨String.ofList name, false⟩

def isStart (c : Char) : Bool :=
  Text.isWordChar c || ['-', ':', '_'].contains c

/-- What is being read. Parts that are not complete tell where they begin. -/
inductive Stage where
  | start
  /-- A rank, or a target. -/
  | head (first : Nat)
  | span (first : Nat)
  | field (first : Nat)
  | fieldsEnd
  | spanEnd
  | rank (first : Nat)
  deriving DecidableEq, Repr

def dropBytes : Nat → List Char → List Char
  | _, [] => []
  | n, c :: cs => if n = 0 then c :: cs else dropBytes (n - c.utf8Size) cs

def takeBytes : Nat → List Char → List Char
  | _, [] => []
  | n, c :: cs => if n = 0 then [] else c :: takeBytes (n - c.utf8Size) cs

/-- The part of a text between two places, counted in bytes. -/
def slice (cs : List Char) (first last : Nat) : List Char :=
  takeBytes (last - first) (dropBytes first cs)

/-- Reads one character; `whole` is the text with its blanks, and `place` counts the bytes in front
of the character. -/
def step (whole : List Char) (place : Nat) (c : Char) :
    Stage → LogDirective → Option (Stage × LogDirective)
  | .start, d =>
    if c = '[' then some (.span (place + 1), d)
    else if isStart c then some (.head place, d)
    else none
  | .head first, d =>
    let target := some (String.ofList (slice whole first place))
    if c = '=' then some (.rank (place + 1), { d with target })
    else if c = '[' then some (.span (place + 1), { d with target })
    else some (.head first, d)
  | .span first, d =>
    let name := slice whole first place
    if c = ']' then some (.spanEnd, { d with span := some (String.ofList name) })
    else if c = '\x7b' then
      let span := if name.isEmpty then none else some (String.ofList name)
      some (.field (place + 1), { d with span })
    else some (.span first, d)
  | .field first, d =>
    if c = '\x7d' then
      (field? (slice whole first place)).map fun f => (.fieldsEnd, { d with fields := [f] })
    else some (.field first, d)
  | .fieldsEnd, d => if c = ']' then some (.spanEnd, d) else none
  | .spanEnd, d => if c = '=' then some (.rank (place + 1), d) else none
  | .rank first, d => some (.rank first, d)

def steps (whole : List Char) (stage : Stage) (d : LogDirective) :
    Nat → List Char → Option (Stage × LogDirective)
  | _, [] => some (stage, d)
  | place, c :: cs =>
    (step whole place c stage d).bind fun (stage, d) => steps whole stage d (place + c.utf8Size) cs

/-- Reads a directive without a comma. -/
def ofChars? (cs : List Char) : Option LogDirective :=
  let trimmed := ((cs.dropWhile Text.isBlankChar).reverse.dropWhile Text.isBlankChar).reverse
  match steps cs .start {} 0 trimmed with
  | some (.head first, d) =>
    let text := dropBytes first cs
    match rank? text with
    | some rank => some { d with rank }
    | none => some { d with target := some (String.ofList text) }
  | some (.rank first, d) => (rankAfter? (dropBytes first cs)).map fun rank => { d with rank }
  | some (.spanEnd, d) => some d
  | _ => none

/-- Whether a directive can be told to hold from the kind of a line alone. -/
def isStatic (d : LogDirective) : Bool :=
  d.span.isNone && d.fields.all fun f => !f.hasValue

def isMatch (d : LogDirective) (l : LogLine) : Bool :=
  d.target.all (fun t => t.toList.isPrefixOf l.target.toList) &&
    d.fields.all fun f => l.hasField f.name

/-- How specific a directive is: the length of its target, if it has one, and how many fields it
asks for. -/
def weight (d : LogDirective) : Nat × Nat :=
  (d.target.elim 0 fun t => t.utf8ByteSize + 1, d.fields.length)

/-- Whether a directive decides in front of another one. Of those that are as specific the greater
names decide, and of those that ask for the same the later one does. -/
def outranks (d other : LogDirective) : Bool :=
  let (a, b) := (d.weight, other.weight)
  b.1 < a.1 || (a.1 == b.1 && (b.2 < a.2 ||
    (a.2 == b.2 && !decide (d.fields.map LogField.name < other.fields.map LogField.name))))

end LogDirective
end RoomRelay
