import RoomRelay.Text.Hex
import RoomRelay.Text.Number

/-!
JSON texts. Members of an object are kept in order with their repeats, and a number is kept as it is
written, so that a reader can tell an integer from a fraction and a repeated member from a single
one.
-/
namespace RoomRelay

inductive Json where
  | null
  | bool (b : Bool)
  | number (lexeme : String)
  | string (s : String)
  /-- A string with half of a pair in it, or an object with such a name: it is well formed, but
  nothing can be read from it. -/
  | halved
  | array (items : List Json)
  | object (members : List (String × Json))
  deriving Inhabited, Repr

namespace Json

/-- The integer that a number is, if it has neither fraction nor exponent. Minus zero is none. -/
def int? : Json → Option Int
  | number lexeme => if lexeme = "-0" then none else Text.intOf? lexeme
  | _ => none

/-- The value of a member; of repeated members the first. -/
def get? (name : String) : Json → Option Json
  | object members => members.lookup name
  | _ => none

def isBlank (c : Char) : Bool :=
  c == ' ' || c == '\t' || c == '\n' || c == '\r'

def skipBlank (cs : List Char) : List Char :=
  cs.dropWhile isBlank

def hex4? (a b c d : Char) : Option Nat := do
  return (((← Text.hexValue? a) * 16 + (← Text.hexValue? b)) * 16 + (← Text.hexValue? c)) * 16 +
    (← Text.hexValue? d)

def shortEscape? : Char → Option Char
  | '"' => some '"'
  | '\\' => some '\\'
  | '/' => some '/'
  | 'b' => some '\x08'
  | 'f' => some '\x0c'
  | 'n' => some '\n'
  | 'r' => some '\r'
  | 't' => some '\t'
  | _ => none

/-- One character of a string, or a number of sixteen bits that an escape gives. -/
inductive Unit16 where
  | char (c : Char)
  | escaped (n : Nat)
  deriving DecidableEq, Repr

def readUnits : List Char → Option (List Unit16 × List Char)
  | [] => none
  | '"' :: rest => some ([], rest)
  | '\\' :: 'u' :: a :: b :: c :: d :: rest =>
    (hex4? a b c d).bind fun n => (readUnits rest).map fun p => (.escaped n :: p.1, p.2)
  | '\\' :: e :: rest =>
    match shortEscape? e with
    | some c => (readUnits rest).map fun p => (.char c :: p.1, p.2)
    | none => none
  | c :: rest => if c.toNat < 0x20 ∨ c = '\\' then none
    else (readUnits rest).map fun p => (.char c :: p.1, p.2)

/-- The text that units make. A character above the sixteen-bit range is escaped as a pair, and half
a pair makes no text. -/
def ofUnits? : List Unit16 → Option (List Char)
  | [] => some []
  | .char c :: rest => (ofUnits? rest).map (c :: ·)
  | .escaped high :: .escaped low :: rest =>
    if 0xD800 ≤ high ∧ high < 0xDC00 then
      if 0xDC00 ≤ low ∧ low < 0xE000 then
        (ofUnits? rest).map (Char.ofNat (0x10000 + (high - 0xD800) * 0x400 + (low - 0xDC00)) :: ·)
      else none
    else if 0xDC00 ≤ high ∧ high < 0xE000 then none
    else (ofUnits? (.escaped low :: rest)).map (Char.ofNat high :: ·)
  | .escaped n :: rest =>
    if 0xD800 ≤ n ∧ n < 0xE000 then none else (ofUnits? rest).map (Char.ofNat n :: ·)

/-- A string, which half a pair makes one without a text. -/
def ofUnits (us : List Unit16) : Json :=
  (ofUnits? us).elim halved fun cs => string (String.ofList cs)

/-- An object, which half a pair in a name makes one without members. -/
def ofMembers (ms : List (List Unit16 × Json)) : Json :=
  (ms.mapM fun m => (ofUnits? m.1).map fun cs => (String.ofList cs, m.2)).elim halved object

def readDigits (cs : List Char) : Option (List Char × List Char) :=
  match cs.takeWhile Char.isDigit with
  | [] => none
  | ds => some (ds, cs.dropWhile Char.isDigit)

/-- The digits before the point: zero alone, or no leading zero. -/
def readWhole : List Char → Option (List Char × List Char)
  | '0' :: rest => if rest.head?.any Char.isDigit then none else some (['0'], rest)
  | cs => readDigits cs

def readFraction : List Char → Option (List Char × List Char)
  | '.' :: rest => (readDigits rest).map fun p => ('.' :: p.1, p.2)
  | cs => some ([], cs)

def readExponent : List Char → Option (List Char × List Char)
  | e :: rest =>
    if e = 'e' ∨ e = 'E' then
      match rest with
      | s :: rest' =>
        if s = '+' ∨ s = '-' then (readDigits rest').map fun p => (e :: s :: p.1, p.2)
        else (readDigits rest).map fun p => (e :: p.1, p.2)
      | [] => none
    else some ([], e :: rest)
  | [] => some ([], [])

def readNumber (cs : List Char) : Option (String × List Char) := do
  let (sign, rest) := match cs with
    | '-' :: rest => (['-'], rest)
    | _ => ([], cs)
  let (whole, rest) ← readWhole rest
  let (fraction, rest) ← readFraction rest
  let (exponent, rest) ← readExponent rest
  return (String.ofList (sign ++ whole ++ fraction ++ exponent), rest)

mutual

/-- Reads one value. The first argument bounds the steps. -/
def readValue : Nat → List Char → Option (Json × List Char)
  | 0, _ => none
  | fuel + 1, cs =>
    match skipBlank cs with
    | 'n' :: 'u' :: 'l' :: 'l' :: rest => some (null, rest)
    | 't' :: 'r' :: 'u' :: 'e' :: rest => some (bool true, rest)
    | 'f' :: 'a' :: 'l' :: 's' :: 'e' :: rest => some (bool false, rest)
    | '"' :: rest => (readUnits rest).map fun p => (ofUnits p.1, p.2)
    | '[' :: rest =>
      match skipBlank rest with
      | ']' :: rest' => some (array [], rest')
      | _ => (readItems fuel rest).map fun p => (array p.1, p.2)
    | '\x7b' :: rest =>
      match skipBlank rest with
      | '\x7d' :: rest' => some (object [], rest')
      | _ => (readMembers fuel rest).map fun p => (ofMembers p.1, p.2)
    | rest => (readNumber rest).map fun p => (number p.1, p.2)

def readItems : Nat → List Char → Option (List Json × List Char)
  | 0, _ => none
  | fuel + 1, cs =>
    match readValue fuel cs with
    | none => none
    | some (item, rest) =>
      match skipBlank rest with
      | ',' :: rest' => (readItems fuel rest').map fun p => (item :: p.1, p.2)
      | ']' :: rest' => some ([item], rest')
      | _ => none

def readMembers : Nat → List Char → Option (List (List Unit16 × Json) × List Char)
  | 0, _ => none
  | fuel + 1, cs =>
    match skipBlank cs with
    | '"' :: rest =>
      match readUnits rest with
      | none => none
      | some (name, rest) =>
        match skipBlank rest with
        | ':' :: rest =>
          match readValue fuel rest with
          | none => none
          | some (value, rest) =>
            match skipBlank rest with
            | ',' :: rest' =>
              (readMembers fuel rest').map fun p => ((name, value) :: p.1, p.2)
            | '\x7d' :: rest' => some ([(name, value)], rest')
            | _ => none
        | _ => none
    | _ => none

end

def parse? (s : String) : Option Json :=
  match readValue (2 * s.length + 2) s.toList with
  | some (value, rest) => if skipBlank rest = [] then some value else none
  | none => none

end Json
end RoomRelay
