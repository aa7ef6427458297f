import RoomRelay.Text.Hex
import RoomRelay.Word

/-!
Socket addresses: four numbers between points, or eight groups of digits between colons inside
brackets, and a port. What can be read is wider than what is written: groups may have leading zeros,
any one run of zero groups may be left out, and the last two groups may be written as four numbers.
-/
namespace RoomRelay

inductive SocketAddress where
  | v4 (octets : List Nat) (port : Nat)
  | v6 (groups : List Nat) (zone port : Nat)
  deriving DecidableEq, Repr

namespace SocketAddress

/-! ### Reading -/

/-- Digits of a base at the front of a text: their value and what follows. -/
def readDigits (base : Nat) (cs : List Char) : Option (List Char × Nat × List Char) :=
  let isDigit (c : Char) : Bool := (Text.hexValue? c).any (· < base)
  match cs.takeWhile isDigit with
  | [] => none
  | ds =>
    let value := ds.foldl (fun n c => n * base + (Text.hexValue? c).getD 0) 0
    some (ds, value, cs.dropWhile isDigit)

def readDecimal (bound : Nat) (cs : List Char) : Option (Nat × List Char) := do
  let (_, n, rest) ← readDigits 10 cs
  if n < bound then some (n, rest) else none

/-- A number up to 255 without leading zeros. -/
def readOctet (cs : List Char) : Option (Nat × List Char) := do
  let (ds, n, rest) ← readDigits 10 cs
  if n < 256 ∧ (ds.head? ≠ some '0' ∨ ds.length = 1) then some (n, rest) else none

/-- Up to four digits in base sixteen. -/
def readGroup (cs : List Char) : Option (Nat × List Char) := do
  let (ds, n, rest) ← readDigits 16 cs
  if ds.length ≤ 4 then some (n, rest) else none

def skip (c : Char) : List Char → Option (List Char)
  | d :: rest => if d = c then some rest else none
  | [] => none

def readQuad (cs : List Char) : Option (List Nat × List Char) := do
  let (a, rest) ← readOctet cs
  let (b, rest) ← readOctet (← skip '.' rest)
  let (c, rest) ← readOctet (← skip '.' rest)
  let (d, rest) ← readOctet (← skip '.' rest)
  return ([a, b, c, d], rest)

def groupsOfQuad : List Nat → List Nat
  | [a, b, c, d] => [a * 256 + b, c * 256 + d]
  | _ => []

/-- What stands in front of a group: nothing before the first, else a colon. -/
def readSeparator (first : Bool) (cs : List Char) : Option (List Char) :=
  if first then some cs else skip ':' cs

/-- Up to a number of groups, whether they end with four numbers, and what follows. -/
def readGroups (first : Bool) : Nat → List Char → List Nat × Bool × List Char
  | 0, cs => ([], false, cs)
  | n + 1, cs =>
    match readSeparator first cs with
    | none => ([], false, cs)
    | some body =>
      match if n = 0 then none else readQuad body with
      | some (quad, rest) => (groupsOfQuad quad, true, rest)
      | none =>
        match readGroup body with
        | none => ([], false, cs)
        | some (g, rest) =>
          let (gs, quad, rest) := readGroups false n rest
          (g :: gs, quad, rest)

/-- Eight groups, of which a run of zeros may be left out between two colons. -/
def readEight (cs : List Char) : Option (List Nat × List Char) :=
  match readGroups true 8 cs with
  | (head, quad, rest) =>
    if head.length = 8 then some (head, rest)
    else if quad then none
    else
      match rest with
      | ':' :: ':' :: rest =>
        let (tail, _, rest) := readGroups true (7 - head.length) rest
        some (head ++ List.replicate (8 - head.length - tail.length) 0 ++ tail, rest)
      | _ => none

def readPort (cs : List Char) : Option Nat := do
  let (port, rest) ← readDecimal Word.size16 (← skip ':' cs)
  if rest = [] then some port else none

/-- The zone behind its mark, which is zero if absent. -/
def readZone : List Char → Option (Nat × List Char)
  | '%' :: rest => readDecimal Word.size32 rest
  | cs => some (0, cs)

def readV4 (cs : List Char) : Option SocketAddress := do
  let (octets, rest) ← readQuad cs
  return v4 octets (← readPort rest)

def readV6 (cs : List Char) : Option SocketAddress := do
  let (groups, rest) ← readEight (← skip '[' cs)
  let (zone, rest) ← readZone rest
  return v6 groups zone (← readPort (← skip ']' rest))

def parse? (s : String) : Option SocketAddress :=
  readV4 s.toList <|> readV6 s.toList

/-! ### Writing -/

def quadText (octets : List Nat) : String :=
  String.intercalate "." (octets.map toString)

def groupsText (groups : List Nat) : String :=
  String.intercalate ":" (groups.map fun g => String.ofList (Nat.toDigits 16 g))

def zerosAt (groups : List Nat) (i : Nat) : Nat :=
  ((groups.drop i).takeWhile (· = 0)).length

/-- Place and length of the first of the longest runs of zero groups. -/
def longestZeros (groups : List Nat) : Nat × Nat :=
  (List.range groups.length).foldl (fun best i =>
    if best.2 < zerosAt groups i then (i, zerosAt groups i) else best) (0, 0)

/-- Groups with their longest run of zeros left out if it is longer than one; an address of the
older kind inside the newer one shows its four numbers. -/
def eightText (groups : List Nat) : String :=
  match groups with
  | [0, 0, 0, 0, 0, 0xffff, a, b] => "::ffff:" ++ quadText [a / 256, a % 256, b / 256, b % 256]
  | _ =>
    let (start, length) := longestZeros groups
    if 1 < length then
      groupsText (groups.take start) ++ "::" ++ groupsText (groups.drop (start + length))
    else groupsText groups

def text : SocketAddress → String
  | v4 octets port => s!"{quadText octets}:{port}"
  | v6 groups 0 port => s!"[{eightText groups}]:{port}"
  | v6 groups zone port => s!"[{eightText groups}%{zone}]:{port}"

end SocketAddress
end RoomRelay
