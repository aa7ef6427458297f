import RoomRelay.Text.Hex

/-!
Whether a text is a pattern: a regular expression with groups, alternatives, repetitions, classes
and escapes. What it matches is of no concern here. Boundaries of words and counted repetitions are
refused, the latter because the brace that closes one cannot stand in the texts that are read.
-/
namespace RoomRelay.Text

def numberDigits : Char → Nat
  | 'x' => 2
  | 'u' => 4
  | 'U' => 8
  | _ => 0

/-- The character that an escape stands for, if it is one, and what follows; the text begins behind
the backslash. A class of characters stands for none. -/
def escape? (inClass : Bool) : List Char → Option (Option Char × List Char)
  | [] => none
  | c :: rest =>
    let digits := numberDigits c
    if "dDsSwW".contains c then some (none, rest)
    else if "Az".contains c then if inClass then none else some (none, rest)
    else if "pP".contains c then
      if rest.head?.any (fun d => "LMNPSZC".contains d) then some (none, rest.drop 1) else none
    else if digits ≠ 0 then do
      let values ← (rest.take digits).mapM hexValue?
      let n := values.foldl (fun n d => n * 16 + d) 0
      if values.length = digits ∧ n.isValidChar then
        some (some (Char.ofNat n), rest.drop digits)
      else none
    else
      match "afnrtv".toList.zip ['\x07', '\x0c', '\n', '\r', '\t', '\x0b'] |>.lookup c with
      | some d => some (some d, rest)
      | none =>
        if c.isAlphanum || c == '<' || c == '>' || 128 ≤ c.toNat then none
        else some (some c, rest)

/-- A member of a class: the character it stands for, unless it is a class, and what follows. -/
def classItem? : List Char → Option (Option Char × List Char)
  | '\\' :: rest => escape? true rest
  | c :: rest => some (some c, rest)
  | [] => none

/-- What follows a range or a single member of a class. A range goes up. -/
def classRange? (cs : List Char) : Option (List Char) := do
  let (low, rest) ← classItem? cs
  match rest with
  | '-' :: c :: more =>
    if c = ']' ∨ c = '-' then some rest
    else
      let (high, after) ← classItem? (c :: more)
      match low, high with
      | some a, some b => if a ≤ b then some after else none
      | _, _ => none
  | _ => some rest

def classNames : List String :=
  ["alnum", "alpha", "ascii", "blank", "cntrl", "digit", "graph", "lower", "print", "punct",
    "space", "upper", "word", "xdigit"]

/-- What follows a class by name, which begins with a bracket and a colon. -/
def namedClass? (cs : List Char) : Option (List Char) :=
  match cs with
  | '[' :: ':' :: rest =>
    let rest := if rest.head? = some '^' then rest.drop 1 else rest
    let name := rest.takeWhile Char.isAlpha
    match rest.drop name.length with
    | ':' :: ']' :: after =>
      if classNames.contains (String.ofList name) then some after else none
    | _ => none
  | _ => none

/-- What stands behind the beginning of a class: a bracket first is a member, and so are dashes. -/
def classStart (cs : List Char) : List Char :=
  let cs := if cs.head? = some '^' then cs.drop 1 else cs
  match cs with
  | ']' :: rest => rest
  | _ => cs.dropWhile (· == '-')

/-- What follows a class, inside of which others may be nested; `depth` counts those that are open.
The last argument bounds the steps. -/
def classEnd? (depth : Nat) (cs : List Char) : Nat → Option (List Char)
  | 0 => none
  | fuel + 1 =>
    match cs with
    | ']' :: rest => if depth ≤ 1 then some rest else classEnd? (depth - 1) rest fuel
    | '[' :: rest =>
      match namedClass? cs with
      | some after => classEnd? depth after fuel
      | none => classEnd? (depth + 1) (classStart rest) fuel
    | '&' :: '&' :: rest => classEnd? depth rest fuel
    | '-' :: '-' :: rest => classEnd? depth rest fuel
    | '~' :: '~' :: rest => classEnd? depth rest fuel
    | _ => (classRange? cs).bind fun rest => classEnd? depth rest fuel

/-- What follows the head of a group behind its question mark, and whether the group is open. Others
only change how the rest is read. -/
def groupHead? (cs : List Char) : Option (List Char × Bool) :=
  let named := fun (cs : List Char) =>
    let name := cs.takeWhile fun c => c.isAlphanum || c == '_'
    match cs.drop name.length with
    | '>' :: rest => if name.head?.any fun c => !c.isDigit then some (rest, true) else none
    | _ => none
  match cs with
  | 'P' :: '<' :: rest => named rest
  | '<' :: rest => named rest
  | ':' :: rest => some (rest, true)
  | _ =>
    let flags := cs.takeWhile fun c => "imsUuxR-".contains c
    if flags = [] ∨ flags.getLast? = some '-' ∨ flags.eraseDups.length ≠ flags.length then none
    else
      match cs.drop flags.length with
      | ':' :: rest => some (rest, true)
      | ')' :: rest => some (rest, false)
      | _ => none

/-- The rest of a pattern: how many groups are open, and whether there is something to repeat. The
last argument bounds the steps. -/
def patternRest (groups : Nat) (hasItem : Bool) (cs : List Char) : Nat → Bool
  | 0 => false
  | fuel + 1 =>
    match cs with
    | [] => groups == 0
    | '(' :: '?' :: rest =>
      (groupHead? rest).any fun (rest, isOpen) =>
        patternRest (if isOpen then groups + 1 else groups) false rest fuel
    | '(' :: rest => patternRest (groups + 1) false rest fuel
    | ')' :: rest => groups ≠ 0 && patternRest (groups - 1) true rest fuel
    | '|' :: rest => patternRest groups false rest fuel
    | '[' :: rest =>
      (classEnd? 1 (classStart rest) (rest.length + 1)).any fun rest =>
        patternRest groups true rest fuel
    | '\\' :: rest => (escape? false rest).any fun (_, rest) => patternRest groups true rest fuel
    | c :: rest =>
      if c == '*' || c == '+' || c == '?' then
        let rest := if rest.head? = some '?' then rest.drop 1 else rest
        hasItem && patternRest groups true rest fuel
      else c != '\x7b' && patternRest groups true rest fuel

def isPattern (s : String) : Bool :=
  patternRest 0 false s.toList (s.toList.length + 1)

end RoomRelay.Text
