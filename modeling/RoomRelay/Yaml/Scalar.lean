import RoomRelay.Text.Hex
import RoomRelay.Yaml.Cursor

/-!
The texts of scalars: plain ones, quoted ones and blocks. A line break inside a plain or quoted text
counts as a space, and each empty line behind it as a break. How far the block around a scalar is
indented is minus one outside of any block.
-/
namespace RoomRelay.Yaml

/-- What stands between two words of a scalar. -/
structure Gap where
  spaces : List Char := []
  broken : Bool := false
  empty : Nat := 0
  deriving Repr

/-- A gap as it counts: its blanks, or a space for the end of a line, or its empty lines. -/
def Gap.text (g : Gap) : List Char :=
  if g.empty ≠ 0 then List.replicate g.empty '\n'
  else if g.broken then [' ']
  else g.spaces

/-! ### Plain texts -/

/-- Whether a plain text ends in front of a character that is no blank. -/
def endsPlain (inFlow : Bool) : List Char → Bool
  | ':' :: rest => Cursor.endsWord rest || (inFlow && rest.head?.any isFlowMark)
  | c :: _ => inFlow && isFlowMark c
  | [] => true

def plainWord (inFlow : Bool) : List Char → List Char
  | [] => []
  | c :: rest =>
    if isSpace c || isBreak c || endsPlain inFlow (c :: rest) then []
    else c :: plainWord inFlow rest

/-- Blanks and line breaks between words of a plain text. A tab indents no word. The last argument
bounds the steps. -/
def plainGap (depth : Int) (g : Gap) (c : Cursor) : Nat → Option (Gap × Cursor)
  | 0 => none
  | fuel + 1 =>
    if c.isAt isSpace then
      if !c.fresh then
        let taken := c.rest.takeWhile isSpace
        plainGap depth { g with spaces := g.spaces ++ taken } (c.blanks isSpace) fuel
      else if c.column < depth && c.isAt (· == '\t') then
        match c.toLineEnd true with
        | some (_, c) => if c.isAtLineEnd then plainGap depth g c fuel else none
        | none => none
      else plainGap depth g c.blank fuel
    else if c.isAt isBreak then
      if c.fresh then plainGap depth { g with empty := g.empty + 1 } c.newline fuel
      else plainGap depth { g with spaces := [], broken := true } c.newline fuel
    else some (g, c)

def plainWords (inFlow : Bool) (depth : Int) (g : Gap) (c : Cursor) :
    Nat → Option (List Char × Cursor)
  | 0 => none
  | fuel + 1 =>
    if c.isAtDocument || c.isAt (· == '#') then some ([], c)
    else if inFlow && c.isAt (· == '-') && (c.rest.drop 1).head?.any isFlowMark then none
    else
      let word := plainWord inFlow c.rest
      let (text, g, c) :=
        if word.isEmpty then ([], g, c) else (g.text ++ word, {}, c.skip word.length)
      if c.isAt fun d => isSpace d || isBreak d then
        match plainGap depth g c (c.rest.length + 1) with
        | none => none
        | some (g, c) =>
          if !inFlow && c.column < depth then some (text, c)
          else (plainWords inFlow depth g c fuel).map fun (more, c) => (text ++ more, c)
      else some (text, c)

def plain? (inFlow : Bool) (indent : Int) (c : Cursor) : Option (String × Cursor) :=
  if inFlow && c.column < indent + 1 then none
  else
    (plainWords inFlow (indent + 1) {} c (c.rest.length + 1)).map fun (text, c) =>
      (String.ofList text, c)

/-! ### Quoted texts -/

def escape? : Char → Option Char
  | '0' => some '\x00'
  | 'a' => some '\x07'
  | 'b' => some '\x08'
  | 't' => some '\t'
  | '\t' => some '\t'
  | 'n' => some '\n'
  | 'v' => some '\x0b'
  | 'f' => some '\x0c'
  | 'r' => some '\r'
  | 'e' => some '\x1b'
  | ' ' => some ' '
  | '"' => some '"'
  | '/' => some '/'
  | '\\' => some '\\'
  | 'N' => some '\u0085'
  | '_' => some '\u00a0'
  | 'L' => some '\u2028'
  | 'P' => some '\u2029'
  | _ => none

def escapeDigits : Char → Nat
  | 'x' => 2
  | 'u' => 4
  | 'U' => 8
  | _ => 0

def hexNumber? (cs : List Char) : Option Nat :=
  cs.foldlM (fun n c => (Text.hexValue? c).map fun d => n * 16 + d) 0

def numbered? (digits : Nat) (cs : List Char) : Option Char :=
  if (cs.take digits).length < digits then none
  else
    (hexNumber? (cs.take digits)).bind fun n =>
      if n.isValidChar then some (Char.ofNat n) else none

inductive QuoteMark where
  | single
  | double
  deriving DecidableEq, Repr

def QuoteMark.char : QuoteMark → Char
  | single => '\''
  | double => '"'

/-- The characters of a quoted text up to a blank, the closing quote or an escaped line break. The
answer tells whether it was such a break. -/
def quotedWord (q : QuoteMark) (c : Cursor) : Nat → Option (List Char × Bool × Cursor)
  | 0 => none
  | fuel + 1 =>
    let more (taken : Char) (n : Nat) : Option (List Char × Bool × Cursor) :=
      (quotedWord q (c.skip n) fuel).map fun (cs, b, c) => (taken :: cs, b, c)
    match q, c.rest with
    | .single, '\'' :: '\'' :: _ => more '\'' 2
    | .double, '\\' :: e :: rest =>
      if isBreak e then some ([], true, (c.skip 1).newline)
      else if escapeDigits e = 0 then (escape? e).bind fun d => more d 2
      else (numbered? (escapeDigits e) rest).bind fun d => more d (2 + escapeDigits e)
    | .double, ['\\'] => none
    | q, d :: _ =>
      if d == q.char || isSpace d || isBreak d then some ([], false, c) else more d 1
    | _, [] => some ([], false, c)

/-- Blanks and line breaks between words of a quoted text; the third argument tells whether its line
is over. -/
def quotedGap (indent : Int) (g : Gap) (ended : Bool) (c : Cursor) : Nat → Option (Gap × Cursor)
  | 0 => none
  | fuel + 1 =>
    if c.isAt isSpace then
      if !ended then
        let taken := c.rest.takeWhile isSpace
        quotedGap indent { g with spaces := g.spaces ++ taken } ended (c.blanks isSpace) fuel
      else if c.isAt (· == '\t') && c.column < indent then none
      else quotedGap indent g ended c.blank fuel
    else if c.isAt isBreak then
      if ended then quotedGap indent { g with empty := g.empty + 1 } ended c.newline fuel
      else quotedGap indent { g with spaces := [], broken := true } true c.newline fuel
    else some (g, c)

def quotedRest (q : QuoteMark) (indent : Int) (c : Cursor) : Nat → Option (List Char × Cursor)
  | 0 => none
  | fuel + 1 =>
    if c.isAtDocument || c.isAtEnd || c.column < indent then none
    else
      match quotedWord q c (c.rest.length + 1) with
      | none => none
      | some (word, ended, c) =>
        if c.isAt (· == q.char) then some (word, c.skip 1)
        else
          match quotedGap indent {} ended c (c.rest.length + 1) with
          | none => none
          | some (g, c) =>
            (quotedRest q indent c fuel).map fun (more, c) => (word ++ g.text ++ more, c)

def quoted? (q : QuoteMark) (indent : Int) (c : Cursor) : Option (String × Cursor) :=
  (quotedRest q indent (c.skip 1) (c.rest.length + 1)).map fun (text, c) => (String.ofList text, c)

/-! ### Blocks of text -/

/-- What becomes of the line breaks at the end of a block. -/
inductive Chomping where
  | clip
  | strip
  | keep
  deriving DecidableEq, Repr

def chomping? (c : Cursor) : Option Chomping :=
  match c.rest with
  | '+' :: _ => some .keep
  | '-' :: _ => some .strip
  | _ => none

/-- A digit for the depth of a block, which may be absent. Zero is refused. -/
def depthMark (c : Cursor) : Option (Nat × Cursor) :=
  match c.rest with
  | d :: _ =>
    if !d.isDigit then some (0, c)
    else if d = '0' then none
    else some (d.toNat - '0'.toNat, c.skip 1)
  | [] => some (0, c)

/-- The head of a block behind its mark: how its end is chomped and how much deeper than the block
around it is, in either order. -/
def blockHead (c : Cursor) : Option (Chomping × Nat × Cursor) :=
  match chomping? c with
  | some chomping => (depthMark (c.skip 1)).map fun (n, c) => (chomping, n, c)
  | none =>
    match depthMark c with
    | none => none
    | some (0, c) => some (.clip, 0, c)
    | some (n, c) =>
      match chomping? c with
      | some chomping => some (chomping, n, c.skip 1)
      | none => some (.clip, n, c)

/-- Passes over empty lines and the indentation of the next: how many there were. -/
def blockIndent (depth : Nat) (c : Cursor) : Nat → Nat × Cursor
  | 0 => (0, c)
  | fuel + 1 =>
    let spaces := ((c.rest.take (depth - c.column)).takeWhile (· == ' ')).length
    let c := { c with
      rest := c.rest.drop spaces, index := c.index + spaces, column := c.column + spaces }
    if c.isAt isBreak then
      let (n, c) := blockIndent depth c.newline fuel
      (n + 1, c)
    else (0, c)

/-- The same where no depth is told: the deepest of the lines passed gives it. -/
def firstIndent (depth : Nat) (c : Cursor) : Nat → Nat × Nat × Cursor
  | 0 => (depth, 0, c)
  | fuel + 1 =>
    let c := c.blanks (· == ' ')
    let depth := max depth c.column
    if c.isAt isBreak then
      let (depth, n, c) := firstIndent depth c.newline fuel
      (depth, n + 1, c)
    else (depth, 0, c)

/-- The lines of a block in front of the chomping. -/
structure BlockLines where
  text : List Char := []
  /-- Whether the last line has a break, and how many empty lines follow. -/
  broken : Bool := false
  empty : Nat := 0
  /-- Whether the last line began with a blank. -/
  blank : Bool := false
  deriving Repr

/-- The breaks in front of the next line. In a folded block one between lines without a blank at
their start is a space. -/
def BlockLines.between (b : BlockLines) (literal blank : Bool) : List Char :=
  let breaks := List.replicate b.empty '\n'
  if !literal && b.broken && !b.blank && !blank then if b.empty = 0 then [' '] else breaks
  else (if b.broken then ['\n'] else []) ++ breaks

def blockLines (literal : Bool) (depth : Nat) (b : BlockLines) (c : Cursor) :
    Nat → BlockLines × Cursor
  | 0 => (b, c)
  | fuel + 1 =>
    if c.column ≠ depth || c.isAtEnd || (depth == 0 && c.isAtMarks '.') then (b, c)
    else
      let blank := c.isAt isSpace
      let (line, after) := c.skipWhile fun d => !isBreak d
      let text := b.text ++ b.between literal blank ++ line
      if after.isAtEnd then (⟨text, false, 0, blank⟩, after)
      else
        let (n, next) := blockIndent depth after.newline (after.rest.length + 1)
        blockLines literal depth ⟨text, true, n, blank⟩ next fuel

/-- The end of a block: a last line without a break gets one if it is indented. -/
def BlockLines.ending (b : BlockLines) (chomping : Chomping) (indent : Int) (c : Cursor) :
    List Char :=
  let last := if b.broken then ['\n'] else []
  let missing := if c.isAtEnd && max indent 1 ≤ (c.column : Int) then ['\n'] else []
  match chomping with
  | .strip => []
  | .clip => last ++ missing
  | .keep => last ++ missing ++ List.replicate b.empty '\n'

def emptyBlock (chomping : Chomping) (hasBreak : Bool) (empty : Nat) : String :=
  let breaks := match chomping with
    | .strip => 0
    | .clip => 1
    | .keep => max 1 empty
  if hasBreak then String.ofList (List.replicate breaks '\n') else ""

/-- The lines of a block behind its head; `depth` is zero where none is told. -/
def blockBody (literal : Bool) (chomping : Chomping) (indent : Int) (depth : Nat)
    (hasBreak : Bool) (c : Cursor) : Option (String × Cursor) :=
  let fuel := c.rest.length + 1
  let (depth, empty, c) :=
    if depth = 0 then
      let (deepest, empty, c) := firstIndent 0 c fuel
      let least := (indent + 1).toNat
      (max deepest (if 0 < indent then max least 1 else least), empty, c)
    else
      let (empty, c) := blockIndent depth c fuel
      (depth, empty, c)
  if c.isAtEnd then some (emptyBlock chomping hasBreak empty, c)
  else if c.column < depth && indent < c.column then none
  else
    let (b, c) := blockLines literal depth { empty } c fuel
    some (String.ofList (b.text ++ b.ending chomping indent c), c)

def block? (literal : Bool) (indent : Int) (c : Cursor) : Option (String × Cursor) := do
  let (chomping, deeper, c) ← blockHead (c.skip 1)
  let (_, c) ← c.toLineEnd true
  if !c.isAtLineEnd then none
  else
    let body := c.newline
    let depth := if deeper = 0 then 0 else if 0 ≤ indent then indent.toNat + deeper else deeper
    if body.isAt (· == '\t') then none
    else blockBody literal chomping indent depth (!c.isAtEnd) body

end RoomRelay.Yaml
