import RoomRelay.Yaml.Scalar
import RoomRelay.Yaml.Tag

/-!
Tokens of a text. Indentation opens and closes blocks, and a colon tells only afterwards that what
stood in front of it was a key: the token there is remembered as a candidate, and the marks of a
block and of a key are put in front of it.
-/
namespace RoomRelay.Yaml

inductive Token where
  /-- A directive that gives a version. -/
  | version
  /-- A directive that gives what a handle of tags stands for. -/
  | rule (handle text : String)
  | documentStart
  | documentEnd
  | blockSequence
  | blockMapping
  | blockEnd
  | flowSequence
  | flowSequenceEnd
  | flowMapping
  | flowMappingEnd
  | blockEntry
  | flowEntry
  | key
  | value
  | alias (name : String)
  | anchor (name : String)
  | tag (handle text : String)
  | scalar (isPlain : Bool) (text : String)
  deriving DecidableEq, Repr

def Token.isProperty : Token → Bool
  | anchor _ => true
  | tag _ _ => true
  | _ => false

/-- A token that may turn out to begin a key. -/
structure Candidate where
  possible : Bool := false
  /-- Whether nothing but a key may stand there. -/
  required : Bool := false
  number : Nat := 0
  index : Nat := 0
  line : Nat := 0
  column : Nat := 0
  deriving Repr

/-- A level of indentation. One that no block has opened yet only tells where text may stand. -/
structure Level where
  outer : Int
  isBlock : Bool
  deriving Repr

structure Lexer where
  cursor : Cursor
  /-- The tokens so far, each with its column. -/
  tokens : List (Nat × Token) := []
  /-- How many of them stand for good: nothing will be put in front of one. -/
  settled : Nat := 0
  /-- The candidate outside of flow collections, or inside of the innermost. -/
  candidate : Candidate := {}
  /-- The candidates around each flow collection that is open, from the innermost out. -/
  around : List Candidate := []
  keyAllowed : Bool := true
  indent : Int := -1
  levels : List Level := []
  /-- Where a colon may follow without a blank behind it. -/
  adjacent : Nat := 0
  /-- Whether colons inside flow collections belong to a mapping that is open. -/
  inMapping : Bool := false
  /-- For each flow sequence that is open, whether a mapping of one pair is open in it. -/
  sequences : List Bool := []
  isDone : Bool := false
  deriving Repr

namespace Lexer

def inBlock (l : Lexer) : Bool := l.around.isEmpty

def pushAt (l : Lexer) (column : Nat) (t : Token) : Lexer :=
  { l with tokens := l.tokens ++ [(column, t)] }

def push (l : Lexer) (t : Token) : Lexer := l.pushAt l.cursor.column t

def insert (l : Lexer) (number : Nat) (t : Token) : Lexer :=
  { l with tokens := l.tokens.take number ++ (0, t) :: l.tokens.drop number }

def skip (l : Lexer) (n : Nat) : Lexer := { l with cursor := l.cursor.skip n }

/-- Passes over blanks and a comment: the kinds of blanks, and what follows. -/
def toLineEnd (l : Lexer) (tabs : Bool) : Option (Cursor.Blanks × Lexer) :=
  (l.cursor.toLineEnd tabs).map fun (blanks, c) => (blanks, { l with cursor := c })

/-! ### Keys -/

def allowKey (l : Lexer) : Lexer := { l with keyAllowed := true }

def disallowKey (l : Lexer) : Lexer := { l with keyAllowed := false }

def dismissed (c : Candidate) : Candidate := { c with possible := false }

def saveKey (l : Lexer) : Lexer :=
  if l.keyAllowed then
    { l with
      candidate :=
        { possible := true
          required := l.inBlock && l.indent == l.cursor.column && l.levels.head?.any Level.isBlock
          number := l.tokens.length
          index := l.cursor.index, line := l.cursor.line, column := l.cursor.column } }
  else l

/-- Gives up the candidate, which must not be one that has to be a key. -/
def dropKey (l : Lexer) : Option Lexer :=
  if l.candidate.possible && l.candidate.required then none
  else some { l with candidate := dismissed l.candidate }

/-- Gives up a candidate that is too far away: outside of flow collections a key stands on one line
and is not too long. -/
def dropStale (l : Lexer) : Option Lexer :=
  let c := l.candidate
  if l.inBlock && (c.line < l.cursor.line || c.index + 1024 < l.cursor.index) then l.dropKey
  else some l

/-- Settles the tokens in front of which nothing can be put any more. -/
def settle (l : Lexer) : Option Lexer :=
  if l.settled = l.tokens.length then some l
  else
    l.dropStale.map fun l =>
      { l with
        settled := (l.candidate :: l.around).foldl
          (fun n c => if c.possible then min n c.number else n) l.tokens.length }

/-! ### Indentation -/

def closeLevels (column : Int) (l : Lexer) : List Level → Lexer
  | [] => { l with levels := [] }
  | v :: rest =>
    if column < l.indent then
      let l := { l with indent := v.outer }
      closeLevels column (if v.isBlock then l.push .blockEnd else l) rest
    else { l with levels := v :: rest }

def closeTo (l : Lexer) (column : Int) : Lexer :=
  if l.inBlock then closeLevels column l l.levels else l

def dropOpen (l : Lexer) : Lexer :=
  { l with
    indent := ((l.levels.takeWhile fun v => !v.isBlock).getLast?.map Level.outer).getD l.indent
    levels := l.levels.dropWhile fun v => !v.isBlock }

/-- Opens a level one column further in, for what a block holds. -/
def openColumn (l : Lexer) : Lexer :=
  if l.inBlock && l.levels.head?.any Level.isBlock then
    { l with levels := ⟨l.indent, false⟩ :: l.levels, indent := l.indent + 1 }
  else l

/-- Opens a block at a column, if it is indented further than those around it. Its mark is put in
front of the given number of tokens, or else at the end. -/
def openBlock (l : Lexer) (column : Nat) (number : Option Nat) (t : Token) : Lexer :=
  if !l.inBlock then l
  else
    let l := match l.levels with
      | v :: rest =>
        if l.indent ≤ (column : Int) && !v.isBlock then
          { l with indent := v.outer, levels := rest }
        else l
      | [] => l
    if l.indent < (column : Int) then
      let l := { l with levels := ⟨l.indent, true⟩ :: l.levels, indent := column }
      number.elim (l.push t) fun n => l.insert n t
    else l

/-! ### Blanks -/

/-- Passes over blanks, line breaks and comments in front of a token. A tab in the indentation of a
block may stand on a line without a token only. The last argument bounds the steps. -/
def skipBlanks (l : Lexer) : Nat → Option Lexer
  | 0 => none
  | fuel + 1 =>
    match l.cursor.rest with
    | [] => some l
    | c :: _ =>
      if c == '\t' && !l.levels.isEmpty && l.cursor.fresh && l.cursor.column < l.indent then
        match l.toLineEnd true with
        | some (_, l) => if l.cursor.isAtLineEnd then l.skipBlanks fuel else none
        | none => none
      else if isSpace c then { l with cursor := l.cursor.blank }.skipBlanks fuel
      else if isBreak c then
        let l := if l.inBlock then l.allowKey else l
        { l with cursor := l.cursor.newline }.skipBlanks fuel
      else if c == '#' then { l with cursor := l.cursor.comment }.skipBlanks fuel
      else some l

def toToken (l : Lexer) : Option Lexer := l.skipBlanks (l.cursor.rest.length + 1)

/-- Passes over spaces, line breaks and comments behind the mark of a key. -/
def skipSpaces (l : Lexer) : Nat → Option Lexer
  | 0 => none
  | fuel + 1 =>
    match l.cursor.rest with
    | [] => some l
    | c :: _ =>
      if c == ' ' then { l with cursor := l.cursor.blank }.skipSpaces fuel
      else if isBreak c then
        let l := if l.inBlock then l.allowKey else l
        { l with cursor := l.cursor.newline }.skipSpaces fuel
      else if c == '#' then { l with cursor := l.cursor.comment }.skipSpaces fuel
      else some l

/-! ### Documents -/

def finish (l : Lexer) : Option Lexer :=
  if (l.candidate :: l.around).any fun c => c.possible && c.required then none
  else
    let l := { l with candidate := dismissed l.candidate, around := l.around.map dismissed }
    some { (l.closeTo (-1)).disallowKey with isDone := true }

def document (l : Lexer) (t : Token) : Option Lexer :=
  ((l.closeTo (-1)).dropKey).map fun l => (l.disallowKey.skip 3).pushAt 0 t

/-- The end of a document, behind which its line is empty. -/
def documentEnd (l : Lexer) : Option Lexer := do
  let (_, l) ← (← l.document .documentEnd).toLineEnd true
  if l.cursor.isAtLineEnd then some l else none

/-- A version: two numbers of at most nine digits with a point between them. -/
def version? (c : Cursor) : Option Cursor :=
  let (major, c) := (c.blanks isSpace).skipWhile Char.isDigit
  let (minor, after) := (c.skip 1).skipWhile Char.isDigit
  let isNumber := fun (cs : List Char) => !cs.isEmpty && cs.length ≤ 9
  if isNumber major && c.isAt (· == '.') && isNumber minor then some after else none

/-- The token of a directive by its name. An unknown one counts as a rule for no handle. -/
def directive? (name : String) (c : Cursor) : Option (Token × Cursor) :=
  if name = "YAML" then (version? c).map fun c => (.version, c)
  else if name = "TAG" then (tagRule? c).map fun (handle, text, c) => (.rule handle text, c)
  else some (.rule "" "", c.comment)

/-- A directive, which takes a line of its own. -/
def directive (l : Lexer) : Option Lexer := do
  let l := ((← (l.closeTo (-1)).dropKey).disallowKey).skip 1
  let (name, c) := l.cursor.skipWhile isWordChar
  if name.isEmpty || !Cursor.endsWord c.rest then none
  else
    let (t, c) ← directive? (String.ofList name) c
    let (_, c) ← c.toLineEnd true
    if c.isAtLineEnd then some ({ l with cursor := c.newline }.push t) else none

/-! ### Flow collections -/

def maxDepth : Nat := 255

def flowStart (l : Lexer) (t : Token) : Option Lexer :=
  let column := l.cursor.column
  let l := l.saveKey.openColumn
  if l.around.length = maxDepth then none
  else
    let l := { l with around := l.candidate :: l.around, candidate := {}, keyAllowed := true }
    let l := if t = .flowMapping then { l with inMapping := true }
      else { l with sequences := false :: l.sequences }
    ((l.skip 1).toLineEnd true).map fun (_, l) => l.pushAt column t

/-- Ends the mapping of one pair that is open in the innermost sequence. -/
def endPair (l : Lexer) : Lexer :=
  match l.sequences with
  | true :: rest => { l with inMapping := false, sequences := false :: rest }.push .flowMappingEnd
  | _ => l

def flowEnd (l : Lexer) (t : Token) : Option Lexer := do
  let l ← l.dropKey
  let l := match l.around with
    | c :: rest => { l with candidate := c, around := rest }
    | [] => l
  let l := l.disallowKey
  let l := if t = .flowSequenceEnd then
    let l := l.endPair
    { l with sequences := l.sequences.drop 1 } else l
  let column := l.cursor.column
  let (_, l) ← (l.skip 1).toLineEnd true
  let l := if l.inBlock then l else { l with adjacent := l.cursor.index }
  return l.pushAt column t

def flowEntry (l : Lexer) : Option Lexer := do
  let l := (← l.dropKey).allowKey.endPair
  let column := l.cursor.column
  let (_, l) ← (l.skip 1).toLineEnd true
  return l.pushAt column .flowEntry

/-! ### Marks of blocks -/

def isAtEntry (c : Cursor) : Bool :=
  c.isAt (· == '-') && Cursor.endsWord (c.rest.drop 1)

/-- Whether the last token is a property at the start of a line, and not settled. -/
def hasProperty (l : Lexer) : Bool :=
  l.settled < l.tokens.length &&
    l.tokens.getLast?.any fun (column, t) => column == 0 && t.isProperty

def blockEntry (l : Lexer) : Option Lexer := do
  if !l.inBlock || !l.keyAllowed then none
  else if l.cursor.column = 0 ∧ l.hasProperty ∧ -1 < l.indent then none
  else
    let l := (l.skip 1).openBlock l.cursor.column none .blockSequence
    let (blanks, l) ← l.toLineEnd true
    if blanks.tab && isAtEntry l.cursor then none
    else
      let l := if l.cursor.isAt fun c => isBreak c || isFlowMark c then l.openColumn else l
      return (← l.dropKey).allowKey.push .blockEntry

/-- The mark in front of a key of any kind. -/
def key (l : Lexer) : Option Lexer := do
  if l.inBlock && !l.keyAllowed then none
  else
    let column := l.cursor.column
    let l := if l.inBlock then l.openBlock column none .blockMapping
      else { l with inMapping := true }
    let l := (← l.dropKey).skip 1
    let l := { l with keyAllowed := l.inBlock }
    let after ← l.skipSpaces (l.cursor.rest.length + 1)
    let hasBlank := l.cursor.isAt fun c => c == ' ' || isBreak c
    if !hasBlank || after.cursor.isAt (· == '\t') then none else some (after.pushAt column .key)

/-- What follows a colon: a tab there must not stand directly in front of a word. -/
def valueBlank (l : Lexer) : Option Lexer :=
  if l.cursor.isAt (· == '\t') then
    (l.toLineEnd true).bind fun (blanks, l) =>
      if !blanks.space && l.cursor.isAt isWordChar then none
      else some l
  else some l

/-- A colon in front of a value. -/
def value (l : Lexer) : Option Lexer := do
  let isPair := !l.sequences.isEmpty && !l.inMapping
  let key := l.candidate
  let start := l.cursor
  let l := if isPair then { l with sequences := true :: l.sequences.drop 1 } else l
  let l ← (l.skip 1).valueBlank
  if key.possible then
    if isPair && key.line < start.line then none
    else
      let l := l.insert key.number .key
      let l := if isPair then l.insert key.number .flowMapping else l
      let l := (l.openBlock key.column (some key.number) .blockMapping).openColumn
      let l := { l with candidate := dismissed key }
      return l.disallowKey.pushAt start.column .value
  else
    let l := if isPair then l.push .flowMapping else l
    if l.inBlock && !l.keyAllowed then none
    else
      let l := (l.openBlock start.column none .blockMapping).openColumn
      return { l with keyAllowed := l.inBlock }.pushAt start.column .value

/-! ### Nodes -/

def isNameChar (c : Char) : Bool :=
  !(isSpace c || isBreak c || isFlowMark c || c == '\ufeff')

def named (l : Lexer) (token : String → Token) : Option Lexer :=
  let l := l.saveKey.disallowKey
  let (name, c) := (l.cursor.skip 1).skipWhile isNameChar
  if name.isEmpty then none
  else some ({ l with cursor := c }.pushAt l.cursor.column (token (String.ofList name)))

/-- A tag, behind which a word ends. -/
def tag (l : Lexer) : Option Lexer := do
  let l := l.saveKey.disallowKey
  let (handle, text, c) ← tag? l.cursor
  if Cursor.endsWord c.rest || (!l.inBlock && c.isAt isFlowMark) then
    some ({ l with cursor := c }.pushAt l.cursor.column (.tag handle text))
  else none

def blockText (l : Lexer) (literal : Bool) : Option Lexer :=
  let l := l.saveKey.allowKey.dropOpen
  (block? literal l.indent l.cursor).map fun (text, c) =>
    { l with cursor := c }.pushAt l.cursor.column (.scalar false text)

/-- Whether what comes next may stand behind a quoted text. -/
def endsQuoted (l : Lexer) (line : Nat) : Bool :=
  l.cursor.isAtLineEnd ||
    l.cursor.isAt fun c =>
      if c == ':' then !l.inBlock || l.cursor.line == line
      else !l.inBlock && [',', ']', '\x7d'].contains c

def quotedText (l : Lexer) (q : QuoteMark) : Option Lexer := do
  let l := l.saveKey.disallowKey
  let start := l.cursor
  let (text, c) ← quoted? q l.indent start
  let (_, l) ← { l with cursor := c }.toLineEnd true
  if l.endsQuoted start.line then
    let l ← l.toToken
    return { l with adjacent := l.cursor.index }.pushAt start.column (.scalar false text)
  else none

def plainText (l : Lexer) : Option Lexer :=
  let l := l.saveKey.disallowKey.dropOpen
  (plain? (!l.inBlock) l.indent l.cursor).map fun (text, c) =>
    { l with cursor := c, keyAllowed := c.fresh }.pushAt l.cursor.column (.scalar true text)

/-- Whether a colon here stands in front of a value. -/
def isValue (l : Lexer) (rest : List Char) : Bool :=
  Cursor.endsWord rest ||
    (!l.inBlock && (rest.head?.any isFlowMark || l.cursor.index == l.adjacent))

def token (l : Lexer) (c : Char) (rest : List Char) : Option Lexer :=
  match c with
  | '[' => l.flowStart .flowSequence
  | '\x7b' => l.flowStart .flowMapping
  | ']' => l.flowEnd .flowSequenceEnd
  | '\x7d' => l.flowEnd .flowMappingEnd
  | ',' => l.flowEntry
  | '*' => l.named .alias
  | '&' => l.named .anchor
  | '!' => l.tag
  | '\'' => l.quotedText .single
  | '"' => l.quotedText .double
  | '%' => none
  | '@' => none
  | '\x60' => none
  | '-' => if Cursor.endsWord rest then l.blockEntry else l.plainText
  | '?' => if Cursor.endsWord rest then l.key else l.plainText
  | ':' => if l.isValue rest then l.value else l.plainText
  | '|' => if l.inBlock then l.blockText true else l.plainText
  | '>' => if l.inBlock then l.blockText false else l.plainText
  | _ => l.plainText

def next (l : Lexer) : Option Lexer := do
  let l ← (← l.toToken).dropStale
  let l := l.closeTo l.cursor.column
  match l.cursor.rest with
  | [] => l.finish
  | c :: rest =>
    if l.cursor.column = 0 ∧ c = '%' then l.directive
    else if l.cursor.isAtMarks '-' then l.document .documentStart
    else if l.cursor.isAtMarks '.' then l.documentEnd
    else if l.cursor.column < l.indent then none
    else l.token c rest

/-- Reads to the end. Each step but the last reads a character at least. -/
def run (l : Lexer) : Nat → Option Lexer
  | 0 => none
  | fuel + 1 =>
    if l.isDone then some l
    else (l.settle.bind next).bind fun l => l.run fuel

end Lexer

/-- The tokens of a text, or nothing if it has none. -/
def tokens? (s : String) : Option (List Token) :=
  let cs := s.toList.takeWhile (· != '\x00')
  ((Lexer.run { cursor := { rest := cs } } (cs.length + 3)).map Lexer.tokens).map fun ts =>
    ts.map Prod.snd

end RoomRelay.Yaml
