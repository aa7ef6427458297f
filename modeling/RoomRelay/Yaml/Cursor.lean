/-!
A place in a text that is read from front to back, with its line and column, and the classes of
characters that matter on the way.
-/
namespace RoomRelay.Yaml

def isSpace (c : Char) : Bool := c == ' ' || c == '\t'

def isBreak (c : Char) : Bool := c == '\n' || c == '\r'

def isFlowMark (c : Char) : Bool := [',', '[', ']', '\x7b', '\x7d'].contains c

def isWordChar (c : Char) : Bool := c.isAlphanum || c == '_' || c == '-'

structure Cursor where
  rest : List Char
  index : Nat := 0
  line : Nat := 0
  column : Nat := 0
  /-- Whether nothing but blanks stood on the line so far. -/
  fresh : Bool := true
  deriving Repr

namespace Cursor

def isAt (c : Cursor) (kind : Char → Bool) : Bool := c.rest.head?.any kind

def isAtEnd (c : Cursor) : Bool := c.rest.isEmpty

def isAtLineEnd (c : Cursor) : Bool := c.rest.head?.all isBreak

def endsWord (cs : List Char) : Bool := cs.head?.all fun c => isSpace c || isBreak c

def blank (c : Cursor) : Cursor :=
  { c with rest := c.rest.drop 1, index := c.index + 1, column := c.column + 1 }

/-- Passes over characters of one line. -/
def skip (c : Cursor) (n : Nat) : Cursor :=
  { c with rest := c.rest.drop n, index := c.index + n, column := c.column + n, fresh := false }

/-- Passes over a line break. A return and a line feed make one; the end of the text is none. -/
def newline (c : Cursor) : Cursor :=
  match c.rest with
  | '\r' :: '\n' :: rest => ⟨rest, c.index + 2, c.line + 1, 0, true⟩
  | b :: rest => if isBreak b then ⟨rest, c.index + 1, c.line + 1, 0, true⟩ else c
  | [] => c

/-- Passes over all characters of a kind, none of which is a line break. -/
def skipWhile (c : Cursor) (kind : Char → Bool) : List Char × Cursor :=
  let taken := c.rest.takeWhile kind
  (taken, if taken.isEmpty then c else c.skip taken.length)

def blanks (c : Cursor) (kind : Char → Bool) : Cursor :=
  let n := (c.rest.takeWhile kind).length
  { c with rest := c.rest.drop n, index := c.index + n, column := c.column + n }

def comment (c : Cursor) : Cursor :=
  (c.skipWhile fun d => !isBreak d).2

/-- Whether three marks stand alone at the start of a line. -/
def isAtMarks (c : Cursor) (mark : Char) : Bool :=
  c.column == 0 && c.rest.take 3 == [mark, mark, mark] && endsWord (c.rest.drop 3)

def isAtDocument (c : Cursor) : Bool := c.isAtMarks '-' || c.isAtMarks '.'

structure Blanks where
  tab : Bool
  space : Bool
  deriving Repr

/-- Passes over blanks and a comment, which has to stand behind a blank. Tabs count as blanks only
if told so. -/
def toLineEnd (c : Cursor) (tabs : Bool) : Option (Blanks × Cursor) :=
  let kind := fun d => d == ' ' || (tabs && d == '\t')
  let passed := c.rest.takeWhile kind
  let after := c.blanks kind
  let found : Blanks := ⟨passed.contains '\t', passed.contains ' '⟩
  if after.isAt (· == '#') then
    if passed.isEmpty then none else some (found, after.comment)
  else some (found, after)

end Cursor
end RoomRelay.Yaml
