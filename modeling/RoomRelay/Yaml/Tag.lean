import RoomRelay.Text.Hex
import RoomRelay.Yaml.Cursor

/-!
The texts of tags: a handle, which a rule of the document may replace, and what follows it.
Characters may be written as bytes in base sixteen.
-/
namespace RoomRelay.Yaml

def isUriChar (c : Char) : Bool :=
  isWordChar c || "#;/?:@&=+$,.!~*'()[]%".contains c

def isTagChar (c : Char) : Bool :=
  isUriChar c && !isFlowMark c && c != '!'

def escapedByte? : List Char → Option Nat
  | '%' :: a :: b :: _ => do return (← Text.hexValue? a) * 16 + (← Text.hexValue? b)
  | _ => none

def escapedBytes? : Nat → List Char → Option (List Nat)
  | 0, _ => some []
  | n + 1, cs => do return (← escapedByte? cs) :: (← escapedBytes? n (cs.drop 3))

def byteCount? (first : Nat) : Option Nat :=
  if first < 0x80 then some 1
  else if first < 0xC0 then none
  else if first < 0xE0 then some 2
  else if first < 0xF0 then some 3
  else if first < 0xF8 then some 4
  else none

/-- An escaped character and the length of its escape. Its bytes make one number, the code point. -/
def escaped? (cs : List Char) : Option (Char × Nat) := do
  let count ← byteCount? (← escapedByte? cs)
  let bytes ← escapedBytes? count cs
  let code := bytes.foldl (fun n b => n * 0x100 + b) 0
  let continued := (bytes.drop 1).all fun b => 0x80 ≤ b && b < 0xC0
  if continued && code.isValidChar then some (Char.ofNat code, 3 * count) else none

/-- Characters of a kind, escaped ones among them. The last argument bounds the steps. -/
def uriText (kind : Char → Bool) (c : Cursor) : Nat → Option (List Char × Cursor)
  | 0 => none
  | fuel + 1 =>
    match c.rest with
    | [] => some ([], c)
    | '%' :: _ => do
      let (d, n) ← escaped? c.rest
      let (more, c) ← uriText kind (c.skip n) fuel
      return (d :: more, c)
    | d :: _ =>
      if kind d then do
        let (more, c) ← uriText kind (c.skip 1) fuel
        return (d :: more, c)
      else some ([], c)

def uri? (kind : Char → Bool) (c : Cursor) : Option (List Char × Cursor) :=
  uriText kind c (c.rest.length + 1)

/-- A handle: an exclamation mark, a word, and perhaps one more mark. -/
def handle? (c : Cursor) : Option (List Char × Cursor) :=
  if c.isAt (· == '!') then
    let (word, c) := (c.skip 1).skipWhile isWordChar
    if c.isAt (· == '!') then some ('!' :: word ++ ['!'], c.skip 1) else some ('!' :: word, c)
  else none

def isNamedHandle (handle : List Char) : Bool :=
  handle.length ≥ 2 && handle.getLast? == some '!'

/-- A tag: its handle and what follows. A lone mark has no handle, and neither has an address
between angle brackets. -/
def tag? (c : Cursor) : Option (String × String × Cursor) :=
  if c.rest.take 2 = ['!', '<'] then do
    let (address, c) ← uri? isUriChar (c.skip 2)
    if c.isAt (· == '>') then some ("", String.ofList address, c.skip 1) else none
  else do
    let (handle, c) ← handle? c
    let (text, c) ← uri? isTagChar c
    if isNamedHandle handle then
      if text.isEmpty then none else some (String.ofList handle, String.ofList text, c)
    else
      let text := handle.drop 1 ++ text
      if text.isEmpty then some ("", "!", c) else some ("!", String.ofList text, c)

def tagRule? (c : Cursor) : Option (String × String × Cursor) := do
  let (handle, c) ← handle? (c.blanks isSpace)
  if handle ≠ ['!'] ∧ !isNamedHandle handle then none
  else
    let c := c.blanks isSpace
    let (first, c) ←
      if c.isAt (· == '!') then some (['!'], c.skip 1)
      else if c.isAt isTagChar then some ([], c)
      else none
    let (text, c) ← uri? isUriChar c
    if Cursor.endsWord c.rest then
      some (String.ofList handle, String.ofList (first ++ text), c)
    else none

end RoomRelay.Yaml
