import RoomRelay.Json

/-!
JSON written without blanks. A control character is escaped by its number; all else but quotes and
backslashes stands for itself. What has no text is written as nothing.
-/
namespace RoomRelay.Json

def escape (c : Char) : List Char :=
  if c = '"' ∨ c = '\\' then ['\\', c]
  else if c.toNat < 0x20 then
    ['\\', 'u', '0', '0', Text.hexDigit (c.toNat / 16), Text.hexDigit (c.toNat % 16)]
  else [c]

def printString (s : String) : List Char :=
  '"' :: s.toList.flatMap escape ++ ['"']

mutual

def printChars : Json → List Char
  | null => "null".toList
  | bool b => (if b then "true" else "false").toList
  | number lexeme => lexeme.toList
  | string s => printString s
  | halved => "null".toList
  | array [] => "[]".toList
  | array (item :: items) => '[' :: printChars item ++ printItems items
  | object [] => "\x7b\x7d".toList
  | object ((name, value) :: members) =>
    '\x7b' :: printString name ++ ':' :: printChars value ++ printMembers members

/-- The items behind the first, with the closing bracket. -/
def printItems : List Json → List Char
  | [] => [']']
  | item :: items => ',' :: printChars item ++ printItems items

def printMembers : List (String × Json) → List Char
  | [] => ['\x7d']
  | (name, value) :: members =>
    ',' :: printString name ++ ':' :: printChars value ++ printMembers members

end

def print (v : Json) : String :=
  String.ofList v.printChars

def ofNat (n : Nat) : Json :=
  number (toString n)

def ofInt (n : Int) : Json :=
  number (toString n)

end RoomRelay.Json
