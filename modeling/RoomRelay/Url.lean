import RoomRelay.Text.Hex
import RoomRelay.Text.Utf8

/-!
Addresses: a scheme, who asks, a host, a path and a query. Line breaks and tabs in an address count
as absent, and so do blanks around it. Characters may be escaped as bytes behind a percent sign. On
the web a backslash is a slash.
-/
namespace RoomRelay

structure Url where
  user : String := ""
  password : String := ""
  /-- The host, perhaps with a port. -/
  host : String
  /-- Nothing, or a slash and what follows. -/
  path : String
  query : Option String := none
  deriving DecidableEq, Repr

namespace Url

/-! ### Escapes -/

/-- The bytes of a text with escapes. A percent sign without two digits stands for itself. -/
def unescaped : List UInt8 → List UInt8
  | b :: c :: d :: rest =>
    match b == 37, Text.hexValue? (Char.ofNat c.toNat), Text.hexValue? (Char.ofNat d.toNat) with
    | true, some high, some low => (high * 16 + low).toUInt8 :: unescaped rest
    | _, _, _ => b :: unescaped (c :: d :: rest)
  | bs => bs

def unescape? (s : String) : Option String :=
  Text.ofUtf8? (unescaped (Text.utf8 s))

/-- A byte behind a percent sign, its digits in upper case. -/
def escapedByte (b : UInt8) : List Char :=
  '%' :: [b.toNat / 16, b.toNat % 16].map fun n => (Text.hexDigit n).toUpper

/-- Escapes what is no visible character of ASCII, and some that are. -/
def escape (marks : List Char) (s : String) : String :=
  String.ofList <| s.toList.flatMap fun c =>
    if ' ' < c ∧ c.toNat < 0x7F ∧ !marks.contains c then [c]
    else (Text.utf8 (String.singleton c)).flatMap escapedByte

/-! ### Paths -/

def isHere (step : String) : Bool :=
  [".", "%2e"].contains step.toLower

def isBack (step : String) : Bool :=
  ["..", ".%2e", "%2e.", "%2e%2e"].contains step.toLower

/-- The steps that are left when those that lead nowhere or back have been taken. `taken` holds the
steps before, the last one first. -/
def resolved (taken : List String) : List String → List String
  | [] => taken.reverse
  | [last] =>
    if isHere last then ("" :: taken).reverse
    else if isBack last then ("" :: taken.drop 1).reverse
    else (last :: taken).reverse
  | step :: rest =>
    if isHere step then resolved taken rest
    else if isBack step then resolved (taken.drop 1) rest
    else resolved (step :: taken) rest

def resolve (path : String) : String :=
  if path = "" then ""
  else "/" ++ String.intercalate "/" (resolved [] ((path.splitOn "/").drop 1))

/-! ### Reading -/

def stripped (s : String) : List Char :=
  let isBlank := fun (c : Char) => c.toNat ≤ 0x20
  (((s.toList.dropWhile isBlank).reverse.dropWhile isBlank).reverse).filter fun c =>
    c != '\t' && c != '\n' && c != '\r'

/-- The part in front of the last at sign, if there is one, and the part behind it. -/
def splitUser (cs : List Char) : Option (List Char) × List Char :=
  if cs.contains '@' then
    let host := (cs.reverse.takeWhile (· != '@')).reverse
    (some (cs.take (cs.length - host.length - 1)), host)
  else (none, cs)

def ofRest (cs : List Char) : Url :=
  let isEnd := fun (c : Char) => c == '/' || c == '?' || c == '#'
  let (who, host) := splitUser (cs.takeWhile fun c => !isEnd c)
  let user := who.getD []
  let name := user.takeWhile (· != ':')
  let rest := (cs.dropWhile fun c => !isEnd c).takeWhile (· != '#')
  let path := rest.takeWhile (· != '?')
  let query := rest.drop path.length
  { user := String.ofList name
    password := String.ofList (user.drop (name.length + 1))
    host := String.ofList host
    path := resolve (String.ofList path)
    query := if query.isEmpty then none else some (String.ofList (query.drop 1)) }

def parse? (s : String) : Option Url :=
  match (stripped s).dropWhile (· != ':') with
  | ':' :: '/' :: '/' :: rest => some (ofRest rest)
  | _ => none

/-! ### Addresses on the web -/

/-- Backslashes up to the query and the fragment become slashes. -/
def slashed : List Char → List Char
  | [] => []
  | c :: cs =>
    if c = '?' ∨ c = '#' then c :: cs else (if c = '\\' then '/' else c) :: slashed cs

/-- Whether a host can be asked: its port is a number of sixteen bits. -/
def isReachable (u : Url) : Bool :=
  let port := u.host.toList.dropWhile (· != ':')
  let digits := port.drop 1
  u.user == "" && u.password == "" && u.host != "" && !u.host.toList.head?.any (· == ':') &&
    digits.all Char.isDigit && digits.foldl (fun n c => n * 10 + (c.toNat - 48)) 0 < 65536

/-- Reads an address on the web, whose path is never empty. -/
def ofWeb? (s : String) : Option Url :=
  match (stripped s).dropWhile (· != ':') with
  | ':' :: rest =>
    let u := ofRest ((slashed rest).dropWhile (· == '/'))
    if u.isReachable then some { u with path := if u.path = "" then "/" else u.path } else none
  | _ => none

def target (u : Url) : String :=
  escape ['"', '#', '<', '>', '?', '\x60', '\x7b', '\x7d'] u.path ++
    (u.query.elim "" fun q => "?" ++ escape ['"', '#', '<', '>', '\''] q)

end Url
end RoomRelay
