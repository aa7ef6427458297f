import RoomRelay.Double
import RoomRelay.Text.Hex
import RoomRelay.Yaml.Token

/-!
The tree that the tokens of a text make. A plain scalar means a number, a truth value or nothing if
it is spelled like one, and a tag may say what it is meant to be. An alias stands for the node that
was given its name last.
-/
namespace RoomRelay.Yaml

inductive Node where
  /-- What does not fit its tag, or is not complete where an alias stands for it. -/
  | bad
  | null
  | bool (b : Bool)
  | int (n : Int)
  /-- A number that is no integer, as it is spelled. -/
  | real (text : String)
  | text (s : String)
  | list (items : List Node)
  | mapping (members : List (Node × Node))
  deriving Repr, Inhabited

/-! ### Scalars -/

def based? (base : Nat) (cs : List Char) : Option Int :=
  let (negative, ds) := Double.splitSign cs
  let digit := fun c => (Text.hexValue? c).filter (· < base)
  if ds.isEmpty then none
  else
    (ds.foldlM (fun n c => (digit c).map (n * base + ·)) 0).map fun n =>
      if negative then -(n : Int) else n

/-- An integer in one of the forms with a mark in front: base sixteen, base eight, or a plus sign. -/
def marked? : List Char → Option Int
  | '0' :: 'x' :: cs => (based? 16 cs).filter Word.fits64
  | '0' :: 'o' :: cs => (based? 8 cs).filter Word.fits64
  | '+' :: cs => Text.smallIntOf? (String.ofList cs)
  | _ => none

def notFinite : List String :=
  let infinite := [".inf", ".Inf", ".INF"]
  infinite ++ infinite.map ("+" ++ ·) ++ infinite.map ("-" ++ ·) ++ [".nan", ".NaN", ".NAN"]

def isReal (s : String) : Bool :=
  notFinite.contains s || (Double.parse? s).isSome

namespace Node

def ofPlain (s : String) : Node :=
  match marked? s.toList with
  | some n => int n
  | none =>
    if s = "~" ∨ s = "null" then null
    else if s = "true" then bool true
    else if s = "false" then bool false
    else
      match Text.smallIntOf? s with
      | some n => int n
      | none => if isReal s then real s else text s

/-- What a plain scalar means under a tag with a name of the common kinds. -/
def ofKind (kind s : String) : Node :=
  if kind = "bool" then
    if s = "true" then bool true else if s = "false" then bool false else bad
  else if kind = "int" then (Text.smallIntOf? s).elim bad int
  else if kind = "float" then if isReal s then real s else bad
  else if kind = "null" then if s = "~" ∨ s = "null" then null else bad
  else text s

/-- What the handle of the common kinds stands for. -/
def commonHandle : String := "tag:yaml.org,2002:"

/-- The node of a scalar. Only a plain one has a meaning other than its text, and only tags of the
common kinds count. -/
def ofScalar (isPlain : Bool) (tag : Option (String × String)) (s : String) : Node :=
  match isPlain, tag with
  | false, _ => text s
  | true, none => ofPlain s
  | true, some (handle, kind) => if handle = commonHandle then ofKind kind s else text s

/-! ### Mappings -/

def isBad : Node → Bool
  | bad => true
  | _ => false

def same : Node → Node → Bool
  | null, null => true
  | bool a, bool b => a == b
  | int a, int b => a == b
  | real a, real b => a == b
  | text a, text b => a == b
  | _, _ => false

/-- Keys and values in turn make members. What is bad is no key: the next node takes its place. -/
def paired : List Node → List (Node × Node)
  | [] => []
  | k :: rest =>
    if k.isBad then paired rest
    else
      match rest with
      | v :: rest => (k, v) :: paired rest
      | [] => []

def hasTwins : List (Node × Node) → Bool
  | [] => false
  | (k, _) :: rest => rest.any (fun m => k.same m.1) || hasTwins rest

/-- A mapping gives each key once. -/
def mapping? (nodes : List Node) : Option Node :=
  let members := paired nodes
  if hasTwins members then none else some (mapping members)

end Node

/-! ### Trees -/

structure Reader where
  tokens : List Token
  rules : List (String × String) := []
  /-- The names of nodes, each with the number of the node that has it. -/
  names : List (String × Nat) := []
  complete : List (Nat × Node) := []
  named : Nat := 0
  deriving Inhabited

abbrev Reading := StateT Reader Option

namespace Reading

def peek : Reading (Option Token) := do return (← get).tokens.head?

def advance : Reading Unit := modify fun r => { r with tokens := r.tokens.drop 1 }

/-- The node that an alias stands for. One that is not complete counts as bad. -/
def aliased (name : String) : Reading Node := do
  let r ← get
  match r.names.lookup name with
  | some n => return (r.complete.lookup n).getD .bad
  | none => failure

def giveName (name : String) : Reading Nat := do
  let r ← get
  set { r with names := (name, r.named) :: r.names, named := r.named + 1 }
  return r.named

/-- What a tag says in full. A handle that has a mark at both ends needs a rule, except for the one
of the common kinds. -/
def fullTag (handle text : String) : Reading (String × String) := do
  let r ← get
  match r.rules.lookup handle with
  | some full => return (full, text)
  | none =>
    if handle = "!!" then return (Node.commonHandle, text)
    else if isNamedHandle handle.toList then failure
    else return (handle, text)

structure Properties where
  number : Option Nat
  tag : Option (String × String)

/-- A name and a tag, in either order; both may be absent. -/
def properties : Reading Properties := do
  match ← peek with
  | some (.anchor name) =>
    advance
    let n ← giveName name
    match ← peek with
    | some (.tag handle text) =>
      advance
      return ⟨some n, some (← fullTag handle text)⟩
    | _ => return ⟨some n, none⟩
  | some (.tag handle text) =>
    advance
    let tag ← fullTag handle text
    match ← peek with
    | some (.anchor name) =>
      advance
      return ⟨some (← giveName name), some tag⟩
    | _ => return ⟨none, some tag⟩
  | _ => return ⟨none, none⟩

def finish (p : Properties) (v : Node) : Reading Node := do
  match p.number with
  | some n => modify fun r => { r with complete := (n, v) :: r.complete }
  | none => pure ()
  return v

/-- A node without content, which has to have a name or a tag. -/
def empty (p : Properties) : Reading Node :=
  if p.number.isSome || p.tag.isSome then return Node.ofScalar true p.tag "" else failure

def mapping (nodes : List Node) : Reading Node := (Node.mapping? nodes).elim failure pure

mutual

/-- A node: whether marks of blocks may begin it, and whether a list may stand as far out as the key
in front of it. The first argument bounds the steps. -/
def node : Nat → Bool → Bool → Reading Node
  | 0, _, _ => failure
  | fuel + 1, inBlock, flat => do
    match ← peek with
    | some (.alias name) =>
      advance
      aliased name
    | _ =>
      let p ← properties
      match ← peek with
      | some (.scalar isPlain text) =>
        advance
        finish p (Node.ofScalar isPlain p.tag text)
      | some .flowSequence =>
        advance
        finish p (.list (← flowItems fuel true))
      | some .flowMapping =>
        advance
        finish p (← mapping (← flowMembers fuel true))
      | some .blockSequence =>
        if inBlock then
          advance
          finish p (.list (← blockItems fuel))
        else finish p (← empty p)
      | some .blockMapping =>
        if inBlock then
          advance
          finish p (← mapping (← blockMembers fuel))
        else finish p (← empty p)
      | some .blockEntry =>
        if flat then finish p (.list (← flatItems fuel)) else finish p (← empty p)
      | _ => finish p (← empty p)

/-- A node, or nothing in front of the given tokens. -/
def nodeUnless : Nat → List Token → Bool → Bool → Reading Node
  | 0, _, _, _ => failure
  | fuel + 1, ends, inBlock, flat => do
    if (← peek).any ends.contains then return .null else node fuel inBlock flat

def blockItems : Nat → Reading (List Node)
  | 0 => failure
  | fuel + 1 => do
    match ← peek with
    | some .blockEnd =>
      advance
      return []
    | some .blockEntry =>
      advance
      let v ← nodeUnless fuel [.blockEntry, .blockEnd] true false
      return v :: (← blockItems fuel)
    | _ => failure

/-- The entries of a list that stands as far out as its key, which nothing closes. -/
def flatItems : Nat → Reading (List Node)
  | 0 => failure
  | fuel + 1 => do
    match ← peek with
    | some .blockEntry =>
      advance
      let v ← nodeUnless fuel [.blockEntry, .key, .value, .blockEnd] true false
      return v :: (← flatItems fuel)
    | _ => return []

/-- The keys and values of a block in turn; either may be absent. -/
def blockMembers : Nat → Reading (List Node)
  | 0 => failure
  | fuel + 1 => do
    match ← peek with
    | some .blockEnd =>
      advance
      return []
    | some .key =>
      advance
      let k ← nodeUnless fuel [.key, .value, .blockEnd] true true
      let v ← blockValue fuel
      return k :: v :: (← blockMembers fuel)
    | some .value =>
      let v ← blockValue fuel
      return .null :: v :: (← blockMembers fuel)
    | _ => failure

def blockValue : Nat → Reading Node
  | 0 => failure
  | fuel + 1 => do
    match ← peek with
    | some .value =>
      advance
      nodeUnless fuel [.key, .value, .blockEnd] true true
    | _ => return .null

/-- The items of a flow sequence; a comma stands in front of each but the first. -/
def flowItems : Nat → Bool → Reading (List Node)
  | 0, _ => failure
  | fuel + 1, isFirst => do
    match isFirst, ← peek with
    | false, some .flowEntry => advance
    | false, some .flowSequenceEnd => pure ()
    | false, _ => failure
    | true, _ => pure ()
    match ← peek with
    | some .flowSequenceEnd =>
      advance
      return []
    | some .key =>
      advance
      let k ← pairKey fuel
      let v ← flowValue fuel [.flowEntry, .flowSequenceEnd]
      return (← mapping [k, v]) :: (← flowItems fuel false)
    | _ =>
      let v ← node fuel false false
      return v :: (← flowItems fuel false)

/-- The key of a single pair in a flow sequence. Without one the next mark is passed over. -/
def pairKey : Nat → Reading Node
  | 0 => failure
  | fuel + 1 => do
    if (← peek).any [Token.value, .flowEntry, .flowSequenceEnd].contains then
      advance
      return .null
    else node fuel false false

/-- The value of a key in a flow collection, which may end in front of the given tokens. -/
def flowValue : Nat → List Token → Reading Node
  | 0, _ => failure
  | fuel + 1, ends => do
    match ← peek with
    | some .value =>
      advance
      nodeUnless fuel ends false false
    | _ => return .null

/-- The keys and values of a flow mapping in turn; a comma stands in front of each key but the
first. -/
def flowMembers : Nat → Bool → Reading (List Node)
  | 0, _ => failure
  | fuel + 1, isFirst => do
    match isFirst, ← peek with
    | false, some .flowEntry => advance
    | false, some .flowMappingEnd => pure ()
    | false, _ => failure
    | true, _ => pure ()
    match ← peek with
    | some .flowMappingEnd =>
      advance
      return []
    | some .key =>
      advance
      let k ← nodeUnless fuel [.value, .flowEntry, .flowMappingEnd] false false
      let v ← flowValue fuel [.flowEntry, .flowMappingEnd]
      return k :: v :: (← flowMembers fuel false)
    | some .value =>
      let v ← flowValue fuel [.flowEntry, .flowMappingEnd]
      return .null :: v :: (← flowMembers fuel false)
    | _ =>
      let k ← node fuel false false
      return k :: .null :: (← flowMembers fuel false)

end

/-- The directives in front of a document: whether there are any. Each rule replaces those before
it, and so does a version, which is given once. -/
def directives (versioned : Bool) : List Token → Reading Bool
  | .version :: rest => do
    if versioned then failure
    modify fun r => { r with tokens := rest, rules := [] }
    let _ ← directives true rest
    return true
  | .rule handle text :: rest => do
    modify fun r => { r with tokens := rest, rules := [(handle, text)] }
    let _ ← directives versioned rest
    return true
  | _ => return false

/-- A document. Behind directives it needs a mark of its beginning, and behind the mark it may be
empty. -/
def document (fuel : Nat) : Reading Node := do
  let directed ← directives false (← get).tokens
  match directed, ← peek with
  | _, some .documentStart =>
    advance
    match ← peek with
    | none => return .null
    | some .documentStart => return .null
    | some .documentEnd => return .null
    | some .version => return .null
    | some (.rule _ _) => return .null
    | _ => node fuel true false
  | true, _ => failure
  | false, _ => node fuel true false

end Reading

def dropEnds (ts : List Token) : List Token := ts.dropWhile (· == .documentEnd)

/-- The document that tokens hold: at most one, and it uses all of them. -/
def Node.ofTokens? (ts : List Token) : Option (Option Node) :=
  match dropEnds ts with
  | [] => some none
  | ts =>
    match (Reading.document (3 * ts.length + 3)).run { tokens := ts } with
    | some (v, r) => if (dropEnds r.tokens).isEmpty then some (some v) else none
    | none => none

end RoomRelay.Yaml
