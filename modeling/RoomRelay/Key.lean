import RoomRelay.Text.Quoted
import RoomRelay.Topic

/-!
Routing keys. A key names a room, a user and a kind of event, and is written as the topic
`hc.wb.1.evt.room.user.kind`. With wildcards for the user or the kind it is a subscription pattern.
-/
namespace RoomRelay

inductive Kind where
  | drawing
  | userJoined
  | userLeft
  deriving DecidableEq, Repr

namespace Kind

def all : List Kind := [drawing, userJoined, userLeft]

def name : Kind → String
  | drawing => "drawing"
  | userJoined => "userjoinedroom"
  | userLeft => "userleftroom"

def ofName? (s : String) : Option Kind :=
  all.find? fun k => k.name == s

end Kind

inductive KindFilter where
  | exact (kind : Kind)
  | any
  deriving DecidableEq, Repr

namespace KindFilter

def segment : KindFilter → String
  | exact kind => kind.name
  | any => Topic.wildcard

def ofSegment? (s : String) : Option KindFilter :=
  if s = Topic.wildcard then some any else (Kind.ofName? s).map exact

end KindFilter

/-- A room, a user and a kind. In a pattern the user may be the wildcard. -/
structure Key where
  room : String
  user : String
  kind : KindFilter
  deriving DecidableEq, Repr

inductive Key.Malformed where
  | version
  | bareVersion
  | shape
  | fieldCount
  | kind
  | other (reason : String)
  deriving DecidableEq, Repr

def Key.Malformed.reason : Key.Malformed → String
  | version => "protocol prefix mismatch"
  | bareVersion => "missing separator after prefix"
  | shape => "unknown key shape"
  | fieldCount => "field count mismatch"
  | kind => "unknown event kind"
  | other reason => reason

inductive KeyError where
  | malformed (topic : String) (why : Key.Malformed)
  | emptySegment (fields : List String) (index : Nat)
  | roundTrip (fields : List String) (got : String)
  | unsafeSegment (segment : String)
  deriving DecidableEq, Repr

def KeyError.message : KeyError → String
  | malformed topic why => s!"bad routing key {Text.quoted topic}: {why.reason}"
  | emptySegment fields index =>
    s!"empty routing key segment {Text.quotedList fields}[{index}]"
  | roundTrip fields got =>
    s!"routing key {Text.quotedList fields} does not round-trip: got {Text.quoted got}"
  | unsafeSegment segment => s!"segment {Text.quoted segment} is not topic-safe"

namespace Key

/-- Version mark that every topic begins with. It changes when the layout of keys does. -/
def version : String := "hc.wb.1"

def eventTag : String := "evt"

/-- Number of fields of a key behind the version mark. -/
def fieldCount : Nat := 4

def event (room user : String) (kind : Kind) : Key :=
  ⟨room, user, .exact kind⟩

def roomPattern (room : String) : Key :=
  ⟨room, Topic.wildcard, .any⟩

def isPattern (k : Key) : Bool :=
  k.user == Topic.wildcard || k.kind == .any

def fields (k : Key) : List String :=
  [eventTag, k.room, k.user, k.kind.segment]

def topicOf (fields : List String) : String :=
  version ++ Topic.join fields

/-- Fields that brokers cannot carry faithfully. -/
def isEmptyField (field : String) : Bool :=
  field == "" || field == "0"

def emptyFields (fields : List String) : List String :=
  fields.filter isEmptyField

def encode (k : Key) : String :=
  topicOf k.fields

def ofFields : List String → Except Malformed Key
  | [tag, room, user, kind] =>
    if tag = eventTag then
      match KindFilter.ofSegment? kind with
      | some kind => .ok ⟨room, user, kind⟩
      | none => .error .kind
    else .error .shape
  | tag :: _ => if tag = eventTag then .error .fieldCount else .error .shape
  | [] => .error .shape

def body (topic : List Char) : Except Malformed (List Char) :=
  match version.toList.isPrefixOf? topic with
  | none => .error .version
  | some (c :: rest) => if c = Topic.separator then .ok rest else .error .bareVersion
  | some [] => .error .bareVersion

def decode (topic : String) : Except KeyError Key :=
  match (body topic.toList).bind fun rest => ofFields ((Topic.pieces rest).map String.ofList) with
  | .ok k => .ok k
  | .error why => .error (.malformed topic why)

def checkSegment (s : String) : Except KeyError Unit :=
  if Topic.isSegment s then .ok () else .error (.unsafeSegment s)

/-- The strict check of one key: no field is empty, and its topic reads back as the key.
The answer is the number of fields. -/
def verify (k : Key) : Except KeyError Nat :=
  match k.fields.findIdx? isEmptyField with
  | some index => .error (.emptySegment k.fields index)
  | none =>
    match decode k.encode with
    | .error e => .error e
    | .ok back =>
      if back.fields ≠ k.fields then
        .error (.roundTrip k.fields (String.intercalate "." back.fields))
      else if back.encode ≠ k.encode then .error (.roundTrip k.fields back.encode)
      else .ok k.fields.length

def samples : List Key :=
  roomPattern "room" :: Kind.all.map (event "room" "user")

def verifyAll : List Key → Except KeyError Unit
  | [] => .ok ()
  | k :: ks =>
    match verify k with
    | .error e => .error e
    | .ok n => if n = fieldCount then verifyAll ks else .error (.roundTrip k.fields s!"{n} fields")

def verifySamples : Except KeyError Unit :=
  verifyAll samples

end Key
end RoomRelay
