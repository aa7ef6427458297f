import RoomRelay.Text.Blank

/-!
Topics: texts cut into segments by a separator. A pattern is a topic whose segments may be
wildcards; it selects the topics of the same number of segments that agree with it elsewhere.
-/
namespace RoomRelay.Topic

def separator : Char := '.'

def wildcard : String := "*"

/-- Characters that mean something in the topic syntax of at least one broker. -/
def reserved : List Char := ['.', '/', '*', '>', '#']

/-- The stretches between separators, in order; there is always at least one. -/
def pieces : List Char → List (List Char)
  | [] => [[]]
  | c :: cs =>
    if c = separator then [] :: pieces cs
    else
      match pieces cs with
      | [] => [[c]]
      | p :: ps => (c :: p) :: ps

def segments (topic : String) : List String :=
  (pieces topic.toList).map String.ofList

/-- Segment by segment: a wildcard agrees with any segment, any other only with itself. -/
def segmentsAgree : List String → List String → Bool
  | [], [] => true
  | p :: ps, t :: ts => (p == wildcard || p == t) && segmentsAgree ps ts
  | _, _ => false

def selects (pattern topic : String) : Bool :=
  segmentsAgree (segments pattern) (segments topic)

/-- Whether a text keeps its meaning as one segment on every broker. -/
def isSafe (s : String) : Bool :=
  s.toList.all fun c => !(reserved.contains c || Text.isBlankChar c)

def isSegment (s : String) : Bool :=
  !s.isEmpty && isSafe s

/-- Each item behind a separator. -/
def join (items : List String) : String :=
  String.join (items.map fun item => String.singleton separator ++ item)

end RoomRelay.Topic
