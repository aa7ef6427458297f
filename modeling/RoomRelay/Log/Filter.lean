import RoomRelay.Log.Directive

/-!
The filter that says which lines of the log are written. A filter is a list of directives, and of
those that match a line the most specific decides. No line is written inside of a span, so
directives on spans and on values let nothing through.
-/
namespace RoomRelay

abbrev LogFilter := List LogDirective

namespace LogFilter

/-- The pieces between commas that are not empty. -/
def pieces (s : String) : List (List Char) :=
  (s.splitOn ",").filterMap fun p => if p = "" then none else some p.toList

def upTo (level : LogLevel) : LogFilter := [{ rank := level.rank }]

/-- Reads a list of directives. An empty list lets errors through. -/
def ofString? (s : String) : Option LogFilter :=
  match pieces s with
  | [] => some (upTo .error)
  | ps => (ps.mapM LogDirective.ofChars?).map fun ds => ds.filter LogDirective.isStatic

/-- The filter that a variable asks for, and the usual one if it is not set or cannot be read. -/
def ofVariable (v : Option String) : LogFilter :=
  (v.bind ofString?).getD (upTo .info)

def directive? (f : LogFilter) (l : LogLine) : Option LogDirective :=
  (f.filter fun d => d.isMatch l).foldl
    (fun best d => some (best.elim d fun b => if d.outranks b then d else b)) none

def admits (f : LogFilter) (l : LogLine) : Bool :=
  (f.directive? l).any fun d => l.level.rank ≤ d.rank

end LogFilter
end RoomRelay
