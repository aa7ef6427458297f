import RoomRelay.Proofs.World.Happenings

/-!
Runs without some of their calls: the moves of a removed call go with it, and the calls that stay are
renumbered.
-/

namespace RoomRelay

namespace Happening

def task? : Happening → Option Nat
  | .move m => m.task?
  | .close => none

def about (j : Nat) : Happening → Happening
  | .move m => .move (m.about j)
  | .close => .close

end Happening

/-- A happening of a run; `removed` marks the beginning of a call that is taken out. -/
structure Marked where
  happening : Happening
  removed : Bool := false

def gone (svc : Service) (run : List Marked) : List Bool :=
  run.filterMap fun x => (x.happening.opens? svc).map fun _ => x.removed

/-- The number of call `i` among those that stay. -/
def place (gone : List Bool) (i : Nat) : Nat := (gone.take i).count false

/-- What stays of a happening: the moves of a removed call go with it, and the other calls are
renumbered. -/
def Marked.left? (x : Marked) (gone : List Bool) : Option Happening :=
  match x.happening.task? with
  | some i => if gone[i]? = some true then none else some (x.happening.about (place gone i))
  | none => if x.removed then none else some x.happening

/-- What stays of a run, behind calls that are marked by the list. -/
def thin (svc : Service) : List Bool → List Marked → List Happening
  | _, [] => []
  | before, x :: run => (x.left? before).toList ++ thin svc (before ++ gone svc [x]) run

theorem gone_append (svc : Service) (run more : List Marked) :
    gone svc (run ++ more) = gone svc run ++ gone svc more :=
  List.filterMap_append

theorem thin_snoc (svc : Service) (before : List Bool) (run : List Marked) (x : Marked) :
    thin svc before (run ++ [x]) =
      thin svc before run ++ (x.left? (before ++ gone svc run)).toList := by
  induction run generalizing before with
  | nil => simp [thin, gone]
  | cons y run ih =>
    rw [List.cons_append, thin, ih, thin, List.append_assoc, List.append_assoc, ← gone_append]
    rfl

section Places

variable {gone : List Bool} {i j : Nat}

theorem place_append (known : i ≤ gone.length) (more : List Bool) : place (gone ++ more) i = place gone i := by
  rw [place, List.take_append_of_le_length known, place]

theorem place_last (gone more : List Bool) : place (gone ++ more) gone.length = gone.count false := by
  rw [place, List.take_left]

theorem place_of_beyond (beyond : gone[i]? = none) : place gone i = gone.count false := by
  rw [place, List.take_of_length_le (List.getElem?_eq_none_iff.mp beyond)]

theorem place_of_new (new : gone.length ≤ i) (more : List Bool) :
    gone.count false ≤ place (gone ++ more) i := by
  rw [place, List.take_append, List.take_of_length_le new, List.count_append]
  exact Nat.le_add_right _ _

theorem place_lt (stays : gone[i]? = some false) : place gone i < gone.count false := by
  have inside := (List.getElem?_eq_some_iff.mp stays).1
  have split : gone.count false = (gone.take i).count false + (gone.drop i).count false := by
    rw [← List.count_append, List.take_append_drop]
  have first : gone.drop i = false :: gone.drop (i + 1) := by
    rw [List.drop_eq_getElem_cons inside, (List.getElem?_eq_some_iff.mp stays).2]
  rw [place, split, first, List.count_cons_self]
  omega

theorem place_lt_place (before : i < j) (stays : gone[i]? = some false) : place gone i < place gone j := by
  have here : (gone.take j)[i]? = some false := by rw [List.getElem?_take, if_pos before, stays]
  have low := place_lt here
  rwa [place, List.take_take, Nat.min_eq_left (Nat.le_of_lt before)] at low

theorem place_ne (stays : gone[i]? = some false) (stays' : gone[j]? = some false) (apart : j ≠ i) :
    place gone j ≠ place gone i := by
  rcases Nat.lt_or_gt_of_ne apart with before | behind
  · exact Nat.ne_of_lt (place_lt_place before stays')
  · exact Nat.ne_of_gt (place_lt_place behind stays)

end Places

end RoomRelay
