import RoomRelay.Proofs.Settings.Leaf
import RoomRelay.Settings.Path

/-!
Sources merged by `layer`, seen along one way. `Value.word` is what a value says about the end of the
way: nothing, a value, or that what was there is gone. What is found in the merged sources agrees with
their `lastWord`.
-/
namespace RoomRelay.Settings

/-- What a source says about the end of a way. -/
inductive Word where
  | silent
  | gives (v : Value)
  /-- Something else takes the place of a section on the way. -/
  | discards
  /-- An item is counted from the end of a list, so that it depends on the list which one is meant. -/
  | unclear

def Word.under : Word → Word → Word
  | w, .silent => w
  | _, later => later

def Word.last : List Word → Word
  | [] => .silent
  | w :: ws => w.under (last ws)

/-- What `v` says where it replaces all that was there. -/
def Value.anew (way : List Hop) (v : Value) : Word :=
  match v.sight way with
  | .found w => .gives w
  | _ => .discards

/-- What `v` says where it is merged into what was there: names count in any case, an empty table is
silent, and a list replaces. -/
def Value.word : List Hop → Value → Word
  | _, .table [] => .silent
  | [], v => .gives (v.onto none)
  | .member name :: way, .table members =>
    .last (members.map fun m => if Text.lower m.1 = name then m.2.word way else .silent)
  | hop :: way, v => v.anew (hop :: way)

/-- What `v` says at the end of a path. The sections on the path keep their other members and
items. -/
def Step.word : List Step → List Hop → Value → Word
  | [], way, v => v.word way
  | [.item i], .item j :: way, v =>
    if i < 0 then .unclear else if i = j then v.anew way else .silent
  | .member n :: steps, .member name :: way, v =>
    if Text.lower n = name then word steps way v else .silent
  | .item i :: steps, .item j :: way, v =>
    if i < 0 then .unclear else if i = j then word steps way v else .silent
  | .member n :: _, [], _ => .gives (.table [(Text.lower n, .null)])
  | .item _ :: _, [], _ => .gives (.list [])
  | _ :: _, _ :: _, _ => .discards

/-- What a source says; its names at the top are paths. -/
def said (way : List Hop) (source : Table) : Word :=
  .last (source.map fun m => Step.word (Step.path m.1) way m.2)

def lastWord (way : List Hop) (sources : List Table) : Word :=
  .last (sources.map (said way))

theorem Word.silent_under (w : Word) : silent.under w = w := by
  cases w <;> rfl

theorem Word.under_assoc (a b c : Word) : (a.under b).under c = a.under (b.under c) := by
  cases b <;> cases c <;> rfl

/-! ### Tables -/

namespace Table

theorem lookup_cons (name n : String) (v : Value) (t : Table) :
    List.lookup name ((n, v) :: t) = if name = n then some v else t.lookup name := by
  rcases eq_or_ne name n with rfl | other
  · simp
  · simp [List.lookup_cons, beq_false_of_ne other, other]

theorem lookup_set (name : String) (v : Value) (t : Table) (other : String) :
    (t.set name v).lookup other = if other = name then some v else t.lookup other := by
  induction t with
  | nil => rw [set, lookup_cons]
  | cons m t ih =>
    obtain ⟨n, old⟩ := m
    rw [set, lookup_cons]
    split
    case isTrue same =>
      subst same
      rw [lookup_cons]
      split <;> rfl
    case isFalse different =>
      rw [lookup_cons, ih]
      split
      case isTrue here =>
        subst here
        rw [if_neg different]
      case isFalse => rfl

theorem mem_names_set {name : String} {v : Value} {t : Table} {other : String} :
    other ∈ (t.set name v).map Prod.fst ↔ other = name ∨ other ∈ t.map Prod.fst := by
  induction t with
  | nil => simp [set]
  | cons m t ih =>
    obtain ⟨n, old⟩ := m
    rw [set]
    split
    case isTrue same => simp [same]
    case isFalse => simp only [List.map_cons, List.mem_cons, ih, or_left_comm]

end Table

theorem Value.mem_names_allOnto {ms base : Table} {other : String} :
    other ∈ (allOnto base ms).map Prod.fst ↔
      other ∈ base.map Prod.fst ∨ ∃ m ∈ ms, Text.lower m.1 = other := by
  induction ms generalizing base with
  | nil => simp [allOnto]
  | cons m ms ih =>
    rw [allOnto, ih, Table.mem_names_set]
    simp only [List.exists_mem_cons_iff, eq_comm, or_assoc, or_left_comm]

theorem Value.allOnto_alone {ms : Table} {name : String} (alone : ∀ m ∈ ms, Text.lower m.1 = name)
    (v : Value) : ∃ w, allOnto [(name, v)] ms = [(name, w)] := by
  induction ms generalizing v with
  | nil => exact ⟨v, rfl⟩
  | cons m ms ih =>
    rw [allOnto, alone m List.mem_cons_self, Table.set, if_pos rfl]
    exact ih (fun m member => alone m (List.mem_cons_of_mem _ member)) _

theorem Value.members_getD (old : Option Value) :
    (old.getD .null).members = old.elim [] members := by
  cases old <;> rfl

theorem Value.items_getD (old : Option Value) : (old.getD .null).items = old.elim [] items := by
  cases old <;> rfl

/-- `change` at an index that is counted from the front. -/
theorem Step.getElem?_change (f : Value → Value) (vs : List Value) {i : Int} (front : ¬i < 0)
    (j : Nat) : (change f vs i)[j]? =
      if i = j then some (f (vs[j]?.getD .null))
      else if j < vs.length then vs[j]? else if j < i then some .null else none := by
  obtain ⟨n, rfl⟩ := Int.eq_ofNat_of_zero_le (Int.not_lt.mp front)
  have position : position? vs.length n = some n := by simp [position?]
  let longer := vs ++ List.replicate (n + 1 - vs.length) .null
  have inside : n < longer.length := by
    simp only [longer, List.length_append, List.length_replicate]
    omega
  have item (k : Nat) : longer[k]? =
      if k < vs.length then vs[k]? else if k ≤ n then some .null else none := by
    rw [List.getElem?_append, List.getElem?_replicate]
    split
    · rfl
    · exact if_congr (by omega) rfl rfl
  have changed : change f vs n = longer.set n (f (longer.getD n .null)) := by
    rw [List.set_eq_take_append_cons_drop, if_pos inside, change, position]
  rw [changed, List.getElem?_set]
  by_cases same : n = j
  · subst same
    rw [if_pos rfl, if_pos inside, if_pos rfl, List.getD_eq_getElem?_getD, item]
    split
    · rfl
    · rename_i beyond
      rw [if_pos (Nat.le_refl n), List.getElem?_eq_none (Nat.not_lt.mp beyond)]
      rfl
  · rw [if_neg same, if_neg (by omega), item]
    split
    · rfl
    · exact if_congr (by omega) rfl rfl

/-! ### What agrees with the last word -/

section
variable {α : Type} (read : Value → Option α)

/-- What is found agrees with the last word: a given value with the same reading, and otherwise
nothing that can be read. -/
def Word.Agrees : Word → Sight → Prop
  | .silent, seen | .discards, seen => ∀ v, seen = .found v → read v = none
  | .gives v, seen => ∃ w, seen = .found w ∧ ∀ x, read w = some x → read v = some x
  | .unclear, _ => True

end

def sightIn (way : List Hop) (old : Option Value) : Sight :=
  old.elim .absent (Value.sight way)

theorem Value.sight_member (name : String) (way : List Hop) (members : Table) :
    Value.sight (.member name :: way) (.table members) = sightIn way (members.lookup name) := by
  cases members <;> rfl

theorem Value.sight_item_table (i : Nat) (way : List Hop) (members : Table) (v : Value) :
    Value.sight (.item i :: way) (.table members) ≠ .found v := by
  cases members <;> exact nofun

theorem Value.word_member (name : String) (way : List Hop) (members : Table) :
    Value.word (.member name :: way) (.table members) =
      .last (members.map fun m => if Text.lower m.1 = name then m.2.word way else .silent) := by
  cases members <;> rfl

section
variable {α : Type} {read : Value → Option α} {w : Word} {old : Option Value}

theorem Scalar.read_alone (scalar : Scalar read) {members : Table} {x : α}
    (found : read (.table members) = some x) {name : String} (member : name ∈ members.map Prod.fst)
    (v : Value) : read (.table [(name, v)]) = some x := by
  obtain ⟨n, _, rfl, alone⟩ := scalar.table found
  obtain rfl : name = n := by simpa using member
  exact alone v

/-- `read` does not tell whether a table was merged into something. -/
theorem Scalar.read_onto (scalar : Scalar read) {m : String × Value} {ms : Table} {x : α}
    (found : read ((Value.table (m :: ms)).onto old) = some x) :
    read ((Value.table (m :: ms)).onto none) = some x := by
  rw [Value.onto] at found ⊢
  obtain ⟨name, _, alone, -⟩ := scalar.table found
  have named : ∀ m' ∈ m :: ms, Text.lower m'.1 = name := by
    intro m' member
    have named : Text.lower m'.1 ∈ (Value.allOnto (old.elim [] Value.members) (m :: ms)).map Prod.fst :=
      Value.mem_names_allOnto.mpr (.inr ⟨m', member, rfl⟩)
    rw [alone] at named
    simpa using named
  obtain ⟨w, only⟩ := Value.allOnto_alone (fun m' member => named m' (List.mem_cons_of_mem _ member))
    (Value.onto none m.2)
  have first : Value.allOnto [] (m :: ms) = [(name, w)] := by
    rw [Value.allOnto, named m List.mem_cons_self]
    exact only
  rw [Option.elim_none, first]
  exact scalar.read_alone found (by simp [alone]) w

theorem Value.sight_here {name : String} {members : Table} (member : name ∈ members.map Prod.fst) :
    Value.sight [] (.table members) = .found (.table members) := by
  cases members with
  | nil => cases member
  | cons m ms => rfl

namespace Word.Agrees

theorem unseen {seen seen' : Sight} (agrees : w.Agrees read seen) (before : ∀ v, seen ≠ .found v)
    (after : ∀ v, seen' ≠ .found v) : w.Agrees read seen' := by
  cases w with
  | silent | discards => exact fun v found => absurd found (after v)
  | gives =>
    obtain ⟨v, found, -⟩ := agrees
    exact absurd found (before v)
  | unclear => trivial

theorem discarded {seen : Sight} (after : ∀ v, seen ≠ .found v) : Word.discards.Agrees read seen :=
  fun v found => absurd found (after v)

theorem given (v : Value) : (Word.gives v).Agrees read (.found v) :=
  ⟨v, rfl, fun _ found => found⟩

theorem anew (w : Word) (way : List Hop) (v : Value) :
    (w.under (v.anew way)).Agrees read (v.sight way) := by
  unfold Value.anew
  cases v.sight way with
  | absent => exact discarded nofun
  | found v => exact given v
  | blocked => exact discarded nofun

theorem member {name : String} {way : List Hop}
    (agrees : w.Agrees read (sightIn (.member name :: way) old)) :
    w.Agrees read (sightIn way ((old.elim [] Value.members).lookup name)) := by
  match old with
  | none => exact agrees
  | some (.table members) =>
    rw [sightIn, Option.elim_some, Value.sight_member] at agrees
    exact agrees
  | some .null | some (.bool _) | some (.int _) | some (.real _) | some (.text _) | some (.list _) =>
    exact agrees.unseen (fun _ => nofun) fun _ => nofun

theorem item {i : Nat} {way : List Hop} (agrees : w.Agrees read (sightIn (.item i :: way) old)) :
    w.Agrees read (sightIn way ((old.elim [] Value.items)[i]?)) := by
  match old with
  | none => exact agrees
  | some (.list items) => exact agrees
  | some (.table []) => exact agrees
  | some (.table (_ :: _)) | some .null | some (.bool _) | some (.int _) | some (.real _)
  | some (.text _) => exact agrees.unseen (fun _ => nofun) fun _ => nofun

theorem filled (scalar : Scalar read) {way : List Hop} (agrees : w.Agrees read .absent) :
    w.Agrees read (Value.null.sight way) := by
  cases way with
  | nil =>
    cases w with
    | silent | discards =>
      rintro _ ⟨rfl⟩
      exact scalar.null
    | gives =>
      obtain ⟨_, found, -⟩ := agrees
      cases found
    | unclear => trivial
  | cons hop way => exact agrees.unseen (fun _ => nofun) fun _ => nofun

theorem empty {way : List Hop} (agrees : w.Agrees read (sightIn way old)) :
    w.Agrees read ((old.getD (.table [])).sight way) := by
  cases old with
  | some v => exact agrees
  | none => cases way <;> exact agrees

/-- A table merged into `base`, by what becomes of each member. -/
theorem allOnto {name : String} {way : List Hop}
    (inner : ∀ {w : Word} {old : Option Value} (v : Value), w.Agrees read (sightIn way old) →
      (w.under (v.word way)).Agrees read ((v.onto old).sight way))
    {w : Word} {base : Table} (members : Table)
    (agrees : w.Agrees read (sightIn way (base.lookup name))) :
    (w.under (.last (members.map fun m =>
      if Text.lower m.1 = name then m.2.word way else .silent))).Agrees read
        (sightIn way ((Value.allOnto base members).lookup name)) := by
  -- A name may be there several times, in different cases, and each is laid over the one before.
  induction members generalizing w base with
  | nil => exact agrees
  | cons m members ih =>
    rw [List.map_cons, Word.last, ← Word.under_assoc, Value.allOnto]
    refine ih ?_
    rw [Table.lookup_set]
    by_cases here : Text.lower m.1 = name
    · rw [if_pos here, if_pos here.symm, here]
      exact inner m.2 agrees
    · rw [if_neg here, if_neg (Ne.symm here)]
      exact agrees

/-- `Value.onto` agrees with `Value.word`. -/
theorem onto (scalar : Scalar read) (way : List Hop) {w : Word} {old : Option Value} (v : Value)
    (agrees : w.Agrees read (sightIn way old)) :
    (w.under (v.word way)).Agrees read ((v.onto old).sight way) := by
  induction way generalizing w old v with
  | nil =>
    match v with
    | .table [] => exact agrees.empty
    | .table (m :: ms) =>
      have named : Text.lower m.1 ∈ (Value.allOnto (old.elim [] Value.members) (m :: ms)).map Prod.fst :=
        Value.mem_names_allOnto.mpr (.inr ⟨m, List.mem_cons_self, rfl⟩)
      exact ⟨_, Value.sight_here named, fun _ => scalar.read_onto⟩
    | .null | .bool _ | .int _ | .real _ | .text _ | .list _ => exact given _
  | cons hop way ih =>
    match v with
    | .table [] => exact agrees.empty
    | .table (m :: ms) =>
      cases hop with
      | member name =>
        rw [Value.word_member, Value.onto, Value.sight_member]
        exact allOnto ih (m :: ms) agrees.member
      | item i => exact discarded (Value.sight_item_table i way _)
    | .null | .bool _ | .int _ | .real _ | .text _ | .list _ => exact anew w (hop :: way) _

/-- `Table.set` in a section, by what becomes of the member. -/
theorem set {key name : String} {way : List Hop} {v : Value} {word : Word}
    (agrees : w.Agrees read (sightIn (.member name :: way) old))
    (inner : w.Agrees read (sightIn way ((old.elim [] Value.members).lookup key)) →
      (w.under word).Agrees read (v.sight way)) :
    (w.under (if key = name then word else .silent)).Agrees read
      (Value.sight (.member name :: way) (.table (Table.set key v (old.elim [] Value.members)))) := by
  have before := agrees.member
  rw [Value.sight_member, Table.lookup_set]
  by_cases here : key = name
  · subst here
    rw [if_pos rfl, if_pos rfl]
    exact inner before
  · rw [if_neg here, if_neg (Ne.symm here)]
    exact before

/-- `Step.change` in a section, by what becomes of the item. -/
theorem change (scalar : Scalar read) {i : Int} {j : Nat} {way : List Hop} {f : Value → Value}
    {word : Word} (agrees : w.Agrees read (sightIn (.item j :: way) old))
    (inner : w.Agrees read (sightIn way (old.elim [] Value.items)[j]?) →
      (w.under word).Agrees read ((f ((old.elim [] Value.items)[j]?.getD .null)).sight way)) :
    (w.under (if i < 0 then .unclear else if i = j then word else .silent)).Agrees read
      (Value.sight (.item j :: way) (.list (Step.change f (old.elim [] Value.items) i))) := by
  have before := agrees.item
  by_cases back : i < 0
  · rw [if_pos back]
    trivial
  · rw [if_neg back]
    change Agrees read _ (sightIn way _)
    rw [Step.getElem?_change f _ back]
    by_cases here : i = j
    · rw [if_pos here, if_pos here]
      exact inner before
    · rw [if_neg here, if_neg here]
      split
      · exact before
      · rename_i beyond
        rw [List.getElem?_eq_none (Nat.not_lt.mp beyond)] at before
        split
        · exact before.filled scalar
        · exact before

/-- `Value.setAt` agrees with `Step.word`. -/
theorem setAt (scalar : Scalar read) (v : Value) {steps : List Step} (leads : steps ≠ [])
    (way : List Hop) {w : Word} {old : Option Value} (agrees : w.Agrees read (sightIn way old)) :
    (w.under (Step.word steps way v)).Agrees read ((v.setAt steps (old.getD .null)).sight way) := by
  induction steps generalizing way w old with
  | nil => exact absurd rfl leads
  | cons step steps ih =>
    match step, steps, way with
    -- The way ends before the path does, at a table of one member or at a list.
    | .member n, [], [] | .member n, _ :: _, [] =>
      rw [Value.setAt]
      have named {x : Value} {t : Table} : Text.lower n ∈ (Table.set (Text.lower n) x t).map Prod.fst :=
        Table.mem_names_set.mpr (.inl rfl)
      exact ⟨_, Value.sight_here named, fun _ found => scalar.read_alone found named _⟩
    | .item i, [], [] | .item i, _ :: _, [] =>
      refine ⟨_, rfl, fun x found => ?_⟩
      rw [scalar.list] at found
      contradiction
    -- The path and the way part.
    | .member n, [], .item j :: way | .member n, _ :: _, .item j :: way =>
      exact discarded (Value.sight_item_table j way _)
    | .item i, [], .member name :: way | .item i, _ :: _, .member name :: way =>
      exact discarded nofun
    | .member n, [], .member name :: way =>
      rw [Value.setAt, Value.members_getD]
      exact agrees.set fun before => before.onto scalar way v
    | .member n, next :: steps, .member name :: way =>
      rw [Value.setAt, Value.members_getD]
      exact agrees.set fun before => ih (List.cons_ne_nil next steps) way before
    | .item i, [], .item j :: way =>
      rw [Value.setAt, Value.items_getD]
      exact agrees.change scalar fun _ => anew w way v
    | .item i, next :: steps, .item j :: way =>
      rw [Value.setAt, Value.items_getD]
      exact agrees.change scalar fun before => ih (List.cons_ne_nil next steps) way before

end Word.Agrees

theorem Step.path_member (name : String) : ∃ first steps, path name = member first :: steps := by
  unfold path
  dsimp only
  split
  · exact ⟨name, [], rfl⟩
  · generalize more _ _ = behind
    cases behind <;> exact ⟨_, _, rfl⟩

theorem Value.setAt_member (v : Value) (name : String) (steps : List Step) (old : Value) :
    ∃ members, v.setAt (.member name :: steps) old = .table members := by
  cases steps <;> exact ⟨_, rfl⟩

namespace Word.Agrees

theorem layer (scalar : Scalar read) (way : List Hop) {w : Word} {base : Table} (source : Table)
    (agrees : w.Agrees read (Value.sight way (.table base))) :
    (w.under (said way source)).Agrees read
      (Value.sight way (.table (Value.layer base source))) := by
  induction source generalizing w base with
  | nil => exact agrees
  | cons m source ih =>
    obtain ⟨first, steps, path⟩ := Step.path_member m.1
    have here : w.Agrees read (sightIn way (some (.table base))) := agrees
    have set := here.setAt scalar m.2 (List.cons_ne_nil (.member first) steps) way
    obtain ⟨members, table⟩ := m.2.setAt_member first steps (.table base)
    rw [Option.getD_some, table] at set
    rw [said, List.map_cons, Word.last, ← Word.under_assoc, Value.layer, List.foldl_cons, path, table]
    exact ih set

theorem layers (scalar : Scalar read) (way : List Hop) {w : Word} {base : Table}
    (sources : List Table) (agrees : w.Agrees read (Value.sight way (.table base))) :
    (w.under (lastWord way sources)).Agrees read
      (Value.sight way (.table (sources.foldl Value.layer base))) := by
  induction sources generalizing w base with
  | nil => exact agrees
  | cons source sources ih =>
    rw [lastWord, List.map_cons, Word.last, ← Word.under_assoc]
    exact ih (agrees.layer scalar way source)

end Word.Agrees

/-- All sources merged agree with their `lastWord`. -/
theorem lastWord_agrees (scalar : Scalar read) (way : List Hop) (sources : List Table) :
    (lastWord way sources).Agrees read
      (Value.sight way (.table (sources.foldl Value.layer []))) := by
  have start : Word.silent.Agrees read (Value.sight way (.table [])) := by
    cases way <;> exact nofun
  have agrees := start.layers scalar way sources
  rwa [Word.silent_under] at agrees

end

end RoomRelay.Settings
