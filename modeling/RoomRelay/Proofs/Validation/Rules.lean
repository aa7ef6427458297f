import Mathlib.Data.List.Basic
import RoomRelay.Proofs.Event.Wire
import RoomRelay.Validation

/-!
The rules of `SendRequest.validate` one by one. `Breaks` states when a rule is broken, independently
of the others, and `turn` is its position in the checks. A request is accepted iff it breaks no rule,
and then its payload can be read; otherwise the error is the broken rule with the least turn.
-/
namespace RoomRelay

theorem Topic.isSegment_iff {s : String} : isSegment s = true ↔ s ≠ "" ∧ isSafe s = true := by
  simp [isSegment]

def Wire.Drawing.Sampled (d : Wire.Drawing) : Prop :=
  d.xs.length ≠ 0 ∧ d.ys.length = d.xs.length ∧ d.pressures.length = d.xs.length ∧
    d.widths.length = d.xs.length

theorem Wire.Drawing.sampled_iff {d : Wire.Drawing} :
    (commonLength d.xs d.ys d.pressures d.widths).isNone = false ↔ d.Sampled := by
  simp [commonLength, Sampled]

namespace SendRequest

/-- The number of payloads that clients may send. -/
def offered (e : Wire.Event) : Nat :=
  [e.drawing.isSome, e.joined, e.left].count true

theorem payloadCount_eq_offered {e : Wire.Event} (unset : e.users = none) :
    e.payloadCount = offered e := by
  simp [Wire.Event.payloadCount, offered, unset, List.count_cons]

/-- The first room of the list that occurred before. -/
def RepeatsFirst (rooms : List String) (room : String) : Prop :=
  ∃ before behind, rooms = before ++ room :: behind ∧ before.Nodup ∧ room ∈ before

def UnsafeFirst (rooms : List String) (room : String) : Prop :=
  ∃ before behind, rooms = before ++ room :: behind ∧
    (∀ other ∈ before, Topic.isSegment other = true) ∧ ¬Topic.isSegment room = true

/-- The requests that break the rule of a complaint. -/
def Breaks (req : SendRequest) (caller : String) (policy : StatusPolicy) : BadRequest → Prop
  | .noEvent => req.event = none
  | .createdAtSet => ∃ e ∈ req.event, e.createdAt ≠ 0
  | .byUserSet => ∃ e ∈ req.event, e.byUser ≠ ""
  | .inRoomSet => ∃ e ∈ req.event, e.inRoom ≠ ""
  | .usersSet => ∃ e ∈ req.event, e.users ≠ none
  | .noPayload => ∃ e ∈ req.event, offered e = 0
  | .manyPayloads => ∃ e ∈ req.event, 1 < offered e
  | .statusEvent => policy = .reject ∧ ∃ e ∈ req.event, e.joined = true ∨ e.left = true
  | .noRooms => req.rooms = []
  | .duplicateRoom room => RepeatsFirst req.rooms room
  | .unsafeRoom room => UnsafeFirst req.rooms room
  | .unsafeCaller => ¬Topic.isSegment caller = true
  | .invisibleColor => ∃ e ∈ req.event, ∃ d ∈ e.drawing, d.color ≠ 1 ∧ d.color ≠ 2
  | .drawingShape => ∃ e ∈ req.event, ∃ d ∈ e.drawing, ¬d.Sampled
  | .payload _ | .badRoom | .emptyScreen | .other _ => False

/-- The position of a rule among the checks of `validate`. -/
def turn : BadRequest → Nat
  | .noEvent => 0
  | .createdAtSet => 1
  | .byUserSet => 2
  | .inRoomSet => 3
  | .usersSet => 4
  | .noPayload => 5
  | .manyPayloads => 6
  | .statusEvent => 7
  | .noRooms => 8
  | .duplicateRoom _ => 9
  | .unsafeRoom _ => 10
  | .unsafeCaller => 11
  | .invisibleColor => 12
  | .drawingShape => 13
  | .payload _ | .badRoom | .emptyScreen | .other _ => 14

/-- The payload that an event carries, if it is one that clients may send. -/
inductive Carries (policy : StatusPolicy) (e : Wire.Event) : Payload → Prop
  | drawing {d : Wire.Drawing} {color : Color} (drawing : e.drawing = some d)
    (joined : e.joined = false) (left : e.left = false) (visible : d.color = color.code)
    (sampled : d.Sampled) :
    Carries policy e (.drawing ⟨d.xs, d.ys, d.pressures, d.widths, color⟩)
  | userJoined (drawing : e.drawing = none) (joined : e.joined = true) (left : e.left = false)
    (allowed : policy = .allow) : Carries policy e .userJoined
  | userLeft (drawing : e.drawing = none) (joined : e.joined = false) (left : e.left = true)
    (allowed : policy = .allow) : Carries policy e .userLeft

/-- A request that breaks no rule, with its payload. -/
structure Valid (req : SendRequest) (caller : String) (policy : StatusPolicy) (payload : Payload) :
    Prop where
  event : ∃ e, req.event = some e ∧ e.createdAt = 0 ∧ e.byUser = "" ∧ e.inRoom = "" ∧
    e.users = none ∧ Carries policy e payload
  some_room : req.rooms ≠ []
  once : req.rooms.Nodup
  rooms : ∀ room ∈ req.rooms, room ≠ "" ∧ Topic.isSafe room = true
  caller : caller ≠ "" ∧ Topic.isSafe caller = true

/-! ### Names that repeat and names that are unsafe -/

theorem firstRepeat_go {seen rooms : List String} (none : firstRepeat.go seen rooms = none) :
    rooms.Nodup ∧ ∀ room ∈ rooms, room ∉ seen := by
  induction rooms generalizing seen with
  | nil => exact ⟨List.nodup_nil, fun _ member => absurd member List.not_mem_nil⟩
  | cons room rooms ih =>
    rw [firstRepeat.go] at none
    split at none
    · contradiction
    · rename_i new
      obtain ⟨distinct, apart⟩ := ih none
      refine ⟨List.nodup_cons.mpr ⟨fun again => ?_, distinct⟩, ?_⟩
      · exact apart room again List.mem_cons_self
      · intro other member
        rcases List.mem_cons.mp member with rfl | later
        · exact new
        · intro before
          exact apart other later (List.mem_cons_of_mem _ before)

theorem firstRepeat_go_iff {seen rooms : List String} {room : String} :
    firstRepeat.go seen rooms = some room ↔ ∃ before behind, rooms = before ++ room :: behind ∧
      before.Nodup ∧ (∀ other ∈ before, other ∉ seen) ∧ (room ∈ seen ∨ room ∈ before) := by
  induction rooms generalizing seen with
  | nil => simp [firstRepeat.go]
  | cons next rooms ih =>
    rw [firstRepeat.go]
    split
    case isTrue known =>
      constructor
      · intro told
        obtain rfl := Option.some.inj told
        exact ⟨[], rooms, rfl, List.nodup_nil, by simp, .inl known⟩
      · rintro ⟨_ | ⟨first, before⟩, behind, split, -, apart, -⟩
        · rw [(List.cons.inj split).1]
        · obtain rfl := (List.cons.inj split).1
          exact absurd known (apart _ List.mem_cons_self)
    case isFalse new =>
      rw [ih]
      constructor
      · rintro ⟨before, behind, rfl, distinct, apart, again⟩
        refine ⟨next :: before, behind, rfl, ?_, ?_, ?_⟩
        · exact List.nodup_cons.mpr ⟨fun member => apart _ member List.mem_cons_self, distinct⟩
        · intro other member
          rcases List.mem_cons.mp member with rfl | member
          · exact new
          · exact fun before => apart other member (List.mem_cons_of_mem _ before)
        · simpa [or_assoc, or_left_comm] using again
      · rintro ⟨_ | ⟨first, before⟩, behind, split, distinct, apart, again⟩
        · obtain rfl := (List.cons.inj split).1
          simp [new] at again
        · obtain ⟨rfl, rfl⟩ := List.cons.inj split
          obtain ⟨other, distinct⟩ := List.nodup_cons.mp distinct
          refine ⟨before, behind, rfl, distinct, fun room member known => ?_, ?_⟩
          · rcases List.mem_cons.mp known with rfl | known
            · exact other member
            · exact apart room (List.mem_cons_of_mem _ member) known
          · simpa [or_assoc, or_left_comm] using again

theorem firstRepeat_iff {rooms : List String} {room : String} :
    firstRepeat rooms = some room ↔ RepeatsFirst rooms room := by
  rw [firstRepeat, firstRepeat_go_iff]
  simp [RepeatsFirst]

theorem firstRepeat_none {rooms : List String} : firstRepeat rooms = none ↔ rooms.Nodup := by
  constructor
  · exact fun none => (firstRepeat_go none).1
  · intro once
    by_contra some
    obtain ⟨room, found⟩ := Option.ne_none_iff_exists'.mp some
    obtain ⟨before, behind, rfl, -, again⟩ := firstRepeat_iff.mp found
    exact (List.nodup_append.mp once).2.2 room again room List.mem_cons_self rfl

theorem find?_unsafe_iff {rooms : List String} {room : String} :
    (rooms.find? fun room => !Topic.isSegment room) = some room ↔ UnsafeFirst rooms room := by
  rw [List.find?_eq_some_iff_append]
  constructor
  · rintro ⟨bad, before, behind, split, safe⟩
    exact ⟨before, behind, split, fun other member => by simpa using safe other member,
      by simpa using bad⟩
  · rintro ⟨before, behind, split, safe, bad⟩
    exact ⟨by simpa using bad, before, behind, split, fun other member => by
      simpa using safe other member⟩

/-! ### One check after another -/

section
variable (req : SendRequest) (caller : String) (policy : StatusPolicy)

def Clear (next : Nat) : Prop :=
  ∀ why, req.Breaks caller policy why → next ≤ turn why

/-- The result of the checks before the turn `next`: no rule is broken, or the error is the first that
is. -/
def Checked {α : Type} (next : Nat) : Except BadRequest α → Prop
  | .ok _ => req.Clear caller policy next
  | .error why => req.Breaks caller policy why ∧ req.Clear caller policy (turn why)

end

variable {req : SendRequest} {caller : String} {policy : StatusPolicy} {e : Wire.Event}

theorem Clear.next {turn' : Nat} (clear : req.Clear caller policy turn')
    (kept : ∀ why, turn why = turn' → ¬req.Breaks caller policy why) :
    req.Clear caller policy (turn' + 1) := by
  intro why broken
  have later := clear why broken
  rcases Nat.lt_or_eq_of_le later with later | here
  · exact later
  · exact absurd broken (kept why here.symm)

-- Two turns are about rooms, so that there are as many complaints in them, and no rule is broken in the
-- last one. In every other turn there is one complaint.
theorem eq_of_turn {why other : BadRequest} (lone : turn why ∉ [9, 10, 14])
    (same : turn other = turn why) : other = why := by
  cases why <;> cases other <;> simp_all [turn]

theorem eq_duplicateRoom {why : BadRequest} (here : turn why = 9) :
    ∃ room, why = .duplicateRoom room := by
  cases why <;> simp_all [turn]

theorem eq_unsafeRoom {why : BadRequest} (here : turn why = 10) :
    ∃ room, why = .unsafeRoom room := by
  cases why <;> simp_all [turn]

theorem Clear.after (why : BadRequest) (lone : turn why ∉ [9, 10, 14])
    (clear : req.Clear caller policy (turn why)) (kept : ¬req.Breaks caller policy why) :
    req.Clear caller policy (turn why + 1) := by
  refine clear.next fun other here => ?_
  rw [eq_of_turn lone here]
  exact kept

theorem checked_bind {α : Type} {next last : Nat} {check : Except BadRequest Unit}
    {rest : Unit → Except BadRequest α} (first : req.Checked caller policy next check)
    (later : req.Clear caller policy next → req.Checked caller policy last (rest ())) :
    req.Checked caller policy last (check >>= rest) := by
  cases check with
  | ok => exact later first
  | error why => exact first

/-- The check of a rule with a turn of its own. -/
theorem checked_ite {α : Type} {p : Prop} [Decidable p] {last : Nat} {rest : Except BadRequest α}
    {why : BadRequest} (lone : turn why ∉ [9, 10, 14]) (rule : req.Breaks caller policy why ↔ p)
    (clear : req.Clear caller policy (turn why))
    (later : req.Clear caller policy (turn why + 1) → req.Checked caller policy last rest) :
    req.Checked caller policy last (if p then .error why else rest) := by
  split
  case isTrue broken => exact ⟨rule.mpr broken, clear⟩
  case isFalse kept => exact later (clear.after why lone fun broken => kept (rule.mp broken))

theorem checkAssigned_checked (event : req.event = some e) :
    req.Checked caller policy 5 (checkAssigned e) := by
  have start : req.Clear caller policy 0 := fun _ _ => Nat.zero_le _
  have clear : req.Clear caller policy 1 := by
    refine Clear.after .noEvent (by decide) start ?_
    simp [Breaks, event]
  unfold checkAssigned
  refine checked_ite (by decide) (by simp [Breaks, event]) clear fun clear => ?_
  refine checked_ite (by decide) (by simp [Breaks, event]) clear fun clear => ?_
  refine checked_ite (by decide) (by simp [Breaks, event]) clear fun clear => ?_
  refine checked_ite (by decide) ?_ clear fun clear => clear
  simp [Breaks, event, Option.ne_none_iff_isSome]

theorem checkPayloads_checked (event : req.event = some e) (unset : e.users = none)
    (clear : req.Clear caller policy 5) :
    req.Checked caller policy 8 (checkPayloads e policy) := by
  have noPayload : req.Breaks caller policy .noPayload ↔ offered e = 0 := by simp [Breaks, event]
  have manyPayloads : req.Breaks caller policy .manyPayloads ↔ 1 < offered e := by
    simp [Breaks, event]
  unfold checkPayloads
  rw [payloadCount_eq_offered unset]
  split
  case h_1 none => exact ⟨noPayload.mpr none, clear⟩
  case h_2 one =>
    have clear := clear.after .noPayload (by decide) (by rw [noPayload, one]; decide)
    have clear := clear.after .manyPayloads (by decide) (by rw [manyPayloads, one]; decide)
    refine checked_ite (by decide) ?_ clear fun clear => clear
    simp [Breaks, event, and_comm]
  case h_3 notNone notOne =>
    have clear := clear.after .noPayload (by decide) (by rw [noPayload]; exact notNone)
    exact ⟨manyPayloads.mpr (Nat.lt_of_le_of_ne (Nat.pos_of_ne_zero notNone) (Ne.symm notOne)), clear⟩

theorem checkNames_checked (clear : req.Clear caller policy 8) :
    req.Checked caller policy 12 (checkNames req.rooms caller) := by
  unfold checkNames
  refine checked_ite (by decide) (by simp [Breaks]) clear fun clear => ?_
  split
  case h_1 room found => exact ⟨firstRepeat_iff.mp found, clear⟩
  case h_2 once =>
    have clear := clear.next fun why here broken => by
      obtain ⟨room, rfl⟩ := eq_duplicateRoom here
      rw [Breaks, ← firstRepeat_iff, once] at broken
      contradiction
    split
    case h_1 room found => exact ⟨find?_unsafe_iff.mp found, clear⟩
    case h_2 safe =>
      have clear := clear.next fun why here broken => by
        obtain ⟨room, rfl⟩ := eq_unsafeRoom here
        rw [Breaks, ← find?_unsafe_iff, safe] at broken
        contradiction
      split
      case isTrue named =>
        exact clear.after .unsafeCaller (by decide) (by simp [Breaks, named])
      case isFalse bad => exact ⟨bad, clear⟩

theorem checkDrawing_checked {d : Wire.Drawing} (event : req.event = some e)
    (drawing : e.drawing = some d) (clear : req.Clear caller policy 12) :
    req.Checked caller policy 14 (checkDrawing d) := by
  unfold checkDrawing
  refine checked_ite (by decide) ?_ clear fun clear => ?_
  · simp [Breaks, event, drawing, Wire.ofCode?_eq_none_iff]
  · refine checked_ite (by decide) ?_ clear fun clear => clear
    simp [Breaks, event, drawing, ← Wire.Drawing.sampled_iff]

/-! ### What the rules amount to -/

theorem Carries.payload {p : Payload} (unset : e.users = none) (carries : Carries policy e p) :
    e.payload = .ok p := by
  rcases carries with ⟨drawing, joined, left, visible, -⟩ | ⟨drawing, joined, left, -⟩ |
    ⟨drawing, joined, left, -⟩ <;>
    simp [Wire.Event.payload, Wire.Event.payloadCount, unset, drawing, joined, left]
  simp [Wire.Drawing.toDomain, visible, Wire.ofCode?_code, Except.map]

theorem Valid.not_breaks {payload : Payload} (valid : req.Valid caller policy payload)
    (why : BadRequest) : ¬req.Breaks caller policy why := by
  obtain ⟨e, event, createdAt, byUser, inRoom, unset, carries⟩ := valid.event
  intro broken
  cases why
  case noRooms => exact valid.some_room broken
  case duplicateRoom room =>
    obtain ⟨before, behind, split, -, again⟩ := broken
    have once := valid.once
    rw [split] at once
    exact (List.nodup_append.mp once).2.2 room again room List.mem_cons_self rfl
  case unsafeRoom room =>
    obtain ⟨before, behind, split, -, bad⟩ := broken
    exact bad (Topic.isSegment_iff.mpr (valid.rooms room (by simp [split])))
  case unsafeCaller => exact broken (Topic.isSegment_iff.mpr valid.caller)
  all_goals simp only [Breaks, event, Option.mem_def, Option.some.injEq, exists_eq_left'] at broken
  case invisibleColor =>
    obtain ⟨d, drawn, unseen⟩ := broken
    rcases carries with ⟨drawing, -, -, visible, -⟩ | ⟨drawing, -⟩ | ⟨drawing, -⟩ <;>
      rw [drawing] at drawn
    · obtain rfl := Option.some.inj drawn
      rw [← Wire.ofCode?_eq_none_iff, visible, Wire.ofCode?_code] at unseen
      contradiction
    · contradiction
    · contradiction
  all_goals rcases carries with ⟨drawing, joined, left, visible, sampled⟩ |
    ⟨drawing, joined, left, allowed⟩ | ⟨drawing, joined, left, allowed⟩ <;> simp_all [offered]

theorem Clear.kept {next : Nat} (clear : req.Clear caller policy next) (why : BadRequest)
    (before : turn why < next) : ¬req.Breaks caller policy why :=
  fun broken => absurd (clear why broken) (Nat.not_le_of_lt before)

theorem Clear.carries (event : req.event = some e) (clear : req.Clear caller policy 14) :
    ∃ p, Carries policy e p := by
  have kept := clear.kept
  have noPayload := kept .noPayload (by decide)
  have manyPayloads := kept .manyPayloads (by decide)
  have statusEvent := kept .statusEvent (by decide)
  have invisibleColor := kept .invisibleColor (by decide)
  have drawingShape := kept .drawingShape (by decide)
  simp only [Breaks, event, Option.mem_def, Option.some.injEq, exists_eq_left']
    at noPayload manyPayloads statusEvent invisibleColor drawingShape
  have one : offered e = 1 := by omega
  cases drawing : e.drawing with
  | some d =>
    have quiet : e.joined = false ∧ e.left = false := by
      cases joined : e.joined <;> cases left : e.left <;>
        simp [offered, drawing, joined, left] at one ⊢
    have visible : (d.color == 1 || d.color == 2) = true := by
      by_contra unseen
      exact invisibleColor ⟨d, drawing, by simpa using unseen⟩
    have sampled : d.Sampled := by
      by_contra uneven
      exact drawingShape ⟨d, drawing, uneven⟩
    obtain ⟨color, -, code⟩ := Wire.ofCode?_visible visible
    exact ⟨_, .drawing drawing quiet.1 quiet.2 code.symm sampled⟩
  | none =>
    have allowed (status : e.joined = true ∨ e.left = true) : policy = .allow := by
      cases policy with
      | allow => rfl
      | reject => exact absurd ⟨rfl, status⟩ statusEvent
    cases joined : e.joined <;> cases left : e.left <;> simp [offered, drawing, joined, left] at one
    case true.false => exact ⟨_, .userJoined drawing joined left (allowed (.inl joined))⟩
    case false.true => exact ⟨_, .userLeft drawing joined left (allowed (.inr left))⟩

theorem Clear.valid (clear : req.Clear caller policy 14) : ∃ p, req.Valid caller policy p := by
  have kept := clear.kept
  obtain ⟨e, event⟩ := Option.ne_none_iff_exists'.mp (kept .noEvent (by decide))
  obtain ⟨p, carries⟩ := clear.carries event
  have assigned : e.createdAt = 0 ∧ e.byUser = "" ∧ e.inRoom = "" ∧ e.users = none := by
    refine ⟨?_, ?_, ?_, ?_⟩ <;> by_contra set
    · exact kept .createdAtSet (by decide) ⟨e, event, set⟩
    · exact kept .byUserSet (by decide) ⟨e, event, set⟩
    · exact kept .inRoomSet (by decide) ⟨e, event, set⟩
    · exact kept .usersSet (by decide) ⟨e, event, set⟩
  have once : req.rooms.Nodup := by
    rw [← firstRepeat_none, Option.eq_none_iff_forall_not_mem]
    exact fun room found => kept (.duplicateRoom room) (by simp [turn]) (firstRepeat_iff.mp found)
  have safe : ∀ room ∈ req.rooms, Topic.isSegment room = true := by
    have none : (req.rooms.find? fun room => !Topic.isSegment room) = none := by
      rw [Option.eq_none_iff_forall_not_mem]
      exact fun room found => kept (.unsafeRoom room) (by simp [turn]) (find?_unsafe_iff.mp found)
    simpa using List.find?_eq_none.mp none
  have named : Topic.isSegment caller = true := by
    by_contra bad
    exact kept .unsafeCaller (by decide) bad
  exact ⟨p, ⟨e, event, assigned.1, assigned.2.1, assigned.2.2.1, assigned.2.2.2, carries⟩,
    kept .noRooms (by decide), once, fun room member => Topic.isSegment_iff.mp (safe room member),
    Topic.isSegment_iff.mp named⟩

theorem Valid.payload {p : Payload} (valid : req.Valid caller policy p)
    (event : req.event = some e) : e.payload = .ok p := by
  obtain ⟨e', event', -, -, -, unset, carries⟩ := valid.event
  obtain rfl := Option.some.inj (event.symm.trans event')
  exact carries.payload unset

/-- `validate` reads the payload only once no rule is broken, and then reading succeeds. -/
theorem validate_checked : req.Checked caller policy 14 (req.validate caller policy) := by
  unfold validate
  split
  case h_1 absent => exact ⟨absent, fun _ _ => Nat.zero_le _⟩
  case h_2 e event =>
    refine checked_bind (checkAssigned_checked event) fun clear => ?_
    have unset : e.users = none := by
      by_contra set
      exact clear.kept .usersSet (by decide) ⟨e, event, set⟩
    refine checked_bind (checkPayloads_checked event unset clear) fun clear => ?_
    refine checked_bind (checkNames_checked clear) fun clear => ?_
    cases drawing : e.drawing with
    | some d =>
      refine checked_bind (checkDrawing_checked event drawing clear) fun clear => ?_
      obtain ⟨p, valid⟩ := clear.valid
      rw [valid.payload event]
      exact clear
    | none =>
      -- Without a drawing its two rules are not checked, and they are not broken.
      have clear := clear.after .invisibleColor (by decide) (by simp [Breaks, event, drawing])
      have clear := clear.after .drawingShape (by decide) (by simp [Breaks, event, drawing])
      obtain ⟨p, valid⟩ := Clear.valid clear
      rw [valid.payload event]
      exact clear

theorem bind_ok {α β : Type} {x : Except BadRequest α} {f : α → Except BadRequest β} {b : β}
    (ok : (x >>= f) = .ok b) : ∃ a, x = .ok a ∧ f a = .ok b := by
  cases x with
  | error e => cases ok
  | ok a => exact ⟨a, rfl, ok⟩

theorem read_ok {w : Wire.Event} {payload : Payload}
    (ok : (match w.payload with
      | .ok payload => .ok payload
      | .error why => .error (.payload why) : Except BadRequest Payload) = .ok payload) :
    w.payload = .ok payload := by
  split at ok
  · rename_i read
    rw [read, Except.ok.inj ok]
  · contradiction

theorem payload_of_validate {p : Payload} (accepted : req.validate caller policy = .ok p) :
    ∃ e, req.event = some e ∧ e.payload = .ok p := by
  unfold validate at accepted
  split at accepted
  case h_1 => contradiction
  case h_2 e event =>
    obtain ⟨_, -, accepted⟩ := bind_ok accepted
    obtain ⟨_, -, accepted⟩ := bind_ok accepted
    obtain ⟨_, -, accepted⟩ := bind_ok accepted
    cases drawing : e.drawing with
    | some d =>
      rw [drawing] at accepted
      obtain ⟨_, -, accepted⟩ := bind_ok accepted
      exact ⟨e, event, read_ok accepted⟩
    | none =>
      rw [drawing] at accepted
      exact ⟨e, event, read_ok accepted⟩

theorem valid_of_validate {p : Payload} (accepted : req.validate caller policy = .ok p) :
    req.Valid caller policy p := by
  have clear : req.Checked caller policy 14 (.ok p) := accepted ▸ validate_checked
  obtain ⟨q, valid⟩ := Clear.valid clear
  obtain ⟨e, event, read⟩ := payload_of_validate accepted
  rw [valid.payload event] at read
  rwa [← Except.ok.inj read]

theorem Breaks.unique {why other : BadRequest} (broken : req.Breaks caller policy why)
    (broken' : req.Breaks caller policy other) (same : turn other = turn why) : other = why := by
  by_cases lone : turn why ∉ [9, 10, 14]
  · exact eq_of_turn lone same
  · cases why <;> simp [turn] at lone
    case duplicateRoom room =>
      obtain ⟨room', rfl⟩ := eq_duplicateRoom same
      rw [Breaks, ← firstRepeat_iff] at broken broken'
      rw [Option.some.inj (broken.symm.trans broken')]
    case unsafeRoom room =>
      obtain ⟨room', rfl⟩ := eq_unsafeRoom same
      rw [Breaks, ← find?_unsafe_iff] at broken broken'
      rw [Option.some.inj (broken.symm.trans broken')]
    all_goals exact broken.elim

/-- `validate` accepts a request with a payload iff it is `Valid` with it, and fails with a complaint
iff the request breaks its rule and none of an earlier `turn`. The complaint `payload` never
occurs. -/
theorem validate_iff (req : SendRequest) (caller : String) (policy : StatusPolicy) :
    (∀ p, req.validate caller policy = .ok p ↔ req.Valid caller policy p) ∧
    (∀ why, req.validate caller policy = .error why ↔ req.Breaks caller policy why ∧
      ∀ other, req.Breaks caller policy other → turn why ≤ turn other) ∧
    ∀ e, req.validate caller policy ≠ .error (.payload e) := by
  have checked : req.Checked caller policy 14 (req.validate caller policy) := validate_checked
  cases told : req.validate caller policy with
  | ok p =>
    have valid := valid_of_validate told
    refine ⟨fun q => ⟨?_, fun valid' => ?_⟩, fun why => ⟨nofun, ?_⟩, nofun⟩
    · rintro ⟨rfl⟩
      exact valid
    · obtain ⟨e, event, -⟩ := valid.event
      rw [Except.ok.inj ((valid.payload event).symm.trans (valid'.payload event))]
    · rintro ⟨broken, -⟩
      exact absurd broken (valid.not_breaks why)
  | error why =>
    obtain ⟨broken, first⟩ : req.Checked caller policy 14 (.error why) := told ▸ checked
    refine ⟨fun q => ⟨nofun, fun valid => absurd broken (valid.not_breaks why)⟩,
      fun other => ⟨?_, ?_⟩, ?_⟩
    · rintro ⟨rfl⟩
      exact ⟨broken, first⟩
    · rintro ⟨broken', first'⟩
      rw [broken'.unique broken (Nat.le_antisymm (first other broken') (first' why broken))]
    · rintro e ⟨rfl⟩
      exact broken

/-- A repeated room is told before an unsafe room and an unsafe caller. -/
theorem validate_iff_repeated :
    let req : SendRequest := { event := some { joined := true }, rooms := ["a", "b*", "a"] }
    req.Breaks "" .allow (.unsafeRoom "b*") ∧ req.Breaks "" .allow .unsafeCaller ∧
      req.validate "" .allow = .error (.duplicateRoom "a") := by
  intro req
  refine ⟨⟨["a"], ["a"], rfl, by decide, by decide⟩, by unfold Breaks; decide, ?_⟩
  refine ((validate_iff req "" .allow).2.1 (.duplicateRoom "a")).mpr
    ⟨⟨["a", "b*"], [], rfl, by decide, by decide⟩, ?_⟩
  intro other broken
  cases other <;> simp [turn] <;> simp [Breaks, req, offered] at broken

end SendRequest
end RoomRelay
