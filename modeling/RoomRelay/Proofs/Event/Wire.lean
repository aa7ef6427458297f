import RoomRelay.Event.Wire

/-!
`toDomain` and `ofDomain` are inverse to each other on the records that satisfy `isEvent`.
-/
namespace RoomRelay.Wire

/-- Whether a record has exactly one payload, which is black or white if it is a drawing. -/
def Event.isEvent (w : Event) : Bool :=
  w.payloadCount == 1 && w.drawing.all fun d => d.color == 1 || d.color == 2

theorem ofCode?_eq_none_iff {n : Int32} : Color.ofCode? n = none ↔ n ≠ 1 ∧ n ≠ 2 := by
  unfold Color.ofCode?
  by_cases black : n = 1 <;> by_cases white : n = 2 <;> simp [black, white]

theorem ofCode?_code (color : Color) : Color.ofCode? color.code = some color := by
  cases color <;> rfl

theorem ofCode?_visible {n : Int32} (h : (n == 1 || n == 2) = true) :
    ∃ color, Color.ofCode? n = some color ∧ color.code = n := by
  simp only [Bool.or_eq_true, beq_iff_eq] at h
  rcases h with rfl | rfl
  · exact ⟨.black, rfl, rfl⟩
  · exact ⟨.white, rfl, rfl⟩

/-- `toDomain` succeeds on such a record, and `ofDomain` restores it. -/
theorem toDomain_of_isEvent {w : Event} (h : w.isEvent = true) :
    ∃ e, w.toDomain = .ok e ∧ Event.ofDomain e = w := by
  obtain ⟨at_, user, room, drawing, joined, left, users⟩ := w
  simp only [Event.isEvent, Bool.and_eq_true, beq_iff_eq] at h
  obtain ⟨one, visible⟩ := h
  cases drawing <;> cases joined <;> cases left <;> cases users <;>
    simp only [Event.payloadCount, Option.isSome, List.count_cons, List.count_nil] at one <;>
    simp at one
  case none.false.false.some n => exact ⟨⟨at_, user, room, .occupancy n⟩, rfl, rfl⟩
  case none.false.true.none => exact ⟨⟨at_, user, room, .userLeft⟩, rfl, rfl⟩
  case none.true.false.none => exact ⟨⟨at_, user, room, .userJoined⟩, rfl, rfl⟩
  case some.false.false.none d =>
    obtain ⟨color, known, code⟩ := ofCode?_visible (by simpa using visible)
    refine ⟨⟨at_, user, room, .drawing ⟨d.xs, d.ys, d.pressures, d.widths, color⟩⟩, ?_, ?_⟩
    · simp [Event.toDomain, Event.payload, Event.payloadCount, Drawing.toDomain, known, Except.map]
    · simp [Event.ofDomain, Drawing.ofDomain, code]

theorem toDomain_ofDomain (e : RoomRelay.Event) : (Event.ofDomain e).toDomain = .ok e := by
  obtain ⟨at_, user, room, payload⟩ := e
  cases payload with
  | drawing d =>
    simp [Event.ofDomain, Event.toDomain, Event.payload, Event.payloadCount, Drawing.ofDomain,
      Drawing.toDomain, ofCode?_code, Except.map]
  | userJoined | userLeft | occupancy count => rfl

theorem toDomain_of_not_isEvent {w : Event} (h : w.isEvent = false) :
    ∃ why, w.toDomain = .error why := by
  simp only [Event.isEvent, Bool.and_eq_false_iff, beq_eq_false_iff_ne] at h
  by_cases one : w.payloadCount = 1
  · obtain ⟨at_, user, room, drawing, joined, left, users⟩ := w
    cases drawing with
    | none => simp [one] at h
    | some d =>
      have unseen := ofCode?_eq_none_iff.mpr (by simpa [one] using h)
      exact ⟨.invisibleColor, by
        simp [Event.toDomain, Event.payload, one, Drawing.toDomain, unseen, Except.map]⟩
  · unfold Event.toDomain Event.payload
    match w.payloadCount, one with
    | 0, _ => exact ⟨.missing, rfl⟩
    | n + 2, _ => exact ⟨.ambiguous (n + 2), rfl⟩

end RoomRelay.Wire
