import RoomRelay.Proofs.Key.Pattern

/-!
Keys for which `Key.isPattern` is false fix user and kind, so that they select their own topic and no
other, unless their room is the wildcard: `isPattern` does not look at the room, since patterns are
made within one.
-/

namespace RoomRelay.Key

theorem isPattern_eq_false_iff {k : Key} :
    k.isPattern = false ↔ k.user ≠ Topic.wildcard ∧ k.kind ≠ .any := by
  simp [isPattern]

theorem isPattern_eq_true_iff {k : Key} :
    k.isPattern = true ↔ k.user = Topic.wildcard ∨ k.kind = .any := by
  simp [isPattern]

/-- A plain key that is no pattern fixes everything but its room. -/
theorem selects_of_not_isPattern {k : Key} (plain : k.IsPlain) (single : k.isPattern = false)
    {s : String} :
    Topic.selects k.encode s = true ↔
      ∃ room, Topic.separator ∉ room.toList ∧ Topic.Stands k.room room ∧
        s = { k with room }.encode := by
  obtain ⟨named, exact⟩ := isPattern_eq_false_iff.mp single
  rw [selects_topicOf_iff plain]
  constructor
  · rintro ⟨room, user, kind, free, rfl, stands, user', kind'⟩
    obtain rfl := user'.resolve_left named
    obtain rfl := kind'.resolve_left exact
    exact ⟨room, free room List.mem_cons_self, stands, rfl⟩
  · rintro ⟨room, free, stands, rfl⟩
    refine ⟨room, k.user, k.kind.segment, ?_, rfl, stands, .inr rfl, .inr rfl⟩
    simp only [List.forall_mem_cons]
    exact ⟨free, plain.2, plain_segment k.kind, List.forall_mem_nil _⟩

theorem selects_other_of_isPattern {k : Key} (plain : k.IsPlain) (pattern : k.isPattern = true) :
    ∃ other : Key, other.IsPlain ∧ Topic.selects k.encode other.encode = true ∧
      (other.user ≠ k.user ∨ other.kind ≠ k.kind) := by
  rcases isPattern_eq_true_iff.mp pattern with anyone | anything
  · have free : Topic.separator ∉ "ann".toList := by decide
    have differs : "ann" ≠ k.user := by rw [anyone]; decide
    have plain' : { k with user := "ann" }.IsPlain := ⟨plain.1, free⟩
    exact ⟨_, plain', (selects_encode_iff plain plain').mpr ⟨.inr rfl, .inl anyone, .inr rfl⟩,
      .inl differs⟩
  · have wild : Topic.Stands k.kind.segment Kind.drawing.name := stands_kind.mpr (.inl anything)
    have differs : .exact .drawing ≠ k.kind := by rw [anything]; decide
    have plain' : { k with kind := .exact .drawing }.IsPlain := plain
    exact ⟨_, plain', (selects_encode_iff plain plain').mpr ⟨.inr rfl, .inr rfl, wild⟩, .inr differs⟩

/-- `isPattern` by what a plain key selects. -/
theorem isPattern_eq_false_iff_selects {k : Key} (plain : k.IsPlain) :
    k.isPattern = false ↔ ∀ s, Topic.selects k.encode s = true ↔
      ∃ room, Topic.separator ∉ room.toList ∧ Topic.Stands k.room room ∧
        s = { k with room }.encode := by
  constructor
  · exact fun single _ => selects_of_not_isPattern plain single
  · intro only
    rw [← Bool.not_eq_true]
    intro pattern
    obtain ⟨other, plain', selected, differs⟩ := selects_other_of_isPattern plain pattern
    obtain ⟨room, free, -, same⟩ := (only other.encode).mp selected
    -- No two keys of plain names share a topic, so the other one would be `k` in a room of its own.
    obtain rfl : other = { k with room } := encode_injective plain' ⟨free, plain.2⟩ same
    exact differs.elim (fun user => user rfl) fun kind => kind rfl

/-- For a decodable key whose room is not the wildcard, `isPattern` is false iff the key selects its own
topic and no other. A key whose room is the wildcard selects the same key of every other room, pattern or
not; `isPattern` is false iff it selects nothing else. -/
theorem patterns_select_others {t : String} {k : Key} (read : decode t = .ok k) :
    (k.room ≠ Topic.wildcard →
      (k.isPattern = false ↔ ∀ s, Topic.selects k.encode s = true ↔ s = k.encode)) ∧
    (k.room = Topic.wildcard →
      (∀ room, Topic.separator ∉ room.toList →
        Topic.selects k.encode { k with room }.encode = true) ∧
      (k.isPattern = false ↔ ∀ s, Topic.selects k.encode s = true ↔
        ∃ room, Topic.separator ∉ room.toList ∧ s = { k with room }.encode)) := by
  have plain : k.IsPlain := (decode_eq_ok_iff.mp read).2
  rw [isPattern_eq_false_iff_selects plain]
  constructor
  · intro fixed
    have own : ∀ s, (∃ room, Topic.separator ∉ room.toList ∧ Topic.Stands k.room room ∧
        s = { k with room }.encode) ↔ s = k.encode := by
      intro s
      constructor
      · rintro ⟨room, -, stands, rfl⟩
        rw [stands.resolve_left fixed]
      · rintro rfl
        exact ⟨k.room, plain.1, Topic.Stands.refl _, rfl⟩
    simp only [own]
  · intro wild
    have stands (room : String) : Topic.Stands k.room room := .inl wild
    constructor
    · intro room free
      have elsewhere : { k with room }.IsPlain := ⟨free, plain.2⟩
      exact (selects_encode_iff plain elsewhere).mpr ⟨stands room, .inr rfl, .inr rfl⟩
    · simp only [stands, true_and]

/-- The drawings of one user in the attic have one topic, and those in all rooms one for each room. -/
theorem patterns_select_others_attic :
    (∀ s, Topic.selects "hc.wb.1.evt.attic.ann.drawing" s = true ↔
      s = "hc.wb.1.evt.attic.ann.drawing") ∧
    (∀ s, Topic.selects "hc.wb.1.evt.*.ann.drawing" s = true ↔
      ∃ room, Topic.separator ∉ room.toList ∧ s = (event room "ann" .drawing).encode) := by
  have attic : (event "attic" "ann" .drawing).encode = "hc.wb.1.evt.attic.ann.drawing" := by
    decide +kernel
  have anywhere : (event "*" "ann" .drawing).encode = "hc.wb.1.evt.*.ann.drawing" := by
    decide +kernel
  have one := (patterns_select_others (decode_eq_ok_iff.mpr ⟨attic, by decide, by decide⟩)).1
  have all := (patterns_select_others (decode_eq_ok_iff.mpr ⟨anywhere, by decide, by decide⟩)).2
  rw [← attic, ← anywhere]
  exact ⟨(one (by decide)).mp rfl, (all rfl).2.mp rfl⟩

/-- A key with the wildcard as its room selects other topics, and `isPattern` is false for it. -/
theorem wildcard_room_is_no_pattern :
    ¬∀ t k, decode t = .ok k →
      (k.isPattern = false ↔ ∀ s, Topic.selects k.encode s = true ↔ s = k.encode) := by
  intro tells
  have plain : (event "*" "ann" .drawing).IsPlain := ⟨by decide, by decide⟩
  have own := (tells _ _ (decode_encode plain)).mp rfl
  have other : Topic.selects (event "*" "ann" .drawing).encode (event "attic" "ann" .drawing).encode := by
    decide +kernel
  have same := (own _).mp other
  revert same
  decide +kernel

end RoomRelay.Key
