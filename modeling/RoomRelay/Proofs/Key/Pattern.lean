import RoomRelay.Proofs.Topic.Inclusion

/-!
The topics that a key selects as a pattern. `selects` compares segment by segment, and a plain name is
one segment; so `roomPattern` selects the topics of its own room.
-/

namespace RoomRelay

namespace Topic

/-- Fixed segments of a pattern stand for themselves. -/
theorem segmentsAgree_fixed {xs ps ts : List String} (fixed : ∀ x ∈ xs, x ≠ wildcard) :
    segmentsAgree (xs ++ ps) ts = true ↔ ∃ rest, ts = xs ++ rest ∧ segmentsAgree ps rest = true := by
  constructor
  · intro agree
    induction xs generalizing ts with
    | nil => exact ⟨ts, rfl, agree⟩
    | cons x xs ih =>
      cases ts with
      | nil => cases agree
      | cons t ts =>
        obtain ⟨head, tail⟩ := Bool.and_eq_true_iff.mp agree
        have same : x = t := by
          simpa [fixed x List.mem_cons_self] using head
        obtain ⟨rest, behind, inner⟩ := ih (fun y member => fixed y (List.mem_cons_of_mem _ member)) tail
        exact ⟨rest, by rw [same, behind, List.cons_append], inner⟩
  · rintro ⟨rest, rfl, agree⟩
    rwa [segmentsAgree_append]

end Topic

namespace Key

theorem segments_topicOf {fields : List String} (plain : ∀ s ∈ fields, Topic.separator ∉ s.toList) :
    Topic.segments (topicOf fields) = Topic.segments version ++ fields :=
  Topic.segments_join version plain

theorem segments_of_key (k : Key) :
    Topic.segments k.encode = Topic.segments version ++
      eventTag :: (Topic.segments k.room ++ (Topic.segments k.user ++ [k.kind.segment])) := by
  obtain ⟨rest, split, cut⟩ := k.encode_split
  rw [split, Topic.segments_append, cut]

theorem segments_of_plain {k : Key} (plain : k.IsPlain) :
    Topic.segments k.encode = Topic.segments version ++ k.fields := by
  rw [segments_of_key, Topic.segments_plain plain.1, Topic.segments_plain plain.2]
  rfl

theorem stands_kind {filter : KindFilter} {z : String} :
    Topic.Stands filter.segment z ↔ filter = .any ∨ z = filter.segment := by
  cases filter with
  | any => simp [Topic.Stands, KindFilter.segment]
  | exact kind =>
    have differs : kind.name ≠ Topic.wildcard := by cases kind <;> decide
    simp [Topic.Stands, KindFilter.segment, differs]

/-- The topics of a plain pattern, by their `segments`. -/
theorem selects_iff {p : Key} (plain : p.IsPlain) {t : String} :
    Topic.selects p.encode t = true ↔
      ∃ x y z, Topic.segments t = Topic.segments version ++ [eventTag, x, y, z] ∧
        Topic.Stands p.room x ∧ Topic.Stands p.user y ∧ Topic.Stands p.kind.segment z := by
  have fixed : ∀ s ∈ Topic.segments version ++ [eventTag], s ≠ Topic.wildcard := by decide
  have cut : Topic.segments p.encode =
      (Topic.segments version ++ [eventTag]) ++ [p.room, p.user, p.kind.segment] := by
    rw [segments_of_plain plain, List.append_assoc]
    rfl
  rw [Topic.selects, cut, Topic.segmentsAgree_fixed fixed]
  simp only [Topic.segmentsAgree_iff, List.append_assoc, List.singleton_append]
  constructor
  · rintro ⟨rest, split, agree⟩
    obtain _ | ⟨room, _ | ⟨user, _ | ⟨kind, _ | _⟩⟩⟩ := agree
    exact ⟨_, _, _, split, room, user, kind⟩
  · rintro ⟨x, y, z, split, room, user, kind⟩
    exact ⟨[x, y, z], split, .cons room (.cons user (.cons kind .nil))⟩

/-- A plain pattern selects a plain key field by field. -/
theorem selects_encode_iff {p k : Key} (plain : p.IsPlain) (plain' : k.IsPlain) :
    Topic.selects p.encode k.encode = true ↔
      Topic.Stands p.room k.room ∧ Topic.Stands p.user k.user ∧
        Topic.Stands p.kind.segment k.kind.segment := by
  rw [selects_iff plain, segments_of_plain plain']
  constructor
  · rintro ⟨x, y, z, split, agree⟩
    cases List.append_cancel_left split
    exact agree
  · intro agree
    exact ⟨_, _, _, rfl, agree⟩

theorem plain_of_segments {k : Key} {x y z : String}
    (cut : Topic.segments k.encode = Topic.segments version ++ [eventTag, x, y, z]) :
    k.room = x ∧ k.IsPlain := by
  have fields : Topic.segments k.room ++ (Topic.segments k.user ++ [k.kind.segment]) = [x, y, z] := by
    have behind := List.append_cancel_left ((segments_of_key k).symm.trans cut)
    exact (List.cons.inj behind).2
  have lengths := congrArg List.length fields
  simp only [List.length_append, Topic.segments_length, List.length_cons, List.length_nil] at lengths
  have plain : k.IsPlain := by
    rw [IsPlain, ← List.count_eq_zero, ← List.count_eq_zero]
    omega
  rw [Topic.segments_plain plain.1, Topic.segments_plain plain.2] at fields
  exact ⟨(List.cons.inj fields).1, plain⟩

theorem selects_topicOf_iff {p : Key} (plain : p.IsPlain) {t : String} :
    Topic.selects p.encode t = true ↔
      ∃ x y z, (∀ s ∈ [x, y, z], Topic.separator ∉ s.toList) ∧ t = topicOf [eventTag, x, y, z] ∧
        (p.room = Topic.wildcard ∨ x = p.room) ∧ (p.user = Topic.wildcard ∨ y = p.user) ∧
        (p.kind = .any ∨ z = p.kind.segment) := by
  have tag : Topic.separator ∉ eventTag.toList := by decide
  rw [selects_iff plain]
  simp only [stands_kind]
  simp only [Topic.Stands]
  constructor
  · rintro ⟨x, y, z, split, agree⟩
    have inside : ∀ s ∈ [eventTag, x, y, z], Topic.separator ∉ s.toList := by
      intro s member
      apply Topic.plain_of_mem_segments (t := t)
      rw [split]
      exact List.mem_append_right _ member
    refine ⟨x, y, z, fun s member => inside s (List.mem_cons_of_mem _ member), ?_, agree⟩
    apply Topic.segments_injective
    rw [split, segments_topicOf inside]
  · rintro ⟨x, y, z, inside, rfl, agree⟩
    refine ⟨x, y, z, segments_topicOf ?_, agree⟩
    exact List.forall_mem_cons.mpr ⟨tag, inside⟩

theorem isSegment_of_checkSegment {s : String} (checked : checkSegment s = .ok ()) :
    Topic.isSegment s = true := by
  unfold checkSegment at checked
  split at checked
  · assumption
  · contradiction

/-- The `roomPattern` of a segment selects an event iff it is one of the room and its user holds no
separator. -/
theorem selects_event_iff {room : String} (segment : Topic.isSegment room = true)
    {room' user : String} {kind : Kind} :
    Topic.selects (roomPattern room).encode (event room' user kind).encode = true ↔
      room' = room ∧ Topic.separator ∉ user.toList := by
  have wild : Topic.separator ∉ Topic.wildcard.toList := by decide
  have safe := Topic.isSafe_of_isSegment segment
  have named : room ≠ Topic.wildcard := by
    rintro rfl
    revert safe
    decide
  have plain : (roomPattern room).IsPlain := ⟨Topic.plain_of_isSafe safe, wild⟩
  constructor
  · intro selected
    obtain ⟨x, y, z, cut, same, -⟩ := (selects_iff plain).mp selected
    obtain ⟨rfl, -, free⟩ := plain_of_segments cut
    exact ⟨same.resolve_left named, free⟩
  · rintro ⟨rfl, free⟩
    have whole : (event room' user kind).IsPlain := ⟨Topic.plain_of_isSafe safe, free⟩
    exact (selects_encode_iff plain whole).mpr ⟨.inr rfl, .inl rfl, .inl rfl⟩

/-- A plain pattern selects the topics of four fields that agree with it in each field that is no
wildcard. The `roomPattern` of a room that passes `checkSegment` thus selects the events of this room
and of no other. -/
theorem patterns_select_their_room :
    (∀ p : Key, p.IsPlain → ∀ t, Topic.selects p.encode t = true ↔
      ∃ x y z, (∀ s ∈ [x, y, z], Topic.separator ∉ s.toList) ∧ t = topicOf [eventTag, x, y, z] ∧
        (p.room = Topic.wildcard ∨ x = p.room) ∧ (p.user = Topic.wildcard ∨ y = p.user) ∧
        (p.kind = .any ∨ z = p.kind.segment)) ∧
    (∀ room, checkSegment room = .ok () → ∀ room' user kind,
      Topic.selects (roomPattern room).encode (event room' user kind).encode = true ↔
        room' = room ∧ Topic.separator ∉ user.toList) :=
  ⟨fun _ plain _ => selects_topicOf_iff plain,
    fun _ checked _ _ _ => selects_event_iff (isSegment_of_checkSegment checked)⟩

theorem patterns_select_their_room_attic :
    Topic.selects (roomPattern "attic").encode "hc.wb.1.evt.attic.*.drawing" = true ∧
      Topic.selects (roomPattern "attic").encode (event "attic" "an.n" .drawing).encode = false := by
  have plain : (roomPattern "attic").IsPlain := ⟨by decide, by decide⟩
  have checked : checkSegment "attic" = .ok () := by decide
  constructor
  · exact (patterns_select_their_room.1 _ plain _).mpr
      ⟨"attic", "*", "drawing", by decide, by decide, .inr rfl, .inl rfl, .inl rfl⟩
  · have missed := (patterns_select_their_room.2 "attic" checked "attic" "an.n" .drawing).not.mpr (by decide)
    exact Bool.eq_false_iff.mpr missed

end Key
end RoomRelay
