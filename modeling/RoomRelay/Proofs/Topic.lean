import RoomRelay.Identity

/-!
The `segments` of topics that were joined from segments, and the pattern of a room.
-/

namespace RoomRelay

namespace Topic

theorem pieces_ne_nil (cs : List Char) : pieces cs ≠ [] := by
  cases cs with
  | nil => exact List.cons_ne_nil _ _
  | cons c cs =>
    unfold pieces
    split
    · exact List.cons_ne_nil _ _
    · split <;> exact List.cons_ne_nil _ _

theorem pieces_append (xs ys : List Char) :
    pieces (xs ++ separator :: ys) = pieces xs ++ pieces ys := by
  induction xs with
  | nil => rw [List.nil_append, pieces.eq_2, if_pos rfl]; rfl
  | cons x xs ih =>
    rw [List.cons_append, pieces, pieces, ih]
    split
    · rfl
    · cases first : pieces xs with
      | nil => exact absurd first (pieces_ne_nil xs)
      | cons p ps => rfl

theorem pieces_plain {xs : List Char} (plain : separator ∉ xs) : pieces xs = [xs] := by
  induction xs with
  | nil => rfl
  | cons x xs ih =>
    obtain ⟨other, rest⟩ := not_or.mp fun either => plain (List.mem_cons.mpr either)
    rw [pieces, if_neg (Ne.symm other), ih rest]

theorem segments_append (before behind : String) :
    segments (before ++ (String.singleton separator ++ behind)) =
      segments before ++ segments behind := by
  unfold segments
  rw [String.toList_append, String.toList_append, String.toList_singleton, List.singleton_append,
    pieces_append, List.map_append]

theorem segments_plain {s : String} (plain : separator ∉ s.toList) : segments s = [s] := by
  rw [segments, pieces_plain plain, List.map_singleton, String.ofList_toList]

/-- The `segments` of a topic with segments joined to it. -/
theorem segments_join (topic : String) {items : List String}
    (plain : ∀ s ∈ items, separator ∉ s.toList) :
    segments (topic ++ join items) = segments topic ++ items := by
  induction items generalizing topic with
  | nil => simp [join]
  | cons s items ih =>
    have head : segments s = [s] := segments_plain (plain s List.mem_cons_self)
    have next := ih (topic ++ (String.singleton separator ++ s)) fun s member =>
      plain s (List.mem_cons_of_mem _ member)
    rw [segments_append, head, List.append_assoc, List.singleton_append] at next
    rw [← next, join, List.map_cons, String.join_cons, ← String.append_assoc, join]

theorem segmentsAgree_append (xs ps ts : List String) :
    segmentsAgree (xs ++ ps) (xs ++ ts) = segmentsAgree ps ts := by
  induction xs with
  | nil => rfl
  | cons x xs ih => simp [segmentsAgree, ih]

theorem plain_of_isSafe {s : String} (safe : isSafe s = true) : separator ∉ s.toList := by
  intro member
  have allowed := List.all_eq_true.mp safe separator member
  simp [separator, Topic.reserved] at allowed

theorem isSafe_of_isSegment {s : String} (segment : isSegment s = true) : isSafe s = true :=
  (Bool.and_eq_true_iff.mp segment).2

end Topic

namespace Key

theorem segments_encode (k : Key) (room : Topic.isSafe k.room = true)
    (user : Topic.separator ∉ k.user.toList) :
    Topic.segments k.encode = Topic.segments version ++ k.fields := by
  apply Topic.segments_join version
  intro s member
  simp only [fields, List.mem_cons, List.not_mem_nil, or_false] at member
  rcases member with rfl | rfl | rfl | rfl
  · decide
  · exact Topic.plain_of_isSafe room
  · exact user
  · cases k.kind with
    | any => decide
    | exact kind => cases kind <;> decide

/-- `roomPattern` selects every event of its room. -/
theorem roomPattern_selects {room user : String} (safeRoom : Topic.isSafe room = true)
    (safeUser : Topic.isSafe user = true) (kind : Kind) :
    Topic.selects (roomPattern room).encode (event room user kind).encode = true := by
  have wild : Topic.separator ∉ Topic.wildcard.toList := by decide
  rw [Topic.selects, segments_encode (roomPattern room) safeRoom wild,
    segments_encode (event room user kind) safeRoom (Topic.plain_of_isSafe safeUser),
    Topic.segmentsAgree_append]
  simp [fields, roomPattern, event, KindFilter.segment, Topic.segmentsAgree]

/-- `roomPattern` selects no event of another room. -/
theorem room_of_selects {room room' user : String} {kind : Kind} (safe : Topic.isSafe room = true)
    (safe' : Topic.isSafe room' = true) (safeUser : Topic.isSafe user = true)
    (selected : Topic.selects (roomPattern room).encode (event room' user kind).encode = true) :
    room' = room := by
  have wild : Topic.separator ∉ Topic.wildcard.toList := by decide
  have named : room ≠ Topic.wildcard := by
    rintro rfl
    revert safe
    decide
  rw [Topic.selects, segments_encode (roomPattern room) safe wild,
    segments_encode (event room' user kind) safe' (Topic.plain_of_isSafe safeUser),
    Topic.segmentsAgree_append] at selected
  simp only [fields, roomPattern, event, Topic.segmentsAgree, Bool.and_eq_true, Bool.or_eq_true,
    beq_iff_eq] at selected
  exact (selected.2.1.resolve_left named).symm

end Key

theorem identityOf_segment {value : List UInt8} {user : String}
    (known : identityOf value = .ok user) : Topic.isSegment user = true := by
  simp only [identityOf] at known
  repeat' split at known
  case isFalse.isFalse.isFalse.isFalse named _ safe =>
    obtain rfl := Except.ok.inj known
    rw [Topic.isSegment, Bool.and_eq_true]
    exact ⟨by simpa using named, by simpa using safe⟩
  all_goals contradiction

theorem Headers.identity_segment {h : Headers} {user : String} (known : h.identity = .ok user) :
    Topic.isSegment user = true := by
  unfold identity at known
  split at known
  · contradiction
  · exact identityOf_segment known
  · contradiction

theorem Headers.identity_safe {h : Headers} {user : String} (known : h.identity = .ok user) :
    Topic.isSafe user = true :=
  Topic.isSafe_of_isSegment (identity_segment known)

/-- The user of a scope is that of `Headers.identity`. -/
theorem Scope.prepare_identity {headers : Headers} {options : ScopeOptions} {now limit : Nat}
    {scope : Scope} {user : String} (prepared : Scope.prepare headers options now limit = .ok scope)
    (known : scope.user = some user) : headers.identity = .ok user := by
  unfold Scope.prepare at prepared
  split at prepared
  · rw [← Except.ok.inj prepared] at known
    contradiction
  · cases identity : headers.identity with
    | error e =>
      rw [identity] at prepared
      contradiction
    | ok name =>
      rw [identity] at prepared
      rw [← Except.ok.inj prepared] at known
      obtain rfl := Option.some.inj known
      rfl

theorem Scope.prepare_safe {headers : Headers} {options : ScopeOptions} {now limit : Nat}
    {scope : Scope} {user : String} (prepared : Scope.prepare headers options now limit = .ok scope)
    (known : scope.user = some user) : Topic.isSafe user = true :=
  Headers.identity_safe (prepare_identity prepared known)

end RoomRelay
