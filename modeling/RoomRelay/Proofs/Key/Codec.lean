import Mathlib.Data.List.Basic
import RoomRelay.Proofs.Topic

/-!
`Key.decode` is exact: it inverts `Key.encode` on keys of plain names and fails on every other topic
with its `Fault`, which is stated without `decode`.
-/

namespace RoomRelay

namespace Topic

theorem pieces_separate (cs : List Char) :
    (pieces cs).flatMap (fun p => separator :: p) = separator :: cs := by
  induction cs with
  | nil => rfl
  | cons c cs ih =>
    rw [pieces]
    split
    · rename_i same
      rw [List.flatMap_cons, ih, same, List.singleton_append]
    · cases rest : pieces cs with
      | nil => exact absurd rest (pieces_ne_nil cs)
      | cons p ps =>
        rw [rest, List.flatMap_cons, List.cons_append] at ih
        have tail := (List.cons.inj ih).2
        rw [List.flatMap_cons, List.cons_append, List.cons_append, tail]

theorem plain_of_mem_pieces {cs p : List Char} (member : p ∈ pieces cs) : separator ∉ p := by
  induction cs generalizing p with
  | nil =>
    rw [List.mem_singleton.mp member]
    exact List.not_mem_nil
  | cons c cs ih =>
    rw [pieces] at member
    split at member
    · rcases List.mem_cons.mp member with rfl | later
      · exact List.not_mem_nil
      · exact ih later
    · rename_i other
      cases rest : pieces cs with
      | nil => exact absurd rest (pieces_ne_nil cs)
      | cons q qs =>
        rw [rest] at member ih
        rcases List.mem_cons.mp member with rfl | later
        · intro inside
          rcases List.mem_cons.mp inside with same | inside
          · exact other same.symm
          · exact ih List.mem_cons_self inside
        · exact ih (List.mem_cons_of_mem _ later)

theorem plain_of_mem_segments {t s : String} (member : s ∈ segments t) : separator ∉ s.toList := by
  obtain ⟨p, present, rfl⟩ := List.mem_map.mp member
  rw [String.toList_ofList]
  exact plain_of_mem_pieces present

theorem pieces_length (cs : List Char) : (pieces cs).length = cs.count separator + 1 := by
  induction cs with
  | nil => rfl
  | cons c cs ih =>
    rw [pieces]
    split
    · rename_i same
      rw [List.length_cons, ih, same, List.count_cons_self]
    · rename_i other
      rw [List.count_cons_of_ne other, ← ih]
      cases rest : pieces cs with
      | nil => exact absurd rest (pieces_ne_nil cs)
      | cons p ps => rfl

theorem segments_length (t : String) : (segments t).length = t.toList.count separator + 1 := by
  rw [segments, List.length_map, pieces_length]

theorem toList_join (items : List String) :
    (join items).toList = items.flatMap fun s => separator :: s.toList := by
  induction items with
  | nil => rfl
  | cons s items ih =>
    have split : join (s :: items) = String.singleton separator ++ s ++ join items := by
      rw [join, List.map_cons, String.join_cons, join]
    rw [split, String.toList_append, String.toList_append, String.toList_singleton, ih,
      List.flatMap_cons, List.singleton_append]

/-- `join` inverts `segments`, up to the leading separator. -/
theorem join_segments (t : String) : join (segments t) = String.singleton separator ++ t := by
  apply String.toList_inj.mp
  have back : (fun p => separator :: (String.ofList p).toList) = fun p => separator :: p := by
    funext p
    rw [String.toList_ofList]
  rw [toList_join, segments, List.flatMap_map, back, pieces_separate, String.toList_append,
    String.toList_singleton, List.singleton_append]

end Topic

theorem Kind.ofName?_eq_some_iff {s : String} {kind : Kind} :
    Kind.ofName? s = some kind ↔ kind.name = s := by
  constructor
  · intro found
    exact eq_of_beq (List.find?_some found :)
  · rintro rfl
    cases kind <;> decide

theorem KindFilter.ofSegment?_eq_some_iff {s : String} {filter : KindFilter} :
    KindFilter.ofSegment? s = some filter ↔ filter.segment = s := by
  rw [ofSegment?]
  cases filter with
  | any =>
    split
    · rename_i same
      exact ⟨fun _ => same.symm, fun _ => rfl⟩
    · rename_i other
      exact ⟨fun found => by simp at found, fun same => absurd same.symm other⟩
  | exact kind =>
    split
    · rename_i same
      have differs : kind.name ≠ Topic.wildcard := by cases kind <;> decide
      exact ⟨fun found => by simp at found, fun named => absurd (Eq.trans named same) differs⟩
    · rw [segment, ← Kind.ofName?_eq_some_iff]
      simp

namespace Key

/-- Room and user are single segments. -/
def IsPlain (k : Key) : Prop :=
  Topic.separator ∉ k.room.toList ∧ Topic.separator ∉ k.user.toList

/-- The faults of a topic, in the order in which `decode` finds them. -/
inductive Fault (topic : String) : Malformed → Prop where
  | version (other : ¬∃ rest, topic = Key.version ++ rest) : Fault topic .version
  | bareVersion {rest : String} (split : topic = Key.version ++ rest)
    (bare : ¬∃ fields, rest = String.singleton Topic.separator ++ fields) : Fault topic .bareVersion
  | shape {rest : String} (split : topic = Key.version ++ (String.singleton Topic.separator ++ rest))
    (tag : (Topic.segments rest).head? ≠ some eventTag) : Fault topic .shape
  | fieldCount {rest : String}
    (split : topic = Key.version ++ (String.singleton Topic.separator ++ rest))
    (tag : (Topic.segments rest).head? = some eventTag)
    (count : (Topic.segments rest).length ≠ Key.fieldCount) : Fault topic .fieldCount
  | kind {rest room user kind : String}
    (split : topic = Key.version ++ (String.singleton Topic.separator ++ rest))
    (fields : Topic.segments rest = [eventTag, room, user, kind])
    (unknown : ∀ filter : KindFilter, filter.segment ≠ kind) : Fault topic .kind

/-! ### The stages of reading -/

theorem body_of_split (rest : String) :
    body (version ++ (String.singleton Topic.separator ++ rest)).toList = .ok rest.toList := by
  have found : version.toList.isPrefixOf? (version.toList ++ Topic.separator :: rest.toList) =
      some (Topic.separator :: rest.toList) := List.isPrefixOf?_eq_some_iff_append_eq.mpr rfl
  rw [String.toList_append, String.toList_append, String.toList_singleton, List.singleton_append, body,
    found]
  exact if_pos rfl

theorem body_of_version {topic : String} (other : ¬∃ rest, topic = version ++ rest) :
    body topic.toList = .error .version := by
  cases found : version.toList.isPrefixOf? topic.toList with
  | none => rw [body, found]
  | some behind =>
    refine absurd ⟨String.ofList behind, ?_⟩ other
    apply String.toList_inj.mp
    rw [String.toList_append, String.toList_ofList]
    exact (List.isPrefixOf?_eq_some_iff_append_eq.mp found).symm

theorem body_of_bareVersion {rest : String}
    (bare : ¬∃ fields, rest = String.singleton Topic.separator ++ fields) :
    body (version ++ rest).toList = .error .bareVersion := by
  have found : version.toList.isPrefixOf? (version.toList ++ rest.toList) = some rest.toList :=
    List.isPrefixOf?_eq_some_iff_append_eq.mpr rfl
  rw [String.toList_append, body, found]
  cases chars : rest.toList with
  | nil => rfl
  | cons c behind =>
    by_cases same : c = Topic.separator
    · refine absurd ⟨String.ofList behind, ?_⟩ bare
      apply String.toList_inj.mp
      rw [chars, same, String.toList_append, String.toList_ofList, String.toList_singleton,
        List.singleton_append]
    · exact if_neg same

theorem ofFields_fields (k : Key) : ofFields k.fields = .ok k := by
  have known : KindFilter.ofSegment? k.kind.segment = some k.kind :=
    KindFilter.ofSegment?_eq_some_iff.mpr rfl
  simp only [fields, ofFields, if_true, known]

theorem ofFields_of_shape {fs : List String} (tag : fs.head? ≠ some eventTag) :
    ofFields fs = .error .shape := by
  have other : ∀ first rest, fs = first :: rest → first ≠ eventTag := by
    rintro first rest rfl same
    exact tag (congrArg some same)
  unfold ofFields
  split
  · exact if_neg (other _ _ rfl)
  · exact if_neg (other _ _ rfl)
  · rfl

theorem ofFields_of_fieldCount {fs : List String} (tag : fs.head? = some eventTag)
    (count : fs.length ≠ fieldCount) : ofFields fs = .error .fieldCount := by
  unfold ofFields
  split
  · exact absurd rfl count
  · exact if_pos (Option.some.inj tag)
  · contradiction

theorem ofFields_of_kind {room user kind : String} (unknown : ∀ filter : KindFilter, filter.segment ≠ kind) :
    ofFields [eventTag, room, user, kind] = .error .kind := by
  have none : KindFilter.ofSegment? kind = none := by
    apply Option.eq_none_iff_forall_ne_some.mpr
    intro filter known
    exact unknown filter (KindFilter.ofSegment?_eq_some_iff.mp known)
  simp only [ofFields, if_true, none]

theorem decode_split (rest : String) :
    decode (version ++ (String.singleton Topic.separator ++ rest)) =
      match ofFields (Topic.segments rest) with
      | .ok k => .ok k
      | .error why =>
        .error (.malformed (version ++ (String.singleton Topic.separator ++ rest)) why) := by
  rw [decode, body_of_split]
  rfl

theorem Fault.decode {topic : String} {why : Malformed} (fault : Fault topic why) :
    decode topic = .error (.malformed topic why) := by
  cases fault with
  | version other => rw [Key.decode, body_of_version other]; rfl
  | bareVersion split bare => rw [split, Key.decode, body_of_bareVersion bare]; rfl
  | shape split tag => rw [split, decode_split, ofFields_of_shape tag]
  | fieldCount split tag count => rw [split, decode_split, ofFields_of_fieldCount tag count]
  | kind split fields unknown => rw [split, decode_split, fields, ofFields_of_kind unknown]

/-! ### Keys and faults -/

theorem encode_eq {k : Key} {rest : String} (cut : Topic.segments rest = k.fields) :
    k.encode = version ++ (String.singleton Topic.separator ++ rest) := by
  rw [encode, topicOf, ← cut, Topic.join_segments]

theorem isPlain_of_segments {k : Key} {rest : String} (cut : Topic.segments rest = k.fields) :
    k.IsPlain := by
  have room : k.room ∈ Topic.segments rest := by
    rw [cut]
    exact List.mem_cons_of_mem _ List.mem_cons_self
  have user : k.user ∈ Topic.segments rest := by
    rw [cut]
    exact List.mem_cons_of_mem _ (List.mem_cons_of_mem _ List.mem_cons_self)
  exact ⟨Topic.plain_of_mem_segments room, Topic.plain_of_mem_segments user⟩

theorem key_or_fault (topic : String) :
    (∃ k : Key, k.encode = topic ∧ k.IsPlain) ∨ ∃ why, Fault topic why := by
  by_cases known : ∃ rest, topic = version ++ rest
  case neg => exact .inr ⟨_, .version known⟩
  obtain ⟨behind, split⟩ := known
  by_cases bare : ∃ rest, behind = String.singleton Topic.separator ++ rest
  case neg => exact .inr ⟨_, .bareVersion split bare⟩
  obtain ⟨rest, rfl⟩ := bare
  by_cases tag : (Topic.segments rest).head? = some eventTag
  case neg => exact .inr ⟨_, .shape split tag⟩
  by_cases count : (Topic.segments rest).length = fieldCount
  case neg => exact .inr ⟨_, .fieldCount split tag count⟩
  obtain ⟨more, cut⟩ := List.head?_eq_some_iff.mp tag
  rw [cut, fieldCount, List.length_cons, Nat.add_right_cancel_iff, List.length_eq_three] at count
  obtain ⟨room, user, kind, rfl⟩ := count
  by_cases known : ∃ filter : KindFilter, filter.segment = kind
  case neg =>
    refine .inr ⟨_, .kind split cut ?_⟩
    intro filter named
    exact known ⟨filter, named⟩
  obtain ⟨filter, rfl⟩ := known
  have fields : Topic.segments rest = Key.fields ⟨room, user, filter⟩ := cut
  exact .inl ⟨⟨room, user, filter⟩, (encode_eq fields).trans split.symm, isPlain_of_segments fields⟩

theorem plain_segment (filter : KindFilter) : Topic.separator ∉ filter.segment.toList := by
  cases filter with
  | any => decide
  | exact kind => cases kind <;> decide

theorem encode_split (k : Key) :
    ∃ rest, k.encode = version ++ (String.singleton Topic.separator ++ rest) ∧
      Topic.segments rest =
        eventTag :: (Topic.segments k.room ++ (Topic.segments k.user ++ [k.kind.segment])) := by
  refine ⟨eventTag ++ (String.singleton Topic.separator ++
    (k.room ++ (String.singleton Topic.separator ++
      (k.user ++ (String.singleton Topic.separator ++ k.kind.segment))))), ?_, ?_⟩
  · simp only [encode, topicOf, fields, Topic.join, List.map_cons, List.map_nil, String.join_cons,
      String.join_nil, String.append_empty, String.append_assoc]
  · have tag : Topic.segments eventTag = [eventTag] := Topic.segments_plain (by decide)
    rw [Topic.segments_append, Topic.segments_append, Topic.segments_append, tag,
      Topic.segments_plain (plain_segment k.kind), List.singleton_append]

theorem decode_encode {k : Key} (plain : k.IsPlain) : decode k.encode = .ok k := by
  obtain ⟨rest, split, cut⟩ := k.encode_split
  rw [Topic.segments_plain plain.1, Topic.segments_plain plain.2] at cut
  have fields : ofFields (Topic.segments rest) = .ok k := by
    rw [cut]
    exact ofFields_fields k
  rw [split, decode_split, fields]

theorem decode_eq_ok_iff {t : String} {k : Key} : decode t = .ok k ↔ k.encode = t ∧ k.IsPlain := by
  constructor
  · intro read
    rcases key_or_fault t with ⟨k', rfl, plain⟩ | ⟨why, fault⟩
    · obtain rfl := Except.ok.inj ((decode_encode plain).symm.trans read)
      exact ⟨rfl, plain⟩
    · rw [fault.decode] at read
      contradiction
  · rintro ⟨rfl, plain⟩
    exact decode_encode plain

theorem decode_eq_error_iff {t : String} {e : KeyError} :
    decode t = .error e ↔ ∃ why, Fault t why ∧ e = .malformed t why := by
  constructor
  · intro read
    rcases key_or_fault t with ⟨k, rfl, plain⟩ | ⟨why, fault⟩
    · rw [decode_encode plain] at read
      contradiction
    · exact ⟨why, fault, Except.error.inj (read.symm.trans fault.decode)⟩
  · rintro ⟨why, fault, rfl⟩
    exact fault.decode

theorem encode_injective {k k' : Key} (plain : k.IsPlain) (plain' : k'.IsPlain)
    (same : k.encode = k'.encode) : k = k' := by
  have read := decode_encode plain
  rw [same, decode_encode plain'] at read
  exact (Except.ok.inj read).symm

/-- Distinct rooms have distinct patterns, whether or not they are segments. -/
theorem roomPattern_injective {room room' : String}
    (same : (roomPattern room).encode = (roomPattern room').encode) : room = room' := by
  have letters := congrArg String.toList same
  simp only [encode, topicOf, fields, roomPattern, String.toList_append, Topic.toList_join,
    List.flatMap_cons, List.append_cancel_left_eq, List.append_cancel_right_eq] at letters
  exact String.toList_inj.mp (List.cons.inj letters).2

theorem fault_of_not_isPlain {k : Key} (split : ¬k.IsPlain) : Fault k.encode .fieldCount := by
  obtain ⟨rest, same, cut⟩ := k.encode_split
  refine .fieldCount same (by rw [cut, List.head?_cons]) ?_
  have more : 0 < k.room.toList.count Topic.separator + k.user.toList.count Topic.separator := by
    rw [IsPlain, ← List.count_eq_zero, ← List.count_eq_zero] at split
    omega
  rw [cut, List.length_cons, List.length_append, List.length_append, Topic.segments_length,
    Topic.segments_length, List.length_singleton, fieldCount]
  omega

/-- `decode` and `encode` are inverse on plain keys, so that no two of them share a topic. A key with
a separator in a name decodes to the error `fieldCount`, and every other topic to its `Fault`. -/
theorem codec_is_exact :
    (∀ t k, decode t = .ok k ↔ k.encode = t ∧ k.IsPlain) ∧
    (∀ k k' : Key, k.IsPlain → k'.IsPlain → k.encode = k'.encode → k = k') ∧
    (∀ k : Key, ¬k.IsPlain → decode k.encode = .error (.malformed k.encode .fieldCount)) ∧
    (∀ t e, decode t = .error e ↔ ∃ why, Fault t why ∧ e = .malformed t why) := by
  refine ⟨?_, ?_, ?_, ?_⟩
  · intro t k
    exact decode_eq_ok_iff
  · intro k k' plain plain' same
    exact encode_injective plain plain' same
  · intro k split
    exact (fault_of_not_isPlain split).decode
  · intro t e
    exact decode_eq_error_iff

/-- A longer version mark is not the version, an empty room can be decoded, and a room with a
separator cannot. -/
theorem codec_is_exact_near_miss :
    decode "hc.wb.10.evt.attic.ann.drawing" =
        .error (.malformed "hc.wb.10.evt.attic.ann.drawing" .bareVersion) ∧
      decode "hc.wb.1.evt..ann.*" = .ok ⟨"", "ann", .any⟩ ∧
      decode (event "a.b" "ann" .drawing).encode =
        .error (.malformed (event "a.b" "ann" .drawing).encode .fieldCount) := by
  obtain ⟨keys, -, unfit, faults⟩ := codec_is_exact
  refine ⟨(faults _ _).mpr ⟨.bareVersion, ?_, rfl⟩, (keys _ _).mpr ⟨?_, ?_, ?_⟩, unfit _ ?_⟩
  · have split : "hc.wb.10.evt.attic.ann.drawing" = version ++ "0.evt.attic.ann.drawing" := by
      decide +kernel
    refine .bareVersion split ?_
    rintro ⟨fields, same⟩
    have first := congrArg (fun s : String => s.toList.head?) same
    rw [String.toList_append, String.toList_singleton] at first
    revert first
    simp [Topic.separator]
  · decide +kernel
  · decide
  · decide
  · intro plain
    exact plain.1 (by decide)

end Key
end RoomRelay
