import RoomRelay.Proofs.Key.Codec

/-!
`Key.verify` on all keys. It reports the first of room and user that is empty or `0`, accepts the
other keys of plain names, and reports the field count of the rest. Its comparison with the decoded
key never fails.
-/

namespace RoomRelay.Key

theorem tag_not_empty : isEmptyField eventTag = false := by decide

theorem segment_not_empty (filter : KindFilter) : isEmptyField filter.segment = false := by
  cases filter with
  | any => decide
  | exact kind => cases kind <;> decide

theorem isEmptyField_eq_true_iff {s : String} : isEmptyField s = true ↔ s = "" ∨ s = "0" := by
  simp [isEmptyField]

theorem isEmptyField_iff {s : String} (named : s ≠ "") : isEmptyField s = true ↔ s = "0" := by
  simp [isEmptyField, named]

theorem verify_of_room {k : Key} (room : isEmptyField k.room = true) :
    k.verify = .error (.emptySegment k.fields 1) := by
  have first : k.fields.findIdx? isEmptyField = some 1 := by
    simp [fields, List.findIdx?_cons, tag_not_empty, room]
  rw [verify, first]

theorem verify_of_user {k : Key} (room : isEmptyField k.room = false)
    (user : isEmptyField k.user = true) : k.verify = .error (.emptySegment k.fields 2) := by
  have first : k.fields.findIdx? isEmptyField = some 2 := by
    simp [fields, List.findIdx?_cons, tag_not_empty, room, user]
  rw [verify, first]

theorem findIdx?_of_named {k : Key} (room : isEmptyField k.room = false)
    (user : isEmptyField k.user = false) : k.fields.findIdx? isEmptyField = none := by
  simp [fields, List.findIdx?_cons, tag_not_empty, segment_not_empty, room, user]

theorem verify_of_plain {k : Key} (plain : k.IsPlain) (room : isEmptyField k.room = false)
    (user : isEmptyField k.user = false) : k.verify = .ok fieldCount := by
  rw [verify, findIdx?_of_named room user, decode_encode plain]
  simp only [ne_eq, not_true_eq_false, if_false]
  rfl

theorem verify_of_not_isPlain {k : Key} (split : ¬k.IsPlain) (room : isEmptyField k.room = false)
    (user : isEmptyField k.user = false) : k.verify = .error (.malformed k.encode .fieldCount) := by
  rw [verify, findIdx?_of_named room user, (fault_of_not_isPlain split).decode]

/-- The result of `verify` on plain names that are not empty: only `0` fails. -/
def verdict (k : Key) : Except KeyError Nat :=
  if k.room = "0" then .error (.emptySegment k.fields 1)
  else if k.user = "0" then .error (.emptySegment k.fields 2)
  else .ok fieldCount

theorem verify_eq_verdict {k : Key} (plain : k.IsPlain) (room : k.room ≠ "") (user : k.user ≠ "") :
    k.verify = k.verdict := by
  unfold verdict
  split
  · rename_i zero
    exact verify_of_room ((isEmptyField_iff room).mpr zero)
  · rename_i other
    have carried := Bool.eq_false_iff.mpr fun empty => other ((isEmptyField_iff room).mp empty)
    split
    · rename_i zero
      exact verify_of_user carried ((isEmptyField_iff user).mpr zero)
    · rename_i other'
      have carried' := Bool.eq_false_iff.mpr fun empty => other' ((isEmptyField_iff user).mp empty)
      exact verify_of_plain plain carried carried'

/-! ### All keys -/

def IsSound (k : Key) : Prop :=
  ∀ name ∈ [k.room, k.user], name ≠ "" ∧ name ≠ "0" ∧ Topic.separator ∉ name.toList

theorem isSound_iff {k : Key} :
    k.IsSound ↔ isEmptyField k.room = false ∧ isEmptyField k.user = false ∧ k.IsPlain := by
  simp only [IsSound, IsPlain, List.forall_mem_cons, List.not_mem_nil, false_imp_iff, implies_true,
    and_true, ← Bool.not_eq_true, isEmptyField_eq_true_iff, not_or]
  tauto

/-- The results of `verify`, each with its keys. -/
inductive Judged (k : Key) : Except KeyError Nat → Prop where
  | roomless (room : isEmptyField k.room = true) : Judged k (.error (.emptySegment k.fields 1))
  | userless (room : isEmptyField k.room = false) (user : isEmptyField k.user = true) :
    Judged k (.error (.emptySegment k.fields 2))
  | split (room : isEmptyField k.room = false) (user : isEmptyField k.user = false)
    (split : ¬k.IsPlain) : Judged k (.error (.malformed k.encode .fieldCount))
  | sound (room : isEmptyField k.room = false) (user : isEmptyField k.user = false)
    (plain : k.IsPlain) : Judged k (.ok fieldCount)

theorem judged_verify (k : Key) : k.Judged k.verify := by
  cases room : isEmptyField k.room with
  | true =>
    rw [verify_of_room room]
    exact .roomless room
  | false =>
    cases user : isEmptyField k.user with
    | true =>
      rw [verify_of_user room user]
      exact .userless room user
    | false =>
      by_cases plain : k.IsPlain
      · rw [verify_of_plain plain room user]
        exact .sound room user plain
      · rw [verify_of_not_isPlain plain room user]
        exact .split room user plain

theorem verify_eq_ok_iff {k : Key} {n : Nat} : k.verify = .ok n ↔ n = fieldCount ∧ k.IsSound := by
  rw [isSound_iff]
  generalize answer : k.verify = r
  have judged : k.Judged r := answer ▸ judged_verify k
  cases judged with
  | roomless room => simp [room]
  | userless room user => simp [user]
  | split room user split => simp [split]
  | sound room user plain => simp [room, user, plain, eq_comm]

/-- `verify` has four results, and these are the keys of each. Its comparison with the decoded key
never fails. -/
theorem verify_classifies (k : Key) :
    (k.verify = .ok 4 ↔ k.IsSound) ∧
    (k.verify = .error (.emptySegment k.fields 1) ↔ k.room = "" ∨ k.room = "0") ∧
    (k.verify = .error (.emptySegment k.fields 2) ↔
      ¬(k.room = "" ∨ k.room = "0") ∧ (k.user = "" ∨ k.user = "0")) ∧
    (k.verify = .error (.malformed k.encode .fieldCount) ↔
      ¬(k.room = "" ∨ k.room = "0") ∧ ¬(k.user = "" ∨ k.user = "0") ∧ ¬k.IsPlain) ∧
    Malformed.fieldCount.reason = "field count mismatch" ∧
    (∀ fields got, k.verify ≠ .error (.roundTrip fields got)) := by
  have sound : k.verify = .ok 4 ↔ k.IsSound := verify_eq_ok_iff.trans (and_iff_right rfl)
  refine ⟨sound, ?_⟩
  simp only [← isEmptyField_eq_true_iff]
  generalize answer : k.verify = r
  have judged : k.Judged r := answer ▸ judged_verify k
  -- The conditions of the answers exclude each other, and so do the answers.
  cases judged with
  | roomless room => simp [room, Malformed.reason]
  | userless room user => simp [room, user, Malformed.reason]
  | split room user split => simp [room, user, split, Malformed.reason]
  | sound room user plain => simp [room, user, plain, Malformed.reason]

/-! ### The self-test -/

theorem verifyAll_eq_ok_iff {ks : List Key} : verifyAll ks = .ok () ↔ ∀ k ∈ ks, k.IsSound := by
  induction ks with
  | nil => simp [verifyAll]
  | cons k ks ih =>
    rw [verifyAll, List.forall_mem_cons, ← ih]
    split
    · rename_i e broken
      have unsound : ¬k.IsSound := fun sound => by
        rw [verify_eq_ok_iff.mpr ⟨rfl, sound⟩] at broken
        contradiction
      simp [unsound]
    · rename_i n passed
      obtain ⟨rfl, sound⟩ := verify_eq_ok_iff.mp passed
      simp [sound]

/-- The self-test at startup passes. -/
theorem verifySamples_eq_ok : verifySamples = .ok () := by
  have named : ∀ user ∈ ["user", Topic.wildcard], ∀ name ∈ ["room", user],
      name ≠ "" ∧ name ≠ "0" ∧ Topic.separator ∉ name.toList := by decide
  refine verifyAll_eq_ok_iff.mpr (List.forall_mem_cons.mpr ⟨?pattern, fun k member => ?event⟩)
  case pattern => exact named Topic.wildcard (by decide)
  case event =>
    obtain ⟨kind, -, rfl⟩ := List.mem_map.mp member
    exact named "user" (by decide)

end RoomRelay.Key
