import Mathlib.Data.List.Nodup
import RoomRelay.Proofs.Event.Wire

/-!
`Wire.Event.toDomain` on all records. A record has four `Slot`s for a payload and is an event iff
exactly one of them is taken, with a visible color in case of a drawing. `Unreadable` gives the error
of every other record.
-/
namespace RoomRelay.Wire

inductive Slot where
  | drawing
  | joined
  | left
  | users
  deriving DecidableEq, Repr

def Slot.all : List Slot := [drawing, joined, left, users]

namespace Event

def sets (w : Event) : Slot → Bool
  | .drawing => w.drawing.isSome
  | .joined => w.joined
  | .left => w.left
  | .users => w.users.isSome

structure Readable (w : Event) : Prop where
  one : ∃! slot, w.sets slot = true
  visible : ∀ d, w.drawing = some d → d.color = 1 ∨ d.color = 2

/-- The errors of `toDomain`, each with its records. `ambiguous` tells only how many payloads there
are. -/
inductive Unreadable (w : Event) : PayloadError → Prop where
  | missing (none : ∀ slot, w.sets slot = false) : Unreadable w .missing
  | ambiguous {slots : List Slot} (distinct : slots.Nodup)
    (taken : ∀ slot, slot ∈ slots ↔ w.sets slot = true) (several : 2 ≤ slots.length) :
    Unreadable w (.ambiguous slots.length)
  | invisibleColor {d : Drawing} (drawing : w.drawing = some d)
    (alone : ∀ slot, w.sets slot = true → slot = .drawing) (unseen : d.color ≠ 1 ∧ d.color ≠ 2) :
    Unreadable w .invisibleColor

variable {w : Event}

/-! ### Counting -/

def taken (w : Event) : List Slot := Slot.all.filter w.sets

theorem mem_taken {slot : Slot} : slot ∈ w.taken ↔ w.sets slot = true := by
  rw [taken, List.mem_filter, and_iff_right_iff_imp]
  intro _
  cases slot <;> decide

theorem taken_nodup (w : Event) : w.taken.Nodup :=
  List.Nodup.filter _ (by decide)

theorem length_taken (w : Event) : w.taken.length = w.payloadCount := by
  have same : [w.drawing.isSome, w.joined, w.left, w.users.isSome] = Slot.all.map w.sets := rfl
  rw [taken, ← List.countP_eq_length_filter, payloadCount, same, List.count, List.countP_map]
  simp [Function.comp_def]

theorem length_of_taken {slots : List Slot} (distinct : slots.Nodup)
    (taken : ∀ slot, slot ∈ slots ↔ w.sets slot = true) : slots.length = w.payloadCount := by
  rw [← length_taken]
  refine List.Perm.length_eq ((List.perm_ext_iff_of_nodup distinct w.taken_nodup).mpr fun slot => ?_)
  rw [taken slot, mem_taken]

theorem one_iff : (∃! slot, w.sets slot = true) ↔ w.payloadCount = 1 := by
  constructor
  · rintro ⟨slot, set, unique⟩
    refine (length_of_taken (List.nodup_singleton slot) fun other => ?_).symm
    rw [List.mem_singleton]
    exact ⟨fun same => same ▸ set, unique other⟩
  · intro one
    obtain ⟨slot, same⟩ := List.length_eq_one_iff.mp ((length_taken w).trans one)
    have only : ∀ other, w.sets other = true ↔ other = slot := by
      intro other
      rw [← mem_taken, same, List.mem_singleton]
    exact ⟨slot, (only slot).mpr rfl, fun other set => (only other).mp set⟩

theorem none_iff : (∀ slot, w.sets slot = false) ↔ w.payloadCount = 0 := by
  rw [← length_taken, List.length_eq_zero_iff, List.eq_nil_iff_forall_not_mem]
  simp only [mem_taken, Bool.not_eq_true]

/-! ### Reading -/

theorem isEvent_iff : w.isEvent = true ↔ w.Readable := by
  rw [isEvent, Bool.and_eq_true, beq_iff_eq, ← one_iff, Option.all_eq_true]
  simp only [Bool.or_eq_true, beq_iff_eq]
  constructor
  · rintro ⟨one, visible⟩
    exact ⟨one, visible⟩
  · rintro ⟨one, visible⟩
    exact ⟨one, visible⟩

theorem toDomain_eq_ok_iff {e : RoomRelay.Event} : w.toDomain = .ok e ↔ ofDomain e = w := by
  constructor
  · intro read
    cases event : w.isEvent with
    | true =>
      obtain ⟨e', read', same⟩ := toDomain_of_isEvent event
      rwa [← Except.ok.inj (read'.symm.trans read)]
    | false =>
      obtain ⟨why, refused⟩ := toDomain_of_not_isEvent event
      rw [refused] at read
      contradiction
  · rintro rfl
    exact toDomain_ofDomain e

theorem Unreadable.toDomain {why : PayloadError} (unreadable : w.Unreadable why) :
    w.toDomain = .error why := by
  cases unreadable with
  | missing none =>
    have count := none_iff.mp none
    rw [Event.toDomain, payload, count]
    rfl
  | ambiguous distinct taken several =>
    rw [length_of_taken distinct taken] at several ⊢
    obtain ⟨n, count⟩ := Nat.exists_eq_add_of_le' several
    rw [Event.toDomain, payload, count]
    rfl
  | @invisibleColor d drawing alone unseen =>
    have set : w.sets .drawing = true := by rw [sets, drawing, Option.isSome_some]
    have count := one_iff.mp ⟨.drawing, set, alone⟩
    have unknown := ofCode?_eq_none_iff.mpr unseen
    simp [Event.toDomain, payload, count, drawing, Drawing.toDomain, unknown, Except.map]

theorem readable_or_unreadable (w : Event) : w.Readable ∨ ∃ why, w.Unreadable why := by
  match count : w.payloadCount with
  | 0 => exact .inr ⟨_, .missing (none_iff.mpr count)⟩
  | 1 =>
    have one := one_iff.mpr count
    by_cases visible : ∀ d, w.drawing = some d → d.color = 1 ∨ d.color = 2
    · exact .inl ⟨one, visible⟩
    · push Not at visible
      obtain ⟨d, drawing, unseen⟩ := visible
      have set : w.sets .drawing = true := by rw [sets, drawing, Option.isSome_some]
      exact .inr ⟨_, .invisibleColor drawing (fun slot other => one.unique other set) unseen⟩
  | n + 2 =>
    have several : 2 ≤ w.taken.length := by
      rw [length_taken, count]
      exact Nat.le_add_left 2 n
    exact .inr ⟨_, .ambiguous w.taken_nodup (fun slot => mem_taken) several⟩

theorem toDomain_eq_error_iff {why : PayloadError} : w.toDomain = .error why ↔ w.Unreadable why := by
  refine ⟨fun refused => ?_, Unreadable.toDomain⟩
  rcases w.readable_or_unreadable with readable | ⟨other, unreadable⟩
  · obtain ⟨e, read, -⟩ := toDomain_of_isEvent (isEvent_iff.mpr readable)
    rw [read] at refused
    contradiction
  · rwa [Except.error.inj (refused.symm.trans unreadable.toDomain)]

/-- `ofDomain` and `toDomain` are inverse to each other, bit for bit, between events and readable
records; `Unreadable` gives the error of every other record. If `payloadCount` is one and the first
three slots are free, `users` is set, so that `toDomain` never misses a payload it has counted. -/
theorem records_are_events (w : Event) :
    (∀ e : RoomRelay.Event, (ofDomain e).toDomain = .ok e) ∧
    ((∃ e, w.toDomain = .ok e) ↔ w.Readable) ∧
    (∀ e, w.toDomain = .ok e → ofDomain e = w) ∧
    (∀ why, w.toDomain = .error why ↔ w.Unreadable why) ∧
    (w.payloadCount = 1 → w.drawing = none → w.joined = false → w.left = false → w.users ≠ none) := by
  refine ⟨toDomain_ofDomain, ⟨?_, ?_⟩, fun e => toDomain_eq_ok_iff.mp, fun why => toDomain_eq_error_iff, ?_⟩
  · rintro ⟨e, read⟩
    rcases w.readable_or_unreadable with readable | ⟨why, unreadable⟩
    · exact readable
    · rw [unreadable.toDomain] at read
      contradiction
  · intro readable
    obtain ⟨e, read, -⟩ := toDomain_of_isEvent (isEvent_iff.mpr readable)
    exact ⟨e, read⟩
  · intro one drawing joined left users
    have empty : w.payloadCount = 0 := by simp [payloadCount, drawing, joined, left, users]
    rw [empty] at one
    contradiction

/-- An occupancy of zero is a payload too. -/
theorem records_are_events_nobody :
    let w : Event := { createdAt := 5, byUser := "ann", users := some 0 }
    (w.payloadCount = 1 ∧ w.drawing = none ∧ w.joined = false ∧ w.left = false ∧ w.users ≠ none) ∧
      ∃ e, w.toDomain = .ok e ∧ ofDomain e = w := by
  intro w
  obtain ⟨-, readable, back, -, found⟩ := records_are_events w
  have one : ∃! slot, w.sets slot = true := one_iff.mpr (by decide)
  obtain ⟨e, read⟩ := readable.mpr ⟨one, nofun⟩
  exact ⟨⟨by decide, rfl, rfl, rfl, found (by decide) rfl rfl rfl⟩, e, read, back e read⟩

end Event
end RoomRelay.Wire
