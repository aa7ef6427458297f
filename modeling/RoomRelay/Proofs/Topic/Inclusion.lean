import Mathlib.Data.List.Forall2
import RoomRelay.Proofs.Key.Codec

/-!
`selects` as an order on all texts. A wildcard among the segments of a topic is selected by wildcards
only, so a pattern selects another one iff it selects all that the other selects.
-/
namespace RoomRelay.Topic

def Stands (p t : String) : Prop := p = wildcard ∨ t = p

namespace Stands

variable {p q t : String}

theorem refl (s : String) : Stands s s := .inr rfl

theorem trans (upper : Stands p q) (lower : Stands q t) : Stands p t := by
  rcases upper with wild | rfl
  · exact .inl wild
  · exact lower

theorem antisymm (upper : Stands p q) (lower : Stands q p) : p = q := by
  rcases upper with wild | same
  · rcases lower with wild' | same'
    · rw [wild, wild']
    · exact same'
  · exact same.symm

end Stands

theorem segmentsAgree_iff {ps ts : List String} :
    segmentsAgree ps ts = true ↔ List.Forall₂ Stands ps ts := by
  induction ps generalizing ts with
  | nil => cases ts <;> simp [segmentsAgree]
  | cons p ps ih =>
    cases ts with
    | nil => simp [segmentsAgree]
    | cons t ts => simp [segmentsAgree, ih, Stands, eq_comm (a := t)]

/-- A topic is determined by its segments. -/
theorem segments_injective {s t : String} (same : segments s = segments t) : s = t := by
  have joined : String.singleton separator ++ s = String.singleton separator ++ t := by
    rw [← join_segments, same, join_segments]
  have letters := congrArg String.toList joined
  rw [String.toList_append, String.toList_append] at letters
  exact String.toList_inj.mp (List.append_cancel_left letters)

/-! ### The order of patterns -/

theorem selects_eq_true_iff {p t : String} :
    selects p t = true ↔ List.Forall₂ Stands (segments p) (segments t) := segmentsAgree_iff

theorem selects_self (p : String) : selects p p = true :=
  selects_eq_true_iff.mpr (List.forall₂_same.mpr fun s _ => Stands.refl s)

theorem stands_all_trans {ps qs ts : List String} (upper : List.Forall₂ Stands ps qs)
    (lower : List.Forall₂ Stands qs ts) : List.Forall₂ Stands ps ts := by
  induction upper generalizing ts with
  | nil => exact lower
  | cons first _ ih =>
    cases lower with
    | cons first' rest' => exact .cons (first.trans first') (ih rest')

theorem stands_all_antisymm {ps qs : List String} (upper : List.Forall₂ Stands ps qs)
    (lower : List.Forall₂ Stands qs ps) : ps = qs := by
  induction upper with
  | nil => rfl
  | cons first _ ih =>
    cases lower with
    | cons first' rest' => rw [first.antisymm first', ih rest']

theorem selects_trans {p q t : String} (upper : selects p q = true) (lower : selects q t = true) :
    selects p t = true := by
  rw [selects_eq_true_iff] at upper lower ⊢
  exact stands_all_trans upper lower

theorem selects_antisymm {p q : String} (upper : selects p q = true) (lower : selects q p = true) :
    p = q := by
  rw [selects_eq_true_iff] at upper lower
  exact segments_injective (stands_all_antisymm upper lower)

/-- `selects` is a partial order on all texts, and it is the inclusion of what patterns select. -/
theorem selects_is_inclusion :
    (∀ p, selects p p = true) ∧
    (∀ p q t, selects p q = true → selects q t = true → selects p t = true) ∧
    (∀ p q, selects p q = true → selects q p = true → p = q) ∧
    (∀ p q, selects p q = true ↔ ∀ t, selects q t = true → selects p t = true) := by
  refine ⟨selects_self, ?transitive, ?antisymmetric, ?inclusion⟩
  case transitive => exact fun _ _ _ upper lower => selects_trans upper lower
  case antisymmetric => exact fun _ _ upper lower => selects_antisymm upper lower
  case inclusion =>
    intro p q
    constructor
    · exact fun upper _ lower => selects_trans upper lower
    · -- A pattern is one of the topics that it selects itself.
      exact fun included => included q (selects_self q)

/-- A wildcard in a topic does not match a fixed segment: what `a.*` selects `*.*` selects, and `a.b`
does not. -/
theorem selects_is_inclusion_wildcards :
    (∀ t, selects "a.*" t = true → selects "*.*" t = true) ∧
      ∃ t, selects "a.*" t = true ∧ selects "a.b" t = false := by
  obtain ⟨reflexive, -, -, inclusion⟩ := selects_is_inclusion
  refine ⟨(inclusion "*.*" "a.*").mp (by decide), "a.*", reflexive "a.*", ?_⟩
  decide

end RoomRelay.Topic
