import Mathlib.Data.List.Basic

/-!
Entries of a list by index, after another one was appended or set. Sessions, subscriptions and calls
are numbered so.
-/
namespace RoomRelay

theorem getElem?_snoc {α : Type} {xs : List α} {x y : α} {i : Nat} (found : (xs ++ [x])[i]? = some y) :
    (i < xs.length ∧ xs[i]? = some y) ∨ (i = xs.length ∧ y = x) := by
  rcases Nat.lt_trichotomy i xs.length with before | here | beyond
  · rw [List.getElem?_append_left before] at found
    exact .inl ⟨before, found⟩
  · subst here
    rw [List.getElem?_concat_length] at found
    exact .inr ⟨rfl, (Option.some.inj found).symm⟩
  · have past : (xs ++ [x]).length ≤ i := by
      rw [List.length_append]
      exact beyond
    rw [List.getElem?_eq_none past] at found
    contradiction

theorem getElem?_set_cases {α : Type} {xs : List α} {i j : Nat} {x y : α}
    (found : (xs.set i x)[j]? = some y) : (j = i ∧ y = x) ∨ (j ≠ i ∧ xs[j]? = some y) := by
  rw [List.getElem?_set] at found
  split at found
  · rename_i same
    split at found
    · exact .inl ⟨same.symm, (Option.some.inj found).symm⟩
    · contradiction
  · exact .inr ⟨Ne.symm ‹_›, found⟩

theorem set_found {α : Type} {xs : List α} {i : Nat} {x : α} (found : xs[i]? = some x) :
    xs.set i x = xs := by
  obtain ⟨inside, rfl⟩ := List.getElem?_eq_some_iff.mp found
  exact List.set_getElem_self inside

end RoomRelay
