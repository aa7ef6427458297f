/-! Sums over lists. -/
namespace RoomRelay

def totalOf {α : Type} (f : α → Nat) : List α → Nat
  | [] => 0
  | a :: rest => f a + totalOf f rest

@[simp] theorem totalOf_append {α : Type} (f : α → Nat) (xs ys : List α) :
    totalOf f (xs ++ ys) = totalOf f xs + totalOf f ys := by
  induction xs with
  | nil => simp [totalOf]
  | cons x xs ih => simp [totalOf, ih, Nat.add_assoc]

end RoomRelay
