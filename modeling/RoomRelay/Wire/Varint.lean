/-!
Varints: numbers in groups of seven bits, least significant first, with the high bit set on every
group but the last. A varint has at most ten groups and stays below 2 ^ 64.
-/
namespace RoomRelay.Wire.Varint

/-- The shortest written form of a number. -/
def write (n : Nat) : List UInt8 :=
  if n < 128 then [n.toUInt8] else (n % 128 + 128).toUInt8 :: write (n / 128)
termination_by n

/-- Reads a number of at most the given count of groups; a group that uses up the count may be
one at most. -/
def readWithin : Nat → List UInt8 → Option (Nat × List UInt8)
  | 0, _ => none
  | _ + 1, [] => none
  | room + 1, b :: bs =>
    if b < 128 then
      if room = 0 ∧ 1 < b then none else some (b.toNat, bs)
    else
      match readWithin room bs with
      | some (n, rest) => some (b.toNat - 128 + 128 * n, rest)
      | none => none

def read (bs : List UInt8) : Option (Nat × List UInt8) :=
  readWithin 10 bs

theorem length_of_readWithin {room : Nat} {bs rest : List UInt8} {n : Nat}
    (h : readWithin room bs = some (n, rest)) : rest.length < bs.length := by
  fun_induction readWithin room bs generalizing n rest with
  | case1 => simp at h
  | case2 => simp at h
  | case3 => simp at h
  | case4 room b bs small last =>
    obtain ⟨-, rfl⟩ := Prod.mk.inj (Option.some.inj h)
    simp
  | case5 room b bs large m r found ih =>
    obtain ⟨-, rfl⟩ := Prod.mk.inj (Option.some.inj h)
    have := ih found
    simp only [List.length_cons]
    omega
  | case6 => simp at h

/-- What follows a varint is shorter than what it was read from. -/
theorem length_of_read {bs rest : List UInt8} {n : Nat} (h : read bs = some (n, rest)) :
    rest.length < bs.length :=
  length_of_readWithin h

end RoomRelay.Wire.Varint
