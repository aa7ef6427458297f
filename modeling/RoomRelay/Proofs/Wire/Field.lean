import Mathlib.Algebra.Group.Nat.Defs
import Mathlib.Data.List.Basic
import RoomRelay.Wire.Field

/-!
Readers invert writers and leave the bytes behind untouched; a number that is too large for a varint
cannot be read.
-/
namespace RoomRelay.Wire

/-! ### Varints -/

namespace Varint

theorem toNat_low {n : Nat} (small : n < 128) : n.toUInt8.toNat = n := by
  rw [Nat.toUInt8, UInt8.toNat_ofNat']
  omega

theorem toNat_high (n : Nat) : (n % 128 + 128).toUInt8.toNat = n % 128 + 128 := by
  rw [Nat.toUInt8, UInt8.toNat_ofNat']
  omega

theorem readWithin_low {room n : Nat} {rest : List UInt8} (small : n < 128) :
    readWithin (room + 1) (n.toUInt8 :: rest) =
      if room = 0 ∧ 1 < n then none else some (n, rest) := by
  have last : n.toUInt8 < 128 := by
    rw [UInt8.lt_iff_toNat_lt, toNat_low small]
    exact small
  have one : (1 < n.toUInt8) ↔ 1 < n := by
    rw [UInt8.lt_iff_toNat_lt, toNat_low small]
    rfl
  rw [readWithin, if_pos last, toNat_low small]
  simp only [one]

theorem readWithin_high (room n : Nat) (rest : List UInt8) :
    readWithin (room + 1) ((n % 128 + 128).toUInt8 :: rest) =
      (readWithin room rest).map fun p => (n % 128 + 128 * p.1, p.2) := by
  have more : ¬ (n % 128 + 128).toUInt8 < 128 := by
    rw [UInt8.lt_iff_toNat_lt, toNat_high]
    exact Nat.not_lt.mpr (Nat.le_add_left _ _)
  rw [readWithin, if_neg more, toNat_high, Nat.add_sub_cancel]
  cases readWithin room rest <;> rfl

theorem readWithin_write (room n : Nat) (rest : List UInt8) :
    readWithin (room + 1) (write n ++ rest) =
      if n < 2 * 128 ^ room then some (n, rest) else none := by
  induction room generalizing n with
  | zero =>
    by_cases small : n < 128
    · rw [write, if_pos small, List.singleton_append, readWithin_low small]
      by_cases bit : n < 2
      · rw [if_neg (by omega), if_pos (by omega)]
      · rw [if_pos (by omega), if_neg (by omega)]
    · rw [write, if_neg small, List.cons_append, readWithin_high, if_neg (by omega)]
      rfl
  | succ room ih =>
    have positive : 0 < 128 ^ room := Nat.pow_pos (by decide)
    have grown : 2 * 128 ^ (room + 1) = 2 * 128 ^ room * 128 := by
      rw [Nat.pow_succ, Nat.mul_assoc]
    by_cases small : n < 128
    · rw [write, if_pos small, List.singleton_append, readWithin_low small, if_neg (by omega),
        if_pos (by omega)]
    · rw [write, if_neg small, List.cons_append, readWithin_high, ih]
      by_cases fits : n / 128 < 2 * 128 ^ room
      · rw [if_pos fits, if_pos (by omega), Option.map_some, Nat.mod_add_div]
      · rw [if_neg fits, if_neg (by omega), Option.map_none]

theorem read_write (n : Nat) (rest : List UInt8) :
    read (write n ++ rest) = if n < 2 ^ 64 then some (n, rest) else none :=
  readWithin_write 9 n rest

end Varint

/-! ### Tags and values -/

namespace Tag

theorem ofCode?_code (type : WireType) : WireType.ofCode? type.code = some type := by
  cases type <;> rfl

theorem code_lt (type : WireType) : type.code < 8 := by
  cases type <;> decide

def IsNumber (n : Nat) : Prop := 0 < n ∧ n < 2 ^ 29

theorem read_write {t : Tag} (number : IsNumber t.number) (rest : List UInt8) :
    read (t.write ++ rest) = some (t, rest) := by
  have code := code_lt t.type
  obtain ⟨positive, bound⟩ := number
  have whole : (t.number * 8 + t.type.code) / 8 = t.number := by omega
  have part : (t.number * 8 + t.type.code) % 8 = t.type.code := by omega
  have tag : ofNat? (t.number * 8 + t.type.code) = some t := by
    rw [ofNat?, whole, part, ofCode?_code, if_pos ⟨by rw [Word.size32]; omega, by omega⟩]
    rfl
  rw [read, write, Varint.read_write, if_pos (by omega)]
  simp only [tag, Option.map_some]

end Tag

namespace Value

def IsWritten : Value → Prop
  | varint _ | bytes _ => True
  | _ => False

/-- Whether a varint can hold the number, or the number of bytes. -/
def fits : Value → Bool
  | varint n => n < 2 ^ 64
  | bytes bs => bs.length < 2 ^ 64
  | _ => true

theorem read_write {v : Value} (written : v.IsWritten) (rest : List UInt8) :
    read v.type (v.write ++ rest) = if v.fits then some (v, rest) else none := by
  cases v with
  | varint n =>
    simp only [read, type, write, fits, Varint.read_write, decide_eq_true_eq]
    split <;> rfl
  | bytes bs =>
    have cut : splitAt? bs.length (bs ++ rest) = some (bs, rest) := by simp [splitAt?]
    simp only [read, type, write, fits, List.append_assoc, Varint.read_write, decide_eq_true_eq]
    by_cases short : bs.length < 2 ^ 64
    · simp only [if_pos short, cut, Option.map_some]
    · simp only [if_neg short]
  | fixed64 | group | fixed32 => exact written.elim

end Value

/-! ### Fields -/

namespace Field

def IsWritten (f : Field) : Prop := Tag.IsNumber f.number ∧ f.value.IsWritten

theorem read_write {f : Field} (written : f.IsWritten) (limit : Nat) (rest : List UInt8) :
    read limit (f.write ++ rest) = if f.value.fits then some (f, rest) else none := by
  obtain ⟨number, value⟩ := written
  have behind := Value.read_write value rest
  rw [read, write, List.append_assoc, Tag.read_write number]
  obtain ⟨n, v⟩ := f
  cases v with
  | varint | bytes =>
    simp only [Value.type] at behind ⊢
    rw [behind]
    split <;> rfl
  | fixed64 | group | fixed32 => exact value.elim

theorem write_ne_nil {f : Field} (written : f.IsWritten) (rest : List UInt8) :
    f.write ++ rest ≠ [] := by
  intro empty
  have found := Tag.read_write (t := ⟨f.number, f.value.type⟩) written.1 (f.value.write ++ rest)
  rw [← List.append_assoc, ← write, empty] at found
  have shorter := Tag.length_of_read found
  exact absurd shorter (Nat.not_lt_zero _)

theorem readAll_write {fields : List Field} (written : ∀ f ∈ fields, f.IsWritten) (limit : Nat) :
    readAll limit (fields.flatMap write) =
      if fields.all (·.value.fits) then some fields else none := by
  induction fields with
  | nil => simp [readAll]
  | cons f fields ih =>
    have rest := ih fun g member => written g (List.mem_cons_of_mem _ member)
    have first := written f List.mem_cons_self
    have found := read_write first limit (fields.flatMap write)
    rw [List.flatMap_cons, readAll, if_neg (write_ne_nil first _)]
    by_cases fit : f.value.fits = true
    · rw [if_pos fit] at found
      split
      · rename_i missing
        rw [found] at missing
        cases missing
      · rename_i g later present
        rw [found] at present
        obtain ⟨rfl, rfl⟩ := Prod.mk.inj (Option.some.inj present)
        rw [rest, List.all_cons, fit, Bool.true_and]
        split <;> rfl
    · rw [if_neg fit] at found
      split
      · rw [List.all_cons, eq_false_of_ne_true fit, Bool.false_and, if_neg Bool.false_ne_true]
      · rename_i present
        rw [found] at present
        cases present

end Field
end RoomRelay.Wire
