import RoomRelay.Wire.Varint
import RoomRelay.Word

/-!
Numbered fields, the outer layer of the wire format. A message is a sequence of fields, each a tag
with the field's number and type followed by a value. A group is read only to be passed over.
-/
namespace RoomRelay.Wire

inductive WireType where
  | varint
  | fixed64
  | bytes
  | groupStart
  | groupEnd
  | fixed32
  deriving DecidableEq, Repr

namespace WireType

def code : WireType → Nat
  | varint => 0
  | fixed64 => 1
  | bytes => 2
  | groupStart => 3
  | groupEnd => 4
  | fixed32 => 5

def ofCode? : Nat → Option WireType
  | 0 => some varint
  | 1 => some fixed64
  | 2 => some bytes
  | 3 => some groupStart
  | 4 => some groupEnd
  | 5 => some fixed32
  | _ => none

end WireType

structure Tag where
  number : Nat
  type : WireType
  deriving DecidableEq, Repr

namespace Tag

def write (t : Tag) : List UInt8 :=
  Varint.write (t.number * 8 + t.type.code)

def ofNat? (n : Nat) : Option Tag :=
  if n < Word.size32 ∧ n / 8 ≠ 0 then (WireType.ofCode? (n % 8)).map (Tag.mk (n / 8)) else none

def read (bs : List UInt8) : Option (Tag × List UInt8) :=
  match Varint.read bs with
  | some (n, rest) => (ofNat? n).map fun t => (t, rest)
  | none => none

theorem length_of_read {bs rest : List UInt8} {t : Tag} (h : read bs = some (t, rest)) :
    rest.length < bs.length := by
  unfold read at h
  split at h
  · rename_i found
    obtain ⟨_, -, heq⟩ := Option.map_eq_some_iff.1 h
    obtain ⟨-, rfl⟩ := Prod.mk.inj heq
    exact Varint.length_of_read found
  · simp at h

end Tag

/-- The value of a field; of a group only that it was there. -/
inductive Value where
  | varint (n : Nat)
  | fixed64 (bytes : List UInt8)
  | bytes (bytes : List UInt8)
  | group
  | fixed32 (bytes : List UInt8)
  deriving DecidableEq, Repr

namespace Value

/-- The first bytes and the rest, if there are that many. -/
def splitAt? (n : Nat) (bs : List UInt8) : Option (List UInt8 × List UInt8) :=
  if n ≤ bs.length then some (bs.take n, bs.drop n) else none

/-- Reads the value behind a tag of the given type; a group has none. -/
def read (type : WireType) (bs : List UInt8) : Option (Value × List UInt8) :=
  match type with
  | .varint => (Varint.read bs).map fun p => (varint p.1, p.2)
  | .fixed64 => (splitAt? 8 bs).map fun p => (fixed64 p.1, p.2)
  | .bytes =>
    match Varint.read bs with
    | some (n, rest) => (splitAt? n rest).map fun p => (bytes p.1, p.2)
    | none => none
  | .fixed32 => (splitAt? 4 bs).map fun p => (fixed32 p.1, p.2)
  | .groupStart | .groupEnd => none

def type : Value → WireType
  | varint _ => .varint
  | fixed64 _ => .fixed64
  | bytes _ => .bytes
  | group => .groupStart
  | fixed32 _ => .fixed32

/-- The written form of a value; a group is never written. -/
def write : Value → List UInt8
  | varint n => Varint.write n
  | fixed64 bs => bs
  | bytes bs => Varint.write bs.length ++ bs
  | group => []
  | fixed32 bs => bs

theorem length_of_splitAt? {n : Nat} {bs a b : List UInt8} (h : splitAt? n bs = some (a, b)) :
    b.length ≤ bs.length := by
  unfold splitAt? at h
  split at h
  · obtain ⟨-, rfl⟩ := Prod.mk.inj (Option.some.inj h)
    simp
  · simp at h

theorem length_of_read {type : WireType} {bs rest : List UInt8} {v : Value}
    (h : read type bs = some (v, rest)) : rest.length ≤ bs.length := by
  cases type with
  | varint =>
    obtain ⟨⟨n, r⟩, found, heq⟩ := Option.map_eq_some_iff.1 h
    obtain ⟨-, rfl⟩ := Prod.mk.inj heq
    exact Nat.le_of_lt (Varint.length_of_read found)
  | fixed64 =>
    obtain ⟨⟨n, r⟩, found, heq⟩ := Option.map_eq_some_iff.1 h
    obtain ⟨-, rfl⟩ := Prod.mk.inj heq
    exact length_of_splitAt? found
  | bytes =>
    simp only [read] at h
    split at h
    · rename_i found
      obtain ⟨⟨n, r⟩, cut, heq⟩ := Option.map_eq_some_iff.1 h
      obtain ⟨-, rfl⟩ := Prod.mk.inj heq
      have := Varint.length_of_read found
      have := length_of_splitAt? cut
      simp only at *
      omega
    · simp at h
  | fixed32 =>
    obtain ⟨⟨n, r⟩, found, heq⟩ := Option.map_eq_some_iff.1 h
    obtain ⟨-, rfl⟩ := Prod.mk.inj heq
    exact length_of_splitAt? found
  | groupStart => simp [read] at h
  | groupEnd => simp [read] at h

end Value

structure Field where
  number : Nat
  value : Value
  deriving DecidableEq, Repr

namespace Field

def write (f : Field) : List UInt8 :=
  Tag.write ⟨f.number, f.value.type⟩ ++ f.value.write

/-- One step through open groups, whose numbers are given innermost first. A group ends with its own
number, and fewer than `limit` are open where a field begins. -/
def stepGroups (limit : Nat) (opened : List Nat) (bs : List UInt8) :
    Option (List Nat × List UInt8) :=
  match Tag.read bs with
  | none => none
  | some (tag, rest) =>
    match tag.type with
    | .groupEnd => if opened.head? = some tag.number then some (opened.tail, rest) else none
    | .groupStart => if opened.length < limit then some (tag.number :: opened, rest) else none
    | type =>
      if opened.length < limit then (Value.read type rest).map fun p => (opened, p.2) else none

theorem length_of_stepGroups {limit : Nat} {opened opened' : List Nat} {bs rest : List UInt8}
    (h : stepGroups limit opened bs = some (opened', rest)) : rest.length < bs.length := by
  unfold stepGroups at h
  split at h
  · simp at h
  · rename_i found
    have shorter := Tag.length_of_read found
    split at h
    · split at h
      · obtain ⟨-, rfl⟩ := Prod.mk.inj (Option.some.inj h)
        exact shorter
      · simp at h
    · split at h
      · obtain ⟨-, rfl⟩ := Prod.mk.inj (Option.some.inj h)
        exact shorter
      · simp at h
    · split at h
      · obtain ⟨⟨v, r⟩, value, heq⟩ := Option.map_eq_some_iff.1 h
        obtain ⟨-, rfl⟩ := Prod.mk.inj heq
        exact Nat.lt_of_le_of_lt (Value.length_of_read value) shorter
      · simp at h

/-- Passes over all open groups and gives the bytes behind the outermost. -/
def skipGroups (limit : Nat) (opened : List Nat) (bs : List UInt8) : Option (List UInt8) :=
  if opened = [] then some bs
  else
    match h : stepGroups limit opened bs with
    | none => none
    | some (opened', rest) =>
      have := length_of_stepGroups h
      skipGroups limit opened' rest
termination_by bs.length

theorem length_of_skipGroups {limit : Nat} {opened : List Nat} {bs rest : List UInt8}
    (h : skipGroups limit opened bs = some rest) : rest.length ≤ bs.length := by
  fun_induction skipGroups limit opened bs with
  | case1 => simp_all
  | case2 => simp at h
  | case3 opened bs _ opened' r found shorter ih =>
    have := ih h
    omega

def read (limit : Nat) (bs : List UInt8) : Option (Field × List UInt8) :=
  match Tag.read bs with
  | none => none
  | some (tag, rest) =>
    match tag.type with
    | .groupStart =>
      (skipGroups limit [tag.number] rest).map fun r => (⟨tag.number, .group⟩, r)
    | type => (Value.read type rest).map fun p => (⟨tag.number, p.1⟩, p.2)

theorem length_of_read {limit : Nat} {bs rest : List UInt8} {f : Field}
    (h : read limit bs = some (f, rest)) : rest.length < bs.length := by
  unfold read at h
  split at h
  · simp at h
  · rename_i found
    have shorter := Tag.length_of_read found
    split at h
    · obtain ⟨r, skipped, heq⟩ := Option.map_eq_some_iff.1 h
      obtain ⟨-, rfl⟩ := Prod.mk.inj heq
      exact Nat.lt_of_le_of_lt (length_of_skipGroups skipped) shorter
    · obtain ⟨⟨v, r⟩, value, heq⟩ := Option.map_eq_some_iff.1 h
      obtain ⟨-, rfl⟩ := Prod.mk.inj heq
      exact Nat.lt_of_le_of_lt (Value.length_of_read value) shorter

def readAll (limit : Nat) (bs : List UInt8) : Option (List Field) :=
  if bs = [] then some []
  else
    match h : read limit bs with
    | none => none
    | some (f, rest) =>
      have := length_of_read h
      (readAll limit rest).map (f :: ·)
termination_by bs.length

end Field
end RoomRelay.Wire
