import RoomRelay.Event.Codec
import RoomRelay.Proofs.Event.Wire
import RoomRelay.Proofs.Wire.Field

/-!
`Wire.Event.decode?` on the bytes of `Wire.Event.encode`: the same record, or none at all if a length
in it does not fit in a varint.
-/
namespace RoomRelay.Wire

theorem sample_of_bytes (s : Sample) :
    s.toUInt8.toUInt32 ||| (s >>> 8).toUInt8.toUInt32 <<< 8 |||
      (s >>> 16).toUInt8.toUInt32 <<< 16 ||| (s >>> 24).toUInt8.toUInt32 <<< 24 = s := by
  apply UInt32.toBitVec_inj.mp
  ext i hi
  simp only [UInt32.toBitVec_or, UInt32.toBitVec_shiftLeft, UInt8.toBitVec_toUInt32,
    UInt32.toBitVec_toUInt8, UInt32.toBitVec_shiftRight, BitVec.getElem_or,
    BitVec.getElem_setWidth, UInt32.toBitVec_ofNat, BitVec.shiftLeft_eq',
    BitVec.ushiftRight_eq', BitVec.getElem_shiftLeft]
  simp
  grind

theorem ofSampleBytes?_bytes (samples : List Sample) :
    ofSampleBytes? (samples.flatMap sampleBytes) = some samples := by
  induction samples with
  | nil => rfl
  | cons s samples ih =>
    rw [List.flatMap_cons, sampleBytes, List.cons_append, List.cons_append, List.cons_append,
      List.cons_append, List.nil_append, ofSampleBytes?, ih, Option.map_some, sample_of_bytes]

namespace Value

theorem toInt64?_ofInt64 (n : Int64) : (ofInt64 n).toInt64? = some n := by
  simp [ofInt64, toInt64?]

theorem toInt32?_ofInt32 (n : Int32) : (ofInt32 n).toInt32? = some n := by
  have low : n.toInt64.toUInt64.toNat.toUInt32.toInt32 = n := by
    apply Int32.toBitVec_inj.mp
    have cut : n.toInt64.toUInt64.toNat.toUInt32.toInt32.toBitVec =
        n.toInt64.toUInt64.toBitVec.setWidth 32 := by rfl
    rw [cut]
    ext i hi
    simp
    grind
  simp only [ofInt32, ofInt64, toInt32?, low]

theorem fits_ofInt64 (n : Int64) : (ofInt64 n).fits = true := by
  have bound := n.toUInt64.toNat_lt
  simp only [ofInt64, fits, decide_eq_true_eq]
  omega

theorem toText?_bytes (s : String) : (bytes (Text.utf8 s)).toText? = some s := by
  have same : (⟨s.toUTF8.data.toList.toArray⟩ : ByteArray) = s.toByteArray := rfl
  rw [toText?, Text.ofUtf8?, Text.utf8, same, String.fromUTF8?, dif_pos s.isValidUTF8]
  rfl

end Value

theorem length_le_of_mem {f : Field} {bs : List UInt8} {fields : List Field} (member : f ∈ fields)
    (holds : f.value = .bytes bs) : bs.length ≤ (fields.flatMap Field.write).length := by
  obtain ⟨before, after, rfl⟩ := List.append_of_mem member
  simp only [List.flatMap_append, List.flatMap_cons, List.length_append, Field.write, holds,
    Value.write]
  omega

/-! ### Drawings -/

namespace Drawing

theorem mem_packed {number : Nat} {samples : List Sample} {f : Field}
    (member : f ∈ packed number samples) :
    f = ⟨number, .bytes (samples.flatMap sampleBytes)⟩ := by
  unfold packed at member
  split at member
  · cases member
  · exact List.mem_singleton.mp member

theorem mem_toFields {d : Drawing} {f : Field} (member : f ∈ d.toFields) :
    (∃ (number : Nat) (samples : List Sample),
      f = ⟨number, .bytes (samples.flatMap sampleBytes)⟩ ∧ 1 ≤ number ∧ number ≤ 4) ∨ f = ⟨5, .ofInt32 d.color⟩ := by
  simp only [toFields, List.mem_append] at member
  rcases member with (((xs | ys) | pressures) | widths) | color
  · exact .inl ⟨1, d.xs, mem_packed xs, by omega, by omega⟩
  · exact .inl ⟨2, d.ys, mem_packed ys, by omega, by omega⟩
  · exact .inl ⟨3, d.pressures, mem_packed pressures, by omega, by omega⟩
  · exact .inl ⟨4, d.widths, mem_packed widths, by omega, by omega⟩
  · split at color
    · cases color
    · exact .inr (List.mem_singleton.mp color)

theorem toFields_written (d : Drawing) : ∀ f ∈ d.toFields, f.IsWritten := by
  intro f member
  rcases mem_toFields member with ⟨number, samples, rfl, low, high⟩ | rfl
  · exact ⟨⟨by simp only; omega, by simp only; omega⟩, trivial⟩
  · have valid : Tag.IsNumber 5 := ⟨by decide, by decide⟩
    exact ⟨valid, trivial⟩

theorem toFields_fit {d : Drawing} (short : d.encode.length < 2 ^ 64) :
    d.toFields.all (·.value.fits) = true := by
  rw [List.all_eq_true]
  intro f member
  rcases mem_toFields member with ⟨number, samples, rfl, -, -⟩ | rfl
  · have part := length_le_of_mem member rfl
    rw [← encode] at part
    simp only [Value.fits, decide_eq_true_eq]
    omega
  · exact Value.fits_ofInt64 _

theorem merge_packed (number : Nat) (samples : List Sample) (put : List Sample → Drawing)
    (merged : ∀ v : Value, merge (put []) ⟨number, v⟩ = v.toSamples?.map put) :
    (packed number samples).foldlM merge (put []) = some (put samples) := by
  unfold packed
  split
  · rename_i empty
    rw [empty]
    rfl
  · have read : (Value.bytes (samples.flatMap sampleBytes)).toSamples? = some samples :=
      ofSampleBytes?_bytes samples
    rw [List.foldlM_cons, merged, read]
    rfl

theorem merge_toFields (d : Drawing) : d.toFields.foldlM merge {} = some d := by
  obtain ⟨xs, ys, pressures, widths, color⟩ := d
  have first : (packed 1 xs).foldlM merge {} = some ⟨xs, [], [], [], 0⟩ :=
    merge_packed 1 xs (fun s => ⟨s, [], [], [], 0⟩) fun _ => rfl
  have second : (packed 2 ys).foldlM merge ⟨xs, [], [], [], 0⟩ = some ⟨xs, ys, [], [], 0⟩ :=
    merge_packed 2 ys (fun s => ⟨xs, s, [], [], 0⟩) fun _ => rfl
  have third : (packed 3 pressures).foldlM merge ⟨xs, ys, [], [], 0⟩ =
      some ⟨xs, ys, pressures, [], 0⟩ :=
    merge_packed 3 pressures (fun s => ⟨xs, ys, s, [], 0⟩) fun _ => rfl
  have fourth : (packed 4 widths).foldlM merge ⟨xs, ys, pressures, [], 0⟩ =
      some ⟨xs, ys, pressures, widths, 0⟩ :=
    merge_packed 4 widths (fun s => ⟨xs, ys, pressures, s, 0⟩) fun _ => rfl
  simp only [toFields, List.foldlM_append, first, second, third, fourth, Option.bind_eq_bind,
    Option.bind_some]
  split
  · rename_i unset
    rw [unset]
    rfl
  · have read : merge ⟨xs, ys, pressures, widths, 0⟩ ⟨5, .ofInt32 color⟩ =
        some ⟨xs, ys, pressures, widths, color⟩ := by
      rw [merge, Value.toInt32?_ofInt32]
      rfl
    rw [List.foldlM_cons, read]
    rfl

theorem readOnto_encode {d : Drawing} (short : d.encode.length < 2 ^ 64) :
    readOnto {} d.encode = some d := by
  have read := Field.readAll_write (toFields_written d) groupLimit
  rw [toFields_fit short, if_pos rfl, ← encode] at read
  rw [readOnto, read]
  exact merge_toFields d

end Drawing

/-! ### Records -/

namespace Event

def fits (e : Event) : Bool :=
  (Value.bytes (Text.utf8 e.byUser)).fits && (Value.bytes (Text.utf8 e.inRoom)).fits &&
    e.drawing.all fun d => (Value.bytes d.encode).fits

theorem textField_written {number : Nat} (valid : Tag.IsNumber number) (s : String) :
    ∀ f ∈ textField number s, f.IsWritten := by
  intro f member
  unfold textField at member
  split at member
  · cases member
  · obtain rfl := List.mem_singleton.mp member
    exact ⟨valid, trivial⟩

theorem markField_written {number : Nat} (valid : Tag.IsNumber number) (b : Bool) :
    ∀ f ∈ markField number b, f.IsWritten := by
  intro f member
  unfold markField at member
  split at member
  · obtain rfl := List.mem_singleton.mp member
    exact ⟨valid, trivial⟩
  · cases member

theorem toFields_written (e : Event) : ∀ f ∈ e.toFields, f.IsWritten := by
  simp only [toFields, List.forall_mem_append]
  refine ⟨⟨⟨⟨⟨⟨?at_, ?user⟩, ?room⟩, ?drawing⟩, ?joined⟩, ?left⟩, ?users⟩
  case at_ =>
    intro f member
    split at member
    · cases member
    · obtain rfl := List.mem_singleton.mp member
      have valid : Tag.IsNumber 1 := ⟨by decide, by decide⟩
      exact ⟨valid, trivial⟩
  case user => exact textField_written ⟨by decide, by decide⟩ _
  case room => exact textField_written ⟨by decide, by decide⟩ _
  case drawing =>
    intro f member
    obtain ⟨d, -, rfl⟩ := Option.map_eq_some_iff.mp (Option.mem_toList.mp member)
    have valid : Tag.IsNumber 4 := ⟨by decide, by decide⟩
    exact ⟨valid, trivial⟩
  case joined => exact markField_written ⟨by decide, by decide⟩ _
  case left => exact markField_written ⟨by decide, by decide⟩ _
  case users =>
    intro f member
    obtain ⟨n, -, rfl⟩ := Option.map_eq_some_iff.mp (Option.mem_toList.mp member)
    have valid : Tag.IsNumber 7 := ⟨by decide, by decide⟩
    exact ⟨valid, trivial⟩

theorem textField_fit (number : Nat) (s : String) :
    (textField number s).all (·.value.fits) = (Value.bytes (Text.utf8 s)).fits := by
  unfold textField
  split
  · rename_i empty
    rw [empty]
    decide
  · rw [List.all_cons, List.all_nil, Bool.and_true]

theorem markField_fit (number : Nat) (b : Bool) :
    (markField number b).all (·.value.fits) = true := by
  cases b <;> rfl

theorem toFields_fit (e : Event) : e.toFields.all (·.value.fits) = e.fits := by
  have at_ : (if e.createdAt = 0 then [] else [⟨1, .ofInt64 e.createdAt⟩] : List Field).all
      (·.value.fits) = true := by
    split
    · rfl
    · rw [List.all_cons, Value.fits_ofInt64]
      rfl
  have drawing : (e.drawing.map fun d => (⟨4, .bytes d.encode⟩ : Field)).toList.all
      (·.value.fits) = e.drawing.all fun d => (Value.bytes d.encode).fits := by
    cases e.drawing with
    | none => rfl
    | some d => exact Bool.and_true _
  have users : (e.users.map fun n => (⟨7, .varint n.toNat⟩ : Field)).toList.all
      (·.value.fits) = true := by
    cases e.users with
    | none => rfl
    | some n =>
      have bound := n.toNat_lt
      simp only [Option.map_some, Option.toList_some, List.all_cons, List.all_nil, Value.fits,
        Bool.and_true, decide_eq_true_eq]
      omega
  simp only [toFields, List.all_append, at_, drawing, users, textField_fit, markField_fit,
    Bool.true_and, Bool.and_true, fits]

theorem merge_textField (number : Nat) (s : String) (put : String → Event)
    (merged : ∀ v : Value, merge (put "") ⟨number, v⟩ = v.toText?.map put) :
    (textField number s).foldlM merge (put "") = some (put s) := by
  unfold textField
  split
  · rename_i empty
    rw [empty]
    rfl
  · rw [List.foldlM_cons, merged, Value.toText?_bytes]
    rfl

theorem merge_markField (number : Nat) (b : Bool) (put : Bool → Event)
    (merged : ∀ v : Value, merge (put false) ⟨number, v⟩ = v.toBool?.map put) :
    (markField number b).foldlM merge (put false) = some (put b) := by
  cases b with
  | false => rfl
  | true =>
    rw [markField, if_pos rfl, List.foldlM_cons, merged]
    rfl

theorem merge_toFields {e : Event} (fit : e.fits = true) : e.toFields.foldlM merge {} = some e := by
  obtain ⟨at_, user, room, drawing, joined, left, users⟩ := e
  have first : (if at_ = 0 then [] else [⟨1, .ofInt64 at_⟩] : List Field).foldlM merge {} =
      some { createdAt := at_ } := by
    split
    · rename_i unset
      rw [unset]
      rfl
    · have read : merge {} ⟨1, .ofInt64 at_⟩ = some { createdAt := at_ } := by
        rw [merge, Value.toInt64?_ofInt64]
        rfl
      rw [List.foldlM_cons, read]
      rfl
  have second : (textField 2 user).foldlM merge { createdAt := at_ } =
      some { createdAt := at_, byUser := user } :=
    merge_textField 2 user (fun s => { createdAt := at_, byUser := s }) fun _ => rfl
  have third : (textField 3 room).foldlM merge { createdAt := at_, byUser := user } =
      some { createdAt := at_, byUser := user, inRoom := room } :=
    merge_textField 3 room (fun s => { createdAt := at_, byUser := user, inRoom := s }) fun _ => rfl
  have fourth : (drawing.map fun d => (⟨4, .bytes d.encode⟩ : Field)).toList.foldlM merge
      ⟨at_, user, room, none, false, false, none⟩ =
        some ⟨at_, user, room, drawing, false, false, none⟩ := by
    cases drawing with
    | none => rfl
    | some d =>
      have short : d.encode.length < 2 ^ 64 := by
        simp only [fits, Bool.and_eq_true] at fit
        simpa [Value.fits] using fit.2
      have read : merge ⟨at_, user, room, none, false, false, none⟩ ⟨4, .bytes d.encode⟩ =
          some ⟨at_, user, room, some d, false, false, none⟩ := by
        simp only [merge, Option.getD_none, Drawing.readOnto_encode short, Option.map_some]
      rw [Option.map_some, Option.toList_some, List.foldlM_cons, read]
      rfl
  have fifth : (markField 5 joined).foldlM merge ⟨at_, user, room, drawing, false, false, none⟩ =
      some ⟨at_, user, room, drawing, joined, false, none⟩ :=
    merge_markField 5 joined (fun b => ⟨at_, user, room, drawing, b, false, none⟩) fun _ => rfl
  have sixth : (markField 6 left).foldlM merge ⟨at_, user, room, drawing, joined, false, none⟩ =
      some ⟨at_, user, room, drawing, joined, left, none⟩ :=
    merge_markField 6 left (fun b => ⟨at_, user, room, drawing, joined, b, none⟩) fun _ => rfl
  have seventh : (users.map fun n => (⟨7, .varint n.toNat⟩ : Field)).toList.foldlM merge
      ⟨at_, user, room, drawing, joined, left, none⟩ =
        some ⟨at_, user, room, drawing, joined, left, users⟩ := by
    cases users with
    | none => rfl
    | some n => simp [merge, Value.toUInt32?]
  simp only [toFields, List.foldlM_append, first, second, third, fourth, fifth, sixth, seventh,
    Option.bind_eq_bind, Option.bind_some]

/-- `decode?` inverts `encode` where `fits` holds, and fails elsewhere. -/
theorem decode?_encode (e : Event) : decode? e.encode = if e.fits then some e else none := by
  have read := Field.readAll_write (toFields_written e) groupLimit
  rw [toFields_fit, ← encode] at read
  rw [decode?, read]
  by_cases fit : e.fits = true
  · rw [if_pos fit, if_pos fit]
    exact merge_toFields fit
  · rw [if_neg fit, if_neg fit]

theorem fits_of_textField (number : Nat) (s : String)
    (short : ((textField number s).flatMap Field.write).length < 2 ^ 64) :
    (Value.bytes (Text.utf8 s)).fits = true := by
  unfold textField at short
  split at short
  · rename_i empty
    rw [empty]
    decide
  · have part := length_le_of_mem (List.mem_singleton_self _)
      (f := ⟨number, .bytes (Text.utf8 s)⟩) rfl
    exact decide_eq_true (Nat.lt_of_le_of_lt part short)

theorem fits_of_length {e : Event} (short : e.encode.length < 2 ^ 64) : e.fits = true := by
  simp only [encode, toFields, List.flatMap_append, List.length_append] at short
  have user := fits_of_textField 2 e.byUser (by omega)
  have room := fits_of_textField 3 e.inRoom (by omega)
  rw [fits, user, room, Bool.true_and, Bool.true_and]
  cases drawing : e.drawing with
  | none => rfl
  | some d =>
    rw [drawing] at short
    have part := length_le_of_mem (List.mem_singleton_self _) (f := ⟨4, .bytes d.encode⟩) rfl
    simp only [Option.map_some, Option.toList_some] at short
    exact decide_eq_true (by omega)

end Event
end RoomRelay.Wire
