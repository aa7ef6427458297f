import RoomRelay.Event.Wire
import RoomRelay.Text.Utf8
import RoomRelay.Wire.Field

/-!
The bytes of a wire record. Fields are written in ascending order and a default is left out, except
that a field whose presence matters is written whenever it is set. Reading takes fields in any
order: the last number or text wins, arrays grow, and two drawings are read as one.
-/
namespace RoomRelay.Wire

/-- The bytes of one sample, least significant first. -/
def sampleBytes (s : Sample) : List UInt8 :=
  [s.toUInt8, (s >>> 8).toUInt8, (s >>> 16).toUInt8, (s >>> 24).toUInt8]

def ofSampleBytes? : List UInt8 → Option (List Sample)
  | [] => some []
  | a :: b :: c :: d :: rest =>
    (ofSampleBytes? rest).map
      ((a.toUInt32 ||| b.toUInt32 <<< 8 ||| c.toUInt32 <<< 16 ||| d.toUInt32 <<< 24) :: ·)
  | _ => none

namespace Value

/-- Signed numbers are written in two's complement of 64 bits. -/
def ofInt64 (n : Int64) : Value :=
  varint n.toUInt64.toNat

def toInt64? : Value → Option Int64
  | varint n => some n.toUInt64.toInt64
  | _ => none

/-- A number of 32 bits is widened with its sign first. -/
def ofInt32 (n : Int32) : Value :=
  ofInt64 n.toInt64

/-- The low 32 bits count. -/
def toInt32? : Value → Option Int32
  | varint n => some n.toUInt32.toInt32
  | _ => none

def toUInt32? : Value → Option UInt32
  | varint n => some n.toUInt32
  | _ => none

/-- Any number but zero means yes. -/
def toBool? : Value → Option Bool
  | varint n => some (n ≠ 0)
  | _ => none

def toText? : Value → Option String
  | bytes bs => Text.ofUtf8? bs
  | _ => none

/-- Samples, packed together or one at a time. -/
def toSamples? : Value → Option (List Sample)
  | bytes bs => ofSampleBytes? bs
  | fixed32 bs => ofSampleBytes? bs
  | _ => none

end Value

namespace Drawing

/-- An array of samples as one field; an empty array has none. -/
def packed (number : Nat) (samples : List Sample) : List Field :=
  if samples = [] then [] else [⟨number, .bytes (samples.flatMap sampleBytes)⟩]

def toFields (d : Drawing) : List Field :=
  packed 1 d.xs ++ packed 2 d.ys ++ packed 3 d.pressures ++ packed 4 d.widths ++
    if d.color = 0 then [] else [⟨5, .ofInt32 d.color⟩]

/-- Takes one field into a drawing. A field that is not known changes nothing. -/
def merge (d : Drawing) (f : Field) : Option Drawing :=
  match f.number with
  | 1 => f.value.toSamples?.map fun s => { d with xs := d.xs ++ s }
  | 2 => f.value.toSamples?.map fun s => { d with ys := d.ys ++ s }
  | 3 => f.value.toSamples?.map fun s => { d with pressures := d.pressures ++ s }
  | 4 => f.value.toSamples?.map fun s => { d with widths := d.widths ++ s }
  | 5 => f.value.toInt32?.map fun c => { d with color := c }
  | _ => some d

def groupLimit : Nat := 99

def encode (d : Drawing) : List UInt8 :=
  d.toFields.flatMap Field.write

/-- Reads the bytes of a drawing on top of an earlier one. -/
def readOnto (d : Drawing) (bs : List UInt8) : Option Drawing :=
  match Field.readAll groupLimit bs with
  | some fields => fields.foldlM merge d
  | none => none

end Drawing

namespace Event

/-- A text as one field; the empty text has none. -/
def textField (number : Nat) (s : String) : List Field :=
  if s = "" then [] else [⟨number, .bytes (Text.utf8 s)⟩]

/-- A mark as one field, left out when it is not set. -/
def markField (number : Nat) (b : Bool) : List Field :=
  if b then [⟨number, .varint 1⟩] else []

def toFields (e : Event) : List Field :=
  (if e.createdAt = 0 then [] else [⟨1, .ofInt64 e.createdAt⟩]) ++ textField 2 e.byUser ++
    textField 3 e.inRoom ++ (e.drawing.map fun d => ⟨4, .bytes d.encode⟩).toList ++
    markField 5 e.joined ++ markField 6 e.left ++
    (e.users.map fun n => ⟨7, .varint n.toNat⟩).toList

def merge (e : Event) (f : Field) : Option Event :=
  match f.number with
  | 1 => f.value.toInt64?.map fun n => { e with createdAt := n }
  | 2 => f.value.toText?.map fun s => { e with byUser := s }
  | 3 => f.value.toText?.map fun s => { e with inRoom := s }
  | 4 =>
    match f.value with
    | .bytes bs => ((e.drawing.getD {}).readOnto bs).map fun d => { e with drawing := some d }
    | _ => none
  | 5 => f.value.toBool?.map fun b => { e with joined := b }
  | 6 => f.value.toBool?.map fun b => { e with left := b }
  | 7 => f.value.toUInt32?.map fun n => { e with users := some n }
  | _ => some e

def groupLimit : Nat := 100

def encode (e : Event) : List UInt8 :=
  e.toFields.flatMap Field.write

def decode? (bs : List UInt8) : Option Event :=
  match Field.readAll groupLimit bs with
  | some fields => fields.foldlM merge {}
  | none => none

end Event
end RoomRelay.Wire

namespace RoomRelay.Event

def encode (e : Event) : List UInt8 :=
  (Wire.Event.ofDomain e).encode

end RoomRelay.Event
