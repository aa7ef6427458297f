import RoomRelay.Key

/-!
Room events. An event says who did what in which room and when; what was done is exactly one
payload. Samples of a drawing are kept as the bits of single-precision numbers.
-/
namespace RoomRelay

/-- Bits of a single-precision number. -/
abbrev Sample := UInt32

def Sample.isNaN (s : Sample) : Bool :=
  s &&& 0x7fffffff > 0x7f800000

/-- Equality of the numbers behind the bits: a NaN differs from itself and the zeros agree. -/
def Sample.same (a b : Sample) : Bool :=
  !a.isNaN && !b.isNaN && (a == b || (a ||| b) &&& 0x7fffffff == 0)

inductive Color where
  | black
  | white
  deriving DecidableEq, Repr

namespace Color

def name : Color → String
  | black => "black"
  | white => "white"

def ofName? (s : String) : Option Color :=
  [black, white].find? fun c => c.name == s

/-- The number of a colour on the wire; zero is the invisible one. -/
def code : Color → Int32
  | black => 1
  | white => 2

def ofCode? (n : Int32) : Option Color :=
  if n = 1 then some black else if n = 2 then some white else none

end Color

structure Drawing where
  xs : List Sample
  ys : List Sample
  pressures : List Sample
  widths : List Sample
  color : Color
  deriving DecidableEq, Repr

/-- The common length of four arrays, if there is one and it is not zero. -/
def commonLength (xs ys pressures widths : List Sample) : Option Nat :=
  if xs.length ≠ 0 ∧ ys.length = xs.length ∧ pressures.length = xs.length ∧
      widths.length = xs.length then
    some xs.length
  else none

def Drawing.samples (d : Drawing) : Option Nat :=
  commonLength d.xs d.ys d.pressures d.widths

def sameSamples : List Sample → List Sample → Bool
  | [], [] => true
  | a :: as, b :: bs => a.same b && sameSamples as bs
  | _, _ => false

def Drawing.same (a b : Drawing) : Bool :=
  sameSamples a.xs b.xs && sameSamples a.ys b.ys && sameSamples a.pressures b.pressures &&
    sameSamples a.widths b.widths && a.color == b.color

inductive Payload where
  | drawing (d : Drawing)
  | userJoined
  | userLeft
  /-- Number of present members; made for one client and never published. -/
  | occupancy (count : UInt32)
  deriving DecidableEq, Repr

namespace Payload

def kind? : Payload → Option Kind
  | drawing _ => some .drawing
  | userJoined => some .userJoined
  | userLeft => some .userLeft
  | occupancy _ => none

def same : Payload → Payload → Bool
  | drawing a, drawing b => a.same b
  | a, b => a == b

end Payload

structure Event where
  /-- Nanoseconds since the epoch. -/
  createdAt : Int64
  byUser : String
  inRoom : String
  payload : Payload
  deriving DecidableEq, Repr

namespace Event

def key? (e : Event) : Option Key :=
  e.payload.kind?.map (Key.event e.inRoom e.byUser)

def same (a b : Event) : Bool :=
  a.createdAt == b.createdAt && a.byUser == b.byUser && a.inRoom == b.inRoom &&
    a.payload.same b.payload

end Event
end RoomRelay
