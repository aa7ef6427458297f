import RoomRelay.Word

/-! Decimal numbers in texts. -/
namespace RoomRelay.Text

def digitsValue (cs : List Char) : Nat :=
  cs.foldl (fun n c => 10 * n + (c.toNat - '0'.toNat)) 0

def digits? (cs : List Char) : Option Nat :=
  if cs ≠ [] ∧ cs.all Char.isDigit then some (digitsValue cs) else none

/-- A natural number in digits, which may follow a plus sign. -/
def natOf? (s : String) : Option Nat :=
  match s.toList with
  | '+' :: cs => digits? cs
  | cs => digits? cs

def intOf? (s : String) : Option Int :=
  match s.toList with
  | '-' :: cs => (digits? cs).map fun n => -(n : Int)
  | _ => (natOf? s).map Int.ofNat

/-- The same, of an integer that fits 64 bits with its sign. -/
def smallIntOf? (s : String) : Option Int :=
  (intOf? s).filter Word.fits64

end RoomRelay.Text
