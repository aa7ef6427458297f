/-! Bytes as text: two digits in base sixteen for each, in lower case. -/
namespace RoomRelay.Text

def hexDigit (n : Nat) : Char :=
  "0123456789abcdef".toList.getD n '0'

def hexValue? (c : Char) : Option Nat :=
  if c.isDigit then some (c.toNat - '0'.toNat)
  else if 'a' ≤ c ∧ c ≤ 'f' then some (c.toNat - 'a'.toNat + 10)
  else if 'A' ≤ c ∧ c ≤ 'F' then some (c.toNat - 'A'.toNat + 10)
  else none

def hexOf (bs : List UInt8) : String :=
  String.ofList (bs.flatMap fun b => [hexDigit (b.toNat / 16), hexDigit (b.toNat % 16)])

def ofHex? : List Char → Option (List UInt8)
  | [] => some []
  | a :: b :: rest => do
    return ((← hexValue? a) * 16 + (← hexValue? b)).toUInt8 :: (← ofHex? rest)
  | [_] => none

end RoomRelay.Text
