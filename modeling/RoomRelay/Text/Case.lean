/-!
Names that differ in case only. Letters without an accent count, and the sign of the kelvin, whose
small form is the letter k.
-/
namespace RoomRelay.Text

def lowerChar (c : Char) : Char :=
  if c = '\u212a' then 'k' else c.toLower

def lower (s : String) : String :=
  String.ofList (s.toList.map lowerChar)

end RoomRelay.Text
