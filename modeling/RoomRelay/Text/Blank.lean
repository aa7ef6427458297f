import RoomRelay.Text.Glyph

/-! White space in any script, and the texts made of it alone. -/
namespace RoomRelay.Text

/-- Code points of white space, as ascending inclusive ranges. -/
def blankRanges : List (Nat × Nat) :=
  [(0x09, 0x0D), (0x20, 0x20), (0x85, 0x85), (0xA0, 0xA0), (0x1680, 0x1680), (0x2000, 0x200A),
    (0x2028, 0x2029), (0x202F, 0x202F), (0x205F, 0x205F), (0x3000, 0x3000)]

def isBlankChar (c : Char) : Bool :=
  inRanges blankRanges c.toNat

/-- Whether a text holds white space only; the empty text does. -/
def isBlank (s : String) : Bool :=
  s.toList.all isBlankChar

def hasBlankEdge (s : String) : Bool :=
  s.toList.head?.any isBlankChar || s.toList.getLast?.any isBlankChar

end RoomRelay.Text
