/-!
Texts as bytes in UTF-8.
-/
namespace RoomRelay.Text

def utf8 (s : String) : List UInt8 :=
  s.toUTF8.data.toList

def ofUtf8? (bs : List UInt8) : Option String :=
  String.fromUTF8? ⟨bs.toArray⟩

end RoomRelay.Text
