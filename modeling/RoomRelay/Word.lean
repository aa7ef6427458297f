/-! Numbers of a fixed width: how many values there are, and which integers fit. -/
namespace RoomRelay.Word

def size16 : Nat := 65536

def size32 : Nat := 4294967296

def size64 : Nat := 18446744073709551616

def least64 : Int := -9223372036854775808

def greatest64 : Int := 9223372036854775807

def fits64 (n : Int) : Bool :=
  least64 ≤ n && n ≤ greatest64

def int64? (n : Int) : Option Int64 :=
  if fits64 n then some (Int64.ofInt n) else none

end RoomRelay.Word
