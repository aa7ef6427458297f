/-!
Spans of time for messages. A number of nanoseconds is given in the largest of `ns`, `µs`, `ms` and `s`
that is not more than the span, with as many decimals as are needed.
-/
namespace RoomRelay.Text

/-- The decimals of a number of `10 ^ places`-ths, without trailing zeros. -/
def decimals (places n : Nat) : List Char :=
  (Nat.toDigits 10 (Nat.pow 10 places + n)).tail.reverse.dropWhile (· == '0') |>.reverse

def inUnits (places : Nat) (unit : String) (n : Nat) : String :=
  let rest := n % Nat.pow 10 places
  let fraction := if rest = 0 then "" else "." ++ String.ofList (decimals places rest)
  toString (n / Nat.pow 10 places) ++ fraction ++ unit

def elapsed (nanoseconds : Nat) : String :=
  if nanoseconds < 1000 then inUnits 0 "ns" nanoseconds
  else if nanoseconds < 1000000 then inUnits 3 "µs" nanoseconds
  else if nanoseconds < 1000000000 then inUnits 6 "ms" nanoseconds
  else inUnits 9 "s" nanoseconds

example : [0, 7, 1500, 7000000, 1600000000].map elapsed = ["0ns", "7ns", "1.5µs", "7ms", "1.6s"] := by
  decide +kernel

end RoomRelay.Text
