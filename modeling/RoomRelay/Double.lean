import RoomRelay.Text.Number

/-!
Double-precision numbers as bits: read from a decimal, rounded to an integer, and written with the
fewest digits that read back, without an exponent. All arithmetic is exact.
-/
namespace RoomRelay

structure Double where
  bits : UInt64
  deriving DecidableEq, Repr

namespace Double

def mantissas : Nat := 0x10000000000000

def signBit : Nat := 0x8000000000000000

def infinityBits : Nat := 0x7ff * mantissas

def isNegative (x : Double) : Bool :=
  x.bits.toNat ≥ signBit

def magnitude (x : Double) : Nat :=
  x.bits.toNat % signBit

def isNaN (x : Double) : Bool :=
  x.magnitude > infinityBits

def isInfinite (x : Double) : Bool :=
  x.magnitude = infinityBits

def ofMagnitude (negative : Bool) (bits : Nat) : Double :=
  ⟨(if negative then signBit + bits else bits).toUInt64⟩

def nan : Double := ofMagnitude false (infinityBits + mantissas / 2)

/-- Integer and power of two whose product is the magnitude of a finite number. -/
def parts (x : Double) : Nat × Int :=
  let e : Nat := x.magnitude / mantissas
  let m : Nat := x.magnitude % mantissas
  if e = 0 then (m, -1074) else (mantissas + m, (e : Int) - 1075)

/-- A quotient rounded to an integer, halves to the even neighbour. -/
def roundEven (num den : Nat) : Nat :=
  let q := num / den
  let r := 2 * (num % den)
  if r < den then q else if den < r then q + 1 else q + q % 2

def scaled (num den : Nat) (e : Int) : Nat × Nat :=
  if e < 0 then (num, den * Nat.pow 2 (-e).toNat) else (num * Nat.pow 2 e.toNat, den)

/-- Bits of the number nearest to a positive quotient, halves to the even neighbour. -/
def nearestBits (num den : Nat) : Nat :=
  let guess : Int := (Nat.log2 num : Int) - Nat.log2 den - 52
  let isShort : Bool := (scaled num den (-guess)).1 / (scaled num den (-guess)).2 < mantissas
  let e := max (-1074) (if isShort then guess - 1 else guess)
  let (n, d) := scaled num den (-e)
  min infinityBits ((e + 1074).toNat * mantissas + roundEven n d)

def quotient (digits : Nat) (exponent : Int) : Nat × Nat :=
  if exponent < 0 then (digits, Nat.pow 10 (-exponent).toNat)
  else (digits * Nat.pow 10 exponent.toNat, 1)

/-- Bits of the number nearest to a decimal. What is far out of range needs no arithmetic. -/
def decimalBits (digits : Nat) (exponent : Int) : Nat :=
  let places : Int := (Nat.toDigits 10 digits).length + exponent
  if digits = 0 ∨ places < -400 then 0
  else if 400 < places then infinityBits
  else nearestBits (quotient digits exponent).1 (quotient digits exponent).2

def splitSign : List Char → Bool × List Char
  | '-' :: cs => (true, cs)
  | '+' :: cs => (false, cs)
  | cs => (false, cs)

/-- The digits before the point, those behind it, and the rest. -/
def splitDecimal (cs : List Char) : List Char × List Char × List Char :=
  let whole := cs.takeWhile Char.isDigit
  match cs.dropWhile Char.isDigit with
  | '.' :: rest => (whole, rest.takeWhile Char.isDigit, rest.dropWhile Char.isDigit)
  | rest => (whole, [], rest)

def exponentOf? : List Char → Option Int
  | [] => some 0
  | e :: rest => if e = 'e' ∨ e = 'E' then Text.intOf? (String.ofList rest) else none

/-- Reads a number: digits with at most one point and an exponent, or a name of infinity or NaN. -/
def parse? (s : String) : Option Double :=
  let (negative, cs) := splitSign s.toList
  let name := (String.ofList cs).toLower
  if name = "inf" ∨ name = "infinity" then some (ofMagnitude negative infinityBits)
  else if name = "nan" then some nan
  else
    let (whole, fraction, rest) := splitDecimal cs
    if whole = [] ∧ fraction = [] then none
    else
      (exponentOf? rest).map fun e =>
        ofMagnitude negative (decimalBits (Text.digitsValue (whole ++ fraction))
          (e - fraction.length))

/-- The magnitude rounded to an integer, halves up. -/
def roundedMagnitude (x : Double) : Nat :=
  let (m, e) := x.parts
  if e < 0 then (2 * m / Nat.pow 2 (-e).toNat + 1) / 2 else m * Nat.pow 2 e.toNat

/-- The nearest integer between two bounds, halves away from zero; NaN counts as zero. -/
def toIntBetween (low high : Int) (x : Double) : Int :=
  if x.isNaN then max low (min high 0)
  else if x.isInfinite then if x.isNegative then low else high
  else
    let n : Int := if x.isNegative then -x.roundedMagnitude else x.roundedMagnitude
    max low (min high n)

/-- The multiple of a power of ten that reads back as the given magnitude, if there is one; the
nearer of two, and the greater if both are as near. -/
def onGrid? (bits num den : Nat) (exponent : Int) : Option Nat :=
  let (gn, gd) := quotient 1 exponent
  let below := num * gd / (den * gn)
  let back (d : Nat) : Bool := d ≠ 0 ∧ decimalBits d exponent = bits
  match back below, back (below + 1) with
  | false, false => none
  | true, false => some below
  | false, true => some (below + 1)
  | true, true =>
    if 2 * (num * gd % (den * gn)) < den * gn then some below else some (below + 1)

/-- The digits of the coarsest decimal that reads back, with its power of ten. -/
def shortestFrom (bits num den : Nat) : Nat → Int → Nat × Int
  | 0, exponent => (0, exponent)
  | steps + 1, exponent =>
    match onGrid? bits num den exponent with
    | some d => (d, exponent)
    | none => shortestFrom bits num den steps (exponent - 1)

def shortest (x : Double) : Nat × Int :=
  let (n, d) := scaled x.parts.1 1 x.parts.2
  shortestFrom x.magnitude n d 700 310

def positional (digits : Nat) (exponent : Int) : String :=
  let ds := Nat.toDigits 10 digits
  if 0 ≤ exponent then String.ofList (ds ++ List.replicate exponent.toNat '0')
  else
    let places := (-exponent).toNat
    let padded := List.replicate (places + 1 - ds.length) '0' ++ ds
    String.ofList (padded.take (padded.length - places)) ++ "." ++
      String.ofList (padded.drop (padded.length - places))

/-- The text of a number: the fewest digits that read back, without an exponent. -/
def text (x : Double) : String :=
  if x.isNaN then "NaN"
  else
    (if x.isNegative then "-" else "") ++
      if x.isInfinite then "inf"
      else if x.magnitude = 0 then "0"
      else positional x.shortest.1 x.shortest.2

end Double
end RoomRelay
