import ServiceProbe.Number.Decimal
/-!
The shortest decimal that reads back as the same double, and of those the nearest one. A decimal
reads back if it lies between the midpoints to the two neighbouring doubles; the midpoints count
when the mantissa is even.
-/
namespace ServiceProbe.Decimal

/-- The decimals that read back as a double, as fractions over a common denominator. -/
structure Interval where
  low : Nat
  value : Nat
  high : Nat
  denominator : Nat
  closed : Bool

/-- Below a power of two the doubles are twice as dense. -/
def interval (mantissa : Nat) (exponent : Int) : Interval :=
  let up := Power.two exponent.toNat
  let narrow := mantissa = Power.two 52 ∧ Double.leastExponent < exponent
  { low := (4 * mantissa - if narrow then 1 else 2) * up
    value := 4 * mantissa * up
    high := (4 * mantissa + 2) * up
    denominator := 4 * Power.two (-exponent).toNat
    closed := mantissa % 2 = 0 }

/-- Whether `digits / 10 ^ places` lies in an interval. -/
def Interval.holds (range : Interval) (digits : Nat) (places : Int) : Bool :=
  let point := digits * range.denominator * Power.ten (-places).toNat
  let scale := Power.ten places.toNat
  if range.closed then range.low * scale ≤ point && point ≤ range.high * scale
  else range.low * scale < point && point < range.high * scale

/-- A neighbour of the value on the grid with `count` digits that lies in the interval, the nearer
one if both do. -/
def Interval.onGrid? (range : Interval) (leading : Int) (count : Nat) : Option (Nat × Int) :=
  let places : Int := count - 1 - leading
  let nearest := scaledDigits range.value range.denominator places
  let below :=
    range.value * Power.ten places.toNat / (range.denominator * Power.ten (-places).toNat)
  let other := if nearest = below then below + 1 else below
  if range.holds nearest places then some (nearest, places)
  else if range.holds other places then some (other, places)
  else none

/-- The digits and the number of places of the shortest decimal. Seventeen digits always do. -/
def shortestDigits (mantissa : Nat) (exponent : Int) : Nat × Int :=
  let range := interval mantissa exponent
  let leading := leadingExponent range.value range.denominator
  ((List.range 18).findSome? fun count =>
    if count = 0 then none else range.onGrid? leading count).getD (0, 0)

/-- Positional notation for values from 10 ^ -4 up to 10 ^ 16, an exponent outside. -/
def layOut (digits : Nat) (places : Int) : Text :=
  let text := Text.dropEnd (· == '0') (Text.ofNat digits)
  let point : Int := (Text.ofNat digits).length - places
  if -4 < point ∧ point ≤ 16 then
    if point ≤ 0 then '0' :: '.' :: List.replicate (-point).toNat '0' ++ text
    else
      let whole := point.toNat
      let fraction := text.drop whole
      text.take whole ++ List.replicate (whole - text.length) '0'
        ++ '.' :: if fraction.isEmpty then ['0'] else fraction
  else
    let fraction := text.drop 1
    text.take 1 ++ (if fraction.isEmpty then [] else '.' :: fraction)
      ++ exponentText (point - 1)

def shortest : Double → Text
  | .finite negative mantissa exponent =>
    signText negative ++
      if mantissa = 0 then ("0.0" : Text)
      else
        let (digits, places) := shortestDigits mantissa exponent
        layOut digits places
  | .infinite negative => infinityText negative
  | .nan => "nan"

end ServiceProbe.Decimal

namespace ServiceProbe.Number

/-- An integer is shown by its digits, a double by its shortest decimal. -/
def display : Number → Text
  | .int n => Text.ofInt n
  | .real double => Decimal.shortest double

end ServiceProbe.Number
