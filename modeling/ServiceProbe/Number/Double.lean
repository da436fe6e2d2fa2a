import ServiceProbe.Number.Power
/-!
Binary floating-point numbers of 64 bits, as exact values. A finite one is a sign, a mantissa and a
power of two; every operation computes the exact quotient and rounds it once, to the nearest double
and at a tie to the one with the even mantissa.
-/
namespace ServiceProbe

inductive Double where
  /-- The value is the mantissa times two to the exponent, negated if asked for. -/
  | finite (negative : Bool) (mantissa : Nat) (exponent : Int)
  | infinite (negative : Bool)
  | nan
  deriving DecidableEq, Repr

namespace Double

/-- The exponent of the smallest doubles, and of zero. -/
def leastExponent : Int := -1074

/-- The exponent of the largest doubles. -/
def greatestExponent : Int := 971

def zero (negative : Bool) : Double := .finite negative 0 leastExponent

/-- The quotient rounded to the nearest natural number, a half to the even one. -/
def roundHalfEven (numerator denominator : Nat) : Nat :=
  let quotient := numerator / denominator
  let twice := 2 * (numerator % denominator)
  if twice < denominator then quotient
  else if denominator < twice then quotient + 1
  else quotient + quotient % 2

/-- The greatest power of two that a quotient reaches. -/
def floorLog2 (numerator denominator : Nat) : Int :=
  let guess : Int := (numerator.log2 : Int) - denominator.log2
  if numerator * Power.two (-guess).toNat < denominator * Power.two guess.toNat then guess - 1
  else guess

/-- A mantissa that rounding carried to the next power of two moves into the exponent. -/
def pack (negative : Bool) (mantissa : Nat) (exponent : Int) : Double :=
  let (mantissa, exponent) :=
    if mantissa = Power.two 53 then (Power.two 52, exponent + 1) else (mantissa, exponent)
  if greatestExponent < exponent then .infinite negative else .finite negative mantissa exponent

/-- The double nearest to a quotient. -/
def ofRatio (negative : Bool) (numerator denominator : Nat) : Double :=
  if numerator = 0 then zero negative
  else
    let exponent := max (floorLog2 numerator denominator - 52) leastExponent
    let mantissa :=
      roundHalfEven (numerator * Power.two (-exponent).toNat)
        (denominator * Power.two exponent.toNat)
    pack negative mantissa exponent

/-- The double nearest to a mantissa times a power of two. -/
def ofScaled (negative : Bool) (mantissa : Nat) (exponent : Int) : Double :=
  ofRatio negative (mantissa * Power.two exponent.toNat) (Power.two (-exponent).toNat)

/-- The double nearest to `digits * 10 ^ exponent`. What is certain to overflow or to vanish is
decided by size, so that no power of ten is larger than the digits and the range call for. -/
def ofDecimal (negative : Bool) (digits : Nat) (exponent : Int) : Double :=
  if digits = 0 then zero negative
  else if 400 < exponent then .infinite negative
  else if (digits.log2 : Int) + 1 + 3 * exponent < -1080 then zero negative
  else ofRatio negative (digits * Power.ten exponent.toNat) (Power.ten (-exponent).toNat)

def negate : Double → Double
  | .finite negative mantissa exponent => .finite (!negative) mantissa exponent
  | .infinite negative => .infinite (!negative)
  | .nan => .nan

/-- The mantissa with its sign, scaled up to exponent `scale`, which is at most its own. -/
def scaledTo (scale : Int) (negative : Bool) (mantissa : Nat) (exponent : Int) : Int :=
  let size : Int := mantissa * Power.two (exponent - scale).toNat
  if negative then -size else size

/-- An exact sum of zero is positive unless both summands are negative. -/
def add : Double → Double → Double
  | .finite n₁ m₁ e₁, .finite n₂ m₂ e₂ =>
    let scale := min e₁ e₂
    let sum := scaledTo scale n₁ m₁ e₁ + scaledTo scale n₂ m₂ e₂
    if sum = 0 then zero (n₁ && n₂) else ofScaled (sum < 0) sum.natAbs scale
  | .nan, _ => .nan
  | _, .nan => .nan
  | .infinite n₁, .infinite n₂ => if n₁ = n₂ then .infinite n₁ else .nan
  | .infinite n₁, _ => .infinite n₁
  | _, .infinite n₂ => .infinite n₂

def sub (a b : Double) : Double := add a (negate b)

def mul : Double → Double → Double
  | .finite n₁ m₁ e₁, .finite n₂ m₂ e₂ => ofScaled (n₁ != n₂) (m₁ * m₂) (e₁ + e₂)
  | .nan, _ => .nan
  | _, .nan => .nan
  | .infinite n₁, .infinite n₂ => .infinite (n₁ != n₂)
  | .infinite n₁, .finite n₂ m₂ _ => if m₂ = 0 then .nan else .infinite (n₁ != n₂)
  | .finite n₁ m₁ _, .infinite n₂ => if m₁ = 0 then .nan else .infinite (n₁ != n₂)

def div : Double → Double → Double
  | .finite n₁ m₁ e₁, .finite n₂ m₂ e₂ =>
    if m₂ = 0 then if m₁ = 0 then .nan else .infinite (n₁ != n₂)
    else
      let scale := e₁ - e₂
      ofRatio (n₁ != n₂) (m₁ * Power.two scale.toNat) (m₂ * Power.two (-scale).toNat)
  | .nan, _ => .nan
  | _, .nan => .nan
  | .infinite _, .infinite _ => .nan
  | .infinite n₁, .finite n₂ _ _ => .infinite (n₁ != n₂)
  | .finite n₁ _ _, .infinite n₂ => zero (n₁ != n₂)

def isPositive : Double → Bool
  | .finite negative mantissa _ => !negative && mantissa != 0
  | .infinite negative => !negative
  | .nan => false

/-- What is not a number is neither positive nor at most zero. -/
def isAtMostZero : Double → Bool
  | .finite negative mantissa _ => negative || mantissa == 0
  | .infinite negative => negative
  | .nan => false

/-- The sign, exponent and mantissa fields as one word of 64 bits. -/
def toBits : Double → Nat
  | .finite negative mantissa exponent =>
    let sign := if negative then Power.two 63 else 0
    if mantissa < Power.two 52 then sign + mantissa
    else sign + (exponent + 1075).toNat * Power.two 52 + (mantissa - Power.two 52)
  | .infinite negative => (if negative then Power.two 63 else 0) + 2047 * Power.two 52
  | .nan => 2047 * Power.two 52 + Power.two 51

end Double
end ServiceProbe
