import ServiceProbe.Number.Basic
/-!
Decimal texts of doubles: with a fixed number of places, with an exponent, and with a fixed number
of significant digits. All round the exact value once, a half to the even neighbour. `full` says
that a point is written even with nothing behind it, and that no zeros are dropped.
-/
namespace ServiceProbe.Decimal

def signText (negative : Bool) : Text := if negative then ['-'] else []

def infinityText (negative : Bool) : Text := signText negative ++ "inf"

/-- Numerator and denominator of a mantissa times a power of two. -/
def ratio (mantissa : Nat) (exponent : Int) : Nat × Nat :=
  (mantissa * Power.two exponent.toNat, Power.two (-exponent).toNat)

/-- The quotient times `10 ^ places`, rounded. -/
def scaledDigits (numerator denominator : Nat) (places : Int) : Nat :=
  Double.roundHalfEven (numerator * Power.ten places.toNat)
    (denominator * Power.ten (-places).toNat)

/-- At least `width` digits, with zeros in front. -/
def zeroPadded (width n : Nat) : Text :=
  let digits := Text.ofNat n
  List.replicate (width - digits.length) '0' ++ digits

/-- Digits with a point before the last `places` of them. -/
def withPoint (places n : Nat) : Text :=
  if places = 0 then Text.ofNat n
  else Text.ofNat (n / Power.ten places) ++ '.' :: zeroPadded places (n % Power.ten places)

/-- A point behind digits that have none. -/
def pointFor (full : Bool) (places : Nat) : Text := if full && places == 0 then ['.'] else []

/-- A fixed number of places. -/
def fixed (places : Nat) (double : Double) (full : Bool := false) : Text :=
  match double with
  | .finite negative mantissa exponent =>
    let (numerator, denominator) := ratio mantissa exponent
    signText negative ++ withPoint places (scaledDigits numerator denominator places)
      ++ pointFor full places
  | .infinite negative => infinityText negative
  | .nan => "nan"

/-- Zeros behind the point say nothing, nor does a point with nothing behind it. -/
def dropTrailingZeros (text : Text) : Text :=
  Text.dropEnd (· == '.') (Text.dropEnd (· == '0') text)

/-- The exponent of the leading digit of a quotient that is not zero. -/
def leadingExponent (numerator denominator : Nat) : Int :=
  let guess : Int := (Text.ofNat numerator).length - (Text.ofNat denominator).length
  if numerator * Power.ten (-guess).toNat < denominator * Power.ten guess.toNat then guess - 1
  else guess

/-- The leading digits of a quotient and the exponent of the first of them. Rounding up to a
further digit moves the exponent. -/
def significantDigits (count numerator denominator : Nat) : Nat × Int :=
  let exponent := leadingExponent numerator denominator
  let digits := scaledDigits numerator denominator (count - 1 - exponent)
  if digits = Power.ten count then (Power.ten (count - 1), exponent + 1) else (digits, exponent)

def exponentText (exponent : Int) : Text :=
  'e' :: (if exponent < 0 then '-' else '+') :: zeroPadded 2 exponent.natAbs

/-- One digit before the point, a fixed number of places, and an exponent. -/
def scientific (places : Nat) (double : Double) (full : Bool := false) : Text :=
  match double with
  | .finite negative mantissa exponent =>
    let (numerator, denominator) := ratio mantissa exponent
    let (digits, leading) :=
      if mantissa = 0 then (0, 0) else significantDigits (places + 1) numerator denominator
    signText negative ++ withPoint places digits ++ pointFor full places ++ exponentText leading
  | .infinite negative => infinityText negative
  | .nan => "nan"

/-- Digits with their places, without trailing zeros unless they are wanted. -/
def placed (full : Bool) (places digits : Nat) : Text :=
  if full then withPoint places digits ++ pointFor full places
  else if places = 0 then Text.ofNat digits
  else dropTrailingZeros (withPoint places digits)

/-- A number of significant digits, of which there is at least one: in positional notation for
exponents from -4 up to that number, and with an exponent outside. -/
def significant (count : Nat) (double : Double) (full : Bool := false) : Text :=
  match double with
  | .finite negative mantissa exponent =>
    let count := max count 1
    signText negative ++
      if mantissa = 0 then placed full (count - 1) 0
      else
        let (numerator, denominator) := ratio mantissa exponent
        let (digits, leading) := significantDigits count numerator denominator
        if -4 ≤ leading ∧ leading < count then
          placed full ((count : Int) - 1 - leading).toNat digits
        else placed full (count - 1) digits ++ exponentText leading
  | .infinite negative => infinityText negative
  | .nan => "nan"

/-- Six significant digits. -/
def general (double : Double) : Text := significant 6 double

end ServiceProbe.Decimal
