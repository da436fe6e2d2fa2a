import ServiceProbe.Number.Double
import ServiceProbe.Text.Basic
/-!
Measured values, levels and points in time are integers of any size or doubles. They are compared
by their exact values; an integer becomes a double only where it is combined with one, and fails
there if it is too large.
-/
namespace ServiceProbe

/-- Why a number could not be used where it stood. -/
inductive OutOfRange where
  | tooLargeForDouble
  | infinityAsInteger
  | nanAsInteger
  | tooManyDigits (count : Nat)
  | integerAsTime
  | doubleAsTime
  | nanAsTime
  | negativeTimeout
  deriving DecidableEq, Repr

namespace OutOfRange

/-- An integer is read from at most this many digits. -/
def digitLimit : Nat := 4300

def message : OutOfRange → Text
  | .tooLargeForDouble => "int too large to convert to float"
  | .infinityAsInteger => "cannot convert float infinity to integer"
  | .nanAsInteger => "cannot convert float NaN to integer"
  | .tooManyDigits count =>
    "Exceeds the limit (" ++ Text.ofNat digitLimit
      ++ " digits) for integer string conversion: value has " ++ Text.ofNat count
      ++ " digits; use sys.set_int_max_str_digits() to increase the limit"
  | .integerAsTime => "timestamp too large to convert to C _PyTime_t"
  | .doubleAsTime => "timestamp out of range for platform time_t"
  | .nanAsTime => "Invalid value NaN (not a number)"
  | .negativeTimeout => "Timeout value out of range"

end OutOfRange

inductive Number where
  | int (value : Int)
  | real (value : Double)
  deriving DecidableEq, Repr

instance : Coe Int Number := ⟨.int⟩
instance : Coe Double Number := ⟨.real⟩

namespace Number

/-- Where a value stands: a fraction with a power of two below, or beyond all of them. -/
inductive Position where
  | lowest
  | fraction (numerator : Int) (scale : Nat)
  | highest

namespace Position

def lt : Position → Position → Bool
  | .fraction n₁ s₁, .fraction n₂ s₂ => n₁ * Power.two s₂ < n₂ * Power.two s₁
  | .lowest, .lowest => false
  | .lowest, _ => true
  | .fraction _ _, .highest => true
  | _, _ => false

end Position

/-- What is not a number stands nowhere. -/
def position? : Number → Option Position
  | .int n => some (.fraction n 0)
  | .real (.finite negative mantissa exponent) =>
    let size : Int := mantissa * Power.two exponent.toNat
    some (.fraction (if negative then -size else size) (-exponent).toNat)
  | .real (.infinite negative) => some (if negative then .lowest else .highest)
  | .real .nan => none

def lt (a b : Number) : Bool :=
  match position? a, position? b with
  | some p, some q => p.lt q
  | _, _ => false

/-- At least as large; a value that is not a number is never so. -/
def ge (a b : Number) : Bool :=
  match position? a, position? b with
  | some p, some q => !p.lt q
  | _, _ => false

def isZero : Number → Bool
  | .int n => n == 0
  | .real (.finite _ mantissa _) => mantissa == 0
  | .real _ => false

def toDouble : Number → Except OutOfRange Double
  | .int n =>
    match Double.ofRatio (n < 0) n.natAbs 1 with
    | .infinite _ => .error .tooLargeForDouble
    | double => .ok double
  | .real double => .ok double

/-- Two integers have an exact sum. -/
def add : Number → Number → Except OutOfRange Number
  | .int a, .int b => .ok (.int (a + b))
  | a, b => do return .real (Double.add (← toDouble a) (← toDouble b))

def sub : Number → Number → Except OutOfRange Number
  | .int a, .int b => .ok (.int (a - b))
  | a, b => do return .real (Double.sub (← toDouble a) (← toDouble b))

def isPositive : Number → Bool
  | .int n => 0 < n
  | .real double => double.isPositive

/-- What is not a number is neither positive nor at most zero. -/
def isAtMostZero : Number → Bool
  | .int n => n ≤ 0
  | .real double => double.isAtMostZero

/-- Two integers have an exact product. -/
def mul : Number → Number → Except OutOfRange Number
  | .int a, .int b => .ok (.int (a * b))
  | a, b => do return .real (Double.mul (← toDouble a) (← toDouble b))

def hundred : Double := Double.ofRatio false 100 1

def timesHundred (a : Number) : Except OutOfRange Double := do
  return Double.mul (← toDouble a) hundred

def divDouble (a : Double) (b : Number) : Except OutOfRange Double := do
  return Double.div a (← toDouble b)

def overHundred (a : Number) : Except OutOfRange Double := do
  return Double.div (← toDouble a) hundred

/-- The integer that a finite double stands for, if it is one. -/
def wholeDouble? : Double → Option Int
  | .finite negative mantissa exponent =>
    let size := mantissa * Power.two exponent.toNat
    let unit := Power.two (-exponent).toNat
    if size % unit = 0 then
      let n : Int := (size / unit : Nat)
      some (if negative then -n else n)
    else none
  | _ => none

/-- The integer that a number stands for. One too large for a double is refused here too. -/
def whole? : Number → Except OutOfRange (Option Int)
  | .int n => do
    let _ ← toDouble (.int n)
    return some n
  | .real double => .ok (wholeDouble? double)

/-- A finite double without its fraction. -/
def truncate : Double → Except OutOfRange Int
  | .finite negative mantissa exponent =>
    let n : Int := (mantissa * Power.two exponent.toNat / Power.two (-exponent).toNat : Nat)
    .ok (if negative then -n else n)
  | .infinite _ => .error .infinityAsInteger
  | .nan => .error .nanAsInteger

end Number
end ServiceProbe
