import ServiceProbe.CheckResult
import ServiceProbe.Metric
import ServiceProbe.Number.Numeral
/-!
Warning and critical levels. A value is held against the critical level first, then against the
warning level; the first one breached decides.
-/
namespace ServiceProbe

/-- Which side of a level is bad. -/
inductive Direction where
  /-- A value below the level is bad. -/
  | lower
  /-- A value at the level or above is bad. -/
  | upper
  deriving DecidableEq, Repr

structure Bound where
  value : Number
  percent : Bool := false
  deriving DecidableEq, Repr

namespace Bound

/-- The total that a percentage refers to. One of zero is none. -/
def reference? (bound : Bound) (total : Option Number) : Option Number :=
  if bound.percent then total.filter (!·.isZero) else none

/-- The value on the scale of the level: with a total, its share of it in percent. -/
def measured (bound : Bound) (total : Option Number) (value : Number) :
    Except OutOfRange Number :=
  match bound.reference? total with
  | some total => do return .real (← Number.divDouble (← value.timesHundred) total)
  | none => .ok value

def isBreached (bound : Bound) (direction : Direction) (total : Option Number) (value : Number) :
    Except OutOfRange Bool := do
  let value ← bound.measured total value
  return match direction with
    | .lower => value.lt bound.value
    | .upper => value.ge bound.value

/-- The level in the unit of the measured value. -/
def absolute (bound : Bound) (total : Option Number) : Except OutOfRange Number :=
  match bound.reference? total with
  | some total => do return .real (← (← bound.value.mul total).overHundred)
  | none => .ok bound.value

def text (bound : Bound) : Except OutOfRange Text := do
  let value ← bound.value.toDouble
  return Decimal.general value ++ if bound.percent then ['%'] else []

/-- Reads a level: a number without exponent, and a percent sign for a percentage. -/
def parse? (text : Text) : Option Bound := do
  let (sign, body) := Numeral.takeSignText (Text.skipBlanks text)
  let (mantissa, rest) ← Numeral.plainMantissa? body
  let value ← Numeral.readDouble? (sign ++ mantissa)
  match Text.skipBlanks rest with
  | [] => some ⟨.real value, false⟩
  | '%' :: behind => if (Text.skipBlanks behind).isEmpty then some ⟨.real value, true⟩ else none
  | _ => none

end Bound

structure Levels where
  warn : Option Bound := none
  crit : Option Bound := none
  deriving DecidableEq, Repr

namespace Levels

def ofValues (warn crit : Option Number) : Levels := ⟨warn.map (⟨·, false⟩), crit.map (⟨·, false⟩)⟩

def isEmpty (levels : Levels) : Bool := levels.warn.isNone && levels.crit.isNone

/-- A level that is not set is not breached. -/
def breached (bound : Option Bound) (direction : Direction) (total : Option Number)
    (value : Number) : Except OutOfRange Bool :=
  match bound with
  | some bound => bound.isBreached direction total value
  | none => .ok false

def evaluate (levels : Levels) (direction : Direction) (total : Option Number) (value : Number) :
    Except OutOfRange State := do
  if ← breached levels.crit direction total value then return .critical
  if ← breached levels.warn direction total value then return .warning
  return .ok

end Levels

namespace Measurement

/-- Whole numbers without a point, others with two places. -/
def valueText (value : Number) : Except OutOfRange Text := do
  match ← value.whole?, value with
  | some n, _ => return Text.ofInt n
  | none, .real double => return Decimal.fixed 2 double
  | none, .int n => return Text.ofInt n

def boundText : Option Bound → Except OutOfRange Text
  | none => .ok ['-']
  | some bound => bound.text

def directionText : Direction → Text
  | .lower => "below"
  | .upper => "at"

/-- Names both levels behind a value that breaches one. -/
def levelsText (levels : Levels) (direction : Direction) : Except OutOfRange Text := do
  let warn ← boundText levels.warn
  let crit ← boundText levels.crit
  return " (warn/crit " ++ directionText direction ++ " " ++ warn ++ "/" ++ crit ++ ")"

def absolute? (total : Option Number) : Option Bound → Except OutOfRange (Option Number)
  | none => .ok none
  | some bound => some <$> bound.absolute total

end Measurement

/-- A measured value with what is needed to judge and to show it. -/
structure Measurement where
  value : Number
  label : Text
  levels : Levels := {}
  direction : Direction
  metric : Option Text := none
  unit : Text := []
  total : Option Number := none
  boundaries : NumberPair := (none, none)

namespace Measurement

def state (m : Measurement) : Except OutOfRange State :=
  m.levels.evaluate m.direction m.total m.value

def message (m : Measurement) (state : State) : Except OutOfRange Text := do
  let text := m.label ++ ": " ++ (← valueText m.value) ++ m.unit
  if state = .ok then return text
  else return State.mark (text ++ (← levelsText m.levels m.direction)) state

def metrics (m : Measurement) : Except OutOfRange (List Text) :=
  match m.metric with
  | none => .ok []
  | some name => do
    let warn ← absolute? m.total m.levels.warn
    let crit ← absolute? m.total m.levels.crit
    return [← Metric.token name m.value m.unit (warn, crit) m.boundaries]

def check (m : Measurement) : Except OutOfRange CheckResult := do
  let state ← m.state
  let message ← m.message state
  let metrics ← m.metrics
  return { state, message, metrics }

end Measurement
end ServiceProbe
