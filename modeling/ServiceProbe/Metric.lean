import ServiceProbe.Number.Decimal
/-!
Performance data: one token per metric, `name=value[unit][;warn;crit[;min;max]]`. An empty place
at the end is left out.
-/
namespace ServiceProbe

/-- Two optional numbers that belong together: the two levels, or minimum and maximum. -/
abbrev NumberPair := Option Number × Option Number

namespace Metric

/-- Whole numbers without a point, others with at most seven places. -/
def number (value : Number) : Except OutOfRange Text := do
  match ← value.whole?, value with
  | some n, _ => return Text.ofInt n
  | none, .real double => return Decimal.dropTrailingZeros (Decimal.fixed 7 double)
  | none, .int n => return Text.ofInt n

def place : Option Number → Except OutOfRange Text
  | none => .ok []
  | some value => number value

/-- A name with a blank or an equals sign stands in quotes. -/
def label (name : Text) : Text :=
  if name.contains ' ' || name.contains '=' then '\'' :: name ++ ['\''] else name

/-- Leaves out empty places at the end. -/
def dropEmptyEnd (places : List Text) : List Text :=
  (places.reverse.dropWhile List.isEmpty).reverse

/-- A metric without a value has its unit alone. -/
def tokenOf (name : Text) (value : Option Number) (unit : Text) (levels boundaries : NumberPair) :
    Except OutOfRange Text := do
  let measured ← place value
  let places ← [levels.1, levels.2, boundaries.1, boundaries.2].mapM place
  return label name ++ '=' :: List.intercalate [';'] ((measured ++ unit) :: dropEmptyEnd places)

def token (name : Text) (value : Number) (unit : Text := []) (levels : NumberPair := (none, none))
    (boundaries : NumberPair := (none, none)) : Except OutOfRange Text :=
  tokenOf name (some value) unit levels boundaries

end Metric
end ServiceProbe
