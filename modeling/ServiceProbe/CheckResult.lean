import ServiceProbe.State
/-!
What a check found: a state, a message and metrics. It is written as one status line; results of
several items combine into one.
-/
namespace ServiceProbe

structure CheckResult where
  state : State := .ok
  message : Text := []
  metrics : List Text := []
  deriving DecidableEq, Repr

namespace CheckResult

/-- The bar parts the message from the metrics, so a bar of the message gives way to one that only
looks like it. -/
def replaceBar (text : Text) : Text := text.map fun c => if c = '|' then '❘' else c

def performanceData (result : CheckResult) : Text := List.intercalate [' '] result.metrics

def statusLine (result : CheckResult) : Text :=
  let line := result.state.name ++ ": " ++ replaceBar result.message
  if result.metrics.isEmpty then line else line ++ " | " ++ result.performanceData

/-- The message as a part of a longer one; an empty one has none. -/
def part? (result : CheckResult) : Option Text :=
  if result.message.isEmpty then none else some (State.mark result.message result.state)

/-- The worst state, all messages with their markers, all metrics. -/
def combine (results : List CheckResult) : CheckResult where
  state := State.worst .ok (results.map (·.state))
  message := List.intercalate ", " (results.filterMap part?)
  metrics := results.flatMap (·.metrics)

end CheckResult
end ServiceProbe
