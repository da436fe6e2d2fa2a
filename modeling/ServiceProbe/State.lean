import ServiceProbe.Text.Basic
/-!
Service states, their exit codes and their markers. How bad a state is does not follow the exit
codes: not knowing is worse than a warning and better than a critical state.
-/
namespace ServiceProbe

inductive State where
  | ok
  | warning
  | critical
  | unknown
  deriving DecidableEq, Repr

namespace State

def code : State → Nat
  | .ok => 0
  | .warning => 1
  | .critical => 2
  | .unknown => 3

def ofCode? : Int → Option State
  | 0 => some .ok
  | 1 => some .warning
  | 2 => some .critical
  | 3 => some .unknown
  | _ => none

def name : State → Text
  | .ok => "OK"
  | .warning => "WARNING"
  | .critical => "CRITICAL"
  | .unknown => "UNKNOWN"

def badness : State → Nat
  | .ok => 0
  | .warning => 1
  | .unknown => 2
  | .critical => 3

def worse (a b : State) : State := if a.badness < b.badness then b else a

/-- The worst of some states; `fallback` is the answer for none. -/
def worst (fallback : State) : List State → State
  | [] => fallback
  | first :: rest => rest.foldl worse first

/-- Stands behind a message that is part of a longer one. -/
def marker : State → Text
  | .ok => ""
  | .warning => "(!)"
  | .critical => "(!!)"
  | .unknown => "(?)"

/-- A marker is never doubled. -/
def mark (text : Text) (state : State) : Text :=
  if text.endsWith state.marker then text else text ++ state.marker

end State
end ServiceProbe
