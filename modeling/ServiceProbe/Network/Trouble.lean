import ServiceProbe.Text.Basic
/-!
Errors of the operating system and of the TLS library, as network calls meet them.
-/
namespace ServiceProbe.Network

inductive Trouble where
  | system (number : Int) (text : Text)
  | lookup (number : Int) (text : Text)
  | tls (text : Text)
  | timeout (text : Text)
  /-- A name that cannot be encoded. It is no error of the operating system. -/
  | encoding (text : Text)
  deriving DecidableEq, Repr

namespace Trouble

/-- The number of the system error for a connection that timed out. -/
def timedOutNumber : Int := 110

def numbered (number : Int) (text : Text) : Text := "[Errno " ++ Text.ofInt number ++ "] " ++ text

def message : Trouble → Text
  | .system number text => numbered number text
  | .lookup number text => numbered number text
  | .tls text => text
  | .timeout text => text
  | .encoding text => text

def isSystem : Trouble → Bool
  | .encoding _ => false
  | _ => true

def isTimeout : Trouble → Bool
  | .timeout _ => true
  | .system number _ => number == timedOutNumber
  | _ => false

end Trouble
end ServiceProbe.Network
