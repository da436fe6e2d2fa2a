import ServiceProbe.Bytes.Utf8
import ServiceProbe.Number.Shortest
/-!
What is handed to a transport: the peer, the bytes to send, how long it may take and whether TLS
protects it.
-/
namespace ServiceProbe

structure Wire where
  host : Text
  port : Int
  payload : Bytes
  timeout : Number
  tls : Bool
  deriving DecidableEq, Repr

/-- Whether TLS can be spoken. `reason` says why not, or which library speaks it. -/
structure Capability where
  available : Bool
  reason : Text := []
  deriving DecidableEq, Repr

end ServiceProbe
