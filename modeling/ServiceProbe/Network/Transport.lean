import ServiceProbe.Network.Exchange
import ServiceProbe.Transport
/-!
The transport over a scripted network, and what it can say about TLS.
-/
namespace ServiceProbe

namespace Capability

def unavailable (reason : Text) : Capability := ⟨false, reason⟩

/-- There is TLS if there is a library for it. -/
def detect (script : Network.Script) : Capability :=
  match script.tlsMissing with
  | some reason => unavailable ("Python was built without TLS support (" ++ reason ++ ")")
  | none => ⟨true, Network.tlsLibrary⟩

def describe (capability : Capability) : Text :=
  "TLSCapability(available=" ++ (if capability.available then "True" else "False" : Text)
    ++ ", reason=" ++ Text.quoted capability.reason ++ ")"

end Capability

namespace Transport

def tcp (script : Network.Script) : Transport where
  tls := .detect script
  exchange wire := do
    Run.note (.exchange wire)
    (Network.exchange script wire).run

/-- A transport as it shows itself, by its capability. -/
def describe (tls : Capability) : Text := "TCPTransport(tls=" ++ tls.describe ++ ")"

end Transport
end ServiceProbe
