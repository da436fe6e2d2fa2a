import ServiceProbe.Probe.Run
/-!
A monitored service: where its probe asks, and what a reply says about it. The probe of a service
makes one request, and all that follows depends on the reply alone.
-/
namespace ServiceProbe

structure Service where
  title : Text
  offer : Probe.Offer
  path : Probe.Options → Text
  judge : Probe.Options → Http.Response → Except OutOfRange CheckResult

namespace Service

def unusable (response : Http.Response) (what : Text) : CheckResult :=
  let status := Text.ofInt response.status
  let message : Text :=
    if response.status = 0 then
      let reason := match response.error with
        | some (c :: rest) => c :: rest
        | _ => "no response".toList
      "Cannot connect to " ++ what ++ ": " ++ reason
    else if response.body.isEmpty then
      "Empty response from " ++ what ++ " (HTTP " ++ status ++ ")"
    else "Unexpected response from " ++ what ++ " (HTTP " ++ status ++ ")"
  { state := .critical, message }

/-- A reply with status 200 and a body. -/
def isUsable (response : Http.Response) : Bool := !response.failed && response.status == 200

def check (service : Service) (files : Files) (transport : Transport) (options : Probe.Options) :
    Run CheckResult := do
  let request ← Run.ofExcept (options.request files (service.path options))
  let response ← Http.get transport request
  Run.ofExcept (Fault.ofNumber (service.judge options response))

def probe (service : Service) : Probe where
  title := service.title
  offer := service.offer
  check := service.check

end Service
end ServiceProbe
