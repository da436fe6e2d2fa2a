import ServiceProbe.Proofs.Verdict
/-!
Runs that heard from their peer. What a service makes of the response is what the run reports.
-/
namespace ServiceProbe.Service

open Transport (Replies requestedPath)
open Http (Response)

variable {service : Service} {tls : Capability} {replies : Replies} {files : Files}
  {words : List Text} {options : Probe.Options} {response : Response}

/-- A check that asked comes to what the service makes of the response. -/
theorem check_heard {wire : Wire}
    (exchanged : wire ∈ (service.check files (.scripted tls replies) options).journal.exchanges)
    (replied : Response.ofReply (replies.find (requestedPath wire.payload)) = .ok response) :
    (service.check files (.scripted tls replies) options).outcome =
      Fault.ofNumber (service.judge options response) := by
  -- A run that could not build its request would not have asked.
  cases built : options.request files (service.path options) with
  | error fault =>
    rw [check_refused built] at exchanged
    cases exchanged
  | ok request =>
    obtain ⟨only, answered⟩ := @check_scripted service files tls replies _ request built
    rw [only, List.mem_singleton] at exchanged
    rw [answered, ← exchanged, Service.judged, replied]
    rfl

theorem usable_of_body (answered : response.status = 200) (some : response.body ≠ []) :
    isUsable response = true := by
  simp [isUsable, Response.failed, answered, some]

/-- A run with accepted options asked its peer, and this is the response that it heard. -/
structure Hears (service : Service) (tls : Capability) (replies : Replies) (files : Files)
    (words : List Text) (options : Probe.Options) (response : Response) : Prop where
  accepted : service.offer.parse words = .ok options
  fit : service.offer.rejections options = []
  heard : ∃ wire ∈ (service.probe.run files (.scripted tls replies) words).journal.exchanges,
    Response.ofReply (replies.find (requestedPath wire.payload)) = .ok response

/-- A run that asks at all hears the one reply that there is. -/
theorem hears_of_bytes {raw : Bytes} (accepted : service.offer.parse words = .ok options)
    (fit : service.offer.rejections options = [])
    (asks : (service.probe.run files (.scripted tls { otherwise := some (.bytes raw) })
      words).journal.exchanges ≠ []) :
    service.Hears tls { otherwise := some (.bytes raw) } files words options (.parse raw) := by
  obtain ⟨wire, exchanged⟩ := List.exists_mem_of_ne_nil _ asks
  exact ⟨accepted, fit, wire, exchanged, rfl⟩

theorem Hears.checked (hears : service.Hears tls replies files words options response) :
    (service.check files (.scripted tls replies) (options.fitFor tls)).outcome =
      Fault.ofNumber (service.judge (options.fitFor tls) response) := by
  obtain ⟨wire, exchanged, replied⟩ := hears.heard
  have asked : (service.probe.run files (.scripted tls replies) words).journal.exchanges =
      (service.check files (.scripted tls replies) (options.fitFor tls)).journal.exchanges :=
    @Probe.run_exchanges service.probe files (.scripted tls replies) words options hears.accepted
      hears.fit
  rw [asked] at exchanged
  exact check_heard exchanged replied

/-- What the service makes of the response is reported, in debug mode as well. -/
theorem Hears.returns (hears : service.Hears tls replies files words options response)
    {result : CheckResult} (judged : service.judge (options.fitFor tls) response = .ok result) :
    Probe.Returns (service.probe.run files (.scripted tls replies) words) result := by
  have quiet (options : Probe.Options) :
      (service.probe.check files (.scripted tls replies) options).Silent :=
    check_silent service files (Transport.scripted_silent tls replies) options
  have found : (service.check files (.scripted tls replies) (options.fitFor tls)).outcome =
      .ok result := by
    rw [hears.checked, judged]
    rfl
  exact @Probe.run_returns service.probe files (.scripted tls replies) words options hears.accepted
    hears.fit quiet result found

end ServiceProbe.Service
