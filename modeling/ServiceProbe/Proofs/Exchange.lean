import ServiceProbe.Proofs.Report
import ServiceProbe.Proofs.Spoken
/-!
The one exchange of a run. A run with accepted options either gives up before it asks, or asks once,
and then the reply alone decides what is reported.
-/
namespace ServiceProbe

open Transport (Reply Replies requestedPath)

/-- What a scripted reply is to the one who waits for it. -/
def Transport.Reply.received : Reply → Except Fault Bytes
  | .bytes raw => .ok raw
  | .failure family message => .error (.reported family message)

theorem Transport.scripted_exchange (tls : Capability) (replies : Replies) (wire : Wire) :
    (scripted tls replies).exchange wire =
      ⟨[.exchange wire], (replies.find (requestedPath wire.payload)).received⟩ := by
  cases found : replies.find (requestedPath wire.payload) <;>
    simp [scripted, found, Reply.received, Run.throw]

namespace Http

/-- A reply as a response, unless the failure is not one of the transport. -/
def Response.ofReply : Reply → Except Fault Response
  | .bytes raw => .ok (.parse raw)
  | .failure family message =>
    if family.isTransport then .ok (.ofError message) else .error (.reported family message)

variable {α : Type} [Letter α] {tls : Capability} {replies : Replies} {transport : Transport}

theorem receive_scripted (request : Request) (wire : Wire) :
    (receive request ((Transport.scripted tls replies).exchange wire)).journal.exchanges = [wire] ∧
      (receive request ((Transport.scripted tls replies).exchange wire)).outcome =
        Response.ofReply (replies.find (requestedPath wire.payload)) := by
  rw [Transport.scripted_exchange]
  cases replies.find (requestedPath wire.payload) with
  | bytes raw =>
    have answered : (⟨[.exchange wire], (Reply.bytes raw).received⟩ : Run Bytes).outcome = .ok raw :=
      rfl
    unfold receive
    dsimp only
    rw [Run.bind_ok answered, Run.orElse_ok rfl]
    exact ⟨rfl, rfl⟩
  | failure family message =>
    have failed : (⟨[.exchange wire], (Reply.failure family message).received⟩ : Run Bytes).outcome =
        .error (.reported family message) := rfl
    unfold receive
    dsimp only
    rw [Run.bind_error failed, Run.orElse_error rfl]
    have transport : (Fault.reported family message).isTransport = family.isTransport := rfl
    rw [transport]
    unfold Response.ofReply
    dsimp only
    split <;> exact ⟨rfl, rfl⟩

theorem send_written {request : Request α} {payload : Bytes} (written : request.payload = .ok payload)
    (transport : Transport) : send transport request = transport.exchange (request.carrying payload) := by
  rw [send, written, Run.ofExcept_ok_bind]

theorem send_unwritten {request : Request α} {fault : Fault} (unwritten : request.payload = .error fault)
    (transport : Transport) : send transport request = ⟨[], .error fault⟩ := by
  rw [send, unwritten, Run.ofExcept_error_bind]
  rfl

theorem send_text (transport : Transport) (request : Request) :
    send transport request = transport.exchange request.wire :=
  send_written request.payload_text transport

/-- A request as it is sent where TLS is wanted and missing. -/
def Request.fitFor (request : Request α) (capability : Capability) : Request α :=
  if request.tls && !capability.available then { request with tls := false } else request

theorem withoutMissingTls_outcome (transport : Transport) (request : Request α) :
    (withoutMissingTls transport request).outcome = .ok (request.fitFor transport.tls) := by
  unfold withoutMissingTls Request.fitFor
  split <;> rfl

/-- What the transport brings is the response. -/
theorem get_ok {request : Request α} {raw : Bytes}
    (received : (send transport (request.fitFor transport.tls)).outcome = .ok raw) :
    (get transport request).outcome = .ok (.parse raw) := by
  rw [get, Run.bind_ok (withoutMissingTls_outcome transport request)]
  show (receive _ _).outcome = _
  rw [receive, Run.bind_ok received, Run.orElse_ok rfl]
  rfl

/-- What keeps the transport from bringing anything is told by a response. -/
theorem get_error {request : Request α} {fault : Fault}
    (failed : (send transport (request.fitFor transport.tls)).outcome = .error fault)
    (family : fault.isTransport = true) :
    (get transport request).outcome = .ok (.ofError fault.message) := by
  rw [get, Run.bind_ok (withoutMissingTls_outcome transport request)]
  show (receive _ _).outcome = _
  rw [receive, Run.bind_error failed, Run.orElse_error rfl, if_pos family]
  rfl

/-- Any other fault goes on as it is. -/
theorem get_fault {request : Request α} {fault : Fault}
    (failed : (send transport (request.fitFor transport.tls)).outcome = .error fault)
    (other : fault.isTransport = false) : (get transport request).outcome = .error fault := by
  rw [get, Run.bind_ok (withoutMissingTls_outcome transport request)]
  show (receive _ _).outcome = _
  rw [receive, Run.bind_error failed, Run.orElse_error rfl, if_neg (by simp [other])]
  rfl

theorem withoutMissingTls_exchanges (transport : Transport) (request : Request α) :
    (withoutMissingTls transport request).journal.exchanges = [] := by
  unfold withoutMissingTls
  split <;> rfl

/-- A request that cannot be written is not sent. -/
theorem get_unwritten {request : Request α} {failure : Utf8.Unencodable}
    (unwritten : (request.fitFor transport.tls).payload = .error (.unencodable failure)) :
    (get transport request).outcome = .error (.unencodable failure) ∧
      (get transport request).journal.exchanges = [] := by
  have unsent := send_unwritten unwritten transport
  refine ⟨get_fault (by rw [unsent]) rfl, ?_⟩
  rw [get, Run.bind_ok (withoutMissingTls_outcome transport request), Journal.exchanges_append,
    withoutMissingTls_exchanges, unsent]
  rfl

/-- One request is one exchange. -/
theorem get_scripted (tls : Capability) (replies : Replies) (request : Request) :
    let wire := (request.fitFor tls).wire
    (get (.scripted tls replies) request).journal.exchanges = [wire] ∧
      (get (.scripted tls replies) request).outcome =
        Response.ofReply (replies.find (requestedPath wire.payload)) := by
  rw [get, Run.bind_ok (withoutMissingTls_outcome (.scripted tls replies) request),
    Journal.exchanges_append, withoutMissingTls_exchanges, send_text]
  exact receive_scripted (request.fitFor tls) _

end Http

namespace Probe

/-- Options as they are where TLS is wanted and missing. -/
def Options.fitFor (options : Options) (capability : Capability) : Options :=
  if !options.tls || capability.available then options
  else { options with tls := false, port := Fallback.plainPort options.port }

theorem prepare_outcome (program : Text) (transport : Transport) (options : Options) :
    (prepare program transport options).outcome = .ok (options.fitFor transport.tls) := by
  unfold prepare Fallback.toPlain Options.fitFor
  split <;> rfl

theorem prepare_exchanges (program : Text) (transport : Transport) (options : Options) :
    (prepare program transport options).journal.exchanges = [] := by
  unfold prepare Fallback.toPlain
  split <;> rfl

variable {probe : Probe} {files : Files} {transport : Transport} {words : List Text}
  {options : Options}

theorem attempt_exchanges :
    (probe.attempt files transport options).journal.exchanges =
      (probe.check files transport (options.fitFor transport.tls)).journal.exchanges := by
  unfold attempt
  rw [Run.bind_ok (prepare_outcome _ _ _), Journal.exchanges_append, prepare_exchanges]
  rfl

theorem attempt_outcome :
    (probe.attempt files transport options).outcome =
      (probe.check files transport (options.fitFor transport.tls)).outcome := by
  unfold attempt
  rw [Run.bind_ok (prepare_outcome _ _ _)]

theorem ofFault_exchanges (probe : Probe) (options : Options) (fault : Fault) :
    (probe.ofFault options fault).journal.exchanges = [] := by
  unfold ofFault
  split
  · rfl
  split <;> rfl

theorem checked_exchanges :
    (probe.checked files transport options).journal.exchanges =
      (probe.check files transport (options.fitFor transport.tls)).journal.exchanges := by
  have checked_eq : probe.checked files transport options =
      (probe.attempt files transport options).orElse (probe.ofFault options) := rfl
  -- Nothing is exchanged by the fall-back before the check, nor where its fault becomes a result.
  rw [checked_eq, ← attempt_exchanges]
  cases attempted : (probe.attempt files transport options).outcome with
  | ok result => rw [Run.orElse_ok attempted]
  | error fault =>
    rw [Run.orElse_error attempted, Journal.exchanges_append, ofFault_exchanges,
      List.append_nil]

/-- What a run with accepted options exchanges is what its check does, debug mode or not. -/
theorem run_exchanges (accepted : probe.offer.parse words = .ok options)
    (fit : probe.offer.rejections options = []) :
    (probe.run files transport words).journal.exchanges =
      (probe.check files transport (options.fitFor transport.tls)).journal.exchanges := by
  rw [run_accepted accepted fit, ← checked_exchanges]
  cases found : (probe.checked files transport options).outcome with
  | ok result =>
    rw [runWith_eq found]
    simp [Journal.exchanges]
  | error fault =>
    rw [runWith, Run.note_bind, Run.bind_error found]
    rfl

/-- A run with accepted options does what its check does and reports what that comes to. -/
theorem run_checks (accepted : probe.offer.parse words = .ok options)
    (fit : probe.offer.rejections options = []) (noDebug : options.debug = false)
    (quiet : ∀ options, (probe.check files transport options).Silent) :
    (probe.run files transport words).journal.exchanges =
        (probe.check files transport (options.fitFor transport.tls)).journal.exchanges ∧
      Returns (probe.run files transport words)
        (probe.resultOf (probe.check files transport (options.fitFor transport.tls)).outcome) := by
  have found := checked_outcome probe files transport noDebug
  rw [attempt_outcome] at found
  refine ⟨run_exchanges accepted fit, ?_⟩
  rw [run_accepted accepted fit]
  exact runWith_returns quiet found

/-- A check without a fault is reported, debug mode or not. -/
theorem run_returns (accepted : probe.offer.parse words = .ok options)
    (fit : probe.offer.rejections options = [])
    (quiet : ∀ options, (probe.check files transport options).Silent) {result : CheckResult}
    (found : (probe.check files transport (options.fitFor transport.tls)).outcome = .ok result) :
    Returns (probe.run files transport words) result := by
  have attempted : (probe.attempt files transport options).outcome = .ok result :=
    attempt_outcome.trans found
  have checked_eq : probe.checked files transport options =
      (probe.attempt files transport options).orElse (probe.ofFault options) := rfl
  rw [run_accepted accepted fit]
  apply runWith_returns quiet
  rw [checked_eq, Run.orElse_ok attempted, attempted]

end Probe

namespace Service

variable {service : Service} {files : Files} {tls : Capability} {replies : Replies}
  {options : Probe.Options}

/-- What a service makes of a reply. -/
def judged (service : Service) (options : Probe.Options) (reply : Reply) :
    Except Fault CheckResult := do
  Fault.ofNumber (service.judge options (← Http.Response.ofReply reply))

theorem check_refused {fault : Fault}
    (refused : options.request files (service.path options) = .error fault)
    (transport : Transport) : service.check files transport options = ⟨[], .error fault⟩ := by
  simp [check, refused, Run.throw]

theorem check_scripted {request : Http.Request}
    (built : options.request files (service.path options) = .ok request) :
    let wire := (request.fitFor tls).wire
    (service.check files (.scripted tls replies) options).journal.exchanges = [wire] ∧
      (service.check files (.scripted tls replies) options).outcome =
        service.judged options (replies.find (requestedPath wire.payload)) := by
  intro wire
  obtain ⟨exchanges, outcome⟩ := Http.get_scripted tls replies request
  unfold check judged
  rw [built, Run.ofExcept_ok_bind]
  cases answered : Http.Response.ofReply (replies.find (requestedPath wire.payload)) with
  | error fault =>
    rw [answered] at outcome
    rw [Run.bind_error outcome]
    exact ⟨exchanges, rfl⟩
  | ok response =>
    rw [answered] at outcome
    rw [Run.bind_ok outcome, Journal.exchanges_append, exchanges]
    exact ⟨rfl, rfl⟩

section Runs

variable {words : List Text} (accepted : service.offer.parse words = .ok options)
  (fit : service.offer.rejections options = []) (noDebug : options.debug = false)

include accepted fit noDebug

theorem run_checks :
    let asked := options.fitFor tls
    let run := service.probe.run files (.scripted tls replies) words
    run.journal.exchanges = (service.check files (.scripted tls replies) asked).journal.exchanges ∧
      Probe.Returns run (service.probe.resultOf
        (service.check files (.scripted tls replies) asked).outcome) := by
  have quiet (options : Probe.Options) :
      (service.probe.check files (.scripted tls replies) options).Silent :=
    check_silent service files (Transport.scripted_silent tls replies) options
  exact Probe.run_checks accepted fit noDebug quiet

/-- A run with accepted options gives up before it asks, or it asks once and reports what the service
makes of the reply. -/
theorem run_scripted :
    let asked := options.fitFor tls
    let run := service.probe.run files (.scripted tls replies) words
    (∃ fault, asked.request files (service.path asked) = .error fault ∧
      run.journal.exchanges = [] ∧ Probe.Returns run (service.probe.faultResult fault)) ∨
    ∃ request wire, asked.request files (service.path asked) = .ok request ∧
      run.journal.exchanges = [wire] ∧
      Probe.Returns run (service.probe.resultOf
        (service.judged asked (replies.find (requestedPath wire.payload)))) := by
  intro asked run
  have checks : run.journal.exchanges =
        (service.check files (.scripted tls replies) asked).journal.exchanges ∧
      Probe.Returns run (service.probe.resultOf
        (service.check files (.scripted tls replies) asked).outcome) :=
    run_checks accepted fit noDebug
  cases built : asked.request files (service.path asked) with
  | error fault =>
    rw [check_refused built] at checks
    exact Or.inl ⟨fault, rfl, checks⟩
  | ok request =>
    obtain ⟨only, answered⟩ := check_scripted built
    rw [only, answered] at checks
    exact Or.inr ⟨request, _, rfl, checks⟩

end Runs

end Service
end ServiceProbe
