import ServiceProbe.Http.Client
import ServiceProbe.Probe.CommandLine
import ServiceProbe.CheckResult
/-!
A run of a probe: read the command line, check, print exactly one status line. A fault ends in the
state unknown, or is let through in debug mode.
-/
namespace ServiceProbe

/-- What a probe offers, and its check. -/
structure Probe where
  title : Text
  offer : Probe.Offer
  check : Files → Transport → Probe.Options → Run CheckResult

namespace Probe

/-- Where the run itself logs. -/
def logSource : Text := Log.root

/-- How a command line was taken. -/
inductive Reading where
  | accepted (options : Options)
  /-- The run is over, with an exit code. -/
  | left (code : Nat)

/-- How a run ended. -/
inductive Ending where
  | returned (code : Nat)
  /-- The run ended while the command line was read. -/
  | left (code : Nat)
  deriving DecidableEq, Repr

def report (result : CheckResult) : Run Unit := Run.note (.output (result.statusLine ++ ['\n']))

def unknown (message : Text) : CheckResult := { state := .unknown, message }

/-- The name under which refused options are reported. -/
def modelName : Text := "Args"

/-- A command line that cannot be read ends in the usage text and a status line. A help text that
cannot be written is a fault. -/
def Offer.read (offer : Offer) (words : List Text) : Run Reading :=
  match offer.parse words with
  | .error .help =>
    match offer.helpText with
    | .ok text => do
      Run.note (.output text)
      return .left 0
    | .error cause => Run.throw (.template cause)
  | .error (.usage error) => do
    Run.note (.remark offer.usage)
    report (unknown (offer.program ++ ": " ++ error.message))
    return .left State.unknown.code
  | .ok options =>
    match offer.rejections options with
    | [] => return .accepted options
    | rejections => Run.throw (.rejected modelName rejections)

def failedText (title message : Text) : Text := title ++ " check failed: " ++ message

def invalidText (rejections : List Rejection) : Text :=
  List.intercalate "; " (rejections.map Rejection.invalidText)

/-- The word that lets refused options through as a fault. -/
def debugWord : Text := "--debug"

/-- Falls back to plain HTTP where TLS is asked for and missing. -/
def prepare (program : Text) (transport : Transport) (options : Options) : Run Options := do
  let (tls, port) ← Fallback.toPlain program options.tls options.port transport.tls
  return { options with tls, port }

def ofFault (probe : Probe) (options : Options) (fault : Fault) : Run CheckResult :=
  if fault.isBailOut then return unknown fault.message
  else if options.debug then Run.throw fault
  else do
    Run.record logSource Log.debug (probe.offer.program ++ " failed") true
    return unknown (failedText probe.title fault.message)

def checked (probe : Probe) (files : Files) (transport : Transport) (options : Options) :
    Run CheckResult :=
  let attempt : Run CheckResult := do
    probe.check files transport (← prepare probe.offer.program transport options)
  attempt.orElse (probe.ofFault options)

def finish (result : CheckResult) : Run Ending := do
  report result
  return .returned result.state.code

def runWith (probe : Probe) (files : Files) (transport : Transport) (options : Options) :
    Run Ending := do
  Run.note (.setUpLog options.verbosity)
  finish (← probe.checked files transport options)

/-- Refused options are a result too, unless the word for debug mode stands on the command line. -/
def onRejection (probe : Probe) (words : List Text) : Fault → Run Ending
  | .rejected model rejections =>
    if words.contains debugWord then Run.throw (.rejected model rejections)
    else finish (unknown (failedText probe.title (invalidText rejections)))
  | fault => Run.throw fault

def run (probe : Probe) (files : Files) (transport : Transport) (words : List Text) :
    Run Ending :=
  let reading := probe.offer.read words
  match reading.outcome with
  | .error fault => ⟨reading.journal, .ok ()⟩ >>= fun () => probe.onRejection words fault
  | .ok (.left code) => ⟨reading.journal, .ok (.left code)⟩
  | .ok (.accepted options) =>
    ⟨reading.journal, .ok ()⟩ >>= fun () => probe.runWith files transport options

end Probe
end ServiceProbe
