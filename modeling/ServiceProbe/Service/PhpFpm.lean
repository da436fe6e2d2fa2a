import ServiceProbe.Service.Basic
import ServiceProbe.StatusPage
/-!
PHP-FPM: the process counters on the status page of a pool, or an answer to a ping.
-/
namespace ServiceProbe.Service.PhpFpm

def active : Text := "active processes"
def idle : Text := "idle processes"
def childrenLimit : Text := "max children reached"

def counters : List Text :=
  [active, idle, "total processes", "max active processes", childrenLimit]

/-- A metric is named like its counter, without blanks. -/
def metricName (label : Text) : Text := label.map fun c => if c = ' ' then '_' else c

def judgePing (body : Text) : CheckResult :=
  if (body.leftmost? (Text.after? "pong")).isSome then { message := "Ping successful" }
  else { state := .critical, message := "Ping failed" }

/-- A counter of the page with its label, where the page has it. -/
abbrev Counter := Text × Option Nat

def readCounter (page label : Text) : Except OutOfRange Counter := do
  return (label, ← StatusPage.counter? page label)

def counterMetric? : Counter → Except OutOfRange (Option Text)
  | (label, some n) => some <$> Metric.token (metricName label) (.int n)
  | (_, none) => .ok none

def find? (found : List Counter) (label : Text) : Option Nat :=
  (List.find? (fun counter => counter.1 == label) found).bind (·.2)

def processesText (found : List Counter) : Text :=
  match find? found active, find? found idle with
  | some active, some idle =>
    Text.ofNat active ++ " active, " ++ Text.ofNat idle ++ " idle processes"
  | _, _ => "Status page is responding"

/-- A pool that ran out of processes is worth a warning. -/
def judgeStatus (page : Text) : Except OutOfRange CheckResult := do
  let found ← counters.mapM (readCounter page)
  let metrics := (← found.mapM counterMetric?).filterMap id
  let message := processesText found
  match find? found childrenLimit with
  | some (n + 1) =>
    let limit := "max children reached " ++ Text.ofNat (n + 1) ++ " times"
    return { state := .warning, message := message ++ ", " ++ State.mark limit .warning, metrics }
  | _ => return { message, metrics }

def judge (options : Probe.Options) (response : Http.Response) :
    Except OutOfRange CheckResult :=
  if isUsable response then
    if options.ping then .ok (judgePing response.body) else judgeStatus response.body
  else .ok (unusable response (if options.ping then "ping page" else "status page"))

def options : List Probe.ProbeOption :=
  [{ names := ["--ping"]
     takes := .nothing .ping
     help := "Only check that the ping page answers with 'pong'" },
   { names := ["--status-path"]
     takes := Probe.Offer.text .statusPath .statusPath "STATUS_PATH"
     help := "Path of the status page (default: /status)" },
   { names := ["--ping-path"]
     takes := Probe.Offer.text .pingPath .pingPath "PING_PATH"
     help := "Path of the ping page (default: /ping)" }]

end PhpFpm

def phpFpm : Service where
  title := "PHP-FPM"
  offer :=
    { program := "check_phpfpm"
      description := "check_phpfpm - Monitor a PHP-FPM pool through its status and ping pages"
      defaults := { port := 80 }
      own := PhpFpm.options }
  path := fun options => if options.ping then options.pingPath else options.statusPath
  judge := PhpFpm.judge

end ServiceProbe.Service
