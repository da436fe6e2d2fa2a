import ServiceProbe.Service.Basic
import ServiceProbe.StatusPage
/-!
Apache: busy and idle workers and the totals on its status page.
-/
namespace ServiceProbe.Service.Apache

/-- Labels on the status page and the metrics for them. -/
def counters : List (Text × Text) :=
  [("Total Accesses", "total_accesses"), ("Total kBytes", "total_kbytes"),
    ("ReqPerSec", "req_per_sec"), ("BytesPerSec", "bytes_per_sec")]

def whole (n : Nat) : Number := .int n

/-- A counter that is not on the page has no metric. -/
def counterMetric? (page : Text) (counter : Text × Text) :
    Except OutOfRange (Option Text) := do
  match ← StatusPage.counter? page counter.1 with
  | some n => some <$> Metric.token counter.2 (whole n)
  | none => return none

def counterMetrics (page : Text) : Except OutOfRange (List Text) := do
  return (← counters.mapM (counterMetric? page)).filterMap id

def workers (busy idle : Nat) (levels : Levels) (metrics : List Text) :
    Except OutOfRange CheckResult := do
  let load : Measurement :=
    { value := whole busy
      label := "Busy workers"
      levels
      direction := .upper
      metric := some "busy_workers"
      total := some (whole (busy + idle)) }
  let busyResult ← load.check
  let idleToken ← Metric.token "idle_workers" (whole idle)
  return CheckResult.combine
    [busyResult, { message := "Idle workers: " ++ Text.ofNat idle, metrics := [idleToken] },
      { metrics }]

def judgePage (page : Text) (levels : Levels) : Except OutOfRange CheckResult := do
  let busy ← StatusPage.counter? page "BusyWorkers"
  let idle ← StatusPage.counter? page "IdleWorkers"
  let metrics ← counterMetrics page
  match busy, idle with
  | some busy, some idle => workers busy idle levels metrics
  | _, _ => return { message := "Server is responding", metrics }

def judge (options : Probe.Options) (response : Http.Response) :
    Except OutOfRange CheckResult :=
  if isUsable response then judgePage response.body options.levels
  else .ok (unusable response "server-status")

def urlOption : Probe.ProbeOption where
  names := ["--url"]
  takes := Probe.Offer.text .url .url "URL"
  help := "Path of the status page (default: /server-status?auto)"

end Apache

def apache : Service where
  title := "Apache"
  offer :=
    { program := "check_apache"
      description := "check_apache - Monitor an Apache web server through mod_status"
      defaults := { port := 80 }
      own := [Apache.urlOption]
      measured := some "the number of busy workers" }
  path := (·.url)
  judge := Apache.judge

end ServiceProbe.Service
