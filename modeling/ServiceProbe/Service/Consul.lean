import ServiceProbe.Field
import ServiceProbe.Service.Basic
/-!
Consul: health checks, leader, members and services of a cluster.
-/
namespace ServiceProbe.Service.Consul

def path : Probe.Subject → Text
  | .leader => "/v1/status/leader"
  | .members => "/v1/agent/members"
  | .services => "/v1/agent/services"
  | _ => "/v1/health/state/any"

/-- How many times a quoted key with a colon behind it occurs; `skip` characters belong to one that
was counted. -/
def countFrom (key : Text) : (skip : Nat) → Text → Nat
  | _, [] => 0
  | skip + 1, _ :: rest => countFrom key skip rest
  | 0, c :: rest =>
    match Field.behindKey? key (c :: rest) with
    | some behind => countFrom key (rest.length - behind.length) rest + 1
    | none => countFrom key 0 rest

def countKeys (body key : Text) : Nat := countFrom key 0 body

/-- Whether a key has a quoted value somewhere. -/
def holds (body key value : Text) : Bool :=
  (body.leftmost? fun text => do
    Text.after? ('"' :: value ++ ['"']) (Text.skipBlanks (← Field.behindKey? key text))).isSome

def judgeHealth (body : Text) : CheckResult :=
  if holds body "Status" "critical" then
    { state := .critical, message := "Health checks in critical state" }
  else if holds body "Status" "warning" then
    { state := .warning, message := "Health checks in warning state" }
  else { message := "All health checks passing" }

/-- The leader stands in a field, or alone in quotes. -/
def leader (body : Text) : Text :=
  let named := Field.value body "leader"
  if named.isEmpty then Text.trim (· == '"') (Text.strip body) else named

def judgeLeader (body : Text) : CheckResult :=
  if (leader body).isEmpty then { state := .critical, message := "No leader elected" }
  else { message := "Leader: " ++ leader body }

def judgeMembers (body : Text) (levels : Levels) : Except OutOfRange CheckResult := do
  let members := countKeys body "Name"
  if levels.isEmpty then
    let token ← Metric.token "members" (.int members)
    return { message := Text.ofNat members ++ " cluster members", metrics := [token] }
  else
    Measurement.check
      { value := .int members
        label := "Cluster members"
        levels
        direction := .lower
        metric := some "members" }

def judgeServices (body : Text) : Except OutOfRange CheckResult := do
  let services := countKeys body "ID"
  let token ← Metric.token "services" (.int services)
  return { message := Text.ofNat services ++ " services registered", metrics := [token] }

def judgeBody (options : Probe.Options) (body : Text) : Except OutOfRange CheckResult :=
  match options.subject with
  | .leader => .ok (judgeLeader body)
  | .members => judgeMembers body options.levels
  | .services => judgeServices body
  | _ => .ok (judgeHealth body)

def judge (options : Probe.Options) (response : Http.Response) :
    Except OutOfRange CheckResult :=
  if isUsable response then judgeBody options response.body
  else .ok (unusable response "API")

def subjects : List Probe.Subject := [.health, .leader, .members, .services]

end Consul

def consul : Service where
  title := "Consul"
  offer :=
    { program := "check_consul"
      description := "check_consul - Monitor a Consul agent and its cluster"
      defaults := { port := 8500 }
      subjects := Consul.subjects
      own := [Probe.Offer.subject Consul.subjects "What to check (default: health)"]
      measured := some "the minimum number of cluster members" }
  path := fun options => Consul.path options.subject
  judge := Consul.judge

end ServiceProbe.Service
