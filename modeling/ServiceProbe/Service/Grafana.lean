import ServiceProbe.Field
import ServiceProbe.Service.Basic
/-!
Grafana: its version and the state of its database.
-/
namespace ServiceProbe.Service.Grafana

def judgeVersion (version : Text) : CheckResult :=
  if version.isEmpty then { state := .unknown, message := "Version information not available" }
  else { message := "Version: " ++ version }

def judgeDatabase (database version : Text) : CheckResult :=
  if database = "ok" ∨ database = "up" then
    let message : Text := "Database: " ++ database
    { message := if version.isEmpty then message else message ++ ", Version: " ++ version }
  else
    let database := if database.isEmpty then "unknown".toList else database
    { state := .critical, message := "Database status: " ++ database }

def judgeBody (subject : Probe.Subject) (body : Text) : CheckResult :=
  let version := Field.value body "version"
  if subject = .version then judgeVersion version
  else judgeDatabase (Field.value body "database") version

def judge (options : Probe.Options) (response : Http.Response) :
    Except OutOfRange CheckResult :=
  .ok (if isUsable response then judgeBody options.subject response.body
    else unusable response "API")

def subjects : List Probe.Subject := [.health, .api, .version]

end Grafana

def grafana : Service where
  title := "Grafana"
  offer :=
    { program := "check_grafana"
      description := "check_grafana - Monitor a Grafana server"
      defaults := { port := 3000 }
      subjects := Grafana.subjects
      own := [Probe.Offer.subject Grafana.subjects
        "What to check, 'api' is an alias of 'health' (default: health)"] }
  path := fun _ => "/api/health"
  judge := Grafana.judge

end ServiceProbe.Service
