import ServiceProbe.Field
import ServiceProbe.Service.Basic
/-!
Vault: whether it is healthy, sealed, or answers at all. Some statuses other than 200 belong to
nodes that are in operation.
-/
namespace ServiceProbe.Service.Vault

/-- What a node does that is in operation and not active. -/
def standby? : Int → Option Text
  | 429 => some "standby"
  | 472 => some "disaster recovery secondary"
  | 473 => some "performance standby"
  | _ => none

def sealedResult : CheckResult := { state := .critical, message := "Vault is sealed" }

def isSealed (body : Text) : Bool := Field.value body "sealed" == "true"

def isUninitialized (body : Text) : Bool := Field.value body "initialized" == "false"

def judgeHealthBody (body : Text) : CheckResult :=
  if isSealed body then sealedResult
  else if isUninitialized body then
    { state := .warning, message := "Vault is not initialized" }
  else { message := "Vault is healthy, initialized and unsealed" }

def judgeHealth (response : Http.Response) : CheckResult :=
  let status := Text.ofInt response.status
  if response.status = 200 then judgeHealthBody response.body
  else
    match standby? response.status with
    | some mode => { message := "Vault is in " ++ mode ++ " mode (HTTP " ++ status ++ ")" }
    | none =>
      if response.status = 503 then sealedResult
      else { state := .critical, message := "Unexpected status code: " ++ status }

def judgeSeal (response : Http.Response) : CheckResult :=
  if response.status = 200 then
    if isSealed response.body then sealedResult else { message := "Vault is unsealed" }
  else
    { state := .critical
      message := "Cannot check seal status (HTTP " ++ Text.ofInt response.status ++ ")" }

def judgeStatus (response : Http.Response) : CheckResult :=
  if response.status = 200 then { message := "Vault is responding" }
  else { state := .critical, message := "Vault returned HTTP " ++ Text.ofInt response.status }

def judge (options : Probe.Options) (response : Http.Response) :
    Except OutOfRange CheckResult :=
  .ok (if response.failed then unusable response "API server"
    else
      match options.subject with
      | .seal => judgeSeal response
      | .status => judgeStatus response
      | _ => judgeHealth response)

def path : Probe.Subject → Text
  | .seal => "/v1/sys/seal-status"
  | _ => "/v1/sys/health"

def subjects : List Probe.Subject := [.health, .seal, .status]

end Vault

def vault : Service where
  title := "Vault"
  offer :=
    { program := "check_vault"
      description := "check_vault - Monitor a HashiCorp Vault server"
      defaults := { port := 8200 }
      subjects := Vault.subjects
      own := [Probe.Offer.subject Vault.subjects "What to check (default: health)"] }
  path := fun options => Vault.path options.subject
  judge := Vault.judge

end ServiceProbe.Service
