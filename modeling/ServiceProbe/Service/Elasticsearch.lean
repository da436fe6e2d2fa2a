import ServiceProbe.Field
import ServiceProbe.Service.Basic
/-!
Elasticsearch: the health of a cluster, its nodes and its unassigned shards.
-/
namespace ServiceProbe.Service.Elasticsearch

def stateOf (status : Text) : State :=
  if status = "green" then .ok
  else if status = "yellow" then .warning
  else if status = "red" then .critical
  else .unknown

def summaryText (name status : Text) (nodes dataNodes : Int) : Text :=
  let status := if status.isEmpty then "unknown".toList else status
  "Cluster \"" ++ name ++ "\" status: " ++ status ++ " (" ++ Text.ofInt nodes ++ " nodes, "
    ++ Text.ofInt dataNodes ++ " data nodes)"

def summary (body : Text) : Except OutOfRange CheckResult := do
  let status := Field.value body "status"
  let name := Field.value body "cluster_name"
  let nodes ← Number.truncate (Field.number body "number_of_nodes")
  let dataNodes ← Number.truncate (Field.number body "number_of_data_nodes")
  let metrics := [← Metric.token "nodes" (.int nodes), ← Metric.token "data_nodes" (.int dataNodes)]
  return { state := stateOf status, message := summaryText name status nodes dataNodes, metrics }

def shards (body : Text) (levels : Levels) : Measurement where
  value := .real (Field.number body "unassigned_shards")
  label := "Unassigned shards"
  levels := levels
  direction := .upper
  metric := some "unassigned_shards"

/-- Unassigned shards are looked at if there is a level for them and the reply has their number. -/
def judgeBody (body : Text) (levels : Levels) : Except OutOfRange CheckResult := do
  let summary ← summary body
  if levels.isEmpty || !Field.isPresent body "unassigned_shards" then return summary
  else return CheckResult.combine [summary, ← (shards body levels).check]

def judge (options : Probe.Options) (response : Http.Response) :
    Except OutOfRange CheckResult :=
  if isUsable response then judgeBody response.body options.levels
  else .ok (unusable response "cluster")

end Elasticsearch

def elasticsearch : Service where
  title := "Elasticsearch"
  offer :=
    { program := "check_elasticsearch"
      description := "check_elasticsearch - Monitor the health of an Elasticsearch cluster"
      defaults := { port := 9200 }
      measured := some "the number of unassigned shards" }
  path := fun _ => "/_cluster/health"
  judge := Elasticsearch.judge

end ServiceProbe.Service
