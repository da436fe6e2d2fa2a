import ServiceProbe.Bytes.Percent
import ServiceProbe.Field
import ServiceProbe.Service.Basic
/-!
RabbitMQ: the totals of a broker, or the messages and consumers of one queue.
-/
namespace ServiceProbe.Service.RabbitMq

/-- An empty name is no queue. -/
def queue? (options : Probe.Options) : Option Text := options.queue.filter (!·.isEmpty)

/-- Virtual host and queue are one segment of the path each, whatever they are called. -/
def queuePath (vhost queue : Text) : Text :=
  "/api/queues/" ++ Percent.encode vhost ++ '/' :: Percent.encode queue

def path (options : Probe.Options) : Text :=
  match queue? options with
  | some queue => queuePath options.vhost queue
  | none => "/api/overview"

def totals : List Text := ["queues", "exchanges", "connections", "channels"]

/-- A total of the broker. One that is missing or no number counts as zero. -/
def total (body name : Text) : Except OutOfRange Int :=
  match Numeral.readDouble? (Field.nested body ("object_totals." ++ name)) with
  | none | some .nan => .ok 0
  | some value => Number.truncate value

def overview (body : Text) : Except OutOfRange CheckResult := do
  let counts ← totals.mapM (total body)
  let metrics ← (totals.zip counts).mapM fun (name, n) => Metric.token name (.int n)
  let text (index : Nat) : Text := Text.ofInt (counts.getD index 0)
  return {
    message := text 0 ++ " queues, " ++ text 1 ++ " exchanges, " ++ text 2 ++ " connections"
    metrics }

def messages (body queue : Text) (levels : Levels) : Measurement where
  value := .real (Field.number body "messages")
  label := "Queue \"" ++ queue ++ "\" messages"
  levels := levels
  direction := .upper
  metric := some "messages"

def judgeQueue (body queue : Text) (levels : Levels) : Except OutOfRange CheckResult := do
  if Field.isPresent body "messages" then
    let consumers ← Number.truncate (Field.number body "consumers")
    let measured ← (messages body queue levels).check
    let token ← Metric.token "consumers" (.int consumers)
    return CheckResult.combine
      [measured, { message := Text.ofInt consumers ++ " consumers", metrics := [token] }]
  else
    return {
      state := .unknown
      message := "Queue \"" ++ queue ++ "\": no message count in the response" }

def judge (options : Probe.Options) (response : Http.Response) :
    Except OutOfRange CheckResult :=
  if isUsable response then
    match queue? options with
    | some queue => judgeQueue response.body queue options.levels
    | none => overview response.body
  else .ok (unusable response "management API")

def options : List Probe.ProbeOption :=
  [{ names := ["-q", "--queue"]
     takes := Probe.Offer.text .queue .queue "QUEUE"
     help := "Check this queue instead of the broker overview" },
   { names := ["--vhost"]
     takes := Probe.Offer.text .vhost .vhost "VHOST"
     help := "Virtual host of the queue (default: /)" }]

end RabbitMq

def rabbitMq : Service where
  title := "RabbitMQ"
  offer :=
    { program := "check_rabbitmq"
      description := "check_rabbitmq - Monitor a RabbitMQ broker through its management API"
      defaults := { port := 15672, username := some "guest", password := some "guest" }
      own := RabbitMq.options
      measured := some "the number of messages in the queue" }
  path := RabbitMq.path
  judge := RabbitMq.judge

end ServiceProbe.Service
