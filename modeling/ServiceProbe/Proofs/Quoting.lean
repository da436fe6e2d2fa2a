import ServiceProbe.Proofs.LineFeed
import ServiceProbe.Service.All
/-!
The texts that a verdict shows as they are: some values of the body, and the name of a queue. All
else in a message is made up by the probe and stays on one line.
-/
namespace ServiceProbe.Service

open CheckResult (Quotes)
open Outcome (Gives)

/-- The texts of a usable body that a verdict of Consul shows. -/
def Consul.quotes (options : Probe.Options) (body : Text) : List Text :=
  match options.subject with
  | .leader => [leader body]
  | _ => []

def Elasticsearch.quotes (body : Text) : List Text :=
  [Field.value body "cluster_name", Field.value body "status"]

/-- A version stands beside a database in operation only. -/
def Grafana.quotes (subject : Probe.Subject) (body : Text) : List Text :=
  let database := Field.value body "database"
  if subject = .version ∨ database = "ok" ∨ database = "up" then [Field.value body "version"]
  else [database]

def quoting : List (Service × (Probe.Options → Text → List Text)) :=
  [(apache, fun _ _ => []), (consul, Consul.quotes), (elasticsearch, fun _ => Elasticsearch.quotes),
    (grafana, fun options => Grafana.quotes options.subject), (phpFpm, fun _ _ => []),
    (rabbitMq, fun options _ => (RabbitMq.queue? options).toList), (vault, fun _ _ => [])]

theorem quoting_all : quoting.map Prod.fst = all := rfl

/-- The texts of a response that a verdict shows: the reason why there is none, or what a usable body
holds. -/
def quoted (quotes : Probe.Options → Text → List Text) (options : Probe.Options)
    (response : Http.Response) : List Text :=
  if isUsable response then quotes options response.body
  else if response.status = 0 then response.error.toList
  else []

theorem unusable_quotes {what : Text} (plain : '\n' ∉ what) (response : Http.Response) :
    Quotes (if response.status = 0 then response.error.toList else [])
      (unusable response what) := by
  unfold unusable
  refine ⟨by simp, ?_⟩
  dsimp only
  split
  · have noReason : '\n' ∉ ("no response" : Text) := by decide
    cases response.error with
    | none => simp [plain]
    | some error =>
      cases error with
      | nil => simp [plain]
      | cons c rest => simp [plain]
  split <;> simp [plain]

variable {options : Probe.Options} {response : Http.Response}

theorem unusable_quoted {what : Text} (quotes : Probe.Options → Text → List Text)
    (plain : '\n' ∉ what) (unfit : ¬ isUsable response = true) :
    Gives (.ok (unusable response what) : Except OutOfRange CheckResult)
      (Quotes (quoted quotes options response)) := by
  refine .ok ?_
  rw [quoted, if_neg unfit]
  exact unusable_quotes plain response

/-! Results whose texts are all made up. -/

theorem plain_result {message : Text} {metrics : List Text} {quotes : List Text}
    (plain : '\n' ∉ message) (plainMetrics : ∀ token ∈ metrics, '\n' ∉ token)
    (none : quotes = []) (state : State) :
    Gives (.ok { state, message, metrics } : Except OutOfRange CheckResult) (Quotes quotes) :=
  none ▸ .ok (Quotes.plain plain plainMetrics state)

/-- Metrics that may be missing. -/
theorem metrics_plain {α : Type} {metric? : α → Except OutOfRange (Option Text)} {items : List α}
    (each : ∀ a ∈ items, Gives (metric? a) fun metric => ∀ token ∈ metric, '\n' ∉ token) :
    Gives (items.mapM metric?) fun metrics => ∀ token ∈ metrics.filterMap id, '\n' ∉ token := by
  intro metrics found token member
  obtain ⟨metric, inside, same⟩ := List.mem_filterMap.mp member
  exact Gives.mapM each metrics found metric inside token same

theorem token_plain {name : Text} (plain : '\n' ∉ name) (value : Number) :
    Gives (Metric.token name value) ('\n' ∉ ·) :=
  Metric.token_plain value _ _ plain (by simp)

theorem tokenMetric_plain {name : Text} (plain : '\n' ∉ name) (value : Number) :
    Gives (some <$> Metric.token name value) fun metric => ∀ token ∈ metric, '\n' ∉ token := by
  refine Gives.map fun token made => ?_
  simpa using token_plain plain value token made

namespace Apache

theorem counterMetric_plain (page : Text) {counter : Text × Text} (known : counter ∈ counters) :
    Gives (counterMetric? page counter) fun metric => ∀ token ∈ metric, '\n' ∉ token := by
  have plain : '\n' ∉ counter.2 := by
    revert counter
    decide
  refine (Gives.anything _).bind fun found _ => ?_
  split
  · exact tokenMetric_plain plain _
  · exact .ok (by simp)

theorem workers_quotes (busy idle : Nat) (levels : Levels) {metrics : List Text}
    (plain : ∀ token ∈ metrics, '\n' ∉ token) :
    Gives (workers busy idle levels metrics) (Quotes []) := by
  refine (Measurement.check_quotes (by simp) (by simp)).bind fun busyResult busyQuotes => ?_
  refine (token_plain (by decide) _).bind fun idleToken idlePlain => .ok ?_
  have idleQuotes :
      Quotes [] { message := "Idle workers: " ++ Text.ofNat idle, metrics := [idleToken] } :=
    .plain (by simp) (by simpa using idlePlain) .ok
  -- The counters come along without a message of their own.
  have others : Quotes [] { metrics } := .plain (by simp) plain .ok
  refine (busyQuotes.combine_cons (idleQuotes.combine_cons
    (others.combine_cons .combine_nil))).congr ?_
  simp

theorem judge_quotes (options : Probe.Options) (response : Http.Response) :
    Gives (judge options response) (Quotes (quoted (fun _ _ => []) options response)) := by
  unfold judge
  split
  · next usable =>
    rw [quoted, if_pos usable]
    refine (Gives.anything _).bind fun busy _ => (Gives.anything _).bind fun idle _ => ?_
    have metricsPlain : Gives (counterMetrics response.body) fun metrics =>
        ∀ token ∈ metrics, '\n' ∉ token :=
      (metrics_plain fun counter => counterMetric_plain response.body).bind fun _ plain => .ok plain
    refine metricsPlain.bind fun metrics plain => ?_
    split
    · exact workers_quotes _ _ _ plain
    · exact plain_result (by decide) plain rfl .ok
  · next unfit => exact unusable_quoted _ (by decide) unfit

end Apache

namespace Consul

theorem judgeLeader_quotes (body : Text) : Quotes [leader body] (judgeLeader body) := by
  unfold judgeLeader
  split
  · next none =>
    refine ⟨by simp, ?_⟩
    simp [List.isEmpty_iff.mp none]
  · exact ⟨by simp, by simp⟩

theorem judgeHealth_quotes (body : Text) : Quotes [] (judgeHealth body) := by
  unfold judgeHealth
  split
  · exact .plain (by decide) (by simp) .critical
  split
  · exact .plain (by decide) (by simp) .warning
  · exact .plain (by decide) (by simp) .ok

theorem judgeMembers_quotes (body : Text) (levels : Levels) :
    Gives (judgeMembers body levels) (Quotes []) := by
  unfold judgeMembers
  dsimp only
  split
  · refine (token_plain (by decide) _).bind fun token plain => ?_
    exact plain_result (by simp) (by simpa using plain) rfl .ok
  · intro result found
    refine (Measurement.check_quotes (by simp) (by simp) result found).congr ?_
    simp only [List.mem_singleton, exists_eq_left]
    decide

theorem judgeServices_quotes (body : Text) : Gives (judgeServices body) (Quotes []) := by
  refine (token_plain (by decide) _).bind fun token plain => ?_
  exact plain_result (by simp) (by simpa using plain) rfl .ok

theorem judgeBody_quotes (options : Probe.Options) (body : Text) :
    Gives (judgeBody options body) (Quotes (quotes options body)) := by
  unfold judgeBody quotes
  cases options.subject with
  | leader => exact .ok (judgeLeader_quotes body)
  | members => exact judgeMembers_quotes body options.levels
  | services => exact judgeServices_quotes body
  | _ => exact .ok (judgeHealth_quotes body)

theorem judge_quotes (options : Probe.Options) (response : Http.Response) :
    Gives (judge options response) (Quotes (quoted quotes options response)) := by
  unfold judge
  split
  · next usable =>
    rw [quoted, if_pos usable]
    exact judgeBody_quotes options response.body
  · next unfit => exact unusable_quoted _ (by decide) unfit

end Consul

namespace Elasticsearch

theorem summaryText_quotes (name status : Text) (nodes dataNodes : Int) :
    '\n' ∈ summaryText name status nodes dataNodes ↔ '\n' ∈ name ∨ '\n' ∈ status := by
  unfold summaryText
  dsimp only
  split
  · next none => simp [List.isEmpty_iff.mp none]
  · simp

theorem summary_quotes (body : Text) : Gives (summary body) (Quotes (quotes body)) := by
  refine (Gives.anything _).bind fun nodes _ => (Gives.anything _).bind fun dataNodes _ => ?_
  refine (token_plain (by decide) _).bind fun token plain => ?_
  refine (token_plain (by decide) _).bind fun dataToken dataPlain => .ok ⟨?_, ?_⟩
  · simp [plain, dataPlain]
  · rw [summaryText_quotes]
    unfold quotes
    simp only [List.mem_cons, List.not_mem_nil, or_false, exists_eq_or_imp, exists_eq_left]

theorem judgeBody_quotes (body : Text) (levels : Levels) :
    Gives (judgeBody body levels) (Quotes (quotes body)) := by
  refine (summary_quotes body).bind fun summary summaryQuotes => ?_
  split
  · exact .ok summaryQuotes
  · have unitPlain : '\n' ∉ (shards body levels).unit := by simp [shards]
    have metricPlain : ∀ name ∈ (shards body levels).metric, '\n' ∉ name := by
      rintro name member
      cases member
      decide
    refine (Measurement.check_quotes unitPlain metricPlain).bind fun shards label => .ok ?_
    -- The label of the shards is fixed, so that the summary alone quotes the body.
    have labelPlain : '\n' ∉ (Elasticsearch.shards body levels).label := by
      simp [Elasticsearch.shards]
    refine (summaryQuotes.combine_cons (label.combine_cons .combine_nil)).congr ?_
    simp [labelPlain]

theorem judge_quotes (options : Probe.Options) (response : Http.Response) :
    Gives (judge options response) (Quotes (quoted (fun _ => quotes) options response)) := by
  unfold judge
  split
  · next usable =>
    rw [quoted, if_pos usable]
    exact judgeBody_quotes response.body options.levels
  · next unfit => exact unusable_quoted _ (by decide) unfit

end Elasticsearch

namespace Grafana

theorem judgeVersion_quotes (version : Text) : Quotes [version] (judgeVersion version) := by
  unfold judgeVersion
  split
  · next none => exact ⟨by simp, by simp [List.isEmpty_iff.mp none]⟩
  · exact ⟨by simp, by simp⟩

theorem judgeDatabase_quotes (database version : Text) :
    Quotes (if database = "ok" ∨ database = "up" then [version] else [database])
      (judgeDatabase database version) := by
  unfold judgeDatabase
  split
  · next running =>
    have plain : '\n' ∉ database := by rcases running with rfl | rfl <;> decide
    refine ⟨by simp, ?_⟩
    dsimp only
    split
    · next none => simp [plain, List.isEmpty_iff.mp none]
    · simp [plain]
  · refine ⟨by simp, ?_⟩
    dsimp only
    split
    · next none => simp [List.isEmpty_iff.mp none]
    · simp

theorem judgeBody_quotes (subject : Probe.Subject) (body : Text) :
    Quotes (quotes subject body) (judgeBody subject body) := by
  unfold judgeBody quotes
  dsimp only
  by_cases version : subject = .version
  · rw [if_pos version, if_pos (Or.inl version)]
    exact judgeVersion_quotes _
  · rw [if_neg version]
    simp only [version, false_or]
    exact judgeDatabase_quotes _ _

theorem judge_quotes (options : Probe.Options) (response : Http.Response) :
    Gives (judge options response)
      (Quotes (quoted (fun options => quotes options.subject) options response)) := by
  unfold judge
  split
  · next usable =>
    rw [quoted, if_pos usable]
    exact .ok (judgeBody_quotes options.subject response.body)
  · next unfit => exact unusable_quoted _ (by decide) unfit

end Grafana

namespace PhpFpm

theorem judgePing_quotes (body : Text) : Quotes [] (judgePing body) := by
  unfold judgePing
  split
  · exact .plain (by decide) (by simp) .ok
  · exact .plain (by decide) (by simp) .critical

theorem counterMetric_plain {counter : Counter} (known : counter.1 ∈ counters) :
    Gives (counterMetric? counter) fun metric => ∀ token ∈ metric, '\n' ∉ token := by
  obtain ⟨label, count⟩ := counter
  have plain : '\n' ∉ metricName label := by
    revert label
    exact (by decide : ∀ label ∈ counters, '\n' ∉ metricName label)
  cases count with
  | none => exact .ok (by simp)
  | some n => exact tokenMetric_plain plain _

theorem readCounters_known (page : Text) : Gives (counters.mapM (readCounter page)) fun found =>
    ∀ counter ∈ found, counter.1 ∈ counters := by
  refine Gives.mapM fun label known => ?_
  exact (Gives.anything _).bind fun count _ => .ok known

theorem processesText_plain (found : List Counter) : '\n' ∉ processesText found := by
  unfold processesText
  split <;> simp

theorem judgeStatus_quotes (page : Text) : Gives (judgeStatus page) (Quotes []) := by
  refine (readCounters_known page).bind fun found known => ?_
  refine (metrics_plain fun counter member => counterMetric_plain (known counter member)).bind
    fun metrics plain => ?_
  split
  · refine plain_result ?_ plain rfl .warning
    simp [processesText_plain, CheckResult.newline_mem_mark]
  · exact plain_result (processesText_plain found) plain rfl .ok

theorem judge_quotes (options : Probe.Options) (response : Http.Response) :
    Gives (judge options response) (Quotes (quoted (fun _ _ => []) options response)) := by
  unfold judge
  split
  · next usable =>
    rw [quoted, if_pos usable]
    split
    · exact .ok (judgePing_quotes response.body)
    · exact judgeStatus_quotes response.body
  · next unfit =>
    refine unusable_quoted _ ?_ unfit
    split <;> decide

end PhpFpm

namespace RabbitMq

theorem overview_quotes (body : Text) : Gives (overview body) (Quotes []) := by
  refine (Gives.anything _).bind fun counts _ => ?_
  refine (Gives.mapM ?_).bind fun metrics plain => plain_result (by simp) plain rfl .ok
  rintro ⟨name, n⟩ member
  have known : name ∈ totals := (List.of_mem_zip member).1
  have plain : '\n' ∉ name := by
    revert name
    exact fun name _ known => (by decide : ∀ name ∈ totals, '\n' ∉ name) name known
  exact token_plain plain _

theorem judgeQueue_quotes (body queue : Text) (levels : Levels) :
    Gives (judgeQueue body queue levels) (Quotes [queue]) := by
  unfold judgeQueue
  split
  · have unitPlain : '\n' ∉ (messages body queue levels).unit := by simp [messages]
    have metricPlain : ∀ name ∈ (messages body queue levels).metric, '\n' ∉ name := by
      rintro name member
      cases member
      decide
    refine (Gives.anything _).bind fun consumers _ => ?_
    refine (Measurement.check_quotes unitPlain metricPlain).bind fun measured label => ?_
    refine (token_plain (by decide) _).bind fun token plain => .ok ?_
    have others : Quotes []
        { message := Text.ofInt consumers ++ " consumers", metrics := [token] } :=
      .plain (by simp) (by simpa using plain) .ok
    refine (label.combine_cons (others.combine_cons .combine_nil)).congr ?_
    simp [messages]
  · exact .ok ⟨by simp, by simp⟩

theorem judge_quotes (options : Probe.Options) (response : Http.Response) :
    Gives (judge options response)
      (Quotes (quoted (fun options _ => (queue? options).toList) options response)) := by
  unfold judge
  split
  · next usable =>
    rw [quoted, if_pos usable]
    cases queue? options with
    | some queue => exact judgeQueue_quotes response.body queue options.levels
    | none => exact overview_quotes response.body
  · next unfit => exact unusable_quoted _ (by decide) unfit

end RabbitMq

namespace Vault

theorem sealedResult_quotes : Quotes [] sealedResult := .plain (by decide) (by simp) .critical

theorem judgeHealthBody_quotes (body : Text) : Quotes [] (judgeHealthBody body) := by
  unfold judgeHealthBody
  split
  · exact sealedResult_quotes
  split
  · exact .plain (by decide) (by simp) .warning
  · exact .plain (by decide) (by simp) .ok

theorem standby_plain {status : Int} : ∀ mode ∈ standby? status, '\n' ∉ mode := by
  intro mode member
  unfold standby? at member
  split at member <;> cases member <;> decide

theorem judgeHealth_quotes (response : Http.Response) : Quotes [] (judgeHealth response) := by
  unfold judgeHealth
  dsimp only
  split
  · exact judgeHealthBody_quotes response.body
  split
  · next mode known =>
    have plain : '\n' ∉ mode := standby_plain mode known
    exact .plain (by simp [plain]) (by simp) .ok
  split
  · exact sealedResult_quotes
  · exact .plain (by simp) (by simp) .critical

theorem judgeSeal_quotes (response : Http.Response) : Quotes [] (judgeSeal response) := by
  unfold judgeSeal
  split
  · split
    · exact sealedResult_quotes
    · exact .plain (by decide) (by simp) .ok
  · exact .plain (by simp) (by simp) .critical

theorem judgeStatus_quotes (response : Http.Response) : Quotes [] (judgeStatus response) := by
  unfold judgeStatus
  split
  · exact .plain (by decide) (by simp) .ok
  · exact .plain (by simp) (by simp) .critical

theorem judge_quotes (options : Probe.Options) (response : Http.Response) :
    Gives (judge options response) (Quotes (quoted (fun _ _ => []) options response)) := by
  refine .ok ?_
  split
  · next failed =>
    have unfit : ¬ isUsable response = true := by simp [isUsable, failed]
    exact unusable_quoted _ (by decide) unfit _ rfl
  · next complete =>
    -- A response that did not fail has a status, so that no reason for a failure is shown.
    have status : response.status ≠ 0 := by
      intro none
      simp [Http.Response.failed, none] at complete
    have nothing : quoted (fun _ _ => []) options response = [] := by
      rw [quoted, if_neg status, ite_self]
    rw [nothing]
    cases options.subject with
    | «seal» => exact judgeSeal_quotes response
    | status => exact judgeStatus_quotes response
    | _ => exact judgeHealth_quotes response

end Vault

/-- What a verdict shows as it is, for every service. -/
theorem judge_quotes {service : Service} {quotes : Probe.Options → Text → List Text}
    (known : (service, quotes) ∈ quoting) (options : Probe.Options) (response : Http.Response) :
    Gives (service.judge options response) (Quotes (quoted quotes options response)) := by
  simp only [quoting, List.mem_cons, Prod.mk.injEq, List.not_mem_nil, or_false] at known
  rcases known with ⟨rfl, rfl⟩ | ⟨rfl, rfl⟩ | ⟨rfl, rfl⟩ | ⟨rfl, rfl⟩ | ⟨rfl, rfl⟩ | ⟨rfl, rfl⟩ |
    ⟨rfl, rfl⟩
  · exact Apache.judge_quotes options response
  · exact Consul.judge_quotes options response
  · exact Elasticsearch.judge_quotes options response
  · exact Grafana.judge_quotes options response
  · exact PhpFpm.judge_quotes options response
  · exact RabbitMq.judge_quotes options response
  · exact Vault.judge_quotes options response

end ServiceProbe.Service
