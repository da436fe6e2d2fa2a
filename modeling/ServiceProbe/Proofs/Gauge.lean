import ServiceProbe.Proofs.Failure
/-!
What levels are held against. Three services read one value off a reply and hold it against levels, and a
run is fine if and only if the value passes and so does all else. A queue without a count of messages is
unknown, but a status page without workers and a cluster that does not tell its unassigned shards are
found fine, whatever the levels.
-/
namespace ServiceProbe

open Outcome
open Transport (Reply requestedPath)
open Http (Response)

/-! A state that is worst of some is fine if all of them are. -/

namespace State

theorem worse_eq_ok_iff {a b : State} : worse a b = .ok ↔ a = .ok ∧ b = .ok := by
  cases a <;> cases b <;> decide

theorem worst_eq_ok_iff {states : List State} :
    worst .ok states = .ok ↔ ∀ state ∈ states, state = .ok := by
  cases states with
  | nil => simp [worst]
  | cons first rest =>
    rw [worst]
    induction rest generalizing first with
    | nil => simp
    | cons next rest ih =>
      rw [List.foldl_cons, ih]
      simp only [List.forall_mem_cons, worse_eq_ok_iff, and_assoc]

theorem worst_pair_eq_ok_iff {a b : State} : worst .ok [a, b] = .ok ↔ a = .ok ∧ b = .ok := by
  simp [worst_eq_ok_iff]

theorem code_eq_zero_iff {state : State} : state.code = 0 ↔ state = .ok := by
  cases state <;> decide

end State

/-! A value that breaches none of its levels. -/

namespace Levels

variable {levels : Levels} {direction : Direction} {total : Option Number} {value : Number}

/-- A value on the good side of every level that is set. -/
def Passed (levels : Levels) (direction : Direction) (total : Option Number) (value : Number) : Prop :=
  ∀ bound ∈ levels.bounds, bound.isBreached direction total value = .ok false

theorem breached_eq_false_iff {level : Option Bound} :
    breached level direction total value = .ok false ↔
      ∀ bound ∈ level, bound.isBreached direction total value = .ok false := by
  cases level <;> simp [breached]

theorem passed_iff : levels.Passed direction total value ↔
    breached levels.warn direction total value = .ok false ∧
      breached levels.crit direction total value = .ok false := by
  simp only [Passed, breached_eq_false_iff, bounds, List.mem_append, Option.mem_toList, or_imp,
    forall_and, Option.mem_def]

theorem evaluate_eq_ok_iff :
    levels.evaluate direction total value = .ok .ok ↔ levels.Passed direction total value := by
  rw [passed_iff, evaluate]
  cases breached levels.crit direction total value with
  | error cause => exact ⟨nofun, nofun⟩
  | ok critical =>
    cases critical with
    | true => exact ⟨nofun, nofun⟩
    | false =>
      cases breached levels.warn direction total value with
      | error cause => exact ⟨nofun, nofun⟩
      | ok warning =>
        cases warning with
        | true => exact ⟨nofun, nofun⟩
        | false => exact ⟨fun _ => ⟨rfl, rfl⟩, fun _ => rfl⟩

theorem passed_of_isEmpty (empty : levels.isEmpty = true) : levels.Passed direction total value := by
  rw [isEmpty, Bool.and_eq_true, Option.isNone_iff_eq_none, Option.isNone_iff_eq_none] at empty
  rw [passed_iff, empty.1, empty.2]
  exact ⟨rfl, rfl⟩

end Levels

theorem Measurement.state_of_check {m : Measurement} {result : CheckResult}
    (found : m.check = .ok result) : m.state = .ok result.state := by
  obtain ⟨state, evaluated, found⟩ := bind_ok found
  obtain ⟨message, _, found⟩ := bind_ok found
  obtain ⟨metrics, _, found⟩ := bind_ok found
  cases found
  exact evaluated

theorem Measurement.check_ok_iff {m : Measurement} {result : CheckResult}
    (found : m.check = .ok result) :
    result.state = .ok ↔ m.levels.Passed m.direction m.total m.value := by
  rw [← Levels.evaluate_eq_ok_iff]
  show result.state = .ok ↔ m.state = .ok .ok
  rw [Measurement.state_of_check found, Except.ok.injEq]

theorem Probe.faultResult_not_ok (probe : Probe) (fault : Fault) :
    ¬ (probe.faultResult fault).state = .ok := nofun

namespace Service

/-- What a service holds against levels, and what it makes of a reply. -/
structure Gauge where
  service : Service
  /-- Whether options ask for the value. -/
  asks : Probe.Options → Bool
  /-- The value that a reply has, with the total that a percentage refers to. -/
  reading? : Text → Option (Number × Option Number)
  /-- Whether a reply without the value is taken as fine. -/
  lenient : Bool
  /-- Whether all else in a reply is fine. -/
  isFine : Text → Bool
  Overloads : Probe.Options → Text → Prop

/-- A value that breaches no level, or a missing one that is not missed. -/
def Gauge.Passes (gauge : Gauge) (levels : Levels) (body : Text) : Prop :=
  gauge.isFine body = true ∧
    match gauge.reading? body with
    | some (value, total) => levels.Passed .upper total value
    | none => gauge.lenient = true

/-- A number of a reply in double precision, with nothing to refer to. -/
def keyReading? (key body : Text) : Option (Number × Option Number) :=
  if Field.isPresent body key then some (.real (Field.number body key), none) else none

def busyReading? (page : Text) : Option (Number × Option Number) :=
  match StatusPage.counter? page "BusyWorkers", StatusPage.counter? page "IdleWorkers" with
  | .ok (some busy), .ok (some idle) => some (Apache.whole busy, some (Apache.whole (busy + idle)))
  | _, _ => none

/-- The busy workers of a web server; a percentage is of all workers. -/
def apacheGauge : Gauge where
  service := apache
  asks _ := true
  reading? := busyReading?
  lenient := true
  isFine _ := true
  Overloads := Apache.Overloads

/-- The unassigned shards of a cluster that is green. -/
def elasticsearchGauge : Gauge where
  service := elasticsearch
  asks _ := true
  reading? := keyReading? "unassigned_shards"
  lenient := true
  isFine body := Field.value body "status" = "green"
  Overloads := Elasticsearch.Overloads

/-- The messages in a queue. -/
def rabbitMqGauge : Gauge where
  service := rabbitMq
  asks options := (RabbitMq.queue? options).isSome
  reading? := keyReading? "messages"
  lenient := false
  isFine _ := true
  Overloads := RabbitMq.Overloads

def gauges : List Gauge := [apacheGauge, elasticsearchGauge, rabbitMqGauge]

theorem mem_gauges {gauge : Gauge} : gauge ∈ gauges ↔
    gauge = apacheGauge ∨ gauge = elasticsearchGauge ∨ gauge = rabbitMqGauge := by
  simp [gauges]

variable {options : Probe.Options} {response : Response} {result : CheckResult}

namespace Apache

theorem state_of_judge (usable : isUsable response = true)
    (judged : judge options response = .ok result) :
    result.state = .ok ↔ apacheGauge.Passes options.levels response.body := by
  rw [judge, if_pos usable] at judged
  obtain ⟨busy, busyFound, judged⟩ := bind_ok judged
  obtain ⟨idle, idleFound, judged⟩ := bind_ok judged
  obtain ⟨metrics, _, judged⟩ := bind_ok judged
  have reading : apacheGauge.reading? response.body = busyReading? response.body := rfl
  rw [Gauge.Passes, reading, busyReading?, busyFound, idleFound]
  cases busy with
  | none =>
    cases judged
    exact iff_of_true rfl ⟨rfl, rfl⟩
  | some busy =>
    -- Busy workers without idle ones are not looked at either.
    cases idle with
    | none =>
      cases judged
      exact iff_of_true rfl ⟨rfl, rfl⟩
    | some idle =>
      obtain ⟨load, measured, judged⟩ := bind_ok judged
      obtain ⟨token, _, judged⟩ := bind_ok judged
      cases judged
      show State.worst .ok [load.state, .ok, .ok] = .ok ↔ _
      rw [State.worst_eq_ok_iff]
      simp [Measurement.check_ok_iff measured, apacheGauge]

end Apache

namespace Elasticsearch

theorem stateOf_eq_ok_iff {status : Text} : stateOf status = .ok ↔ status = "green" := by
  unfold stateOf
  split
  · next green => exact iff_of_true rfl green
  · next other =>
    refine iff_of_false ?_ other
    split
    · simp
    split <;> simp

theorem state_of_summary {body : Text} (summed : summary body = .ok result) :
    result.state = .ok ↔ Field.value body "status" = "green" := by
  obtain ⟨nodes, _, summed⟩ := bind_ok summed
  obtain ⟨dataNodes, _, summed⟩ := bind_ok summed
  obtain ⟨nodesToken, _, summed⟩ := bind_ok summed
  obtain ⟨dataNodesToken, _, summed⟩ := bind_ok summed
  cases summed
  exact stateOf_eq_ok_iff

theorem state_of_judge (usable : isUsable response = true)
    (judged : judge options response = .ok result) :
    result.state = .ok ↔ elasticsearchGauge.Passes options.levels response.body := by
  rw [judge, if_pos usable] at judged
  obtain ⟨summary, summed, judged⟩ := bind_ok judged
  have fine : summary.state = .ok ↔ elasticsearchGauge.isFine response.body = true :=
    (state_of_summary summed).trans decide_eq_true_iff.symm
  have reading : elasticsearchGauge.reading? response.body =
      keyReading? "unassigned_shards" response.body := rfl
  rw [Gauge.Passes, reading, keyReading?, ← fine]
  -- The summary stands alone if the shards are missing or if there is no level for them.
  cases present : Field.isPresent response.body "unassigned_shards" with
  | false =>
    rw [present, Bool.not_false, Bool.or_true, if_pos rfl] at judged
    rw [if_neg Bool.false_ne_true]
    cases judged
    exact (and_iff_left rfl).symm
  | true =>
    rw [present, Bool.not_true, Bool.or_false] at judged
    rw [if_pos rfl]
    by_cases empty : options.levels.isEmpty = true
    · rw [if_pos empty] at judged
      cases judged
      exact (and_iff_left (Levels.passed_of_isEmpty empty)).symm
    · rw [if_neg empty] at judged
      obtain ⟨measured, found, judged⟩ := bind_ok judged
      cases judged
      show State.worst .ok [summary.state, measured.state] = .ok ↔ _
      rw [State.worst_pair_eq_ok_iff, Measurement.check_ok_iff found]
      rfl

end Elasticsearch

namespace RabbitMq

theorem state_of_judge (asked : rabbitMqGauge.asks options = true)
    (usable : isUsable response = true) (judged : judge options response = .ok result) :
    result.state = .ok ↔ rabbitMqGauge.Passes options.levels response.body := by
  obtain ⟨queue, named⟩ := Option.isSome_iff_exists.mp asked
  rw [judge, if_pos usable, named] at judged
  have reading : rabbitMqGauge.reading? response.body = keyReading? "messages" response.body := rfl
  rw [Gauge.Passes, reading, keyReading?]
  replace judged : judgeQueue response.body queue options.levels = .ok result := judged
  rw [judgeQueue] at judged
  by_cases present : Field.isPresent response.body "messages" = true
  · rw [if_pos present] at judged ⊢
    obtain ⟨consumers, _, judged⟩ := bind_ok judged
    obtain ⟨measured, found, judged⟩ := bind_ok judged
    obtain ⟨token, _, judged⟩ := bind_ok judged
    cases judged
    show State.worst .ok [measured.state, .ok] = .ok ↔ _
    rw [State.worst_pair_eq_ok_iff, Measurement.check_ok_iff found, and_iff_left rfl]
    exact (and_iff_right rfl).symm
  · rw [if_neg present] at judged ⊢
    cases judged
    exact iff_of_false (by simp) fun passes => absurd passes.2 Bool.false_ne_true

end RabbitMq

/-! The run. -/

variable {gauge : Gauge}

theorem overloads_of_gauges (known : gauge ∈ gauges) :
    (gauge.service, gauge.Overloads) ∈ overloads := by
  rcases mem_gauges.mp known with rfl | rfl | rfl <;>
    simp [overloads, apacheGauge, elasticsearchGauge, rabbitMqGauge]

theorem judge_unusable_of_gauges (known : gauge ∈ gauges) (unfit : isUsable response = false) :
    ∃ what, gauge.service.judge options response = .ok (unusable response what) := by
  rcases judge_unusable (mem_all_of_overloads (overloads_of_gauges known)) unfit with found | other
  · exact found
  · rcases mem_gauges.mp known with rfl | rfl | rfl <;> cases congrArg title other

theorem state_of_judge (known : gauge ∈ gauges) (asked : gauge.asks options = true)
    (judged : gauge.service.judge options response = .ok result) :
    result.state = .ok ↔
      isUsable response = true ∧ gauge.Passes options.levels response.body := by
  cases usable : isUsable response with
  | false =>
    obtain ⟨what, found⟩ : ∃ what, gauge.service.judge options response =
        .ok (unusable response what) := judge_unusable_of_gauges known usable
    rw [found] at judged
    cases judged
    exact iff_of_false nofun nofun
  | true =>
    simp only [true_and]
    rcases mem_gauges.mp known with rfl | rfl | rfl
    · exact Apache.state_of_judge usable judged
    · exact Elasticsearch.state_of_judge usable judged
    · exact RabbitMq.state_of_judge asked usable judged

/-- A usable reply that the service is up to, with a value that passes or is not missed. -/
def Gauge.Clears (gauge : Gauge) (options : Probe.Options) (response : Response) : Prop :=
  isUsable response = true ∧ ¬ gauge.Overloads options response.body ∧
    gauge.Passes options.levels response.body

theorem judge_ok_iff (known : gauge ∈ gauges) (asked : gauge.asks options = true)
    (doubles : options.levels.AreDoubles) :
    (gauge.service.probe.resultOf
        (Fault.ofNumber (gauge.service.judge options response))).state = .ok ↔
      gauge.Clears options response := by
  have succeeds : Succeeds (gauge.service.judge options response) ↔
      ¬ (isUsable response = true ∧ gauge.Overloads options response.body) :=
    judge_succeeds (overloads_of_gauges known) doubles response
  cases judged : gauge.service.judge options response with
  | error cause =>
    refine iff_of_false (Probe.faultResult_not_ok _ _) ?_
    rintro ⟨usable, able, _⟩
    obtain ⟨result, found⟩ := succeeds.mpr fun overloaded => able overloaded.2
    rw [judged] at found
    cases found
  | ok result =>
    have able := succeeds.mp ⟨result, judged⟩
    rw [Fault.ofNumber, Probe.resultOf, state_of_judge known asked judged]
    constructor
    · rintro ⟨usable, passes⟩
      exact ⟨usable, fun overloaded => able ⟨usable, overloaded⟩, passes⟩
    · rintro ⟨usable, _, passes⟩
      exact ⟨usable, passes⟩

theorem judged_ok_iff (known : gauge ∈ gauges) (asked : gauge.asks options = true)
    (doubles : options.levels.AreDoubles) (reply : Reply) :
    (gauge.service.probe.resultOf (gauge.service.judged options reply)).state = .ok ↔
      ∃ raw, reply = .bytes raw ∧ gauge.Clears options (.parse raw) := by
  cases reply with
  | bytes raw =>
    rw [judged_bytes, judge_ok_iff known asked doubles]
    simp
  | failure family message =>
    refine iff_of_false ?_ (by simp)
    by_cases ofTransport : family.isTransport = true
    · rw [judged_failure ofTransport, judge_ok_iff known asked doubles]
      -- A failure of the transport is a response without a body.
      exact fun clears => absurd clears.1 nofun
    · rw [judged_reported ofTransport]
      exact Probe.faultResult_not_ok _ _

theorem asks_fitFor (known : gauge ∈ gauges) (tls : Capability) :
    gauge.asks (options.fitFor tls) = gauge.asks options := by
  unfold Probe.Options.fitFor
  rcases mem_gauges.mp known with rfl | rfl | rfl <;> split <;> rfl

/-- A run that is asked for the value is fine if and only if its one exchange brought a reply that
clears. -/
theorem run_ok_iff_clears (known : gauge ∈ gauges) {tls : Capability} {replies : Transport.Replies}
    {files : Files} {words : List Text} (accepted : gauge.service.offer.parse words = .ok options)
    (fit : gauge.service.offer.rejections options = []) (noDebug : options.debug = false)
    (asked : gauge.asks options = true) :
    let run := gauge.service.probe.run files (.scripted tls replies) words
    run.outcome = .ok (.returned 0) ↔ ∃ wire raw, run.journal.exchanges = [wire] ∧
      replies.find (requestedPath wire.payload) = .bytes raw ∧
        gauge.Clears (options.fitFor tls) (.parse raw) := by
  intro run
  have doubles : (options.fitFor tls).levels.AreDoubles := by
    rw [fitFor_levels]
    exact parse_doubles (mem_all_of_overloads (overloads_of_gauges known)) accepted
  have fine {result : CheckResult} (returns : Probe.Returns run result) :
      run.outcome = .ok (.returned 0) ↔ result.state = .ok := by
    rw [returns.outcome, ← State.code_eq_zero_iff]
    simp
  rcases run_scripted accepted fit noDebug with
    ⟨fault, _, unasked, returns⟩ | ⟨request, wire, _, one, returns⟩
  · rw [fine returns]
    refine iff_of_false (Probe.faultResult_not_ok _ _) ?_
    rintro ⟨wire, _, one, _⟩
    rw [unasked] at one
    cases one
  · rw [fine returns, judged_ok_iff known ((asks_fitFor known tls).trans asked) doubles]
    constructor
    · rintro ⟨raw, replied, clears⟩
      exact ⟨wire, raw, one, replied, clears⟩
    · rintro ⟨sent, raw, same, replied, clears⟩
      obtain rfl : wire = sent := List.singleton_inj.mp (one.symm.trans same)
      exact ⟨raw, replied, clears⟩

/-- A queue below its level. -/
theorem rabbitMq_clears_short_queue :
    let words : List Text := ["-H", "mq", "--queue", "orders", "-w", "10"]
    let options : Probe.Options :=
      { rabbitMq.offer.defaults with
        hostname := "mq", queue := some "orders",
        levels := { warn := some ⟨.real (.ofRatio false 10 1), false⟩ } }
    let raw := Utf8.encode "HTTP/1.1 200 OK\r\n\r\n\x7b\"messages\":4,\"consumers\":1\x7d"
    let tls : Capability := { available := true }
    let replies : Transport.Replies := { otherwise := some (.bytes raw) }
    let run := rabbitMq.probe.run [] (.scripted tls replies) words
    rabbitMqGauge ∈ gauges ∧ rabbitMq.offer.parse words = .ok options ∧
      rabbitMq.offer.rejections options = [] ∧ options.debug = false ∧
      rabbitMqGauge.asks options = true ∧ run.outcome = .ok (.returned 0) ∧
      rabbitMqGauge.Clears (options.fitFor tls) (.parse raw) := by
  intro words options raw tls replies run
  have known : rabbitMqGauge ∈ gauges := by simp [gauges]
  have accepted : rabbitMq.offer.parse words = .ok options := by rfl
  have fit : rabbitMq.offer.rejections options = [] := by decide
  have asked : rabbitMqGauge.asks options = true := rfl
  have returned : run.outcome = .ok (.returned 0) := by decide +kernel
  have fine : run.outcome = .ok (.returned 0) ↔ ∃ wire other, run.journal.exchanges = [wire] ∧
      replies.find (requestedPath wire.payload) = .bytes other ∧
        rabbitMqGauge.Clears (options.fitFor tls) (.parse other) :=
    run_ok_iff_clears known accepted fit rfl asked
  obtain ⟨wire, _, _, ⟨⟩, clears⟩ := fine.mp returned
  exact ⟨known, accepted, fit, rfl, asked, returned, clears⟩

/-- A login page in place of the status page, a page with busy workers above their level but without idle
ones, and a cluster that does not tell its shards. -/
theorem levels_skipped_without_value :
    let words : List Text := ["-H", "h", "-w", "5"]
    let levels : Levels := { warn := some ⟨.real (.ofRatio false 5 1), false⟩ }
    let run (service : Service) (body : Text) :=
      service.probe.run [] (.scripted { available := true }
        { otherwise := some (.bytes (Utf8.encode ("HTTP/1.1 200 OK\r\n\r\n" ++ body))) }) words
    let login : Text := "<h1>Sign in</h1>"
    let page : Text := "BusyWorkers: 40\n"
    let health : Text := "\x7b\"status\":\"green\"\x7d"
    (∃ options, apache.offer.parse words = .ok options ∧ options.levels = levels ∧
        options.debug = false) ∧
      StatusPage.counter? login "BusyWorkers" = .ok none ∧
      (run apache login).outcome = .ok (.returned 0) ∧
      StatusPage.counter? page "BusyWorkers" = .ok (some 40) ∧
      (run apache page).outcome = .ok (.returned 0) ∧
      (∃ options, elasticsearch.offer.parse words = .ok options ∧ options.levels = levels ∧
        options.debug = false) ∧
      Field.isPresent health "unassigned_shards" = false ∧
      (run elasticsearch health).outcome = .ok (.returned 0) := by
  intro words levels run login page health
  refine ⟨⟨_, rfl, rfl, rfl⟩, ?_, ?_, ?_, ?_, ⟨_, rfl, rfl, rfl⟩, ?_, ?_⟩ <;> decide +kernel

end Service
end ServiceProbe
