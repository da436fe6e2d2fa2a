import ServiceProbe.Proofs.Quoting
import ServiceProbe.Proofs.Refusal
import ServiceProbe.Proofs.Usage
import ServiceProbe.Proofs.Verdict
/-!
When the output of a run is one line. A result is written as it stands, so that the output is one
line just if nothing from outside that the result shows has a line feed.
-/
namespace ServiceProbe.Service

open CheckResult (Quotes)
open Http (Response)
open Transport (Reply Replies requestedPath)

/-! What the results of a run show. -/

theorem title_plain {service : Service} (known : service ∈ all) : '\n' ∉ service.title := by
  revert service
  decide

theorem program_plain {service : Service} (known : service ∈ all) :
    '\n' ∉ service.offer.program := by
  revert service
  decide

theorem option_plain {service : Service} (known : service ∈ all) {text : Text}
    (named : CommandLine.Named service.offer.options text) : '\n' ∉ text := by
  obtain ⟨opt, offered, shown⟩ := named
  have all_plain : ∀ service ∈ all, ∀ opt ∈ service.offer.options, ∀ text ∈ opt.texts,
      '\n' ∉ text := by decide
  exact all_plain service known opt offered text shown

theorem usageResult_quotes {service : Service} (known : service ∈ all) {words : List Text}
    {error : CommandLine.UsageError}
    (stopped : service.offer.parse words = .error (.usage error)) :
    Quotes error.verbatim (Probe.usageResult service.offer error) := by
  have names : error.Names service.offer.options :=
    CommandLine.parse_names (Outcome.map_error stopped)
  have message : '\n' ∈ error.message ↔ ∃ text ∈ error.verbatim, '\n' ∈ text :=
    CommandLine.UsageError.newline_mem_message fun text shown => option_plain known (names text shown)
  refine ⟨by simp [Probe.usageResult, Probe.unknown], ?_⟩
  simp [Probe.usageResult, Probe.unknown, program_plain known, message]

theorem newline_mem_failedText {service : Service} (known : service ∈ all) (message : Text) :
    '\n' ∈ Probe.failedText service.title message ↔ '\n' ∈ message := by
  unfold Probe.failedText
  simp [title_plain known]

theorem rejectedResult_quotes {service : Service} (known : service ∈ all)
    (options : Probe.Options) : Quotes [] (Probe.rejectedResult service.probe options) := by
  refine ⟨by simp [Probe.rejectedResult, Probe.unknown], ?_⟩
  have title : service.probe.title = service.title := rfl
  simp [Probe.rejectedResult, Probe.unknown, title, newline_mem_failedText known,
    Probe.newline_not_mem_invalidText]

theorem faultResult_quotes {service : Service} (known : service ∈ all) (fault : Fault) :
    Quotes [fault.message] (service.probe.faultResult fault) := by
  refine ⟨by simp [Probe.faultResult, Probe.unknown], ?_⟩
  have title : service.probe.title = service.title := rfl
  unfold Probe.faultResult Probe.unknown
  dsimp only
  split
  · simp
  · simp [title, newline_mem_failedText known]

/-! What a reply brings along. -/

theorem parse_error_plain (raw : Bytes) : ∀ text ∈ (Response.parse raw).error, '\n' ∉ text := by
  intro text told
  unfold Response.parse Response.ofError at told
  split at told
  · cases told
    decide
  split at told
  · cases told
    simp
  · cases told

/-- A reply that brings a line feed into the status line: a failure by its message, a response by
what is shown of its body. -/
inductive Broken (service : Service) (quotes : Probe.Options → Text → List Text)
    (options : Probe.Options) : Reply → Prop where
  | failure (family : Family) {message : Text} (broken : '\n' ∈ message) :
    Broken service quotes options (.failure family message)
  | body {raw : Bytes} {result : CheckResult} {text : Text}
    (usable : isUsable (.parse raw) = true)
    (judged : service.judge options (.parse raw) = .ok result)
    (shown : text ∈ quotes options (Response.parse raw).body) (broken : '\n' ∈ text) :
    Broken service quotes options (.bytes raw)

variable {service : Service} {quotes : Probe.Options → Text → List Text}

theorem mem_all_of_quoting (known : (service, quotes) ∈ quoting) : service ∈ all := by
  rw [← quoting_all]
  exact List.mem_map_of_mem known

theorem judged_bytes_breaks (known : (service, quotes) ∈ quoting) (options : Probe.Options)
    (raw : Bytes) :
    '\n' ∈ (service.probe.resultOf (service.judged options (.bytes raw))).statusLine ↔
      Broken service quotes options (.bytes raw) := by
  rw [judged_bytes]
  cases judged : service.judge options (.parse raw) with
  | error cause =>
    have fault := faultResult_quotes (mem_all_of_quoting known) (.outOfRange cause)
    refine iff_of_false ?_ ?_
    · rw [Fault.ofNumber, Probe.resultOf, fault.statusLine]
      rintro ⟨text, shown, broken⟩
      obtain rfl := List.mem_singleton.mp shown
      exact cause.newline_not_mem_message broken
    · rintro (_ | ⟨_, found, _, _⟩)
      rw [judged] at found
      cases found
  | ok result =>
    rw [Fault.ofNumber, Probe.resultOf, (judge_quotes known options _ result judged).statusLine]
    by_cases usable : isUsable (.parse raw) = true
    · rw [quoted, if_pos usable]
      constructor
      · rintro ⟨text, shown, broken⟩
        exact .body usable judged shown broken
      · rintro (_ | ⟨_, _, shown, broken⟩)
        exact ⟨_, shown, broken⟩
    · rw [quoted, if_neg usable]
      refine iff_of_false ?_ ?_
      · rintro ⟨text, shown, broken⟩
        split at shown
        · exact parse_error_plain raw text (Option.mem_toList.mp shown) broken
        · cases shown
      · rintro (_ | ⟨fit, _, _, _⟩)
        exact usable fit

theorem judged_failure_breaks (known : (service, quotes) ∈ quoting) (options : Probe.Options)
    (family : Family) (message : Text) :
    '\n' ∈ (service.probe.resultOf
        (service.judged options (.failure family message))).statusLine ↔ '\n' ∈ message := by
  by_cases ofTransport : family.isTransport = true
  · -- The failure is a response without a body, which shows the message as its reason.
    have noReply : (Response.ofError message).failed = true := rfl
    obtain ⟨result, judged⟩ : ∃ result, service.judge options (.ofError message) = .ok result :=
      judge_failed (mem_all_of_quoting known) noReply
    rw [judged_failure ofTransport, judged, Fault.ofNumber, Probe.resultOf,
      (judge_quotes known options _ result judged).statusLine]
    simp [quoted, isUsable, Response.failed, Response.ofError]
  · rw [judged_reported ofTransport, Probe.resultOf, (faultResult_quotes (mem_all_of_quoting known) _).statusLine]
    simp only [List.mem_singleton, exists_eq_left]
    rfl

theorem judged_breaks (known : (service, quotes) ∈ quoting) (options : Probe.Options)
    (reply : Reply) :
    '\n' ∈ (service.probe.resultOf (service.judged options reply)).statusLine ↔
      Broken service quotes options reply := by
  cases reply with
  | bytes raw => exact judged_bytes_breaks known options raw
  | failure family message =>
    rw [judged_failure_breaks known]
    constructor
    · exact .failure family
    · rintro ⟨_, broken⟩
      exact broken

/-! The output of a run. -/

/-- The ways in which a line feed gets into the status line of a run: with a word of a command line
that cannot be read, with what keeps the request from being sent, or with the reply. -/
inductive Breaks (service : Service) (quotes : Probe.Options → Text → List Text)
    (tls : Capability) (replies : Replies) (files : Files) (words : List Text) : Prop where
  | misread {error : CommandLine.UsageError} {text : Text}
    (stopped : service.offer.parse words = .error (.usage error))
    (shown : text ∈ error.verbatim) (broken : '\n' ∈ text)
  | unasked {options : Probe.Options} {fault : Fault}
    (accepted : service.offer.parse words = .ok options)
    (fit : service.offer.rejections options = [])
    (refused : (options.fitFor tls).request files (service.path (options.fitFor tls)) =
      .error fault)
    (broken : fault.Breaks)
  | answered {options : Probe.Options} {wire : Wire}
    (accepted : service.offer.parse words = .ok options)
    (sent : wire ∈ (service.probe.run files (.scripted tls replies) words).journal.exchanges)
    (broken : Broken service quotes (options.fitFor tls)
      (replies.find (requestedPath wire.payload)))

/-- A result is one line with its end if its status line has no further one. -/
theorem reportText_one_line (result : CheckResult) :
    (Probe.reportText result).count '\n' = 1 ∧ (Probe.reportText result).getLast? = some '\n' ↔
      ¬ '\n' ∈ result.statusLine := by
  simp [Probe.reportText, List.count_eq_zero]

variable {tls : Capability} {replies : Replies} {files : Files} {words : List Text}
  {options : Probe.Options}

theorem misread_breaks (known : service ∈ all) {error : CommandLine.UsageError}
    (stopped : service.offer.parse words = .error (.usage error)) :
    '\n' ∈ (Probe.usageResult service.offer error).statusLine ↔
      Breaks service quotes tls replies files words := by
  rw [(usageResult_quotes known stopped).statusLine]
  constructor
  · rintro ⟨text, shown, broken⟩
    exact .misread stopped shown broken
  · rintro (⟨found, shown, broken⟩ | ⟨accepted, _, _, _⟩ | ⟨accepted, _, _⟩)
    · rw [stopped] at found
      cases found
      exact ⟨_, shown, broken⟩
    · rw [stopped] at accepted
      cases accepted
    · rw [stopped] at accepted
      cases accepted

theorem rejected_holds (accepted : service.offer.parse words = .ok options)
    (unfit : service.offer.rejections options ≠ []) (noDebug : options.debug = false) :
    ¬ Breaks service quotes tls replies files words := by
  rintro (⟨stopped, _, _⟩ | ⟨found, fit, _, _⟩ | ⟨_, sent, _⟩)
  · rw [accepted] at stopped
    cases stopped
  · rw [accepted] at found
    cases found
    exact unfit fit
  · have run_eq : service.probe.run files (.scripted tls replies) words =
        Probe.finish (Probe.rejectedResult service.probe options) :=
      Probe.run_rejected accepted unfit noDebug
    rw [run_eq] at sent
    exact List.not_mem_nil sent

theorem unasked_breaks (known : service ∈ all)
    (accepted : service.offer.parse words = .ok options)
    (fit : service.offer.rejections options = []) {fault : Fault}
    (refused : (options.fitFor tls).request files (service.path (options.fitFor tls)) =
      .error fault)
    (silent : (service.probe.run files (.scripted tls replies) words).journal.exchanges = []) :
    '\n' ∈ (service.probe.faultResult fault).statusLine ↔
      Breaks service quotes tls replies files words := by
  rw [(faultResult_quotes known fault).statusLine]
  simp only [List.mem_singleton, exists_eq_left]
  rw [Probe.Options.request_fault refused]
  constructor
  · exact .unasked accepted fit refused
  · rintro (⟨stopped, _, _⟩ | ⟨found, _, failed, broken⟩ | ⟨_, sent, _⟩)
    · rw [accepted] at stopped
      cases stopped
    · rw [accepted] at found
      cases found
      rw [refused] at failed
      cases failed
      exact broken
    · rw [silent] at sent
      cases sent

theorem answered_breaks (known : (service, quotes) ∈ quoting)
    (accepted : service.offer.parse words = .ok options) {request : Http.Request} {wire : Wire}
    (built : (options.fitFor tls).request files (service.path (options.fitFor tls)) = .ok request)
    (one : (service.probe.run files (.scripted tls replies) words).journal.exchanges = [wire]) :
    '\n' ∈ (service.probe.resultOf (service.judged (options.fitFor tls)
        (replies.find (requestedPath wire.payload)))).statusLine ↔
      Breaks service quotes tls replies files words := by
  rw [judged_breaks known]
  constructor
  · intro broken
    exact .answered accepted (by simp [one]) broken
  · rintro (⟨stopped, _, _⟩ | ⟨found, _, failed, _⟩ | ⟨found, sent, broken⟩)
    · rw [accepted] at stopped
      cases stopped
    · rw [accepted] at found
      cases found
      rw [built] at failed
      cases failed
    · rw [accepted] at found
      cases found
      obtain rfl := List.mem_singleton.mp (one ▸ sent)
      exact broken

/-- The output of a run is one line with its end, unless a line feed from outside gets into it. -/
theorem run_writes_one_line_iff (known : (service, quotes) ∈ quoting) (tls : Capability)
    (replies : Replies) (files : Files) (words : List Text)
    (noHelp : service.offer.asksHelp words = false)
    (noDebug : service.offer.debugs words = false) :
    let output := (service.probe.run files (.scripted tls replies) words).journal.output
    (output.count '\n' = 1 ∧ output.getLast? = some '\n') ↔
      ¬ Breaks service quotes tls replies files words := by
  intro output
  have offered : service ∈ all := mem_all_of_quoting known
  have one_line {result : CheckResult}
      (reports : Probe.Reports (service.probe.run files (.scripted tls replies) words) result)
      (breaks : '\n' ∈ result.statusLine ↔ Breaks service quotes tls replies files words) :
      (output.count '\n' = 1 ∧ output.getLast? = some '\n') ↔
        ¬ Breaks service quotes tls replies files words := by
    have written : output = Probe.reportText result := reports.output
    rw [written, reportText_one_line, breaks]
  -- The ways through a run, in the order in which they part.
  rcases Probe.Offer.parse_cases noHelp noDebug with
    ⟨error, stopped⟩ | ⟨options, accepted, quietMode⟩
  · have reports : Probe.Reports (service.probe.run files (.scripted tls replies) words)
        (Probe.usageResult service.offer error) := Probe.usage_reports stopped
    exact one_line reports (misread_breaks offered stopped)
  by_cases fit : service.offer.rejections options = []
  · rcases run_scripted accepted fit quietMode with
      ⟨fault, refused, silent, returns⟩ | ⟨request, wire, built, one, returns⟩
    · exact one_line returns.reports (unasked_breaks offered accepted fit refused silent)
    · exact one_line returns.reports (answered_breaks known accepted built one)
  · have line : '\n' ∉ (Probe.rejectedResult service.probe options).statusLine := by
      simp [(rejectedResult_quotes offered options).statusLine]
    have returns : Probe.Returns (service.probe.run files (.scripted tls replies) words)
        (Probe.rejectedResult service.probe options) :=
      Probe.rejected_returns accepted fit quietMode
    exact one_line returns.reports (iff_of_false line (rejected_holds accepted fit quietMode))

/-- A word that nobody asked for is shown with its line feed. -/
theorem apache_writes_two_lines :
    let words : List Text := ["-H", "web", "one\ntwo"]
    let output := (apache.probe.run [] (.scripted { available := true } {}) words).journal.output
    (apache, fun _ _ => []) ∈ quoting ∧ apache.offer.asksHelp words = false ∧
      apache.offer.debugs words = false ∧
      Breaks apache (fun _ _ => []) { available := true } {} [] words ∧
      ¬ (output.count '\n' = 1 ∧ output.getLast? = some '\n') := by
  intro words output
  have known : (apache, fun _ _ => []) ∈ quoting := List.mem_cons_self
  have noHelp : apache.offer.asksHelp words = false := by decide
  have noDebug : apache.offer.debugs words = false := by decide
  have stopped : apache.offer.parse words =
      .error (.usage (.unrecognized ["one\ntwo".toList])) := rfl
  have breaks : Breaks apache (fun _ _ => []) { available := true } {} [] words :=
    .misread stopped List.mem_cons_self (by decide)
  have exact_condition := run_writes_one_line_iff known { available := true } {} [] words noHelp noDebug
  exact ⟨known, noHelp, noDebug, breaks, fun one => exact_condition.mp one breaks⟩

/-- A version with a line feed, in an accepted response, is shown with it. -/
theorem grafana_writes_two_lines :
    let words : List Text := ["-H", "h", "--check", "version"]
    let raw := Utf8.encode
      "HTTP/1.1 200 OK\r\nContent-Type: application/json\r\n\r\n\x7b\"version\":\"1\n2\"\x7d"
    let run := grafana.probe.run [] (.scripted { available := true }
      { otherwise := some (.bytes raw) }) words
    grafana ∈ all ∧ grafana.offer.asksHelp words = false ∧ grafana.offer.debugs words = false ∧
      run.journal.output = "OK: Version: 1\n2\n".toList ∧ run.journal.output.count '\n' = 2 := by
  intro words raw run
  have known : grafana ∈ all := by simp [all, named]
  have output : run.journal.output = "OK: Version: 1\n2\n".toList := by
    rw [String.toList_ofList]
    decide +kernel
  exact ⟨known, by decide, by decide, output, by rw [output, String.toList_ofList]; decide⟩

end ServiceProbe.Service
